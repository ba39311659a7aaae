import CsdlHighlight.Machine

/-!
Contract: the program.

Owns: its start on the machine.

Does not own: any command.
-/

open CsdlHighlight

def main : IO UInt32 := do
  let ends ← runProgram (← Machine.surroundings) Machine.writer Machine.output
    (← Machine.arguments)
  Machine.finish ends

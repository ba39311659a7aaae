import CsdlHighlight.Path

/-!
Contract: the environment of a process.

Owns:
- its variables, as the block of `NAME=value` entries in which they are handed
  over;
- the home directory;
- `Host`, what else a process can find out about itself.

Does not own: the expansion of paths.
-/

namespace CsdlHighlight

/-- The entries `NAME=value` of a process, and the home directory of the
account it runs for. -/
structure Environment where
  block : List Bytes
  accountHome : Option Bytes
deriving DecidableEq, Repr

namespace Environment

def equalsSign : UInt8 := 0x3D

/-- What stands behind the name and the sign in an entry of that name. -/
def valueIn? (name entry : Bytes) : Option Bytes :=
  if (name ++ [equalsSign]).isPrefixOf entry then
    some (entry.drop (name.length + 1))
  else
    none

/-- The bytes of a variable: those of the first entry with its name. -/
def bytes? (environment : Environment) (name : Bytes) : Option Bytes :=
  if name.isEmpty || name.contains 0 then
    none
  else
    environment.block.findSome? (valueIn? name)

/-- The value of a variable as text.  Bytes that are no text count as unset. -/
def value? (environment : Environment) (name : Text) : Option Text :=
  (environment.bytes? (Utf8.encode name)).bind Utf8.decode?

/-- The home directory: that of the variable, or that of the account when the
variable is unset or empty. -/
def home? (environment : Environment) : Option Text :=
  let home :=
    match environment.bytes? (Utf8.encode "HOME".toList) with
    | some (first :: rest) => some (first :: rest)
    | _ => environment.accountHome
  home.bind Utf8.decode?

end Environment

/-- What shows of a process besides its environment: the number of its main
thread, its stack in writing, and whether its output is read on a terminal. -/
structure Host where
  thread : Nat
  stack : Text
  onTerminal : Bool
deriving DecidableEq, Repr

end CsdlHighlight

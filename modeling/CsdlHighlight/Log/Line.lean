import CsdlHighlight.Log
import CsdlHighlight.Text.Utf8

/-!
Contract: log records as lines for the user of a command.

Owns:
- the states of a terminal between two characters, and the removal of its
  control sequences from a text;
- the line of a record.

Does not own: which records get a line, and other output of a command, which is
shown as it is.
-/

namespace CsdlHighlight

/-! ## Control sequences -/

inductive TerminalState where
  /-- In plain text. -/
  | text
  /-- Behind an escape. -/
  | escape
  /-- In an escape sequence with intermediate characters. -/
  | intermediate
  /-- In a control sequence. -/
  | control
  /-- In a command of the operating system. -/
  | command
  /-- At the head of a string for a device. -/
  | device
  /-- In the parameters of such a string. -/
  | deviceParameters
  /-- In the intermediate characters of such a string. -/
  | deviceIntermediate
  /-- In any other string that a terminal does not show. -/
  | string
deriving DecidableEq, Repr

namespace TerminalState

/-- Whether a character moves the cursor but is kept in a text. -/
def isLayout (character : Char) : Bool :=
  character == '\t' || character == '\n' || character == '\x0c' ||
    character == '\r'

def isShown (character : Char) : Bool :=
  isLayout character || (0x20 ≤ character.toNat && character.toNat != 0x7F)

def afterEscape (character : Char) : TerminalState :=
  let code := character.toNat
  if character = '[' then .control
  else if character = ']' then .command
  else if character = 'P' then .device
  else if character = 'X' ∨ character = '^' ∨ character = '_' then .string
  else if 0x20 ≤ code ∧ code ≤ 0x2F then .intermediate
  else if 0x30 ≤ code ∧ code ≤ 0x7E then .text
  else .escape

/-- The state of a string for a device after a character behind its `state`;
`parameters` is the last character that its parameters go on with. -/
def afterDevice (state : TerminalState) (parameters : Nat) (code : Nat) :
    TerminalState :=
  if 0x20 ≤ code ∧ code ≤ 0x2F then .deviceIntermediate
  else if 0x30 ≤ code ∧ code ≤ parameters then .deviceParameters
  else if 0x30 ≤ code ∧ code ≤ 0x7E then .string
  else state

/-- The state after a character.  An escape, a cancel and a substitute have one
meaning everywhere, and a character that means nothing in a state changes
nothing. -/
def after (state : TerminalState) (character : Char) : TerminalState :=
  let code := character.toNat
  if code = 0x1B then .escape
  else if code = 0x18 ∨ code = 0x1A then .text
  else
    match state with
    | .text => .text
    | .escape => afterEscape character
    | .intermediate => if 0x30 ≤ code ∧ code ≤ 0x7E then .text else state
    | .control => if 0x40 ≤ code ∧ code ≤ 0x7E then .text else state
    | .command => if code = 0x07 then .text else state
    | .device => afterDevice state 0x3F code
    | .deviceParameters => afterDevice state 0x3B code
    | .deviceIntermediate => afterDevice state 0x2F code
    | .string =>
        if (Utf8.encodeChar character).contains 0x9C then .text else state

def keeps (state : TerminalState) (character : Char) : Bool :=
  match state with
  | .text => isShown character
  | .escape => isLayout character
  | .intermediate => isLayout character
  | .control => isLayout character
  | _ => false

/-- The state behind a character that has been kept.  Only one past the first
128 ends the sequence in which it stands. -/
def afterKept (state : TerminalState) (character : Char) : TerminalState :=
  if character.toNat < 0x80 then state else .text

/-- What a terminal shows of a text, without any effect on how it is shown.
Once a character has been kept, even one inside a sequence, all text up to the
next control character is kept, which is what `running` stands for; the sequence
goes on behind it. -/
def shown (running : Bool) (state : TerminalState) : Text → Text
  | [] => []
  | character :: rest =>
      if (running && isShown character) || state.keeps character then
        character :: shown true (state.afterKept character) rest
      else
        shown false (state.after character) rest

end TerminalState

/-! ## Lines -/

namespace LogRecord

def levelWidth : Nat := 5

def padded (width : Nat) (text : Text) : Text :=
  text ++ List.replicate (width - text.length) ' '

/-- A message of several lines, all but the first moved to the right. -/
def indented (message : Text) : Text :=
  message.flatMap fun character =>
    if character = '\n' then '\n' :: List.replicate 4 ' ' else [character]

def line (entry : LogRecord) : Text :=
  TerminalState.shown false .text
    ('[' :: (padded levelWidth entry.level.name ++
      ' ' :: (entry.source ++ "] ".toList ++ indented entry.message ++ ['\n'])))

end LogRecord

end CsdlHighlight

import CsdlHighlight.Text.Blank

/-!
Contract: the characters of a text in the form in which they are read, and a
reader that always knows whether the character it yields is the last one.

Owns:
- `CharSequence`, a trimmed text closed by one blank;
- `Step` and `CharSequence.steps`, the whole reading at once;
- `Traversal`, the same reading one step at a time with one character of
  look-ahead, and its bounds on what is still to come.

Does not own: any meaning of the characters.
-/

namespace CsdlHighlight

/-- The blank that closes every sequence, so that each word is followed by a
delimiter. -/
def trailingDelimiter : Char := ' '

structure CharSequence where
  characters : Text
deriving DecidableEq, Repr

/-- One character of a reading, with the knowledge whether another follows. -/
structure Step where
  character : Char
  isTerminal : Bool
deriving DecidableEq, Repr

namespace CharSequence

/-- The sequence of a text: its trimmed characters and a closing blank.  A text
of blanks alone has the empty sequence. -/
def ofText (text : Text) : CharSequence :=
  if (Text.trim text).isEmpty then
    ⟨[]⟩
  else
    ⟨Text.trim text ++ [trailingDelimiter]⟩

def length (sequence : CharSequence) : Nat :=
  sequence.characters.length

def isEmpty (sequence : CharSequence) : Bool :=
  sequence.characters.isEmpty

/-- Mark the last of some characters as terminal. -/
def stepsOf : Text → List Step
  | [] => []
  | character :: rest => ⟨character, rest.isEmpty⟩ :: stepsOf rest

def steps (sequence : CharSequence) : List Step :=
  stepsOf sequence.characters

end CharSequence

/-- What a traversal has taken from its source without yielding it yet. -/
inductive Lookahead where
  | unread
  | ended
  | character (next : Char)
deriving DecidableEq, Repr

/-- A reading in progress.  The source is one character ahead of the steps
yielded as soon as the first step has been taken. -/
structure Traversal where
  lookahead : Lookahead
  source : Text
deriving DecidableEq, Repr

namespace Traversal

def start (sequence : CharSequence) : Traversal :=
  ⟨.unread, sequence.characters⟩

/-- Take one character from the source into the look-ahead. -/
def peek : Text → Traversal
  | [] => ⟨.ended, []⟩
  | character :: rest => ⟨.character character, rest⟩

/-- Yield a character, after looking at the one behind it. -/
def yielding (character : Char) (source : Text) : Step × Traversal :=
  let ahead := peek source
  (⟨character, ahead.lookahead == .ended⟩, ahead)

/-- The next step and the reading after it, unless the source has ended. -/
def next? (traversal : Traversal) : Option (Step × Traversal) :=
  match traversal.lookahead, traversal.source with
  | .character character, source => some (yielding character source)
  | .unread, character :: source => some (yielding character source)
  | .unread, [] => none
  | .ended, _ => none

/-- The lower and the upper bound on the number of steps still to come. -/
def bounds (traversal : Traversal) : Nat × Nat :=
  match traversal.lookahead with
  | .unread => (traversal.source.length, traversal.source.length)
  | .ended => (0, 0)
  | .character _ => (traversal.source.length + 1, traversal.source.length + 1)

/-- At most `count` further steps, each with the bounds after it. -/
def trace : Nat → Traversal → List (Step × Nat × Nat)
  | 0, _ => []
  | count + 1, traversal =>
      match traversal.next? with
      | some (step, rest) => (step, rest.bounds) :: trace count rest
      | none => []

end Traversal

namespace CharSequence

def trace (sequence : CharSequence) : List (Step × Nat × Nat) :=
  (Traversal.start sequence).trace (sequence.length + 1)

end CharSequence

end CsdlHighlight

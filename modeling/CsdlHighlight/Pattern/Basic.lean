import CsdlHighlight.Text.CodePoints

/-!
Contract: patterns of texts, as meant and not as written.

Owns:
- `Anchor`, the conditions on a place in a text;
- `Pattern`, and the ways to build one pattern from others.

Does not own: the written form of a pattern, and the search for a match.
-/

namespace CsdlHighlight

open Text (Intervals)

/-- What stands on both sides of a place in a text. -/
structure Gap where
  before : Option Char
  behind : Option Char
deriving DecidableEq, Repr

inductive WordAnchor where
  /-- A word begins or ends here. -/
  | border
  | inside
  | start
  | stop
  /-- No word stands before. -/
  | startHalf
  /-- No word stands behind. -/
  | stopHalf
deriving DecidableEq, Repr

namespace WordAnchor

/-- Whether a condition holds between two sides that belong to a word or do
not. -/
def holds (anchor : WordAnchor) (before behind : Bool) : Bool :=
  match anchor with
  | .border => before != behind
  | .inside => before == behind
  | .start => !before && behind
  | .stop => before && !behind
  | .startHalf => !before
  | .stopHalf => !behind

end WordAnchor

inductive Anchor where
  | start
  | stop
  /-- The start of a line.  Where `returns` holds, a carriage return ends a line
  too, alone or together with the line feed behind it. -/
  | lineStart (returns : Bool)
  | lineStop (returns : Bool)
  /-- A condition on words of the given characters. -/
  | word (condition : WordAnchor) (characters : Intervals)
deriving DecidableEq, Repr

namespace Anchor

def isOneOf (characters : Intervals) (side : Option Char) : Bool :=
  side.any fun character => characters.covers character.toNat

def holds (anchor : Anchor) (gap : Gap) : Bool :=
  match anchor with
  | .start => gap.before.isNone
  | .stop => gap.behind.isNone
  | .lineStart false => gap.before.all (· == '\n')
  | .lineStart true =>
      gap.before.all fun before =>
        before == '\n' || before == '\r' && gap.behind != some '\n'
  | .lineStop false => gap.behind.all (· == '\n')
  | .lineStop true =>
      gap.behind.all fun behind =>
        behind == '\r' || behind == '\n' && gap.before != some '\r'
  | .word condition characters =>
      condition.holds (isOneOf characters gap.before) (isOneOf characters gap.behind)

end Anchor

inductive Pattern where
  /-- The empty text, anywhere. -/
  | empty
  /-- One character of a set. -/
  | one (set : Intervals)
  /-- The empty text, where a condition holds. -/
  | anchor (condition : Anchor)
  | both (first second : Pattern)
  | either (first second : Pattern)
  /-- So many repetitions at least, and at most so many if there is a bound. -/
  | repeated (pattern : Pattern) (least : Nat) (most : Option Nat)
  /-- A pattern whose match is told apart from what stands around it. -/
  | group (pattern : Pattern)
deriving DecidableEq, Repr

namespace Pattern

def andThen (first second : Pattern) : Pattern :=
  if first = .empty then second
  else if second = .empty then first
  else .both first second

def isWidthless : Pattern → Bool
  | .empty => true
  | .one _ => false
  | .anchor _ => true
  | .both first second => isWidthless first && isWidthless second
  | .either first second => isWidthless first && isWidthless second
  | .repeated pattern _ _ => isWidthless pattern
  | .group pattern => isWidthless pattern

/-- A pattern repeated.  More than one empty match says no more than one does. -/
def times (pattern : Pattern) (least : Nat) (most : Option Nat) : Pattern :=
  let bounds :=
    if pattern.isWidthless then (min least 1, some (min (most.getD 1) 1))
    else (least, most)
  match bounds with
  | (_, some 0) => .empty
  | (1, some 1) => pattern
  | (least, most) => .repeated pattern least most

end Pattern

end CsdlHighlight

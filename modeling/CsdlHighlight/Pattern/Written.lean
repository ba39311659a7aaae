import CsdlHighlight.Pattern.Basic
import CsdlHighlight.Pattern.Fault
import CsdlHighlight.Unicode.Query

/-!
Contract: patterns as written, with the place of every part.

Owns:
- `PatternFlag` and its changes;
- `Atom`, `WrittenSet` and `WrittenPattern`;
- the depth of a written pattern.

Does not own: the reading of a text, and what a written pattern means.
-/

namespace CsdlHighlight

open Unicode (PropertyQuery)

/-! ## Flags -/

inductive PatternFlag where
  /-- Letter case makes no difference. -/
  | caseless
  /-- Lines have starts and ends of their own. -/
  | lines
  /-- The full stop stands for line feeds too. -/
  | dotAll
  /-- Repetitions prefer few rounds where they else prefer many. -/
  | swapped
  /-- Characters are those of Unicode, and not those of ASCII. -/
  | unicode
  /-- Carriage returns end lines too. -/
  | returns
  /-- Blanks mean nothing, and remarks stand behind number signs. -/
  | loose
deriving DecidableEq, Repr

namespace PatternFlag

def ofLetter? (letter : Char) : Option PatternFlag :=
  match letter with
  | 'i' => some .caseless
  | 'm' => some .lines
  | 's' => some .dotAll
  | 'U' => some .swapped
  | 'u' => some .unicode
  | 'R' => some .returns
  | 'x' => some .loose
  | _ => none

end PatternFlag

structure FlagChange where
  flag : PatternFlag
  isOn : Bool
deriving DecidableEq, Repr

namespace FlagChange

def apply (changes : List FlagChange) (flag : PatternFlag) (before : Bool) : Bool :=
  match changes.find? fun change => change.flag = flag with
  | some change => change.isOn
  | none => before

end FlagChange

/-! ## Atoms -/

/-- A character as written.  One given by two hexadecimal digits may stand for a
byte. -/
structure WrittenChar where
  character : Char
  isByte : Bool
  span : Span
deriving DecidableEq, Repr

/-- A letter that stands for a set of characters. -/
inductive Shorthand where
  | digit
  | blank
  | word
deriving DecidableEq, Repr

inductive AnchorSign where
  | caret
  | dollar
  | textStart
  | textStop
  | word (condition : WordAnchor)
deriving DecidableEq, Repr

inductive Atom where
  | character (character : WrittenChar)
  /-- Any character. -/
  | any
  | anchor (sign : AnchorSign)
  | shorthand (kind : Shorthand) (isNegated : Bool)
  | property (query : PropertyQuery) (isNegated : Bool)
deriving DecidableEq, Repr

/-! ## Sets -/

inductive AsciiSet where
  | alnum
  | alpha
  | ascii
  | blank
  | cntrl
  | digit
  | graph
  | lower
  | print
  | punct
  | space
  | upper
  | word
  | xdigit
deriving DecidableEq, Repr

namespace AsciiSet

def ofName? (name : Text) : Option AsciiSet :=
  [("alnum", alnum), ("alpha", alpha), ("ascii", ascii), ("blank", blank),
    ("cntrl", cntrl), ("digit", digit), ("graph", graph), ("lower", lower),
    ("print", print), ("punct", punct), ("space", space), ("upper", upper),
    ("word", word), ("xdigit", xdigit)].findSome? fun (known, set) =>
      if known.toList = name then some set else none

def codes : AsciiSet → Text.Intervals
  | alnum => [(0x30, 0x39), (0x41, 0x5A), (0x61, 0x7A)]
  | alpha => [(0x41, 0x5A), (0x61, 0x7A)]
  | ascii => [(0, 0x7F)]
  | blank => [(9, 9), (0x20, 0x20)]
  | cntrl => [(0, 0x1F), (0x7F, 0x7F)]
  | digit => [(0x30, 0x39)]
  | graph => [(0x21, 0x7E)]
  | lower => [(0x61, 0x7A)]
  | print => [(0x20, 0x7E)]
  | punct => [(0x21, 0x2F), (0x3A, 0x40), (0x5B, 0x60), (0x7B, 0x7E)]
  | space => [(9, 13), (0x20, 0x20)]
  | upper => [(0x41, 0x5A)]
  | word => [(0x30, 0x39), (0x41, 0x5A), (0x5F, 0x5F), (0x61, 0x7A)]
  | xdigit => [(0x30, 0x39), (0x41, 0x46), (0x61, 0x66)]

end AsciiSet

inductive SetOperation where
  | meet
  | without
  | difference
deriving DecidableEq, Repr

inductive WrittenSet where
  | nothing (spot : Spot)
  | character (character : WrittenChar)
  | range (first last : WrittenChar)
  | shorthand (kind : Shorthand) (isNegated : Bool) (span : Span)
  | property (query : PropertyQuery) (isNegated : Bool) (span : Span)
  | ascii (set : AsciiSet) (isNegated : Bool) (span : Span)
  | bracketed (isNegated : Bool) (body : WrittenSet) (span : Span)
  | union (items : List WrittenSet) (span : Span)
  | operation (kind : SetOperation) (left right : WrittenSet)
deriving Repr

namespace WrittenSet

def span : WrittenSet → Span
  | .nothing spot => ⟨spot, spot⟩
  | .character char => char.span
  | .range first last => first.span.through last.span
  | .shorthand _ _ span => span
  | .property _ _ span => span
  | .ascii _ _ span => span
  | .bracketed _ _ span => span
  | .union _ span => span
  | .operation _ left right => left.span.through right.span

/-- The set of some items.  Without any it stands at a place. -/
def ofItems (spot : Spot) (items : List WrittenSet) : WrittenSet :=
  match items with
  | [] => .nothing spot
  | [item] => item
  | first :: rest =>
      .union items (first.span.through ((rest.getLast?.getD first).span))

mutual

def deep? (room : Nat) : WrittenSet → Option Span
  | .bracketed _ body span =>
      match room with
      | 0 => some span
      | room + 1 => deep? room body
  | .union items span =>
      match room with
      | 0 => some span
      | room + 1 => deepItem? room items
  | .operation _ left right =>
      match room with
      | 0 => some (left.span.through right.span)
      | room + 1 => (deep? room left).or (deep? room right)
  | _ => none

def deepItem? (room : Nat) : List WrittenSet → Option Span
  | [] => none
  | item :: rest => (deep? room item).or (deepItem? room rest)

end

end WrittenSet

/-! ## Patterns -/

inductive WrittenPattern where
  | nothing (spot : Spot)
  | atom (atom : Atom) (span : Span)
  | set (set : WrittenSet)
  /-- Flags for all that stands behind, up to the end of the group. -/
  | flags (changes : List FlagChange) (span : Span)
  | repeated (pattern : WrittenPattern) (least : Nat) (most : Option Nat) (span : Span)
  /-- A group, with flags for its body.  Its match may be told apart from what
  stands around it. -/
  | group (isApart : Bool) (changes : List FlagChange) (body : WrittenPattern) (span : Span)
  | sequence (parts : List WrittenPattern) (span : Span)
  | choice (branches : List WrittenPattern) (span : Span)
deriving Repr

namespace WrittenPattern

def span : WrittenPattern → Span
  | .nothing spot => ⟨spot, spot⟩
  | .atom _ span => span
  | .set codes => codes.span
  | .flags _ span => span
  | .repeated _ _ _ span => span
  | .group _ _ _ span => span
  | .sequence _ span => span
  | .choice _ span => span

def ofParts (parts : List WrittenPattern) (span : Span) : WrittenPattern :=
  match parts with
  | [] => .nothing span.start
  | [part] => part
  | _ => .sequence parts span

def isRepeatable : WrittenPattern → Bool
  | .nothing _ => false
  | .flags _ _ => false
  | _ => true

mutual

def deep? (room : Nat) : WrittenPattern → Option Span
  | .set codes => codes.deep? room
  | .repeated pattern _ _ span =>
      match room with
      | 0 => some span
      | room + 1 => deep? room pattern
  | .group _ _ body span =>
      match room with
      | 0 => some span
      | room + 1 => deep? room body
  | .sequence parts span =>
      match room with
      | 0 => some span
      | room + 1 => deepPart? room parts
  | .choice branches span =>
      match room with
      | 0 => some span
      | room + 1 => deepPart? room branches
  | _ => none

def deepPart? (room : Nat) : List WrittenPattern → Option Span
  | [] => none
  | part :: rest => (deep? room part).or (deepPart? room rest)

end

end WrittenPattern

end CsdlHighlight

import CsdlHighlight.Text.Basic

/-!
Contract: sets of code points as lists of closed intervals.

Owns:
- the type of such lists and the membership test;
- sums, common parts, differences and complements of sets;
- the written tables of sets.

Does not own: any particular table; each property has a module of its own.
-/

namespace CsdlHighlight.Text

/-- A set of code points as closed intervals `(first, last)`. -/
abbrev Intervals := List (Nat × Nat)

namespace Intervals

def holds (intervals : Intervals) (character : Char) : Bool :=
  intervals.any fun (first, last) =>
    first ≤ character.toNat && character.toNat ≤ last

/-! ## Ascending intervals

The operations below take and give intervals in ascending order, of which no two
touch. -/

/-- Whether a code point lies in one of ascending intervals. -/
def covers : Intervals → Nat → Bool
  | [], _ => false
  | (first, last) :: rest, code =>
      first ≤ code && (code ≤ last || covers rest code)

/-- Join an interval with those behind it that overlap it or touch it. -/
def joinTo (first last : Nat) : Intervals → Intervals
  | [] => [(first, last)]
  | (next, final) :: rest =>
      if next ≤ last + 1 then
        joinTo first (max last final) rest
      else
        (first, last) :: joinTo next final rest

def joined : Intervals → Intervals
  | [] => []
  | (first, last) :: rest => joinTo first last rest

def ofList (intervals : Intervals) : Intervals :=
  joined (intervals.mergeSort fun left right => left.1 ≤ right.1)

def union (left right : Intervals) : Intervals :=
  joined (List.merge left right fun one other => one.1 ≤ other.1)

def meet : Intervals → Intervals → Intervals
  | [], _ => []
  | _, [] => []
  | (first, last) :: rest, (next, final) :: others =>
      let behind :=
        if last < final then meet rest ((next, final) :: others)
        else meet ((first, last) :: rest) others
      if max first next ≤ min last final then
        (max first next, min last final) :: behind
      else
        behind
termination_by left right => left.length + right.length

/-- What lies outside a set, from a code point on up to a last one. -/
def gaps (next last : Nat) : Intervals → Intervals
  | [] => if next ≤ last then [(next, last)] else []
  | (first, final) :: rest =>
      if next < first then (next, first - 1) :: gaps (final + 1) last rest
      else gaps (final + 1) last rest

def lastCode : Nat := 0x10FFFF

def without (left right : Intervals) : Intervals :=
  meet left (gaps 0 lastCode right)

/-- What is in exactly one of two sets. -/
def difference (left right : Intervals) : Intervals :=
  union (without left right) (without right left)

/-- The code points of all characters; surrogates are none. -/
def everything : Intervals :=
  [(0, 0xD7FF), (0xE000, lastCode)]

def complement (codes : Intervals) : Intervals :=
  without everything codes

/-! ## Tables -/

/-- The intervals of an entry in a table: one code point, an interval with a
hyphen between its ends, or, with a slash there, every second code point. -/
def ofEntry (entry : Text) : Intervals :=
  match (cutAt '-' entry).filterMap hexValue?, (cutAt '/' entry).filterMap hexValue? with
  | [first, last], _ => [(first, last)]
  | _, [first, last] =>
      (List.range ((last - first) / 2 + 1)).map fun index =>
        (first + 2 * index, first + 2 * index)
  | [code], _ => [(code, code)]
  | _, _ => []

/-- The set of a table with hexadecimal entries in ascending order, between which
stand blanks or line feeds. -/
def ofTable (table : String) : Intervals :=
  let entries := (cutAt '\n' table.toList).flatMap (cutAt ' ')
  (entries.filter fun entry => !entry.isEmpty).flatMap ofEntry

end Intervals

end CsdlHighlight.Text

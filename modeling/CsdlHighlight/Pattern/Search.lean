import CsdlHighlight.Pattern.Basic

/-!
Contract: the search for a match of a pattern.

Owns:
- `Places`, sets of places in a text;
- `Route`, a pattern laid along a text, and the places to which it leads;
- `Pattern.occursIn`, whether a match stands anywhere in a text.

Does not own: which of several matches is found, since no answer depends on it.
-/

namespace CsdlHighlight

/-- A set of places in a text: the bit of a place is set if it is in. -/
abbrev Places := Nat

namespace Places

def ofList (marks : List Bool) : Places :=
  marks.foldr (fun mark places => 2 * places + mark.toNat) 0

def upTo (last : Nat) : Places :=
  Nat.pow 2 (last + 1) - 1

/-- The places to which so many rounds lead.  A round that changes nothing is the
last. -/
def rounds (next : Places → Places) : Nat → Places → Places
  | 0, places => places
  | count + 1, places =>
      if next places = places then places else rounds next count (next places)

/-- The places to which at most so many rounds lead, together with those in
`seen`.  The places in `edge` are the ones from which no round has been made. -/
def spread (next : Places → Places) : Nat → Places → Places → Places
  | 0, seen, _ => seen
  | count + 1, seen, edge =>
      let reached := next edge ||| seen
      if reached = seen then seen else spread next count reached (reached ^^^ seen)

end Places

inductive Route where
  | stay
  /-- Past the next character, from some places. -/
  | step (places : Places)
  /-- Only through some places. -/
  | through (places : Places)
  | both (first second : Route)
  | either (first second : Route)
  | repeated (route : Route) (least : Nat) (most : Option Nat)
deriving DecidableEq, Repr

namespace Route

def gaps (before : Option Char) : Text → List Gap
  | [] => [⟨before, none⟩]
  | character :: rest => ⟨before, some character⟩ :: gaps (some character) rest

def ofPattern (text : Text) : Pattern → Route
  | .empty => .stay
  | .one set => .step (.ofList (text.map fun character => set.covers character.toNat))
  | .anchor condition => .through (.ofList ((gaps none text).map condition.holds))
  | .both first second => .both (ofPattern text first) (ofPattern text second)
  | .either first second => .either (ofPattern text first) (ofPattern text second)
  | .repeated pattern least most => .repeated (ofPattern text pattern) least most
  | .group pattern => ofPattern text pattern

/-- The places to which a route leads from others, in a text with at most `limit`
places.  Every round of a repetition that leads anywhere new adds a place, so
there are no more than `limit` of those. -/
def ends (limit : Nat) : Route → Places → Places
  | .stay, places => places
  | .step marks, places => (places &&& marks) <<< 1
  | .through marks, places => places &&& marks
  | .both first second, places => ends limit second (ends limit first places)
  | .either first second, places => ends limit first places ||| ends limit second places
  | .repeated route least most, places =>
      let start := Places.rounds (ends limit route) least places
      let more := match most with
        | some most => most - least
        | none => limit
      Places.spread (ends limit route) more start start

end Route

namespace Pattern

/-- Whether a match stands anywhere in a text. -/
def occursIn (pattern : Pattern) (text : Text) : Bool :=
  (Route.ofPattern text pattern).ends (text.length + 1) (.upTo text.length) != 0

end Pattern

end CsdlHighlight

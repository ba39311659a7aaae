import CsdlHighlight.Pattern.Basic
import CsdlHighlight.Text.Utf8

/-!
Contract: how much memory a pattern takes as an automaton over bytes in UTF-8.

Owns:
- the byte sequences of a set of code points;
- `Pattern.weight`, in bytes, for automata that read forwards or backwards;
- the limit of the weight.

Does not own: the search, which needs no automaton.
-/

namespace CsdlHighlight

open Text (Intervals)

/-! ## Byte sequences -/

/-- Bytes one behind another, each from an interval. -/
abbrev ByteSequence := List (Nat × Nat)

namespace ByteSequence

/-- The sequences for an interval of numbers, of which the first byte shows the
bits above some groups of six.  It is that much more than `lead`. -/
def ofBits (lead : Nat) : Nat → Nat → Nat → List ByteSequence
  | 0, first, last => [[(lead + first, lead + last)]]
  | groups + 1, first, last =>
      let size := 64 ^ (groups + 1)
      let behind (high low top : Nat) : List ByteSequence :=
        (ofBits 0x80 groups low top).map ((lead + high, lead + high) :: ·)
      if first / size = last / size then
        behind (first / size) (first % size) (last % size)
      else
        let isLow := first % size = 0
        let isTop := last % size = size - 1
        let low := if isLow then first / size else first / size + 1
        let top := if isTop then last / size + 1 else last / size
        (if isLow then [] else behind (first / size) (first % size) (size - 1)) ++
          (if low < top then
            [(lead + low, lead + top - 1) :: List.replicate (groups + 1) (0x80, 0xBF)]
          else
            []) ++
          (if isTop then [] else behind (last / size) 0 (last % size))

/-- The sequences for the characters of a set: those of one byte, of two, of
three and of four. -/
def ofCodes (codes : Intervals) : List ByteSequence :=
  let plain (lead groups first last : Nat) : List ByteSequence :=
    (codes.meet (Intervals.everything.meet [(first, last)])).flatMap
      fun (first, last) => ofBits lead groups first last
  plain 0 0 0 0x7F ++ plain 0xC0 1 0x80 0x7FF ++ plain 0xE0 2 0x800 0xFFFF ++
    plain 0xF0 3 0x10000 0x10FFFF

def shared : ByteSequence → ByteSequence → Nat
  | first :: rest, other :: others => if first = other then shared rest others + 1 else 0
  | _, _ => 0

/-- How many nodes it takes to hold ascending sequences, each of which shares its
head with the one before it. -/
def nodes (before : ByteSequence) : List ByteSequence → Nat
  | [] => 0
  | sequence :: rest => sequence.length - shared before sequence + nodes sequence rest

end ByteSequence

/-! ## States -/

/-- The arcs of a state: a byte from an interval leads to the state with a number,
or to the end. -/
abbrev ByteArcs := List ((Nat × Nat) × Option Nat)

namespace ByteArcs

/-- The number of a state, which is added to the others if it is not among them. -/
def place (arcs : ByteArcs) (states : List ByteArcs) : Nat × List ByteArcs :=
  match states.idxOf? arcs with
  | some index => (states.length - index, states)
  | none => (states.length + 1, arcs :: states)

/-- Add the states that read some sequences: the number of the first, and all
states.  No sequence is longer than `depth`. -/
def ofSequences : Nat → List ByteSequence → List ByteArcs → Option Nat × List ByteArcs
  | 0, _, states => (none, states)
  | depth + 1, sequences, states =>
      if sequences.all List.isEmpty then
        (none, states)
      else
        let groups := sequences.splitBy fun left right => left.head? == right.head?
        let (arcs, states) := groups.foldl
          (fun (arcs, states) group =>
            let (target, states) := ofSequences depth (group.map List.tail) states
            match group.head?.bind List.head? with
            | some byte => (arcs ++ [(byte, target)], states)
            | none => (arcs, states))
          ([], states)
        let (number, states) := place arcs states
        (some number, states)

end ByteArcs

/-! ## Weights -/

inductive Reading where
  | forwards
  | backwards
deriving DecidableEq, Repr

namespace Pattern

def stateWeight : Nat := 32

/-- What an arc over bytes takes in a state with several of them. -/
def arcWeight : Nat := 8

def linkWeight : Nat := 4

/-- The weight of a set of characters.  One character is a chain of its bytes,
and ASCII needs one state with all arcs.  Forwards equal states are shared, and
backwards the nodes of sequences with equal heads. -/
def setWeight (reading : Reading) (codes : Intervals) : Nat :=
  let ascii := 2 * stateWeight + arcWeight * codes.length
  match codes with
  | [(first, last)] =>
      if first = last then
        stateWeight * (Utf8.encodeChar (Char.ofNat first)).length
      else if last < 0x80 then
        ascii
      else
        wide
  | _ => if codes.all fun (_, last) => last < 0x80 then ascii else wide
where
  /-- The weight of a set with characters outside ASCII. -/
  wide : Nat :=
    let sequences := ByteSequence.ofCodes codes
    match reading with
    | .forwards =>
        let states := (ByteArcs.ofSequences 5 sequences []).2
        states.foldl
          (fun weight arcs => weight + stateWeight + arcWeight * arcs.length)
          stateWeight
    | .backwards =>
        2 * stateWeight + linkWeight * sequences.length +
          stateWeight * ByteSequence.nodes [] sequences

/-- The branches of a choice, also of those in it. -/
def branches : Pattern → List Pattern
  | .either first second => branches first ++ branches second
  | pattern => [pattern]

def set? : Pattern → Option Intervals
  | .one set => some set
  | _ => none

def bytes? : Pattern → Option Bytes
  | .one [(first, last)] =>
      if first = last then some (Utf8.encodeChar (Char.ofNat first)) else none
  | .both first second => do return (← bytes? first) ++ (← bytes? second)
  | _ => none

def treeWeight : Nat → List Bytes → Nat
  | 0, _ => 0
  | depth + 1, texts =>
      let heads := (texts.filterMap List.head?).eraseDups
      if heads.isEmpty then
        0
      else
        let arcs := if heads.length < 2 then 0 else arcWeight * heads.length
        2 * stateWeight + linkWeight + arcs +
          (heads.map fun head =>
            treeWeight depth ((texts.filter fun text => text.head? = some head).map
              List.tail)).sum

def plainChoiceWeight? (reading : Reading) (branches : List Pattern) : Option Nat :=
  match branches.mapM set?, branches.mapM bytes? with
  | some sets, _ => some (setWeight reading (sets.foldl Intervals.union []))
  | none, some texts =>
      let turned := match reading with
        | .forwards => texts
        | .backwards => texts.map List.reverse
      let depth := (texts.map List.length).foldl max 0
      some (stateWeight + treeWeight depth turned)
  | none, none => none

/-- How many characters every match of a pattern holds at least, if there can be
a match. -/
def shortest? : Pattern → Option Nat
  | .empty => some 0
  | .one set => if set.isEmpty then none else some 1
  | .anchor _ => some 0
  | .both first second => do return (← shortest? first) + (← shortest? second)
  | .either first second => do return min (← shortest? first) (← shortest? second)
  | .repeated pattern least _ => (shortest? pattern).map (· * least)
  | .group pattern => shortest? pattern

def repeatedWeight (isSolid : Bool) (weight least : Nat) : Option Nat → Nat
  | none =>
      match least with
      | 0 =>
          if isSolid then weight + stateWeight + 2 * linkWeight
          else weight + 3 * stateWeight + 4 * linkWeight
      | _ => least * weight + stateWeight + 2 * linkWeight
  | some most =>
      if least = 0 ∧ most = 1 then
        weight + 2 * stateWeight + 2 * linkWeight
      else if least = most then
        least * weight
      else
        max (least * weight) stateWeight + stateWeight +
          (most - least) * (weight + stateWeight + 2 * linkWeight)

/-- The weight of a pattern, with that of the arc to it if it is a branch of a
choice. -/
def partWeight (reading : Reading) (isBranch : Bool) (pattern : Pattern) : Nat :=
  match pattern with
  | .either first second =>
      let parts := partWeight reading true first + partWeight reading true second
      if isBranch then
        parts
      else
        (plainChoiceWeight? reading (branches pattern)).getD (2 * stateWeight + parts)
  | .empty => link + stateWeight
  | .one set => link + setWeight reading set
  | .anchor _ => link + stateWeight
  | .both first second =>
      link + partWeight reading false first + partWeight reading false second
  | .repeated part least most =>
      link +
        repeatedWeight ((shortest? part).any (0 < ·)) (partWeight reading false part)
          least most
  | .group part =>
      let signs := match reading with
        | .forwards => 2 * stateWeight
        | .backwards => 0
      link + partWeight reading false part + signs
where
  /-- The weight of the arc to a branch. -/
  link : Nat := if isBranch then linkWeight else 0

/-- The weight of the automaton that finds a pattern.  It may begin anywhere, and
tells what it finds apart when it reads forwards. -/
def weight (pattern : Pattern) (reading : Reading) : Nat :=
  let start := 3 * stateWeight + arcWeight + 2 * linkWeight
  let signs := match reading with
    | .forwards => 2 * stateWeight
    | .backwards => 0
  start + signs + partWeight reading false pattern + stateWeight

def heaviest : Nat := 10485760

def isLight (pattern : Pattern) : Bool :=
  pattern.weight .forwards ≤ heaviest && pattern.weight .backwards ≤ heaviest

end Pattern

end CsdlHighlight

import CsdlHighlight.Pattern.AtomReader

/-!
Contract: the reading of sets of characters between brackets.

Owns: `Cursor.readSet`, with ranges, named sets, nested sets and operations.

Does not own: the characters of a set.
-/

namespace CsdlHighlight

namespace Cursor

def namedSet? (cursor : Cursor) : Option (WrittenSet × Cursor) :=
  if cursor.sees "[:" then
    let head := steps 2 cursor
    let isNegated := head.sees "^"
    let name := if isNegated then head.step else head
    let text := name.rest.takeWhile (· != ':')
    let close := steps text.length name
    match AsciiSet.ofName? text with
    | some set =>
        if close.sees ":]" then
          let behind := steps 2 close
          some (.ascii set isNegated (behind.since cursor.spot), behind)
        else
          none
    | none => none
  else
    none

def itemOfAtom (atom : Atom) (span : Span) : Except PatternFault WrittenSet :=
  match atom with
  | .character character => .ok (.character character)
  | .shorthand kind isNegated => .ok (.shorthand kind isNegated span)
  | .property query isNegated => .ok (.property query isNegated span)
  | .any => .error ⟨.conditionInSet, span, none⟩
  | .anchor _ => .error ⟨.conditionInSet, span, none⟩

def boundOfAtom (atom : Atom) (span : Span) : Except PatternFault WrittenChar :=
  match atom with
  | .character character => .ok character
  | _ => .error ⟨.rangeBound, span, none⟩

/-- Read one item of a set: an atom, or a range between two characters.  The set
takes the part `head` of the text as far as it has been read.  A hyphen before
the closing bracket, and before another hyphen, belongs to no range. -/
def readRange (head : Span) (cursor : Cursor) :
    Except PatternFault (WrittenSet × Cursor) := do
  let (first, behind) ← cursor.readAtom
  let firstSpan := behind.since cursor.spot
  let sign := behind.skip
  match sign.next? with
  | none => fail .unclosedSet head
  | some '-' =>
      if sign.nextButOne? = some ']' ∨ sign.nextButOne? = some '-' then
        return (← itemOfAtom first firstSpan, sign)
      else
        let other := sign.advance
        if other.rest.isEmpty then
          fail .unclosedSet head
        else
          let (last, behind) ← other.readAtom
          let lastSpan := behind.since other.spot
          let first ← boundOfAtom first firstSpan
          let last ← boundOfAtom last lastSpan
          if first.character ≤ last.character then
            return (.range first last, behind)
          else
            fail .descendingRange (firstSpan.through lastSpan)
  | some _ => return (← itemOfAtom first firstSpan, sign)

/-- The head of a set: what is read of it before its items are told apart. -/
structure SetHead where
  isNegated : Bool
  /-- The items, in the reverse order. -/
  items : List WrittenSet
  /-- Where the items begin. -/
  spot : Spot
deriving Repr

def plainItem (character : Char) (cursor : Cursor) : WrittenSet :=
  .character ⟨character, false, cursor.mark⟩

/-- Read the hyphens at the head of a set, which stand for themselves.  The items
are given in the reverse order. -/
def readHyphens (start : Spot) : Nat → List WrittenSet → Cursor → Outcome (List WrittenSet)
  | 0, items, cursor => .ok (items, cursor)
  | count + 1, items, cursor =>
      if cursor.next? = some '-' then
        if cursor.advance.rest.isEmpty then
          fail .unclosedSet ⟨start, start⟩
        else
          readHyphens start count (plainItem '-' cursor :: items) cursor.advance
      else
        .ok (items, cursor)

/-- Read the head of a set, from its opening bracket on: the sign of a negation,
and at most `fuel` hyphens or else a closing bracket that stand for themselves. -/
def readSetHead (fuel : Nat) (cursor : Cursor) :
    Except PatternFault (SetHead × Cursor) := do
  let sign := cursor.advance
  let isNegated := sign.next? = some '^'
  let body := if isNegated then sign.advance else sign
  if body.rest.isEmpty then
    fail .unclosedSet (body.since cursor.spot)
  else
    let (hyphens, behind) ← readHyphens cursor.spot fuel [] body
    if hyphens.isEmpty ∧ behind.next? = some ']' then
      if behind.advance.rest.isEmpty then
        fail .unclosedSet (behind.advance.since cursor.spot)
      else
        return (⟨isNegated, [plainItem ']' behind], body.spot⟩, behind.advance)
    else
      return (⟨isNegated, hyphens, body.spot⟩, behind)

def operation? (cursor : Cursor) : Option SetOperation :=
  if cursor.sees "&&" then some .meet
  else if cursor.sees "--" then some .without
  else if cursor.sees "~~" then some .difference
  else none

abbrev OpenOperation := SetOperation × WrittenSet

def closeOperation (pending : Option OpenOperation) (right : WrittenSet) : WrittenSet :=
  match pending with
  | some (kind, left) => .operation kind left right
  | none => right

structure OpenSet where
  /-- Where the set begins, and the part of the text that its head takes. -/
  head : Span
  isNegated : Bool
  pending : Option OpenOperation
  /-- The items, in the reverse order. -/
  items : List WrittenSet
  /-- Where the items begin. -/
  spot : Spot
deriving Repr

namespace OpenSet

def ofHead (start : Spot) (head : SetHead) (cursor : Cursor) : OpenSet :=
  ⟨cursor.since start, head.isNegated, none, head.items, head.spot⟩

def add (set : OpenSet) (item : WrittenSet) : OpenSet :=
  { set with items := item :: set.items }

/-- What has been read of a set: the items, behind the operation before them. -/
def body (set : OpenSet) : WrittenSet :=
  closeOperation set.pending (.ofItems set.spot set.items.reverse)

def operate (set : OpenSet) (kind : SetOperation) (spot : Spot) : OpenSet :=
  { set with pending := some (kind, set.body), items := [], spot := spot }

def close (set : OpenSet) (cursor : Cursor) : WrittenSet :=
  .bracketed set.isNegated set.body (cursor.since set.head.start)

end OpenSet

/-- Read the items of a set up to its closing bracket, and the sets around it,
the innermost first.  Every step takes a character, so the length of the text is
enough `fuel`. -/
def readSetItems : Nat → OpenSet → List OpenSet → Cursor → Outcome WrittenSet
  | 0, set, _, _ => fail .unclosedSet set.head
  | fuel + 1, set, around, cursor =>
      let cursor := cursor.skip
      match cursor.next? with
      | none => fail .unclosedSet set.head
      | some '[' =>
          match namedSet? cursor with
          | some (item, behind) => readSetItems fuel (set.add item) around behind
          | none =>
              match readSetHead fuel cursor with
              | .ok (head, behind) =>
                  readSetItems fuel (.ofHead cursor.spot head behind) (set :: around) behind
              | .error fault => .error fault
      | some ']' =>
          let whole := set.close cursor.step
          match around with
          | [] => .ok (whole, cursor.step)
          | outer :: around => readSetItems fuel (outer.add whole) around cursor.step
      | some _ =>
          match operation? cursor with
          | some kind =>
              let behind := steps 2 cursor
              readSetItems fuel (set.operate kind behind.spot) around behind
          | none =>
              match readRange set.head cursor with
              | .ok (item, behind) => readSetItems fuel (set.add item) around behind
              | .error fault => .error fault

def readSet (fuel : Nat) (cursor : Cursor) : Except PatternFault (WrittenSet × Cursor) := do
  let (head, behind) ← readSetHead fuel cursor
  readSetItems fuel (.ofHead cursor.spot head behind) [] behind

end Cursor

end CsdlHighlight

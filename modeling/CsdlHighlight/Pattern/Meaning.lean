import CsdlHighlight.Pattern.Written
import CsdlHighlight.Unicode.Folding

/-!
Contract: what a written pattern means.

Owns:
- `PatternMode`, the state of the flags;
- the sets of atoms and of written sets;
- `WrittenPattern.meaning`.

Does not own: the reading of a text, and the size of a pattern.
-/

namespace CsdlHighlight

open Text (Intervals)

/-! ## Flags -/

/-- The state of the flags that change what a pattern means. -/
structure PatternMode where
  caseless : Bool
  lines : Bool
  dotAll : Bool
  returns : Bool
  unicode : Bool
deriving DecidableEq, Repr

namespace PatternMode

def initial : PatternMode :=
  ⟨false, false, false, false, true⟩

def change (mode : PatternMode) (changes : List FlagChange) : PatternMode :=
  { caseless := FlagChange.apply changes .caseless mode.caseless
    lines := FlagChange.apply changes .lines mode.lines
    dotAll := FlagChange.apply changes .dotAll mode.dotAll
    returns := FlagChange.apply changes .returns mode.returns
    unicode := FlagChange.apply changes .unicode mode.unicode }

end PatternMode

/-! ## Sets -/

namespace PatternMode

def bytes : Intervals :=
  [(0, 0xFF)]

def isAscii (codes : Intervals) : Bool :=
  codes.all fun (_, last) => last ≤ 0x7F

def asciiClosure (codes : Intervals) : Intervals :=
  let small := (codes.meet [(0x41, 0x5A)]).map fun (first, last) =>
    (first + 0x20, last + 0x20)
  let capital := (codes.meet [(0x61, 0x7A)]).map fun (first, last) =>
    (first - 0x20, last - 0x20)
  (codes.union small).union capital

/-- A set, with all variants in another case where case makes no difference. -/
def closure (mode : PatternMode) (codes : Intervals) : Intervals :=
  if mode.caseless then
    if mode.unicode then Unicode.caseClosure codes else asciiClosure codes
  else
    codes

/-- A set or all outside it.  Without Unicode what is outside are bytes, and no
text holds those above ASCII as such. -/
def negated (mode : PatternMode) (isNegated : Bool) (codes : Intervals) (span : Span) :
    Except PatternFault Intervals :=
  let chosen :=
    if isNegated then
      if mode.unicode then codes.complement else bytes.without codes
    else
      codes
  if mode.unicode || isAscii chosen then .ok chosen
  else .error ⟨.invalidBytes, span, none⟩

def shorthandCodes (mode : PatternMode) : Shorthand → Intervals
  | .digit =>
      if mode.unicode then Unicode.GeneralCategory.decimalNumber.codes
      else AsciiSet.digit.codes
  | .blank => if mode.unicode then Unicode.whiteSpace.codes else AsciiSet.space.codes
  | .word => if mode.unicode then Unicode.wordLike.codes else AsciiSet.word.codes

def propertyCodes (mode : PatternMode) (query : Unicode.PropertyQuery) (span : Span) :
    Except PatternFault Intervals :=
  if mode.unicode then
    match query.codes with
    | .ok codes => .ok (mode.closure codes)
    | .error .unknownProperty => .error ⟨.unknownProperty, span, none⟩
    | .error .unknownValue => .error ⟨.unknownValue, span, none⟩
  else
    .error ⟨.needsUnicode, span, none⟩

/-- Whether a written character stands for a byte that is no character. -/
def isForeignByte (mode : PatternMode) (character : WrittenChar) : Bool :=
  !mode.unicode && character.isByte && 0x80 ≤ character.character.toNat

def memberCode (mode : PatternMode) (character : WrittenChar) : Except PatternFault Nat :=
  if mode.isForeignByte character then
    .error ⟨.invalidBytes, character.span, none⟩
  else if mode.unicode || character.character.toNat < 0x80 then
    .ok character.character.toNat
  else
    .error ⟨.needsUnicode, character.span, none⟩

mutual

def setCodes (mode : PatternMode) :
    WrittenSet → Except PatternFault Intervals
  | .nothing _ => .ok []
  | .character character => do
      let code ← mode.memberCode character
      return [(code, code)]
  | .range first last => do
      let first ← mode.memberCode first
      let last ← mode.memberCode last
      return Intervals.everything.meet [(first, last)]
  | .shorthand kind isNegated span =>
      mode.negated isNegated (mode.shorthandCodes kind) span
  | .property query isNegated span => do
      mode.negated isNegated (← mode.propertyCodes query span) span
  | .ascii set isNegated span => mode.negated isNegated (mode.closure set.codes) span
  | .bracketed isNegated body span => do
      mode.negated isNegated (mode.closure (← setCodes mode body)) span
  | .union items _ => unionCodes mode items
  | .operation kind left right => do
      let left := mode.closure (← setCodes mode left)
      let right := mode.closure (← setCodes mode right)
      return match kind with
        | .meet => left.meet right
        | .without => left.without right
        | .difference => left.difference right

def unionCodes (mode : PatternMode) :
    List WrittenSet → Except PatternFault Intervals
  | [] => .ok []
  | item :: rest => do
      let codes ← setCodes mode item
      return codes.union (← unionCodes mode rest)

end

/-! ## Atoms -/

def lineEnds (mode : PatternMode) : Intervals :=
  if mode.dotAll then [] else if mode.returns then [(0xA, 0xA), (0xD, 0xD)] else [(0xA, 0xA)]

def anchor (mode : PatternMode) : AnchorSign → Anchor
  | .caret => if mode.lines then .lineStart mode.returns else .start
  | .dollar => if mode.lines then .lineStop mode.returns else .stop
  | .textStart => .start
  | .textStop => .stop
  | .word condition => .word condition (mode.shorthandCodes .word)

def atomMeaning (mode : PatternMode) (atom : Atom) (span : Span) :
    Except PatternFault Pattern :=
  match atom with
  | .character character =>
      if mode.isForeignByte character then
        .error ⟨.invalidBytes, span, none⟩
      else
        let code := character.character.toNat
        .ok (.one (mode.closure [(code, code)]))
  | .any =>
      if mode.unicode then .ok (.one mode.lineEnds.complement)
      else .error ⟨.invalidBytes, span, none⟩
  | .anchor sign => .ok (.anchor (mode.anchor sign))
  | .shorthand kind isNegated =>
      (mode.negated isNegated (mode.shorthandCodes kind) span).map .one
  | .property query isNegated => do
      return .one (← mode.negated isNegated (← mode.propertyCodes query span) span)

end PatternMode

/-! ## Patterns -/

namespace WrittenPattern

mutual

/-- What a written pattern means, and the state of the flags behind it. -/
def meaningIn (mode : PatternMode) :
    WrittenPattern → Except PatternFault (Pattern × PatternMode)
  | .nothing _ => .ok (.empty, mode)
  | .atom sign span => do return (← mode.atomMeaning sign span, mode)
  | .set codes => do return (.one (← mode.setCodes codes), mode)
  | .flags changes _ => .ok (.empty, mode.change changes)
  | .repeated part least most _ => do
      let (pattern, behind) ← meaningIn mode part
      return (pattern.times least most, behind)
  | .group isApart changes body _ => do
      let (pattern, _) ← meaningIn (mode.change changes) body
      return (if isApart then .group pattern else pattern, mode)
  | .sequence parts _ => sequenceIn mode parts
  | .choice branches _ => choiceIn mode branches

def sequenceIn (mode : PatternMode) :
    List WrittenPattern → Except PatternFault (Pattern × PatternMode)
  | [] => .ok (.empty, mode)
  | part :: rest => do
      let (first, behind) ← meaningIn mode part
      let (second, behind) ← sequenceIn behind rest
      return (first.andThen second, behind)

/-- What a choice means.  Flags set in a branch hold in those behind it. -/
def choiceIn (mode : PatternMode) :
    List WrittenPattern → Except PatternFault (Pattern × PatternMode)
  | [] => .ok (.one [], mode)
  | [branch] => meaningIn mode branch
  | branch :: rest => do
      let (first, behind) ← meaningIn mode branch
      let (second, behind) ← choiceIn behind rest
      return (.either first second, behind)

end

def meaning (pattern : WrittenPattern) : Except PatternFault Pattern :=
  (meaningIn .initial pattern).map Prod.fst

end WrittenPattern

end CsdlHighlight

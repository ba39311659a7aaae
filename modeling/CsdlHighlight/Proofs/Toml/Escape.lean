import CsdlHighlight.Proofs.Json.Literal
import CsdlHighlight.Toml.Quotation
import CsdlHighlight.Toml.Unquotation
import Mathlib.Data.List.Basic
import Mathlib.Tactic.SplitIfs

/-!
Contract: what stands inside a written string stands for one character after
another, whatever is around it.

Owns:
- per form, its quote, the search for its end and its reader;
- `StandsFor`, which all of them keep, and its composition;
- the characters that stand for themselves, and the escapes of the others.

Does not own: the delimiters of a string, or quotes in a row.
-/

namespace CsdlHighlight.Toml

theorem ahead_append (first second : Text) (found : Text × Text) :
    ahead first (ahead second found) = ahead (first ++ second) found := by
  simp only [ahead, List.append_assoc]

theorem before_append (first second : Text) (found : Option (Text × Text)) :
    before first (before second found) = before (first ++ second) found := by
  cases found with
  | none => rfl
  | some taken => simp only [before, Option.map_some, List.append_assoc]

namespace Quotation

def quote : Quotation → Char
  | .basic => '"'
  | .literal => '\''
  | .multiBasic => '"'
  | .multiLiteral => '\''

/-- The cut behind the closing delimiter of a form. -/
def cut : Quotation → Text → Text × Text
  | .basic => cutBasic
  | .literal => cutLiteral
  | .multiBasic => cutMultiBasic
  | .multiLiteral => cutMultiLiteral

/-- The reader of the inside of a form. -/
def read : Quotation → Text → Option (Text × Text)
  | .basic => readBasic
  | .literal => readLiteral
  | .multiBasic => readMultiBasic false
  | .multiLiteral => readMultiLiteral

/-- Characters inside a form that are passed over when its end is looked for,
and that stand for the characters `shown`, whatever follows them. -/
structure StandsFor (quotation : Quotation) (written shown : Text) : Prop where
  cut_append : ∀ rest,
    quotation.cut (written ++ rest) = ahead written (quotation.cut rest)
  read_append : ∀ rest,
    quotation.read (written ++ rest) = before shown (quotation.read rest)

namespace StandsFor

variable {quotation : Quotation} {written shown behind shownBehind : Text}

theorem nil : StandsFor quotation [] [] where
  cut_append _ := rfl
  read_append rest := by
    cases found : quotation.read rest <;> simp [before, found]

theorem append (here : StandsFor quotation written shown)
    (there : StandsFor quotation behind shownBehind) :
    StandsFor quotation (written ++ behind) (shown ++ shownBehind) where
  cut_append rest := by
    rw [List.append_assoc, here.cut_append, there.cut_append, ahead_append]
  read_append rest := by
    rw [List.append_assoc, here.read_append, there.read_append, before_append]

theorem flatMap {write : Char → Text} (text : Text)
    (each : ∀ character ∈ text,
      StandsFor quotation (write character) [character]) :
    StandsFor quotation (text.flatMap write) text := by
  induction text with
  | nil => exact nil
  | cons character rest inductionHypothesis =>
      obtain ⟨here, there⟩ := List.forall_mem_cons.mp each
      exact here.append (inductionHypothesis there)

end StandsFor

/-! ## Plain characters -/

def HasEscapes (quotation : Quotation) : Prop :=
  quotation = .basic ∨ quotation = .multiBasic

/-- A character that stands for itself in a form, wherever it stands. -/
structure IsPlain (quotation : Quotation) (character : Char) : Prop where
  notQuote : character ≠ quotation.quote
  notEscape : quotation.HasEscapes → character ≠ '\\'
  allowed : isPlainChar character = true ∨
    character = '\n' ∧ quotation.isMulti = true

namespace IsPlain

variable {quotation : Quotation} {character : Char}

theorem notNewline (plain : IsPlain quotation character)
    (oneLine : quotation.isMulti = false) : character ≠ '\n' := by
  rintro rfl
  rcases plain.allowed with isPlain | ⟨-, multi⟩
  · exact absurd isPlain (by decide)
  · rw [oneLine] at multi
    cases multi

theorem notReturn (plain : IsPlain quotation character) : character ≠ '\r' := by
  rintro rfl
  rcases plain.allowed with isPlain | ⟨same, -⟩
  · exact absurd isPlain (by decide)
  · exact absurd same (by decide)

theorem isPlainChar_of_oneLine (plain : IsPlain quotation character)
    (oneLine : quotation.isMulti = false) : isPlainChar character = true :=
  plain.allowed.resolve_right fun ⟨_, multi⟩ => by
    rw [oneLine] at multi
    cases multi

theorem standsFor (plain : IsPlain quotation character) :
    StandsFor quotation [character] [character] := by
  have notQuote := plain.notQuote
  have notEscape := plain.notEscape
  have notNewline := plain.notNewline
  have notReturn := plain.notReturn
  have isPlain := plain.isPlainChar_of_oneLine
  have allowed := plain.allowed
  cases quotation with
  | basic =>
      have notBackslash := notEscape (.inl rfl)
      have alone := notNewline rfl
      simp only [quote] at notQuote
      constructor
      · intro rest
        simp [cut, cutBasic, notBackslash]
      · intro rest
        simp [read, readBasic, notBackslash, isPlain rfl]
  | literal =>
      have alone := notNewline rfl
      simp only [quote] at notQuote
      constructor
      · intro rest
        simp [cut, cutLiteral]
      · intro rest
        simp [read, readLiteral, isPlain rfl]
  | multiBasic =>
      have notBackslash := notEscape (.inr rfl)
      simp only [quote] at notQuote
      simp only [isMulti, and_true] at allowed
      constructor
      · intro rest
        simp [cut, cutMultiBasic, notQuote, notBackslash]
      · intro rest
        simp [read, readMultiBasic, notQuote, notBackslash, notReturn, allowed]
  | multiLiteral =>
      simp only [quote] at notQuote
      simp only [isMulti, and_true] at allowed
      constructor
      · intro rest
        simp [cut, cutMultiLiteral, notQuote]
      · intro rest
        simp [read, readMultiLiteral, notQuote, notReturn, allowed]

end IsPlain

/-! ## Escapes -/

variable {quotation : Quotation}

theorem cut_backslash (escapes : quotation.HasEscapes) {letter : Char}
    (notQuote : letter ≠ '"') (notBackslash : letter ≠ '\\') (rest : Text) :
    quotation.cut ('\\' :: letter :: rest) =
      ahead ['\\'] (quotation.cut (letter :: rest)) := by
  rcases escapes with rfl | rfl
  · simp [cut, cutBasic, notQuote, notBackslash]
  · simp [cut, cutMultiBasic, notQuote, notBackslash]

theorem standsFor_letter (escapes : quotation.HasEscapes)
    {letter character : Char} (escape : letterEscape? letter = some character) :
    StandsFor quotation ['\\', letter] [character] := by
  have notX : letter ≠ 'x' := by
    rintro rfl
    cases escape
  have notU : letter ≠ 'u' := by
    rintro rfl
    cases escape
  have notLongU : letter ≠ 'U' := by
    rintro rfl
    cases escape
  constructor
  · intro rest
    unfold letterEscape? at escape
    rcases escapes with rfl | rfl
    · split at escape
      case h_9 => cases escape
      all_goals rfl
    · split at escape
      case h_9 => cases escape
      all_goals rfl
  · intro rest
    rcases escapes with rfl | rfl
    · simp [read, readBasic, notX, notU, notLongU, escape]
    · simp [read, readMultiBasic, notX, notU, notLongU, escape]

theorem isControl_bound {character : Char}
    (control : isControl character = true) : character.toNat < 0x80 := by
  simp only [isControl, Bool.or_eq_true, Bool.and_eq_true, decide_eq_true_eq,
    beq_iff_eq] at control
  omega

/-- The four digits of a control character write its code, and the last two of
them are plain characters of every form. -/
theorem numberEscape_digits : ∀ code < 0x80,
    Text.hexValue?
        ['0', '0', Text.capitalDigit (code / 16), Text.capitalDigit (code % 16)] =
      some code ∧
    [Text.capitalDigit (code / 16), Text.capitalDigit (code % 16)].all (fun digit =>
      isPlainChar digit && digit != '"' && digit != '\\') = true := by
  decide

theorem quote_of_hasEscapes (escapes : quotation.HasEscapes) :
    quotation.quote = '"' := by
  rcases escapes with rfl | rfl <;> rfl

theorem standsFor_numberEscape (escapes : quotation.HasEscapes)
    {character : Char} (control : isControl character = true) :
    StandsFor quotation (numberEscape character) [character] := by
  obtain ⟨value, digits⟩ :=
    numberEscape_digits character.toNat (isControl_bound control)
  constructor
  · intro rest
    have plain : ∀ digit ∈ ['u', '0', '0', Text.capitalDigit (character.toNat / 16),
        Text.capitalDigit (character.toNat % 16)],
        StandsFor quotation [digit] [digit] := by
      intro digit member
      have allowed : isPlainChar digit ∧ digit ≠ '"' ∧ digit ≠ '\\' := by
        simp only [List.mem_cons, List.not_mem_nil, or_false] at member
        rcases member with rfl | rfl | rfl | member
        · decide
        · decide
        · decide
        · have safe := List.all_eq_true.mp digits digit (by simpa using member)
          simpa [and_assoc] using safe
      exact IsPlain.standsFor
        ⟨quote_of_hasEscapes escapes ▸ allowed.2.1, fun _ => allowed.2.2,
          .inl allowed.1⟩
    have behind := (StandsFor.flatMap _ plain).cut_append rest
    rw [List.flatMap_singleton'] at behind
    rw [numberEscape, List.cons_append, List.cons_append,
      cut_backslash escapes (by decide) (by decide), ← List.cons_append, behind,
      ahead_append]
    rfl
  · intro rest
    rcases escapes with rfl | rfl
    · simp [read, numberEscape, readBasic, beforeScalar, value,
        Json.scalar?_toNat]
    · simp [read, numberEscape, readMultiBasic, beforeScalar, value,
        Json.scalar?_toNat]

/-- A character that is no control character can be written as it is. -/
theorem isPlainChar_of_not_isControl {character : Char}
    (notControl : isControl character = false) (notNewline : character ≠ '\n') :
    isPlainChar character = true := by
  simp only [isControl, Bool.or_eq_false_iff, Bool.and_eq_false_iff,
    decide_eq_false_iff_not, bne_eq_false_iff_eq, beq_eq_false_iff_ne]
    at notControl
  simp only [isPlainChar, Bool.or_eq_true, beq_iff_eq, Bool.and_eq_true,
    decide_eq_true_eq, bne_iff_ne]
  obtain ⟨(notLow | isTab) | isNewline, notDelete⟩ := notControl
  · exact .inr ⟨by omega, notDelete⟩
  · exact .inl isTab
  · exact absurd isNewline notNewline

theorem standsFor_escapeChar (escapes : quotation.HasEscapes) {character : Char}
    (notQuote : character ≠ '"')
    (notBreak : character = '\n' → quotation.isMulti = true) :
    StandsFor quotation (escapeChar character) [character] := by
  unfold escapeChar
  split_ifs with backspace tab formFeed carriageReturn backslash control
  · exact standsFor_letter escapes (by rw [backspace]; rfl)
  · exact standsFor_letter escapes (by rw [tab]; rfl)
  · exact standsFor_letter escapes (by rw [formFeed]; rfl)
  · exact standsFor_letter escapes (by rw [carriageReturn]; rfl)
  · exact standsFor_letter escapes (by rw [backslash]; rfl)
  · exact standsFor_numberEscape escapes control
  · refine IsPlain.standsFor ⟨?_, fun _ => backslash, ?_⟩
    · rwa [quote_of_hasEscapes escapes]
    · by_cases newline : character = '\n'
      · exact .inr ⟨newline, notBreak newline⟩
      · exact .inl (isPlainChar_of_not_isControl
          (Bool.eq_false_iff.mpr control) newline)

theorem standsFor_escapeBasicChar (character : Char) :
    StandsFor .basic (escapeBasicChar character) [character] := by
  unfold escapeBasicChar
  split_ifs with isQuote newline
  · exact standsFor_letter (.inl rfl) (by rw [isQuote]; rfl)
  · exact standsFor_letter (.inl rfl) (by rw [newline]; rfl)
  · exact standsFor_escapeChar (.inl rfl) isQuote fun same =>
      absurd same newline

/-- What stands for a character begins with a backslash, or is the character. -/
theorem exists_escapeChar (character : Char) :
    ∃ head tail, escapeChar character = head :: tail ∧
      (head = '\\' ∨ head = character ∧ character ≠ '\r') := by
  unfold escapeChar
  split_ifs with backspace tab formFeed carriageReturn
  · exact ⟨_, _, rfl, .inl rfl⟩
  · exact ⟨_, _, rfl, .inl rfl⟩
  · exact ⟨_, _, rfl, .inl rfl⟩
  · exact ⟨_, _, rfl, .inl rfl⟩
  · exact ⟨_, _, rfl, .inl rfl⟩
  · exact ⟨_, _, rfl, .inl rfl⟩
  · exact ⟨_, _, rfl, .inr ⟨rfl, carriageReturn⟩⟩

end Quotation

end CsdlHighlight.Toml

import CsdlHighlight.Proofs.Text.Trim
import CsdlHighlight.Proofs.Word.Spelling
import CsdlHighlight.Spans
import Mathlib

/-!
Contract: no rule for words depends on the case of an ASCII letter.

Owns:
- `Text.SameLetter`, equality of characters up to that case;
- the occurrences of patterns without letters, and the trimming of a text in
  small letters;
- `Text.IgnoresCase`, and the rules for words that do so;
- the category of a word in its spans, and the spans after it.

Does not own: escapes, whose letter is a small one.
-/

namespace CsdlHighlight

namespace Text

/-! ## Characters -/

/-- Two characters that are the same, or the two forms of one ASCII letter. -/
inductive SameLetter : Char → Char → Prop where
  | same (character : Char) : SameLetter character character
  | capitalLeft {capital : Char} (isCapital : capital.isUpper = true) :
      SameLetter capital capital.toLower
  | capitalRight {capital : Char} (isCapital : capital.isUpper = true) :
      SameLetter capital.toLower capital

/-- What is the same for both forms of every ASCII letter ignores case. -/
theorem eq_of_ascii_table {α : Type} (read : Char → α)
    (table : ∀ code < 128,
      read (Char.ofNat code).toLower = read (Char.ofNat code))
    (character : Char) : read character.toLower = read character := by
  by_cases ascii : character.toNat < 128
  · simpa using table character.toNat ascii
  · rw [toLower_of_not_ascii (Nat.le_of_not_lt ascii)]

theorem isBlank_toLower (character : Char) :
    isBlank character.toLower = isBlank character :=
  eq_of_ascii_table isBlank (by decide +kernel) character

theorem toLower_of_not_isAlpha {character : Char}
    (noLetter : character.isAlpha = false) :
    character.toLower = character := by
  apply Char.toLower_eq_of_not_isUpper
  rw [(Bool.or_eq_false_iff.mp noLetter).1]
  exact Bool.false_ne_true

/-- Two capitals with one small form are the same. -/
theorem eq_of_toLower_eq {left right : Char} (leftCapital : left.isUpper = true)
    (rightCapital : right.isUpper = true)
    (equal : left.toLower = right.toLower) : left = right := by
  simp only [Char.isUpper, decide_eq_true_eq] at leftCapital rightCapital
  rw [Char.toLower, dif_pos leftCapital, Char.toLower,
    dif_pos rightCapital] at equal
  exact Char.ext ((UInt32.add_left_inj _).mp (congrArg Char.val equal))

theorem sameLetter_iff {left right : Char} :
    SameLetter left right ↔ left.toLower = right.toLower := by
  constructor
  · intro same
    cases same with
    | same => rfl
    | capitalLeft => exact (Char.toLower_toLower_eq_toLower _).symm
    | capitalRight => exact Char.toLower_toLower_eq_toLower _
  · intro equal
    by_cases leftCapital : left.isUpper
    · by_cases rightCapital : right.isUpper
      · exact eq_of_toLower_eq leftCapital rightCapital equal ▸ .same left
      · rw [Char.toLower_eq_of_not_isUpper rightCapital] at equal
        exact equal ▸ .capitalLeft leftCapital
    · rw [Char.toLower_eq_of_not_isUpper leftCapital] at equal
      by_cases rightCapital : right.isUpper
      · exact equal ▸ .capitalRight rightCapital
      · rw [Char.toLower_eq_of_not_isUpper rightCapital] at equal
        exact equal ▸ .same left

/-! ## Texts in small letters -/

/-- Texts that agree at every position up to case have the same small form. -/
theorem forall₂_sameLetter_iff {left right : Text} :
    List.Forall₂ SameLetter left right ↔
      left.map Char.toLower = right.map Char.toLower := by
  have bySmall : SameLetter = fun left right => left.toLower = right.toLower := by
    funext left right
    exact propext sameLetter_iff
  have whole : (left.map Char.toLower = right.map Char.toLower) =
      List.Forall₂ (· = ·) (left.map Char.toLower) (right.map Char.toLower) :=
    (congrFun (congrFun List.forall₂_eq_eq_eq _) _).symm
  rw [whole, List.forall₂_map_left_iff, List.forall₂_map_right_iff, bySmall]

variable {text pattern : Text}

theorem map_toLower_idempotent (text : Text) :
    (text.map Char.toLower).map Char.toLower = text.map Char.toLower := by
  rw [List.map_map]
  exact List.map_congr_left fun character _ =>
    character.toLower_toLower_eq_toLower

/-- A text without letters is the small form of no other text. -/
theorem map_toLower_eq_iff (noLetter : ∀ mark ∈ pattern, mark.isAlpha = false) :
    pattern = text.map Char.toLower ↔ pattern = text := by
  constructor
  · rintro rfl
    refine (List.map_congr_left fun character member => ?_).trans text.map_id
    apply toLower_of_not_isAlpha
    rw [← Char.isAlpha_toLower_eq_isAlpha]
    exact noLetter _ (List.mem_map_of_mem member)
  · rintro rfl
    refine (List.map_congr_left fun mark member => ?_).trans pattern.map_id |>.symm
    exact toLower_of_not_isAlpha (noLetter mark member)

theorem mem_map_toLower_iff {mark : Char} (noLetter : mark.isAlpha = false) :
    mark ∈ text.map Char.toLower ↔ mark ∈ text := by
  constructor
  · intro member
    obtain ⟨character, inText, small⟩ := List.mem_map.mp member
    rw [← small, Char.isAlpha_toLower_eq_isAlpha] at noLetter
    rwa [← small, toLower_of_not_isAlpha noLetter]
  · intro member
    rw [← toLower_of_not_isAlpha noLetter]
    exact List.mem_map_of_mem member

theorem infix_map_toLower_iff
    (noLetter : ∀ mark ∈ pattern, mark.isAlpha = false) :
    pattern <:+: text.map Char.toLower ↔ pattern <:+: text := by
  simp only [List.infix_map_iff, map_toLower_eq_iff noLetter, exists_eq_right']

theorem prefix_map_toLower_iff
    (noLetter : ∀ mark ∈ pattern, mark.isAlpha = false) :
    pattern <+: text.map Char.toLower ↔ pattern <+: text := by
  simp only [List.prefix_map_iff, map_toLower_eq_iff noLetter, exists_eq_right']

theorem suffix_map_toLower_iff
    (noLetter : ∀ mark ∈ pattern, mark.isAlpha = false) :
    pattern <:+ text.map Char.toLower ↔ pattern <:+ text := by
  simp only [List.suffix_map_iff, map_toLower_eq_iff noLetter, exists_eq_right']

theorem dropWhile_isBlank_map_toLower (text : Text) :
    (text.map Char.toLower).dropWhile isBlank =
      (text.dropWhile isBlank).map Char.toLower := by
  rw [List.dropWhile_map]
  congr 2
  funext character
  exact isBlank_toLower character

/-- No blank has a letter case, so a text and its small form are trimmed
alike. -/
theorem trim_map_toLower (text : Text) :
    trim (text.map Char.toLower) = (trim text).map Char.toLower := by
  rw [trim, trimEnd, dropWhile_isBlank_map_toLower, ← List.map_reverse,
    dropWhile_isBlank_map_toLower, ← List.map_reverse]
  rfl

/-- A rule that gives the same answer for a text and for its small form, and so
for any two texts that agree up to case. -/
def IgnoresCase {α : Type} (rule : Text → α) : Prop :=
  ∀ text, rule (text.map Char.toLower) = rule text

end Text

/-! ## Rules for words -/

namespace Word

open Text

theorem ignoresCase_hasQuote : IgnoresCase hasQuote := by
  intro word
  rw [Bool.eq_iff_iff, hasQuote_iff, hasQuote_iff]
  exact mem_map_toLower_iff (by decide)

theorem ignoresCase_isQuoted : IgnoresCase isQuoted := by
  intro word
  rw [Bool.eq_iff_iff, isQuoted_iff, isQuoted_iff]
  have noLetter : ∀ mark ∈ ['"'], mark.isAlpha = false :=
    List.forall_mem_singleton.mpr rfl
  exact and_congr (prefix_map_toLower_iff noLetter)
    (suffix_map_toLower_iff noLetter)

theorem ignoresCase_occurs {mark : Text}
    (noLetter : ∀ character ∈ mark, character.isAlpha = false) :
    IgnoresCase (Text.occurs mark) := by
  intro word
  rw [Bool.eq_iff_iff, occurs_iff, occurs_iff]
  exact infix_map_toLower_iff noLetter

theorem ignoresCase_opensBlockComment : IgnoresCase opensBlockComment :=
  ignoresCase_occurs (by simp)

theorem ignoresCase_closesBlockComment : IgnoresCase closesBlockComment :=
  ignoresCase_occurs (by simp)

theorem ignoresCase_opensLineComment : IgnoresCase opensLineComment :=
  ignoresCase_occurs (by simp)

theorem isAlpha_eq_false_of_isDigit {digit : Char}
    (isDigit : digit.isDigit = true) : digit.isAlpha = false := by
  simp only [Char.isDigit, Bool.and_eq_true, decide_eq_true_eq] at isDigit
  simp only [Char.isAlpha, Char.isUpper, Char.isLower]
  grind

theorem SignedDecimal.noLetter {word : Text} (decimal : SignedDecimal word) :
    ∀ character ∈ word, character.isAlpha = false := by
  intro character member
  rcases decimal.isDigit_or_mark member with isDigit | isMark
  · exact isAlpha_eq_false_of_isDigit isDigit
  · simp only [List.mem_cons, List.not_mem_nil, or_false] at isMark
    rcases isMark with rfl | rfl | rfl <;> rfl

theorem SignedDecimal.map_toLower {word : Text} (decimal : SignedDecimal word) :
    word.map Char.toLower = word :=
  ((map_toLower_eq_iff decimal.noLetter).mpr rfl).symm

/-- A number holds no letter, so it is its own small form and that of nothing
else. -/
theorem ignoresCase_isSignedDecimal : IgnoresCase isSignedDecimal := by
  intro word
  rw [Bool.eq_iff_iff, isSignedDecimal_iff, isSignedDecimal_iff]
  constructor
  · intro decimal
    rwa [(map_toLower_eq_iff decimal.noLetter).mp rfl] at decimal
  · intro decimal
    rwa [decimal.map_toLower]

theorem ignoresCase_isOperator : IgnoresCase isOperator := by
  intro word
  rw [Bool.eq_iff_iff, isOperator_iff, isOperator_iff, map_toLower_idempotent]

theorem ignoresCase_isKeyword : IgnoresCase isKeyword := by
  intro word
  rw [Bool.eq_iff_iff, isKeyword_iff, isKeyword_iff, map_toLower_idempotent]

theorem ignoresCase_isNamespaced : IgnoresCase isNamespaced := by
  intro word
  rw [Bool.eq_iff_iff, isNamespaced_iff, isNamespaced_iff,
    map_toLower_idempotent]

theorem ignoresCase_category : IgnoresCase category := by
  intro word
  unfold category
  rw [ignoresCase_isSignedDecimal, ignoresCase_isKeyword,
    ignoresCase_isNamespaced, ignoresCase_isOperator]

end Word

/-! ## Words in their spans -/

namespace Spans

open Text

variable (spans : Spans)

theorem ignoresCase_isWholeString : IgnoresCase spans.isWholeString := by
  intro word
  rw [isWholeString, Word.ignoresCase_isQuoted]
  rfl

theorem ignoresCase_beginsBlockComment :
    IgnoresCase spans.beginsBlockComment := by
  intro word
  rw [beginsBlockComment, ignoresCase_isWholeString,
    Word.ignoresCase_opensBlockComment]
  rfl

theorem ignoresCase_beginsLineComment :
    IgnoresCase spans.beginsLineComment := by
  intro word
  rw [beginsLineComment, ignoresCase_isWholeString,
    Word.ignoresCase_opensBlockComment, Word.ignoresCase_opensLineComment]
  rfl

theorem ignoresCase_stringAfter : IgnoresCase spans.stringAfter := by
  intro word
  rw [stringAfter, Word.ignoresCase_hasQuote, ignoresCase_isWholeString]
  rfl

theorem ignoresCase_after : IgnoresCase spans.after := by
  intro word
  rw [after, ignoresCase_stringAfter, ignoresCase_beginsLineComment,
    ignoresCase_beginsBlockComment, Word.ignoresCase_closesBlockComment]
  rfl

theorem ignoresCase_category : IgnoresCase spans.category := by
  intro word
  rw [category, ignoresCase_beginsBlockComment, ignoresCase_beginsLineComment,
    Word.ignoresCase_hasQuote, Word.ignoresCase_category]
  rfl

end Spans

end CsdlHighlight

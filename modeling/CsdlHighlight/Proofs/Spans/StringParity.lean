import CsdlHighlight.Proofs.Classification.Trace
import CsdlHighlight.Proofs.Word.Spelling
import Mathlib.Algebra.Ring.Parity
import Mathlib.Data.List.DropRight

/-!
Contract: the strings of a text are found by counting quotes, and the words
outside every span have the category of their spelling.

Owns:
- the words before a position and the words since the last quoted one;
- the string flag before a position as the parity of the words that toggle it;
- the category of the words that are no comments.

Does not own: which words are comments.
-/

namespace CsdlHighlight

/-- The words in front of a position, those inside comments among them. -/
def wordsBefore (events : List Event) (position : Nat) : List Text :=
  (events.take position).filterMap Event.word?

/-- The words after the last one that both starts and ends with a quote, or
all of them if there is none. -/
def sinceQuoted (words : List Text) : List Text :=
  words.rtakeWhile fun word => !Word.isQuoted word

def Word.togglesString (word : Text) : Bool :=
  hasQuote word && !isQuoted word

/-- An odd number of the words since the last quoted one toggle. -/
def StringOpen (words : List Text) : Prop :=
  Odd ((sinceQuoted words).countP Word.togglesString)

theorem wordsBefore_succ (events : List Event) (position : Nat) :
    wordsBefore events (position + 1) =
      wordsBefore events position ++ (wordAt? events position).toList := by
  unfold wordsBefore wordAt?
  rw [List.take_add_one, List.filterMap_append]
  cases events[position]? with
  | none => rfl
  | some event => cases event <;> rfl

/-! ## The string flag -/

/-- A quoted word closes whatever is open, and a toggling one turns the flag. -/
theorem Spans.stringAfter_eq (spans : Spans) (word : Text) :
    spans.stringAfter word =
      if Word.isQuoted word then false
      else spans.inString ^^ Word.togglesString word := by
  unfold stringAfter isWholeString Word.togglesString
  cases quoted : Word.isQuoted word with
  | true =>
      rw [Word.hasQuote_of_isQuoted quoted]
      cases spans.inString <;> rfl
  | false => cases Word.hasQuote word <;> cases spans.inString <;> rfl

theorem not_stringOpen_nil : ¬ StringOpen [] := by
  simp [StringOpen, sinceQuoted]

/-- What one more word does to the parity. -/
theorem stringOpen_append_word (words : List Text) (word : Text) :
    StringOpen (words ++ [word]) ↔
      ¬ Word.isQuoted word = true ∧
        (StringOpen words ↔ ¬ Word.togglesString word = true) := by
  unfold StringOpen sinceQuoted
  rw [List.rtakeWhile_concat]
  cases Word.isQuoted word with
  | true => simp
  | false =>
      cases toggles : Word.togglesString word <;>
        simp [List.countP_append, toggles, Nat.odd_add_one]

/-- A string is open before a position where an odd number of toggling words
stand in front of it since the last quoted one. -/
theorem inString_iff_stringOpen (events : List Event) (position : Nat) :
    (spansBefore events position).inString = true ↔
      StringOpen (wordsBefore events position) := by
  induction position with
  | zero => exact iff_of_false Bool.noConfusion not_stringOpen_nil
  | succ position inductionHypothesis =>
      rw [wordsBefore_succ]
      cases atPosition : wordAt? events position with
      | none =>
          rw [spansBefore_succ_of_no_word atPosition, Option.toList_none,
            List.append_nil]
          split <;> exact inductionHypothesis
      | some word =>
          rw [spansBefore_succ_of_word atPosition, Option.toList_some,
            stringOpen_append_word, ← inductionHypothesis]
          change (spansBefore events position).stringAfter word = true ↔ _
          rw [Spans.stringAfter_eq]
          cases Word.isQuoted word <;>
            cases (spansBefore events position).inString <;>
            cases Word.togglesString word <;> decide

/-! ## Words outside comments -/

/-- Outside comments only the string flag and the word itself count. -/
theorem Spans.category_of_ne_comment {spans : Spans} {word : Text}
    (outside : spans.category word ≠ .comment) :
    spans.category word =
      if spans.inString || Word.hasQuote word then .string
      else Word.category word := by
  unfold category at outside ⊢
  split at outside
  · exact absurd rfl outside
  · next noComment => rw [if_neg noComment]

/-- A word of a text that is no comment is a string where it holds a quote or
stands inside an open string, and elsewhere is what its spelling says. -/
theorem category_of_not_comment {text : Text} {position : Nat}
    {category : Category} {word : Text}
    (found : (classify text)[position]? = some (.word category word))
    (outside : category ≠ .comment) :
    (category = .string ↔
        '"' ∈ word ∨ StringOpen (wordsBefore (classify text) position)) ∧
      (category ≠ .string → Word.Spelled word category) := by
  have carried := category_eq_of_classify found
  rw [carried] at outside
  rw [Spans.category_of_ne_comment outside] at carried
  have quoteOrOpen :
      ((spansBefore (classify text) position).inString ||
          Word.hasQuote word) = true ↔
        '"' ∈ word ∨ StringOpen (wordsBefore (classify text) position) := by
    rw [Bool.or_eq_true, inString_iff_stringOpen, Word.hasQuote_iff]
    exact or_comm
  rw [← quoteOrOpen]
  split at carried
  · next inside => exact ⟨iff_of_true carried inside, absurd carried⟩
  · next noString =>
      have spelled : Word.Spelled word category :=
        carried ▸ Word.spelled_category word
      exact ⟨iff_of_false spelled.ne_string noString, fun _ => spelled⟩

/-- Behind two toggling words no string is open, and capitals make no
difference to an operator. -/
theorem category_of_not_comment_behind_string :
    (classify "x \"a b\" AND".toList)[6]? =
        some (.word .operator "AND".toList) ∧
      Category.operator ≠ .comment ∧
      ¬ StringOpen (wordsBefore (classify "x \"a b\" AND".toList) 6) ∧
      Word.Spelled "AND".toList .operator := by
  have found : (classify "x \"a b\" AND".toList)[6]? =
      some (.word .operator "AND".toList) := by
    rfl
  have outside : Category.operator ≠ .comment := by decide
  have noString : Category.operator ≠ .string := by decide
  obtain ⟨stringIff, spelled⟩ := category_of_not_comment found outside
  refine ⟨found, outside, ?_, spelled noString⟩
  intro stringOpen
  exact noString (stringIff.mpr (.inr stringOpen))

end CsdlHighlight

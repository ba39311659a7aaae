import CsdlHighlight.Text.Blank
import Mathlib.Data.List.Basic

/-!
Contract: trimming takes blanks off both ends of a text and nothing else.

Owns:
- the text around its trimmed part;
- `IsTrimmed`, texts of which nothing is taken off.

Does not own: which characters are blank.
-/

namespace CsdlHighlight.Text

theorem exists_blanks_trimEnd (text : Text) :
    ∃ right, text = trimEnd text ++ right ∧
      ∀ character ∈ right, isBlank character := by
  refine ⟨(text.reverse.takeWhile isBlank).reverse, ?_, ?_⟩
  · rw [trimEnd, ← List.reverse_append, List.takeWhile_append_dropWhile,
      List.reverse_reverse]
  · intro character member
    have taken := List.mem_reverse.mp member
    exact List.all_eq_true.mp List.all_takeWhile character taken

/-- A text is its trimmed part between two runs of blanks. -/
theorem exists_blanks_trim (text : Text) :
    ∃ left right, text = left ++ trim text ++ right ∧
      (∀ character ∈ left, isBlank character) ∧
      (∀ character ∈ right, isBlank character) := by
  obtain ⟨right, whole, rightBlank⟩ :=
    exists_blanks_trimEnd (text.dropWhile isBlank)
  refine ⟨text.takeWhile isBlank, right, ?_, ?_, rightBlank⟩
  · rw [trim, List.append_assoc, ← whole, List.takeWhile_append_dropWhile]
  · exact List.all_eq_true.mp List.all_takeWhile

/-- Trimming only takes characters away from the two ends. -/
theorem trim_isInfix (text : Text) : trim text <:+: text := by
  obtain ⟨left, right, whole, _⟩ := exists_blanks_trim text
  exact ⟨left, right, whole.symm⟩

/-! ## Texts without blanks at their ends -/

/-- A text that is not empty and has no blank at either end. -/
structure IsTrimmed (text : Text) : Prop where
  nonempty : text ≠ []
  starts : ∀ character ∈ text.head?, isBlank character = false
  ends : ∀ character ∈ text.getLast?, isBlank character = false

instance (text : Text) : Decidable (IsTrimmed text) :=
  decidable_of_iff
    (text ≠ [] ∧ text.head?.all (fun character => !isBlank character) ∧
      text.getLast?.all (fun character => !isBlank character)) <| by
    simp only [Option.all_eq_true, Bool.not_eq_true']
    exact ⟨fun ⟨nonempty, starts, ends⟩ => ⟨nonempty, starts, ends⟩,
      fun ⟨nonempty, starts, ends⟩ => ⟨nonempty, starts, ends⟩⟩

theorem dropWhile_isBlank_eq_self {text : Text}
    (starts : ∀ character ∈ text.head?, isBlank character = false) :
    text.dropWhile isBlank = text := by
  cases text with
  | nil => rfl
  | cons head tail =>
      have plain : isBlank head = false := starts head rfl
      rw [List.dropWhile_cons_of_neg (by simp [plain])]

namespace IsTrimmed

theorem trim_eq {text : Text} (trimmed : IsTrimmed text) : trim text = text := by
  have fromBehind : text.reverse.dropWhile isBlank = text.reverse := by
    apply dropWhile_isBlank_eq_self
    rw [List.head?_reverse]
    exact trimmed.ends
  rw [trim, dropWhile_isBlank_eq_self trimmed.starts, trimEnd, fromBehind,
    List.reverse_reverse]

/-- Whatever stands between two trimmed texts, the whole is trimmed. -/
theorem append {left right : Text} (leftTrimmed : IsTrimmed left)
    (between : Text) (rightTrimmed : IsTrimmed right) :
    IsTrimmed (left ++ (between ++ right)) where
  nonempty := List.append_ne_nil_of_left_ne_nil leftTrimmed.nonempty _
  starts := by
    rw [List.head?_append_of_ne_nil _ leftTrimmed.nonempty]
    exact leftTrimmed.starts
  ends := by
    rw [← List.append_assoc,
      List.getLast?_append_of_ne_nil _ rightTrimmed.nonempty]
    exact rightTrimmed.ends

/-- In front of a trimmed text only the blanks at the very start are taken
off. -/
theorem trim_append {right : Text} (rightTrimmed : IsTrimmed right)
    (left : Text) : trim (left ++ right) = left.dropWhile isBlank ++ right := by
  have front : (left ++ right).dropWhile isBlank =
      left.dropWhile isBlank ++ right := by
    rw [List.dropWhile_append]
    split
    · next allBlank =>
        rw [List.isEmpty_iff.mp allBlank, List.nil_append]
        exact dropWhile_isBlank_eq_self rightTrimmed.starts
    · rfl
  have behind : ((left.dropWhile isBlank ++ right).reverse).dropWhile isBlank =
      (left.dropWhile isBlank ++ right).reverse := by
    apply dropWhile_isBlank_eq_self
    rw [List.head?_reverse,
      List.getLast?_append_of_ne_nil _ rightTrimmed.nonempty]
    exact rightTrimmed.ends
  rw [trim, front, trimEnd, behind, List.reverse_reverse]

end IsTrimmed

end CsdlHighlight.Text

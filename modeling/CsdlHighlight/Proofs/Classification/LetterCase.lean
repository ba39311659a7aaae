import CsdlHighlight.Proofs.Classification.Trace
import CsdlHighlight.Proofs.Piece.Cut
import CsdlHighlight.Proofs.Word.LetterCase

/-!
Contract: texts without escapes that differ in the case of ASCII letters only
have the same highlighting.

Owns:
- pieces and events in small letters, and the classification of the former as
  the latter;
- `Event.SameButCase`, and the law for two texts.

Does not own: texts with a backslash.  There a small letter makes an escape
that its capital does not.
-/

namespace CsdlHighlight

open Text

/-! ## Pieces -/

namespace Piece

def small : Piece → Piece
  | .delimiter mark => .delimiter mark
  | .run characters => .run (characters.map Char.toLower)

theorem ofChar?_toLower (character : Char) :
    Delimiter.ofChar? character.toLower = Delimiter.ofChar? character :=
  eq_of_ascii_table Delimiter.ofChar? (by decide +kernel) character

theorem extend_map_small (character : Char) (pieces : List Piece) :
    extend character.toLower (pieces.map small) =
      (extend character pieces).map small := by
  cases pieces with
  | nil => rfl
  | cons head rest => cases head <;> rfl

/-- Delimiters have no letter case, so a text and its small form are cut at the
same places. -/
theorem cut_map_toLower (text : Text) :
    cut (text.map Char.toLower) = (cut text).map small := by
  induction text with
  | nil => rfl
  | cons character rest inductionHypothesis =>
      rw [List.map_cons, cut, cut, ofChar?_toLower, inductionHypothesis]
      cases Delimiter.ofChar? character with
      | none => exact extend_map_small character (cut rest)
      | some mark => rfl

end Piece

/-! ## Events -/

namespace Event

def small : Event → Event
  | .word category text => .word category (text.map Char.toLower)
  | .delimiter mark => .delimiter mark
  | .escapedLineBreak => .escapedLineBreak
  | .escapedTab => .escapedTab

/-- Two events of one kind, with the same delimiter or the same category.  The
texts of two words agree at every position up to the case of an ASCII letter. -/
inductive SameButCase : Event → Event → Prop where
  | word (category : Category) {left right : Text}
      (letters : List.Forall₂ SameLetter left right) :
      SameButCase (.word category left) (.word category right)
  | delimiter (mark : Delimiter) : SameButCase (.delimiter mark) (.delimiter mark)
  | escapedLineBreak : SameButCase .escapedLineBreak .escapedLineBreak
  | escapedTab : SameButCase .escapedTab .escapedTab

theorem sameButCase_of_small_eq {left right : Event}
    (equal : left.small = right.small) : SameButCase left right := by
  cases left with
  | word category text =>
      cases right with
      | word other otherText =>
          obtain ⟨rfl, letters⟩ := Event.word.inj equal
          exact .word category (forall₂_sameLetter_iff.mpr letters)
      | delimiter | escapedLineBreak | escapedTab => cases equal
  | delimiter mark =>
      cases right with
      | delimiter other =>
          obtain rfl := Event.delimiter.inj equal
          exact .delimiter mark
      | word | escapedLineBreak | escapedTab => cases equal
  | escapedLineBreak =>
      cases right with
      | escapedLineBreak => exact .escapedLineBreak
      | word | delimiter | escapedTab => cases equal
  | escapedTab =>
      cases right with
      | escapedTab => exact .escapedTab
      | word | delimiter | escapedLineBreak => cases equal

theorem forall₂_sameButCase_of_map_small_eq {left right : List Event}
    (equal : left.map small = right.map small) :
    List.Forall₂ SameButCase left right := by
  induction left generalizing right with
  | nil =>
      obtain rfl := List.map_eq_nil_iff.mp equal.symm
      exact .nil
  | cons event rest inductionHypothesis =>
      obtain ⟨other, others, rfl, same, behind⟩ :=
        List.map_eq_cons_iff.mp equal.symm
      exact .cons (sameButCase_of_small_eq same.symm)
        (inductionHypothesis behind.symm)

end Event

/-! ## Classification -/

/-- Where there is no backslash, there is nothing to expand. -/
theorem Expansion.ofRun_of_no_backslash {run : Text} (noEscape : '\\' ∉ run) :
    Expansion.ofRun run = ⟨false, false, run⟩ := by
  have noLineBreak : ¬ lineBreakEscape <:+: run := by
    intro present
    exact noEscape (present.subset (by decide))
  have noTab : ¬ tabEscape <:+: run := by
    intro present
    exact noEscape (present.subset (by decide))
  simp only [Expansion.ofRun, eraseFirst_of_not_isInfix noLineBreak,
    eraseFirst_of_not_isInfix noTab, occurs_eq_false_iff.mpr noLineBreak,
    occurs_eq_false_iff.mpr noTab]

namespace Piece

theorem classify_small (spans : Spans) {piece : Piece}
    (noEscape : '\\' ∉ piece.characters) :
    piece.small.classify spans =
      ((piece.classify spans).1.map Event.small, (piece.classify spans).2) := by
  cases piece with
  | delimiter mark => rfl
  | run characters =>
      have noEscape : '\\' ∉ characters := noEscape
      have noEscapeSmall : '\\' ∉ characters.map Char.toLower := by
        rwa [mem_map_toLower_iff (by decide)]
      simp only [small, classify, Expansion.ofRun_of_no_backslash noEscape,
        Expansion.ofRun_of_no_backslash noEscapeSmall,
        spans.ignoresCase_category characters,
        spans.ignoresCase_after characters]
      rfl

theorem classifyAll_map_small (spans : Spans) {pieces : List Piece}
    (noEscape : '\\' ∉ pieces.flatMap characters) :
    classifyAll spans (pieces.map small) =
      ((classifyAll spans pieces).1.map Event.small,
        (classifyAll spans pieces).2) := by
  -- The spans ignore case, so both lists go on from the same ones.
  induction pieces generalizing spans with
  | nil => rfl
  | cons piece rest inductionHypothesis =>
      rw [List.flatMap_cons, List.mem_append, not_or] at noEscape
      obtain ⟨noEscapeHere, noEscapeBehind⟩ := noEscape
      rw [List.map_cons, classifyAll_cons, classifyAll_cons,
        classify_small spans noEscapeHere, inductionHypothesis _ noEscapeBehind,
        List.map_append]

end Piece

/-- The small form of a text has the events of the text in their small form. -/
theorem classify_map_toLower {text : Text} (noEscape : '\\' ∉ text) :
    classify (text.map Char.toLower) = (classify text).map Event.small := by
  have noEscapeInside : '\\' ∉ (Piece.cut (trim text)).flatMap
      Piece.characters := by
    rw [Piece.flatMap_characters_cut]
    intro inside
    exact noEscape ((trim_isInfix text).subset inside)
  unfold classify classifyFrom
  rw [trim_map_toLower, Piece.cut_map_toLower,
    Piece.classifyAll_map_small .closed noEscapeInside]

/-- Highlighting ignores case: two texts without a backslash that agree at every
position up to the case of an ASCII letter have events that agree at every
position, delimiters and categories included. -/
theorem classify_ignores_case {left right : Text} (noEscape : '\\' ∉ left)
    (same : List.Forall₂ SameLetter left right) :
    List.Forall₂ Event.SameButCase (classify left) (classify right) := by
  have smallSame := forall₂_sameLetter_iff.mp same
  have noEscapeRight : '\\' ∉ right := by
    rwa [← mem_map_toLower_iff (by decide), ← smallSame,
      mem_map_toLower_iff (by decide)]
  apply Event.forall₂_sameButCase_of_map_small_eq
  calc
    (classify left).map Event.small = classify (left.map Char.toLower) :=
      (classify_map_toLower noEscape).symm
    _ = classify (right.map Char.toLower) := by rw [smallSame]
    _ = (classify right).map Event.small := classify_map_toLower noEscapeRight

/-- The kelvin sign has the small form of a letter without being one, a long s
is no letter of the vocabulary, and neither changes what is around it. -/
theorem classify_ignores_case_of_mixed_text :
    let left := "Tag.K IN \"Ä\" ſTREAM // AND\nReturn".toList
    let right := "tAG.K in \"Ä\" ſtream // and\nrETURN".toList
    '\\' ∉ left ∧ List.Forall₂ SameLetter left right ∧
      List.Forall₂ Event.SameButCase (classify left) (classify right) ∧
      .word .keyword "Return".toList ∈ classify left ∧
      .word .keyword "rETURN".toList ∈ classify right := by
  intro left right
  have noEscape : '\\' ∉ left := by decide
  have same : List.Forall₂ SameLetter left right := by
    rw [forall₂_sameLetter_iff]
    decide +kernel
  exact ⟨noEscape, same, classify_ignores_case noEscape same,
    by decide +kernel, by decide +kernel⟩

end CsdlHighlight

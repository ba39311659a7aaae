import CsdlHighlight.Piece
import Mathlib.Data.List.Chain

/-!
Contract: the cut of a text into pieces loses nothing and is the only one at
maximal runs.

Owns:
- the reading of delimiters off single characters;
- `Piece.Maximal`, pieces whose runs cannot be made longer;
- `Piece.cut_eq_iff`, which determines the cut by these two facts;
- the cut of two texts joined by a delimiter.

Does not own: the events of a piece.
-/

namespace CsdlHighlight

namespace Delimiter

/-- A text that holds none of the seven delimiters. -/
def AbsentFrom (text : Text) : Prop :=
  ∀ mark : Delimiter, mark.character ∉ text

theorem ofChar?_character (mark : Delimiter) :
    ofChar? mark.character = some mark := by
  cases mark <;> rfl

theorem ofChar?_eq_some_iff {character : Char} {mark : Delimiter} :
    ofChar? character = some mark ↔ mark.character = character := by
  constructor
  · intro read
    unfold ofChar? at read
    split at read <;> cases read <;> rfl
  · rintro rfl
    exact ofChar?_character mark

theorem ofChar?_eq_none_iff {character : Char} :
    ofChar? character = none ↔ ∀ mark : Delimiter, mark.character ≠ character := by
  simp only [Option.eq_none_iff_forall_not_mem, Option.mem_def,
    ofChar?_eq_some_iff, ne_eq]

theorem absentFrom_nil : AbsentFrom [] := by
  intro mark
  exact List.not_mem_nil

theorem absentFrom_cons_iff {character : Char} {text : Text} :
    AbsentFrom (character :: text) ↔
      ofChar? character = none ∧ AbsentFrom text := by
  simp only [AbsentFrom, ofChar?_eq_none_iff, List.mem_cons, not_or,
    forall_and, ne_eq]

theorem absentFrom_append_iff {left right : Text} :
    AbsentFrom (left ++ right) ↔ AbsentFrom left ∧ AbsentFrom right := by
  simp only [AbsentFrom, List.mem_append, not_or, forall_and]

end Delimiter

namespace Piece

/-! ## Maximal runs -/

/-- Runs are not empty, hold no delimiter and never stand side by side. -/
inductive Maximal : List Piece → Prop where
  | nil : Maximal []
  | delimiter (mark : Delimiter) {rest : List Piece}
      (tail : Maximal rest) :
      Maximal (.delimiter mark :: rest)
  | run {characters : Text} {rest : List Piece}
      (nonempty : characters ≠ [])
      (plain : Delimiter.AbsentFrom characters)
      (edge : ∀ other, rest.head? ≠ some (.run other))
      (tail : Maximal rest) :
      Maximal (.run characters :: rest)

def isRun : Piece → Bool
  | .delimiter _ => false
  | .run _ => true

theorem Maximal.run_of_mem {pieces : List Piece} (maximal : Maximal pieces)
    {characters : Text} (member : .run characters ∈ pieces) :
    characters ≠ [] ∧ Delimiter.AbsentFrom characters := by
  induction maximal with
  | nil => cases member
  | delimiter mark tail inductionHypothesis =>
      have inTail := (List.mem_cons.mp member).resolve_left (by simp)
      exact inductionHypothesis inTail
  | run nonempty plain edge tail inductionHypothesis =>
      rcases List.mem_cons.mp member with here | inTail
      · cases here
        exact ⟨nonempty, plain⟩
      · exact inductionHypothesis inTail

theorem Maximal.isChain {pieces : List Piece} (maximal : Maximal pieces) :
    pieces.IsChain (fun left right => ¬ (left.isRun ∧ right.isRun)) := by
  induction maximal with
  | nil => exact List.isChain_nil
  | delimiter mark tail inductionHypothesis =>
      refine List.isChain_cons.mpr ⟨?_, inductionHypothesis⟩
      intro next _ both
      exact Bool.noConfusion both.1
  | run nonempty plain edge tail inductionHypothesis =>
      refine List.isChain_cons.mpr ⟨?_, inductionHypothesis⟩
      intro next atHead both
      cases next with
      | delimiter mark => exact Bool.noConfusion both.2
      | run other => exact edge other atHead

/-! ## Characters put in front of pieces -/

theorem flatMap_characters_extend (character : Char) (pieces : List Piece) :
    (extend character pieces).flatMap characters =
      character :: pieces.flatMap characters := by
  cases pieces with
  | nil => rfl
  | cons head rest => cases head <;> rfl

theorem Maximal.extend {pieces : List Piece} (maximal : Maximal pieces)
    {character : Char} (plain : Delimiter.ofChar? character = none) :
    Maximal (extend character pieces) := by
  have alone : Delimiter.AbsentFrom [character] :=
    Delimiter.absentFrom_cons_iff.mpr ⟨plain, Delimiter.absentFrom_nil⟩
  cases maximal with
  | nil =>
      exact .run (List.cons_ne_nil _ _) alone (by simp) .nil
  | delimiter mark tail =>
      exact .run (List.cons_ne_nil _ _) alone (by simp) (.delimiter mark tail)
  | run nonempty rest edge tail =>
      exact .run (List.cons_ne_nil _ _)
        (Delimiter.absentFrom_cons_iff.mpr ⟨plain, rest⟩) edge tail

/-- A run at the head swallows the character only if a run stands there; after
a delimiter at the head nothing changes. -/
theorem extend_append_delimiter (character : Char) (left : List Piece)
    (mark : Delimiter) (right : List Piece) :
    extend character (left ++ .delimiter mark :: right) =
      extend character left ++ .delimiter mark :: right := by
  cases left with
  | nil => rfl
  | cons head rest => cases head <;> rfl

/-! ## The cut -/

theorem cut_cons_delimiter (mark : Delimiter) (rest : Text) :
    cut (mark.character :: rest) = .delimiter mark :: cut rest := by
  simp only [cut, Delimiter.ofChar?_character]

theorem cut_cons_plain {character : Char}
    (plain : Delimiter.ofChar? character = none) (rest : Text) :
    cut (character :: rest) = extend character (cut rest) := by
  simp only [cut, plain]

/-- Nothing of the text is lost, doubled or moved. -/
theorem flatMap_characters_cut (text : Text) :
    (cut text).flatMap characters = text := by
  induction text with
  | nil => rfl
  | cons character rest inductionHypothesis =>
      cases read : Delimiter.ofChar? character with
      | none =>
          rw [cut_cons_plain read, flatMap_characters_extend,
            inductionHypothesis]
      | some mark =>
          obtain rfl := Delimiter.ofChar?_eq_some_iff.mp read
          rw [cut_cons_delimiter, List.flatMap_cons, inductionHypothesis]
          rfl

/-- Cutting leaves no run next to another one. -/
theorem maximal_cut (text : Text) : Maximal (cut text) := by
  induction text with
  | nil => exact .nil
  | cons character rest inductionHypothesis =>
      cases read : Delimiter.ofChar? character with
      | none =>
          rw [cut_cons_plain read]
          exact inductionHypothesis.extend read
      | some mark =>
          obtain rfl := Delimiter.ofChar?_eq_some_iff.mp read
          rw [cut_cons_delimiter]
          exact .delimiter mark inductionHypothesis

/-- A text of plain characters in front joins the run at the head of a cut. -/
theorem cut_plain_append {characters : Text}
    (plain : Delimiter.AbsentFrom characters) (nonempty : characters ≠ [])
    {rest : Text} (edge : ∀ other, (cut rest).head? ≠ some (.run other)) :
    cut (characters ++ rest) = .run characters :: cut rest := by
  induction characters with
  | nil => exact absurd rfl nonempty
  | cons character others inductionHypothesis =>
      have split := Delimiter.absentFrom_cons_iff.mp plain
      rw [List.cons_append, cut_cons_plain split.1]
      cases others with
      | nil =>
          rw [List.nil_append]
          cases pieces : cut rest with
          | nil => rfl
          | cons head tail =>
              cases head with
              | delimiter mark => rfl
              | run other => exact absurd (by rw [pieces]; rfl) (edge other)
      | cons next others =>
          rw [inductionHypothesis split.2 (List.cons_ne_nil _ _)]
          rfl

/-- Maximal pieces are the cut of their own characters. -/
theorem Maximal.cut_flatMap_characters {pieces : List Piece}
    (maximal : Maximal pieces) :
    cut (pieces.flatMap characters) = pieces := by
  induction maximal with
  | nil => rfl
  | delimiter mark tail inductionHypothesis =>
      rw [List.flatMap_cons]
      exact (cut_cons_delimiter mark _).trans
        (congrArg (.delimiter mark :: ·) inductionHypothesis)
  | @run characters rest nonempty plain edge tail inductionHypothesis =>
      have sameEdge : ∀ other,
          (cut (rest.flatMap Piece.characters)).head? ≠ some (.run other) := by
        rw [inductionHypothesis]
        exact edge
      rw [List.flatMap_cons]
      exact (cut_plain_append plain nonempty sameEdge).trans
        (congrArg (.run characters :: ·) inductionHypothesis)

/-- The cut is the only list of maximal pieces that the text is made of. -/
theorem cut_eq_iff {text : Text} {pieces : List Piece} :
    cut text = pieces ↔
      pieces.flatMap characters = text ∧ Maximal pieces := by
  constructor
  · rintro rfl
    exact ⟨flatMap_characters_cut text, maximal_cut text⟩
  · rintro ⟨rfl, maximal⟩
    exact maximal.cut_flatMap_characters

/-- A delimiter separates the cuts of the texts on its two sides. -/
theorem cut_append_delimiter (before : Text) (mark : Delimiter) (after : Text) :
    cut (before ++ mark.character :: after) =
      cut before ++ .delimiter mark :: cut after := by
  induction before with
  | nil => exact cut_cons_delimiter mark after
  | cons character rest inductionHypothesis =>
      rw [List.cons_append]
      cases read : Delimiter.ofChar? character with
      | none =>
          rw [cut_cons_plain read, cut_cons_plain read, inductionHypothesis,
            extend_append_delimiter]
      | some other =>
          obtain rfl := Delimiter.ofChar?_eq_some_iff.mp read
          rw [cut_cons_delimiter, cut_cons_delimiter, inductionHypothesis,
            List.cons_append]

end Piece

end CsdlHighlight

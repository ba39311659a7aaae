import CsdlHighlight.Text.Basic

/-!
Contract: writings that can be told apart from the front.

Owns:
- texts that end at the first occurrence of a character;
- `PrefixCode` and the unambiguity of a list of symbols written one after
  another.

Does not own: any particular writing of symbols.
-/

namespace CsdlHighlight

/-- A text without the character `stop` ends where that character follows. -/
theorem Text.eq_of_append_stop_eq {stop : Char}
    {left right leftRest rightRest : Text}
    (leftFree : stop ∉ left) (rightFree : stop ∉ right)
    (equal : left ++ stop :: leftRest = right ++ stop :: rightRest) :
    left = right ∧ leftRest = rightRest := by
  induction left generalizing right with
  | nil =>
      cases right with
      | nil => exact ⟨rfl, (List.cons.inj equal).2⟩
      | cons head tail =>
          exact absurd ((List.cons.inj equal).1 ▸ List.mem_cons_self) rightFree
  | cons head tail inductionHypothesis =>
      cases right with
      | nil =>
          exact absurd ((List.cons.inj equal).1 ▸ List.mem_cons_self) leftFree
      | cons other others =>
          obtain ⟨rfl, tailEqual⟩ := List.cons.inj equal
          obtain ⟨rfl, restEqual⟩ := inductionHypothesis
            (List.not_mem_of_not_mem_cons leftFree)
            (List.not_mem_of_not_mem_cons rightFree) tailEqual
          exact ⟨rfl, restEqual⟩

/-- A writing of the admissible symbols in which the first symbol and the rest
of a text can be read in one way only, whatever the rest is. -/
structure PrefixCode {Symbol : Type} (Admissible : Symbol → Prop)
    (write : Symbol → Text) : Prop where
  nonempty : ∀ symbol, Admissible symbol → write symbol ≠ []
  cancel : ∀ {left right : Symbol} {leftRest rightRest : Text},
    Admissible left → Admissible right →
      write left ++ leftRest = write right ++ rightRest →
        left = right ∧ leftRest = rightRest

/-- Two lists of symbols with one writing are one list. -/
theorem PrefixCode.eq_of_flatMap_eq {Symbol : Type}
    {Admissible : Symbol → Prop} {write : Symbol → Text}
    (code : PrefixCode Admissible write) {left right : List Symbol}
    (leftAdmissible : ∀ symbol ∈ left, Admissible symbol)
    (rightAdmissible : ∀ symbol ∈ right, Admissible symbol)
    (equal : left.flatMap write = right.flatMap write) :
    left = right := by
  induction left generalizing right with
  | nil =>
      cases right with
      | nil => rfl
      | cons symbol rest =>
          have empty := (List.append_eq_nil_iff.mp equal.symm).1
          exact absurd empty
            (code.nonempty symbol (rightAdmissible symbol List.mem_cons_self))
  | cons symbol rest inductionHypothesis =>
      cases right with
      | nil =>
          have empty := (List.append_eq_nil_iff.mp equal).1
          exact absurd empty
            (code.nonempty symbol (leftAdmissible symbol List.mem_cons_self))
      | cons other others =>
          obtain ⟨headAdmissible, restAdmissible⟩ :=
            List.forall_mem_cons.mp leftAdmissible
          obtain ⟨otherAdmissible, othersAdmissible⟩ :=
            List.forall_mem_cons.mp rightAdmissible
          obtain ⟨same, restEqual⟩ :=
            code.cancel headAdmissible otherAdmissible equal
          rw [same, inductionHypothesis restAdmissible othersAdmissible
            restEqual]

end CsdlHighlight

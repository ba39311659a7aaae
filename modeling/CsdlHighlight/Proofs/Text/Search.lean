import CsdlHighlight.Text.Basic

/-!
Contract: what the search for a pattern in a text finds.

Owns:
- `IsFirstCut`, the cut of a text around the first occurrence of a pattern,
  stated without the search;
- the agreement of `splitFirst?`, `occurs`, `replaceFirst` and `eraseFirst`
  with occurrences as infixes.

Does not own: the patterns of the highlighted language.
-/

namespace CsdlHighlight.Text

/-- The text is cut around an occurrence of the pattern, and no occurrence
begins further left. -/
structure IsFirstCut (pattern text before after : Text) : Prop where
  whole : text = before ++ pattern ++ after
  first : ∀ otherBefore otherAfter,
    text = otherBefore ++ pattern ++ otherAfter →
      before.length ≤ otherBefore.length

namespace IsFirstCut

variable {pattern text before after : Text}

/-- A pattern at the head of a text occurs there first. -/
theorem ofPrefix (pattern rest : Text) :
    IsFirstCut pattern (pattern ++ rest) [] rest where
  whole := rfl
  first := by
    intro otherBefore otherAfter _
    exact Nat.zero_le otherBefore.length

/-- In front of a first cut a character may be put that begins no occurrence. -/
theorem cons (cut : IsFirstCut pattern text before after) {head : Char}
    (notHere : ¬ pattern <+: head :: text) :
    IsFirstCut pattern (head :: text) (head :: before) after where
  whole := by
    rw [cut.whole]
    rfl
  first := by
    intro otherBefore otherAfter whole
    cases otherBefore with
    | nil =>
        exact absurd ⟨otherAfter, whole.symm⟩ notHere
    | cons otherHead otherRest =>
        have tailWhole : text = otherRest ++ pattern ++ otherAfter := by
          simpa using (List.cons.inj whole).2
        exact Nat.succ_le_succ (cut.first otherRest otherAfter tailWhole)

/-- A text that is cut around a pattern holds it. -/
theorem isInfix (cut : IsFirstCut pattern text before after) :
    pattern <:+: text :=
  ⟨before, after, cut.whole.symm⟩

/-- There is one first cut at most. -/
theorem unique (cut : IsFirstCut pattern text before after)
    {otherBefore otherAfter : Text}
    (other : IsFirstCut pattern text otherBefore otherAfter) :
    before = otherBefore ∧ after = otherAfter := by
  have sameLength : before.length = otherBefore.length :=
    Nat.le_antisymm (cut.first _ _ other.whole) (other.first _ _ cut.whole)
  have sameWhole : before ++ (pattern ++ after) =
      otherBefore ++ (pattern ++ otherAfter) := by
    rw [← List.append_assoc, ← List.append_assoc, ← cut.whole, ← other.whole]
  obtain ⟨sameBefore, sameBehind⟩ := List.append_inj sameWhole sameLength
  exact ⟨sameBefore, List.append_cancel_left sameBehind⟩

end IsFirstCut

/-! ## The search -/

theorem isFirstCut_of_splitFirst? {pattern text before after : Text}
    (found : splitFirst? pattern text = some (before, after)) :
    IsFirstCut pattern text before after := by
  induction text generalizing before with
  | nil =>
      simp only [splitFirst?] at found
      split at found
      · next empty =>
          obtain rfl : pattern = [] := List.isEmpty_iff.mp empty
          cases found
          exact IsFirstCut.ofPrefix [] []
      · cases found
  | cons head tail inductionHypothesis =>
      simp only [splitFirst?] at found
      split at found
      · next atHead =>
          cases found
          obtain ⟨rest, whole⟩ := List.isPrefixOf_iff_prefix.mp atHead
          rw [← whole, List.drop_left]
          exact IsFirstCut.ofPrefix pattern rest
      · next notAtHead =>
          obtain ⟨⟨tailBefore, tailAfter⟩, tailFound, cutEqual⟩ :=
            Option.map_eq_some_iff.mp found
          cases cutEqual
          exact (inductionHypothesis tailFound).cons
            (fun atHead => notAtHead (List.isPrefixOf_iff_prefix.mpr atHead))

theorem not_isInfix_of_splitFirst?_eq_none {pattern text : Text}
    (missing : splitFirst? pattern text = none) : ¬ pattern <:+: text := by
  induction text with
  | nil =>
      simp only [splitFirst?] at missing
      split at missing
      · cases missing
      · next nonempty => simpa using nonempty
  | cons head tail inductionHypothesis =>
      simp only [splitFirst?] at missing
      split at missing
      · cases missing
      · next notAtHead =>
          have tailMissing : splitFirst? pattern tail = none :=
            Option.map_eq_none_iff.mp missing
          rw [List.infix_cons_iff, ← List.isPrefixOf_iff_prefix]
          exact not_or.mpr ⟨notAtHead, inductionHypothesis tailMissing⟩

/-! ## The operations read off the search -/

theorem occurs_iff {pattern text : Text} :
    occurs pattern text = true ↔ pattern <:+: text := by
  unfold occurs
  cases found : splitFirst? pattern text with
  | none =>
      simp [not_isInfix_of_splitFirst?_eq_none found]
  | some cut =>
      simp [(isFirstCut_of_splitFirst? found).isInfix]

theorem occurs_eq_false_iff {pattern text : Text} :
    occurs pattern text = false ↔ ¬ pattern <:+: text := by
  rw [← occurs_iff, Bool.not_eq_true]

/-- A pattern does not occur where one of its characters is missing. -/
theorem occurs_of_not_mem {pattern text : Text} {character : Char}
    (inPattern : character ∈ pattern) (absent : character ∉ text) :
    occurs pattern text = false := by
  rw [occurs_eq_false_iff]
  intro present
  exact absent (present.subset inPattern)

/-- The replacement stands where the pattern occurred first, between the two
sides of the cut. -/
theorem replaceFirst_of_isInfix {pattern text : Text} (replacement : Text)
    (present : pattern <:+: text) :
    ∃ before after, IsFirstCut pattern text before after ∧
      replaceFirst pattern replacement text =
        before ++ replacement ++ after := by
  unfold replaceFirst
  cases found : splitFirst? pattern text with
  | none =>
      exact absurd present (not_isInfix_of_splitFirst?_eq_none found)
  | some cut =>
      exact ⟨cut.1, cut.2, isFirstCut_of_splitFirst? found, rfl⟩

theorem IsFirstCut.replaceFirst_eq {pattern text before after : Text}
    (cut : IsFirstCut pattern text before after) (replacement : Text) :
    replaceFirst pattern replacement text = before ++ replacement ++ after := by
  obtain ⟨otherBefore, otherAfter, found, replaced⟩ :=
    replaceFirst_of_isInfix replacement cut.isInfix
  obtain ⟨rfl, rfl⟩ := cut.unique found
  exact replaced

/-- Without the pattern there is nothing to replace. -/
theorem replaceFirst_of_not_isInfix {pattern text : Text} (replacement : Text)
    (absent : ¬ pattern <:+: text) :
    replaceFirst pattern replacement text = text := by
  unfold replaceFirst
  cases found : splitFirst? pattern text with
  | none => rfl
  | some cut =>
      exact absurd (isFirstCut_of_splitFirst? found).isInfix absent

theorem eraseFirst_of_isInfix {pattern text : Text}
    (present : pattern <:+: text) :
    ∃ before after, IsFirstCut pattern text before after ∧
      eraseFirst pattern text = before ++ after := by
  simpa [eraseFirst] using replaceFirst_of_isInfix [] present

theorem IsFirstCut.eraseFirst_eq {pattern text before after : Text}
    (cut : IsFirstCut pattern text before after) :
    eraseFirst pattern text = before ++ after := by
  simpa [eraseFirst] using cut.replaceFirst_eq []

theorem eraseFirst_of_not_isInfix {pattern text : Text}
    (absent : ¬ pattern <:+: text) : eraseFirst pattern text = text :=
  replaceFirst_of_not_isInfix [] absent

/-- A character that begins no occurrence stays in front. -/
theorem eraseFirst_cons {pattern : Text} {head : Char} {tail : Text}
    (notHere : ¬ pattern <+: head :: tail) :
    eraseFirst pattern (head :: tail) = head :: eraseFirst pattern tail := by
  by_cases present : pattern <:+: tail
  · obtain ⟨before, after, cut, erased⟩ := eraseFirst_of_isInfix present
    rw [(cut.cons notHere).eraseFirst_eq, erased, List.cons_append]
  · have absent : ¬ pattern <:+: head :: tail := by
      rw [List.infix_cons_iff]
      exact not_or.mpr ⟨notHere, present⟩
    rw [eraseFirst_of_not_isInfix absent, eraseFirst_of_not_isInfix present]

end CsdlHighlight.Text

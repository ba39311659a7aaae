import CsdlHighlight.Text.Basic
import Mathlib.Data.List.Infix

/-!
Contract: how often a pattern occurs in a text.

Owns:
- `occurrences`, the number of places at which a pattern stands;
- the places passed over because the first character of the pattern is not
  there;
- patterns that cannot reach past a character they do not hold.

Does not own: the first occurrence, or replacement.
-/

namespace CsdlHighlight.Text

def occurrences (pattern text : Text) : Nat :=
  text.tails.countP fun rest => pattern.isPrefixOf rest

theorem occurrences_cons (pattern : Text) (head : Char) (rest : Text) :
    occurrences pattern (head :: rest) =
      (if pattern.isPrefixOf (head :: rest) then 1 else 0) +
        occurrences pattern rest := by
  rw [occurrences, List.tails_cons, List.countP_cons, Nat.add_comm]
  rfl

/-- Where the first character of the pattern is missing, nothing occurs. -/
theorem occurrences_append_of_not_mem {head : Char} {text : Text}
    (absent : head ∉ text) (pattern rest : Text) :
    occurrences (head :: pattern) (text ++ rest) =
      occurrences (head :: pattern) rest := by
  induction text with
  | nil => rfl
  | cons first others inductionHypothesis =>
      obtain ⟨differs, absentBehind⟩ := not_or.mp (List.mem_cons.not.mp absent)
      have notHere :
          (head :: pattern).isPrefixOf (first :: (others ++ rest)) = false := by
        simp [List.isPrefixOf, differs]
      rw [List.cons_append, occurrences_cons, notHere,
        inductionHypothesis absentBehind]
      exact Nat.zero_add _

/-- A pattern that may hold `stop` only at its end is decided at the first
`stop` of a text. -/
theorem isPrefixOf_append_stop {stop : Char} {inside : Text} {pattern : Text}
    (early : stop ∉ pattern.dropLast) (rest : Text) :
    pattern.isPrefixOf (inside ++ stop :: rest) =
      pattern.isPrefixOf (inside ++ [stop]) := by
  induction pattern generalizing inside with
  | nil => simp [List.isPrefixOf]
  | cons head tail inductionHypothesis =>
      cases inside with
      | nil =>
          cases tail with
          | nil => simp [List.isPrefixOf]
          | cons next others =>
              -- The pattern goes on behind its head, which is not its end.
              have differs : head ≠ stop := by
                rintro rfl
                exact early List.mem_cons_self
              simp [List.isPrefixOf, differs]
      | cons first others =>
          have earlyBehind : stop ∉ tail.dropLast := by
            intro member
            apply early
            cases tail with
            | nil => simp at member
            | cons next behind =>
                rw [List.dropLast_cons_cons]
                exact List.mem_cons_of_mem _ member
          simp [List.isPrefixOf, inductionHypothesis earlyBehind]

end CsdlHighlight.Text

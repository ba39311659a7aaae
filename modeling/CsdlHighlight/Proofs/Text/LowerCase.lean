import CsdlHighlight.Text.LowerCase
import Mathlib.Data.List.Basic

/-!
Contract: full lower-casing agrees with ASCII lower-casing wherever the result
is compared with an ASCII text.

Owns:
- the small letters of ASCII characters and of all others;
- `lowered_eq_iff`, for texts whose characters are the small letters of ASCII
  characters only;
- `LowersTo`, lower-casing with either small form of sigma, which agrees with
  `lowered` on the same texts.

Does not own: the vocabulary of the highlighted language.
-/

namespace CsdlHighlight.Text

/-- An ASCII character that is the small letter of no character outside ASCII.
The one exception is `k`, which is also the small letter of the kelvin sign. -/
def OnlyFromAscii (small : Char) : Prop :=
  small.toNat < 128 ∧ small ≠ 'k'

instance (small : Char) : Decidable (OnlyFromAscii small) :=
  inferInstanceAs (Decidable (_ ∧ _))

/-! ## Single characters -/

/-- A run outside ASCII has its small letters there too, the kelvin sign apart. -/
theorem caseRuns_outside_ascii :
    ∀ run ∈ caseRuns, run.last < 128 ∨ 128 ≤ run.small ∨
      run = ⟨0x212A, 0x212A, 1, 0x6B⟩ := by
  decide +kernel

/-- The small letters of a run lie on one side of the surrogates. -/
theorem caseRuns_scalar :
    ∀ run ∈ caseRuns, run.last - run.first + run.small < 0xD800 ∨
      (0xE000 ≤ run.small ∧ run.last - run.first + run.small < 0x110000) := by
  decide +kernel

theorem toNat_ofNat_lower {run : CaseRun} (member : run ∈ caseRuns) {code : Nat}
    (holds : run.holds code = true) :
    (Char.ofNat (run.lower code)).toNat = run.lower code := by
  simp only [CaseRun.holds, Bool.and_eq_true, decide_eq_true_eq] at holds
  have valid : (run.lower code).isValidChar := by
    unfold CaseRun.lower Nat.isValidChar
    rcases caseRuns_scalar run member with below | above <;> omega
  rw [Char.ofNat, dif_pos valid]
  rfl

theorem loweredChar_of_ascii {character : Char}
    (ascii : character.toNat < 128) :
    loweredChar character = [character.toLower] := by
  have table : ∀ code < 128,
      loweredChar (Char.ofNat code) = [(Char.ofNat code).toLower] := by
    decide +kernel
  simpa using table character.toNat ascii

/-- Outside ASCII, some character of the small form shows where it came from. -/
theorem exists_mem_loweredChar {character : Char}
    (outside : 128 ≤ character.toNat) :
    ∃ small ∈ loweredChar character, ¬ OnlyFromAscii small := by
  unfold loweredChar
  split
  · exact ⟨Char.ofNat 0x307, by simp, by decide⟩
  · split
    · next run found =>
        have member := List.mem_of_find?_eq_some found
        have holds := List.find?_some found
        refine ⟨_, List.mem_singleton_self _, ?_⟩
        rintro ⟨ascii, notK⟩
        rw [toNat_ofNat_lower member holds] at ascii
        simp only [CaseRun.holds, Bool.and_eq_true, decide_eq_true_eq] at holds
        rcases caseRuns_outside_ascii run member with inAscii | small | kelvin
        · omega
        · unfold CaseRun.lower at ascii
          omega
        · subst kelvin
          have same : character.toNat = 0x212A := by
            simpa using Nat.le_antisymm holds.1.2 holds.1.1
          rw [same] at notK
          exact notK rfl
    · exact ⟨character, by simp, fun ⟨ascii, _⟩ => by omega⟩

theorem toLower_of_not_ascii {character : Char}
    (outside : 128 ≤ character.toNat) : character.toLower = character := by
  unfold Char.toLower
  rw [dif_neg]
  rintro ⟨_, atMostZ⟩
  have below : character.toNat ≤ 90 := atMostZ
  omega

/-! ## Texts -/

theorem lowered_of_ascii {text : Text}
    (ascii : ∀ character ∈ text, character.toNat < 128) :
    lowered text = text.map Char.toLower := by
  rw [lowered, List.map_eq_flatMap]
  exact List.flatMap_congr fun character member =>
    loweredChar_of_ascii (ascii character member)

/-- Against such a text, lower-casing is that of ASCII letters alone. -/
theorem lowered_eq_iff {text small : Text}
    (fromAscii : ∀ character ∈ small, OnlyFromAscii character) :
    lowered text = small ↔ text.map Char.toLower = small := by
  constructor
  · intro equal
    rw [← equal] at fromAscii ⊢
    refine (lowered_of_ascii fun character member => ?_).symm
    by_contra outside
    obtain ⟨shown, inChar, notFrom⟩ :=
      exists_mem_loweredChar (Nat.le_of_not_lt outside)
    exact notFrom
      (fromAscii shown (List.mem_flatMap.mpr ⟨character, member, inChar⟩))
  · intro equal
    rw [← equal] at fromAscii ⊢
    refine lowered_of_ascii fun character member => ?_
    by_contra outside
    have mapped := fromAscii _ (List.mem_map_of_mem member)
    rw [toLower_of_not_ascii (Nat.le_of_not_lt outside)] at mapped
    exact outside mapped.1

theorem lowered_mem_iff {text : Text} {vocabulary : List Text}
    (fromAscii : ∀ entry ∈ vocabulary, ∀ character ∈ entry,
      OnlyFromAscii character) :
    lowered text ∈ vocabulary ↔ text.map Char.toLower ∈ vocabulary := by
  constructor
  · intro member
    rwa [(lowered_eq_iff (fromAscii _ member)).mp rfl]
  · intro member
    rwa [(lowered_eq_iff (fromAscii _ member)).mpr rfl]

/-! ## The two small sigmas -/

/-- A lower case of a text.  The letters around a capital sigma choose one of
its two small forms; here it may have either. -/
inductive LowersTo : Text → Text → Prop where
  | nil : LowersTo [] []
  | cons (character : Char) {rest small : Text} (behind : LowersTo rest small) :
      LowersTo (character :: rest) (loweredChar character ++ small)
  | finalSigma {rest small : Text} (behind : LowersTo rest small) :
      LowersTo ('Σ' :: rest) ('ς' :: small)

theorem lowersTo_lowered (text : Text) : LowersTo text (lowered text) := by
  induction text with
  | nil => exact .nil
  | cons character rest inductionHypothesis =>
      exact .cons character inductionHypothesis

/-- A lower case that is reached from ASCII alone is the only one. -/
theorem LowersTo.eq_lowered {text small : Text} (lowers : LowersTo text small)
    (fromAscii : ∀ character ∈ small, OnlyFromAscii character) :
    small = lowered text := by
  induction lowers with
  | nil => rfl
  | @cons character rest small behind inductionHypothesis =>
      have fromAsciiBehind : ∀ shown ∈ small, OnlyFromAscii shown := by
        intro shown member
        apply fromAscii
        exact List.mem_append_right _ member
      rw [inductionHypothesis fromAsciiBehind]
      rfl
  | finalSigma =>
      have sigma := fromAscii 'ς' List.mem_cons_self
      exact absurd sigma (by decide)

/-- No entry of such a vocabulary holds a sigma, so the choice between the two
is not seen in it. -/
theorem exists_lowersTo_mem_iff {text : Text} {vocabulary : List Text}
    (fromAscii : ∀ entry ∈ vocabulary, ∀ character ∈ entry,
      OnlyFromAscii character) :
    (∃ small, LowersTo text small ∧ small ∈ vocabulary) ↔
      lowered text ∈ vocabulary := by
  constructor
  · rintro ⟨small, lowers, member⟩
    rwa [← lowers.eq_lowered (fromAscii small member)]
  · intro member
    exact ⟨lowered text, lowersTo_lowered text, member⟩

end CsdlHighlight.Text

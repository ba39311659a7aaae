import CsdlHighlight.Sequence

/-!
Contract: a traversal yields its sequence and always knows how much is left.

Owns:
- the characters and the terminal step of a whole reading;
- `Traversal.pending`, the characters not yielded yet, wherever they are kept;
- `Traversal.Yields`, steps taken one after another, and what is left of the
  sequence after any number of them;
- the bounds and the source of every traversal on the way, and the trace of a
  sequence.

Does not own: what a reader does with the steps.

The source runs one character ahead of the steps, so neither its length nor its
end says how many steps remain.  Both are read off the pending characters, which
every step takes exactly one of.
-/

namespace CsdlHighlight

namespace CharSequence

/-! ## Whole readings -/

@[simp] theorem map_character_stepsOf (text : Text) :
    (stepsOf text).map Step.character = text := by
  induction text with
  | nil => rfl
  | cons character rest inductionHypothesis =>
      simp [stepsOf, inductionHypothesis]

@[simp] theorem length_stepsOf (text : Text) :
    (stepsOf text).length = text.length := by
  rw [← List.length_map Step.character, map_character_stepsOf]

theorem length_steps (sequence : CharSequence) :
    sequence.steps.length = sequence.length :=
  length_stepsOf sequence.characters

/-- The last step is terminal, and no other one is. -/
theorem isTerminal_stepsOf {text : Text} {position : Nat} {step : Step}
    (found : (stepsOf text)[position]? = some step) :
    step.isTerminal = true ↔ position + 1 = text.length := by
  induction text generalizing position with
  | nil => simp [stepsOf] at found
  | cons character rest inductionHypothesis =>
      cases position with
      | zero =>
          obtain rfl : ⟨character, rest.isEmpty⟩ = step := Option.some.inj found
          cases rest <;> simp
      | succ before =>
          have foundBehind : (stepsOf rest)[before]? = some step := by
            simpa [stepsOf] using found
          rw [inductionHypothesis foundBehind, List.length_cons]
          omega

theorem characters_ofText (text : Text) :
    (ofText text).characters =
      if Text.trim text = [] then [] else Text.trim text ++ [' '] := by
  unfold ofText
  by_cases blank : Text.trim text = []
  · simp [blank]
  · simp [blank, trailingDelimiter]

end CharSequence

namespace Traversal

open CharSequence (stepsOf)

variable {traversal between last : Traversal} {taken : List Step}

/-! ## Pending characters -/

/-- The characters that a traversal has still to yield: the one in the
look-ahead, if there is one, and those in the source. -/
def pending (traversal : Traversal) : Text :=
  match traversal.lookahead with
  | .unread => traversal.source
  | .ended => []
  | .character next => next :: traversal.source

@[simp] theorem pending_peek (text : Text) : (peek text).pending = text := by
  cases text <;> rfl

theorem source_peek (text : Text) : (peek text).source = text.tail := by
  cases text <;> rfl

/-- The bounds are exact, with or without a character in the look-ahead. -/
theorem bounds_eq (traversal : Traversal) :
    traversal.bounds =
      (traversal.pending.length, traversal.pending.length) := by
  obtain ⟨lookahead, source⟩ := traversal
  cases lookahead <;> rfl

theorem yielding_eq (character : Char) (source : Text) :
    yielding character source =
      (⟨character, source.isEmpty⟩, peek source) := by
  cases source <;> rfl

/-- All that a step can do: it yields the first pending character, and the rest
are pending behind a look-ahead. -/
theorem next?_eq (traversal : Traversal) :
    traversal.next? =
      match traversal.pending with
      | [] => none
      | character :: rest => some (⟨character, rest.isEmpty⟩, peek rest) := by
  obtain ⟨lookahead, source⟩ := traversal
  cases lookahead with
  | unread =>
      cases source with
      | nil => rfl
      | cons character rest => exact congrArg some (yielding_eq character rest)
  | ended => rfl
  | character next => exact congrArg some (yielding_eq next source)

/-- A traversal ends when nothing is left to be yielded, and not before. -/
theorem next?_eq_none_iff : traversal.next? = none ↔ traversal.pending = [] := by
  rw [next?_eq]
  cases traversal.pending <;> simp

theorem exists_of_next? {step : Step}
    (yields : traversal.next? = some (step, between)) :
    ∃ rest, between = peek rest ∧
      stepsOf traversal.pending = step :: stepsOf rest := by
  rw [next?_eq] at yields
  cases pending : traversal.pending with
  | nil => simp [pending] at yields
  | cons character rest =>
      simp only [pending, Option.some.injEq, Prod.mk.injEq] at yields
      obtain ⟨rfl, rfl⟩ := yields
      exact ⟨rest, rfl, rfl⟩

/-! ## Steps in a row -/

/-- Some steps can be taken one after another, and they leave a traversal. -/
inductive Yields : Traversal → List Step → Traversal → Prop where
  | nothing (traversal : Traversal) : Yields traversal [] traversal
  | step {traversal between last : Traversal} {step : Step} {later : List Step}
      (first : traversal.next? = some (step, between))
      (behind : Yields between later last) :
      Yields traversal (step :: later) last

/-- The steps that a traversal yields until it yields no more. -/
def YieldsAll (traversal : Traversal) (steps : List Step) : Prop :=
  ∃ last, Yields traversal steps last ∧ last.next? = none

/-- What has been taken and what is pending make up the whole. -/
theorem Yields.stepsOf_pending (yields : Yields traversal taken last) :
    stepsOf traversal.pending = taken ++ stepsOf last.pending := by
  induction yields with
  | nothing traversal => rfl
  | step first behind inductionHypothesis =>
      obtain ⟨rest, rfl, split⟩ := exists_of_next? first
      rw [pending_peek] at inductionHypothesis
      rw [split, inductionHypothesis, List.cons_append]

/-- After any step the look-ahead has been filled. -/
theorem Yields.eq_peek (yields : Yields traversal taken last)
    (begun : taken ≠ []) : last = peek last.pending := by
  induction yields with
  | nothing traversal => exact absurd rfl begun
  | @step traversal between last step later first behind inductionHypothesis =>
      cases later with
      | nil =>
          obtain ⟨rest, rfl, -⟩ := exists_of_next? first
          cases behind
          rw [pending_peek]
      | cons next others => exact inductionHypothesis (List.cons_ne_nil _ _)

theorem yieldsAll_pending (traversal : Traversal) :
    YieldsAll traversal (stepsOf traversal.pending) := by
  -- Each step leaves one pending character less.
  generalize left : traversal.pending = text
  induction text generalizing traversal with
  | nil => exact ⟨traversal, .nothing traversal, next?_eq_none_iff.mpr left⟩
  | cons character rest inductionHypothesis =>
      obtain ⟨last, behind, ended⟩ :=
        inductionHypothesis (peek rest) (pending_peek rest)
      have first : traversal.next? =
          some (⟨character, rest.isEmpty⟩, peek rest) := by
        rw [next?_eq, left]
      exact ⟨last, .step first behind, ended⟩

/-- A traversal yields the characters still pending, in order and once. -/
theorem yieldsAll_iff {steps : List Step} :
    YieldsAll traversal steps ↔ steps = stepsOf traversal.pending := by
  constructor
  · rintro ⟨last, yields, ended⟩
    rw [yields.stepsOf_pending, next?_eq_none_iff.mp ended]
    exact (List.append_nil steps).symm
  · rintro rfl
    exact yieldsAll_pending traversal

/-! ## Traces -/

/-- Some steps, each with the number of those behind it as both bounds. -/
def countdown : List Step → List (Step × Nat × Nat)
  | [] => []
  | step :: later => (step, later.length, later.length) :: countdown later

theorem trace_eq (traversal : Traversal) {count : Nat}
    (enough : traversal.pending.length ≤ count) :
    traversal.trace count = countdown (stepsOf traversal.pending) := by
  induction count generalizing traversal with
  | zero =>
      have nothingLeft : traversal.pending = [] := by
        apply List.eq_nil_of_length_eq_zero
        omega
      rw [nothingLeft]
      rfl
  | succ count inductionHypothesis =>
      rw [trace, next?_eq]
      cases left : traversal.pending with
      | nil => rfl
      | cons character rest =>
          have enoughBehind : (peek rest).pending.length ≤ count := by
            rw [left, List.length_cons] at enough
            rw [pending_peek]
            omega
          simp [stepsOf, countdown, bounds_eq,
            inductionHypothesis (peek rest) enoughBehind]

end Traversal

namespace CharSequence

/-- The trace of a sequence holds every step with the number of those behind
it. -/
theorem trace_eq_countdown (sequence : CharSequence) :
    sequence.trace = Traversal.countdown sequence.steps := by
  apply Traversal.trace_eq
  exact Nat.le_succ sequence.length

/-- The traversal of a text is exact.  It yields the trimmed text and one space,
or nothing where nothing is left after trimming; the last step alone is terminal;
and before the first step and after each one the bounds are the number of the
steps to come, the first of which is no longer in the source. -/
theorem traversal_exact (text : Text) :
    let sequence := ofText text
    let start := Traversal.start sequence
    (∀ steps, start.YieldsAll steps ↔ steps = sequence.steps) ∧
    sequence.steps.map Step.character =
      (if Text.trim text = [] then [] else Text.trim text ++ [' ']) ∧
    (∀ position step, sequence.steps[position]? = some step →
      (step.isTerminal = true ↔ position + 1 = sequence.steps.length)) ∧
    sequence.length = sequence.steps.length ∧
    ∀ taken between, start.Yields taken between →
      ∃ coming, sequence.steps = taken ++ coming ∧
        between.YieldsAll coming ∧
        between.bounds = (coming.length, coming.length) ∧
        (taken ≠ [] →
          between.source = (coming.map Step.character).tail) := by
  intro sequence start
  refine ⟨fun steps => Traversal.yieldsAll_iff, ?_, ?_,
    sequence.length_steps.symm, ?_⟩
  · rw [steps, map_character_stepsOf]
    exact characters_ofText text
  · intro position step found
    rw [length_steps]
    exact isTerminal_stepsOf found
  · intro taken between yields
    refine ⟨stepsOf between.pending, yields.stepsOf_pending,
      between.yieldsAll_pending, ?_, ?_⟩
    · rw [length_stepsOf]
      exact between.bounds_eq
    · intro begun
      rw [map_character_stepsOf, yields.eq_peek begun, Traversal.source_peek,
        Traversal.pending_peek]

/-- In front of the space the source is empty and one step is still to come. -/
theorem traversal_exact_at_empty_source :
    ∃ between,
      (Traversal.start (ofText " é\t".toList)).Yields [⟨'é', false⟩] between ∧
        between.source = [] ∧ between.bounds = (1, 1) := by
  have yields :
      (Traversal.start (ofText " é\t".toList)).Yields [⟨'é', false⟩]
        (Traversal.peek [' ']) :=
    .step rfl (.nothing _)
  obtain ⟨-, -, -, -, everywhere⟩ := traversal_exact " é\t".toList
  obtain ⟨coming, whole, -, bounds, source⟩ := everywhere _ _ yields
  obtain rfl : [⟨' ', true⟩] = coming := (List.cons.inj whole).2
  exact ⟨_, yields, source (List.cons_ne_nil _ _), bounds⟩

end CharSequence

end CsdlHighlight

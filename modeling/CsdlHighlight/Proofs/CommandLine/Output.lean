import CsdlHighlight.OutputStream
import Mathlib.Data.List.Basic

/-!
Contract: pieces of output are taken in their order up to the first one that the
stream refuses.

Owns:
- `Takes` and `BreaksOff`, what a stream does with some pieces;
- the writing of several pieces as one of the two;
- the stream that records every piece.

Does not own: where the pieces come from.
-/

namespace CsdlHighlight.OutputStream

variable {σ : Type} {stream : OutputStream (StateM σ)} {state after : σ}
  {pieces : List Text}

/-- A stream takes some pieces one after another and comes to another state. -/
inductive Takes (stream : OutputStream (StateM σ)) : σ → List Text → σ → Prop where
  | nothing (state : σ) : Takes stream state [] state
  | next {state between after : σ} {piece : Text} {rest : List Text}
      (taken : stream.write piece state = (.ok (), between))
      (behind : Takes stream between rest after) :
      Takes stream state (piece :: rest) after

/-- A stream takes the first of some pieces, perhaps none, and refuses the one
behind them. -/
inductive BreaksOff (stream : OutputStream (StateM σ)) (state : σ)
    (pieces : List Text) (failure : DiskError) (after : σ) : Prop where
  | behind {front rest : List Text} {piece : Text} {between : σ}
      (split : pieces = front ++ piece :: rest)
      (taken : stream.Takes state front between)
      (refused : stream.write piece between = (.error failure, after))

theorem BreaksOff.next {between : σ} {piece : Text} {failure : DiskError}
    (taken : stream.write piece state = (.ok (), between))
    (breaks : stream.BreaksOff between pieces failure after) :
    stream.BreaksOff state (piece :: pieces) failure after := by
  obtain ⟨rfl, takes, refused⟩ := breaks
  exact .behind rfl (.next taken takes) refused

/-- Nothing breaks off on a stream that takes whatever is written to it. -/
theorem not_breaksOff {failure : DiskError}
    (takesAll : ∀ piece state, (stream.write piece state).1 = .ok ()) :
    ¬ stream.BreaksOff state pieces failure after := by
  rintro ⟨-, -, refused⟩
  cases (congrArg Prod.fst refused).symm.trans (takesAll _ _)

/-- Either all pieces are taken, or the stream breaks off at the first one that
it refuses. -/
theorem writeAll_cases {outcome : Except DiskError Unit}
    (written : stream.writeAll pieces state = (outcome, after)) :
    (outcome = .ok () ∧ stream.Takes state pieces after) ∨
      ∃ failure, outcome = .error failure ∧
        stream.BreaksOff state pieces failure after := by
  induction pieces generalizing state with
  | nil =>
      cases written
      exact .inl ⟨rfl, .nothing after⟩
  | cons piece rest inductionHypothesis =>
      simp only [writeAll, bind, StateT.bind] at written
      split at written
      next answer between first =>
      cases answer with
      | ok done =>
          rcases inductionHypothesis written with
            ⟨rfl, takes⟩ | ⟨failure, rfl, breaks⟩
          · exact .inl ⟨rfl, .next first takes⟩
          · exact .inr ⟨failure, rfl, breaks.next first⟩
      | error failure =>
          cases written
          exact .inr ⟨failure, rfl, .behind rfl (.nothing state) first⟩

theorem writeAll_recording (pieces earlier : List Text) :
    recording.writeAll pieces earlier = (.ok (), earlier ++ pieces) := by
  induction pieces generalizing earlier with
  | nil => rw [List.append_nil]; rfl
  | cons piece rest inductionHypothesis =>
      have behind := inductionHypothesis (earlier ++ [piece])
      rw [List.append_assoc] at behind
      exact behind

end CsdlHighlight.OutputStream

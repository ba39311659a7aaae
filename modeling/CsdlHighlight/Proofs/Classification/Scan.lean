import CsdlHighlight.Proofs.Classification.Trace
import CsdlHighlight.Proofs.Piece.Cut

/-!
Contract: classification of a text in one pass over its steps.

Owns:
- `Scan`, a pass in progress: a buffer for the word that has begun, the
  spans before it and the events of everything in front of it;
- `Scan.run_steps`, the agreement of the whole pass with classification piece by
  piece.

Nothing is known of the text in advance: a word is finished when a delimiter is
taken, and the last one when the terminal step is.
-/

namespace CsdlHighlight

/-- A pass over the steps of a text. -/
structure Scan where
  buffer : Text
  spans : Spans
  events : List Event
deriving DecidableEq, Repr

namespace Scan

def start (spans : Spans) : Scan :=
  ⟨[], spans, []⟩

def flush (scan : Scan) : Scan :=
  if scan.buffer.isEmpty then
    scan
  else
    let (events, spans) := (Piece.run scan.buffer).classify scan.spans
    ⟨[], spans, scan.events ++ events⟩

/-- Take one step.  The terminal step only ends the last word. -/
def advance (scan : Scan) (step : Step) : Scan :=
  if step.isTerminal then
    scan.flush
  else
    match Delimiter.ofChar? step.character with
    | some mark =>
        { scan.flush with
          spans := scan.flush.spans.afterDelimiter mark
          events := scan.flush.events ++ [.delimiter mark] }
    | none => { scan with buffer := scan.buffer ++ [step.character] }

def run (spans : Spans) (steps : List Step) : Scan :=
  steps.foldl advance (start spans)

/-! ## What a pass owes to the pieces it has passed -/

/-- The pass when some pieces have been classified behind its events and no
word has begun. -/
def past (scan : Scan) (pieces : List Piece) : Scan :=
  { buffer := []
    spans := (Piece.classifyAll scan.spans pieces).2
    events := scan.events ++ (Piece.classifyAll scan.spans pieces).1 }

theorem past_append (scan : Scan) (left right : List Piece) :
    (scan.past left).past right = scan.past (left ++ right) := by
  simp only [past, Piece.classifyAll_append, List.append_assoc]

/-- A plain buffer is a single piece, or none when it is empty. -/
theorem flush_eq_past {scan : Scan}
    (plain : Delimiter.AbsentFrom scan.buffer) :
    scan.flush = scan.past (Piece.cut scan.buffer) := by
  obtain ⟨buffer, spans, events⟩ := scan
  cases buffer with
  | nil => simp [flush, past, Piece.cut, Piece.classifyAll]
  | cons character rest =>
      have alone : Piece.cut (character :: rest) = [.run (character :: rest)] :=
        Piece.cut_eq_iff.mpr
          ⟨List.append_nil _,
            .run (List.cons_ne_nil _ _) plain (by simp) .nil⟩
      rw [alone]
      simp [flush, past, Piece.classifyAll]

/-- Taking a delimiter finishes the word in front of it. -/
theorem advance_delimiter {scan : Scan}
    (plain : Delimiter.AbsentFrom scan.buffer) (mark : Delimiter) :
    scan.advance ⟨mark.character, false⟩ =
      scan.past (Piece.cut scan.buffer ++ [.delimiter mark]) := by
  rw [← past_append, ← flush_eq_past plain]
  simp only [advance, Bool.false_eq_true, if_false,
    Delimiter.ofChar?_character]
  rw [flush_eq_past plain]
  rfl

theorem advance_plain (scan : Scan) {character : Char}
    (plain : Delimiter.ofChar? character = none) :
    scan.advance ⟨character, false⟩ =
      { scan with buffer := scan.buffer ++ [character] } := by
  simp only [advance, Bool.false_eq_true, if_false, plain]

/-! ## The whole pass -/

/-- From any plain buffer on, the rest of a text is classified as if the buffer
stood in front of it. -/
theorem foldl_advance {scan : Scan}
    (plain : Delimiter.AbsentFrom scan.buffer) (text : Text) :
    (CharSequence.stepsOf (text ++ [trailingDelimiter])).foldl advance scan =
      scan.past (Piece.cut (scan.buffer ++ text)) := by
  induction text generalizing scan with
  | nil =>
      rw [List.append_nil]
      exact flush_eq_past plain
  | cons character rest inductionHypothesis =>
      have notLast : (rest ++ [trailingDelimiter]).isEmpty = false := by
        simp
      rw [List.cons_append, CharSequence.stepsOf, notLast, List.foldl_cons]
      cases read : Delimiter.ofChar? character with
      | none =>
          rw [advance_plain scan read, inductionHypothesis]
          · rw [past, past, List.append_assoc, List.singleton_append]
          · exact Delimiter.absentFrom_append_iff.mpr
              ⟨plain, Delimiter.absentFrom_cons_iff.mpr
                ⟨read, Delimiter.absentFrom_nil⟩⟩
      | some mark =>
          obtain rfl := Delimiter.ofChar?_eq_some_iff.mp read
          rw [advance_delimiter plain, inductionHypothesis]
          · rw [past_append, Piece.cut_append_delimiter, List.append_assoc]
            rfl
          · exact Delimiter.absentFrom_nil

/-- One pass over the steps of a text yields the events of the text and ends in
its spans, with no word left in the buffer. -/
theorem run_steps (spans : Spans) (text : Text) :
    run spans (CharSequence.ofText text).steps =
      ⟨[], (classifyFrom spans text).2, (classifyFrom spans text).1⟩ := by
  unfold CharSequence.ofText classifyFrom
  cases trimmed : Text.trim text with
  | nil => rfl
  | cons character rest =>
      exact foldl_advance Delimiter.absentFrom_nil (character :: rest)

end Scan

end CsdlHighlight

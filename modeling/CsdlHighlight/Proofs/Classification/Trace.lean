import CsdlHighlight.Classification

/-!
Contract: the spans that a classification carries can be read off the events
it has yielded.

Owns:
- the spans after an event and after a list of events;
- `Spans.Explains`, events whose words have the category of the spans before
  them, and the proof that classification yields such events;
- the spans before a position and the word at it;
- classification piece by piece over two lists in a row.

Does not own: what the spans before a position depend on.
-/

namespace CsdlHighlight

def Event.word? : Event → Option Text
  | .word _ text => some text
  | .delimiter _ => none
  | .escapedLineBreak => none
  | .escapedTab => none

namespace Spans

/-- The spans after an event.  An escape opens and closes nothing. -/
def afterEvent (spans : Spans) : Event → Spans
  | .word _ word => spans.after word
  | .delimiter mark => spans.afterDelimiter mark
  | .escapedLineBreak => spans
  | .escapedTab => spans

def afterEvents (spans : Spans) (events : List Event) : Spans :=
  events.foldl afterEvent spans

@[simp] theorem afterEvents_nil (spans : Spans) :
    spans.afterEvents [] = spans := rfl

@[simp] theorem afterEvents_cons (spans : Spans) (event : Event)
    (rest : List Event) :
    spans.afterEvents (event :: rest) =
      (spans.afterEvent event).afterEvents rest := rfl

@[simp] theorem afterEvents_append (spans : Spans) (left right : List Event) :
    spans.afterEvents (left ++ right) =
      (spans.afterEvents left).afterEvents right :=
  List.foldl_append

/-- Every word of the events has the category that the spans before it give. -/
inductive Explains : Spans → List Event → Prop where
  | nil (spans : Spans) : Explains spans []
  | word (spans : Spans) (word : Text) {rest : List Event}
      (tail : Explains (spans.after word) rest) :
      Explains spans (.word (spans.category word) word :: rest)
  | delimiter (spans : Spans) (mark : Delimiter) {rest : List Event}
      (tail : Explains (spans.afterDelimiter mark) rest) :
      Explains spans (.delimiter mark :: rest)
  | escapedLineBreak {spans : Spans} {rest : List Event}
      (tail : Explains spans rest) :
      Explains spans (.escapedLineBreak :: rest)
  | escapedTab {spans : Spans} {rest : List Event}
      (tail : Explains spans rest) :
      Explains spans (.escapedTab :: rest)

theorem Explains.append {spans : Spans} {left right : List Event}
    (first : Explains spans left)
    (second : Explains (spans.afterEvents left) right) :
    Explains spans (left ++ right) := by
  induction first with
  | nil spans => exact second
  | word spans word tail inductionHypothesis =>
      exact .word spans word (inductionHypothesis second)
  | delimiter spans mark tail inductionHypothesis =>
      exact .delimiter spans mark (inductionHypothesis second)
  | escapedLineBreak tail inductionHypothesis =>
      exact .escapedLineBreak (inductionHypothesis second)
  | escapedTab tail inductionHypothesis =>
      exact .escapedTab (inductionHypothesis second)

end Spans

/-! ## Pieces in a row -/

namespace Expansion

/-- Escapes leave the spans as they are. -/
theorem afterEvents_escapes (spans : Spans) (expansion : Expansion) :
    spans.afterEvents expansion.escapes = spans := by
  unfold escapes
  cases expansion.lineBreak <;> cases expansion.tab <;> rfl

theorem explains_escapes (spans : Spans) (expansion : Expansion) :
    spans.Explains expansion.escapes := by
  unfold escapes
  cases expansion.lineBreak <;> cases expansion.tab
  · exact .nil spans
  · exact .escapedTab (.nil spans)
  · exact .escapedLineBreak (.nil spans)
  · exact .escapedLineBreak (.escapedTab (.nil spans))

end Expansion

namespace Piece

theorem classifyAll_cons (spans : Spans) (piece : Piece) (rest : List Piece) :
    classifyAll spans (piece :: rest) =
      ((piece.classify spans).1 ++
          (classifyAll (piece.classify spans).2 rest).1,
        (classifyAll (piece.classify spans).2 rest).2) := rfl

theorem classifyAll_append (spans : Spans) (left right : List Piece) :
    classifyAll spans (left ++ right) =
      ((classifyAll spans left).1 ++
          (classifyAll (classifyAll spans left).2 right).1,
        (classifyAll (classifyAll spans left).2 right).2) := by
  induction left generalizing spans with
  | nil => rfl
  | cons piece rest inductionHypothesis =>
      rw [List.cons_append, classifyAll_cons, inductionHypothesis,
        classifyAll_cons, List.append_assoc]

/-- The events of a piece are enough to tell the spans behind it. -/
theorem classify_snd (spans : Spans) (piece : Piece) :
    (piece.classify spans).2 = spans.afterEvents (piece.classify spans).1 := by
  cases piece with
  | delimiter mark => rfl
  | run characters =>
      simp only [classify, Spans.afterEvents_append,
        Expansion.afterEvents_escapes]
      rfl

theorem explains_classify (spans : Spans) (piece : Piece) :
    spans.Explains (piece.classify spans).1 := by
  cases piece with
  | delimiter mark => exact .delimiter spans mark (.nil _)
  | run characters =>
      refine (Expansion.explains_escapes spans _).append ?_
      rw [Expansion.afterEvents_escapes]
      exact .word spans _ (.nil _)

/-- The spans carried over some pieces are those of the events so far. -/
theorem classifyAll_snd (spans : Spans) (pieces : List Piece) :
    (classifyAll spans pieces).2 =
      spans.afterEvents (classifyAll spans pieces).1 := by
  induction pieces generalizing spans with
  | nil => rfl
  | cons piece rest inductionHypothesis =>
      rw [classifyAll_cons, Spans.afterEvents_append, ← classify_snd]
      exact inductionHypothesis _

theorem explains_classifyAll (spans : Spans) (pieces : List Piece) :
    spans.Explains (classifyAll spans pieces).1 := by
  induction pieces generalizing spans with
  | nil => exact .nil spans
  | cons piece rest inductionHypothesis =>
      rw [classifyAll_cons]
      refine (explains_classify spans piece).append ?_
      rw [← classify_snd]
      exact inductionHypothesis _

end Piece

theorem explains_classify (text : Text) :
    Spans.closed.Explains (classify text) :=
  Piece.explains_classifyAll .closed _

/-! ## Positions -/

/-- The spans open before the event at a position. -/
def spansBefore (events : List Event) (position : Nat) : Spans :=
  Spans.closed.afterEvents (events.take position)

def wordAt? (events : List Event) (position : Nat) : Option Text :=
  events[position]?.bind Event.word?

@[simp] theorem spansBefore_zero (events : List Event) :
    spansBefore events 0 = .closed := rfl

theorem spansBefore_succ {events : List Event} {position : Nat} {event : Event}
    (present : events[position]? = some event) :
    spansBefore events (position + 1) =
      (spansBefore events position).afterEvent event := by
  unfold spansBefore
  rw [List.take_add_one, present, Spans.afterEvents_append]
  rfl

theorem wordAt?_of_word {events : List Event} {position : Nat}
    {category : Category} {word : Text}
    (found : events[position]? = some (.word category word)) :
    wordAt? events position = some word := by
  simp only [wordAt?, found, Option.bind_some, Event.word?]

theorem exists_of_wordAt? {events : List Event} {position : Nat} {word : Text}
    (atPosition : wordAt? events position = some word) :
    ∃ category, events[position]? = some (.word category word) := by
  obtain ⟨event, present, isWord⟩ := Option.bind_eq_some_iff.mp atPosition
  cases event with
  | word category text =>
      cases Option.some.inj isWord
      exact ⟨category, present⟩
  | delimiter mark => simp [Event.word?] at isWord
  | escapedLineBreak => simp [Event.word?] at isWord
  | escapedTab => simp [Event.word?] at isWord

theorem spansBefore_succ_of_word {events : List Event} {position : Nat}
    {word : Text} (atPosition : wordAt? events position = some word) :
    spansBefore events (position + 1) =
      (spansBefore events position).after word := by
  obtain ⟨category, present⟩ := exists_of_wordAt? atPosition
  exact spansBefore_succ present

/-- Without a word at it, a position can at most close a line comment. -/
theorem spansBefore_succ_of_no_word {events : List Event} {position : Nat}
    (noWord : wordAt? events position = none) :
    spansBefore events (position + 1) =
      if events[position]? = some (.delimiter .newline) then
        { spansBefore events position with inLineComment := false }
      else
        spansBefore events position := by
  cases present : events[position]? with
  | none =>
      unfold spansBefore
      rw [List.take_add_one, present, Option.toList_none, List.append_nil]
      rfl
  | some event =>
      rw [spansBefore_succ present]
      cases event with
      | word category word =>
          simp [wordAt?_of_word present] at noWord
      | delimiter mark => cases mark <;> rfl
      | escapedLineBreak => rfl
      | escapedTab => rfl

/-- The category of a word follows from the events in front of it. -/
theorem Spans.Explains.category_at {spans : Spans} {events : List Event}
    (explained : spans.Explains events) {position : Nat} {category : Category}
    {word : Text} (found : events[position]? = some (.word category word)) :
    category = (spans.afterEvents (events.take position)).category word := by
  induction explained generalizing position with
  | nil spans => simp at found
  | word spans other tail inductionHypothesis =>
      cases position with
      | zero =>
          cases Option.some.inj found
          rfl
      | succ before => exact inductionHypothesis found
  | delimiter spans mark tail inductionHypothesis =>
      cases position with
      | zero => cases Option.some.inj found
      | succ before => exact inductionHypothesis found
  | escapedLineBreak tail inductionHypothesis =>
      cases position with
      | zero => cases Option.some.inj found
      | succ before => exact inductionHypothesis found
  | escapedTab tail inductionHypothesis =>
      cases position with
      | zero => cases Option.some.inj found
      | succ before => exact inductionHypothesis found

/-- The category of a word of a text is what the spans before it give. -/
theorem category_eq_of_classify {text : Text} {position : Nat}
    {category : Category} {word : Text}
    (found : (classify text)[position]? = some (.word category word)) :
    category = (spansBefore (classify text) position).category word :=
  (explains_classify text).category_at found

end CsdlHighlight

import CsdlHighlight.Markup.Fragment
import CsdlHighlight.Proofs.Classification.Trace
import CsdlHighlight.Proofs.Piece.Cut
import CsdlHighlight.Proofs.Text.Trim

/-!
Contract: two texts joined by a delimiter are classified one after the other.

Owns:
- the classification of joined texts from any open spans;
- the delimiters that leave nothing open for the text behind them;
- the composition of events and of markup at a delimiter.

Does not own: texts with blanks at their ends, of which a join may keep what
each text loses when it stands alone.
-/

namespace CsdlHighlight

open Markup

/-! ## Joined texts -/

/-- From any spans, the second text is classified where the first one and the
delimiter have left the spans.  Nothing else passes from one to the other. -/
theorem classifyFrom_append_delimiter (spans : Spans) {before after : Text}
    (beforeTrimmed : Text.IsTrimmed before)
    (afterTrimmed : Text.IsTrimmed after) (mark : Delimiter) :
    let between := (classifyFrom spans before).2.afterDelimiter mark
    classifyFrom spans (before ++ mark.character :: after) =
      ((classifyFrom spans before).1 ++
          .delimiter mark :: (classifyFrom between after).1,
        (classifyFrom between after).2) := by
  have joined : Text.trim (before ++ mark.character :: after) =
      before ++ mark.character :: after :=
    (beforeTrimmed.append [mark.character] afterTrimmed).trim_eq
  simp only [classifyFrom, joined, beforeTrimmed.trim_eq, afterTrimmed.trim_eq,
    Piece.cut_append_delimiter, Piece.classifyAll_append,
    Piece.classifyAll_cons, Piece.classify, List.singleton_append]

namespace Spans

/-- A delimiter leaves nothing open behind spans in which neither a string nor
a block comment is open, if it is a line break or no line comment is open. -/
theorem afterDelimiter_eq_closed {spans : Spans} {mark : Delimiter}
    (noString : spans.inString = false)
    (noBlockComment : spans.inBlockComment = false)
    (noLineComment : mark = .newline ∨ spans.inLineComment = false) :
    spans.afterDelimiter mark = closed := by
  obtain ⟨inString, inLineComment, inBlockComment⟩ := spans
  cases noString
  cases noBlockComment
  rcases noLineComment with isNewline | noLineComment
  · subst isNewline
    rfl
  · cases noLineComment
    cases mark <;> rfl

end Spans

namespace Markup

theorem fragment_append (escaping : Bool) (left right : List Event) :
    fragment escaping (left ++ right) =
      fragment escaping left ++ fragment escaping right :=
  List.flatMap_append

theorem fragment_cons_delimiter (escaping : Bool) (mark : Delimiter)
    (rest : List Event) :
    fragment escaping (.delimiter mark :: rest) =
      ofDelimiter mark ++ fragment escaping rest :=
  List.flatMap_cons

end Markup

/-! ## Composition -/

/-- Classification composes at a delimiter: the events of the joined text are
those of the first text, the delimiter, and the second text classified in the
spans that are open there.  So what is appended changes no event in front of it,
and where nothing is left open, events and markup of the two texts are simply
put one behind the other. -/
theorem classify_append_delimiter {before after : Text}
    (beforeTrimmed : Text.IsTrimmed before)
    (afterTrimmed : Text.IsTrimmed after) (mark : Delimiter) :
    let whole := before ++ mark.character :: after
    let between := (openSpans before).afterDelimiter mark
    (classify whole =
        classify before ++ .delimiter mark :: (classifyFrom between after).1) ∧
    openSpans whole = (classifyFrom between after).2 ∧
    classify before ++ [.delimiter mark] <+: classify whole ∧
    ((openSpans before).inString = false →
      (openSpans before).inBlockComment = false →
      (mark = .newline ∨ (openSpans before).inLineComment = false) →
        (classifyFrom between after).1 = classify after ∧
        ∀ escaping, highlight escaping whole =
          highlight escaping before ++ ofDelimiter mark ++
            highlight escaping after) := by
  intro whole between
  have joined := classifyFrom_append_delimiter .closed beforeTrimmed
    afterTrimmed mark
  have events : classify whole =
      classify before ++ .delimiter mark :: (classifyFrom between after).1 :=
    congrArg Prod.fst joined
  have openAfter := congrArg Prod.snd joined
  refine ⟨events, openAfter, ?_, ?_⟩
  · refine ⟨(classifyFrom between after).1, ?_⟩
    rw [events, List.append_assoc, List.singleton_append]
  · intro noString noBlockComment noLineComment
    have nothingOpen : between = .closed :=
      Spans.afterDelimiter_eq_closed noString noBlockComment noLineComment
    have alone : (classifyFrom between after).1 = classify after := by
      rw [nothingOpen]
      rfl
    refine ⟨alone, fun escaping => ?_⟩
    calc
      highlight escaping whole =
          fragment escaping (classify before ++
            .delimiter mark :: classify after) := by
        rw [highlight, events, alone]
      _ = highlight escaping before ++ ofDelimiter mark ++
            highlight escaping after := by
        rw [fragment_append, fragment_cons_delimiter, List.append_assoc]
        rfl

/-- A line break closes the line comment in front of it, so the next line stands
by itself. -/
theorem classify_append_delimiter_at_line_end :
    Text.IsTrimmed "a // b".toList ∧ Text.IsTrimmed "c == 1".toList ∧
      (openSpans "a // b".toList).inLineComment = true ∧
      classify "a // b\nc == 1".toList =
        classify "a // b".toList ++
          .delimiter .newline :: classify "c == 1".toList ∧
      ∀ escaping, highlight escaping "a // b\nc == 1".toList =
        highlight escaping "a // b".toList ++ lineBreak ++
          highlight escaping "c == 1".toList := by
  have beforeTrimmed : Text.IsTrimmed "a // b".toList := by decide
  have afterTrimmed : Text.IsTrimmed "c == 1".toList := by decide
  obtain ⟨events, _, _, composed⟩ :=
    classify_append_delimiter beforeTrimmed afterTrimmed .newline
  obtain ⟨alone, markup⟩ := composed rfl rfl (.inl rfl)
  refine ⟨beforeTrimmed, afterTrimmed, rfl, ?_, markup⟩
  rw [← alone]
  exact events

end CsdlHighlight

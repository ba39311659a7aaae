import CsdlHighlight.Proofs.Classification.Composition
import CsdlHighlight.Proofs.Spans.CommentSegments
import CsdlHighlight.Proofs.Spans.StringParity

/-!
Contract: what a comment can change behind the line break that ends it.

Owns:
- `classifyFront`, a text classified as the front of a longer one;
- the spans in which a comment on a line of its own leaves the next line;
- `LeavesString` and `LeavesBlock`, the two ways in which a comment reaches over
  its line, stated on its words and segments;
- two comments that agree in both, and what is behind them.

Does not own: the words of the comment itself, or what is in front of it.
-/

namespace CsdlHighlight

/-! ## The front of a text -/

/-- A text as the front of a longer one: its events and the spans it leaves.
Blanks at its end belong to it there. -/
def classifyFront (text : Text) : List Event × Spans :=
  Piece.classifyAll .closed (Piece.cut (text.dropWhile Text.isBlank))

/-- Behind a front that is not all blank, a trimmed text is classified in the
spans which the front and the delimiter leave. -/
theorem classify_front_append {front after : Text}
    (visible : front.dropWhile Text.isBlank ≠ [])
    (afterTrimmed : Text.IsTrimmed after) (mark : Delimiter) :
    classify (front ++ mark.character :: after) =
      (classifyFront front).1 ++ .delimiter mark ::
        (classifyFrom ((classifyFront front).2.afterDelimiter mark) after).1 := by
  have whole : Text.trim (front ++ mark.character :: after) =
      front.dropWhile Text.isBlank ++ mark.character :: after := by
    have shown : front ++ mark.character :: after =
        (front ++ [mark.character]) ++ after := by simp
    have notAllBlank : (front.dropWhile Text.isBlank).isEmpty = false := by
      simpa using visible
    rw [shown, afterTrimmed.trim_append, List.dropWhile_append, notAllBlank]
    simp
  simp only [classify, classifyFrom, classifyFront, whole, afterTrimmed.trim_eq,
    Piece.cut_append_delimiter, Piece.classifyAll_append,
    Piece.classifyAll_cons, Piece.classify, List.singleton_append]

/-! ## A comment on a line of its own -/

def commentLine (body : Text) : Text :=
  '/' :: '/' :: body

def commentedFront (before body : Text) : Text :=
  before ++ '\n' :: commentLine body

def commentEvents (body : Text) : List Event :=
  (classifyFront (commentLine body)).1

def commentWords (body : Text) : List Text :=
  (commentEvents body).filterMap Event.word?

theorem dropWhile_commentLine (body : Text) :
    (commentLine body).dropWhile Text.isBlank = commentLine body := by
  have notBlank : Text.isBlank '/' = false := by decide
  exact List.dropWhile_cons_of_neg (by simp [notBlank])

theorem dropWhile_commentedFront (before body : Text) :
    (commentedFront before body).dropWhile Text.isBlank =
      if (before.dropWhile Text.isBlank).isEmpty then commentLine body
      else before.dropWhile Text.isBlank ++ '\n' :: commentLine body := by
  have blank : Text.isBlank '\n' = true := by decide
  rw [commentedFront, List.dropWhile_append,
    List.dropWhile_cons_of_pos blank, dropWhile_commentLine]

theorem commentedFront_visible (before body : Text) :
    (commentedFront before body).dropWhile Text.isBlank ≠ [] := by
  rw [dropWhile_commentedFront]
  split
  · exact List.cons_ne_nil _ _
  · exact List.append_ne_nil_of_right_ne_nil _ (List.cons_ne_nil _ _)

/-- Where neither a string nor a block is open in front of it, a comment leaves
what it would leave at the start of a text. -/
theorem classifyFront_commentedFront_snd {before : Text} (body : Text)
    (noString : (classifyFront before).2.inString = false)
    (noBlock : (classifyFront before).2.inBlockComment = false) :
    (classifyFront (commentedFront before body)).2 =
      (classifyFront (commentLine body)).2 := by
  have nothingOpen :
      (classifyFront before).2.afterDelimiter .newline = .closed :=
    Spans.afterDelimiter_eq_closed noString noBlock (.inl rfl)
  unfold classifyFront at nothingOpen ⊢
  rw [dropWhile_commentedFront, dropWhile_commentLine]
  split
  · rfl
  · have cutApart := Piece.cut_append_delimiter
      (before.dropWhile Text.isBlank) .newline (commentLine body)
    rw [show Delimiter.newline.character = '\n' from rfl] at cutApart
    rw [cutApart, Piece.classifyAll_append, Piece.classifyAll_cons]
    simp only [Piece.classify, nothingOpen]

/-! ## What a comment leaves open -/

/-- The quotes of the comment leave a string open: an odd number of its words
toggle since the last quoted one. -/
def LeavesString (body : Text) : Prop :=
  StringOpen (commentWords body)

/-- The comment holds a block segment that reaches to its end. -/
def LeavesBlock (body : Text) : Prop :=
  ∃ start, Begins (commentEvents body) start ∧
    OpensBlock (commentEvents body) start ∧
    Reaches (commentEvents body) start (commentEvents body).length

theorem classifyFront_commentLine_snd (body : Text) :
    (classifyFront (commentLine body)).2 =
      spansBefore (commentEvents body) (commentEvents body).length := by
  unfold spansBefore
  rw [List.take_length]
  exact Piece.classifyAll_snd .closed _

theorem inString_iff_leavesString (body : Text) :
    (classifyFront (commentLine body)).2.inString = true ↔
      LeavesString body := by
  rw [classifyFront_commentLine_snd, inString_iff_stringOpen]
  unfold LeavesString commentWords wordsBefore
  rw [List.take_length]

theorem beginsBlockComment_iff {events : List Event} {position : Nat} :
    BeginsBlockComment events position ↔
      Begins events position ∧ OpensBlock events position := by
  rw [← beginsComment_iff_begins]
  constructor
  · intro begins
    exact ⟨.inl begins, begins.opensBlock⟩
  · rintro ⟨begins | begins, opens⟩
    · exact begins
    · exact absurd opens begins.not_opensBlock

theorem inBlockComment_iff {events : List Event} {position : Nat} :
    (spansBefore events position).inBlockComment = true ↔
      ∃ start < position, Begins events start ∧ OpensBlock events start ∧
        Reaches events start position := by
  rw [flag_iff_set_since
    (fun position => (spansBefore events position).inBlockComment = true)
    Bool.noConfusion (inBlockComment_succ events) position]
  constructor
  · rintro ⟨start, early, begins, kept⟩
    obtain ⟨beginsSegment, opens⟩ := beginsBlockComment_iff.mp begins
    refine ⟨start, early, beginsSegment, opens, Nat.le_of_lt early, ?_⟩
    -- A block is ended by its closing word and not by a line break.
    rintro between after before (⟨-, closes⟩ | ⟨opensNot, -⟩)
    · exact kept between after before closes
    · exact opensNot opens
  · rintro ⟨start, early, beginsSegment, opens, -, unended⟩
    refine ⟨start, early, beginsBlockComment_iff.mpr ⟨beginsSegment, opens⟩, ?_⟩
    intro between after before closes
    exact unended between after before (.inl ⟨opens, closes⟩)

/-- A comment leaves a block open exactly if one of its block segments reaches
to its end. -/
theorem inBlockComment_iff_leavesBlock (body : Text) :
    (classifyFront (commentLine body)).2.inBlockComment = true ↔
      LeavesBlock body := by
  rw [classifyFront_commentLine_snd, inBlockComment_iff]
  constructor
  · rintro ⟨start, -, begins, opens, reaches⟩
    exact ⟨start, begins, opens, reaches⟩
  · rintro ⟨start, begins, opens, reaches⟩
    obtain ⟨word, atPosition, marked⟩ := opens
    obtain ⟨category, present⟩ := exists_of_wordAt? atPosition
    obtain ⟨inRange, -⟩ := List.getElem?_eq_some_iff.mp present
    exact ⟨start, inRange, begins, ⟨word, atPosition, marked⟩, reaches⟩

/-! ## The first word of a comment -/

theorem exists_cut_commentLine (body : Text) :
    ∃ run rest, Piece.cut (commentLine body) =
      .run ('/' :: '/' :: run) :: rest := by
  have plain : Delimiter.ofChar? '/' = none := rfl
  rw [commentLine, Piece.cut_cons_plain plain, Piece.cut_cons_plain plain]
  cases Piece.cut body with
  | nil => exact ⟨[], [], rfl⟩
  | cons head rest =>
      cases head with
      | delimiter mark => exact ⟨[], .delimiter mark :: rest, rfl⟩
      | run characters => exact ⟨characters, rest, rfl⟩

/-- No escape begins with the mark of a comment, so its word keeps the mark. -/
theorem Expansion.word_ofRun_slashes (run : Text) :
    ['/', '/'] <+: (ofRun ('/' :: '/' :: run)).word := by
  have keepsSlash : ∀ letter (tail : Text),
      Text.eraseFirst ['\\', letter] ('/' :: tail) =
        '/' :: Text.eraseFirst ['\\', letter] tail := by
    intro letter tail
    apply Text.eraseFirst_cons
    intro atHead
    exact absurd (List.cons_prefix_cons.mp atHead).1 (by decide)
  have word : (ofRun ('/' :: '/' :: run)).word =
      '/' :: '/' :: Text.eraseFirst tabEscape
        (Text.eraseFirst lineBreakEscape run) := by
    simp only [ofRun, lineBreakEscape, tabEscape, keepsSlash]
  rw [word]
  exact ⟨_, rfl⟩

theorem exists_commentEvents (body : Text) :
    ∃ escapes category word later,
      commentEvents body = escapes ++ .word category word :: later ∧
        (∀ event ∈ escapes, event.word? = none) ∧ ['/', '/'] <+: word := by
  obtain ⟨run, rest, pieces⟩ := exists_cut_commentLine body
  let expansion := Expansion.ofRun ('/' :: '/' :: run)
  refine ⟨expansion.escapes, Spans.closed.category expansion.word,
    expansion.word, (Piece.classifyAll (Spans.closed.after expansion.word)
      rest).1, ?_, ?_, Expansion.word_ofRun_slashes run⟩
  · unfold commentEvents classifyFront
    rw [dropWhile_commentLine, pieces, Piece.classifyAll_cons]
    simp only [Piece.classify, List.append_assoc, List.singleton_append]
    rfl
  · intro event member
    unfold Expansion.escapes at member
    rcases List.mem_append.mp member with inBreaks | inTabs
    · split at inBreaks
      · rw [List.mem_singleton.mp inBreaks]
        rfl
      · cases inBreaks
    · split at inTabs
      · rw [List.mem_singleton.mp inTabs]
        rfl
      · cases inTabs

theorem Piece.delimiter_mem_of_classifyAll {spans : Spans}
    {pieces : List Piece} {mark : Delimiter}
    (member : .delimiter mark ∈ (classifyAll spans pieces).1) :
    .delimiter mark ∈ pieces := by
  induction pieces generalizing spans with
  | nil => cases member
  | cons piece rest inductionHypothesis =>
      rw [classifyAll_cons, List.mem_append] at member
      rcases member with here | later
      · cases piece with
        | delimiter other =>
            obtain rfl : mark = other := by simpa [classify] using here
            exact List.mem_cons_self
        | run characters =>
            simp [classify, Expansion.escapes] at here
      · exact List.mem_cons_of_mem _ (inductionHypothesis later)

/-- The events of a comment on one line hold no line break. -/
theorem newline_not_mem_commentEvents {body : Text} (oneLine : '\n' ∉ body) :
    .delimiter .newline ∉ commentEvents body := by
  intro member
  have inPieces := Piece.delimiter_mem_of_classifyAll member
  rw [dropWhile_commentLine] at inPieces
  have inText : '\n' ∈ commentLine body := by
    rw [← Piece.flatMap_characters_cut (commentLine body)]
    exact List.mem_flatMap.mpr ⟨_, inPieces, List.mem_singleton_self _⟩
  simp [commentLine] at inText
  exact oneLine inText

theorem not_opensBlock_of_line {events : List Event} {start position : Nat}
    (noBreak : .delimiter .newline ∉ events) (begins : Begins events start)
    (isLine : ¬ OpensBlock events start) (later : start ≤ position)
    (otherBegins : Begins events position) : ¬ OpensBlock events position := by
  have reaches : Reaches events start position := by
    refine ⟨later, ?_⟩
    rintro between - - (⟨opens, -⟩ | ⟨-, breaks⟩)
    · exact isLine opens
    · exact noBreak (List.mem_of_getElem? breaks)
  obtain rfl := begins.eq_of_reaches otherBegins reaches
    (reaches_self events position)
  exact isLine

/-- A comment on one line reaches over it only if its first word also holds the
mark that opens a block. -/
theorem not_leavesBlock_of_first_word {body : Text} (oneLine : '\n' ∉ body)
    (lineMark : ∀ word ∈ (commentWords body).head?, ¬ ['/', '*'] <:+: word) :
    ¬ LeavesBlock body := by
  obtain ⟨escapes, category, word, later, events, noWords, marked⟩ :=
    exists_commentEvents body
  have atFirst : wordAt? (commentEvents body) escapes.length = some word := by
    have present : (commentEvents body)[escapes.length]? =
        some (.word category word) := by
      simp [events]
    exact wordAt?_of_word present
  have noneBefore : ∀ position < escapes.length,
      wordAt? (commentEvents body) position = none := by
    intro position early
    rw [wordAt?, events, List.getElem?_append_left early,
      List.getElem?_eq_getElem early, Option.bind_some]
    exact noWords _ (List.getElem_mem early)
  have isFirst : word ∈ (commentWords body).head? := by
    have noWordBefore : escapes.filterMap Event.word? = [] :=
      List.filterMap_eq_nil_iff.mpr noWords
    rw [commentWords, events, List.filterMap_append, noWordBefore]
    rfl
  have isLine : ¬ OpensBlock (commentEvents body) escapes.length := by
    rintro ⟨other, alsoAtFirst, blockMark⟩
    cases Option.some.inj (atFirst.symm.trans alsoAtFirst)
    exact lineMark word isFirst blockMark
  have begins : Begins (commentEvents body) escapes.length := by
    rw [begins_iff]
    refine ⟨⟨word, atFirst, .inr marked.isInfix, ?_⟩, ?_⟩
    · rintro ⟨-, quote, -⟩
      obtain ⟨rest, rfl⟩ := marked
      exact absurd (List.cons_prefix_cons.mp quote).1 (by decide)
    · intro start early begins
      obtain ⟨other, atStart, -⟩ := (begins_iff.mp begins).1
      rw [noneBefore start early] at atStart
      cases atStart
  -- The comment itself is a line segment, which reaches over all of its words.
  rintro ⟨start, otherBegins, opens, -⟩
  have notBefore : escapes.length ≤ start := by
    by_contra early
    obtain ⟨other, atStart, -⟩ := opens
    rw [noneBefore start (Nat.lt_of_not_le early)] at atStart
    cases atStart
  exact not_opensBlock_of_line (newline_not_mem_commentEvents oneLine) begins
    isLine notBefore otherBegins opens

/-! ## Behind the line break -/

theorem Spans.afterNewline_congr {left right : Spans}
    (sameString : left.inString = right.inString)
    (sameBlock : left.inBlockComment = right.inBlockComment) :
    left.afterDelimiter .newline = right.afterDelimiter .newline := by
  obtain ⟨leftString, leftLine, leftBlock⟩ := left
  obtain ⟨rightString, rightLine, rightBlock⟩ := right
  cases sameString
  cases sameBlock
  rfl

/-- Two comments that leave the same open make no difference to the lines behind
them, and a comment that leaves nothing open makes none at all.  What a comment
can leave open is a string, for its quotes are counted like all others, and a
block if its first word opens one. -/
theorem behind_comment_eq {before left right after : Text}
    (noString : (classifyFront before).2.inString = false)
    (noBlock : (classifyFront before).2.inBlockComment = false)
    (afterTrimmed : Text.IsTrimmed after)
    (sameString : LeavesString left ↔ LeavesString right)
    (sameBlock : LeavesBlock left ↔ LeavesBlock right) :
    ∃ behind,
      classify (commentedFront before left ++ '\n' :: after) =
          (classifyFront (commentedFront before left)).1 ++
            .delimiter .newline :: behind ∧
        classify (commentedFront before right ++ '\n' :: after) =
          (classifyFront (commentedFront before right)).1 ++
            .delimiter .newline :: behind ∧
        (¬ LeavesString left → ¬ LeavesBlock left → behind = classify after) ∧
        ('\n' ∉ left →
          (∀ word ∈ (commentWords left).head?, ¬ ['/', '*'] <:+: word) →
            ¬ LeavesBlock left) := by
  have leaves : ∀ body,
      (classifyFront (commentedFront before body)).2 =
        (classifyFront (commentLine body)).2 := by
    intro body
    exact classifyFront_commentedFront_snd body noString noBlock
  -- Nothing but these spans passes over the line break.
  let spans := (classifyFront (commentLine left)).2.afterDelimiter .newline
  have events : ∀ body,
      (classifyFront (commentLine body)).2.afterDelimiter .newline = spans →
      classify (commentedFront before body ++ '\n' :: after) =
        (classifyFront (commentedFront before body)).1 ++
          .delimiter .newline :: (classifyFrom spans after).1 := by
    intro body sameSpans
    have apart := classify_front_append (commentedFront_visible before body)
      afterTrimmed .newline
    rw [leaves body, sameSpans] at apart
    exact apart
  refine ⟨(classifyFrom spans after).1, events left rfl, events right ?_, ?_,
    not_leavesBlock_of_first_word⟩
  · apply Spans.afterNewline_congr
    · rw [Bool.eq_iff_iff, inString_iff_leavesString,
        inString_iff_leavesString]
      exact sameString.symm
    · rw [Bool.eq_iff_iff, inBlockComment_iff_leavesBlock,
        inBlockComment_iff_leavesBlock]
      exact sameBlock.symm
  · intro leavesNoString leavesNoBlock
    rw [← inString_iff_leavesString, Bool.not_eq_true] at leavesNoString
    rw [← inBlockComment_iff_leavesBlock, Bool.not_eq_true] at leavesNoBlock
    have nothingOpen : spans = .closed :=
      Spans.afterDelimiter_eq_closed leavesNoString leavesNoBlock (.inl rfl)
    rw [nothingOpen]
    rfl

/-- Two words with quotes leave no string open, whatever else the comment
says. -/
theorem behind_comment_eq_of_even_quotes :
    (classifyFront "x ".toList).2.inString = false ∧
      (classifyFront "x ".toList).2.inBlockComment = false ∧
      Text.IsTrimmed "b == 1".toList ∧
      ¬ LeavesString " say \"a b\" /* tag.".toList ∧
      ¬ LeavesString [] ∧
      ¬ LeavesBlock " say \"a b\" /* tag.".toList ∧
      ¬ LeavesBlock [] ∧
      classify "x \n// say \"a b\" /* tag.\nb == 1".toList =
        (classifyFront "x \n// say \"a b\" /* tag.".toList).1 ++
          .delimiter .newline :: classify "b == 1".toList ∧
      classify "x \n//\nb == 1".toList =
        (classifyFront "x \n//".toList).1 ++
          .delimiter .newline :: classify "b == 1".toList := by
  have noString : (classifyFront "x ".toList).2.inString = false := rfl
  have noBlock : (classifyFront "x ".toList).2.inBlockComment = false := rfl
  have afterTrimmed : Text.IsTrimmed "b == 1".toList := by decide
  have leftString : ¬ LeavesString " say \"a b\" /* tag.".toList := by
    rw [← inString_iff_leavesString]
    decide +kernel
  have rightString : ¬ LeavesString [] := by
    rw [← inString_iff_leavesString]
    decide +kernel
  have leftBlock : ¬ LeavesBlock " say \"a b\" /* tag.".toList := by
    rw [← inBlockComment_iff_leavesBlock]
    decide +kernel
  have rightBlock : ¬ LeavesBlock [] := by
    rw [← inBlockComment_iff_leavesBlock]
    decide +kernel
  obtain ⟨behind, leftEvents, rightEvents, alone, -⟩ :=
    behind_comment_eq noString noBlock afterTrimmed
      (iff_of_false leftString rightString) (iff_of_false leftBlock rightBlock)
  rw [alone leftString leftBlock] at leftEvents rightEvents
  exact ⟨noString, noBlock, afterTrimmed, leftString, rightString, leftBlock,
    rightBlock, leftEvents, rightEvents⟩

/-- A quote in a comment opens a string that the line break does not close, so
a keyword on the next line is no keyword any more. -/
theorem behind_comment_differs_by_quote :
    openSpans "x".toList = .closed ∧
      '\n' ∉ " a\"b".toList ∧ '\n' ∉ " ab".toList ∧
      Text.IsTrimmed "filter".toList ∧
      classify "x\n// a\"b\nfilter".toList =
        classify "x\n// a\"b".toList ++
          [.delimiter .newline, .word .string "filter".toList] ∧
      classify "x\n// ab\nfilter".toList =
        classify "x\n// ab".toList ++
          [.delimiter .newline, .word .keyword "filter".toList] := by
  refine ⟨rfl, by decide, by decide, by decide, ?_, ?_⟩
  · decide +kernel
  · decide +kernel

end CsdlHighlight

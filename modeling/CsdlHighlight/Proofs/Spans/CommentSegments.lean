import CsdlHighlight.Proofs.Classification.Trace
import CsdlHighlight.Proofs.Word.Spelling

/-!
Contract: the comments of a text are the segments that its openers declare.

Owns:
- openers and the end of what they open, on the events of a text;
- `InSegment`, the positions of the segments read from left to right;
- the comment flags before a position in terms of the words that set them;
- the words classified as comments as the words inside the segments.

Does not own: what the words outside the segments are.
-/

namespace CsdlHighlight

/-! ## Declared segments -/

/-- No string is open before the word at the position, and the word both
starts and ends with a quote. -/
def IsWholeString (events : List Event) (position : Nat) (word : Text) : Prop :=
  (spansBefore events position).inString = false ∧
    ['"'] <+: word ∧ ['"'] <:+ word

/-- A word that holds a mark of comments and is not a whole string. -/
def IsOpener (events : List Event) (position : Nat) : Prop :=
  ∃ word, wordAt? events position = some word ∧
    (['/', '*'] <:+: word ∨ ['/', '/'] <:+: word) ∧
    ¬ IsWholeString events position word

def OpensBlock (events : List Event) (position : Nat) : Prop :=
  ∃ word, wordAt? events position = some word ∧ ['/', '*'] <:+: word

def ClosesBlock (events : List Event) (position : Nat) : Prop :=
  ∃ word, wordAt? events position = some word ∧ ['*', '/'] <:+: word

def BreaksLine (events : List Event) (position : Nat) : Prop :=
  events[position]? = some (.delimiter .newline)

/-- The segment begun at `start` would end at the position: a block with the
word that closes it, a line in front of the line break. -/
def Ends (events : List Event) (start position : Nat) : Prop :=
  (OpensBlock events start ∧ ClosesBlock events position) ∨
    (¬ OpensBlock events start ∧ BreaksLine events position)

/-- The segment begun at `start` has not ended before the position. -/
def Reaches (events : List Event) (start position : Nat) : Prop :=
  start ≤ position ∧
    ∀ between, start < between → between < position →
      ¬ Ends events start between

/-- An opener outside every segment begun before it begins a segment. -/
def Begins (events : List Event) (position : Nat) : Prop :=
  IsOpener events position ∧
    ∀ start, (_earlier : start < position) →
      Begins events start → ¬ Reaches events start position
termination_by position

def InSegment (events : List Event) (position : Nat) : Prop :=
  ∃ start, Begins events start ∧ Reaches events start position

theorem begins_iff {events : List Event} {position : Nat} :
    Begins events position ↔
      IsOpener events position ∧
        ∀ start < position, Begins events start →
          ¬ Reaches events start position := by
  rw [Begins]

theorem reaches_self (events : List Event) (position : Nat) :
    Reaches events position position :=
  ⟨Nat.le_refl position, fun _between after before =>
    absurd after (Nat.lt_asymm before)⟩

theorem Reaches.of_le {events : List Event} {start position later : Nat}
    (reaches : Reaches events start later) (notBefore : start ≤ position)
    (earlier : position ≤ later) : Reaches events start position :=
  ⟨notBefore, fun between after before =>
    reaches.2 between after (Nat.lt_of_lt_of_le before earlier)⟩

/-- Segments do not overlap. -/
theorem Begins.eq_of_reaches {events : List Event} {left right position : Nat}
    (leftBegins : Begins events left) (rightBegins : Begins events right)
    (leftReaches : Reaches events left position)
    (rightReaches : Reaches events right position) : left = right := by
  rcases Nat.lt_trichotomy left right with before | same | after
  · have overlap := leftReaches.of_le (Nat.le_of_lt before) rightReaches.1
    exact absurd overlap ((begins_iff.mp rightBegins).2 left before leftBegins)
  · exact same
  · have overlap := rightReaches.of_le (Nat.le_of_lt after) leftReaches.1
    exact absurd overlap ((begins_iff.mp leftBegins).2 right after rightBegins)

/-! ## Flags set and cleared step by step -/

/-- A flag that each step may clear or set is up where a step has set it and
no later one has cleared it. -/
theorem flag_iff_set_since (flag : Nat → Prop) {sets clears : Nat → Prop}
    (atStart : ¬ flag 0)
    (step : ∀ position, flag (position + 1) ↔
      (flag position ∧ ¬ clears position) ∨ sets position)
    (position : Nat) :
    flag position ↔
      ∃ start < position, sets start ∧
        ∀ between, start < between → between < position → ¬ clears between := by
  induction position with
  | zero =>
      constructor
      · exact fun up => absurd up atStart
      · rintro ⟨start, early, -⟩
        exact absurd early (Nat.not_lt_zero start)
  | succ position inductionHypothesis =>
      rw [step, inductionHypothesis]
      constructor
      · rintro (⟨⟨start, early, set, kept⟩, notCleared⟩ | set)
        · refine ⟨start, Nat.lt_succ_of_lt early, set, ?_⟩
          intro between after before
          rcases Nat.lt_succ_iff_lt_or_eq.mp before with before | rfl
          · exact kept between after before
          · exact notCleared
        · exact ⟨position, Nat.lt_succ_self position, set,
            fun between after before =>
              absurd after (Nat.not_lt.mpr (Nat.le_of_lt_succ before))⟩
      · rintro ⟨start, early, set, kept⟩
        rcases Nat.lt_succ_iff_lt_or_eq.mp early with early | rfl
        · refine .inl ⟨⟨start, early, set, ?_⟩, ?_⟩
          · exact fun between after before =>
              kept between after (Nat.lt_succ_of_lt before)
          · exact kept position early (Nat.lt_succ_self position)
        · exact .inr set

/-! ## The comment flags -/

theorem isWholeString_iff {events : List Event} {position : Nat} {word : Text} :
    (spansBefore events position).isWholeString word = true ↔
      IsWholeString events position word := by
  rw [Spans.isWholeString, Bool.and_eq_true, Bool.not_eq_true',
    Word.isQuoted_iff, IsWholeString]

/-- Classification begins a block comment at the position. -/
def BeginsBlockComment (events : List Event) (position : Nat) : Prop :=
  ∃ word, wordAt? events position = some word ∧
    (spansBefore events position).beginsBlockComment word = true

def BeginsLineComment (events : List Event) (position : Nat) : Prop :=
  ∃ word, wordAt? events position = some word ∧
    (spansBefore events position).beginsLineComment word = true

def BeginsComment (events : List Event) (position : Nat) : Prop :=
  BeginsBlockComment events position ∨ BeginsLineComment events position

theorem BeginsBlockComment.opensBlock {events : List Event} {position : Nat}
    (begins : BeginsBlockComment events position) :
    OpensBlock events position := by
  obtain ⟨word, atPosition, begins⟩ := begins
  have marked := (Bool.and_eq_true_iff.mp begins).2
  exact ⟨word, atPosition, Word.opensBlockComment_iff.mp marked⟩

theorem BeginsLineComment.not_opensBlock {events : List Event} {position : Nat}
    (begins : BeginsLineComment events position) :
    ¬ OpensBlock events position := by
  obtain ⟨word, atPosition, begins⟩ := begins
  have unmarked := (Bool.and_eq_true_iff.mp
    (Bool.and_eq_true_iff.mp begins).1).2
  rintro ⟨other, alsoAtPosition, marked⟩
  cases Option.some.inj (atPosition.symm.trans alsoAtPosition)
  rw [Word.opensBlockComment_iff.mpr marked] at unmarked
  exact Bool.noConfusion unmarked

/-- A comment begins at an opener in front of which none is open. -/
theorem beginsComment_iff {events : List Event} {position : Nat} :
    BeginsComment events position ↔
      IsOpener events position ∧
        ¬ (spansBefore events position).inComment = true := by
  have atWord : ∀ word,
      ((spansBefore events position).beginsBlockComment word = true ∨
          (spansBefore events position).beginsLineComment word = true) ↔
        (['/', '*'] <:+: word ∨ ['/', '/'] <:+: word) ∧
          ¬ IsWholeString events position word ∧
          ¬ (spansBefore events position).inComment = true := by
    intro word
    rw [← isWholeString_iff, ← Word.opensBlockComment_iff,
      ← Word.opensLineComment_iff, Spans.beginsBlockComment,
      Spans.beginsLineComment]
    cases (spansBefore events position).inComment <;>
      cases (spansBefore events position).isWholeString word <;>
      cases Word.opensBlockComment word <;>
      cases Word.opensLineComment word <;> decide
  constructor
  · rintro (⟨word, atPosition, begins⟩ | ⟨word, atPosition, begins⟩)
    · obtain ⟨marked, notWhole, outside⟩ := (atWord word).mp (.inl begins)
      exact ⟨⟨word, atPosition, marked, notWhole⟩, outside⟩
    · obtain ⟨marked, notWhole, outside⟩ := (atWord word).mp (.inr begins)
      exact ⟨⟨word, atPosition, marked, notWhole⟩, outside⟩
  · rintro ⟨⟨word, atPosition, marked, notWhole⟩, outside⟩
    rcases (atWord word).mpr ⟨marked, notWhole, outside⟩ with begins | begins
    · exact .inl ⟨word, atPosition, begins⟩
    · exact .inr ⟨word, atPosition, begins⟩

/-- What an event does to the flag of block comments. -/
theorem inBlockComment_succ (events : List Event) (position : Nat) :
    (spansBefore events (position + 1)).inBlockComment = true ↔
      ((spansBefore events position).inBlockComment = true ∧
          ¬ ClosesBlock events position) ∨
        BeginsBlockComment events position := by
  cases atPosition : wordAt? events position with
  | none =>
      rw [spansBefore_succ_of_no_word atPosition]
      split <;> simp [ClosesBlock, BeginsBlockComment, atPosition]
  | some word =>
      rw [spansBefore_succ_of_word atPosition]
      simp [ClosesBlock, BeginsBlockComment, atPosition, Spans.after,
        ← Word.closesBlockComment_iff]

/-- What an event does to the flag of line comments. -/
theorem inLineComment_succ (events : List Event) (position : Nat) :
    (spansBefore events (position + 1)).inLineComment = true ↔
      ((spansBefore events position).inLineComment = true ∧
          ¬ BreaksLine events position) ∨
        BeginsLineComment events position := by
  cases atPosition : wordAt? events position with
  | none =>
      rw [spansBefore_succ_of_no_word atPosition]
      split
      · next breaks => simp [BreaksLine, BeginsLineComment, atPosition, breaks]
      · next keeps => simp [BreaksLine, BeginsLineComment, atPosition, keeps]
  | some word =>
      obtain ⟨category, present⟩ := exists_of_wordAt? atPosition
      rw [spansBefore_succ_of_word atPosition]
      simp [BreaksLine, BeginsLineComment, atPosition, present, Spans.after]

/-- A comment is open before a position that a comment begun earlier
reaches. -/
theorem inComment_iff {events : List Event} {position : Nat} :
    (spansBefore events position).inComment = true ↔
      ∃ start < position, BeginsComment events start ∧
        Reaches events start position := by
  have block := flag_iff_set_since
    (fun position =>
      (spansBefore events position).inBlockComment = true)
    Bool.noConfusion (inBlockComment_succ events) position
  have line := flag_iff_set_since
    (fun position =>
      (spansBefore events position).inLineComment = true)
    Bool.noConfusion (inLineComment_succ events) position
  rw [Spans.inComment, Bool.or_eq_true, line, block]
  constructor
  · rintro (⟨start, early, begins, kept⟩ | ⟨start, early, begins, kept⟩)
    · refine ⟨start, early, .inr begins, Nat.le_of_lt early, ?_⟩
      rintro between after before (⟨opens, -⟩ | ⟨-, breaks⟩)
      · exact begins.not_opensBlock opens
      · exact kept between after before breaks
    · refine ⟨start, early, .inl begins, Nat.le_of_lt early, ?_⟩
      rintro between after before (⟨-, closes⟩ | ⟨opensNot, -⟩)
      · exact kept between after before closes
      · exact opensNot begins.opensBlock
  · rintro ⟨start, early, begins | begins, -, unended⟩
    · exact .inr ⟨start, early, begins, fun between after before closes =>
        unended between after before (.inl ⟨begins.opensBlock, closes⟩)⟩
    · exact .inl ⟨start, early, begins, fun between after before breaks =>
        unended between after before (.inr ⟨begins.not_opensBlock, breaks⟩)⟩

/-! ## Comments and segments -/

/-- Classification begins its comments where the segments begin. -/
theorem beginsComment_iff_begins (events : List Event) (position : Nat) :
    BeginsComment events position ↔ Begins events position := by
  induction position using Nat.strongRecOn with
  | ind position inductionHypothesis =>
      rw [beginsComment_iff, begins_iff, inComment_iff]
      refine and_congr_right fun _opener => ?_
      constructor
      · intro outside start early begins reaches
        exact outside ⟨start, early,
          (inductionHypothesis start early).mpr begins, reaches⟩
      · rintro outside ⟨start, early, begins, reaches⟩
        exact outside start early
          ((inductionHypothesis start early).mp begins) reaches

/-- A position lies in a segment exactly if a comment is open before it or
begins there. -/
theorem inSegment_iff {events : List Event} {position : Nat} :
    InSegment events position ↔
      (spansBefore events position).inComment = true ∨
        BeginsComment events position := by
  rw [inComment_iff]
  constructor
  · rintro ⟨start, begins, reaches⟩
    rw [← beginsComment_iff_begins] at begins
    rcases Nat.lt_or_eq_of_le reaches.1 with early | rfl
    · exact .inl ⟨start, early, begins, reaches⟩
    · exact .inr begins
  · rintro (⟨start, -, begins, reaches⟩ | begins)
    · exact ⟨start, (beginsComment_iff_begins events start).mp begins, reaches⟩
    · exact ⟨position, (beginsComment_iff_begins events position).mp begins,
        reaches_self events position⟩

theorem Spans.category_eq_comment_iff {spans : Spans} {word : Text} :
    spans.category word = .comment ↔
      spans.inComment = true ∨ spans.beginsBlockComment word = true ∨
        spans.beginsLineComment word = true := by
  rw [← Bool.or_eq_true, ← Bool.or_eq_true, ← Bool.or_assoc]
  unfold category
  split
  · next comment => simp [comment]
  · next noComment =>
      split
      · simp [noComment]
      · simp [noComment, (Word.spelled_category word).ne_comment]

/-- A word of a text is a comment where it lies in a segment, and nowhere
else. -/
theorem comment_iff_inSegment {text : Text} {position : Nat}
    {category : Category} {word : Text}
    (found : (classify text)[position]? = some (.word category word)) :
    category = .comment ↔ InSegment (classify text) position := by
  have begins : BeginsComment (classify text) position ↔
      (spansBefore (classify text) position).beginsBlockComment word = true ∨
        (spansBefore (classify text) position).beginsLineComment word =
          true := by
    simp [BeginsComment, BeginsBlockComment, BeginsLineComment,
      wordAt?_of_word found]
  rw [inSegment_iff, begins, category_eq_of_classify found,
    Spans.category_eq_comment_iff]

/-- The line mark inside a block begins nothing, and the word that closes the
block belongs to it. -/
theorem comment_iff_inSegment_in_block :
    (classify "x /*a\n//b*/ c".toList)[4]? =
        some (.word .comment "//b*/".toList) ∧
      InSegment (classify "x /*a\n//b*/ c".toList) 4 := by
  have found : (classify "x /*a\n//b*/ c".toList)[4]? =
      some (.word .comment "//b*/".toList) := by
    rfl
  exact ⟨found, (comment_iff_inSegment found).mp rfl⟩

end CsdlHighlight

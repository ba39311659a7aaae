import CsdlHighlight.Preview
import CsdlHighlight.Word
import Mathlib.Data.List.TakeWhile

/-!
Contract: a coloured preview is the plain one with control sequences around its
words, which tell their categories.

Owns:
- `Preview.symbols`, which reads a text as characters and control sequences;
- the control sequences in front of a word and behind it, and the layout of an
  event with them;
- `Preview.wordsOf?`, which reads the words of a coloured preview back, each with
  its category;
- the reading of a coloured preview.

Does not own: words that hold an escape, which can begin a control sequence of
their own.
-/

namespace CsdlHighlight

/-- A character, or a control sequence `ESC [ parameters m`. -/
inductive Symbol where
  | character (shown : Char)
  | style (parameters : Text)
deriving DecidableEq, Repr

def Symbol.shown? : Symbol → Option Char
  | .character shown => some shown
  | .style _ => none

namespace Preview

/-! ## Characters and control sequences -/

def escape : Char := '\x1b'

def isParameter (character : Char) : Bool :=
  Word.isDigit character || character == ';'

/-- The parameters of a control sequence at the head of a text, and what stands
behind it. -/
def cutStyle? : Text → Option (Text × Text)
  | '\x1b' :: '[' :: rest =>
      match rest.dropWhile isParameter with
      | 'm' :: behind => some (rest.takeWhile isParameter, behind)
      | _ => none
  | _ => none

theorem length_of_cutStyle? {text parameters behind : Text}
    (found : cutStyle? text = some (parameters, behind)) :
    behind.length < text.length := by
  unfold cutStyle? at found
  split at found
  · next rest =>
      split at found
      · next behindParameters split =>
          obtain ⟨-, rfl⟩ := Prod.mk.inj (Option.some.inj found)
          have shorter := List.length_dropWhile_le isParameter rest
          rw [split] at shorter
          simp only [List.length_cons] at shorter ⊢
          omega
      · cases found
  · cases found

/-- A text as characters and control sequences.  An escape without a whole
sequence behind it is a character like any other. -/
def symbols (text : Text) : List Symbol :=
  match _ : cutStyle? text with
  | some (parameters, behind) => .style parameters :: symbols behind
  | none =>
      match text with
      | [] => []
      | character :: rest => .character character :: symbols rest
termination_by text.length
decreasing_by
  · next found => exact length_of_cutStyle? found
  · exact Nat.lt_succ_self _

def withoutStyles (text : Text) : Text :=
  (symbols text).filterMap Symbol.shown?

theorem symbols_nil : symbols [] = [] := by
  rw [symbols]
  rfl

theorem symbols_character {character : Char} (plain : character ≠ escape)
    (rest : Text) :
    symbols (character :: rest) = .character character :: symbols rest := by
  have noStyle : cutStyle? (character :: rest) = none := by
    unfold cutStyle?
    split
    · next whole => exact absurd (List.cons.inj whole).1 plain
    · rfl
  rw [symbols]
  split
  · next found =>
      rw [noStyle] at found
      cases found
  · rfl

theorem symbols_text {text : Text} (plain : escape ∉ text) (rest : Text) :
    symbols (text ++ rest) = text.map .character ++ symbols rest := by
  induction text with
  | nil => rfl
  | cons character others inductionHypothesis =>
      obtain ⟨differs, plainBehind⟩ := not_or.mp (List.mem_cons.not.mp plain)
      rw [List.cons_append, symbols_character (Ne.symm differs),
        inductionHypothesis plainBehind]
      rfl

theorem symbols_style {parameters : Text}
    (allowed : ∀ character ∈ parameters, isParameter character = true)
    (rest : Text) :
    symbols (style parameters ++ rest) = .style parameters :: symbols rest := by
  have whole : style parameters ++ rest =
      '\x1b' :: '[' :: (parameters ++ 'm' :: rest) := by
    simp [style]
  have cut : cutStyle? (style parameters ++ rest) = some (parameters, rest) := by
    rw [whole, cutStyle?, List.dropWhile_append_of_pos allowed,
      List.takeWhile_append_of_pos allowed]
    -- The `m` is no parameter, so both runs end in front of it.
    have ends : isParameter 'm' = false := by decide
    simp [ends]
  rw [symbols]
  split
  · next found =>
      rw [cut] at found
      cases found
      rfl
  · next missing =>
      rw [cut] at missing
      cases missing

end Preview

/-! ## Words in colour -/

namespace Category

def startParameters : Category → List Text
  | .predicate => ["38;5;12".toList]
  | .operator => ["38;5;9".toList]
  | .keyword => ["38;5;13".toList, "1".toList]
  | .string => ["38;5;10".toList]
  | .int => ["38;5;2".toList]
  | .comment => ["38;5;8".toList]

def resetParameters : Category → Text
  | .keyword => "0".toList
  | .predicate | .operator | .string | .int | .comment => "39".toList

def startedBy? (parameters : Text) : Option Category :=
  all.find? fun category => category.startParameters.head? = some parameters

end Category

namespace Event

def layout : Event → List Symbol
  | .word category text =>
      category.startParameters.map .style ++
        (text.map .character ++ [.style category.resetParameters])
  | .delimiter mark => [.character mark.character]
  | .escapedLineBreak => [.character '\n']
  | .escapedTab => [.character ' ', .character ' ']

def categorised? : Event → Option (Category × Text)
  | .word category text => some (category, text)
  | .delimiter _ => none
  | .escapedLineBreak => none
  | .escapedTab => none

end Event

namespace Preview

/-- Where the reader of a coloured preview stands: outside every word, or in a
word of which it has read some text.  In front of that text some control
sequences may still be awaited. -/
inductive Pen where
  | lifted
  | down (category : Category) (awaited : List Text) (text : Text)
deriving DecidableEq, Repr

/-- The words of some symbols, each with its category.  There is no answer
unless each word stands between the control sequences of its category. -/
def wordsOf? : Pen → List Symbol → Option (List (Category × Text))
  | .lifted, [] => some []
  | .down _ _ _, [] => none
  | .lifted, .character _ :: rest => wordsOf? .lifted rest
  | .lifted, .style parameters :: rest =>
      (Category.startedBy? parameters).bind fun category =>
        wordsOf? (.down category category.startParameters.tail []) rest
  | .down category (next :: awaited) text, .style parameters :: rest =>
      if parameters = next then
        wordsOf? (.down category awaited text) rest
      else
        none
  | .down _ (_ :: _) _, .character _ :: _ => none
  | .down category [] text, .character shown :: rest =>
      wordsOf? (.down category [] (text ++ [shown])) rest
  | .down category [] text, .style parameters :: rest =>
      if parameters = category.resetParameters then
        (wordsOf? .lifted rest).map ((category, text) :: ·)
      else
        none

theorem isParameter_start (category : Category) :
    ∀ parameters ∈ category.startParameters,
      ∀ character ∈ parameters, isParameter character = true := by
  intro parameters member
  have allowed : category.startParameters.all (·.all isParameter) = true := by
    cases category <;> decide
  apply List.all_eq_true.mp
  exact List.all_eq_true.mp allowed parameters member

theorem isParameter_reset (category : Category) :
    ∀ character ∈ category.resetParameters, isParameter character = true := by
  apply List.all_eq_true.mp
  cases category <;> decide

theorem symbols_styles {styles : List Text}
    (allowed : ∀ parameters ∈ styles,
      ∀ character ∈ parameters, isParameter character = true)
    (rest : Text) :
    symbols (styles.flatMap style ++ rest) =
      styles.map .style ++ symbols rest := by
  induction styles with
  | nil => rfl
  | cons parameters others inductionHypothesis =>
      obtain ⟨allowedHere, allowedBehind⟩ := List.forall_mem_cons.mp allowed
      rw [List.flatMap_cons, List.append_assoc, symbols_style allowedHere,
        inductionHypothesis allowedBehind]
      rfl

theorem symbols_begin (category : Category) (rest : Text) :
    symbols (begin category ++ rest) =
      category.startParameters.map .style ++ symbols rest := by
  have written : begin category = category.startParameters.flatMap style := by
    cases category <;> rfl
  rw [written]
  exact symbols_styles (isParameter_start category) rest

theorem symbols_reset (category : Category) (rest : Text) :
    symbols (reset category ++ rest) =
      .style category.resetParameters :: symbols rest := by
  have written : reset category = style category.resetParameters := by
    cases category <;> rfl
  rw [written]
  exact symbols_style (isParameter_reset category) rest

theorem symbols_ofEvent {event : Event}
    (plain : ∀ category text, event = .word category text → escape ∉ text)
    (rest : Text) :
    symbols (ofEvent false event ++ rest) = event.layout ++ symbols rest := by
  cases event with
  | word category text =>
      show symbols (begin category ++ text ++ reset category ++ rest) = _
      rw [List.append_assoc, List.append_assoc, symbols_begin,
        symbols_text (plain category text rfl), symbols_reset]
      simp [Event.layout]
  | delimiter mark =>
      apply symbols_character
      cases mark <;> decide
  | escapedLineBreak => exact symbols_character (by decide) rest
  | escapedTab =>
      show symbols (' ' :: ' ' :: rest) = _
      rw [symbols_character (by decide), symbols_character (by decide)]
      rfl

/-! ## The reading of a coloured preview -/

variable {events : List Event}

theorem symbols_ofEvents
    (plain : ∀ category text, .word category text ∈ events → escape ∉ text) :
    symbols (ofEvents false events) =
      events.flatMap Event.layout ++ [.character '\n'] := by
  unfold ofEvents
  induction events with
  | nil =>
      show symbols ['\n'] = [.character '\n']
      rw [symbols_character (by decide), symbols_nil]
  | cons event rest inductionHypothesis =>
      have plainHere : ∀ category text, event = .word category text →
          escape ∉ text := by
        intro category text isWord
        exact plain category text (isWord ▸ List.mem_cons_self)
      have plainBehind : ∀ category text, .word category text ∈ rest →
          escape ∉ text := by
        intro category text member
        exact plain category text (List.mem_cons_of_mem event member)
      rw [List.flatMap_cons, List.append_assoc, symbols_ofEvent plainHere,
        inductionHypothesis plainBehind, List.flatMap_cons, List.append_assoc]

/-- Without its control sequences, an event is shown as in a plain preview. -/
theorem shown_layout (event : Event) :
    event.layout.filterMap Symbol.shown? = ofEvent true event := by
  cases event with
  | word category text =>
      have starts : (category.startParameters.map Symbol.style).filterMap
          Symbol.shown? = [] := by
        cases category <;> rfl
      have inside : (text.map Symbol.character).filterMap Symbol.shown? =
          text := by
        rw [List.filterMap_map]
        exact List.filterMap_some
      rw [Event.layout, List.filterMap_append, List.filterMap_append, starts,
        inside]
      exact List.append_nil text
  | delimiter mark => rfl
  | escapedLineBreak => rfl
  | escapedTab => rfl

theorem wordsOf?_inside (category : Category) (text behind : Text)
    (rest : List Symbol) :
    wordsOf? (.down category [] text)
        (behind.map .character ++ .style category.resetParameters :: rest) =
      (wordsOf? .lifted rest).map ((category, text ++ behind) :: ·) := by
  induction behind generalizing text with
  | nil =>
      rw [List.map_nil, List.nil_append, wordsOf?, if_pos rfl, List.append_nil]
  | cons shown others inductionHypothesis =>
      rw [List.map_cons, List.cons_append, wordsOf?, inductionHypothesis,
        List.append_assoc, List.singleton_append]

theorem wordsOf?_word (category : Category) (text : Text)
    (rest : List Symbol) :
    wordsOf? .lifted ((Event.word category text).layout ++ rest) =
      (wordsOf? .lifted rest).map ((category, text) :: ·) := by
  rw [Event.layout, List.append_assoc, List.append_assoc]
  -- The control sequences in front are read one by one, and then the text.
  have inside := wordsOf?_inside category [] text rest
  cases category <;> exact inside

theorem wordsOf?_layout (event : Event) (rest : List Symbol) :
    wordsOf? .lifted (event.layout ++ rest) =
      (wordsOf? .lifted rest).map (event.categorised?.toList ++ ·) := by
  cases event with
  | word category text => exact wordsOf?_word category text rest
  | delimiter mark => exact Option.map_id'.symm
  | escapedLineBreak => exact Option.map_id'.symm
  | escapedTab => exact Option.map_id'.symm

/-- The control sequences around the words give their categories back. -/
theorem wordsOf?_flatMap_layout (events : List Event) :
    wordsOf? .lifted (events.flatMap Event.layout ++ [.character '\n']) =
      some (events.filterMap Event.categorised?) := by
  induction events with
  | nil => rfl
  | cons event rest inductionHypothesis =>
      rw [List.flatMap_cons, List.append_assoc, wordsOf?_layout,
        inductionHypothesis, Option.map_some]
      cases event <;> rfl

/-- Colour changes nothing but colour.  In a coloured preview each word stands
between the control sequences of its category, and nothing else is in colour.
Without its control sequences it is the plain preview, and the words can be read
back from it in order, each with its category. -/
theorem coloured_preview_reads_back
    (plain : ∀ category text, .word category text ∈ events → escape ∉ text) :
    symbols (ofEvents false events) =
        events.flatMap Event.layout ++ [.character '\n'] ∧
      withoutStyles (ofEvents false events) = ofEvents true events ∧
      wordsOf? .lifted (symbols (ofEvents false events)) =
        some (events.filterMap Event.categorised?) := by
  have whole := symbols_ofEvents plain
  refine ⟨whole, ?_, ?_⟩
  · rw [withoutStyles, whole, List.filterMap_append, List.filterMap_flatMap]
    simp only [shown_layout]
    rfl
  · rw [whole]
    exact wordsOf?_flatMap_layout events

/-- Words that look like the end of a control sequence, and one without any
text. -/
def sequenceLookalikes : List Event :=
  [.word .keyword "[0m".toList, .word .int "1;39m".toList, .delimiter .space,
    .word .comment [], .escapedTab, .word .predicate "m".toList]

/-- Words that look like parts of control sequences are told from them. -/
theorem coloured_preview_reads_back_lookalikes :
    .word .keyword "[0m".toList ∈ sequenceLookalikes ∧
      (∀ category text, .word category text ∈ sequenceLookalikes →
        escape ∉ text) ∧
      withoutStyles (ofEvents false sequenceLookalikes) =
        "[0m1;39m   m\n".toList ∧
      wordsOf? .lifted (symbols (ofEvents false sequenceLookalikes)) =
        some [(.keyword, "[0m".toList), (.int, "1;39m".toList), (.comment, []),
          (.predicate, "m".toList)] := by
  have plain : ∀ category text, .word category text ∈ sequenceLookalikes →
      escape ∉ text := by
    intro category text member
    simp only [sequenceLookalikes, List.mem_cons, Event.word.injEq,
      List.not_mem_nil, or_false, reduceCtorEq, false_or] at member
    rcases member with ⟨-, rfl⟩ | ⟨-, rfl⟩ | ⟨-, rfl⟩ | ⟨-, rfl⟩ <;> decide
  obtain ⟨-, bare, words⟩ := coloured_preview_reads_back plain
  exact ⟨List.mem_cons_self, plain, bare, words⟩

end Preview

end CsdlHighlight

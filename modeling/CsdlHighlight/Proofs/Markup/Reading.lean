import CsdlHighlight.Markup.Escape
import CsdlHighlight.Proofs.Text.Occurrences

/-!
Contract: markup read back into its tags and the characters between them.

Owns:
- `tokens`, which cuts markup at its tags and a tag at its double quotes, and
  decodes the entities in all that is left;
- `ShowsAs`, markup without tags that stands for the same characters whatever
  follows it, and the escaped texts as instances of it;
- `ReadsAs`, markup that is read in the same way whatever follows it, with the
  tags that are opened in it.

Does not own: any particular tag.
-/

namespace CsdlHighlight.Markup

/-! ## Entities -/

/-- The character of a blank that breaks no line. -/
def nonBreakingBlank : Char := '\u00a0'

/-- Replace each entity by the character it stands for. -/
def decode : Text → Text
  | '&' :: 'a' :: 'm' :: 'p' :: ';' :: rest => '&' :: decode rest
  | '&' :: 'l' :: 't' :: ';' :: rest => '<' :: decode rest
  | '&' :: 'g' :: 't' :: ';' :: rest => '>' :: decode rest
  | '&' :: 'q' :: 'u' :: 'o' :: 't' :: ';' :: rest => '"' :: decode rest
  | '&' :: 'n' :: 'b' :: 's' :: 'p' :: ';' :: rest =>
      nonBreakingBlank :: decode rest
  | character :: rest => character :: decode rest
  | [] => []

theorem decode_cons {character : Char} (notEntity : character ≠ '&')
    (rest : Text) : decode (character :: rest) = character :: decode rest := by
  rw [decode] <;> simp [notEntity]

theorem decode_escapeTextChar (character : Char) (rest : Text) :
    decode (escapeTextChar character ++ rest) = character :: decode rest := by
  unfold escapeTextChar
  split
  · rfl
  · rfl
  · rfl
  · next notEntity _ _ => exact decode_cons notEntity rest

theorem decode_escapeAttributeChar (character : Char) (rest : Text) :
    decode (escapeAttributeChar character ++ rest) =
      character :: decode rest := by
  unfold escapeAttributeChar
  split
  · rfl
  · exact decode_escapeTextChar _ rest

/-! ## Markup without tags -/

/-- Markup that opens no tag and stands for the characters `shown`, whatever
follows it. -/
structure ShowsAs (markup shown : Text) : Prop where
  noTag : '<' ∉ markup
  decode_append : ∀ rest, decode (markup ++ rest) = shown ++ decode rest

namespace ShowsAs

variable {markup shown : Text}

theorem decode_eq (shows : ShowsAs markup shown) : decode markup = shown := by
  simpa [decode] using shows.decode_append []

/-- A text that is written character by character stands for itself, if every
character does. -/
theorem flatMap {write : Char → Text} (text : Text)
    (each : ∀ character ∈ text, ShowsAs (write character) [character]) :
    ShowsAs (text.flatMap write) text := by
  induction text with
  | nil => exact ⟨List.not_mem_nil, fun _ => rfl⟩
  | cons character rest inductionHypothesis =>
      obtain ⟨here, behind⟩ := List.forall_mem_cons.mp each
      have tail := inductionHypothesis behind
      rw [List.flatMap_cons]
      refine ⟨?_, fun after => ?_⟩
      · simp only [List.mem_append, not_or]
        exact ⟨here.noTag, tail.noTag⟩
      · rw [List.append_assoc, here.decode_append, tail.decode_append,
          List.singleton_append, List.cons_append]

end ShowsAs

/-- No bracket stands in an escaped character. -/
theorem not_mem_escapeTextChar {bracket : Char}
    (isBracket : bracket = '<' ∨ bracket = '>') (character : Char) :
    bracket ∉ escapeTextChar character := by
  unfold escapeTextChar
  split
  · rcases isBracket with rfl | rfl <;> decide
  · rcases isBracket with rfl | rfl <;> decide
  · rcases isBracket with rfl | rfl <;> decide
  · next notLess notGreater =>
      rintro member
      obtain rfl := List.mem_singleton.mp member
      rcases isBracket with rfl | rfl
      · exact notLess rfl
      · exact notGreater rfl

/-- Neither a bracket nor a double quote stands in a character escaped for an
attribute. -/
theorem not_mem_escapeAttributeChar {mark : Char}
    (isMark : mark = '"' ∨ mark = '<' ∨ mark = '>') (character : Char) :
    mark ∉ escapeAttributeChar character := by
  unfold escapeAttributeChar
  split
  · rcases isMark with rfl | rfl | rfl <;> decide
  · next notQuote =>
      rcases isMark with rfl | isBracket
      · unfold escapeTextChar
        split <;> simp
        exact fun same => notQuote same.symm
      · exact not_mem_escapeTextChar isBracket character

theorem not_mem_escapeAttribute {mark : Char}
    (isMark : mark = '"' ∨ mark = '<' ∨ mark = '>') (text : Text) :
    mark ∉ escapeAttribute text := by
  intro member
  obtain ⟨character, _, written⟩ := List.mem_flatMap.mp member
  exact not_mem_escapeAttributeChar isMark character written

/-- Escaped text shows as itself and opens no tag. -/
theorem showsAs_escapeText (text : Text) : ShowsAs (escapeText text) text :=
  .flatMap text fun character _ =>
    ⟨not_mem_escapeTextChar (.inl rfl) character,
      decode_escapeTextChar character⟩

/-- An escaped attribute is read back as the text it was made from. -/
theorem decode_escapeAttribute (text : Text) :
    decode (escapeAttribute text) = text :=
  (ShowsAs.flatMap text fun character _ =>
    ⟨not_mem_escapeAttributeChar (.inr (.inl rfl)) character,
      decode_escapeAttributeChar character⟩).decode_eq

/-- A text without brackets and entities stands for itself. -/
theorem showsAs_self {text : Text} (noTag : '<' ∉ text)
    (noEntity : '&' ∉ text) : ShowsAs text text := by
  have each : ∀ character ∈ text, ShowsAs [character] [character] := by
    intro character member
    refine ⟨?_, decode_cons (fun same => noEntity (same ▸ member))⟩
    rintro isTag
    exact noTag (List.mem_singleton.mp isTag ▸ member)
  simpa using ShowsAs.flatMap text each

/-! ## Tags -/

/-- Markup cut at its tags: the text in front of the first tag, and each tag
without its brackets together with the text behind it. -/
structure TagCut where
  lead : Text
  tags : List (Text × Text)
deriving DecidableEq, Repr

/-- Cut markup at its tags, each of which is all from an opening bracket up to
the next closing one.  `opened` is what has been read of a tag so far.  A
bracket that is never closed opens no tag. -/
def cutFrom : Option Text → Text → TagCut
  | none, [] => ⟨[], []⟩
  | none, '<' :: rest => cutFrom (some []) rest
  | none, character :: rest =>
      let behind := cutFrom none rest
      { behind with lead := character :: behind.lead }
  | some inside, [] => ⟨'<' :: inside, []⟩
  | some inside, '>' :: rest =>
      let behind := cutFrom none rest
      ⟨[], (inside, behind.lead) :: behind.tags⟩
  | some inside, character :: rest => cutFrom (some (inside ++ [character])) rest

theorem cutFrom_text {text : Text} (noTag : '<' ∉ text) (rest : Text) :
    cutFrom none (text ++ rest) =
      { cutFrom none rest with lead := text ++ (cutFrom none rest).lead } := by
  induction text with
  | nil => rfl
  | cons character others inductionHypothesis =>
      obtain ⟨differs, noTagBehind⟩ := not_or.mp (List.mem_cons.not.mp noTag)
      rw [List.cons_append, cutFrom, inductionHypothesis noTagBehind]
      · rfl
      · exact fun same => differs same.symm

theorem cutFrom_inside {inside : Text} (noEnd : '>' ∉ inside)
    (before rest : Text) :
    cutFrom (some before) (inside ++ '>' :: rest) =
      ⟨[], (before ++ inside, (cutFrom none rest).lead) ::
        (cutFrom none rest).tags⟩ := by
  induction inside generalizing before with
  | nil =>
      rw [List.nil_append, cutFrom, List.append_nil]
  | cons character others inductionHypothesis =>
      obtain ⟨differs, noEndBehind⟩ := not_or.mp (List.mem_cons.not.mp noEnd)
      rw [List.cons_append, cutFrom, inductionHypothesis noEndBehind,
        List.append_assoc, List.singleton_append]
      exact fun same => differs same.symm

/-- A tag, cut at its double quotes, or a character outside every tag. -/
inductive Token where
  | tag (parts : List Text)
  | char (shown : Char)
deriving DecidableEq, Repr

/-- What stands between the double quotes of a tag and around them. -/
def tagParts (inside : Text) : List Text :=
  (Text.cutAt '"' inside).map decode

def tokens (markup : Text) : List Token :=
  let cut := cutFrom none markup
  (decode cut.lead).map .char ++
    cut.tags.flatMap fun (inside, behind) =>
      .tag (tagParts inside) :: (decode behind).map .char

def tagMarkup (inside : Text) : Text :=
  '<' :: (inside ++ ['>'])

theorem tokens_text {markup shown : Text} (shows : ShowsAs markup shown)
    (rest : Text) :
    tokens (markup ++ rest) = shown.map .char ++ tokens rest := by
  simp only [tokens, cutFrom_text shows.noTag, shows.decode_append,
    List.map_append, List.append_assoc]

/-- A tag is read up to its first closing bracket. -/
theorem tokens_tag {inside : Text} (noEnd : '>' ∉ inside) (rest : Text) :
    tokens (tagMarkup inside ++ rest) =
      .tag (tagParts inside) :: tokens rest := by
  have opened : tagMarkup inside ++ rest = '<' :: (inside ++ '>' :: rest) := by
    simp [tagMarkup]
  have cut : cutFrom none (tagMarkup inside ++ rest) =
      ⟨[], (inside, (cutFrom none rest).lead) :: (cutFrom none rest).tags⟩ := by
    rw [opened, cutFrom, cutFrom_inside noEnd, List.nil_append]
  simp [tokens, cut, decode]

/-! ## Tags with attributes -/

theorem cutAt_append {separator : Char} {left : Text}
    (absent : separator ∉ left) (right : Text) :
    Text.cutAt separator (left ++ separator :: right) =
      left :: Text.cutAt separator right := by
  induction left with
  | nil => simp [Text.cutAt]
  | cons character rest inductionHypothesis =>
      obtain ⟨differs, absentBehind⟩ := not_or.mp (List.mem_cons.not.mp absent)
      rw [List.cons_append, Text.cutAt, if_neg (Ne.symm differs),
        inductionHypothesis absentBehind]

/-- A name without quotes, a quoted value with an escaped text, and more. -/
theorem tagParts_attribute {name : Text} (plain : '"' ∉ name)
    (value rest : Text) :
    tagParts (name ++ '"' :: (escapeAttribute value ++ '"' :: rest)) =
      decode name :: value :: tagParts rest := by
  rw [tagParts, cutAt_append plain,
    cutAt_append (not_mem_escapeAttribute (.inl rfl) value), List.map_cons,
    List.map_cons, decode_escapeAttribute]
  rfl

/-! ## Markup that is read in one way only -/

/-- Whatever follows the markup, it is read as the tokens `shown`, and the tags
`opened` are the only places at which something with an opening bracket can
start. -/
structure ReadsAs (markup : Text) (shown : List Token) (opened : List Text) :
    Prop where
  tokens_append : ∀ rest, tokens (markup ++ rest) = shown ++ tokens rest
  occurrences_append : ∀ start : Text, '>' ∉ start.dropLast → ∀ rest,
    Text.occurrences ('<' :: start) (markup ++ rest) =
      opened.countP (fun inside => start.isPrefixOf (inside ++ ['>'])) +
        Text.occurrences ('<' :: start) rest

namespace ReadsAs

variable {markup behind : Text} {shown shownBehind : List Token}
  {opened openedBehind : List Text}

theorem tokens_eq (reads : ReadsAs markup shown opened) :
    tokens markup = shown := by
  simpa [tokens, cutFrom, decode] using reads.tokens_append []

theorem occurrences_eq (reads : ReadsAs markup shown opened) {start : Text}
    (early : '>' ∉ start.dropLast) :
    Text.occurrences ('<' :: start) markup =
      opened.countP fun inside => start.isPrefixOf (inside ++ ['>']) := by
  have whole := reads.occurrences_append start early []
  have nothing : Text.occurrences ('<' :: start) [] = 0 := rfl
  rwa [List.append_nil, nothing, Nat.add_zero] at whole

theorem nil : ReadsAs [] [] [] where
  tokens_append _ := rfl
  occurrences_append _ _ _ := (Nat.zero_add _).symm

theorem append (here : ReadsAs markup shown opened)
    (there : ReadsAs behind shownBehind openedBehind) :
    ReadsAs (markup ++ behind) (shown ++ shownBehind)
      (opened ++ openedBehind) where
  tokens_append rest := by
    rw [List.append_assoc, here.tokens_append, there.tokens_append,
      List.append_assoc]
  occurrences_append start early rest := by
    rw [List.append_assoc, here.occurrences_append start early,
      there.occurrences_append start early, List.countP_append, Nat.add_assoc]

theorem flatMap {Symbol : Type} {write : Symbol → Text}
    {reading : Symbol → List Token} {opening : Symbol → List Text}
    (each : ∀ symbol, ReadsAs (write symbol) (reading symbol) (opening symbol))
    (symbols : List Symbol) :
    ReadsAs (symbols.flatMap write) (symbols.flatMap reading)
      (symbols.flatMap opening) := by
  induction symbols with
  | nil => exact nil
  | cons symbol rest inductionHypothesis =>
      simp only [List.flatMap_cons]
      exact (each symbol).append inductionHypothesis

theorem text {characters : Text} (shows : ShowsAs markup characters) :
    ReadsAs markup (characters.map .char) [] where
  tokens_append := tokens_text shows
  occurrences_append start _ rest := by
    rw [Text.occurrences_append_of_not_mem shows.noTag, List.countP_nil,
      Nat.zero_add]

theorem tag {inside : Text} (noStart : '<' ∉ inside) (noEnd : '>' ∉ inside) :
    ReadsAs (tagMarkup inside) [.tag (tagParts inside)] [inside] where
  tokens_append := tokens_tag noEnd
  occurrences_append start early rest := by
    have behindBracket : '<' ∉ inside ++ ['>'] := by simp [noStart]
    rw [tagMarkup, List.cons_append, Text.occurrences_cons,
      Text.occurrences_append_of_not_mem behindBracket, List.append_assoc]
    simp [List.isPrefixOf, Text.isPrefixOf_append_stop early]

end ReadsAs

end CsdlHighlight.Markup

import CsdlHighlight.Preview
import CsdlHighlight.Proofs.Classification.Trace
import CsdlHighlight.Proofs.Piece.Cut
import CsdlHighlight.Proofs.Text.Search
import CsdlHighlight.Proofs.Text.Trim

/-!
Contract: the events of a text are a partition of it into delimiters and
expanded runs.

Owns:
- `TakesOut`, the removal of the first occurrence of an escape;
- `Item` and `Partition`, the reading of events back into the text;
- the partition of every text, and what follows for its words and for its
  plain preview.

Does not own: the categories of the words.
-/

namespace CsdlHighlight

/-! ## Escapes of a run -/

/-- `TakesOut escape text taken rest`: the escape is looked for in the text,
`taken` says whether it occurs, and `rest` is the text without its first
occurrence. -/
inductive TakesOut (escape : Text) : Text → Bool → Text → Prop where
  | absent {text : Text} (missing : ¬ escape <:+: text) :
      TakesOut escape text false text
  | first {text before after : Text}
      (cut : Text.IsFirstCut escape text before after) :
      TakesOut escape text true (before ++ after)

namespace TakesOut

variable {escape text rest : Text} {taken : Bool}

theorem ofErase (escape text : Text) :
    TakesOut escape text (Text.occurs escape text)
      (Text.eraseFirst escape text) := by
  by_cases present : escape <:+: text
  · obtain ⟨before, after, cut, erased⟩ := Text.eraseFirst_of_isInfix present
    rw [Text.occurs_iff.mpr present, erased]
    exact .first cut
  · rw [Text.occurs_eq_false_iff.mpr present,
      Text.eraseFirst_of_not_isInfix present]
    exact .absent present

theorem rest_eq (removal : TakesOut escape text false rest) : rest = text := by
  cases removal
  rfl

theorem mem_text (removal : TakesOut escape text taken rest)
    {character : Char} (member : character ∈ rest) : character ∈ text := by
  cases removal with
  | absent missing => exact member
  | @first before after cut =>
      rw [cut.whole]
      rcases List.mem_append.mp member with inBefore | inAfter
      · simp [inBefore]
      · simp [inAfter]

end TakesOut

/-! ## Items -/

/-- One item of a partition: a delimiter, or a run of characters with what
became of it. -/
inductive Item where
  | delimiter (mark : Delimiter)
  | group (run : Text) (lineBreak tab : Bool) (category : Category)
      (word : Text)
deriving DecidableEq, Repr

namespace Item

def escapes (lineBreak tab : Bool) : List Event :=
  (if lineBreak then [.escapedLineBreak] else []) ++
    (if tab then [.escapedTab] else [])

def source : Item → Text
  | .delimiter mark => [mark.character]
  | .group run _ _ _ _ => run

/-- The events of an item: a delimiter alone, or the escapes of a run in front
of exactly one word. -/
def events : Item → List Event
  | .delimiter mark => [.delimiter mark]
  | .group _ lineBreak tab category word =>
      escapes lineBreak tab ++ [.word category word]

def isGroup : Item → Bool
  | .delimiter _ => false
  | .group _ _ _ _ _ => true

/-- A group is the expansion of its run: a text that is not empty and holds no
delimiter, less its first line break escape, less the first tab escape of what
then remains. -/
inductive Faithful : Item → Prop where
  | delimiter (mark : Delimiter) : Faithful (.delimiter mark)
  | group {run rest word : Text} {lineBreak tab : Bool}
      (nonempty : run ≠ [])
      (plain : Delimiter.AbsentFrom run)
      (breakTaken : TakesOut lineBreakEscape run lineBreak rest)
      (tabTaken : TakesOut tabEscape rest tab word)
      (category : Category) :
      Faithful (.group run lineBreak tab category word)

end Item

/-- The items are cut from the trimmed text at maximal runs, and the events are
theirs in order. -/
structure Partition (text : Text) (events : List Event) (items : List Item) :
    Prop where
  events_eq : events = items.flatMap Item.events
  source_eq : Text.trim text = items.flatMap Item.source
  faithful : ∀ item ∈ items, item.Faithful
  apart : items.IsChain fun left right => ¬ (left.isGroup ∧ right.isGroup)

/-! ## Items from pieces -/

namespace Item

def piece : Item → Piece
  | .delimiter mark => .delimiter mark
  | .group run _ _ _ _ => .run run

theorem characters_piece (item : Item) :
    item.piece.characters = item.source := by
  cases item <;> rfl

theorem isRun_piece (item : Item) : item.piece.isRun = item.isGroup := by
  cases item <;> rfl

end Item

/-- One piece yields the events of one faithful item. -/
theorem Piece.exists_item {piece : Piece} (spans : Spans)
    (proper : ∀ characters, piece = .run characters →
      characters ≠ [] ∧ Delimiter.AbsentFrom characters) :
    ∃ item : Item, (piece.classify spans).1 = item.events ∧
      item.piece = piece ∧ item.Faithful := by
  cases piece with
  | delimiter mark =>
      exact ⟨.delimiter mark, rfl, rfl, .delimiter mark⟩
  | run characters =>
      obtain ⟨nonempty, plain⟩ := proper characters rfl
      let expansion := Expansion.ofRun characters
      refine ⟨.group characters expansion.lineBreak expansion.tab
        (spans.category expansion.word) expansion.word, rfl, rfl, ?_⟩
      exact .group nonempty plain (TakesOut.ofErase _ _)
        (TakesOut.ofErase _ _) _

theorem Piece.exists_items (spans : Spans) {pieces : List Piece}
    (proper : ∀ characters, .run characters ∈ pieces →
      characters ≠ [] ∧ Delimiter.AbsentFrom characters) :
    ∃ items : List Item,
      (Piece.classifyAll spans pieces).1 = items.flatMap Item.events ∧
      items.map Item.piece = pieces ∧ ∀ item ∈ items, item.Faithful := by
  induction pieces generalizing spans with
  | nil => exact ⟨[], rfl, rfl, by simp⟩
  | cons piece rest inductionHypothesis =>
      obtain ⟨item, itemEvents, itemPiece, itemFaithful⟩ :=
        piece.exists_item spans (fun characters isRun =>
          proper characters (isRun ▸ List.mem_cons_self))
      obtain ⟨items, events, pieces, faithful⟩ :=
        inductionHypothesis (piece.classify spans).2 (fun characters member =>
          proper characters (List.mem_cons_of_mem _ member))
      refine ⟨item :: items, ?_, ?_, ?_⟩
      · rw [classifyAll_cons, List.flatMap_cons, itemEvents, events]
      · rw [List.map_cons, itemPiece, pieces]
      · exact List.forall_mem_cons.mpr ⟨itemFaithful, faithful⟩

/-- Every text has a partition into what its events were made from. -/
theorem exists_partition (text : Text) :
    ∃ items, Partition text (classify text) items := by
  have maximal := Piece.maximal_cut (Text.trim text)
  obtain ⟨items, events, pieces, faithful⟩ :=
    Piece.exists_items .closed (fun _ => maximal.run_of_mem)
  refine ⟨items, events, ?_, faithful, ?_⟩
  · calc
      Text.trim text =
          (Piece.cut (Text.trim text)).flatMap Piece.characters :=
        (Piece.flatMap_characters_cut _).symm
      _ = items.flatMap Item.source := by
        rw [← pieces, List.flatMap_map]
        simp only [Item.characters_piece]
  · have chain := maximal.isChain
    rw [← pieces, List.isChain_map] at chain
    simpa only [Item.isRun_piece] using chain

/-! ## Words of faithful items -/

def EndsInEscape (events : List Event) : Prop :=
  events.getLast? = some .escapedLineBreak ∨
    events.getLast? = some .escapedTab

theorem EndsInEscape.append {events : List Event} (ends : EndsInEscape events)
    (front : List Event) : EndsInEscape (front ++ events) := by
  unfold EndsInEscape at ends ⊢
  rcases ends with last | last <;> simp [List.getLast?_append, last]

namespace Item

theorem word_not_mem_escapes (lineBreak tab : Bool) (category : Category)
    (word : Text) : .word category word ∉ escapes lineBreak tab := by
  cases lineBreak <;> cases tab <;> simp [escapes]

theorem endsInEscape_escapes {lineBreak tab : Bool}
    (present : lineBreak = true ∨ tab = true) :
    EndsInEscape (escapes lineBreak tab) := by
  cases lineBreak <;> cases tab <;> simp [escapes, EndsInEscape] at present ⊢

namespace Faithful

/-- Only an escape can leave nothing of a run. -/
theorem escaped_of_empty {run : Text} {lineBreak tab : Bool}
    {category : Category}
    (faithful : Faithful (.group run lineBreak tab category [])) :
    lineBreak = true ∨ tab = true := by
  cases faithful with
  | group nonempty plain breakTaken tabTaken =>
      cases lineBreak with
      | true => exact .inl rfl
      | false =>
          cases tab with
          | true => exact .inr rfl
          | false =>
              exact absurd
                (breakTaken.rest_eq.symm.trans tabTaken.rest_eq.symm) nonempty

theorem plain_of_word {item : Item} (faithful : item.Faithful)
    {category : Category} {word : Text}
    (member : .word category word ∈ item.events) :
    Delimiter.AbsentFrom word := by
  cases faithful with
  | delimiter mark => simp [events] at member
  | group nonempty plain breakTaken tabTaken =>
      have last := (List.mem_append.mp member).resolve_left
        (word_not_mem_escapes _ _ _ _)
      cases List.mem_singleton.mp last
      intro mark inWord
      exact plain mark (breakTaken.mem_text (tabTaken.mem_text inWord))

/-- A word is empty only where an escape has been taken out of its run. -/
theorem endsInEscape_of_events {item : Item} (faithful : item.Faithful)
    {before after : List Event} {category : Category}
    (split : item.events = before ++ .word category [] :: after) :
    EndsInEscape before := by
  cases item with
  | delimiter mark =>
      have member : .word category [] ∈ (Item.delimiter mark).events :=
        split ▸ List.mem_append_right before List.mem_cons_self
      simp [events] at member
  | group run lineBreak tab found word =>
      rcases List.append_eq_append_iff.mp split with
        ⟨between, inFront, single⟩ | ⟨between, inFront, single⟩
      · have noBetween : between = [] := by
          cases between with
          | nil => rfl
          | cons head tail =>
              exact absurd (congrArg List.length single) (by simp)
        rw [noBetween] at inFront single
        cases single
        rw [inFront, List.append_nil]
        exact endsInEscape_escapes faithful.escaped_of_empty
      · cases between with
        | nil =>
            cases single
            rw [List.append_nil] at inFront
            rw [← inFront]
            exact endsInEscape_escapes faithful.escaped_of_empty
        | cons head tail =>
            -- The word would stand among the escapes.
            obtain ⟨rfl, _⟩ := List.cons.inj single
            have member : Event.word category [] ∈ escapes lineBreak tab :=
              inFront ▸ List.mem_append_right before List.mem_cons_self
            exact absurd member (word_not_mem_escapes _ _ _ _)

/-- Without escapes in its run, an item shows as what it stands for. -/
theorem preview_events {item : Item} (faithful : item.Faithful)
    (noBreak : ¬ lineBreakEscape <:+: item.source)
    (noTab : ¬ tabEscape <:+: item.source) :
    item.events.flatMap (Preview.ofEvent true) = item.source := by
  cases faithful with
  | delimiter mark => rfl
  | group nonempty plain breakTaken tabTaken =>
      cases breakTaken with
      | first cut => exact absurd cut.isInfix noBreak
      | absent missing =>
          cases tabTaken with
          | first cut => exact absurd cut.isInfix noTab
          | absent missing => simp [events, escapes, source, Preview.ofEvent]

end Faithful

end Item

/-! ## Words of a partition -/

theorem endsInEscape_of_flatMap {items : List Item}
    (faithful : ∀ item ∈ items, item.Faithful) {before after : List Event}
    {category : Category}
    (split : items.flatMap Item.events = before ++ .word category [] :: after) :
    EndsInEscape before := by
  induction items generalizing before with
  | nil => simp at split
  | cons item rest inductionHypothesis =>
      have restFaithful := (List.forall_mem_cons.mp faithful).2
      rw [List.flatMap_cons] at split
      rcases List.append_eq_append_iff.mp split with
        ⟨between, inFront, later⟩ | ⟨between, inFront, later⟩
      · rw [inFront]
        exact (inductionHypothesis restFaithful later).append item.events
      · cases between with
        | nil =>
            -- The word opens the rest, where nothing stands in front of it.
            have opens : EndsInEscape [] :=
              inductionHypothesis restFaithful later.symm
            simp [EndsInEscape] at opens
        | cons head tail =>
            obtain ⟨rfl, _⟩ := List.cons.inj later
            exact (faithful item List.mem_cons_self).endsInEscape_of_events
              inFront

namespace Partition

variable {text : Text} {events : List Event} {items : List Item}

theorem plain_of_word (partition : Partition text events items)
    {category : Category} {word : Text}
    (member : .word category word ∈ events) : Delimiter.AbsentFrom word := by
  rw [partition.events_eq] at member
  obtain ⟨item, itemMember, inItem⟩ := List.mem_flatMap.mp member
  exact (partition.faithful item itemMember).plain_of_word inItem

theorem source_isInfix (partition : Partition text events items) {item : Item}
    (member : item ∈ items) : item.source <:+: text := by
  have inTrimmed : item.source <:+: Text.trim text := by
    obtain ⟨front, behind, rfl⟩ := List.append_of_mem member
    refine ⟨front.flatMap Item.source, behind.flatMap Item.source, ?_⟩
    rw [partition.source_eq, List.flatMap_append, List.flatMap_cons,
      List.append_assoc]
  exact inTrimmed.trans (Text.trim_isInfix text)

/-- Without escapes, a plain preview is the trimmed text and a newline. -/
theorem preview_eq (partition : Partition text events items)
    (noBreak : ¬ lineBreakEscape <:+: text) (noTab : ¬ tabEscape <:+: text) :
    Preview.ofEvents true events = Text.trim text ++ ['\n'] := by
  have shown : ∀ item ∈ items,
      item.events.flatMap (Preview.ofEvent true) = item.source := by
    intro item member
    have inText := partition.source_isInfix member
    exact (partition.faithful item member).preview_events
      (fun present => noBreak (present.trans inText))
      (fun present => noTab (present.trans inText))
  unfold Preview.ofEvents
  rw [partition.events_eq, partition.source_eq, List.flatMap_assoc]
  rw [List.flatMap_congr shown]

end Partition

/-- The events of a text are a partition of it: nothing is lost, doubled or
reordered, and words are expansions of maximal runs.  So no word holds a
delimiter, a word can only be empty behind an escape, and a text without escapes
has itself as its plain preview. -/
theorem classify_partition (text : Text) :
    (∃ items, Partition text (classify text) items) ∧
    (∀ category word, .word category word ∈ classify text →
      Delimiter.AbsentFrom word) ∧
    (∀ before category after,
      classify text = before ++ .word category [] :: after →
        EndsInEscape before) ∧
    (¬ lineBreakEscape <:+: text → ¬ tabEscape <:+: text →
      Preview.ofEvents true (classify text) = Text.trim text ++ ['\n']) := by
  obtain ⟨items, partition⟩ := exists_partition text
  refine ⟨⟨items, partition⟩, ?_, ?_, partition.preview_eq⟩
  · intro category word member
    exact partition.plain_of_word member
  · intro before category after split
    rw [partition.events_eq] at split
    exact endsInEscape_of_flatMap partition.faithful split

end CsdlHighlight

import CsdlHighlight.Proofs.Classification.Partition
import CsdlHighlight.Proofs.Markup.Fragment

/-!
Contract: an escaped fragment and a plain preview show the same text.

Owns:
- `shownText`, which reads a fragment back into the text that it shows;
- `expandTabs`, since a fragment shows a tab as two blanks;
- the agreement of both renderings, event by event and for every text.

Does not own: fragments with verbatim words, or coloured previews.
-/

namespace CsdlHighlight

namespace Markup

/-! ## The text of a fragment -/

/-- The text that a fragment shows: span tags are dropped, a line break is a
newline, and an entity is the character that it stands for, with a blank for
`&nbsp;`.  While a tag is being dropped, `inTag` is set. -/
def shownText : Bool → Text → Text
  | _, [] => []
  | true, '>' :: rest => shownText false rest
  | true, _ :: rest => shownText true rest
  | false, '<' :: 's' :: 'p' :: 'a' :: 'n' :: ' ' :: rest => shownText true rest
  | false, '<' :: '/' :: 's' :: 'p' :: 'a' :: 'n' :: '>' :: rest =>
      shownText false rest
  | false, '<' :: 'b' :: 'r' :: '/' :: '>' :: rest =>
      '\n' :: shownText false rest
  | false, '&' :: 'n' :: 'b' :: 's' :: 'p' :: ';' :: rest =>
      ' ' :: shownText false rest
  | false, '&' :: 'a' :: 'm' :: 'p' :: ';' :: rest => '&' :: shownText false rest
  | false, '&' :: 'l' :: 't' :: ';' :: rest => '<' :: shownText false rest
  | false, '&' :: 'g' :: 't' :: ';' :: rest => '>' :: shownText false rest
  | false, character :: rest => character :: shownText false rest

theorem shownText_cons {character : Char} (notTag : character ≠ '<')
    (notEntity : character ≠ '&') (rest : Text) :
    shownText false (character :: rest) =
      character :: shownText false rest := by
  rw [shownText] <;> simp [notTag, notEntity]

theorem shownText_escapeTextChar (character : Char) (rest : Text) :
    shownText false (escapeTextChar character ++ rest) =
      character :: shownText false rest := by
  unfold escapeTextChar
  split
  · rfl
  · rfl
  · rfl
  · next notEntity notLess _ => exact shownText_cons notLess notEntity rest

/-- Escaped text is shown as itself, whatever follows it. -/
theorem shownText_escapeText (text rest : Text) :
    shownText false (escapeText text ++ rest) =
      text ++ shownText false rest := by
  induction text with
  | nil => rfl
  | cons character others inductionHypothesis =>
      rw [escapeText, List.flatMap_cons, List.append_assoc,
        shownText_escapeTextChar]
      exact congrArg (character :: ·) inductionHypothesis

theorem shownText_inTag {inside : Text} (noEnd : '>' ∉ inside) (rest : Text) :
    shownText true (inside ++ '>' :: rest) = shownText false rest := by
  induction inside with
  | nil => rfl
  | cons character others inductionHypothesis =>
      obtain ⟨differs, noEndBehind⟩ := not_or.mp (List.mem_cons.not.mp noEnd)
      rw [List.cons_append, shownText, inductionHypothesis noEndBehind]
      exact fun same => differs same.symm

/-- A word shows as its text, whatever the text holds and whatever follows. -/
theorem shownText_word (category : Category) (text rest : Text) :
    shownText false (ofEvent true (.word category text) ++ rest) =
      text ++ shownText false rest := by
  have noEnd : '>' ∉ "class=\"".toList ++ category.styleClass ++ ['"'] := by
    cases category <;> decide
  have opened : ofEvent true (.word category text) ++ rest =
      '<' :: 's' :: 'p' :: 'a' :: 'n' :: ' ' ::
        ("class=\"".toList ++ category.styleClass ++ ['"'] ++
          '>' :: (escapeText text ++ ("</span>".toList ++ rest))) := by
    rw [ofEvent_word_append]
    simp
  rw [opened, shownText, shownText_inTag noEnd, shownText_escapeText]
  rfl

end Markup

/-! ## Tabs -/

namespace Preview

/-- A text with two blanks in the place of each tab. -/
def expandTabs (text : Text) : Text :=
  text.flatMap fun character =>
    if character = '\t' then [' ', ' '] else [character]

theorem expandTabs_append (left right : Text) :
    expandTabs (left ++ right) = expandTabs left ++ expandTabs right :=
  List.flatMap_append

theorem expandTabs_of_not_mem {text : Text} (absent : '\t' ∉ text) :
    expandTabs text = text := by
  have kept : ∀ character ∈ text,
      (if character = '\t' then [' ', ' '] else [character]) = [character] := by
    intro character member
    refine if_neg ?_
    rintro rfl
    exact absent member
  rw [expandTabs, List.flatMap_congr kept, List.flatMap_singleton']

end Preview

/-! ## Both renderings -/

namespace Markup

/-- An event shows as in a plain preview, if it is no word with a tab in it. -/
theorem shownText_ofEvent {event : Event}
    (noTab : ∀ category text, event = .word category text → '\t' ∉ text)
    (rest : Text) :
    shownText false (ofEvent true event ++ rest) =
      Preview.expandTabs (Preview.ofEvent true event) ++
        shownText false rest := by
  cases event with
  | word category text =>
      rw [shownText_word, Preview.ofEvent, if_pos rfl,
        Preview.expandTabs_of_not_mem (noTab category text rfl)]
  | delimiter mark => cases mark <;> rfl
  | escapedLineBreak => rfl
  | escapedTab => rfl

/-- A fragment shows what a plain preview writes, with blanks for each tab. -/
theorem shownText_fragment {events : List Event}
    (noTab : ∀ category text, .word category text ∈ events → '\t' ∉ text) :
    shownText false (fragment true events) =
      Preview.expandTabs (events.flatMap (Preview.ofEvent true)) := by
  induction events with
  | nil => rfl
  | cons event rest inductionHypothesis =>
      have noTabHere : ∀ category text, event = .word category text →
          '\t' ∉ text := by
        rintro category text rfl
        exact noTab category text List.mem_cons_self
      have noTabBehind : ∀ category text, .word category text ∈ rest →
          '\t' ∉ text := fun category text member =>
        noTab category text (List.mem_cons_of_mem event member)
      have behind := inductionHypothesis noTabBehind
      unfold fragment at behind ⊢
      rw [List.flatMap_cons, List.flatMap_cons, shownText_ofEvent noTabHere, behind,
        Preview.expandTabs_append]

/-- What the highlighted markup of a text shows is its plain preview, but for the
tabs: no escape, comment, string, tag or entity in the text is shown otherwise on
a page than on a terminal. -/
theorem highlight_shows_preview (text : Text) :
    shownText false (highlight true text) ++ ['\n'] =
      Preview.expandTabs (Preview.ofEvents true (classify text)) := by
  obtain ⟨items, partition⟩ := exists_partition text
  have noTab : ∀ category word, .word category word ∈ classify text →
      '\t' ∉ word := fun category word member =>
    partition.plain_of_word member .tab
  rw [highlight, shownText_fragment noTab, Preview.ofEvents,
    Preview.expandTabs_append]
  rfl

end Markup

end CsdlHighlight

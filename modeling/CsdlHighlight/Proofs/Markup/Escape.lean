import CsdlHighlight.Markup.Escape

/-!
Contract: escaped element content can be read back and opens no tag.

Owns:
- `unescapeText`, which replaces the three entities by their characters;
- the recovery of a text from its escaped form;
- the absence of the bracket that opens a tag.

Does not own: the markup around escaped text, or attribute values.
-/

namespace CsdlHighlight.Markup

/-- Replace each of the three entities by the character it stands for. -/
def unescapeText : Text → Text
  | '&' :: 'a' :: 'm' :: 'p' :: ';' :: rest => '&' :: unescapeText rest
  | '&' :: 'l' :: 't' :: ';' :: rest => '<' :: unescapeText rest
  | '&' :: 'g' :: 't' :: ';' :: rest => '>' :: unescapeText rest
  | character :: rest => character :: unescapeText rest
  | [] => []

theorem unescapeText_cons {character : Char} (notEntity : character ≠ '&')
    (rest : Text) :
    unescapeText (character :: rest) = character :: unescapeText rest := by
  rw [unescapeText] <;> simp [notEntity]

theorem unescapeText_escapeTextChar (character : Char) (rest : Text) :
    unescapeText (escapeTextChar character ++ rest) =
      character :: unescapeText rest := by
  unfold escapeTextChar
  split
  · rfl
  · rfl
  · rfl
  · next notEntity _ _ => exact unescapeText_cons notEntity rest

/-- An escaped text stands for the text alone. -/
theorem unescapeText_escapeText (text : Text) :
    unescapeText (escapeText text) = text := by
  induction text with
  | nil => rfl
  | cons character rest inductionHypothesis =>
      rw [escapeText, List.flatMap_cons, unescapeText_escapeTextChar]
      exact congrArg (character :: ·) inductionHypothesis

theorem escapeText_injective {left right : Text}
    (equal : escapeText left = escapeText right) : left = right := by
  rw [← unescapeText_escapeText left, equal, unescapeText_escapeText]

/-- No tag opens inside escaped content. -/
theorem less_not_mem_escapeText (text : Text) : '<' ∉ escapeText text := by
  intro member
  obtain ⟨character, _, written⟩ := List.mem_flatMap.mp member
  unfold escapeTextChar at written
  split at written
  · simp at written
  · simp at written
  · simp at written
  · next _ notLess _ => exact notLess (List.mem_singleton.mp written).symm

end CsdlHighlight.Markup

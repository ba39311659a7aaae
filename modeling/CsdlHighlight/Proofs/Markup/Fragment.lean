import CsdlHighlight.Markup.Fragment
import CsdlHighlight.Proofs.Markup.Escape
import CsdlHighlight.Proofs.Text.PrefixCode
import Mathlib.Data.List.Basic

/-!
Contract: an escaped fragment determines the events that it shows.

Owns:
- `Event.normalize`, which joins the events that are shown alike by intent;
- the unambiguity of fragments over normal events;
- the equivalence of equal fragments and equal normal events.

Does not own: fragments with verbatim words, which are ambiguous.
-/

namespace CsdlHighlight

namespace Event

/-- The normal events that show as an event does: an escaped line break is a
line break, and a tab of either kind is two blanks. -/
def normal : Event → List Event
  | .escapedLineBreak => [.delimiter .newline]
  | .escapedTab => [.delimiter .space, .delimiter .space]
  | .delimiter .tab => [.delimiter .space, .delimiter .space]
  | other => [other]

def normalize (events : List Event) : List Event :=
  events.flatMap normal

/-- Neither an escape nor a tab. -/
def IsNormal : Event → Prop
  | .word _ _ => True
  | .delimiter mark => mark ≠ .tab
  | .escapedLineBreak => False
  | .escapedTab => False

theorem isNormal_of_mem_normal {event shown : Event}
    (member : shown ∈ event.normal) : shown.IsNormal := by
  cases event with
  | word category text =>
      cases List.mem_singleton.mp member
      trivial
  | delimiter mark =>
      cases mark <;> simp [normal] at member <;> subst member <;>
        simp [IsNormal]
  | escapedLineBreak =>
      cases List.mem_singleton.mp member
      simp [IsNormal]
  | escapedTab =>
      simp [normal] at member
      subst member
      simp [IsNormal]

theorem isNormal_of_mem_normalize {events : List Event} :
    ∀ shown ∈ normalize events, shown.IsNormal := by
  intro shown member
  obtain ⟨event, _, inNormal⟩ := List.mem_flatMap.mp member
  exact isNormal_of_mem_normal inNormal

end Event

namespace Markup

/-! ## The markup of single events -/

theorem ofEvent_word (category : Category) (text : Text) :
    ofEvent true (.word category text) =
      "<span class=\"".toList ++ category.styleClass ++ "\">".toList ++
        escapeText text ++ "</span>".toList := rfl

theorem ofEvent_delimiter (escaping : Bool) (mark : Delimiter) :
    ofEvent escaping (.delimiter mark) = ofDelimiter mark := rfl

theorem ofDelimiter_ne_nil (mark : Delimiter) : ofDelimiter mark ≠ [] := by
  cases mark <;> decide

/-! ## Words -/

theorem quote_not_mem_styleClass (category : Category) :
    '"' ∉ category.styleClass := by
  cases category <;> decide

/-- No two categories share a style class. -/
theorem styleClass_injective {left right : Category}
    (equal : left.styleClass = right.styleClass) : left = right := by
  revert equal
  cases left <;> cases right <;> decide

/-- The markup of a word begins as no other does, closes its class with a quote
and its text with the bracket of the closing tag. -/
theorem ofEvent_word_append (category : Category) (text rest : Text) :
    ofEvent true (.word category text) ++ rest =
      '<' :: 's' :: ("pan class=\"".toList ++
        (category.styleClass ++ '"' :: '>' ::
          (escapeText text ++ '<' :: ("/span>".toList ++ rest)))) := by
  rw [ofEvent_word, List.append_assoc, List.append_assoc, List.append_assoc,
    List.append_assoc]
  rfl

theorem ofEvent_word_cancel {left right : Category}
    {leftText rightText leftRest rightRest : Text}
    (equal : ofEvent true (.word left leftText) ++ leftRest =
      ofEvent true (.word right rightText) ++ rightRest) :
    Event.word left leftText = .word right rightText ∧
      leftRest = rightRest := by
  rw [ofEvent_word_append, ofEvent_word_append] at equal
  have classes := List.append_cancel_left
    (List.cons.inj (List.cons.inj equal).2).2
  obtain ⟨sameClass, contents⟩ := Text.eq_of_append_stop_eq
    (quote_not_mem_styleClass left) (quote_not_mem_styleClass right) classes
  obtain ⟨sameText, behind⟩ := Text.eq_of_append_stop_eq
    (less_not_mem_escapeText leftText) (less_not_mem_escapeText rightText)
    (List.cons.inj contents).2
  refine ⟨?_, List.append_cancel_left behind⟩
  rw [styleClass_injective sameClass, escapeText_injective sameText]

/-! ## Events -/

/-- Whatever follows, the markup of a normal delimiter is not that of a word:
only a line break opens a tag too, and it goes on with another letter. -/
theorem ofEvent_word_ne_delimiter {mark : Delimiter} {category : Category}
    {text rest markRest : Text} (normal : mark ≠ .tab) :
    ofEvent true (.word category text) ++ rest ≠
      ofEvent true (.delimiter mark) ++ markRest := by
  rw [ofEvent_word_append, ofEvent_delimiter]
  intro equal
  have heads := congrArg List.head? equal
  rw [List.head?_append_of_ne_nil _ (ofDelimiter_ne_nil mark),
    List.head?_cons] at heads
  cases mark with
  | tab => exact normal rfl
  | newline =>
      have tails := congrArg (fun text => text.tail.head?) equal
      exact absurd (show some 's' = some 'b' from tails) (by decide)
  | space => exact absurd heads (by decide)
  | openBrace => exact absurd heads (by decide)
  | closeBrace => exact absurd heads (by decide)
  | openParen => exact absurd heads (by decide)
  | closeParen => exact absurd heads (by decide)

/-- Normal delimiters differ in the first character of their markup. -/
theorem head?_ofDelimiter_injective {left right : Delimiter}
    (leftNormal : left ≠ .tab) (rightNormal : right ≠ .tab)
    (equal : (ofDelimiter left).head? = (ofDelimiter right).head?) :
    left = right := by
  revert leftNormal rightNormal equal
  cases left <;> cases right <;> decide

theorem ofEvent_delimiter_cancel {left right : Delimiter}
    {leftRest rightRest : Text} (leftNormal : left ≠ .tab)
    (rightNormal : right ≠ .tab)
    (equal : ofEvent true (.delimiter left) ++ leftRest =
      ofEvent true (.delimiter right) ++ rightRest) :
    left = right ∧ leftRest = rightRest := by
  rw [ofEvent_delimiter, ofEvent_delimiter] at equal
  have heads := congrArg List.head? equal
  rw [List.head?_append_of_ne_nil _ (ofDelimiter_ne_nil left),
    List.head?_append_of_ne_nil _ (ofDelimiter_ne_nil right)] at heads
  obtain rfl := head?_ofDelimiter_injective leftNormal rightNormal heads
  exact ⟨rfl, List.append_cancel_left equal⟩

/-- Among normal events, the markup of one is never the beginning of the markup
of another. -/
theorem ofEvent_prefixCode : PrefixCode Event.IsNormal (ofEvent true) where
  nonempty := by
    intro event normal
    cases event with
    | word category text =>
        rw [ofEvent_word]
        exact List.append_ne_nil_of_right_ne_nil _ (by decide)
    | delimiter mark => exact ofDelimiter_ne_nil mark
    | escapedLineBreak => exact normal.elim
    | escapedTab => exact normal.elim
  cancel := by
    intro left right leftRest rightRest leftNormal rightNormal equal
    cases left with
    | escapedLineBreak => exact leftNormal.elim
    | escapedTab => exact leftNormal.elim
    | word category text =>
        cases right with
        | escapedLineBreak => exact rightNormal.elim
        | escapedTab => exact rightNormal.elim
        | word other otherText => exact ofEvent_word_cancel equal
        | delimiter mark =>
            exact absurd equal (ofEvent_word_ne_delimiter rightNormal)
    | delimiter mark =>
        cases right with
        | escapedLineBreak => exact rightNormal.elim
        | escapedTab => exact rightNormal.elim
        | word other otherText =>
            exact absurd equal.symm (ofEvent_word_ne_delimiter leftNormal)
        | delimiter other =>
            obtain ⟨rfl, sameRest⟩ :=
              ofEvent_delimiter_cancel leftNormal rightNormal equal
            exact ⟨rfl, sameRest⟩

/-- An event and its normal ones have the same markup. -/
theorem flatMap_ofEvent_normal (escaping : Bool) (event : Event) :
    event.normal.flatMap (ofEvent escaping) = ofEvent escaping event := by
  cases event with
  | word category text => exact List.append_nil _
  | delimiter mark => cases mark <;> rfl
  | escapedLineBreak => rfl
  | escapedTab => rfl

/-- A fragment shows the normal events of what it was made from. -/
theorem fragment_normalize (escaping : Bool) (events : List Event) :
    fragment escaping (Event.normalize events) = fragment escaping events := by
  unfold fragment Event.normalize
  rw [List.flatMap_assoc]
  exact List.flatMap_congr fun event _ => flatMap_ofEvent_normal escaping event

/-- With escaping, two lists of events have one fragment exactly when they have
the same normal events: no word can leave its element or look like other
markup. -/
theorem fragment_eq_iff_normalize_eq (left right : List Event) :
    fragment true left = fragment true right ↔
      Event.normalize left = Event.normalize right := by
  constructor
  · intro equal
    rw [← fragment_normalize, ← fragment_normalize true right] at equal
    exact ofEvent_prefixCode.eq_of_flatMap_eq
      Event.isNormal_of_mem_normalize Event.isNormal_of_mem_normalize equal
  · intro equal
    rw [← fragment_normalize, equal, fragment_normalize]

end Markup

end CsdlHighlight

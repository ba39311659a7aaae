import CsdlHighlight.Proofs.Json.Literal
import CsdlHighlight.Proofs.Script.Payload

/-!
Contract: a script that writes a page is one call, and its argument is the page.

Owns:
- the reader of a write call;
- the scripts of a source against its pages, in one run and in two.

Does not own: what stands on a page, or data scripts.
-/

namespace CsdlHighlight

/-! ## Write calls -/

def callOpening : Text := "document.write(".toList

def callClosing : Text := ");\n".toList

/-- The markup that a script writes, if the script is one write call and nothing
else. -/
def markupOfScript? (script : Text) : Option Text :=
  (script.dropPrefix? callOpening).bind fun argument =>
    match Json.readLiteral argument with
    | some (markup, rest) => if rest = callClosing then some markup else none
    | none => none

theorem writingScript_eq (markup : Text) :
    writingScript markup =
      callOpening ++ (Json.literal markup ++ callClosing) := by
  unfold writingScript callOpening callClosing
  exact List.append_assoc _ _ _

/-- A script is read back as the markup that it writes. -/
theorem markupOfScript?_writingScript (markup : Text) :
    markupOfScript? (writingScript markup) = some markup := by
  have opened : List.dropPrefix?
      (callOpening ++ (Json.literal markup ++ callClosing)) callOpening =
        some (Json.literal markup ++ callClosing) :=
    List.dropPrefix?_append_of_beq _ (BEq.refl callOpening)
  rw [writingScript_eq, markupOfScript?, opened, Option.bind_some,
    Json.readLiteral_literal]
  simp only [if_true]

theorem writingScript_inj {left right : Text} :
    writingScript left = writingScript right ↔ left = right := by
  constructor
  · intro same
    have read := congrArg markupOfScript? same
    rw [markupOfScript?_writingScript, markupOfScript?_writingScript] at read
    exact Option.some.inj read
  · exact congrArg writingScript

/-! ## Scripts of a source -/

namespace SnippetSource

variable {m : Type → Type} [Monad m] [LawfulMonad m]

/-- The script of an id writes the page that the same lookup gives, be there a
gist or none.  If the answer for the id does not change, it writes the page of
a second lookup, too.  Two scripts, whatever they are asked for, are the same
exactly when their pages are. -/
structure ScriptWritesPage (source : SnippetSource m) (options : RenderOptions)
    (id : Text) : Prop where
  sameLookup :
    (do
      let script ← source.script options id
      return markupOfScript? script.value) =
    (do
      let page ← source.page options id
      return some page.value)
  secondLookup : source.IsSteady id →
    (do
      let script ← source.script options id
      let page ← source.page options id
      return (markupOfScript? script.value, some page.value)) =
    (do
      let _ ← source.script options id
      let page ← source.page options id
      return (some page.value, some page.value))
  sameScripts : ∀ (other : SnippetSource m) (otherOptions : RenderOptions)
      (otherId : Text),
    (do
      let script ← source.script options id
      let otherScript ← other.script otherOptions otherId
      return decide (script.value = otherScript.value)) =
    (do
      let page ← source.page options id
      let otherPage ← other.page otherOptions otherId
      return decide (page.value = otherPage.value))

theorem scriptWritesPage (source : SnippetSource m) (options : RenderOptions)
    (id : Text) : source.ScriptWritesPage options id where
  sameLookup := by
    simp only [script, bind_assoc, pure_bind, Logged.map,
      markupOfScript?_writingScript]
  secondLookup := by
    intro steady
    simp only [script, page, lookup, bind_assoc, pure_bind, Logged.map,
      markupOfScript?_writingScript, renderPage_lookupOf]
    exact steady.map_eq_second fun first second =>
      (some (pageOf options first), some (pageOf options second))
  sameScripts := by
    intro other otherOptions otherId
    simp only [script, bind_assoc, pure_bind, Logged.map, writingScript_inj]

end SnippetSource

/-- The script of some markup is one write call whose argument is a literal of
just this markup: nothing in the markup can end the literal, or stand outside of
it.  So the scripts of a source write its pages, after a lookup that has failed
as after any other. -/
theorem writingScript_carries_page :
    (∀ markup : Text, ∃ literal,
      writingScript markup =
          "document.write(".toList ++ literal ++ ");\n".toList ∧
        Json.IsLiteralOf markup literal) ∧
      ∀ {m : Type → Type} [Monad m] [LawfulMonad m] (source : SnippetSource m)
        (options : RenderOptions) (id : Text),
        source.ScriptWritesPage options id := by
  constructor
  · intro markup
    exact ⟨Json.literal markup, rfl, Json.isLiteralOf_literal markup⟩
  · intro m _ _ source options id
    exact source.scriptWritesPage options id

/-- A text that would end the call, were it not for the escapes. -/
def closingMarkup : Text := "\u0000\\\");\nalert(\"".toList

/-- Markup that tries to end the call stays inside it. -/
theorem writingScript_carries_page_past_quotes :
    (∃ literal,
      writingScript closingMarkup =
          "document.write(".toList ++ literal ++ ");\n".toList ∧
        Json.IsLiteralOf closingMarkup literal) ∧
      (countingSource awkwardGist).ScriptWritesPage RenderOptions.standard
        "g".toList :=
  ⟨writingScript_carries_page.1 closingMarkup,
    writingScript_carries_page.2 (countingSource awkwardGist)
      RenderOptions.standard "g".toList⟩

end CsdlHighlight

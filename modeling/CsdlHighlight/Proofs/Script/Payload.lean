import CsdlHighlight.Proofs.Snippet.RoundTrip
import CsdlHighlight.Proofs.Text.Search
import CsdlHighlight.SnippetSource
import Mathlib.Data.List.Basic

/-!
Contract: a data script carries the looked-up records and nothing else, and
agrees with the page.

Owns:
- the reader of a payload, and its round trip;
- the script of a template with and without a placeholder;
- the page and the data script of a source whose answer does not change.

Does not own: the templates that a site uses.
-/

namespace CsdlHighlight

namespace ScriptTemplate

/-- The lookup that a payload stands for.  `null` is one that has failed. -/
def lookupOfJson? (payload : Text) : Option (Option (List Snippet)) :=
  match Json.skipSpacing payload with
  | 'n' :: 'u' :: 'l' :: 'l' :: rest =>
      if (Json.skipSpacing rest).isEmpty then some none else none
  | _ => (Snippet.arrayOfJson? payload).map some

/-- The lookup that a script carries between two known parts. -/
def lookupOfScript? (before after script : Text) :
    Option (Option (List Snippet)) :=
  (script.dropPrefix? before).bind fun behind =>
    (behind.dropSuffix? after).bind lookupOfJson?

/-! ## Payloads -/

theorem payload_some_ne_null (snippets : List Snippet) :
    payload (some snippets) ≠ "null".toList := by
  intro same
  have heads : '[' = 'n' := (List.cons.inj same).1
  revert heads
  decide

/-- A payload is read back as the lookup it was made from. -/
theorem lookupOfJson?_payload (lookup : Option (List Snippet)) :
    lookupOfJson? (payload lookup) = some lookup := by
  cases lookup with
  | none => rfl
  | some snippets =>
      show (Snippet.arrayOfJson? (Snippet.arrayToJson snippets)).map some = _
      rw [Snippet.arrayOfJson?_arrayToJson, Option.map_some]

variable {template : ScriptTemplate} {before after : Text}

theorem render_eq
    (cut : Text.IsFirstCut placeholder template.script before after)
    (lookup : Option (List Snippet)) :
    template.render lookup = before ++ payload lookup ++ after :=
  cut.replaceFirst_eq (payload lookup)

theorem lookupOfScript?_render
    (cut : Text.IsFirstCut placeholder template.script before after)
    (lookup : Option (List Snippet)) :
    lookupOfScript? before after (template.render lookup) = some lookup := by
  have behind : List.dropPrefix? (before ++ (payload lookup ++ after)) before =
      some (payload lookup ++ after) :=
    List.dropPrefix?_append_of_beq _ (BEq.refl before)
  have inside : List.dropSuffix? (payload lookup ++ after) after =
      some (payload lookup) :=
    List.dropSuffix?_eq_some_iff.mpr ⟨after, rfl, BEq.refl after⟩
  rw [render_eq cut, List.append_assoc, lookupOfScript?, behind,
    Option.bind_some, inside, Option.bind_some, lookupOfJson?_payload]

end ScriptTemplate

namespace SnippetSource

variable {m : Type → Type} [Monad m] [LawfulMonad m]

/-- The answer for an id is the same in two fetches one after the other, whatever
else they do. -/
def IsSteady (source : SnippetSource m) (id : Text) : Prop :=
  (do
    let first ← source.fetch id
    let second ← source.fetch id
    return (first.value, second.value)) =
  (do
    let first ← source.fetch id
    let _ ← source.fetch id
    return (first.value, first.value))

def pageOf (options : RenderOptions) (answer : Except FetchError Gist) : Text :=
  renderPage options (answer.toOption.map Gist.snippets)

theorem renderPage_lookupOf (options : RenderOptions) (id : Text)
    (fetched : Logged (Except FetchError Gist)) :
    renderPage options (lookupOf id fetched).value =
      pageOf options fetched.value := by
  unfold lookupOf pageOf
  cases fetched.value <;> rfl

/-- Of a steady source any two results of the answer agree. -/
theorem IsSteady.map_eq {source : SnippetSource m} {id : Text}
    (steady : source.IsSteady id) {α : Type}
    (result : Except FetchError Gist → Except FetchError Gist → α) :
    (do
      let first ← source.fetch id
      let second ← source.fetch id
      return result first.value second.value) =
    (do
      let first ← source.fetch id
      let _ ← source.fetch id
      return result first.value first.value) := by
  have mapped := congrArg (Functor.map fun pair => result pair.1 pair.2) steady
  simpa only [map_bind, map_pure] using mapped

/-- So each of them is the result of the second answer alone. -/
theorem IsSteady.map_eq_second {source : SnippetSource m} {id : Text}
    (steady : source.IsSteady id) {α : Type}
    (result : Except FetchError Gist → Except FetchError Gist → α) :
    (do
      let first ← source.fetch id
      let second ← source.fetch id
      return result first.value second.value) =
    (do
      let _ ← source.fetch id
      let second ← source.fetch id
      return result second.value second.value) :=
  -- Both programs are the one in which only the first answer is used.
  (steady.map_eq result).trans
    (steady.map_eq fun _ second => result second second).symm

/-- What one fetch has found goes into the data script and onto the page: the
snippets of the gist, and `null` exactly if there is no gist. -/
structure CarriesFetched (source : SnippetSource m) (template : ScriptTemplate)
    (before after : Text) (id : Text) : Prop where
  dataScript :
    (do return (← source.dataScript template id).value) =
    (do
      match (← source.fetch id).value with
      | .ok gist =>
          return before ++ Snippet.arrayToJson gist.snippets ++ after
      | .error _ => return before ++ "null".toList ++ after)
  readBack :
    (do
      let script ← source.dataScript template id
      return ScriptTemplate.lookupOfScript? before after script.value) =
    (do
      match (← source.fetch id).value with
      | .ok gist => return some (some gist.snippets)
      | .error _ => return some none)
  page : ∀ options,
    (do return (← source.page options id).value) =
    (do
      match (← source.fetch id).value with
      | .ok gist => return renderPage options (some gist.snippets)
      | .error _ => return renderPage options none)

theorem carriesFetched (source : SnippetSource m) {template : ScriptTemplate}
    {before after : Text}
    (cut : Text.IsFirstCut placeholder template.script before after)
    (id : Text) :
    source.CarriesFetched template before after id := by
  have scriptOf (fetched : Logged (Except FetchError Gist)) :
      template.render (lookupOf id fetched).value =
        match fetched.value with
        | .ok gist => before ++ Snippet.arrayToJson gist.snippets ++ after
        | .error _ => before ++ "null".toList ++ after := by
    rw [ScriptTemplate.render_eq cut]
    unfold lookupOf
    cases fetched.value <;> rfl
  constructor
  · simp only [SnippetSource.dataScript, lookup, bind_assoc, pure_bind,
      Logged.map, scriptOf]
    apply bind_congr
    intro fetched
    cases fetched.value <;> rfl
  · simp only [SnippetSource.dataScript, lookup, bind_assoc, pure_bind,
      Logged.map, ScriptTemplate.lookupOfScript?_render cut]
    apply bind_congr
    intro fetched
    unfold lookupOf
    cases fetched.value <;> rfl
  · intro options
    simp only [SnippetSource.page, lookup, bind_assoc, pure_bind]
    apply bind_congr
    intro fetched
    unfold lookupOf
    cases fetched.value <;> rfl

/-- A page shows what the data script carries between two known parts, in
whichever order the two are asked for. -/
structure PageAgrees (source : SnippetSource m) (template : ScriptTemplate)
    (before after : Text) (options : RenderOptions) (id : Text) : Prop where
  pageFirst :
    (do
      let page ← source.page options id
      let script ← source.dataScript template id
      return (some page.value,
        (ScriptTemplate.lookupOfScript? before after script.value).map
          (renderPage options))) =
    (do
      let page ← source.page options id
      let _ ← source.dataScript template id
      return (some page.value, some page.value))
  scriptFirst :
    (do
      let script ← source.dataScript template id
      let page ← source.page options id
      return (some page.value,
        (ScriptTemplate.lookupOfScript? before after script.value).map
          (renderPage options))) =
    (do
      let _ ← source.dataScript template id
      let page ← source.page options id
      return (some page.value, some page.value))

/-- A source that repeats its answer gives a page and a data script that
agree. -/
theorem IsSteady.pageAgrees {source : SnippetSource m} {id : Text}
    (steady : source.IsSteady id) {template : ScriptTemplate}
    {before after : Text}
    (cut : Text.IsFirstCut placeholder template.script before after)
    (options : RenderOptions) :
    source.PageAgrees template before after options id := by
  constructor
  · simp only [page, dataScript, lookup, bind_assoc, pure_bind, Logged.map,
      ScriptTemplate.lookupOfScript?_render cut, Option.map_some,
      renderPage_lookupOf]
    exact steady.map_eq fun first second =>
      (some (pageOf options first), some (pageOf options second))
  · simp only [page, dataScript, lookup, bind_assoc, pure_bind, Logged.map,
      ScriptTemplate.lookupOfScript?_render cut, Option.map_some,
      renderPage_lookupOf]
    exact steady.map_eq_second fun first second =>
      (some (pageOf options second), some (pageOf options first))

end SnippetSource

/-- A template puts the payload between the two sides of its first placeholder,
and nothing else changes.  The payload of some snippets is an array of records
that reads back as these snippets in their order, and never the `null` of a
lookup that has failed.  Whatever the source, its data script carries the snippets
of the gist that was fetched, and `null` exactly if none was.  So the page of a
steady source is the rendering of what its data script carries.  A template without
a placeholder stays as it is. -/
theorem render_carries_lookup (template : ScriptTemplate) :
    (∀ before after,
      Text.IsFirstCut placeholder template.script before after →
        (∀ snippets,
          template.render (some snippets) =
              before ++ Snippet.arrayToJson snippets ++ after ∧
            Snippet.arrayOfJson? (Snippet.arrayToJson snippets) = some snippets ∧
            Snippet.arrayToJson snippets ≠ "null".toList) ∧
        template.render none = before ++ "null".toList ++ after ∧
        ∀ {m : Type → Type} [Monad m] [LawfulMonad m]
          (source : SnippetSource m) (id : Text),
          source.CarriesFetched template before after id ∧
            (source.IsSteady id →
              ∀ options,
                source.PageAgrees template before after options id)) ∧
      (¬ placeholder <:+: template.script →
        ∀ lookup, template.render lookup = template.script) := by
  refine ⟨fun before after cut => ⟨?_, template.render_eq cut none, ?_⟩, ?_⟩
  · intro snippets
    exact ⟨template.render_eq cut (some snippets),
      Snippet.arrayOfJson?_arrayToJson snippets,
      ScriptTemplate.payload_some_ne_null snippets⟩
  · intro m _ _ source id
    refine ⟨source.carriesFetched cut id, ?_⟩
    intro steady options
    exact steady.pageAgrees cut options
  · intro absent lookup
    exact Text.replaceFirst_of_not_isInfix _ absent

/-- A source that counts its fetches and always gives the same gist. -/
def countingSource (gist : Gist) : SnippetSource (StateM Nat) where
  fetch := fun _ count => (⟨.ok gist, []⟩, count + 1)

def emptySource : SnippetSource (StateM Nat) where
  fetch := fun id count => (⟨.error (.notFound id), []⟩, count + 1)

/-- A template in which a percent sign stands in front of the first placeholder,
and a second placeholder behind it. -/
def crowdedTemplate : ScriptTemplate :=
  ⟨"%%%CSDL%%;%%CSDL%%".toList⟩

/-- A gist with a file that holds the placeholder and what has to be escaped. -/
def awkwardGist : Gist where
  id := "g".toList
  owner := "me".toList
  url := "file://g".toList
  files := [⟨"f".toList, "%%CSDL%% \"\\\u0001".toList⟩]

def crowdedScript (source : SnippetSource (StateM Nat)) : Text :=
  (source.dataScript crowdedTemplate "g".toList 0).1.value

/-- A percent sign in front of the placeholder, a second placeholder and one
inside a snippet all stay as they are. -/
theorem render_carries_lookup_in_crowd :
    crowdedScript (countingSource awkwardGist) =
        ("%[\x7b\"content\":\"%%CSDL%% \\\"\\\\\\u0001\",\"filename\":\"f\"," ++
          "\"username\":\"me\",\"url\":\"file://g\"\x7d];%%CSDL%%").toList ∧
      crowdedScript emptySource = "%null;%%CSDL%%".toList ∧
      (countingSource awkwardGist).PageAgrees crowdedTemplate "%".toList
        ";%%CSDL%%".toList RenderOptions.standard "g".toList ∧
      ScriptTemplate.render ⟨"%CSDL%".toList⟩ none = "%CSDL%".toList := by
  have cut : Text.IsFirstCut placeholder crowdedTemplate.script "%".toList
      ";%%CSDL%%".toList :=
    Text.isFirstCut_of_splitFirst? (by decide +kernel)
  have carried (source : SnippetSource (StateM Nat)) :=
    ((render_carries_lookup crowdedTemplate).1 _ _ cut).2.2 source "g".toList
  have script (source : SnippetSource (StateM Nat)) :=
    congrArg (fun program => (program 0).1) (carried source).1.dataScript
  have filled : crowdedScript (countingSource awkwardGist) = "%".toList ++
      Snippet.arrayToJson awkwardGist.snippets ++ ";%%CSDL%%".toList :=
    script (countingSource awkwardGist)
  have written : Snippet.arrayToJson awkwardGist.snippets =
      ("[\x7b\"content\":\"%%CSDL%% \\\"\\\\\\u0001\",\"filename\":\"f\"," ++
        "\"username\":\"me\",\"url\":\"file://g\"\x7d]").toList := by
    decide +kernel
  have absent : ¬ placeholder <:+: "%CSDL%".toList :=
    Text.occurs_eq_false_iff.mp (by decide +kernel)
  refine ⟨?_, script emptySource, (carried (countingSource awkwardGist)).2 rfl _,
    (render_carries_lookup ⟨"%CSDL%".toList⟩).2 absent none⟩
  rw [filled, written]
  rfl

end CsdlHighlight

import CsdlHighlight.GistDirectory
import CsdlHighlight.Page
import CsdlHighlight.Script

/-!
Contract: pages and scripts for gists by id, wherever the gists are kept.

Owns:
- `SnippetSource`, whatever can fetch a gist by its id;
- the lookup of snippets, in which every failure looks the same to the reader
  of a page and differs only in the log;
- the page, the script and the data script of a gist.

Does not own: any particular source, or the rendering of what it gives.
-/

namespace CsdlHighlight

/-- What has been found, with the records left on the way. -/
structure Logged (α : Type) where
  value : α
  log : List LogRecord
deriving Repr

namespace Logged

def map {α β : Type} (logged : Logged α) (step : α → β) : Logged β :=
  ⟨step logged.value, logged.log⟩

end Logged

/-- The outcome of a fetch as a lookup: the snippets, or none with a warning. -/
def lookupOf (id : Text) (fetched : Logged (Except FetchError Gist)) :
    Logged (Option (List Snippet)) :=
  let source := "csdl_embed_engine::embed".toList
  match fetched.value with
  | .ok gist =>
      { value := some gist.snippets
        log := fetched.log ++
          [⟨.debug, source,
            "Embedding ".toList ++ Text.decimal gist.files.length ++
              " snippet(s) from gist ".toList ++ id⟩] }
  | .error failure =>
      { value := none
        log := fetched.log ++
          [⟨.warn, source,
            "Error accessing CSDL from gist (".toList ++ id ++ "): ".toList ++
              failure.message⟩] }

structure SnippetSource (m : Type → Type) where
  fetch : Text → m (Logged (Except FetchError Gist))

namespace SnippetSource

variable {m : Type → Type} [Monad m]

/-- The snippets of a gist, or none when they cannot be had. -/
def lookup (source : SnippetSource m) (id : Text) :
    m (Logged (Option (List Snippet))) := do
  return lookupOf id (← source.fetch id)

def page (source : SnippetSource m) (options : RenderOptions) (id : Text) :
    m (Logged Text) := do
  let found ← source.lookup id
  return ⟨renderPage options found.value, found.log ++ pageLog found.value⟩

def script (source : SnippetSource m) (options : RenderOptions) (id : Text) :
    m (Logged Text) := do
  return (← source.page options id).map writingScript

/-- The script that carries the records of a gist through a template. -/
def dataScript (source : SnippetSource m) (template : ScriptTemplate)
    (id : Text) : m (Logged Text) := do
  return (← source.lookup id).map template.render

end SnippetSource

end CsdlHighlight

import CsdlHighlight.SnippetSource

/-!
Contract: pages and scripts for the gists of a directory.

Owns:
- a directory of gists as a source of snippets;
- `EmbedService`, a directory of gists with a script template, and what it
  answers.

Does not own: what is answered for a gist once it is fetched.
-/

namespace CsdlHighlight

variable {m : Type → Type} [Monad m]

def GistDirectory.source (gists : GistDirectory) (disk : DiskReader m) :
    SnippetSource m where
  fetch := fun id => do
    let fetched ← gists.fetch disk id
    return ⟨fetched, fetchLog fetched⟩

structure EmbedService where
  gists : GistDirectory
  template : ScriptTemplate
deriving DecidableEq, Repr

namespace EmbedService

def lookup (service : EmbedService) (disk : DiskReader m) (id : Text) :
    m (Logged (Option (List Snippet))) :=
  (service.gists.source disk).lookup id

def page (service : EmbedService) (disk : DiskReader m)
    (options : RenderOptions) (id : Text) : m (Logged Text) :=
  (service.gists.source disk).page options id

/-- The script that writes the page of a gist. -/
def script (service : EmbedService) (disk : DiskReader m)
    (options : RenderOptions) (id : Text) : m (Logged Text) :=
  (service.gists.source disk).script options id

/-- The script that carries the records of a gist. -/
def dataScript (service : EmbedService) (disk : DiskReader m) (id : Text) :
    m (Logged Text) :=
  (service.gists.source disk).dataScript service.template id

end EmbedService

end CsdlHighlight

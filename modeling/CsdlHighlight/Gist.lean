import CsdlHighlight.Text.Basic

/-!
Contract: gists as they are served, and the snippets made of their files.

Owns: `Snippet`, `GistFile`, `Gist` and the snippets of a gist.

Does not own: where gists come from, or how snippets are shown.
-/

namespace CsdlHighlight

/-- One file ready to be shown. -/
structure Snippet where
  content : Text
  filename : Text
  username : Text
  url : Text
deriving DecidableEq, Repr

structure GistFile where
  filename : Text
  content : Text
deriving DecidableEq, Repr

structure Gist where
  id : Text
  owner : Text
  url : Text
  files : List GistFile
deriving DecidableEq, Repr

namespace Gist

/-- The snippets of a gist: one per file, in the order of the files, all with
the owner and the address of the gist. -/
def snippets (gist : Gist) : List Snippet :=
  gist.files.map fun file =>
    { content := file.content
      filename := file.filename
      username := gist.owner
      url := gist.url }

end Gist

end CsdlHighlight

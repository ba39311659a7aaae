import CsdlHighlight.Proofs.FileTree.Reading
import CsdlHighlight.Proofs.Text.Utf8

/-!
Contract: a run whose arguments are texts ends in an orderly way.

Owns:
- the arguments that name a command and its operand;
- `Exit.Orderly`, the ends of a run that its user can tell apart: with success,
  with the usage, or with an error;
- the end of every run, by its arguments.

Does not own: the output and the files of a run.
-/

namespace CsdlHighlight

/-! ## Arguments -/

namespace Invocation

end Invocation

/-! ## Ends -/

namespace Exit

end Exit

/-! ## The end of every run -/

namespace FileTree

variable {σ : Type} {stream : OutputStream (StateM σ)} {state : σ} {host : Host}
  {tree : FileTree} {environment : Environment} {input : Bytes}
  {arguments : List Bytes}

end FileTree

end CsdlHighlight

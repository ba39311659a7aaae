import CsdlHighlight.Disk

/-!
Contract: the stream on which a command writes its output.

Owns:
- `OutputStream`, which may refuse what is written to it;
- the writing of several pieces in order;
- the stream that records every piece.

Does not own: what a stream holds back before it hands it on.
-/

namespace CsdlHighlight

/-- A stream takes a piece of output or refuses it.  How much of a refused piece
has gone out is up to the stream, and so is whether an accepted one goes out at
once. -/
structure OutputStream (m : Type → Type) where
  write : Text → m (Except DiskError Unit)

namespace OutputStream

/-- Write pieces in their order, none of them behind one that was refused. -/
def writeAll {m : Type → Type} [Monad m] (stream : OutputStream m) :
    List Text → m (Except DiskError Unit)
  | [] => return .ok ()
  | piece :: rest => do
      match ← stream.write piece with
      | .ok () => stream.writeAll rest
      | .error failure => return .error failure

def recording : OutputStream (StateM (List Text)) where
  write := fun piece pieces => (.ok (), pieces ++ [piece])

end OutputStream

end CsdlHighlight

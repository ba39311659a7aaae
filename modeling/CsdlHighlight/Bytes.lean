/-!
Contract: bytes as lists, and the cut of bytes at a separator.

Owns: `Bytes` and `Bytes.cutAt`.

Does not own: any reading of bytes as text.
-/

namespace CsdlHighlight

abbrev Bytes := List UInt8

namespace Bytes

/-- Cut bytes at every separator.  There is one part more than there are
separators, and a part may be empty. -/
def cutAt (separator : UInt8) : Bytes → List Bytes
  | [] => [[]]
  | byte :: rest =>
      if byte = separator then
        [] :: cutAt separator rest
      else
        match cutAt separator rest with
        | [] => [[byte]]
        | part :: parts => (byte :: part) :: parts

end Bytes

end CsdlHighlight

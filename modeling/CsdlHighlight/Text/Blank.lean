import CsdlHighlight.Text.Basic

/-!
Contract: blank characters, by the Unicode property `White_Space`, and the
trimming of a text.

Owns: `isBlank` and `trim`.

Does not own: the delimiters of the highlighted language, which are a different
set: some blanks end no word, and braces end a word without being blank.
-/

namespace CsdlHighlight.Text

/-- The characters with the Unicode property `White_Space`. -/
def isBlank (character : Char) : Bool :=
  let code := character.toNat
  (9 ≤ code && code ≤ 13) || code == 0x20 || code == 0x85 || code == 0xA0 ||
    code == 0x1680 || (0x2000 ≤ code && code ≤ 0x200A) || code == 0x2028 ||
    code == 0x2029 || code == 0x202F || code == 0x205F || code == 0x3000

def trimEnd (text : Text) : Text :=
  (text.reverse.dropWhile isBlank).reverse

def trim (text : Text) : Text :=
  trimEnd (text.dropWhile isBlank)

end CsdlHighlight.Text

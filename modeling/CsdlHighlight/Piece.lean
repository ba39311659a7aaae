import CsdlHighlight.Delimiter

/-!
Contract: the cut of a text into delimiters and maximal runs of other
characters.

Owns: `Piece`, `Piece.cut` and the text of a list of pieces.

Does not own: escapes inside a run, or the classification of its word.
-/

namespace CsdlHighlight

/-- A delimiter, or a run of characters that are not delimiters. -/
inductive Piece where
  | delimiter (mark : Delimiter)
  | run (characters : Text)
deriving DecidableEq, Repr

namespace Piece

def characters : Piece → Text
  | .delimiter mark => [mark.character]
  | .run characters => characters

/-- Put a character that is no delimiter in front of some pieces: it joins the
run at their head, or is a run of its own. -/
def extend (character : Char) : List Piece → List Piece
  | .run characters :: rest => .run (character :: characters) :: rest
  | pieces => .run [character] :: pieces

/-- Cut a text into its delimiters and the maximal runs between them. -/
def cut : Text → List Piece
  | [] => []
  | character :: rest =>
      match Delimiter.ofChar? character with
      | some mark => .delimiter mark :: cut rest
      | none => extend character (cut rest)

end Piece

end CsdlHighlight

import CsdlHighlight.Text.Basic

/-!
Contract: the seven characters that end a word and stand outside every word.

Owns: `Delimiter`, its character and the recognition of a delimiter.

Does not own: the markup of a delimiter, or its effect on an open comment.
-/

namespace CsdlHighlight

inductive Delimiter where
  | space
  | openBrace
  | closeBrace
  | openParen
  | closeParen
  | newline
  | tab
deriving DecidableEq, Repr

namespace Delimiter

def character : Delimiter → Char
  | .space => ' '
  | .openBrace => '{'
  | .closeBrace => '}'
  | .openParen => '('
  | .closeParen => ')'
  | .newline => '\n'
  | .tab => '\t'

def ofChar? (character : Char) : Option Delimiter :=
  match character with
  | ' ' => some .space
  | '{' => some .openBrace
  | '}' => some .closeBrace
  | '(' => some .openParen
  | ')' => some .closeParen
  | '\n' => some .newline
  | '\t' => some .tab
  | _ => none

end Delimiter

end CsdlHighlight

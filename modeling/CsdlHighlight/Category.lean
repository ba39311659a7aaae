import CsdlHighlight.Text.Basic

/-!
Contract: the six categories of a highlighted word and the two closed
vocabularies of the language.

Owns:
- `Category`, its name and its style class;
- the operator and the keyword vocabulary, all in small letters.

Does not own: the rules that choose a category for a word.
-/

namespace CsdlHighlight

/-- What a word is, for the reader of a highlighted text. -/
inductive Category where
  | predicate
  | operator
  | keyword
  | string
  | int
  | comment
deriving DecidableEq, Repr

namespace Category

/-- Every category, in the order in which the rules are tried. -/
def all : List Category :=
  [.predicate, .operator, .keyword, .string, .int, .comment]

def name : Category → Text
  | .predicate => "predicate".toList
  | .operator => "operator".toList
  | .keyword => "keyword".toList
  | .string => "string".toList
  | .int => "int".toList
  | .comment => "comment".toList

def styleClass (category : Category) : Text :=
  "category-".toList ++ category.name

end Category

def operators : List Text :=
  ["<".toList, "<=".toList, "==".toList, "<>".toList, ">".toList, ">=".toList,
    "cs".toList, "contains_word".toList, "contains_phrase".toList,
    "or".toList, "contains".toList, "and".toList, "not".toList, "in".toList,
    "geo_box".toList, "regex_exact".toList, "exists".toList, "float".toList,
    "contains_any".toList, "any".toList, "wildcard".toList, "url_in".toList]

def keywords : List Text :=
  ["tag".toList, "tags".toList, "stream".toList, "filter".toList,
    "return".toList]

end CsdlHighlight

import CsdlHighlight.Pattern.Spot

/-!
Contract: why and where a text is no pattern, and the report on it.

Owns:
- `PatternProblem`, the possible reasons, with their descriptions;
- `PatternFault`, a reason with its place, and its message: the text with marks
  under the place.

Does not own: when a problem arises.
-/

namespace CsdlHighlight

inductive PatternProblem where
  -- escapes
  | unfinishedEscape
  | unknownEscape
  | backReference
  | emptyHexadecimal
  | badHexadecimal
  | badHexadecimalDigit
  | badPropertyLetter
  -- words
  | unfinishedWordAnchor
  | unclosedWordAnchor
  | unknownWordAnchor
  -- sets
  | unclosedSet
  | conditionInSet
  | rangeBound
  | descendingRange
  -- repetitions
  | nothingToRepeat
  | unclosedCount
  | missingNumber
  | hugeNumber
  | descendingCount
  -- groups
  | unclosedGroup
  | unopenedGroup
  | lookAround
  | unclosedName
  | emptyName
  | badName
  | repeatedName
  -- flags
  | unknownFlag
  | repeatedFlag
  | repeatedNegation
  | danglingNegation
  | unfinishedFlags
  -- the whole
  | tooDeep
  | needsUnicode
  | invalidBytes
  | unknownProperty
  | unknownValue
deriving DecidableEq, Repr

namespace PatternProblem

/-- How deep the parts of a pattern may stand in one another. -/
def deepest : Nat := 250

def description : PatternProblem → String
  | .unfinishedEscape => "incomplete escape sequence, reached end of pattern prematurely"
  | .unknownEscape => "unrecognized escape sequence"
  | .backReference => "backreferences are not supported"
  | .emptyHexadecimal => "hexadecimal literal empty"
  | .badHexadecimal => "hexadecimal literal is not a Unicode scalar value"
  | .badHexadecimalDigit => "invalid hexadecimal digit"
  | .badPropertyLetter => "invalid Unicode character class"
  | .unfinishedWordAnchor =>
      "found either the beginning of a special word boundary or a bounded " ++
        "repetition on a \\b with an opening brace, but no closing brace"
  | .unclosedWordAnchor =>
      "special word boundary assertion is either unclosed or contains an " ++
        "invalid character"
  | .unknownWordAnchor =>
      "unrecognized special word boundary assertion, valid choices are: start, " ++
        "end, start-half or end-half"
  | .unclosedSet => "unclosed character class"
  | .conditionInSet => "invalid escape sequence found in character class"
  | .rangeBound => "invalid range boundary, must be a literal"
  | .descendingRange => "invalid character class range, the start must be <= the end"
  | .nothingToRepeat => "repetition operator missing expression"
  | .unclosedCount => "unclosed counted repetition"
  | .missingNumber => "repetition quantifier expects a valid decimal"
  | .hugeNumber => "decimal literal invalid"
  | .descendingCount =>
      "invalid repetition count range, the start must be <= the end"
  | .unclosedGroup => "unclosed group"
  | .unopenedGroup => "unopened group"
  | .lookAround =>
      "look-around, including look-ahead and look-behind, is not supported"
  | .unclosedName => "unclosed capture group name"
  | .emptyName => "empty capture group name"
  | .badName => "invalid capture group character"
  | .repeatedName => "duplicate capture group name"
  | .unknownFlag => "unrecognized flag"
  | .repeatedFlag => "duplicate flag"
  | .repeatedNegation => "flag negation operator repeated"
  | .danglingNegation => "dangling flag negation operator"
  | .unfinishedFlags => "expected flag but got end of regex"
  | .tooDeep => "exceed the maximum number of nested parentheses/brackets (250)"
  | .needsUnicode => "Unicode not allowed here"
  | .invalidBytes => "pattern can match invalid UTF-8"
  | .unknownProperty => "Unicode property not found"
  | .unknownValue => "Unicode property value not found"

end PatternProblem

structure PatternFault where
  problem : PatternProblem
  span : Span
  earlier : Option Span
deriving DecidableEq, Repr

namespace PatternFault

/-- The parts of the text that a fault concerns, in their order. -/
def spans (fault : PatternFault) : List Span :=
  fault.earlier.toList ++ [fault.span]

/-- The lines of a text.  A line feed ends a line, also the last one, and takes
one carriage return before it along. -/
def lines (text : Text) : List Text :=
  let parts := Text.cutAt '\n' text
  let ended := parts.dropLast.map fun line =>
    if line.getLast? = some '\r' then line.dropLast else line
  match parts.getLast? with
  | some [] => ended
  | some last => ended ++ [last]
  | none => ended

def marks (column : Nat) : List Span → Text
  | [] => []
  | span :: rest =>
      let width := max 1 (span.stop.column - span.start.column)
      List.replicate (span.start.column - column) ' ' ++ List.replicate width '^' ++
        marks (max column span.start.column + width) rest

def markedLine (margin : Text) (line : Text) (spans : List Span) : Text :=
  margin ++ line ++ ['\n'] ++
    if spans.isEmpty then []
    else List.replicate margin.length ' ' ++ marks 1 spans ++ ['\n']

def numberedLine (fault : PatternFault) (width number : Nat) (line : Text) : Text :=
  let numeral := Text.decimal number
  markedLine
    (List.replicate (width - numeral.length) ' ' ++ numeral ++ ": ".toList) line
    (fault.spans.filter fun span => span.isOneLine && span.start.line == number)

def placeOf (span : Span) : Text :=
  "on line ".toList ++ Text.decimal span.start.line ++ " (column ".toList ++
    Text.decimal span.start.column ++ ") through line ".toList ++
    Text.decimal span.stop.line ++ " (column ".toList ++
    Text.decimal (span.stop.column - 1) ++ ")\n".toList

def longReport (fault : PatternFault) (text : Text) : Text :=
  let rule := List.replicate 79 '~' ++ ['\n']
  let count := (lines text).length + if text.getLast? = some '\n' then 1 else 0
  let numbered := (lines text).zipIdx.flatMap fun (line, index) =>
    numberedLine fault (Text.decimal count).length (index + 1) line
  rule ++ numbered ++ rule ++
    (fault.spans.filter fun span => !span.isOneLine).flatMap placeOf

def message (fault : PatternFault) (text : Text) : Text :=
  "regex parse error:\n".toList ++
    (if text.contains '\n' then longReport fault text
    else markedLine "    ".toList text fault.spans) ++
    "error: ".toList ++ fault.problem.description.toList

end PatternFault

end CsdlHighlight

import CsdlHighlight.Toml.Token

/-!
Contract: the statements of a TOML document as they are written.

Owns:
- `WrittenKey`, `WrittenValue` and `Statement`, whose leaves are tokens;
- the grammar of the document around those tokens, with the limit on nesting;
- `Statement.readAll?`, which has an answer when the whole of a document
  follows the grammar.

Does not own: the inside of a token.  What a statement means, or whether it
means anything, is decided when all statements are there.
-/

namespace CsdlHighlight.Toml

/-- A key: the tokens of all parts but the last, and that of the last.  The token
of a part that is missing is empty. -/
structure WrittenKey where
  path : List Text
  last : Text
deriving DecidableEq, Repr

/-- A value: one token, or values in brackets or braces.  The scalar of a value
that is missing is empty. -/
inductive WrittenValue where
  | string (token : Text)
  | scalar (token : Text)
  | array (items : List WrittenValue)
  | table (pairs : List (WrittenKey × WrittenValue))
deriving Repr

inductive Statement where
  | pair (key : WrittenKey) (value : WrittenValue)
  /-- A header that opens a table. -/
  | table (key : WrittenKey)
  /-- A header that opens a further element of an array of tables. -/
  | element (key : WrittenKey)
deriving Repr

/-! ## Keys -/

def cutKeyPart (text : Text) : Text × Text :=
  ((cutString? text).or (cutAtom? text)).getD ([], text)

/-- Cut a key and the blanks around its parts.  Every step but the last takes a
dot, so the length of the text is enough `fuel`. -/
def cutKey : Nat → Text → WrittenKey × Text
  | 0, text => (⟨[], []⟩, text)
  | fuel + 1, text =>
      let (part, afterPart) := cutKeyPart (skipBlanks text)
      match skipBlanks afterPart with
      | '.' :: rest =>
          let (key, rest) := cutKey fuel rest
          (⟨part :: key.path, key.last⟩, rest)
      | rest => (⟨[], part⟩, rest)

namespace WrittenKey

def isMissing (key : WrittenKey) : Bool :=
  key.path.isEmpty && key.last.isEmpty

end WrittenKey

/-! ## Values -/

def nestingLimit : Nat := 80

/-- Whether something stands at the head of a text that cannot follow a value.
The value may be missing before anything else. -/
def isStray (text : Text) : Bool :=
  match text with
  | '=' :: _ => true
  | ']' :: _ => true
  | '}' :: _ => true
  | _ => false

def readToken (text : Text) : Option (WrittenValue × Text) :=
  match cutString? text with
  | some (token, rest) => some (.string token, rest)
  | none =>
      if isStray text then
        none
      else
        some (.scalar (cutScalar text).1, (cutScalar text).2)

mutual

/-- Read a value inside which `depth` more arrays and tables may open.  With the
steps below, no character is read in more than two of them, so twice the length
of the text is enough `fuel`. -/
def readValue : Nat → Nat → Text → Option (WrittenValue × Text)
  | 0, _, _ => none
  | fuel + 1, depth, text =>
      match text with
      | '[' :: rest =>
          match depth with
          | 0 => none
          | inner + 1 =>
              (readItems fuel inner rest).map fun (items, rest) =>
                (.array items, rest)
      | '{' :: rest =>
          match depth with
          | 0 => none
          | inner + 1 =>
              (readInlinePairs fuel inner rest).map fun (pairs, rest) =>
                (.table pairs, rest)
      | _ => readToken text

/-- Read the items of an array up to its closing bracket.  A comma may stand
behind the last one. -/
def readItems : Nat → Nat → Text → Option (List WrittenValue × Text)
  | 0, _, _ => none
  | fuel + 1, depth, text =>
      match skipFiller false text with
      | none => none
      | some [] => none
      | some (',' :: _) => none
      | some (']' :: rest) => some ([], rest)
      | some found =>
          (readValue fuel depth found).bind fun (item, afterItem) =>
            match skipFiller false afterItem with
            | some (',' :: rest) =>
                (readItems fuel depth rest).map fun (items, rest) =>
                  (item :: items, rest)
            | some (']' :: rest) => some ([item], rest)
            | _ => none

/-- Read the pairs of a table between braces up to the closing one.  Newlines
and comments may stand around every token except inside a key, and a comma
behind the last pair. -/
def readInlinePairs :
    Nat → Nat → Text → Option (List (WrittenKey × WrittenValue) × Text)
  | 0, _, _ => none
  | fuel + 1, depth, text =>
      match skipFiller false text with
      | none => none
      | some ('}' :: rest) => some ([], rest)
      | some found =>
          (readInlinePair fuel depth found).bind fun (pair, afterPair) =>
            match skipFiller false afterPair with
            | some (',' :: rest) =>
                (readInlinePairs fuel depth rest).map fun (pairs, rest) =>
                  (pair :: pairs, rest)
            | some ('}' :: rest) => some ([pair], rest)
            | _ => none

/-- Read one pair of a table between braces.  Its value may be missing before
the closing brace, too. -/
def readInlinePair :
    Nat → Nat → Text → Option ((WrittenKey × WrittenValue) × Text)
  | 0, _, _ => none
  | fuel + 1, depth, text =>
      let (key, afterKey) := cutKey text.length text
      match skipFiller false afterKey with
      | some ('=' :: written) =>
          match skipFiller false written with
          | some ('}' :: rest) => some ((key, .scalar []), '}' :: rest)
          | some found =>
              (readValue fuel depth found).map fun (value, rest) =>
                ((key, value), rest)
          | none => none
      | _ => none

end

/-! ## Statements -/

namespace Statement

def readTable (text : Text) : Option (Statement × Text) :=
  let (key, afterKey) := cutKey text.length text
  match afterKey with
  | ']' :: rest => some (.table key, rest)
  | _ => if key.isMissing then some (.table key, skipLine afterKey) else none

def readElement (text : Text) : Option (Statement × Text) :=
  let (key, afterKey) := cutKey text.length text
  match afterKey with
  | ']' :: ']' :: rest => some (.element key, rest)
  | ']' :: _ => none
  | _ => if key.isMissing then some (.element key, skipLine afterKey) else none

def readPair (fuel : Nat) (text : Text) : Option (Statement × Text) :=
  let (key, afterKey) := cutKey text.length text
  match afterKey with
  | '=' :: written =>
      (readValue fuel nestingLimit (skipBlanks written)).map
        fun (value, rest) => (.pair key value, rest)
  | _ => none

def read (fuel : Nat) (text : Text) : Option (Statement × Text) :=
  match text with
  | '[' :: '[' :: rest => readElement rest
  | '[' :: rest => readTable rest
  | _ => readPair fuel text

/-- Read statements, each on a line of its own, to the end. -/
def readLines : Nat → Text → Option (List Statement)
  | _, [] => some []
  | 0, _ :: _ => none
  | fuel + 1, text =>
      (read fuel text).bind fun (statement, afterStatement) =>
        (skipLineEnd afterStatement).bind fun rest =>
          (readLines fuel rest).map (statement :: ·)

def withoutMark : Text → Text
  | [] => []
  | first :: rest => if first.toNat = 0xFEFF then rest else first :: rest

/-- The statements of a document, if the whole of it follows the grammar.  No
character is the reason for more than two steps in a row. -/
def readAll? (text : Text) : Option (List Statement) :=
  (skipFiller false (withoutMark text)).bind fun start =>
    readLines (2 * start.length + 2) start

end Statement

end CsdlHighlight.Toml

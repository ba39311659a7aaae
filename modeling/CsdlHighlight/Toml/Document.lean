import CsdlHighlight.Toml.Moment
import CsdlHighlight.Toml.Statement
import CsdlHighlight.Toml.Unquotation

/-!
Contract: the meaning of TOML documents.

Owns:
- `ReadError`, the ways in which a document can be refused;
- what written keys and values stand for, and the limit on the parts of a key;
- `readDocument`, which gives the pairs of a document that is valid as a whole.

Does not own: what a program makes of the pairs, or the place of an error.
-/

namespace CsdlHighlight.Toml

inductive ReadError where
  /-- It breaks a rule of the language, or of the program that reads it. -/
  | malformed
  /-- One of its keys has too many parts. -/
  | tooDeep
deriving DecidableEq, Repr

namespace ReadError

def message : ReadError → Text
  | .malformed => "TOML parse error".toList
  | .tooDeep => "recursion limit\n".toList

/-- What was found, or else the document is malformed. -/
def require {α : Type} : Option α → Except ReadError α
  | some found => .ok found
  | none => .error .malformed

end ReadError

/-! ## Keys -/

def isBareChar (character : Char) : Bool :=
  isDigit character || ('a' ≤ character && character ≤ 'z') ||
    ('A' ≤ character && character ≤ 'Z') || character == '_' ||
    character == '-'

/-- What the token of one part of a key stands for.  A string in a key has one
line. -/
def keyPart? (token : Text) : Option Text :=
  match token with
  | '"' :: '"' :: '"' :: _ => none
  | '\'' :: '\'' :: '\'' :: _ => none
  | '"' :: _ => unquote? token
  | '\'' :: _ => unquote? token
  | [] => none
  | bare => if bare.all isBareChar then some bare else none

def keyParts? : List Text → Option (List Text)
  | [] => some []
  | token :: rest =>
      (keyPart? token).bind fun part => (keyParts? rest).map (part :: ·)

def keyLimit : Nat := 80

namespace WrittenKey

def meaning (key : WrittenKey) : Except ReadError (List Text × Text) :=
  match keyParts? key.path, keyPart? key.last with
  | some path, some last =>
      if keyLimit < path.length + 1 then .error .tooDeep else .ok (path, last)
  | _, _ => .error .malformed

end WrittenKey

/-! ## Values -/

def scalar? (scalar : Text) : Option Value :=
  boolean? scalar <|> integer? scalar <|> decimalFloat? scalar <|>
    namedFloat? scalar <|> moment? scalar

mutual

/-- What a value stands for.  The first error in it decides. -/
def WrittenValue.meaning : WrittenValue → Except ReadError Value
  | .string token => ReadError.require ((unquote? token).map .text)
  | .scalar token => ReadError.require (scalar? token)
  | .array items => (itemsMeaning items).map .array
  | .table pairs => (pairsMeaning [] pairs).map (.table .inline)

def itemsMeaning : List WrittenValue → Except ReadError (List Value)
  | [] => .ok []
  | item :: rest =>
      item.meaning.bind fun value =>
        (itemsMeaning rest).map (value :: ·)

/-- Add the pairs between braces to those that stand before them. -/
def pairsMeaning (before : Pairs) :
    List (WrittenKey × WrittenValue) → Except ReadError Pairs
  | [] => .ok before
  | (key, written) :: rest =>
      key.meaning.bind fun (path, last) =>
        written.meaning.bind fun value =>
          (ReadError.require (before.insert path last value)).bind fun grown =>
            pairsMeaning grown rest

end

/-! ## Bounds -/

mutual

def Value.isBounded : Value → Bool
  | .integer value => isBoundedInteger value
  | .float numeral => isBoundedFloat numeral
  | .array items => areBounded items
  | .table _ pairs => arePairsBounded pairs
  | .tables elements => areTablesBounded elements
  | _ => true

def areBounded : List Value → Bool
  | [] => true
  | value :: rest => value.isBounded && areBounded rest

def arePairsBounded : List (Text × Value) → Bool
  | [] => true
  | (_, value) :: rest => value.isBounded && arePairsBounded rest

def areTablesBounded : List (List (Text × Value)) → Bool
  | [] => true
  | pairs :: rest => arePairsBounded pairs && areTablesBounded rest

end

/-! ## Statements -/

structure Draft where
  pairs : Pairs
  header : List Text
deriving Repr

namespace Draft

def empty : Draft :=
  ⟨[], []⟩

def add (draft : Draft) : Statement → Except ReadError Draft
  | .pair key written =>
      key.meaning.bind fun (path, last) =>
        written.meaning.bind fun value =>
          (ReadError.require
            (draft.pairs.insertAt draft.header path last value)).map fun pairs =>
              ⟨pairs, draft.header⟩
  | .table key =>
      key.meaning.bind fun (path, last) =>
        (ReadError.require (draft.pairs.openTable path last)).map fun pairs =>
          ⟨pairs, path ++ [last]⟩
  | .element key =>
      key.meaning.bind fun (path, last) =>
        (ReadError.require (draft.pairs.openElement path last)).map fun pairs =>
          ⟨pairs, path ++ [last]⟩

/-- Add what some statements say, up to the first one with an error. -/
def addAll (draft : Draft) : List Statement → Except ReadError Draft
  | [] => .ok draft
  | statement :: rest =>
      (draft.add statement).bind fun grown => addAll grown rest

end Draft

/-- The pairs of a document, if the whole of it is valid.  A document that
breaks the grammar anywhere is malformed, whatever its statements say.  The
bounds of its numbers are the last thing that matters. -/
def readDocument (text : Text) : Except ReadError Pairs :=
  (ReadError.require (Statement.readAll? text)).bind fun statements =>
    (Draft.empty.addAll statements).bind fun draft =>
      if arePairsBounded draft.pairs then .ok draft.pairs else .error .malformed

end CsdlHighlight.Toml

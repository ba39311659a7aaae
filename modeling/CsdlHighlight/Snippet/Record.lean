import CsdlHighlight.Gist
import CsdlHighlight.Json.Skip

/-!
Contract: snippets as JSON records.

Owns:
- the record of a snippet and the array of the records of several snippets;
- the reader of one record, from an object with any further keys or from an
  array of the four fields.

Does not own: the script that carries the records.
-/

namespace CsdlHighlight.Snippet

/-! ## Writing -/

def member (key : String) (text : Text) : Text :=
  Json.literal key.toList ++ ':' :: Json.literal text

def toJson (snippet : Snippet) : Text :=
  '{' :: (member "content" snippet.content ++
    ',' :: (member "filename" snippet.filename ++
      ',' :: (member "username" snippet.username ++
        ',' :: (member "url" snippet.url ++ ['}']))))

def separated : List Text → Text
  | [] => []
  | [last] => last
  | item :: rest => item ++ ',' :: separated rest

def arrayToJson (snippets : List Snippet) : Text :=
  '[' :: (separated (snippets.map toJson) ++ [']'])

/-! ## Reading -/

/-- The fields of a record found so far. -/
structure Found where
  content : Option Text
  filename : Option Text
  username : Option Text
  url : Option Text
deriving DecidableEq, Repr

namespace Found

def nothing : Found :=
  ⟨none, none, none, none⟩

/-- The snippet, once every field has been found. -/
def snippet? (found : Found) : Option Snippet :=
  match found with
  | ⟨some content, some filename, some username, some url⟩ =>
      some ⟨content, filename, username, url⟩
  | _ => none

end Found

def readText (text : Text) : Option (Text × Text) :=
  Json.readLiteral (Json.skipSpacing text)

/-- Read the value of a key and note it down.  A key that repeats is an error,
and so is a field whose value is no string; other keys are passed over. -/
def readMember (found : Found) (key text : Text) : Option (Found × Text) :=
  if key = "content".toList then
    if found.content.isSome then
      none
    else
      (readText text).map fun (value, rest) =>
        ({ found with content := some value }, rest)
  else if key = "filename".toList then
    if found.filename.isSome then
      none
    else
      (readText text).map fun (value, rest) =>
        ({ found with filename := some value }, rest)
  else if key = "username".toList then
    if found.username.isSome then
      none
    else
      (readText text).map fun (value, rest) =>
        ({ found with username := some value }, rest)
  else if key = "url".toList then
    if found.url.isSome then
      none
    else
      (readText text).map fun (value, rest) =>
        ({ found with url := some value }, rest)
  else
    (Json.skipValue text).map fun rest => (found, rest)

/-- Read the members of an object from a key on, up to the closing brace.  Each
member takes at least one character, so the length of the text is enough
`fuel`. -/
def readMembers : Nat → Found → Text → Option (Found × Text)
  | 0, _, _ => none
  | fuel + 1, found, text =>
      (readText text).bind fun (key, afterKey) =>
        match Json.skipSpacing afterKey with
        | ':' :: afterColon =>
            (readMember found key afterColon).bind fun (found, afterValue) =>
              match Json.skipSpacing afterValue with
              | ',' :: rest => readMembers fuel found rest
              | '}' :: rest => some (found, rest)
              | _ => none
        | _ => none

def readItem (closing : Char) (text : Text) : Option (Text × Text) :=
  (readText text).bind fun (item, afterItem) =>
    match Json.skipSpacing afterItem with
    | character :: rest =>
        if character = closing then some (item, rest) else none
    | [] => none

def readItems (text : Text) : Option (Snippet × Text) :=
  (readItem ',' text).bind fun (content, rest) =>
    (readItem ',' rest).bind fun (filename, rest) =>
      (readItem ',' rest).bind fun (username, rest) =>
        (readItem ']' rest).map fun (url, rest) =>
          (⟨content, filename, username, url⟩, rest)

def readRecord (text : Text) : Option (Snippet × Text) :=
  match Json.skipSpacing text with
  | '{' :: rest =>
      (readMembers (rest.length + 1) .nothing rest).bind fun (found, rest) =>
        found.snippet?.map fun snippet => (snippet, rest)
  | '[' :: rest => readItems rest
  | _ => none

def ofJson? (text : Text) : Option Snippet :=
  match readRecord text with
  | some (snippet, rest) =>
      if (Json.skipSpacing rest).isEmpty then some snippet else none
  | none => none

end CsdlHighlight.Snippet

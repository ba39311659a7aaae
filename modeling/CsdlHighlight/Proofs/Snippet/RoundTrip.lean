import CsdlHighlight.Proofs.Json.Literal
import CsdlHighlight.Snippet.Record

/-!
Contract: written records read back as the snippets they were written from.

Owns:
- the round trip of one record, whatever stands behind it;
- the reader of an array of records, and its round trip.

Does not own: arrays that stand for something else than snippets.
-/

namespace CsdlHighlight.Snippet

/-! ## One record -/

theorem readText_literal (text rest : Text) :
    readText (Json.literal text ++ rest) = some (text, rest) := by
  rw [readText, Json.skipSpacing_literal, Json.readLiteral_literal]

section Members

variable {fuel : Nat} {found grown : Found} {key : String} {value : Text}
  (noted : ∀ rest, readMember found key.toList (Json.literal value ++ rest) =
    some (grown, rest))

include noted

theorem readMembers_comma (rest : Text) :
    readMembers (fuel + 1) found (member key value ++ ',' :: rest) =
      readMembers fuel grown rest := by
  simp [member, readMembers, readText_literal, Json.skipSpacing,
    Json.isSpacing, noted]

theorem readMembers_brace (rest : Text) :
    readMembers (fuel + 1) found (member key value ++ '}' :: rest) =
      some (grown, rest) := by
  simp [member, readMembers, readText_literal, Json.skipSpacing,
    Json.isSpacing, noted]

end Members

/-! Each field is noted down while it has not been found. -/

theorem readMember_content (value rest : Text) :
    readMember .nothing "content".toList (Json.literal value ++ rest) =
      some (⟨some value, none, none, none⟩, rest) := by
  unfold readMember
  rw [if_pos rfl, readText_literal]
  rfl

theorem readMember_filename (content value rest : Text) :
    readMember ⟨some content, none, none, none⟩ "filename".toList
        (Json.literal value ++ rest) =
      some (⟨some content, some value, none, none⟩, rest) := by
  unfold readMember
  rw [if_neg (by decide), if_pos rfl, readText_literal]
  rfl

theorem readMember_username (content filename value rest : Text) :
    readMember ⟨some content, some filename, none, none⟩ "username".toList
        (Json.literal value ++ rest) =
      some (⟨some content, some filename, some value, none⟩, rest) := by
  unfold readMember
  rw [if_neg (by decide), if_neg (by decide), if_pos rfl, readText_literal]
  rfl

theorem readMember_url (content filename username value rest : Text) :
    readMember ⟨some content, some filename, some username, none⟩ "url".toList
        (Json.literal value ++ rest) =
      some (⟨some content, some filename, some username, some value⟩, rest) := by
  unfold readMember
  rw [if_neg (by decide), if_neg (by decide), if_neg (by decide), if_pos rfl,
    readText_literal]
  rfl

def members (snippet : Snippet) (rest : Text) : Text :=
  member "content" snippet.content ++
    ',' :: (member "filename" snippet.filename ++
      ',' :: (member "username" snippet.username ++
        ',' :: (member "url" snippet.url ++ '}' :: rest)))

theorem toJson_append (snippet : Snippet) (rest : Text) :
    toJson snippet ++ rest = '{' :: members snippet rest := by
  simp only [toJson, members, List.cons_append, List.append_assoc,
    List.nil_append]

theorem readMembers_members (fuel : Nat) (snippet : Snippet) (rest : Text) :
    readMembers (fuel + 4) .nothing (members snippet rest) =
      some (⟨some snippet.content, some snippet.filename, some snippet.username,
        some snippet.url⟩, rest) := by
  rw [members, readMembers_comma (readMember_content _),
    readMembers_comma (readMember_filename _ _),
    readMembers_comma (readMember_username _ _ _),
    readMembers_brace (readMember_url _ _ _ _)]

/-- A written record reads back, whatever stands behind it. -/
theorem readRecord_toJson (snippet : Snippet) (rest : Text) :
    readRecord (toJson snippet ++ rest) = some (snippet, rest) := by
  obtain ⟨fuel, enough⟩ : ∃ fuel,
      (members snippet rest).length + 1 = fuel + 4 := by
    refine ⟨(members snippet rest).length - 3, ?_⟩
    have long : 3 ≤ (members snippet rest).length := by
      simp only [members, List.length_append, List.length_cons]
      omega
    omega
  have spacing : Json.skipSpacing ('{' :: members snippet rest) =
      '{' :: members snippet rest := rfl
  rw [toJson_append, readRecord, spacing]
  simp only [enough, readMembers_members, Option.bind_some, Found.snippet?,
    Option.map_some]

/-! ## Several records -/

/-- Read records with a comma between each two, up to the closing bracket.  Each
record takes at least one character, so the length of the text is enough
`fuel`. -/
def readRecords : Nat → Text → Option (List Snippet × Text)
  | 0, _ => none
  | fuel + 1, text =>
      (readRecord text).bind fun (snippet, afterRecord) =>
        match Json.skipSpacing afterRecord with
        | ',' :: rest =>
            (readRecords fuel rest).map fun (others, rest) =>
              (snippet :: others, rest)
        | ']' :: rest => some ([snippet], rest)
        | _ => none

def readArray (text : Text) : Option (List Snippet × Text) :=
  match Json.skipSpacing text with
  | '[' :: rest =>
      match Json.skipSpacing rest with
      | ']' :: rest => some ([], rest)
      | _ => readRecords (rest.length + 1) rest
  | _ => none

def arrayOfJson? (text : Text) : Option (List Snippet) :=
  match readArray text with
  | some (snippets, rest) =>
      if (Json.skipSpacing rest).isEmpty then some snippets else none
  | none => none

/-- Records are read back in their order. -/
theorem readRecords_separated {fuel : Nat} (snippet : Snippet)
    (others : List Snippet) (enough : others.length < fuel) (rest : Text) :
    readRecords fuel
        (separated ((snippet :: others).map toJson) ++ ']' :: rest) =
      some (snippet :: others, rest) := by
  induction others generalizing snippet fuel with
  | nil =>
      obtain ⟨fuel, rfl⟩ := Nat.exists_eq_add_one.mpr enough
      simp [separated, readRecords, readRecord_toJson, Json.skipSpacing,
        Json.isSpacing]
  | cons next others inductionHypothesis =>
      obtain ⟨fuel, rfl⟩ := Nat.exists_eq_add_one.mpr (Nat.zero_lt_of_lt enough)
      have behind := inductionHypothesis next (Nat.lt_of_succ_lt_succ enough)
      simp only [List.map_cons] at behind
      simp [separated, readRecords, readRecord_toJson, Json.skipSpacing,
        Json.isSpacing, behind]

/-- There are as many commas as there are items behind the first one. -/
theorem length_le_length_separated (items : List Text) :
    items.length ≤ (separated items).length + 1 := by
  induction items with
  | nil => simp
  | cons item rest inductionHypothesis =>
      cases rest with
      | nil => simp
      | cons next more =>
          have cut : separated (item :: next :: more) =
              item ++ ',' :: separated (next :: more) := rfl
          simp only [cut, List.length_append, List.length_cons] at *
          omega

theorem exists_separated_eq (snippet : Snippet) (others : List Snippet)
    (rest : Text) :
    ∃ more, separated ((snippet :: others).map toJson) ++ rest = '{' :: more := by
  cases others with
  | nil => exact ⟨_, toJson_append snippet rest⟩
  | cons next others =>
      exact ⟨_, by
        simp only [List.map_cons, separated, List.append_assoc]
        exact toJson_append snippet _⟩

/-- A written array reads back as its snippets, in their order. -/
theorem arrayOfJson?_arrayToJson (snippets : List Snippet) :
    arrayOfJson? (arrayToJson snippets) = some snippets := by
  cases snippets with
  | nil => rfl
  | cons snippet others =>
      have short : others.length <
          (separated ((snippet :: others).map toJson) ++ [']']).length + 1 := by
        have count := length_le_length_separated ((snippet :: others).map toJson)
        simp only [List.length_append, List.length_map, List.length_cons] at count ⊢
        omega
      have records := readRecords_separated snippet others short []
      obtain ⟨more, opens⟩ := exists_separated_eq snippet others [']']
      have array : readArray (arrayToJson (snippet :: others)) =
          some (snippet :: others, []) := by
        rw [opens] at records
        rw [arrayToJson, opens]
        simpa [readArray, Json.skipSpacing, Json.isSpacing] using records
      rw [arrayOfJson?, array]
      rfl

end CsdlHighlight.Snippet

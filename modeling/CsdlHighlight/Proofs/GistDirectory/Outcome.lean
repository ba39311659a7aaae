import CsdlHighlight.Proofs.GistDirectory.Served

/-!
Contract: what a fetch answers, for every id and every tree.

Owns:
- `IsId`, the ids that a gist can have;
- `MetadataAnswer`, the reading of the metadata behind a path;
- `Outcome`, the answers of a fetch in the order in which their reasons count,
  and the agreement of `fetch` with it.

Does not own: the reading of the served files.
-/

namespace CsdlHighlight

/-- An id is made of ASCII letters and digits, hyphens and underscores. -/
def IsId (id : Text) : Prop :=
  id ≠ [] ∧ ∀ character ∈ id,
    character.isAlphanum = true ∨ character = '-' ∨ character = '_'

theorem isIdChar_iff {character : Char} :
    isIdChar character = true ↔
      character.isAlphanum = true ∨ character = '-' ∨ character = '_' := by
  have upper : character.isUpper = ('A' ≤ character && character ≤ 'Z') :=
    Bool.decide_and _ _
  have lower : character.isLower = ('a' ≤ character && character ≤ 'z') := rfl
  have digit : character.isDigit = ('0' ≤ character && character ≤ '9') := rfl
  have alphanumeric : character.isAlphanum =
      ((character.isUpper || character.isLower) || character.isDigit) := rfl
  rw [alphanumeric, upper, lower, digit]
  simp only [isIdChar, Bool.or_eq_true, beq_iff_eq, or_assoc]
  exact or_left_comm

/-- The check on ids accepts the ids of `IsId` and no others. -/
theorem isGistId_iff {id : Text} : isGistId id = true ↔ IsId id := by
  simp only [isGistId, IsId, Bool.and_eq_true, Bool.not_eq_true',
    List.isEmpty_eq_false_iff, List.all_eq_true, isIdChar_iff, ne_eq]

/-! ## Metadata -/

namespace GistMetadata

inductive FieldIs (pairs : Toml.Pairs) (key : String) : Option Text → Prop where
  | absent (missing : pairs.find? key.toList = Option.none) :
      FieldIs pairs key Option.none
  | text {content : Text} (held : pairs.find? key.toList = some (.text content)) :
      FieldIs pairs key (some content)

/-- What a document says about a gist. -/
structure Describes (pairs : Toml.Pairs) (metadata : GistMetadata) : Prop where
  owner : FieldIs pairs "owner" metadata.owner
  url : FieldIs pairs "url" metadata.url

theorem field?_eq_some_iff {pairs : Toml.Pairs} {key : String}
    {value : Option Text} :
    field? pairs key = some value ↔ FieldIs pairs key value := by
  constructor
  · intro read
    unfold field? at read
    split at read
    · next missing =>
        cases read
        exact .absent missing
    · next content held =>
        cases read
        exact .text held
    · cases read
  · intro isField
    cases isField with
    | absent missing => rw [field?, missing]
    | text held => rw [field?, held]

theorem ofPairs?_eq_some_iff {pairs : Toml.Pairs} {metadata : GistMetadata} :
    ofPairs? pairs = some metadata ↔ Describes pairs metadata := by
  unfold ofPairs?
  rw [Option.bind_eq_some_iff]
  constructor
  · rintro ⟨owner, ownerRead, rest⟩
    obtain ⟨url, urlRead, rfl⟩ := Option.map_eq_some_iff.mp rest
    exact ⟨field?_eq_some_iff.mp ownerRead, field?_eq_some_iff.mp urlRead⟩
  · intro describes
    refine ⟨metadata.owner, field?_eq_some_iff.mpr describes.owner, ?_⟩
    rw [field?_eq_some_iff.mpr describes.url]
    rfl

/-- Metadata are accepted exactly if the document is valid and describes
them. -/
theorem ofToml_eq_ok_iff {document : Text} {metadata : GistMetadata} :
    ofToml document = .ok metadata ↔
      ∃ pairs, Toml.readDocument document = .ok pairs ∧
        Describes pairs metadata := by
  unfold ofToml
  constructor
  · intro accepted
    cases read : Toml.readDocument document with
    | error reason =>
        rw [read] at accepted
        cases accepted
    | ok pairs =>
        rw [read] at accepted
        refine ⟨pairs, rfl, ofPairs?_eq_some_iff.mp ?_⟩
        show ofPairs? pairs = some metadata
        cases found : ofPairs? pairs with
        | none =>
            simp [Except.bind, Toml.ReadError.require, found] at accepted
        | some other =>
            simpa [Except.bind, Toml.ReadError.require, found] using accepted
  · rintro ⟨pairs, read, describes⟩
    simp only [read, Except.bind, Toml.ReadError.require,
      ofPairs?_eq_some_iff.mpr describes]

end GistMetadata

namespace GistDirectory

/-- What reading the metadata of a gist gives, by what their path leads to.
Where it leads nowhere, the gist says nothing about itself. -/
inductive MetadataAnswer (tree : FileTree) (path : Path) :
    Except FetchError GistMetadata → Prop where
  | absent (missing : ∀ entry, tree.entryAt path ≠ .ok entry) :
      MetadataAnswer tree path (.ok .none)
  | noFile {entry : Entry} (present : tree.entryAt path = .ok entry)
      (noFile : ∀ content, entry ≠ .file content) :
      MetadataAnswer tree path (.error (.disk .isADirectory))
  | malformed {content : Bytes} (present : tree.entryAt path = .ok (.file content))
      (noText : ∀ text, content ≠ Utf8.encode text) :
      MetadataAnswer tree path (.error (.disk .notUtf8))
  | refused {document : Text} {reason : Toml.ReadError}
      (present : tree.entryAt path = .ok (.file (Utf8.encode document)))
      (invalid : GistMetadata.ofToml document = .error reason) :
      MetadataAnswer tree path (.error (.metadata path reason))
  | described {document : Text} {pairs : Toml.Pairs} {metadata : GistMetadata}
      (present : tree.entryAt path = .ok (.file (Utf8.encode document)))
      (valid : Toml.readDocument document = .ok pairs)
      (describes : GistMetadata.Describes pairs metadata) :
      MetadataAnswer tree path (.ok metadata)

variable {tree : FileTree} {directory path : Path} {id : Text}

theorem exists_metadataAnswer (tree : FileTree) (path : Path) :
    ∃ answer, MetadataAnswer tree path answer := by
  cases present : tree.entryAt path with
  | error failure =>
      refine ⟨_, .absent ?_⟩
      intro entry presentToo
      rw [present] at presentToo
      cases presentToo
  | ok entry =>
      cases entry with
      | directory => exact ⟨_, .noFile present nofun⟩
      | link target => exact ⟨_, .noFile present nofun⟩
      | file content =>
          by_cases isText : ∃ document, content = Utf8.encode document
          · obtain ⟨document, rfl⟩ := isText
            cases read : GistMetadata.ofToml document with
            | error reason => exact ⟨_, .refused present read⟩
            | ok metadata =>
                obtain ⟨pairs, valid, describes⟩ :=
                  GistMetadata.ofToml_eq_ok_iff.mp read
                exact ⟨_, .described present valid describes⟩
          · exact ⟨_, .malformed present (not_exists.mp isText)⟩

/-- An answer of `MetadataAnswer` is the one that reading the metadata gives. -/
theorem MetadataAnswer.readMetadata_eq
    {answer : Except FetchError GistMetadata}
    (answers : MetadataAnswer tree (directory.join (Utf8.encode metadataName))
      answer) :
    readMetadata tree.reader directory = pure answer := by
  generalize isPath : directory.join (Utf8.encode metadataName) = path at answers
  have readText : tree.reader.readText path =
      pure (DiskError.decode (tree.content path)) := rfl
  have isThere : tree.reader.present path =
      pure (tree.entryAt path).isOk := by
    simp only [FileTree.reader, FileTree.present_eq]
  unfold readMetadata
  rw [isPath]
  simp only [readText, isThere, FileTree.content_eq, pure_bind]
  cases answers with
  | absent missing =>
      cases found : tree.entryAt path with
      | error failure => rfl
      | ok entry => exact absurd found (missing entry)
  | @noFile entry present noFile =>
      rw [present]
      cases entry with
      | file content => exact absurd rfl (noFile content)
      | directory => rfl
      | link target => rfl
  | malformed present noText =>
      simp only [present, Except.bind, DiskError.decode_of_malformed noText]
      rfl
  | refused present invalid =>
      simp only [present, Except.bind, DiskError.decode_encode, invalid]
      rfl
  | described present valid describes =>
      have accepted := GistMetadata.ofToml_eq_ok_iff.mpr ⟨_, valid, describes⟩
      simp only [present, Except.bind, DiskError.decode_encode, accepted]
      rfl

/-! ## Fetches -/

/-- What a fetch answers.  The id comes first, then the directory, the metadata
and the served files, and there is no gist with only some of them. -/
inductive Outcome (gists : GistDirectory) (tree : FileTree) (id : Text) :
    Except FetchError Gist → Prop where
  | invalidId (notId : ¬ IsId id) : Outcome gists tree id (.error (.invalidId id))
  | notFound (isId : IsId id)
      (missing : tree.directoryEntries? (gists.directoryOf id) = none) :
      Outcome gists tree id (.error (.notFound id))
  | metadataFailure {entries : List (Name × Entry)} {failure : FetchError}
      (isId : IsId id)
      (there : tree.directoryEntries? (gists.directoryOf id) = some entries)
      (refused : MetadataAnswer tree
        ((gists.directoryOf id).join (Utf8.encode metadataName))
        (.error failure)) :
      Outcome gists tree id (.error failure)
  | fileFailure {entries : List (Name × Entry)} {metadata : GistMetadata}
      {served : List (Name × Bytes)} {failure : DiskError} (isId : IsId id)
      (there : tree.directoryEntries? (gists.directoryOf id) = some entries)
      (accepted : MetadataAnswer tree
        ((gists.directoryOf id).join (Utf8.encode metadataName)) (.ok metadata))
      (isServed : IsServed entries served)
      (files : FilesAnswer (gists.directoryOf id) served (.error failure)) :
      Outcome gists tree id (.error (.disk failure))
  | gist {entries : List (Name × Entry)} {metadata : GistMetadata}
      {served : List (Name × Bytes)} {files : List GistFile} (isId : IsId id)
      (there : tree.directoryEntries? (gists.directoryOf id) = some entries)
      (accepted : MetadataAnswer tree
        ((gists.directoryOf id).join (Utf8.encode metadataName)) (.ok metadata))
      (isServed : IsServed entries served)
      (reads : FilesAnswer (gists.directoryOf id) served (.ok files)) :
      Outcome gists tree id (.ok
        { id := id
          owner := metadata.owner.getD defaultOwner
          url := metadata.url.getD (defaultUrl (gists.directoryOf id))
          files := files })

/-- There is an answer for every id and every tree. -/
theorem exists_outcome (gists : GistDirectory) (tree : FileTree) (id : Text) :
    ∃ outcome, Outcome gists tree id outcome := by
  -- The cases are split in the order in which the reasons count.
  by_cases isId : IsId id
  · cases there : tree.directoryEntries? (gists.directoryOf id) with
    | none => exact ⟨_, .notFound isId there⟩
    | some entries =>
        obtain ⟨metadata, answered⟩ := exists_metadataAnswer tree
          ((gists.directoryOf id).join (Utf8.encode metadataName))
        cases metadata with
        | error failure => exact ⟨_, .metadataFailure isId there answered⟩
        | ok metadata =>
            obtain ⟨place, -, rfl⟩ := FileTree.directoryEntries?_eq_some there
            obtain ⟨served, isServed, -⟩ :=
              exists_isServed (tree.children_distinct place)
            obtain ⟨files, reads⟩ :=
              exists_filesAnswer (gists.directoryOf id) served
            cases files with
            | error failure =>
                exact ⟨_, .fileFailure isId there answered isServed reads⟩
            | ok files => exact ⟨_, .gist isId there answered isServed reads⟩
  · exact ⟨_, .invalidId isId⟩

theorem fetch_of_not_isId {m : Type → Type} [Monad m] (gists : GistDirectory)
    (disk : DiskReader m) (notId : ¬ IsId id) :
    gists.fetch disk id = pure (.error (.invalidId id)) := by
  have invalid : isGistId id = false := by
    rw [← Bool.not_eq_true, isGistId_iff]
    exact notId
  simp only [fetch, invalid, Bool.not_false, if_true]

variable {gists : GistDirectory}

theorem fetch_of_no_directory (isId : IsId id)
    (missing : tree.directoryEntries? (gists.directoryOf id) = none) :
    gists.fetch tree.reader id = pure (.error (.notFound id)) := by
  have noDirectory : tree.reader.isDirectory (gists.directoryOf id) =
      pure false := by
    rw [FileTree.isDirectory_eq, missing]
    rfl
  simp only [fetch, isGistId_iff.mpr isId, noDirectory, pure_bind,
    Bool.not_true, if_neg Bool.false_ne_true, Bool.not_false, if_true]

/-- In a directory, a fetch puts together what the metadata and the files
give. -/
theorem fetch_of_directory {entries : List (Name × Entry)}
    {metadata : Except FetchError GistMetadata}
    {files : Except FetchError (List GistFile)} (isId : IsId id)
    (there : tree.directoryEntries? (gists.directoryOf id) = some entries)
    (metadataRead : readMetadata tree.reader (gists.directoryOf id) =
      pure metadata)
    (filesRead : readServed tree.reader (gists.directoryOf id) = pure files) :
    gists.fetch tree.reader id =
      pure (metadata.bind fun metadata => files.map fun files =>
        { id := id
          owner := metadata.owner.getD defaultOwner
          url := metadata.url.getD (defaultUrl (gists.directoryOf id))
          files := files }) := by
  have isDirectory := FileTree.isDirectory_of_directoryEntries? there
  simp only [fetch, isGistId_iff.mpr isId, isDirectory, metadataRead, filesRead,
    pure_bind, Bool.not_true, if_neg Bool.false_ne_true]
  cases metadata with
  | error failure => rfl
  | ok metadata => cases files <;> rfl

/-- An answer of `Outcome` is the one that a fetch gives. -/
theorem Outcome.fetch_eq {outcome : Except FetchError Gist}
    (answered : Outcome gists tree id outcome) :
    gists.fetch tree.reader id = pure outcome := by
  cases answered with
  | invalidId notId => exact gists.fetch_of_not_isId _ notId
  | notFound isId missing => exact fetch_of_no_directory isId missing
  | metadataFailure isId there refused =>
      exact fetch_of_directory isId there refused.readMetadata_eq rfl
  | fileFailure isId there accepted isServed fails =>
      have openEnded := gists.isOpenEnded_directoryOf (isGistId_iff.mpr isId)
      exact fetch_of_directory isId there accepted.readMetadata_eq
        (readServed_eq openEnded there isServed fails)
  | gist isId there accepted isServed reads =>
      have openEnded := gists.isOpenEnded_directoryOf (isGistId_iff.mpr isId)
      exact fetch_of_directory isId there accepted.readMetadata_eq
        (readServed_eq openEnded there isServed reads)

/-- A fetch gives the one answer that the id, the directory, the metadata and
the served files determine.  An id that is none is refused on every disk, before
anything is asked of it. -/
theorem fetch_eq_iff_outcome (gists : GistDirectory) (tree : FileTree)
    (id : Text) (outcome : Except FetchError Gist) :
    (gists.fetch tree.reader id = pure outcome ↔
        Outcome gists tree id outcome) ∧
      (¬ IsId id → ∀ {m : Type → Type} [Monad m] (disk : DiskReader m),
        gists.fetch disk id = pure (.error (.invalidId id))) := by
  refine ⟨⟨?_, ?_⟩, ?_⟩
  · -- There is an answer, and every answer is what the fetch gives.
    intro fetched
    obtain ⟨other, answered⟩ := exists_outcome gists tree id
    have same : outcome = other :=
      fetched.symm.trans answered.fetch_eq
    rw [same]
    exact answered
  · intro answered
    exact answered.fetch_eq
  · intro notId m _ disk
    exact gists.fetch_of_not_isId disk notId

/-! ## A gist behind a link

A gist that is a link to a directory, in which there are a file whose name is no
text, a link and a directory besides. -/

def storeFiles : List (FileName × Entry) :=
  [(⟨[0xff], by decide⟩, .file (Utf8.encode "b".toList)),
    (.ofText "l".toList, .link (.ofText "a".toList)),
    (metadataFile, .file (ownerFile "alice")),
    (.ofText "d".toList, .directory),
    (.ofText "a".toList, .file (Utf8.encode "x".toList))]

def storeEntries : List (Name × Entry) :=
  bareNames storeFiles

def storeLocation : Location :=
  [.ofText "store".toList]

def treeWithStore : FileTree where
  workingDirectory := []
  entries :=
    (besideLocation.dropLast, .directory) ::
      (besideLocation, .link (.ofText "../store".toList)) ::
      (storeLocation, .directory) ::
      storeFiles.map fun held => (storeLocation ++ [held.1], held.2)
  distinct := by decide +kernel

def storedFiles : List (Name × Bytes) :=
  [(Utf8.encode "a".toList, Utf8.encode "x".toList),
    ([0xff], Utf8.encode "b".toList)]

theorem isServed_storedFiles : IsServed storeEntries storedFiles where
  mem_iff := by
    intro name content
    constructor
    · intro member
      rcases List.mem_pair.mp member with same | same
      · cases same
        decide +kernel
      · cases same
        decide +kernel
    · rintro ⟨member, notMetadata⟩
      simp only [storeEntries, bareNames, storeFiles, FileName.ofText,
        List.map_cons, List.map_nil, List.mem_cons, Prod.mk.injEq,
        Entry.file.injEq, reduceCtorEq, and_false, false_or, List.not_mem_nil,
        or_false] at member
      rcases member with ⟨rfl, rfl⟩ | ⟨rfl, -⟩ | ⟨rfl, rfl⟩
      · exact List.mem_pair.mpr (.inr rfl)
      · exact absurd rfl notMetadata
      · exact List.mem_pair.mpr (.inl rfl)
  ascending := by decide +kernel

/-- Its files come in the order of their names and under names that are texts,
and the address that it does not give is that of the link. -/
theorem fetch_eq_iff_outcome_behind_link :
    treeWithStore.directoryEntries? (besideGists.directoryOf "g".toList) =
        some storeEntries ∧
      besideGists.fetch treeWithStore.reader "g".toList = pure (.ok
        { id := "g".toList
          owner := "alice".toList
          url := "file://gists/g".toList
          files :=
            [⟨"a".toList, "x".toList⟩, ⟨['\uFFFD'], "b".toList⟩] }) := by
  have there : treeWithStore.directoryEntries?
      (besideGists.directoryOf "g".toList) = some storeEntries := by
    decide +kernel
  have present : treeWithStore.entryAt
      ((besideGists.directoryOf "g".toList).join (Utf8.encode metadataName)) =
        .ok (.file (Utf8.encode "owner = \"alice\"".toList)) := by
    decide +kernel
  have accepted : GistMetadata.ofToml "owner = \"alice\"".toList =
      .ok ⟨some "alice".toList, none⟩ := by
    decide +kernel
  obtain ⟨pairs, valid, describes⟩ := GistMetadata.ofToml_eq_ok_iff.mp accepted
  have reads : FilesAnswer (besideGists.directoryOf "g".toList) storedFiles
      (.ok [⟨"a".toList, "x".toList⟩, ⟨['\uFFFD'], "b".toList⟩]) :=
    .all (.cons (.text (by decide) rfl) (.cons (.text (by decide) rfl) .nil))
  refine ⟨there, ?_⟩
  exact (fetch_eq_iff_outcome besideGists treeWithStore "g".toList _).1.mpr
    (.gist (isGistId_iff.mp rfl) there (.described present valid describes)
      isServed_storedFiles reads)

/-! ## A gist behind a long path -/

def slashedRoot (count : Nat) : GistDirectory :=
  ⟨⟨[0x67] ++ List.replicate (count + 1) Path.slash⟩⟩

def longName : FileName :=
  ⟨List.replicate 200 0x66, by decide +kernel⟩

def longEntries : List (Name × Entry) :=
  [(longName.name, .file (Utf8.encode "x".toList))]

def longLocation : Location :=
  [gistName, .ofText "a".toList]

def treeWithLongName : FileTree where
  workingDirectory := []
  entries :=
    [(longLocation.dropLast, .directory),
      (longLocation, .directory),
      (longLocation ++ [longName], .file (Utf8.encode "x".toList))]
  distinct := by decide +kernel

theorem bytes_slashedRoot_directoryOf (count : Nat) :
    ((slashedRoot count).directoryOf "a".toList).bytes =
      [0x67] ++ List.replicate (count + 1) Path.slash ++ [0x61] := by
  apply Path.join_bytes_of_endsInSlash
  rw [slashedRoot, Path.endsInSlash, List.replicate_succ', ← List.append_assoc,
    List.getLast?_concat]
  rfl

/-- As long as it is no longer than a path can be, the path with the slashes leads
where the one with a single slash does. -/
theorem resolve_slashedRoot {count : Nat} (short : count + 3 ≤ FileTree.pathLimit)
    (tree : FileTree) :
    tree.resolve ((slashedRoot count).directoryOf "a".toList) =
      FileTree.arrive (tree.walk .target FileTree.linkLimit tree.workingDirectory
        [.name [0x67], .name [0x61]]) := by
  have isName : IsEntryName [0x61] := by decide
  have openEnded := (slashedRoot count).isOpenEnded_directoryOf
    (isGistId_iff.mpr (isGistId_iff.mp rfl) : isGistId "a".toList = true)
  have bytes := bytes_slashedRoot_directoryOf count
  generalize (slashedRoot count).directoryOf "a".toList = path at openEnded bytes ⊢
  obtain ⟨_⟩ := path
  subst bytes
  rw [FileTree.resolve, FileTree.find_of_short, Path.steps_slashes _ _ openEnded isName]
  · rfl
  · simp [Path.slash]
  · simp
  · simp
    omega

theorem isServed_longEntries :
    IsServed longEntries [(longName.name, Utf8.encode "x".toList)] where
  mem_iff := by
    have notMetadata : longName.name ≠ Utf8.encode metadataName := by
      decide +kernel
    intro name content
    simp only [longEntries, List.mem_singleton, Prod.mk.injEq,
      Entry.file.injEq]
    constructor
    · rintro ⟨rfl, rfl⟩
      exact ⟨⟨rfl, rfl⟩, notMetadata⟩
    · exact And.left
  ascending := List.pairwise_singleton _ _

/-- The only file of a gist is well-formed text, and yet the fetch fails: the
path that is put together for it is too long. -/
theorem fetch_fails_behind_long_path :
    IsId "a".toList ∧
      treeWithLongName.directoryEntries?
        ((slashedRoot 3999).directoryOf "a".toList) = some longEntries ∧
      (slashedRoot 3999).fetch treeWithLongName.reader "a".toList =
        pure (.error (.disk .nameTooLong)) := by
  have isId : IsId "a".toList := isGistId_iff.mp rfl
  have openEnded := (slashedRoot 3999).isOpenEnded_directoryOf
    (isGistId_iff.mpr isId)
  have arrives : treeWithLongName.resolve
      ((slashedRoot 3999).directoryOf "a".toList) =
        .ok (longLocation, .directory) := by
    rw [resolve_slashedRoot (by decide)]
    rfl
  have there : treeWithLongName.directoryEntries?
      ((slashedRoot 3999).directoryOf "a".toList) = some longEntries := by
    rw [FileTree.directoryEntries?, arrives]
    decide +kernel
  have noMetadata : MetadataAnswer treeWithLongName
      (((slashedRoot 3999).directoryOf "a".toList).join metadataFile.name)
      (.ok .none) :=
    .absent (FileTree.entryAt_join_of_missing openEnded arrives
      (by decide +kernel))
  refine ⟨isId, there, Outcome.fetch_eq
    (.fileFailure isId there noMetadata isServed_longEntries ?_)⟩
  refine @FilesAnswer.first _ _ [] [] _ _ rfl nofun ?_
  apply FileAnswer.tooLong
  have length : longName.name.length = 200 := List.length_replicate
  rw [Path.join_bytes openEnded, bytes_slashedRoot_directoryOf]
  simp only [List.length_append, List.length_cons, List.length_nil,
    List.length_replicate, length, FileTree.pathLimit]
  decide

end GistDirectory

end CsdlHighlight

import CsdlHighlight.GistDirectory
import CsdlHighlight.Proofs.FileTree.Directory
import Mathlib.Data.List.Basic

/-!
Contract: what a fetch takes from a disk.

Owns:
- the ids of gists as names of entries;
- the order of served names, which does not depend on the order of a listing;
- the agreement of fetches from disks that answer alike;
- fetches from two trees with the same directory of a gist, and the one way out
  of it: metadata behind a link.

Does not own: how a tree answers about a directory.
-/

namespace CsdlHighlight

/-! ## Ids and names -/

/-- A character of an id is one byte, and none with a meaning in paths. -/
theorem encodeChar_of_isIdChar {character : Char}
    (allowed : isIdChar character = true) :
    ∃ byte, Utf8.encodeChar character = [byte] ∧
      byte ≠ Path.slash ∧ byte ≠ Path.dot := by
  have code : character.toNat < 0x80 ∧ character.toNat ≠ 0x2F ∧
      character.toNat ≠ 0x2E := by
    simp only [isIdChar, Bool.or_eq_true, Bool.and_eq_true, decide_eq_true_eq,
      beq_iff_eq, Char.le_def, UInt32.le_iff_toNat_le, Char.reduceVal,
      UInt32.reduceToNat] at allowed
    unfold Char.toNat
    rcases allowed with (((small | capital) | digit) | rfl) | rfl
    · omega
    · omega
    · omega
    · decide
    · decide
  obtain ⟨ascii, notSlash, notDot⟩ := code
  refine ⟨UInt8.ofNat character.toNat, by simp [Utf8.encodeChar, ascii], ?_, ?_⟩
  · intro same
    have value := congrArg UInt8.toNat same
    simp only [UInt8.toNat_ofNat', Path.slash, UInt8.reduceToNat] at value
    omega
  · intro same
    have value := congrArg UInt8.toNat same
    simp only [UInt8.toNat_ofNat', Path.dot, UInt8.reduceToNat] at value
    omega

/-- An id is a plain name of an entry. -/
theorem isEntryName_of_isGistId {id : Text} (valid : isGistId id = true) :
    IsEntryName (Utf8.encode id) := by
  obtain ⟨nonempty, allowed⟩ : id ≠ [] ∧ ∀ character ∈ id,
      isIdChar character = true := by
    simpa [isGistId] using valid
  have plain : ∀ byte ∈ Utf8.encode id, byte ≠ Path.slash ∧ byte ≠ Path.dot := by
    intro byte member
    obtain ⟨character, inId, inCode⟩ := List.mem_flatMap.mp member
    obtain ⟨only, code, noMeaning⟩ :=
      encodeChar_of_isIdChar (allowed character inId)
    rw [code, List.mem_singleton] at inCode
    exact inCode ▸ noMeaning
  constructor
  · obtain ⟨character, rest, rfl⟩ := List.exists_cons_of_ne_nil nonempty
    obtain ⟨byte, code, -⟩ :=
      encodeChar_of_isIdChar (allowed character List.mem_cons_self)
    simp [Utf8.encode, code]
  · intro slashed
    exact (plain _ slashed).1 rfl
  · intro dotted
    exact (plain Path.dot (by simp [dotted])).2 rfl
  · intro dotted
    exact (plain Path.dot (by simp [dotted])).2 rfl

def metadataFile : FileName :=
  ⟨Utf8.encode metadataName, by unfold metadataName; decide +kernel⟩

namespace GistDirectory

/-! ## Served names -/

theorem nameLe_iff (left right : Name) :
    nameLe left right = true ↔ left ≤ right := by
  induction left generalizing right with
  | nil => simp [nameLe]
  | cons first rest inductionHypothesis =>
      cases right with
      | nil => simp [nameLe]
      | cons other others =>
          simp only [nameLe, Bool.or_eq_true, Bool.and_eq_true,
            decide_eq_true_eq, beq_iff_eq, inductionHypothesis,
            List.cons_le_cons_iff]

/-- The served names are in ascending order. -/
theorem servedNames_pairwise (listed : List (Name × EntryKind)) :
    (servedNames listed).Pairwise (· ≤ ·) := by
  simp only [← nameLe_iff]
  refine List.pairwise_mergeSort ?_ ?_ _
  · intro left middle right
    simp only [nameLe_iff]
    exact List.le_trans
  · intro left right
    simp only [Bool.or_eq_true, nameLe_iff]
    exact List.le_total left right

/-- The served names are the names of files, the metadata left out. -/
theorem mem_servedNames {listed : List (Name × EntryKind)} {name : Name} :
    name ∈ servedNames listed ↔
      (name, .file) ∈ listed ∧ name ≠ Utf8.encode metadataName := by
  rw [servedNames, List.mem_mergeSort]
  simp

/-- The order of a listing makes no difference. -/
theorem servedNames_eq_of_perm {listed others : List (Name × EntryKind)}
    (permuted : listed.Perm others) :
    servedNames listed = servedNames others := by
  have sameNames : (servedNames listed).Perm (servedNames others) :=
    (List.mergeSort_perm _ _).trans <|
      ((permuted.filter _).map Prod.fst).trans (List.mergeSort_perm _ _).symm
  -- Two ascending lists with the same names are the same list.
  exact sameNames.eq_of_pairwise
    (fun _ _ _ _ => List.le_antisymm)
    (servedNames_pairwise listed) (servedNames_pairwise others)

/-! ## Disks that answer alike -/

variable {m : Type → Type} [Monad m] {disk other : DiskReader m}
  {directory : Path}

theorem readMetadata_congr
    (samePresence : disk.present (directory.join (Utf8.encode metadataName)) =
      other.present (directory.join (Utf8.encode metadataName)))
    (sameContent : disk.content (directory.join (Utf8.encode metadataName)) =
      other.content (directory.join (Utf8.encode metadataName))) :
    readMetadata disk directory = readMetadata other directory := by
  simp only [readMetadata, DiskReader.readText, samePresence, sameContent]

theorem readFiles_congr {names : List Name}
    (sameContent : ∀ name ∈ names,
      disk.content (directory.join name) = other.content (directory.join name)) :
    readFiles disk directory names = readFiles other directory names := by
  induction names with
  | nil => rfl
  | cons name rest inductionHypothesis =>
      have head := sameContent name List.mem_cons_self
      have tail := inductionHypothesis fun later member =>
        sameContent later (List.mem_cons_of_mem name member)
      simp only [readFiles, DiskReader.readText, head, tail]

/-- A fetch depends on a disk through three answers only: whether the directory
is there, its metadata, and its files. -/
theorem fetch_congr {gists : GistDirectory} {id : Text}
    (sameDirectory : disk.isDirectory (gists.directoryOf id) =
      other.isDirectory (gists.directoryOf id))
    (sameMetadata : readMetadata disk (gists.directoryOf id) =
      readMetadata other (gists.directoryOf id))
    (sameFiles : readServed disk (gists.directoryOf id) =
      readServed other (gists.directoryOf id)) :
    gists.fetch disk id = gists.fetch other id := by
  simp only [fetch, sameDirectory, sameMetadata, sameFiles]

/-! ## Trees with the same directory -/

/-- The path to a gist ends in its id. -/
theorem isOpenEnded_directoryOf (gists : GistDirectory) {id : Text}
    (valid : isGistId id = true) : (gists.directoryOf id).IsOpenEnded :=
  Path.isOpenEnded_join gists.root (isEntryName_of_isGistId valid)

section SameDirectory

variable {first second : FileTree} {mine theirs : List (Name × Entry)}
  (inFirst : first.directoryEntries? directory = some mine)
  (inSecond : second.directoryEntries? directory = some theirs)
  (sameEntries : mine.Perm theirs)

include inFirst inSecond sameEntries

/-- The served files are those of the directory: what is behind a link in it has
no part in them. -/
theorem readServed_eq_of_sameDirectory (openEnded : directory.IsOpenEnded) :
    readServed first.reader directory = readServed second.reader directory := by
  have sameNames := servedNames_eq_of_perm
    (sameEntries.map fun entry => (entry.1, entry.2.kind))
  simp only [readServed, FileTree.list_of_directoryEntries? inFirst,
    FileTree.list_of_directoryEntries? inSecond, pure_bind, ← sameNames]
  refine readFiles_congr ?_
  intro name served
  obtain ⟨⟨held, entry⟩, member, shown⟩ :=
    List.mem_map.mp (mem_servedNames.mp served).1
  obtain ⟨sameName, isFile⟩ := Prod.mk.inj shown
  subst sameName
  -- The listing tells a file from a link, and a name has one entry only.
  have notLink : ∀ target, (held, Entry.link target) ∉ mine := by
    intro target linked
    rw [FileTree.entry_unique inFirst member linked] at isFile
    cases isFile
  obtain ⟨fileName, rfl⟩ := FileTree.exists_fileName inFirst member
  exact FileTree.reader_content_congr (FileTree.entryAt_join_congr openEnded
    inFirst inSecond sameEntries notLink)

/-- Metadata that are no link are those of the directory. -/
theorem readMetadata_eq_of_sameDirectory (openEnded : directory.IsOpenEnded)
    (ownMetadata : ∀ target,
      (Utf8.encode metadataName, Entry.link target) ∉ mine) :
    readMetadata first.reader directory =
      readMetadata second.reader directory := by
  have sameEntry : first.entryAt (directory.join metadataFile.name) =
      second.entryAt (directory.join metadataFile.name) :=
    FileTree.entryAt_join_congr openEnded inFirst inSecond sameEntries
      ownMetadata
  exact readMetadata_congr (FileTree.reader_present_congr sameEntry)
    (FileTree.reader_content_congr sameEntry)

end SameDirectory

/-- A gist whose metadata are no link exposes nothing outside of its directory.
Two trees in which that directory holds the same entries, in whatever order they
are listed, give the same answer to its id, however they differ elsewhere. -/
theorem fetch_eq_of_sameDirectory (gists : GistDirectory) (id : Text)
    {first second : FileTree} {mine theirs : List (Name × Entry)}
    (inFirst : first.directoryEntries? (gists.directoryOf id) = some mine)
    (inSecond : second.directoryEntries? (gists.directoryOf id) = some theirs)
    (sameEntries : mine.Perm theirs)
    (ownMetadata : ∀ entry ∈ mine,
      entry.1 = Utf8.encode metadataName → entry.2.kind ≠ .link) :
    gists.fetch first.reader id = gists.fetch second.reader id := by
  cases valid : isGistId id with
  | false => simp only [fetch, valid, Bool.not_false, if_true]
  | true =>
      have openEnded := gists.isOpenEnded_directoryOf valid
      refine fetch_congr ?_ ?_ ?_
      · rw [FileTree.isDirectory_of_directoryEntries? inFirst,
          FileTree.isDirectory_of_directoryEntries? inSecond]
      · refine readMetadata_eq_of_sameDirectory inFirst inSecond sameEntries
          openEnded ?_
        intro target linked
        -- Nothing depends on the bytes of this name.
        generalize Utf8.encode metadataName = name at ownMetadata linked
        exact ownMetadata _ linked rfl rfl
      · exact readServed_eq_of_sameDirectory inFirst inSecond sameEntries
          openEnded

/-! ## A gist beside a file

A directory of gists with one gist, and a file beside that directory to which
links in the gist lead. -/

def besideGists : GistDirectory :=
  ⟨.ofText "gists".toList⟩

def ownerFile (owner : String) : Bytes :=
  Utf8.encode ("owner = \"" ++ owner ++ "\"").toList

def bareNames (files : List (FileName × Entry)) : List (Name × Entry) :=
  files.map fun (file, entry) => (file.name, entry)

def gistName : FileName := .ofText "g".toList

def besideLocation : Location :=
  [.ofText "gists".toList, gistName]

def linkOut : Entry :=
  .link (.ofText "../../beside.toml".toList)

def besideFiles (metadata : Entry) : List (FileName × Entry) :=
  [(metadataFile, metadata),
    (.ofText "leak.csdl".toList, linkOut),
    (.ofText "f.csdl".toList, .file (Utf8.encode "x".toList))]

def besideEntries (metadata : Entry) : List (Name × Entry) :=
  bareNames (besideFiles metadata)

def gistBeside (beside : Bytes) (metadata : Entry) : FileTree where
  workingDirectory := []
  entries :=
    ([.ofText "beside.toml".toList], .file beside) ::
      (besideLocation.dropLast, .directory) ::
      (besideLocation, .directory) ::
      (besideFiles metadata).map fun (file, entry) =>
        (besideLocation ++ [file], entry)
  distinct := by
    simp only [List.map, besideFiles]
    decide +kernel

theorem fetch_eq_of_sameDirectory_beside :
    besideGists.fetch
        (gistBeside (ownerFile "alice") (.file (ownerFile "carol"))).reader
        "g".toList =
      besideGists.fetch
        ((gistBeside (ownerFile "bob") (.file (ownerFile "carol"))).insert
          (besideLocation ++ [.ofText "f.csdl".toList])
          (.file (Utf8.encode "x".toList))).reader
        "g".toList := by
  -- The second tree lists the file of the gist first.
  refine @fetch_eq_of_sameDirectory besideGists "g".toList _ _
    (besideEntries (.file (ownerFile "carol")))
    ((Utf8.encode "f.csdl".toList, .file (Utf8.encode "x".toList)) ::
      (besideEntries (.file (ownerFile "carol"))).take 2)
    ?_ ?_ ?_ ?_
  all_goals decide +kernel

/-- Metadata that are a link are read where the link leads.  Two trees that differ
in nothing but a file beside the gists have the same entries in a gist, and yet
each names the owner that is written in that file. -/
theorem fetch_linked_metadata_reads_outside :
    (gistBeside (ownerFile "alice") linkOut).directoryEntries?
        (besideGists.directoryOf "g".toList) = some (besideEntries linkOut) ∧
      (gistBeside (ownerFile "bob") linkOut).directoryEntries?
        (besideGists.directoryOf "g".toList) = some (besideEntries linkOut) ∧
      (besideGists.fetch (gistBeside (ownerFile "alice") linkOut).reader
        "g".toList).toOption.map Gist.owner = some "alice".toList ∧
      (besideGists.fetch (gistBeside (ownerFile "bob") linkOut).reader
        "g".toList).toOption.map Gist.owner = some "bob".toList := by
  decide +kernel

end GistDirectory

end CsdlHighlight

import CsdlHighlight.Proofs.GistDirectory.Confinement
import CsdlHighlight.Proofs.Text.Utf8
import Mathlib.Data.List.Forall2
import Mathlib.Data.List.Nodup

/-!
Contract: the files that are served from a directory, and what reading all of
them gives.

Owns:
- `IsServed`, the served files of some entries, stated without an order in which
  the entries are listed;
- `FileAnswer` and `FilesAnswer`, the reading of one file and of all;
- the agreement of `readServed` with them.

Does not own: the metadata of a gist.
-/

namespace CsdlHighlight

theorem DiskError.decode_encode (text : Text) :
    decode (.ok (Utf8.encode text)) = .ok text := by
  simp only [decode, Utf8.decode?_encode]

theorem DiskError.decode_of_malformed {bytes : Bytes}
    (noText : ∀ text, bytes ≠ Utf8.encode text) :
    decode (.ok bytes) = .error .notUtf8 := by
  cases decoded : Utf8.decode? bytes with
  | some text => exact absurd (Utf8.decode?_eq_some_iff.mp decoded) (noText text)
  | none => simp only [decode, decoded]

namespace FileTree

variable {tree : FileTree} {directory : Path} {place : Location}
  {name : FileName} {content : Bytes}

theorem noZero_of_resolve {found : Location × Entry}
    (arrives : tree.resolve directory = .ok found) : 0 ∉ directory.bytes := by
  intro zero
  have contains : directory.bytes.contains 0 = true := by simpa using zero
  unfold resolve find follow at arrives
  rw [contains, Bool.not_true, Bool.false_and, if_neg Bool.false_ne_true,
    if_pos rfl] at arrives
  cases arrives

theorem children_distinct (tree : FileTree) (place : Location) :
    ((tree.children place).map Prod.fst).Nodup := by
  have distinct := List.pairwise_map.mp tree.distinct
  unfold List.Nodup
  rw [List.pairwise_map, children, List.pairwise_filterMap]
  refine distinct.imp ?_
  -- Two children with one name would be at one location.
  intro left right differs child isChild other isOther sameName
  obtain ⟨⟨name, valid⟩, inside, rfl⟩ := Option.map_eq_some_iff.mp isChild
  obtain ⟨⟨same, validToo⟩, insideToo, rfl⟩ := Option.map_eq_some_iff.mp isOther
  rw [nameIn?_eq_some_iff] at inside insideToo
  obtain rfl : name = same := sameName
  exact differs (inside.trans insideToo.symm)

/-- The content of a file is read by its name in the directory, unless the whole
path is too long. -/
theorem content_join (openEnded : directory.IsOpenEnded)
    (arrives : tree.resolve directory = .ok (place, .directory))
    (held : tree.entry? (place ++ [name]) = some (.file content)) :
    tree.content (directory.join name.name) =
      if pathLimit < (directory.join name.name).bytes.length then
        .error .nameTooLong
      else
        .ok content := by
  have noZero : (directory.join name.name).bytes.contains 0 = false := by
    rw [Path.join_bytes openEnded]
    simp [noZero_of_resolve arrives, name.valid.noZero, Path.slash]
  -- Of the limits on paths and names, only that on the whole path is left.
  rw [content_eq, entryAt_join openEnded arrives held (by simp), answerIn, noZero]
  by_cases long : pathLimit < (directory.join name.name).bytes.length
  · simp [long, Except.bind]
  · simp [long, Except.bind]

end FileTree

namespace GistDirectory

/-! ## Reading files -/

/-- What reading a file of a gist gives.  A name that is no text is shown with
replacement characters. -/
inductive FileAnswer (directory : Path) (name : Name) (content : Bytes) :
    Except DiskError GistFile → Prop where
  | tooLong
      (long : FileTree.pathLimit < (directory.join name).bytes.length) :
      FileAnswer directory name content (.error .nameTooLong)
  | malformed
      (short : (directory.join name).bytes.length ≤ FileTree.pathLimit)
      (noText : ∀ text, content ≠ Utf8.encode text) :
      FileAnswer directory name content (.error .notUtf8)
  | text {text : Text}
      (short : (directory.join name).bytes.length ≤ FileTree.pathLimit)
      (isText : content = Utf8.encode text) :
      FileAnswer directory name content (.ok ⟨Utf8.repair name, text⟩)

/-- What reading some files of a gist gives: all of them, or else the failure of
the first one that cannot be read. -/
inductive FilesAnswer (directory : Path) (served : List (Name × Bytes)) :
    Except DiskError (List GistFile) → Prop where
  | all {files : List GistFile}
      (reads : List.Forall₂
        (fun entry file => FileAnswer directory entry.1 entry.2 (.ok file))
        served files) :
      FilesAnswer directory served (.ok files)
  | first {front behind : List (Name × Bytes)} {next : Name × Bytes}
      {failure : DiskError} (split : served = front ++ next :: behind)
      (readBefore : ∀ entry ∈ front,
        ∃ file, FileAnswer directory entry.1 entry.2 (.ok file))
      (fails : FileAnswer directory next.1 next.2 (.error failure)) :
      FilesAnswer directory served (.error failure)

theorem exists_fileAnswer (directory : Path) (name : Name) (content : Bytes) :
    ∃ answer, FileAnswer directory name content answer := by
  by_cases long : FileTree.pathLimit < (directory.join name).bytes.length
  · exact ⟨_, .tooLong long⟩
  · have short := Nat.not_lt.mp long
    by_cases isText : ∃ text, content = Utf8.encode text
    · obtain ⟨text, isText⟩ := isText
      exact ⟨_, .text short isText⟩
    · exact ⟨_, .malformed short (not_exists.mp isText)⟩

theorem exists_filesAnswer (directory : Path) (served : List (Name × Bytes)) :
    ∃ answer, FilesAnswer directory served answer := by
  induction served with
  | nil => exact ⟨_, .all .nil⟩
  | cons entry rest inductionHypothesis =>
      obtain ⟨answer, here⟩ := exists_fileAnswer directory entry.1 entry.2
      cases answer with
      | error failure => exact ⟨_, .first (List.nil_append _).symm nofun here⟩
      | ok file =>
          obtain ⟨answers, behind⟩ := inductionHypothesis
          cases behind with
          | all reads => exact ⟨_, .all (.cons here reads)⟩
          | @first front others next failure split readBefore fails =>
              have splitHere : entry :: rest =
                  (entry :: front) ++ next :: others :=
                congrArg (entry :: ·) split
              refine ⟨_, .first splitHere ?_ fails⟩
              intro earlier member
              rcases List.mem_cons.mp member with rfl | inFront
              · exact ⟨file, here⟩
              · exact readBefore earlier inFront

section Reading

variable {tree : FileTree} {directory : Path}

/-- The content of a file is found in the tree by its name, within the limit on
paths. -/
def IsLocated (tree : FileTree) (directory : Path) (entry : Name × Bytes) :
    Prop :=
  tree.content (directory.join entry.1) =
    if FileTree.pathLimit < (directory.join entry.1).bytes.length then
      .error .nameTooLong
    else
      .ok entry.2

theorem readFiles_cons_of_error {entry : Name × Bytes} {failure : DiskError}
    (located : IsLocated tree directory entry)
    (fails : FileAnswer directory entry.1 entry.2 (.error failure))
    (rest : List Name) :
    readFiles tree.reader directory (entry.1 :: rest) =
      pure (.error (.disk failure)) := by
  have read : tree.reader.readText (directory.join entry.1) =
      pure (.error failure) := by
    show pure (DiskError.decode (tree.content (directory.join entry.1))) = _
    rw [located]
    cases fails with
    | tooLong long => rw [if_pos long, DiskError.decode]
    | malformed short noText =>
        rw [if_neg (Nat.not_lt.mpr short), DiskError.decode_of_malformed noText]
  simp only [readFiles, read, pure_bind]

theorem readFiles_cons_of_ok {entry : Name × Bytes} {file : GistFile}
    (located : IsLocated tree directory entry)
    (reads : FileAnswer directory entry.1 entry.2 (.ok file)) {rest : List Name}
    {behind : Except FetchError (List GistFile)}
    (readsBehind : readFiles tree.reader directory rest = pure behind) :
    readFiles tree.reader directory (entry.1 :: rest) =
      pure (behind.map (file :: ·)) := by
  cases reads with
  | @text text short isText =>
      have read : tree.reader.readText (directory.join entry.1) =
          pure (.ok text) := by
        show pure (DiskError.decode (tree.content (directory.join entry.1))) = _
        rw [located, if_neg (Nat.not_lt.mpr short), isText,
          DiskError.decode_encode]
      simp only [readFiles, read, readsBehind, pure_bind]
      cases behind <;> rfl

/-- An answer of `FilesAnswer` is the one that reading the files in their order
gives. -/
theorem FilesAnswer.readFiles_eq {served : List (Name × Bytes)}
    {answer : Except DiskError (List GistFile)}
    (answers : FilesAnswer directory served answer)
    (located : ∀ entry ∈ served, IsLocated tree directory entry) :
    readFiles tree.reader directory (served.map Prod.fst) =
      pure (answer.mapError .disk) := by
  cases answers with
  | all reads =>
      induction reads with
      | nil => rfl
      | cons here behind inductionHypothesis =>
          rw [List.forall_mem_cons] at located
          exact readFiles_cons_of_ok located.1 here
            (inductionHypothesis located.2)
  | @first front behind next failure split readBefore fails =>
      subst split
      induction front with
      | nil =>
          exact readFiles_cons_of_error (located next List.mem_cons_self) fails _
      | cons entry rest inductionHypothesis =>
          rw [List.cons_append, List.forall_mem_cons] at located
          rw [List.forall_mem_cons] at readBefore
          obtain ⟨file, here⟩ := readBefore.1
          exact readFiles_cons_of_ok located.1 here
            (inductionHypothesis readBefore.2 located.2)

end Reading

/-! ## Served files -/

/-- The served files of some entries: each file but the metadata, once, in the
order of the bytes of their names. -/
structure IsServed (entries : List (Name × Entry))
    (served : List (Name × Bytes)) : Prop where
  mem_iff : ∀ name content, (name, content) ∈ served ↔
    (name, .file content) ∈ entries ∧ name ≠ Utf8.encode metadataName
  ascending : (served.map Prod.fst).Pairwise (· < ·)

variable {entries : List (Name × Entry)}

/-- Which files are served, and in which order, does not depend on the order of
the entries. -/
theorem IsServed.unique {served others : List (Name × Bytes)}
    (isServed : IsServed entries served) (isServedToo : IsServed entries others) :
    served = others := by
  have ascending := List.pairwise_map.mp isServed.ascending
  have ascendingToo := List.pairwise_map.mp isServedToo.ascending
  have distinct : ∀ {list : List (Name × Bytes)},
      list.Pairwise (fun left right => left.1 < right.1) → list.Nodup := by
    intro list sorted
    refine sorted.imp ?_
    rintro left right before rfl
    exact List.lt_irrefl _ before
  -- Two ascending lists with the same files are the same list.
  have sameFiles : served.Perm others := by
    rw [List.perm_ext_iff_of_nodup (distinct ascending) (distinct ascendingToo)]
    rintro ⟨name, content⟩
    rw [isServed.mem_iff, isServedToo.mem_iff]
  exact sameFiles.eq_of_pairwise
    (fun _ _ _ _ before after => absurd after (List.lt_asymm before))
    ascending ascendingToo

/-- However a directory is listed, its names are served in the order of their
bytes, each of them once. -/
theorem servedNames_ascending {listed : List (Name × EntryKind)}
    (distinct : (listed.map Prod.fst).Nodup) :
    (servedNames listed).Pairwise (· < ·) := by
  have noTwice : (servedNames listed).Nodup := by
    rw [servedNames, (List.mergeSort_perm _ _).nodup_iff]
    exact distinct.sublist (List.filter_sublist.map Prod.fst)
  refine (servedNames_pairwise listed).imp₂ ?_ noTwice
  intro left right le differs
  by_contra notBefore
  exact differs (List.le_antisymm le (List.not_lt.mp notBefore))

theorem exists_contents {names : List Name}
    (files : ∀ name ∈ names, ∃ content, (name, .file content) ∈ entries) :
    ∃ served : List (Name × Bytes), served.map Prod.fst = names ∧
      ∀ entry ∈ served, (entry.1, .file entry.2) ∈ entries := by
  induction names with
  | nil => exact ⟨[], rfl, nofun⟩
  | cons name rest inductionHypothesis =>
      rw [List.forall_mem_cons] at files
      obtain ⟨content, member⟩ := files.1
      obtain ⟨served, names, members⟩ := inductionHypothesis files.2
      exact ⟨(name, content) :: served, congrArg (name :: ·) names,
        List.forall_mem_cons.mpr ⟨member, members⟩⟩

/-- The names that are read are those of the served files. -/
theorem exists_isServed (distinct : (entries.map Prod.fst).Nodup) :
    ∃ served, IsServed entries served ∧ served.map Prod.fst =
      servedNames (entries.map fun entry => (entry.1, entry.2.kind)) := by
  generalize isListed : (entries.map fun entry => (entry.1, entry.2.kind)) =
    listed
  have sameNames : listed.map Prod.fst = entries.map Prod.fst := by
    rw [← isListed, List.map_map]
    rfl
  have files : ∀ name ∈ servedNames listed,
      ∃ content, (name, .file content) ∈ entries := by
    intro name isServed
    have inListing := (mem_servedNames.mp isServed).1
    rw [← isListed] at inListing
    obtain ⟨⟨held, entry⟩, member, shown⟩ := List.mem_map.mp inListing
    obtain ⟨rfl, isFile⟩ := Prod.mk.inj shown
    cases entry with
    | file content => exact ⟨content, member⟩
    | directory => cases isFile
    | link target => cases isFile
  obtain ⟨served, names, members⟩ := exists_contents files
  refine ⟨served, ⟨?_, ?_⟩, names⟩
  · intro name content
    have inNames : ∀ other, (name, other) ∈ served →
        name ∈ servedNames listed := by
      intro other member
      rw [← names]
      exact List.mem_map_of_mem member
    constructor
    · intro member
      exact ⟨members _ member, (mem_servedNames.mp (inNames _ member)).2⟩
    · rintro ⟨member, notMetadata⟩
      have inListing : (name, EntryKind.file) ∈ listed := by
        rw [← isListed]
        exact List.mem_map.mpr ⟨_, member, rfl⟩
      have isServed := mem_servedNames.mpr ⟨inListing, notMetadata⟩
      rw [← names] at isServed
      obtain ⟨⟨held, other⟩, found, rfl⟩ := List.mem_map.mp isServed
      have same := List.inj_on_of_nodup_map distinct member (members _ found) rfl
      cases same
      exact found
  · rw [names]
    exact servedNames_ascending (sameNames ▸ distinct)

/-- The files of a directory are read as its entries say. -/
theorem readServed_eq {tree : FileTree} {directory : Path}
    {served : List (Name × Bytes)}
    {answer : Except DiskError (List GistFile)}
    (openEnded : directory.IsOpenEnded)
    (there : tree.directoryEntries? directory = some entries)
    (isServed : IsServed entries served)
    (answers : FilesAnswer directory served answer) :
    readServed tree.reader directory = pure (answer.mapError .disk) := by
  have listing := FileTree.list_of_directoryEntries? there
  obtain ⟨place, arrives, rfl⟩ := FileTree.directoryEntries?_eq_some there
  obtain ⟨others, isServedToo, names⟩ :=
    exists_isServed (tree.children_distinct place)
  obtain rfl := isServed.unique isServedToo
  have located : ∀ entry ∈ served, IsLocated tree directory entry := by
    rintro ⟨name, content⟩ member
    have inDirectory := ((isServed.mem_iff name content).mp member).1
    obtain ⟨fileName, rfl, held⟩ := FileTree.mem_children_iff.mp inDirectory
    exact FileTree.content_join openEnded arrives held
  simp only [readServed, listing, pure_bind, ← names]
  exact answers.readFiles_eq located

end GistDirectory

end CsdlHighlight

import CsdlHighlight.FileTree.FileName
import Mathlib.Data.List.Basic

/-!
Contract: a path with a name joined to it takes one step more.

Owns: the parts and the steps of a joined path.

Does not own: what a path leads to.
-/

namespace CsdlHighlight

namespace Bytes

theorem cutAt_ne_nil (separator : UInt8) (bytes : Bytes) :
    cutAt separator bytes ≠ [] := by
  cases bytes with
  | nil => exact List.cons_ne_nil _ _
  | cons byte rest =>
      unfold cutAt
      split
      · exact List.cons_ne_nil _ _
      · split <;> exact List.cons_ne_nil _ _

theorem cutAt_append_separator (separator : UInt8) (left right : Bytes) :
    cutAt separator (left ++ separator :: right) =
      cutAt separator left ++ cutAt separator right := by
  induction left with
  | nil => simp [cutAt]
  | cons byte rest inductionHypothesis =>
      rw [List.cons_append, cutAt, cutAt, inductionHypothesis]
      split
      · rfl
      · cases parts : cutAt separator rest with
        | nil => exact absurd parts (cutAt_ne_nil separator rest)
        | cons part others => rfl

theorem cutAt_of_not_mem {separator : UInt8} {bytes : Bytes}
    (absent : separator ∉ bytes) : cutAt separator bytes = [bytes] := by
  induction bytes with
  | nil => rfl
  | cons byte rest inductionHypothesis =>
      obtain ⟨differs, absentBehind⟩ := not_or.mp (List.mem_cons.not.mp absent)
      rw [cutAt, if_neg (Ne.symm differs), inductionHypothesis absentBehind]

/-- The parts between separators that follow each other at once are empty. -/
theorem cutAt_replicate_append (separator : UInt8) (count : Nat)
    (bytes : Bytes) :
    cutAt separator (List.replicate count separator ++ bytes) =
      List.replicate count [] ++ cutAt separator bytes := by
  induction count with
  | zero => rfl
  | succ count inductionHypothesis =>
      rw [List.replicate_succ, List.cons_append, cutAt, if_pos rfl,
        inductionHypothesis]
      rfl

end Bytes

namespace Path

/-- A path to which names can be joined behind a slash. -/
structure IsOpenEnded (path : Path) : Prop where
  nonempty : path.bytes ≠ []
  noSlashAtEnd : path.endsInSlash = false

variable {path : Path} {name : Name}

theorem join_bytes (openEnded : path.IsOpenEnded) (name : Name) :
    (path.join name).bytes = path.bytes ++ slash :: name := by
  have nonempty : path.bytes.isEmpty = false := by
    simpa using openEnded.nonempty
  simp [join, nonempty, openEnded.noSlashAtEnd]

theorem isAbsolute_join (openEnded : path.IsOpenEnded) (name : Name) :
    (path.join name).isAbsolute = path.isAbsolute := by
  unfold isAbsolute
  rw [join_bytes openEnded, List.head?_append_of_ne_nil _ openEnded.nonempty]

theorem join_bytes_of_endsInSlash (ends : path.endsInSlash = true)
    (name : Name) : (path.join name).bytes = path.bytes ++ name := by
  rw [join, ends, Bool.or_true, if_pos rfl]

theorem stepOf_entryName (entryName : IsEntryName name) :
    stepOf name = .name name := by
  rw [stepOf, if_neg entryName.notHere, if_neg entryName.notUp]

/-- Whatever is put between them, a joined path ends in the name. -/
theorem exists_join_bytes (path : Path) (name : Name) :
    ∃ front, (path.join name).bytes = front ++ name := by
  unfold join
  split
  · exact ⟨path.bytes, rfl⟩
  · exact ⟨path.bytes ++ [slash], by simp⟩

theorem isOpenEnded_join (path : Path) (entryName : IsEntryName name) :
    (path.join name).IsOpenEnded := by
  obtain ⟨front, joined⟩ := exists_join_bytes path name
  constructor
  · rw [joined]
    exact List.append_ne_nil_of_right_ne_nil _ entryName.nonempty
  · have last : (front ++ name).getLast? = some (name.getLast entryName.nonempty) := by
      rw [List.getLast?_append_of_ne_nil _ entryName.nonempty,
        List.getLast?_eq_some_getLast entryName.nonempty]
    unfold endsInSlash
    rw [joined, last, beq_eq_false_iff_ne]
    intro isSlash
    exact entryName.noSlash
      (Option.some.inj isSlash ▸ List.getLast_mem entryName.nonempty)

/-- Joining a name to a path adds one step. -/
theorem steps_join (openEnded : path.IsOpenEnded)
    (entryName : IsEntryName name) :
    (path.join name).steps = path.steps ++ [.name name] := by
  have kept : (!name.isEmpty) = true := by simpa using entryName.nonempty
  unfold steps
  rw [(isOpenEnded_join path entryName).noSlashAtEnd, openEnded.noSlashAtEnd,
    join_bytes openEnded, Bytes.cutAt_append_separator,
    Bytes.cutAt_of_not_mem entryName.noSlash, List.filter_append,
    List.map_append]
  simp [kept, stepOf_entryName entryName]

/-- A slash behind a slash makes no step. -/
theorem steps_slashes (front : Bytes) (count : Nat) (openEnded :
    (⟨front ++ List.replicate (count + 1) slash ++ name⟩ : Path).IsOpenEnded)
    (entryName : IsEntryName name) :
    (⟨front ++ List.replicate (count + 1) slash ++ name⟩ : Path).steps =
      (((Bytes.cutAt slash front).filter fun part => !part.isEmpty).map stepOf) ++
        [.name name] := by
  have kept : (!name.isEmpty) = true := by simpa using entryName.nonempty
  have parts : Bytes.cutAt slash
      (front ++ List.replicate (count + 1) slash ++ name) =
        Bytes.cutAt slash front ++ (List.replicate count [] ++ [name]) := by
    rw [List.replicate_succ, List.append_assoc, List.cons_append,
      Bytes.cutAt_append_separator, Bytes.cutAt_replicate_append,
      Bytes.cutAt_of_not_mem entryName.noSlash]
  unfold steps
  rw [openEnded.noSlashAtEnd, parts]
  simp [kept, stepOf_entryName entryName]

end Path

end CsdlHighlight

import CsdlHighlight.Proofs.Toml.Quotation
import CsdlHighlight.Toml.Document
import Mathlib.Algebra.BigOperators.Group.List.Basic

/-!
Contract: a document of lines, each with a bare key and a plain value, is read
as these keys with their values.

Owns:
- `Plain`, the values that need no brackets, and how they are written;
- one line as a statement, and the statements of all lines;
- the pairs of a document whose keys are distinct.

Does not own: which keys a document has.
-/

namespace CsdlHighlight.Toml

theorem skipBlanks_space (text : Text) :
    skipBlanks (' ' :: text) = skipBlanks text :=
  rfl

theorem skipBlanks_cons {first : Char} (noBlank : isLineBlank first = false)
    (text : Text) : skipBlanks (first :: text) = first :: text := by
  rw [skipBlanks, List.dropWhile_cons, if_neg (by simp [noBlank])]

/-! ## Values -/

/-- A value that is one token: a text or a truth value. -/
inductive Plain where
  | text (content : Text)
  | flag (value : Bool)
deriving DecidableEq, Repr

namespace Plain

def write : Plain → Text
  | .text content => quote content
  | .flag value => if value then "true".toList else "false".toList

def value : Plain → Value
  | .text content => .text content
  | .flag value => .boolean value

/-- The token of a value as it is cut out of a document. -/
def written : Plain → WrittenValue
  | .text content => .string (write (.text content))
  | .flag value => .scalar (write (.flag value))

theorem meaning_written (plain : Plain) :
    plain.written.meaning = .ok plain.value := by
  cases plain with
  | text content =>
      rw [written, WrittenValue.meaning, write, unquote?_quote]
      rfl
  | flag value => cases value <;> rfl

theorem isBounded_value (plain : Plain) : plain.value.isBounded = true := by
  cases plain <;> rfl

/-- A token begins neither with a bracket or a brace nor with a blank. -/
theorem exists_write_cons (plain : Plain) : ∃ first behind,
    plain.write = first :: behind ∧ first ≠ '[' ∧ first ≠ '{' ∧
      isLineBlank first = false := by
  cases plain with
  | text content =>
      have opens : ∀ quotation : Quotation, quotation.quote ≠ '[' ∧
          quotation.quote ≠ '{' ∧ isLineBlank quotation.quote = false := by
        intro quotation
        cases quotation <;> decide
      obtain ⟨behind, written⟩ := Quotation.exists_write_cons
        (Quotation.choose content) content
      exact ⟨_, behind, written, opens _⟩
  | flag value => cases value <;> exact ⟨_, _, rfl, by decide⟩

theorem readToken_write (plain : Plain) (rest : Text) :
    readToken (plain.write ++ '\n' :: rest) =
      some (plain.written, '\n' :: rest) := by
  cases plain with
  | text content =>
      have unquoted : IsUnquoted ('\n' :: rest) := by
        constructor <;> simp
      rw [write, readToken, cutString?_quote content unquoted]
      rfl
  | flag value => cases value <;> rfl

theorem readValue_eq_readToken {text : Text} (noArray : text.head? ≠ some '[')
    (noTable : text.head? ≠ some '{') (fuel depth : Nat) :
    readValue (fuel + 1) depth text = readToken text := by
  rw [readValue]
  · rintro rest rfl
    exact noArray rfl
  · rintro rest rfl
    exact noTable rfl

/-- A value is read to the end of its line. -/
theorem readValue_write (plain : Plain) (fuel depth : Nat) (rest : Text) :
    readValue (fuel + 1) depth
        (skipBlanks (' ' :: (plain.write ++ '\n' :: rest))) =
      some (plain.written, '\n' :: rest) := by
  have token := readToken_write plain rest
  obtain ⟨first, behind, starts, noArray, noTable, noBlank⟩ :=
    exists_write_cons plain
  rw [starts, List.cons_append] at token ⊢
  rw [skipBlanks_space, skipBlanks_cons noBlank,
    readValue_eq_readToken _ _ fuel depth, token]
  · simpa using noArray
  · simpa using noTable

end Plain

/-! ## Keys -/

/-- A character of a key without quotes begins nothing else in a document. -/
theorem ne_of_isBareChar {character : Char}
    (bare : isBareChar character = true) :
    character ≠ '.' ∧ character ≠ '=' ∧ character ≠ ',' ∧ character ≠ '[' ∧
      character ≠ ']' ∧ character ≠ '{' ∧ character ≠ '}' ∧
      character ≠ ' ' ∧ character ≠ '\t' ∧ character ≠ '#' ∧
      character ≠ '\r' ∧ character ≠ '\n' ∧ character ≠ '"' ∧
      character ≠ '\'' ∧ character ≠ '\uFEFF' := by
  refine ⟨?_, ?_, ?_, ?_, ?_, ?_, ?_, ?_, ?_, ?_, ?_, ?_, ?_, ?_, ?_⟩
  all_goals
    rintro rfl
    exact absurd bare (by decide)

structure IsBareKey (key : Text) : Prop where
  nonempty : key ≠ []
  bare : ∀ character ∈ key, isBareChar character = true

namespace IsBareKey

variable {key : Text}

theorem exists_cons (isBare : IsBareKey key) :
    ∃ first behind, key = first :: behind ∧ isBareChar first = true := by
  cases key with
  | nil => exact absurd rfl isBare.nonempty
  | cons first behind =>
      exact ⟨first, behind, rfl, isBare.bare first List.mem_cons_self⟩

theorem keyPart?_eq (isBare : IsBareKey key) : keyPart? key = some key := by
  obtain ⟨first, behind, rfl, bareFirst⟩ := isBare.exists_cons
  have distinct := ne_of_isBareChar bareFirst
  have all : (first :: behind).all isBareChar = true :=
    List.all_eq_true.mpr isBare.bare
  simp [keyPart?, distinct, all]

theorem isAtomChar_of_mem (isBare : IsBareKey key) {character : Char}
    (member : character ∈ key) : isAtomChar character = true := by
  have distinct := ne_of_isBareChar (isBare.bare character member)
  simp [isAtomChar, distinct]

theorem cutKeyPart_eq (isBare : IsBareKey key) (rest : Text) :
    cutKeyPart (key ++ ' ' :: rest) = (key, ' ' :: rest) := by
  have atoms : ∀ character ∈ key, isAtomChar character = true :=
    fun _ member => isBare.isAtomChar_of_mem member
  have noString : cutString? (key ++ ' ' :: rest) = none := by
    obtain ⟨first, behind, rfl, bareFirst⟩ := isBare.exists_cons
    have distinct := ne_of_isBareChar bareFirst
    simp [cutString?, distinct]
  have taken : (key ++ ' ' :: rest).takeWhile isAtomChar = key := by
    rw [List.takeWhile_append_of_pos atoms]
    exact List.append_nil key
  have left : (key ++ ' ' :: rest).dropWhile isAtomChar = ' ' :: rest := by
    rw [List.dropWhile_append_of_pos atoms]
    rfl
  rw [cutKeyPart, noString, Option.none_or, cutAtom?, taken, left,
    if_neg (by simpa using isBare.nonempty)]
  rfl

/-- A key is cut with the blank behind it. -/
theorem cutKey_eq (isBare : IsBareKey key) {fuel : Nat} (steps : 0 < fuel)
    (rest : Text) :
    cutKey fuel (key ++ ' ' :: '=' :: rest) = (⟨[], key⟩, '=' :: rest) := by
  obtain ⟨less, rfl⟩ := Nat.exists_eq_add_one_of_ne_zero (Nat.ne_of_gt steps)
  have noBlank : skipBlanks (key ++ ' ' :: '=' :: rest) =
      key ++ ' ' :: '=' :: rest := by
    obtain ⟨first, behind, rfl, bareFirst⟩ := isBare.exists_cons
    have distinct := ne_of_isBareChar bareFirst
    exact skipBlanks_cons (by simp [isLineBlank, distinct]) _
  rw [cutKey, noBlank, isBare.cutKeyPart_eq]
  rfl

end IsBareKey

/-! ## Lines -/

def plainLine (entry : Text × Plain) : Text :=
  entry.1 ++ " = ".toList ++ entry.2.write ++ ['\n']

def plainStatement (entry : Text × Plain) : Statement :=
  .pair ⟨[], entry.1⟩ entry.2.written

/-- A line is read as its statement, up to its newline. -/
theorem read_plainLine {entry : Text × Plain} (isBare : IsBareKey entry.1)
    (fuel : Nat) (rest : Text) :
    Statement.read (fuel + 1) (plainLine entry ++ rest) =
      some (plainStatement entry, '\n' :: rest) := by
  obtain ⟨key, plain⟩ := entry
  have shape : plainLine (key, plain) ++ rest =
      key ++ ' ' :: '=' :: ' ' :: (plain.write ++ '\n' :: rest) := by
    simp [plainLine]
  have notHeader : Statement.read (fuel + 1) (plainLine (key, plain) ++ rest) =
      Statement.readPair (fuel + 1) (plainLine (key, plain) ++ rest) := by
    rw [shape]
    obtain ⟨first, behind, rfl, bareFirst⟩ := isBare.exists_cons
    have distinct := ne_of_isBareChar bareFirst
    simp [Statement.read, distinct]
  have steps : 0 < (key ++ ' ' :: '=' :: ' ' ::
      (plain.write ++ '\n' :: rest)).length := by
    simp only [List.length_append, List.length_cons]
    omega
  rw [notHeader, shape, Statement.readPair, isBare.cutKey_eq steps]
  simp only [plain.readValue_write]
  rfl

/-! ## Documents -/

section Documents

variable {entries : List (Text × Plain)}

/-- Lines begin with a key, or there are none. -/
theorem plainLines_shape (bare : ∀ entry ∈ entries, IsBareKey entry.1) :
    entries.flatMap plainLine = [] ∨
      ∃ first behind, entries.flatMap plainLine = first :: behind ∧
        isBareChar first = true := by
  cases entries with
  | nil => exact .inl rfl
  | cons entry rest =>
      obtain ⟨first, behind, starts, bareFirst⟩ :=
        (bare entry List.mem_cons_self).exists_cons
      refine .inr ⟨first, behind ++ (" = ".toList ++
        (entry.2.write ++ '\n' :: rest.flatMap plainLine)), ?_, bareFirst⟩
      simp [plainLine, starts]

theorem skipFiller_plainLines (bare : ∀ entry ∈ entries, IsBareKey entry.1) :
    skipFiller false (entries.flatMap plainLine) =
      some (entries.flatMap plainLine) := by
  rcases plainLines_shape bare with none | ⟨first, behind, starts, bareFirst⟩
  · rw [none]
    rfl
  · have distinct := ne_of_isBareChar bareFirst
    rw [starts]
    simp [skipFiller, isLineBlank, distinct]

theorem withoutMark_plainLines (bare : ∀ entry ∈ entries, IsBareKey entry.1) :
    Statement.withoutMark (entries.flatMap plainLine) =
      entries.flatMap plainLine := by
  rcases plainLines_shape bare with none | ⟨first, behind, starts, bareFirst⟩
  · rw [none]
    rfl
  · have noMark : first.toNat ≠ 0xFEFF := by
      intro same
      have isMark : first = '\uFEFF' := Char.toNat_inj.mp same
      rw [isMark] at bareFirst
      cases bareFirst
    rw [starts, Statement.withoutMark, if_neg noMark]

/-- Each line takes one step, and one more is left for the value of the last
one. -/
theorem readLines_plainLines (bare : ∀ entry ∈ entries, IsBareKey entry.1)
    {fuel : Nat} (enough : entries.length < fuel) :
    Statement.readLines fuel (entries.flatMap plainLine) =
      some (entries.map plainStatement) := by
  induction entries generalizing fuel with
  | nil => cases fuel <;> rfl
  | cons entry rest inductionHypothesis =>
      obtain ⟨bareHere, bareBehind⟩ := List.forall_mem_cons.mp bare
      obtain ⟨less, rfl⟩ : ∃ less, fuel = less + 2 :=
        ⟨fuel - 2, by simp only [List.length_cons] at enough; omega⟩
      have behind := inductionHypothesis bareBehind
        (show rest.length < less + 1 by simpa using enough)
      have here := read_plainLine bareHere less (rest.flatMap plainLine)
      have lineEnd : skipLineEnd ('\n' :: rest.flatMap plainLine) =
          some (rest.flatMap plainLine) :=
        skipFiller_plainLines bareBehind
      rw [List.flatMap_cons, Statement.readLines, here, Option.bind_some]
      · simp only [lineEnd, Option.bind_some, behind, Option.map_some,
          List.map_cons]
      · simp [plainLine]

/-- Lines with bare keys and plain values are read back as the statements they
were made from. -/
theorem readAll?_plainLines (bare : ∀ entry ∈ entries, IsBareKey entry.1) :
    Statement.readAll? (entries.flatMap plainLine) =
      some (entries.map plainStatement) := by
  have enough : entries.length ≤ (entries.flatMap plainLine).length := by
    have each : ∀ length ∈ entries.map fun entry => (plainLine entry).length,
        1 ≤ length := by
      rintro _ member
      obtain ⟨entry, -, rfl⟩ := List.mem_map.mp member
      simp only [plainLine, List.length_append, List.length_singleton]
      omega
    have sum := List.length_le_sum_of_one_le _ each
    rwa [List.length_map, ← List.length_flatMap] at sum
  rw [Statement.readAll?, withoutMark_plainLines bare,
    skipFiller_plainLines bare, Option.bind_some,
    readLines_plainLines bare (by omega)]

/-- A pair of a new key and a value is put behind the pairs before it. -/
theorem add_plainStatement {entry : Text × Plain} (isBare : IsBareKey entry.1)
    {before : Pairs} (new : entry.1 ∉ before.map Prod.fst) :
    Draft.add ⟨before, []⟩ (plainStatement entry) =
      .ok ⟨before ++ [(entry.1, entry.2.value)], []⟩ := by
  have key : WrittenKey.meaning ⟨[], entry.1⟩ = .ok ([], entry.1) := by
    rw [WrittenKey.meaning, isBare.keyPart?_eq]
    rfl
  have notFound : before.find? entry.1 = none := by
    rw [Pairs.find?, List.lookup_eq_none_iff]
    intro pair member
    refine bne_iff_ne.mpr fun same => ?_
    exact new (List.mem_map.mpr ⟨pair, member, same.symm⟩)
  have inserted : before.insertAt [] [] entry.1 entry.2.value =
      some (before ++ [(entry.1, entry.2.value)]) := by
    simp [Pairs.insertAt, Pairs.alter, Pairs.insert, notFound]
  rw [plainStatement, Draft.add, key]
  simp only [Except.bind, entry.2.meaning_written, inserted]
  rfl

def plainPairs (entries : List (Text × Plain)) : Pairs :=
  entries.map fun entry => (entry.1, entry.2.value)

/-- Statements with different keys are all accepted. -/
theorem addAll_plainStatements (bare : ∀ entry ∈ entries, IsBareKey entry.1)
    {before : Pairs}
    (distinct : (before.map Prod.fst ++ entries.map Prod.fst).Nodup) :
    Draft.addAll ⟨before, []⟩ (entries.map plainStatement) =
      .ok ⟨before ++ plainPairs entries, []⟩ := by
  induction entries generalizing before with
  | nil => simp [Draft.addAll, plainPairs]
  | cons entry rest inductionHypothesis =>
      obtain ⟨bareHere, bareBehind⟩ := List.forall_mem_cons.mp bare
      have new : entry.1 ∉ before.map Prod.fst := by
        intro old
        exact (List.nodup_append.mp distinct).2.2 _ old _
          List.mem_cons_self rfl
      rw [List.map_cons, Draft.addAll, add_plainStatement bareHere new]
      have distinctBehind :
          ((before ++ [(entry.1, entry.2.value)]).map Prod.fst ++
            rest.map Prod.fst).Nodup := by
        simpa using distinct
      have behind := inductionHypothesis bareBehind distinctBehind
      simpa [plainPairs, Except.bind] using behind

theorem arePairsBounded_plainPairs (entries : List (Text × Plain)) :
    arePairsBounded (plainPairs entries) = true := by
  induction entries with
  | nil => rfl
  | cons entry rest inductionHypothesis =>
      simp only [plainPairs, List.map_cons, arePairsBounded,
        entry.2.isBounded_value, Bool.true_and]
      exact inductionHypothesis

/-- A document of lines is read as their keys with their values. -/
theorem readDocument_plainLines (bare : ∀ entry ∈ entries, IsBareKey entry.1)
    (distinct : (entries.map Prod.fst).Nodup) :
    readDocument (entries.flatMap plainLine) = .ok (plainPairs entries) := by
  have noneBefore : (([] : Pairs).map Prod.fst ++ entries.map Prod.fst).Nodup :=
    distinct
  have added := addAll_plainStatements bare noneBefore
  rw [readDocument, readAll?_plainLines bare]
  simp only [ReadError.require, Except.bind, Draft.empty, added,
    List.nil_append, arePairsBounded_plainPairs, if_true]

end Documents

end CsdlHighlight.Toml

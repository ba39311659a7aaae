import CsdlHighlight.Proofs.Classification.Partition

/-!
Contract: which escapes of a run are reported, and when it matters which of the
two is looked for first.

Owns:
- the occurrences of an escape in two texts put together, and in a text from
  which another escape has been taken out;
- `Joins`, a removal that puts a new escape together;
- `Expansion.IsSeparate`, the runs in which no removal can do that;
- the escapes reported for the runs of a text.

Does not own: the cut of a text into runs.
-/

namespace CsdlHighlight

/-- The two characters of the escape with a letter. -/
def escapeOf (letter : Char) : Text :=
  ['\\', letter]

/-- Taking the first escape out of a run puts a backslash in front of a
letter. -/
def Joins (escape : Text) (letter : Char) (run : Text) : Prop :=
  ∃ before after, Text.IsFirstCut escape run before after ∧
    ['\\'] <:+ before ∧ [letter] <+: after

/-- An escape between a backslash and a letter. -/
def junction (inner outer : Char) : Text :=
  '\\' :: escapeOf inner ++ [outer]

/-! ## Occurrences of an escape -/

/-- An escape in two texts put together is in one of them, or its two characters
meet where they were put together. -/
theorem escapeOf_infix_append {letter : Char} {left right : Text} :
    escapeOf letter <:+: left ++ right ↔
      escapeOf letter <:+: left ∨ escapeOf letter <:+: right ∨
        ['\\'] <:+ left ∧ [letter] <+: right := by
  rw [List.infix_append_iff_ne_nil]
  refine or_congr_right (or_congr_right ?_)
  -- An escape has two characters, so one stands on each side.
  constructor
  · rintro ⟨front, back, frontNonempty, backNonempty, whole, ends, starts⟩
    have lengths := congrArg List.length whole
    have frontPositive := List.length_pos_iff.mpr frontNonempty
    have backPositive := List.length_pos_iff.mpr backNonempty
    simp only [escapeOf, List.length_cons, List.length_nil,
      List.length_append] at lengths
    obtain ⟨first, rfl⟩ := List.length_eq_one_iff.mp
      (show front.length = 1 by omega)
    obtain ⟨second, rfl⟩ := List.length_eq_one_iff.mp
      (show back.length = 1 by omega)
    obtain ⟨rfl, rfl⟩ : '\\' = first ∧ letter = second := by
      simpa [escapeOf] using whole
    exact ⟨ends, starts⟩
  · rintro ⟨ends, starts⟩
    exact ⟨['\\'], [letter], List.cons_ne_nil _ _, List.cons_ne_nil _ _, rfl,
      ends, starts⟩

section TwoEscapes

variable {first second : Char} (firstLetter : first ≠ '\\')
  (secondLetter : second ≠ '\\') (different : first ≠ second)
  {run before after : Text}

include firstLetter in
theorem isFirstCut_escapeOf_iff :
    Text.IsFirstCut (escapeOf first) run before after ↔
      run = before ++ escapeOf first ++ after ∧
        ¬ escapeOf first <:+: before := by
  constructor
  · intro cut
    refine ⟨cut.whole, ?_⟩
    rintro ⟨front, behind, split⟩
    have earlier : run = front ++ escapeOf first ++
        (behind ++ escapeOf first ++ after) := by
      rw [cut.whole, ← split]
      simp
    have notEarlier := cut.first _ _ earlier
    have lengths := congrArg List.length split
    simp only [List.length_append, escapeOf, List.length_cons,
      List.length_nil] at lengths
    omega
  · rintro ⟨whole, noneBefore⟩
    refine ⟨whole, ?_⟩
    intro otherBefore otherAfter otherWhole
    by_contra shorter
    rw [whole, List.append_assoc, List.append_assoc] at otherWhole
    rcases List.append_eq_append_iff.mp otherWhole with
      ⟨between, longer, -⟩ | ⟨between, split, meets⟩
    · rw [longer, List.length_append] at shorter
      omega
    · -- An earlier occurrence would overlap this one or stand in front of it.
      match between, split, meets with
      | [], split, _ =>
          rw [split, List.append_nil] at shorter
          exact shorter (Nat.le_refl _)
      | [_], _, meets =>
          have overlaps : first = '\\' := by
            simpa [escapeOf] using (List.cons.inj (List.cons.inj meets).2).1
          exact firstLetter overlaps
      | one :: two :: rest, split, meets =>
          obtain ⟨rfl, behind⟩ := List.cons.inj meets
          obtain ⟨rfl, -⟩ := List.cons.inj behind
          exact noneBefore ⟨otherBefore, rest, by simp [split, escapeOf]⟩

include firstLetter secondLetter different in
theorem escapeOf_infix_around :
    escapeOf second <:+: before ++ escapeOf first ++ after ↔
      escapeOf second <:+: before ∨ escapeOf second <:+: after := by
  have notInside : ¬ escapeOf second <:+: escapeOf first := by
    intro inside
    have same := inside.eq_of_length rfl
    have sameLetter : second = first := by simpa [escapeOf] using same
    exact different sameLetter.symm
  have notBehind : ¬ ['\\'] <:+ escapeOf first := by
    rw [List.singleton_suffix_iff_getLast?_eq_some]
    intro last
    exact firstLetter (Option.some.inj last)
  have notBefore : ¬ [second] <+: escapeOf first ++ after := by
    intro starts
    exact secondLetter (List.cons_prefix_cons.mp starts).1
  rw [List.append_assoc, escapeOf_infix_append, escapeOf_infix_append]
  simp only [notInside, notBehind, notBefore, false_or, false_and, and_false,
    or_false]

include firstLetter secondLetter different in
/-- With one escape taken out, the other one is found where it was, or where the
removal has put it together. -/
theorem escapeOf_infix_eraseFirst :
    escapeOf second <:+: Text.eraseFirst (escapeOf first) run ↔
      escapeOf second <:+: run ∨ Joins (escapeOf first) second run := by
  by_cases present : escapeOf first <:+: run
  · obtain ⟨before, after, cut, erased⟩ := Text.eraseFirst_of_isInfix present
    have joins : Joins (escapeOf first) second run ↔
        ['\\'] <:+ before ∧ [second] <+: after := by
      constructor
      · rintro ⟨_, _, otherCut, joined⟩
        obtain ⟨rfl, rfl⟩ := cut.unique otherCut
        exact joined
      · intro joined
        exact ⟨before, after, cut, joined⟩
    rw [erased, escapeOf_infix_append, joins, cut.whole,
      escapeOf_infix_around firstLetter secondLetter different, or_assoc]
  · have noJoin : ¬ Joins (escapeOf first) second run := by
      rintro ⟨_, _, cut, -⟩
      exact present cut.isInfix
    rw [Text.eraseFirst_of_not_isInfix present]
    simp only [noJoin, or_false]

theorem isInfix_of_joined (ends : ['\\'] <:+ before) (starts : [second] <+: after)
    (whole : run = before ++ escapeOf first ++ after) :
    junction first second <:+: run := by
  obtain ⟨front, rfl⟩ := ends
  obtain ⟨behind, rfl⟩ := starts
  exact ⟨front, behind, by simp [whole, junction]⟩

theorem not_joins_of_apart (apart : ¬ junction first second <:+: run) :
    ¬ Joins (escapeOf first) second run := by
  rintro ⟨before, after, cut, ends, starts⟩
  exact apart (isInfix_of_joined ends starts cut.whole)

include firstLetter different in
/-- Of two escapes in a run, the one that is cut out further left ends in front
of the other. -/
theorem exists_between_cuts {otherBefore otherAfter : Text}
    (whole : run = before ++ escapeOf first ++ after)
    (otherWhole : run = otherBefore ++ escapeOf second ++ otherAfter)
    (earlier : before.length ≤ otherBefore.length) :
    ∃ between, otherBefore = before ++ escapeOf first ++ between ∧
      after = between ++ escapeOf second ++ otherAfter := by
  have sameWhole := whole.symm.trans otherWhole
  rw [List.append_assoc, List.append_assoc] at sameWhole
  obtain ⟨more, longer, meets⟩ : ∃ more, otherBefore = before ++ more ∧
      escapeOf first ++ after = more ++ (escapeOf second ++ otherAfter) := by
    rcases List.append_eq_append_iff.mp sameWhole with found | found
    · exact found
    · obtain ⟨more, shorter, meets⟩ := found
      have lengths := congrArg List.length shorter
      rw [List.length_append] at lengths
      obtain rfl : more = [] := List.length_eq_zero_iff.mp (by omega)
      exact ⟨[], by simp [shorter], by simp [meets]⟩
  match more, longer, meets with
  | [], _, meets =>
      have sameLetter : first = second := by
        simpa [escapeOf] using (List.cons.inj (List.cons.inj meets).2).1
      exact absurd sameLetter different
  | [_], _, meets =>
      have overlaps : first = '\\' := by
        simpa [escapeOf] using (List.cons.inj (List.cons.inj meets).2).1
      exact absurd overlaps firstLetter
  | _ :: _ :: between, longer, meets =>
      obtain ⟨rfl, behind⟩ := List.cons.inj meets
      obtain ⟨rfl, rest⟩ := List.cons.inj behind
      exact ⟨between, by simp [longer, escapeOf], by simpa using rest⟩

include firstLetter secondLetter different in
/-- Where both escapes occur, and the one that comes first does not stand in a
junction, it makes no difference which is taken out first. -/
theorem eraseFirst_comm_of_le {otherBefore otherAfter : Text}
    (apart : ¬ junction first second <:+: run)
    (cut : Text.IsFirstCut (escapeOf first) run before after)
    (otherCut : Text.IsFirstCut (escapeOf second) run otherBefore otherAfter)
    (earlier : before.length ≤ otherBefore.length) :
    Text.eraseFirst (escapeOf second) (Text.eraseFirst (escapeOf first) run) =
      Text.eraseFirst (escapeOf first)
        (Text.eraseFirst (escapeOf second) run) := by
  obtain ⟨between, rfl, rfl⟩ := exists_between_cuts firstLetter different
    cut.whole otherCut.whole earlier
  obtain ⟨whole, noFirst⟩ := (isFirstCut_escapeOf_iff firstLetter).mp cut
  obtain ⟨-, noSecond⟩ := (isFirstCut_escapeOf_iff secondLetter).mp otherCut
  rw [escapeOf_infix_around firstLetter secondLetter different,
    not_or] at noSecond
  have noSecondJoined : ¬ escapeOf second <:+: before ++ between := by
    rw [escapeOf_infix_append]
    rintro (inFront | behind | ⟨ends, starts⟩)
    · exact noSecond.1 inFront
    · exact noSecond.2 behind
    · refine apart (isInfix_of_joined ends (starts.trans ?_) whole)
      rw [List.append_assoc]
      exact List.prefix_append _ _
  -- What each removal leaves is cut around the other escape as before.
  have secondLast : Text.IsFirstCut (escapeOf second)
      (before ++ (between ++ escapeOf second ++ otherAfter))
      (before ++ between) otherAfter :=
    (isFirstCut_escapeOf_iff secondLetter).mpr ⟨by simp, noSecondJoined⟩
  have firstLast : Text.IsFirstCut (escapeOf first)
      (before ++ escapeOf first ++ between ++ otherAfter)
      before (between ++ otherAfter) :=
    (isFirstCut_escapeOf_iff firstLetter).mpr ⟨by simp, noFirst⟩
  rw [cut.eraseFirst_eq, secondLast.eraseFirst_eq, otherCut.eraseFirst_eq,
    firstLast.eraseFirst_eq, List.append_assoc]

include firstLetter secondLetter different in
/-- Where neither escape can come out of taking the other away, the order in
which they are taken out makes no difference. -/
theorem eraseFirst_comm (apart : ¬ junction first second <:+: run)
    (apartToo : ¬ junction second first <:+: run) :
    Text.eraseFirst (escapeOf second) (Text.eraseFirst (escapeOf first) run) =
      Text.eraseFirst (escapeOf first)
        (Text.eraseFirst (escapeOf second) run) := by
  have secondKept : escapeOf second <:+: Text.eraseFirst (escapeOf first) run ↔
      escapeOf second <:+: run := by
    rw [escapeOf_infix_eraseFirst firstLetter secondLetter different,
      or_iff_left (not_joins_of_apart apart)]
  have firstKept : escapeOf first <:+: Text.eraseFirst (escapeOf second) run ↔
      escapeOf first <:+: run := by
    rw [escapeOf_infix_eraseFirst secondLetter firstLetter different.symm,
      or_iff_left (not_joins_of_apart apartToo)]
  by_cases hasFirst : escapeOf first <:+: run
  · by_cases hasSecond : escapeOf second <:+: run
    · obtain ⟨before, after, cut, -⟩ := Text.eraseFirst_of_isInfix hasFirst
      obtain ⟨otherBefore, otherAfter, otherCut, -⟩ :=
        Text.eraseFirst_of_isInfix hasSecond
      -- Whichever stands further left is taken out first.
      rcases Nat.le_total before.length otherBefore.length with le | le
      · exact eraseFirst_comm_of_le firstLetter secondLetter different apart
          cut otherCut le
      · exact (eraseFirst_comm_of_le secondLetter firstLetter different.symm
          apartToo otherCut cut le).symm
    · rw [Text.eraseFirst_of_not_isInfix hasSecond,
        Text.eraseFirst_of_not_isInfix (mt secondKept.mp hasSecond)]
  · rw [Text.eraseFirst_of_not_isInfix hasFirst,
      Text.eraseFirst_of_not_isInfix (mt firstKept.mp hasFirst)]

end TwoEscapes

/-! ## The escapes of a run -/

theorem letter_ne_backslash : 'n' ≠ '\\' ∧ 't' ≠ '\\' ∧ 'n' ≠ 't' := by
  decide

namespace Expansion

/-- The expansion of a run that looks for the tab escape first. -/
def ofRunTabFirst (run : Text) : Expansion :=
  let withoutTab := Text.eraseFirst tabEscape run
  { lineBreak := Text.occurs lineBreakEscape withoutTab
    tab := Text.occurs tabEscape run
    word := Text.eraseFirst lineBreakEscape withoutTab }

/-- A run in which neither escape stands between a backslash and the letter of
the other one. -/
structure IsSeparate (run : Text) : Prop where
  noBreakInside : ¬ junction 'n' 't' <:+: run
  noTabInside : ¬ junction 't' 'n' <:+: run

variable {run : Text}

/-- The line break is looked for first, so it is found exactly if it is
there. -/
theorem lineBreak_ofRun_iff :
    (ofRun run).lineBreak = true ↔ lineBreakEscape <:+: run :=
  Text.occurs_iff

/-- A tab is reported for a tab escape of the run, and for one that is only put
together when the line break escape is taken out. -/
theorem tab_ofRun_iff :
    (ofRun run).tab = true ↔
      tabEscape <:+: run ∨ Joins lineBreakEscape 't' run := by
  obtain ⟨breakLetter, tabLetter, different⟩ := letter_ne_backslash
  have found : (ofRun run).tab = true ↔
      tabEscape <:+: Text.eraseFirst lineBreakEscape run := Text.occurs_iff
  rw [found]
  exact escapeOf_infix_eraseFirst breakLetter tabLetter different

/-- The tab is found exactly if it is there, unless the two escapes meet. -/
theorem IsSeparate.tab_iff (separate : IsSeparate run) :
    (ofRun run).tab = true ↔ tabEscape <:+: run := by
  have noJoin : ¬ Joins lineBreakEscape 't' run :=
    not_joins_of_apart separate.noBreakInside
  rw [tab_ofRun_iff, or_iff_left noJoin]

/-- Where the escapes do not meet, the order in which they are looked for makes
no difference. -/
theorem IsSeparate.ofRunTabFirst_eq (separate : IsSeparate run) :
    ofRunTabFirst run = ofRun run := by
  obtain ⟨breakLetter, tabLetter, different⟩ := letter_ne_backslash
  have sameTab : (ofRunTabFirst run).tab = (ofRun run).tab := by
    rw [Bool.eq_iff_iff, separate.tab_iff]
    exact Text.occurs_iff
  have sameBreak : (ofRunTabFirst run).lineBreak = (ofRun run).lineBreak := by
    have noJoin : ¬ Joins tabEscape 'n' run :=
      not_joins_of_apart separate.noTabInside
    have found : (ofRunTabFirst run).lineBreak = true ↔
        lineBreakEscape <:+: Text.eraseFirst tabEscape run := Text.occurs_iff
    have kept : lineBreakEscape <:+: Text.eraseFirst tabEscape run ↔
        lineBreakEscape <:+: run ∨ Joins tabEscape 'n' run :=
      escapeOf_infix_eraseFirst tabLetter breakLetter different.symm
    rw [Bool.eq_iff_iff, found, lineBreak_ofRun_iff, kept, or_iff_left noJoin]
  have sameWord : (ofRunTabFirst run).word = (ofRun run).word :=
    (eraseFirst_comm breakLetter tabLetter different separate.noBreakInside
      separate.noTabInside).symm
  calc
    ofRunTabFirst run =
        ⟨(ofRunTabFirst run).lineBreak, (ofRunTabFirst run).tab,
          (ofRunTabFirst run).word⟩ := rfl
    _ = ofRun run := by rw [sameTab, sameBreak, sameWord]

end Expansion

/-! ## The escapes reported for a text -/

theorem TakesOut.eq_erase {escape text rest : Text} {taken : Bool}
    (removal : TakesOut escape text taken rest) :
    taken = Text.occurs escape text ∧ rest = Text.eraseFirst escape text := by
  cases removal with
  | absent missing =>
      exact ⟨(Text.occurs_eq_false_iff.mpr missing).symm,
        (Text.eraseFirst_of_not_isInfix missing).symm⟩
  | first cut =>
      exact ⟨(Text.occurs_iff.mpr cut.isInfix).symm, cut.eraseFirst_eq.symm⟩

/-- The group of a run says what its expansion has found. -/
theorem Item.Faithful.ofRun_eq {run word : Text} {lineBreak tab : Bool}
    {category : Category}
    (faithful : Item.Faithful (.group run lineBreak tab category word)) :
    Expansion.ofRun run = ⟨lineBreak, tab, word⟩ := by
  cases faithful with
  | group nonempty plain breakTaken tabTaken =>
      obtain ⟨rfl, rfl⟩ := breakTaken.eq_erase
      obtain ⟨rfl, rfl⟩ := tabTaken.eq_erase
      rfl

/-- The group of a run reports a line break exactly where the run holds the
escape of one, and a tab where it holds the escape of a tab or where taking out
the line break escape puts one together.  A run in which the escapes stand apart
therefore has a tab reported exactly where it holds its escape, and it is
expanded alike in either order. -/
theorem Partition.escapes_iff {text : Text} {items : List Item}
    (partition : Partition text (classify text) items) {run word : Text}
    {lineBreak tab : Bool} {category : Category}
    (member : .group run lineBreak tab category word ∈ items) :
    (lineBreak = true ↔ lineBreakEscape <:+: run) ∧
      (tab = true ↔ tabEscape <:+: run ∨ Joins lineBreakEscape 't' run) ∧
      (Expansion.IsSeparate run →
        (tab = true ↔ tabEscape <:+: run) ∧
          Expansion.ofRunTabFirst run = ⟨lineBreak, tab, word⟩) := by
  have expanded := (partition.faithful _ member).ofRun_eq
  obtain rfl : (Expansion.ofRun run).lineBreak = lineBreak :=
    congrArg Expansion.lineBreak expanded
  obtain rfl : (Expansion.ofRun run).tab = tab :=
    congrArg Expansion.tab expanded
  refine ⟨Expansion.lineBreak_ofRun_iff, Expansion.tab_ofRun_iff, ?_⟩
  intro separate
  exact ⟨separate.tab_iff, separate.ofRunTabFirst_eq.trans expanded⟩

theorem partition_of_run {run word : Text} {lineBreak tab : Bool}
    (trimmed : Text.trim run = run) (nonempty : run ≠ [])
    (plain : Delimiter.AbsentFrom run)
    (expanded : Expansion.ofRun run = ⟨lineBreak, tab, word⟩) :
    Partition run (classify run)
      [.group run lineBreak tab (Spans.closed.category word) word] where
  events_eq := by
    have alone : Piece.cut run = [.run run] :=
      Piece.cut_eq_iff.mpr
        ⟨List.append_nil _, .run nonempty plain (by simp) .nil⟩
    simp only [classify, classifyFrom, trimmed, alone, Piece.classifyAll,
      Piece.classify, expanded, List.append_nil, List.flatMap_cons,
      List.flatMap_nil]
    rfl
  source_eq := by simp [trimmed, Item.source]
  faithful := by
    intro item member
    obtain rfl := List.mem_singleton.mp member
    obtain ⟨rfl, rfl, rfl⟩ := Expansion.mk.inj expanded
    exact .group nonempty plain (TakesOut.ofErase _ _) (TakesOut.ofErase _ _) _
  apart := List.isChain_singleton _

theorem escapes_iff_tab_before_break :
    Partition "a\\tb\\nc".toList (classify "a\\tb\\nc".toList)
        [.group "a\\tb\\nc".toList true true .predicate "abc".toList] ∧
      Expansion.IsSeparate "a\\tb\\nc".toList ∧
      Expansion.ofRunTabFirst "a\\tb\\nc".toList =
        ⟨true, true, "abc".toList⟩ := by
  have category : Spans.closed.category "abc".toList = .predicate := by
    decide +kernel
  have expanded : Expansion.ofRun "a\\tb\\nc".toList =
      ⟨true, true, "abc".toList⟩ := by
    decide
  have plain : Delimiter.AbsentFrom "a\\tb\\nc".toList := by
    intro mark
    cases mark <;> decide
  have partition := partition_of_run (by decide) (by decide) plain expanded
  rw [category] at partition
  have separate : Expansion.IsSeparate "a\\tb\\nc".toList :=
    ⟨Text.occurs_eq_false_iff.mp (by decide),
      Text.occurs_eq_false_iff.mp (by decide)⟩
  obtain ⟨-, -, apart⟩ := partition.escapes_iff List.mem_cons_self
  exact ⟨partition, separate, (apart separate).2⟩

/-- A run without a tab escape for which a tab is reported: taking out the line
break escape has put one together.  In the other order the tab is not found. -/
theorem tab_reported_without_escape :
    Partition "\\\\nt".toList (classify "\\\\nt".toList)
        [.group "\\\\nt".toList true true .predicate []] ∧
      ¬ tabEscape <:+: "\\\\nt".toList ∧
      Expansion.ofRunTabFirst "\\\\nt".toList ≠ ⟨true, true, []⟩ := by
  have category : Spans.closed.category [] = .predicate := by
    decide +kernel
  have expanded : Expansion.ofRun "\\\\nt".toList = ⟨true, true, []⟩ := by
    decide
  have plain : Delimiter.AbsentFrom "\\\\nt".toList := by
    intro mark
    cases mark <;> decide
  have partition := partition_of_run (by decide) (by decide) plain expanded
  rw [category] at partition
  exact ⟨partition, by decide, by decide⟩

end CsdlHighlight

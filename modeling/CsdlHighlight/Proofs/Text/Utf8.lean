import CsdlHighlight.Text.Utf8
import Mathlib.Tactic.SplitIfs

/-!
Contract: decoding takes encoding back, in both directions.

Owns:
- the first bytes of characters, and the bytes that continue one;
- the scan of encoded texts;
- the well-formed bytes: they are those that encode a text.

Does not own: the repair of malformed bytes.
-/

namespace CsdlHighlight.Utf8

/-! ## First bytes -/

theorem lead_one : ∀ code < 0x80,
    lead (UInt8.ofNat code).toNat = .complete code := by
  decide

theorem lead_two : ∀ high < 32, 2 ≤ high →
    lead (UInt8.ofNat (0xC0 + high)).toNat =
      .opens (.within high 0 0x80 0xBF) := by
  decide

theorem lead_three : ∀ high < 16,
    lead (UInt8.ofNat (0xE0 + high)).toNat =
      .opens (.within high 1 (if high = 0 then 0xA0 else 0x80)
        (if high = 0xD then 0x9F else 0xBF)) := by
  decide

theorem lead_four : ∀ high < 5,
    lead (UInt8.ofNat (0xF0 + high)).toNat =
      .opens (.within high 2 (if high = 0 then 0x90 else 0x80)
        (if high = 4 then 0x8F else 0xBF)) := by
  decide

/-- A byte that begins nothing: a continuation, or the first byte of a form that
is too long or goes past the last code point. -/
theorem lead_malformed {byte : Nat} (notOne : 0x80 ≤ byte)
    (noLead : byte < 0xC2 ∨ 0xF5 ≤ byte) : lead byte = .malformed := by
  rw [lead, if_neg (Nat.not_lt.mpr notOne)]
  rcases noLead with low | high
  · rw [if_pos low]
  · repeat rw [if_neg (by omega)]

/-- The kinds of a byte at the beginning of a character, by what is left of it
behind its mark. -/
inductive FirstByte : UInt8 → Prop where
  | one {code : Nat} (small : code < 0x80) : FirstByte (UInt8.ofNat code)
  | two {high : Nat} (atLeast : 2 ≤ high) (small : high < 32) :
      FirstByte (UInt8.ofNat (0xC0 + high))
  | three {high : Nat} (small : high < 16) :
      FirstByte (UInt8.ofNat (0xE0 + high))
  | four {high : Nat} (small : high < 5) :
      FirstByte (UInt8.ofNat (0xF0 + high))
  | none {byte : UInt8} (malformed : lead byte.toNat = .malformed) :
      FirstByte byte

theorem firstByte (byte : UInt8) : FirstByte byte := by
  have bound := byte.toNat_lt
  have same : UInt8.ofNat byte.toNat = byte := UInt8.ofNat_toNat
  by_cases one : byte.toNat < 0x80
  · exact same ▸ .one one
  · by_cases noLead : byte.toNat < 0xC2 ∨ 0xF5 ≤ byte.toNat
    · exact .none (lead_malformed (Nat.le_of_not_lt one) noLead)
    · obtain ⟨high, cut⟩ : ∃ high,
          (byte.toNat = 0xC0 + high ∧ 2 ≤ high ∧ high < 32) ∨
          (byte.toNat = 0xE0 + high ∧ high < 16) ∨
          (byte.toNat = 0xF0 + high ∧ high < 5) := by
        by_cases two : byte.toNat < 0xE0
        · exact ⟨byte.toNat - 0xC0, by omega⟩
        · by_cases three : byte.toNat < 0xF0
          · exact ⟨byte.toNat - 0xE0, by omega⟩
          · exact ⟨byte.toNat - 0xF0, by omega⟩
      rw [← same]
      rcases cut with ⟨is, atLeast, small⟩ | ⟨is, small⟩ | ⟨is, small⟩
      · exact is ▸ .two atLeast small
      · exact is ▸ .three small
      · exact is ▸ .four small

/-! ## Steps of a scan -/

theorem toNat_continuation (bits : Nat) :
    (continuation bits).toNat = 0x80 + bits % 64 := by
  simp only [continuation, UInt8.toNat_ofNat']
  omega

theorem scan_start {byte : UInt8} {next : Progress}
    (opens : lead byte.toNat = .opens next) (rest : Bytes) :
    scan .start (byte :: rest) = scan next rest := by
  simp only [scan, opens]

theorem scan_complete {byte : UInt8} {code : Nat}
    (complete : lead byte.toNat = .complete code) (rest : Bytes) :
    scan .start (byte :: rest) =
      some (Char.ofNat code) :: scan .start rest := by
  simp only [scan, complete]

/-- A byte that continues a character: the bits so far are those of `code` but
for the last six. -/
structure Continues (bits low high code : Nat) : Prop where
  gathers : bits * 64 + code % 64 = code
  atLeast : low ≤ 0x80 + code % 64
  atMost : 0x80 + code % 64 ≤ high

namespace Continues

variable {bits low high code : Nat}

/-- The last six bits of a code, behind the others. -/
theorem behind (code : Nat) : Continues (code / 64) 0x80 0xBF code :=
  ⟨by omega, by omega, by omega⟩

theorem scan_last (continues : Continues bits low high code) (rest : Bytes) :
    scan (.within bits 0 low high) (continuation code :: rest) =
      some (Char.ofNat code) :: scan .start rest := by
  obtain ⟨gathers, atLeast, atMost⟩ := continues
  have gathered : bits * 64 + (0x80 + code % 64) % 64 = code := by omega
  simp only [scan, toNat_continuation, atLeast, atMost, and_self, if_true,
    gathered]

theorem scan_more (continues : Continues bits low high code) (later : Nat)
    (rest : Bytes) :
    scan (.within bits (later + 1) low high) (continuation code :: rest) =
      scan (.within code later 0x80 0xBF) rest := by
  obtain ⟨gathers, atLeast, atMost⟩ := continues
  have gathered : bits * 64 + (0x80 + code % 64) % 64 = code := by omega
  simp only [scan, toNat_continuation, atLeast, atMost, and_self, if_true,
    gathered]

end Continues

/-- What is known of the code of a character. -/
theorem toNat_bounds (character : Char) :
    character.toNat < 0x110000 ∧
      (character.toNat < 0xD800 ∨ 0xDFFF < character.toNat) := by
  have valid := character.valid
  simp only [UInt32.isValidChar, Nat.isValidChar] at valid
  simp only [Char.toNat]
  omega

theorem scan_encodeChar (character : Char) (rest : Bytes) :
    scan .start (encodeChar character ++ rest) =
      some character :: scan .start rest := by
  obtain ⟨bound, notSurrogate⟩ := toNat_bounds character
  have same : Char.ofNat character.toNat = character :=
    Char.ofNat_toNat character
  unfold encodeChar
  generalize character.toNat = code at bound notSurrogate same
  subst same
  simp only
  split_ifs with one two three <;> simp only [List.cons_append, List.nil_append]
  · exact scan_complete (lead_one code one) rest
  · rw [scan_start (lead_two (code / 64) (by omega) (by omega)),
      (Continues.behind code).scan_last]
  · have second : Continues (code / 4096)
        (if code / 4096 = 0 then 0xA0 else 0x80)
        (if code / 4096 = 0xD then 0x9F else 0xBF) (code / 64) :=
      ⟨by omega, by split <;> omega, by split <;> omega⟩
    rw [scan_start (lead_three (code / 4096) (by omega)), second.scan_more,
      (Continues.behind code).scan_last]
  · have second : Continues (code / 262144)
        (if code / 262144 = 0 then 0x90 else 0x80)
        (if code / 262144 = 4 then 0x8F else 0xBF) (code / 4096) :=
      ⟨by omega, by split <;> omega, by split <;> omega⟩
    have third : Continues (code / 4096) 0x80 0xBF (code / 64) :=
      ⟨by omega, by omega, by omega⟩
    rw [scan_start (lead_four (code / 262144) (by omega)), second.scan_more,
      third.scan_more, (Continues.behind code).scan_last]

theorem scan_encode (text : Text) :
    scan .start (encode text) = text.map some := by
  induction text with
  | nil => rfl
  | cons character rest inductionHypothesis =>
      rw [encode, List.flatMap_cons, scan_encodeChar]
      exact congrArg (some character :: ·) inductionHypothesis

theorem wellFormed?_map_some (text : Text) :
    wellFormed? (text.map some) = some text := by
  induction text with
  | nil => rfl
  | cons character rest inductionHypothesis =>
      rw [List.map_cons, wellFormed?, inductionHypothesis, Option.map_some]

/-- A text is read back from its bytes. -/
theorem decode?_encode (text : Text) : decode? (encode text) = some text := by
  rw [decode?, scan_encode, wellFormed?_map_some]

/-- The bytes of a text need no repair. -/
theorem repair_encode (text : Text) : repair (encode text) = text := by
  rw [repair, scan_encode, List.map_map]
  exact List.map_id text

/-! ## Bytes of a well-formed scan -/

theorem eq_continuation {byte : UInt8} (bits : Nat)
    (atLeast : 0x80 ≤ byte.toNat) (atMost : byte.toNat ≤ 0xBF) :
    byte = continuation (bits * 64 + byte.toNat % 64) := by
  apply UInt8.toNat_inj.mp
  rw [toNat_continuation]
  omega

theorem of_scan_within {bits more low high : Nat} {bytes : Bytes} {text : Text}
    (lowBound : 0x80 ≤ low) (highBound : high ≤ 0xBF)
    (found :
      wellFormed? (scan (.within bits more low high) bytes) = some text) :
    ∃ code rest, bytes = continuation code :: rest ∧
      Continues bits low high code := by
  cases bytes with
  | nil => cases found
  | cons byte rest =>
      by_cases inBounds : low ≤ byte.toNat ∧ byte.toNat ≤ high
      · obtain ⟨atLeast, atMost⟩ := inBounds
        refine ⟨bits * 64 + byte.toNat % 64, rest, ?_, ?_, ?_, ?_⟩
        · rw [← eq_continuation bits (by omega) (by omega)]
        · omega
        · omega
        · omega
      · simp [scan, inBounds, wellFormed?] at found

theorem toNat_ofNat {code : Nat} (bound : code < 0x110000)
    (notSurrogate : code < 0xD800 ∨ 0xDFFF < code) :
    (Char.ofNat code).toNat = code := by
  have valid : code.isValidChar := by
    unfold Nat.isValidChar
    omega
  rw [Char.ofNat, dif_pos valid]
  rfl

/-- Well-formed bytes begin with those of a character. -/
theorem of_scan_start {byte : UInt8} {rest : Bytes} {text : Text}
    (found : wellFormed? (scan .start (byte :: rest)) = some text) :
    ∃ character behind, byte :: rest = encodeChar character ++ behind := by
  cases firstByte byte with
  | @one code small =>
      refine ⟨Char.ofNat code, rest, ?_⟩
      simp only [encodeChar]
      rw [toNat_ofNat (by omega) (by omega), if_pos small]
      rfl
  | @two high atLeast small =>
      rw [scan_start (lead_two high small atLeast)] at found
      obtain ⟨code, behind, rfl, last⟩ :=
        of_scan_within (by omega) (by omega) found
      have gathers := last.gathers
      obtain rfl : high = code / 64 := by omega
      refine ⟨Char.ofNat code, behind, ?_⟩
      simp only [encodeChar]
      rw [toNat_ofNat (by omega) (by omega), if_neg (by omega),
        if_pos (by omega)]
      rfl
  | @three high small =>
      rw [scan_start (lead_three high small)] at found
      obtain ⟨front, afterSecond, rfl, second⟩ :=
        of_scan_within (by split_ifs <;> omega) (by split_ifs <;> omega) found
      rw [second.scan_more] at found
      obtain ⟨code, behind, rfl, third⟩ :=
        of_scan_within (by omega) (by omega) found
      obtain ⟨gathers, atLeast, atMost⟩ := second
      have gathersAll := third.gathers
      obtain rfl : front = code / 64 := by omega
      obtain rfl : high = code / 4096 := by omega
      refine ⟨Char.ofNat code, behind, ?_⟩
      simp only [encodeChar]
      rw [toNat_ofNat, if_neg, if_neg, if_pos]
      · rfl
      all_goals split_ifs at atLeast atMost <;> omega
  | @four high small =>
      rw [scan_start (lead_four high small)] at found
      obtain ⟨front, afterSecond, rfl, second⟩ :=
        of_scan_within (by split_ifs <;> omega) (by split_ifs <;> omega) found
      rw [second.scan_more] at found
      obtain ⟨middle, afterThird, rfl, third⟩ :=
        of_scan_within (by omega) (by omega) found
      rw [third.scan_more] at found
      obtain ⟨code, behind, rfl, fourth⟩ :=
        of_scan_within (by omega) (by omega) found
      obtain ⟨gathers, atLeast, atMost⟩ := second
      have gathersMiddle := third.gathers
      have gathersAll := fourth.gathers
      obtain rfl : middle = code / 64 := by omega
      obtain rfl : front = code / 4096 := by omega
      obtain rfl : high = code / 262144 := by omega
      refine ⟨Char.ofNat code, behind, ?_⟩
      simp only [encodeChar]
      rw [toNat_ofNat, if_neg, if_neg, if_neg]
      · rfl
      all_goals split_ifs at atLeast atMost <;> omega
  | none malformed => simp [scan, malformed, wellFormed?] at found

theorem decode?_encodeChar_append {character : Char} {behind : Bytes}
    {text : Text}
    (decoded : decode? (encodeChar character ++ behind) = some text) :
    ∃ others, decode? behind = some others ∧ text = character :: others := by
  rw [decode?, scan_encodeChar] at decoded
  obtain ⟨others, decodedBehind, same⟩ := Option.map_eq_some_iff.mp decoded
  exact ⟨others, decodedBehind, same.symm⟩

/-- Bytes that are well formed are the bytes of the text they are read as. -/
theorem encode_of_decode? {bytes : Bytes} {text : Text}
    (decoded : decode? bytes = some text) : encode text = bytes := by
  induction text generalizing bytes with
  | nil =>
      cases bytes with
      | nil => rfl
      | cons byte rest =>
          obtain ⟨character, behind, whole⟩ := of_scan_start decoded
          rw [whole] at decoded
          obtain ⟨others, -, same⟩ := decode?_encodeChar_append decoded
          cases same
  | cons first others inductionHypothesis =>
      cases bytes with
      | nil => cases decoded
      | cons byte rest =>
          obtain ⟨character, behind, whole⟩ := of_scan_start decoded
          rw [whole] at decoded ⊢
          obtain ⟨_, decodedBehind, same⟩ := decode?_encodeChar_append decoded
          obtain ⟨rfl, rfl⟩ := List.cons.inj same
          rw [encode, List.flatMap_cons]
          exact congrArg (encodeChar first ++ ·)
            (inductionHypothesis decodedBehind)

/-- Bytes decode to a text exactly when they are its bytes. -/
theorem decode?_eq_some_iff {bytes : Bytes} {text : Text} :
    decode? bytes = some text ↔ bytes = encode text := by
  constructor
  · exact fun decoded => (encode_of_decode? decoded).symm
  · rintro rfl
    exact decode?_encode text

end CsdlHighlight.Utf8

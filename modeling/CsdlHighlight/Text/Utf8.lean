import CsdlHighlight.Bytes
import CsdlHighlight.Text.Basic

/-!
Contract: texts as bytes in UTF-8.

Owns:
- encoding;
- the scan of bytes into characters and malformed parts;
- strict decoding, and decoding that puts a replacement character in the place
  of each malformed part.

Does not own: files, or a byte order mark.
-/

namespace CsdlHighlight

namespace Utf8

/-! ## Encoding -/

def continuation (bits : Nat) : UInt8 :=
  UInt8.ofNat (0x80 + bits % 64)

/-- The bytes of a character: one to four of them. -/
def encodeChar (character : Char) : Bytes :=
  let code := character.toNat
  if code < 0x80 then
    [UInt8.ofNat code]
  else if code < 0x800 then
    [UInt8.ofNat (0xC0 + code / 64), continuation code]
  else if code < 0x10000 then
    [UInt8.ofNat (0xE0 + code / 4096), continuation (code / 64),
      continuation code]
  else
    [UInt8.ofNat (0xF0 + code / 262144), continuation (code / 4096),
      continuation (code / 64), continuation code]

def encode (text : Text) : Bytes :=
  text.flatMap encodeChar

/-! ## Scanning -/

/-- What a scan knows between two bytes. -/
inductive Progress where
  /-- A character may begin. -/
  | start
  /-- A character has begun: its bits so far, the number of bytes to come after
  the next one, and the bounds of the next one. -/
  | within (bits more low high : Nat)
deriving DecidableEq, Repr

/-- What the first byte of a character says. -/
inductive Lead where
  | complete (code : Nat)
  | opens (progress : Progress)
  | malformed
deriving DecidableEq, Repr

/-- Read a first byte.  The bounds of the second byte rule out needlessly long
forms, surrogates and numbers past the last code point. -/
def lead (byte : Nat) : Lead :=
  if byte < 0x80 then
    .complete byte
  else if byte < 0xC2 then
    .malformed
  else if byte < 0xE0 then
    .opens (.within (byte - 0xC0) 0 0x80 0xBF)
  else if byte = 0xE0 then
    .opens (.within 0 1 0xA0 0xBF)
  else if byte = 0xED then
    .opens (.within 0xD 1 0x80 0x9F)
  else if byte < 0xF0 then
    .opens (.within (byte - 0xE0) 1 0x80 0xBF)
  else if byte = 0xF0 then
    .opens (.within 0 2 0x90 0xBF)
  else if byte < 0xF4 then
    .opens (.within (byte - 0xF0) 2 0x80 0xBF)
  else if byte = 0xF4 then
    .opens (.within 4 2 0x80 0x8F)
  else
    .malformed

/-- Scan bytes into characters; `none` stands for a malformed part.  A
character that breaks off is one malformed part, and the byte at which it broke
off may begin another character. -/
def scan (progress : Progress) : Bytes → List (Option Char)
  | [] =>
      match progress with
      | .start => []
      | .within .. => [none]
  | byte :: rest =>
      let begin :=
        match lead byte.toNat with
        | .complete code => some (Char.ofNat code) :: scan .start rest
        | .opens next => scan next rest
        | .malformed => none :: scan .start rest
      match progress with
      | .start => begin
      | .within bits more low high =>
          if low ≤ byte.toNat ∧ byte.toNat ≤ high then
            let gathered := bits * 64 + byte.toNat % 64
            match more with
            | 0 => some (Char.ofNat gathered) :: scan .start rest
            | later + 1 => scan (.within gathered later 0x80 0xBF) rest
          else
            none :: begin

/-! ## Decoding -/

/-- All characters of a scan, if none of its parts is malformed. -/
def wellFormed? : List (Option Char) → Option Text
  | [] => some []
  | none :: _ => none
  | some character :: rest => (wellFormed? rest).map (character :: ·)

def decode? (bytes : Bytes) : Option Text :=
  wellFormed? (scan .start bytes)

def replacement : Char := Char.ofNat 0xFFFD

/-- The text of any bytes, with one replacement character for each malformed
part. -/
def repair (bytes : Bytes) : Text :=
  (scan .start bytes).map fun scanned => scanned.getD replacement

end Utf8

end CsdlHighlight

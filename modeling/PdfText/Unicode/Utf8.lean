import PdfText.Bytes

/-!
# UTF-8

Text as bytes, one to four for a character. Bytes that are not the encoding of a character are
read as U+FFFD, one for each longest piece that could have begun a character.

## Main definitions

* `Utf8.step` — the first character of some bytes and how many bytes it takes
* `Utf8.decode` — all characters, `Utf8.isValid` — whether each is properly encoded
* `Utf8.encode` — the bytes of a text
-/

namespace PdfText

/-- The character that stands for what cannot be decoded. -/
def replacementCharacter : Char := '\uFFFD'

namespace Utf8

/-- What the first byte of a longer encoding says: its share of the code point, and the range of
each byte that has to follow. -/
def lead (b : UInt8) : Option (Nat × List (UInt8 × UInt8)) :=
  let any : UInt8 × UInt8 := (0x80, 0xBF)
  if 0xC2 ≤ b && b ≤ 0xDF then some (b.toNat - 0xC0, [any])
  else if b == 0xE0 then some (0, [(0xA0, 0xBF), any])
  else if b == 0xED then some (0x0D, [(0x80, 0x9F), any])
  else if 0xE1 ≤ b && b ≤ 0xEF then some (b.toNat - 0xE0, [any, any])
  else if b == 0xF0 then some (0, [(0x90, 0xBF), any, any])
  else if 0xF1 ≤ b && b ≤ 0xF3 then some (b.toNat - 0xF0, [any, any, any])
  else if b == 0xF4 then some (4, [(0x80, 0x8F), any, any])
  else none

/-- The code point that following bytes complete, if all are there, and how many are. -/
def follow (value count : Nat) : List (UInt8 × UInt8) → Bytes → Option Nat × Nat
  | [], _ => (some value, count)
  | (low, high) :: ranges, b :: rest =>
    if low ≤ b && b ≤ high then follow (64 * value + (b.toNat - 0x80)) (count + 1) ranges rest
    else (none, count)
  | _, [] => (none, count)

/-- The first character, if it is properly encoded, and how many bytes belong to it besides the
first. -/
def step (b : UInt8) (rest : Bytes) : Option Char × Nat :=
  if b < 0x80 then (some (Char.ofNat b.toNat), 0)
  else
    match lead b with
    | none => (none, 0)
    | some (value, ranges) =>
      let (value?, count) := follow value 0 ranges rest
      (value?.map Char.ofNat, count)

/-- The characters, each properly encoded or not, of some bytes of which the first `skip` have been
read already. -/
def characters (skip : Nat) : Bytes → List (Option Char)
  | [] => []
  | b :: rest =>
    match skip with
    | left + 1 => characters left rest
    | 0 =>
      let (character, count) := step b rest
      character :: characters count rest

/-- The text of some bytes, with U+FFFD for what is not properly encoded. -/
def decode (bytes : Bytes) : List Char :=
  (characters 0 bytes).map (·.getD replacementCharacter)

/-- Whether every byte belongs to a properly encoded character. -/
def isValid (bytes : Bytes) : Bool := (characters 0 bytes).all Option.isSome

/-- The bytes of a text. -/
def encode (text : String) : Bytes := text.toUTF8.toList

end Utf8

end PdfText

import PdfText.Unicode.Utf8

/-!
# UTF-16

Text as units of 16 bits, where a character beyond the first 65536 takes a pair of surrogates. A
surrogate without its partner is read as U+FFFD.

Shown strings are UTF-16 with the most significant byte first, unless they begin with the mark of
another form of Unicode text.

## Main definitions

* `Utf16.characters` — the text of some units
* `Utf16.decode` — the text of some bytes, with regard to a mark at their front
-/

namespace PdfText.Utf16

/-- Whether a unit is the first of a pair. -/
def isHigh (unit : Nat) : Bool := 0xD800 ≤ unit && unit ≤ 0xDBFF

/-- Whether a unit is the second of a pair. -/
def isLow (unit : Nat) : Bool := 0xDC00 ≤ unit && unit ≤ 0xDFFF

/-- The character of a pair. -/
def ofPair (high low : Nat) : Char :=
  Char.ofNat (0x10000 + 0x400 * (high - 0xD800) + (low - 0xDC00))

/-- The text of some units. `cut` says that half a unit follows the last one; it is lost together
with a first surrogate before it. -/
def characters (cut : Bool) : List Nat → List Char
  | [] => if cut then [replacementCharacter] else []
  | [unit] =>
    if isHigh unit then [replacementCharacter]
    else (if isLow unit then replacementCharacter else Char.ofNat unit) :: characters cut []
  | unit :: next :: rest =>
    if isHigh unit then
      if isLow next then ofPair unit next :: characters cut rest
      else replacementCharacter :: characters cut (next :: rest)
    else
      (if isLow unit then replacementCharacter else Char.ofNat unit) :: characters cut (next :: rest)

/-- The units that pairs of bytes make, and whether half a unit is left over. -/
def units (unit : UInt8 → UInt8 → Nat) : Bytes → List Nat × Bool
  | first :: second :: rest =>
    let (others, cut) := units unit rest
    (unit first second :: others, cut)
  | [_] => ([], true)
  | [] => ([], false)

/-- A unit from its most and its least significant byte. -/
def unitOf (high low : UInt8) : Nat := 256 * high.toNat + low.toNat

/-- The text of bytes with the most significant byte of each unit first. -/
def decodeBigEndian (bytes : Bytes) : List Char :=
  let (units, cut) := units unitOf bytes
  characters cut units

/-- The text of bytes with the least significant byte of each unit first. -/
def decodeLittleEndian (bytes : Bytes) : List Char :=
  let (units, cut) := units (fun low high => unitOf high low) bytes
  characters cut units

/-- The text of some bytes. A mark at the front tells the form of the text and is no part of it. -/
def decode : Bytes → List Char
  | 0xEF :: 0xBB :: 0xBF :: rest => Utf8.decode rest
  | 0xFF :: 0xFE :: rest => decodeLittleEndian rest
  | 0xFE :: 0xFF :: rest => decodeBigEndian rest
  | bytes => decodeBigEndian bytes

/-- The bytes of a unit, the most significant first. -/
def unitBytes (unit : Nat) : Bytes := [UInt8.ofNat (unit / 256), UInt8.ofNat unit]

/-- The units of a character. -/
def unitsOf (c : Char) : List Nat :=
  if c.toNat < 0x10000 then [c.toNat]
  else
    let above := c.toNat - 0x10000
    [0xD800 + above / 0x400, 0xDC00 + above % 0x400]

end PdfText.Utf16

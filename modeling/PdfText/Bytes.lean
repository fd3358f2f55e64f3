/-!
# Bytes

A file is a list of bytes. This module names the classes of bytes that the file format
distinguishes, and the few operations on byte lists that every later module uses: spelling a
word in bytes, finding a word, and reading and writing a number.

## Main definitions

* `Bytes` — the bytes of a file, or of a part of one
* `ascii` — a word of the file format, as bytes
* `Bytes.find?`, `Bytes.findLast?` — the first and the last place of a word
* `sizeOfBits` — how many numbers have so many bits
* `Bytes.decimal`, `Bytes.bigEndian` — the number that digits or bytes stand for
* `Bytes.littleEndian` — a number as bytes
-/

namespace PdfText

/-- The bytes of a file, or of a part of one. -/
abbrev Bytes := List UInt8

/-- A word of the file format as bytes, one byte for each of its characters. -/
def ascii (word : String) : Bytes := word.toList.map Char.toUInt8

/-! ## Classes of bytes -/

/-- White space of the file format: space, tab, line feed, carriage return, null, form feed. -/
def isBlank (b : UInt8) : Bool :=
  b == 0x20 || b == 0x09 || b == 0x0A || b == 0x0D || b == 0x00 || b == 0x0C

/-- The two bytes that end a line. -/
def isLineEnd (b : UInt8) : Bool := b == 0x0A || b == 0x0D

/-- A space or a tab, which keep to the line. -/
def isInline (b : UInt8) : Bool := b == 0x20 || b == 0x09

/-- The bytes that end a name or a word by themselves: the brackets, the slash and the percent
sign. -/
def isDelimiter (b : UInt8) : Bool := (ascii "()<>[]\x7b\x7d/%").contains b

/-- A decimal digit. -/
def isDigit (b : UInt8) : Bool := 0x30 ≤ b && b ≤ 0x39

/-- An octal digit. -/
def isOctal (b : UInt8) : Bool := 0x30 ≤ b && b ≤ 0x37

/-- An ASCII letter. -/
def isLetter (b : UInt8) : Bool := (0x41 ≤ b && b ≤ 0x5A) || (0x61 ≤ b && b ≤ 0x7A)

/-- The value of a hexadecimal digit in either case. -/
def hexValue? (b : UInt8) : Option UInt8 :=
  if isDigit b then some (b - 0x30)
  else if 0x41 ≤ b && b ≤ 0x46 then some (b - 0x37)
  else if 0x61 ≤ b && b ≤ 0x66 then some (b - 0x57)
  else none

/-- How many numbers have no more than so many bits. -/
def sizeOfBits (bits : Nat) : Nat := 1 <<< bits

namespace Bytes

/-! ## Numbers -/

/-- The number that decimal digits stand for. -/
def decimal (digits : Bytes) : Nat :=
  digits.foldl (fun value digit => 10 * value + (digit.toNat - 0x30)) 0

/-- The number that bytes stand for, most significant byte first. -/
def bigEndian (bytes : Bytes) : Nat :=
  bytes.foldl (fun value byte => 256 * value + byte.toNat) 0

/-- The lowest `count` bytes of a number, least significant byte first. -/
def littleEndian (count value : Nat) : Bytes :=
  (List.range count).map fun i => UInt8.ofNat (value >>> (8 * i))

/-! ## Places of a word -/

/-- The first place at which a word stands. -/
def find? (bytes word : Bytes) : Option Nat :=
  match bytes with
  | [] => if word.isEmpty then some 0 else none
  | b :: rest =>
    if word.isPrefixOf (b :: rest) then some 0 else (find? rest word).map (· + 1)

/-- The last place at or after `start` at which a word stands. -/
def findLast? (bytes word : Bytes) (start : Nat) : Option Nat :=
  let rec go (position : Nat) (found : Option Nat) : Bytes → Option Nat
    | [] => found
    | b :: rest =>
      go (position + 1) (if word.isPrefixOf (b :: rest) then some position else found) rest
  go start none (bytes.drop start)

/-- The bytes from the first place of a word on; all of them when the word is absent. -/
def fromFirst (bytes word : Bytes) : Bytes := bytes.drop ((bytes.find? word).getD 0)

end Bytes

end PdfText

import PdfText.Error.Pdf

/-!
# Base-85 data

Four bytes as five digits to the base 85, which are the characters from `!` to `u`; a `z` stands
for four zero bytes. White space between digits does not count, any other character ends the data.
A last group of fewer digits is filled up with `u` and gives one byte less than it has digits.

## Main definitions

* `Ascii85.decode` — the bytes behind base-85 digits
-/

namespace PdfText.Ascii85

/-- The digits of a group read so far. -/
structure Group where
  /-- The number they make. -/
  value : Nat := 0
  /-- How many they are. -/
  count : Nat := 0

/-- A digit after the others. The number without its last digit has to fit into 32 bits. -/
def Group.digit (group : Group) (digit : Nat) : Except Ascii85Error Group :=
  if 85 * group.value < sizeOfBits 32 then
    .ok ⟨(85 * group.value + digit) % sizeOfBits 32, group.count + 1⟩
  else .error .overflow

/-- The four bytes of a group, most significant first. -/
def Group.bytes (group : Group) : Bytes := (Bytes.littleEndian 4 group.value).reverse

/-- Fills a group up with `missing` digits of the highest value. -/
def Group.fill (group : Group) : Nat → Except Ascii85Error Group
  | 0 => .ok group
  | missing + 1 => do (← group.digit 84).fill missing

/-- The bytes of a last group that may lack digits. -/
def Group.finish (group : Group) : Except Ascii85Error Bytes :=
  if group.count = 0 then .ok []
  else do return (← group.fill (5 - group.count)).bytes.take (group.count - 1)

/-- White space between digits. -/
def isSpace (b : UInt8) : Bool := b == 0x20 || b == 0x09 || b == 0x0A || b == 0x0C || b == 0x0D

/-- Decodes digits, given the group begun and the bytes written, which come last first. -/
def run (group : Group) (output : Bytes) : Bytes → Except Ascii85Error Bytes
  | [] => do return output.reverse ++ (← group.finish)
  | b :: rest =>
    if b == 0x7A then
      if group.count = 0 then run group (0 :: 0 :: 0 :: 0 :: output) rest
      else .error .misplacedZero
    else if isSpace b then run group output rest
    else if 0x21 ≤ b && b ≤ 0x75 then
      match group.digit (b.toNat - 0x21) with
      | .error error => .error error
      | .ok group =>
        if group.count = 5 then run {} (group.bytes.reverse ++ output) rest
        else run group output rest
    else do return output.reverse ++ (← group.finish)

/-- Whether the mark `~>` stands at the end, as it should. -/
def hasMark (bytes : Bytes) : Bool := (ascii "~>").isSuffixOf bytes

/-- Leaves out the mark at the end. -/
def withoutMark (bytes : Bytes) : Bytes :=
  if hasMark bytes then bytes.take (bytes.length - 2) else bytes

/-- The bytes behind base-85 digits. -/
def decode (bytes : Bytes) : Except Ascii85Error Bytes := run {} [] (withoutMark bytes)

end PdfText.Ascii85

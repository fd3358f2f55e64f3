import PdfText.Bytes

/-!
# Words

Text that is split at white space, and words that are numbers.

## Main definitions

* `Words.isSpace` — white space of Unicode
* `Words.split` — the words between white space
* `Words.decimal?` — the number that a word is
* `Words.hexadecimal` — the number that hexadecimal digits make
-/

namespace PdfText.Words

/-- White space of Unicode. -/
def isSpace (c : Char) : Bool :=
  let code := c.toNat
  (0x09 ≤ code && code ≤ 0x0D) || code == 0x20 || code == 0x85 || code == 0xA0 || code == 0x1680 ||
    (0x2000 ≤ code && code ≤ 0x200A) || code == 0x2028 || code == 0x2029 || code == 0x202F ||
    code == 0x205F || code == 0x3000

/-- The pieces between characters of a class, after the letters of a piece that has begun, last
letter first, and the pieces before it, last piece first. -/
def piecesAfter (isBreak : Char → Bool) (pieces : List (List Char)) (begun : List Char) :
    List Char → List (List Char)
  | [] => (begun.reverse :: pieces).reverse
  | c :: rest =>
    if isBreak c then piecesAfter isBreak (begun.reverse :: pieces) [] rest
    else piecesAfter isBreak pieces (c :: begun) rest

/-- The pieces between characters of a class, some of which may be empty. -/
def pieces (isBreak : Char → Bool) (text : List Char) : List (List Char) :=
  piecesAfter isBreak [] [] text

/-- The words between white space. -/
def split (text : List Char) : List (List Char) :=
  (pieces isSpace text).filter (!·.isEmpty)

/-- The number that a word is, if it consists of digits, with or without a plus sign. -/
def decimal? (word : List Char) : Option Nat :=
  let digits := if word.head? == some '+' then word.tail else word
  if digits.isEmpty || !digits.all Char.isDigit then none
  else some (digits.foldl (fun value digit => 10 * value + (digit.toNat - '0'.toNat)) 0)

/-- The number that hexadecimal digits make. Other characters count as zero. -/
def hexadecimal (digits : List Char) : Nat :=
  digits.foldl (fun value digit => 16 * value + ((hexValue? digit.toUInt8).getD 0).toNat) 0

end PdfText.Words

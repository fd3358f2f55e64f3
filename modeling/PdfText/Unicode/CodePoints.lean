import PdfText.Unicode.Words

/-!
# Sets of code points

Properties of characters are given as lists of code points and ranges of them, written in
hexadecimal digits with a hyphen between the ends of a range.

## Main definitions

* `CodePointRange`, `CodePoints` — a range of code points, and a set made of ranges
* `CodePoints.ofText` — the set that a list describes
-/

namespace PdfText

/-- The code points from `first` to `last`. -/
structure CodePointRange where
  first : Nat
  last : Nat
  deriving Repr

/-- A set of code points. -/
abbrev CodePoints := List CodePointRange

/-- The range that a word describes: one code point, or two with a hyphen between. -/
def CodePointRange.ofWord (word : List Char) : CodePointRange :=
  match Words.pieces (· == '-') word with
  | [first, last] => ⟨Words.hexadecimal first, Words.hexadecimal last⟩
  | _ => ⟨Words.hexadecimal word, Words.hexadecimal word⟩

/-- Whether a range has a code point. -/
def CodePointRange.has (range : CodePointRange) (code : Nat) : Bool :=
  range.first ≤ code && code ≤ range.last

/-- The set that a list of code points and ranges describes. -/
def CodePoints.ofText (text : String) : CodePoints :=
  (Words.split text.toList).map CodePointRange.ofWord

/-- Whether a set has a character. -/
def CodePoints.has (set : CodePoints) (c : Char) : Bool := set.any (·.has c.toNat)

end PdfText

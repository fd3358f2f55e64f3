import PdfText.Unicode.Decomposition
import Std.Data.TreeMap

/-!
# The composed form of compatibility

Different sequences of characters can be the same text, and others differ in appearance only. The
composed form of compatibility (NFKC) is one spelling for all of them: characters are taken apart
as far as they go, marks are put in the order of their classes, and what can be composed again is
composed.

## Main definitions

* `Normalization.decompose` — takes characters apart
* `Normalization.order` — puts marks in order
* `Normalization.compose` — composes characters again
* `Normalization.normalize` — all three
-/

namespace PdfText.Normalization

/-! ## Tables -/

/-- The two sides of a word of a table. -/
def sides (word : List Char) : List Char × List Char :=
  match Words.pieces (· == '=') word with
  | [left, right] => (left, right)
  | _ => (word, [])

/-- The code points on the right side of a word. -/
def codesOf (right : List Char) : List Nat := (Words.pieces (· == '+') right).map Words.hexadecimal

/-- Enters the code points that a word takes apart. A range is replaced by a range. -/
def enterParts (parts : Std.TreeMap Nat (List Nat)) (word : List Char) :
    Std.TreeMap Nat (List Nat) :=
  let (left, right) := sides word
  let range := CodePointRange.ofWord left
  (List.range (range.last + 1 - range.first)).foldl (fun parts i =>
    parts.insert (range.first + i) ((codesOf right).map (· + i))) parts

/-- What code points are made of. -/
def parts : Std.TreeMap Nat (List Nat) :=
  (Words.split compositionTable.toList ++ Words.split replacementTable.toList).foldl enterParts ∅

/-- What pairs of code points make. -/
def pairs : Std.TreeMap (Nat × Nat) Nat (compareLex (compareOn Prod.fst) (compareOn Prod.snd)) :=
  (Words.split compositionTable.toList).foldl (fun pairs word =>
    let (left, right) := sides word
    match codesOf right with
    | [first, second] => pairs.insert (first, second) (Words.hexadecimal left)
    | _ => pairs) ∅

/-- The classes of marks. -/
def classes : List (CodePointRange × Nat) :=
  (Words.split combiningClassTable.toList).map fun word =>
    let (left, right) := sides word
    (.ofWord left, Words.hexadecimal right)

/-- The class of a code point: 0 for one that does not combine with one before it. -/
def classOf (code : Nat) : Nat :=
  ((classes.find? fun entry => entry.1.has code).map Prod.snd).getD 0

/-! ## Korean syllables -/

/-- The first syllable. -/
def syllableBase : Nat := 0xAC00

/-- How many syllables there are. -/
def syllableCount : Nat := 11172

/-- The letters of a syllable: a leading consonant, a vowel and perhaps a trailing consonant. -/
def syllableParts (code : Nat) : List Nat :=
  let index := code - syllableBase
  let front := [0x1100 + index / 588, 0x1161 + index % 588 / 28]
  if index % 28 = 0 then front else front ++ [0x11A7 + index % 28]

/-- Whether a code point is a syllable. -/
def isSyllable (code : Nat) : Bool := syllableBase ≤ code && code < syllableBase + syllableCount

/-- The syllable that a leading consonant and a vowel make, or one without a trailing consonant and
such a consonant. -/
def syllableOf? (first second : Nat) : Option Nat :=
  if 0x1100 ≤ first ∧ first < 0x1113 ∧ 0x1161 ≤ second ∧ second < 0x1176 then
    some (syllableBase + 588 * (first - 0x1100) + 28 * (second - 0x1161))
  else if isSyllable first ∧ (first - syllableBase) % 28 = 0 ∧
      0x11A7 < second ∧ second < 0x11C3 then
    some (first + (second - 0x11A7))
  else none

/-! ## The three steps -/

/-- How often parts are taken apart again at most; no character goes that deep. -/
def maxDepth : Nat := 8

/-- What a code point is made of, taken apart `depth` times. -/
def decomposeCode : (depth : Nat) → Nat → List Nat
  | 0, code => [code]
  | depth + 1, code =>
    if isSyllable code then syllableParts code
    else
      match parts[code]? with
      | none => [code]
      | some codes => codes.flatMap (decomposeCode depth)

/-- Takes code points apart. -/
def decompose (codes : List Nat) : List Nat := codes.flatMap (decomposeCode maxDepth)

/-- Puts a mark among marks that are ordered by class, behind those of its own class. -/
def insertMark (mark : Nat × Nat) : List (Nat × Nat) → List (Nat × Nat)
  | [] => [mark]
  | other :: rest =>
    if mark.1 < other.1 then mark :: other :: rest else other :: insertMark mark rest

/-- Orders marks by class, where `marks` are those since the last code point that is none. -/
def order (marks : List (Nat × Nat)) : List Nat → List Nat
  | [] => marks.map Prod.snd
  | code :: rest =>
    match classOf code with
    | 0 => marks.map Prod.snd ++ code :: order [] rest
    | rank => order (insertMark (rank, code) marks) rest

/-- What two code points make. -/
def pairOf? (first second : Nat) : Option Nat :=
  (syllableOf? first second).or pairs[(first, second)]?

/-- Composes code points. `base` is the last code point that is no mark, and `marks` are those after
it that were not composed with it, last mark first. -/
def composeFrom (base : Nat) (marks : List Nat) : List Nat → List Nat
  | [] => base :: marks.reverse
  | code :: rest =>
    let rank := classOf code
    let isFree := match marks with
      | [] => true
      | last :: _ => classOf last < rank
    match if isFree then pairOf? base code else none with
    | some made => composeFrom made marks rest
    | none =>
      if rank = 0 then base :: marks.reverse ++ composeFrom code [] rest
      else composeFrom base (code :: marks) rest

/-- Composes code points. Marks before all else stay as they are. -/
def compose : List Nat → List Nat
  | [] => []
  | code :: rest => if classOf code = 0 then composeFrom code [] rest else code :: compose rest

/-- The composed form of compatibility of a text. -/
def normalize (text : List Char) : List Char :=
  (compose (order [] (decompose (text.map Char.toNat)))).map Char.ofNat

end PdfText.Normalization

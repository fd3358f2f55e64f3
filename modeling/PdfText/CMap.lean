import PdfText.CMap.Grammar
import PdfText.CMap.IntervalMap
import PdfText.Error.Pdf
import PdfText.Unicode.Utf16

/-!
# CMaps

A CMap says which text a code of a font stands for. There is one interval map for each length of
code. A text of one unit on an interval is kept as the distance from code to unit, so that
neighbouring codes with neighbouring units share an interval. A longer text counts up in its last
unit from the start of the interval it lies on, and a list of texts is counted off from there.

To decode a string, bytes are collected until they are a code that has a text. Four bytes that are
none, or bytes left over at the end, give one U+FFFD.

## Main definitions

* `CMap.Value`, `CMap` — texts on intervals of codes, for each length of code
* `CMap.parse` — the CMap that some bytes describe
* `CMap.decode` — the text of a string
-/

namespace PdfText

/-- What the codes of an interval stand for. -/
inductive CMap.Value where
  /-- One unit: the code plus a distance, modulo 2^32. -/
  | shifted (distance : Nat)
  /-- Several units, the last of which counts up. -/
  | counted (units : List Nat)
  /-- A text for each code. -/
  | listed (texts : List (List Nat))
  deriving DecidableEq, Repr

/-- Texts of codes: an interval map for each length of code from one byte on. -/
structure CMap where
  maps : List (IntervalMap CMap.Value)
  deriving Repr

namespace CMap

/-- The CMap without any code. -/
def empty : CMap := ⟨[[], [], [], []]⟩

/-- The value that puts a text on a code and counts up from there. -/
def Value.ofText (code : Nat) : List Nat → Value
  | [unit] => .shifted ((unit + sizeOfBits 32 - code) % sizeOfBits 32)
  | units => .counted units

/-- The value that a target puts on a range with the given first code. A list of one text is that
text. -/
def Value.ofTarget (first : Nat) : Target → Value
  | .start units => .ofText first units
  | .each [units] => .ofText first units
  | .each texts => .listed texts

/-- Puts a value on the codes of one length from `first` to `last`. -/
def insert (cmap : CMap) (length first last : Nat) (value : Value) : CMap :=
  ⟨cmap.maps.modify (length - 1) (·.insert ⟨first, last, value⟩)⟩

/-- Adds a range. Its last code must not come before its first. -/
def addRange (cmap : CMap) (range : Code × Code × Target) : Except CMapError CMap :=
  let (first, last, target) := range
  if last.value < first.value then .error .invalidRange
  else .ok (cmap.insert first.length first.value last.value (.ofTarget first.value target))

/-- Adds a section. -/
def addSection (cmap : CMap) : Section → Except CMapError CMap
  | .codeSpace => .ok cmap
  | .characters pairs => .ok <| pairs.foldl (fun cmap (code, units) =>
      cmap.insert code.length code.value code.value (.ofText code.value units)) cmap
  | .ranges triples => triples.foldlM addRange cmap

/-- The CMap that some bytes describe. -/
def parse (bytes : Bytes) : Except CMapError CMap :=
  match (program (bytes.length + 1)).value? bytes with
  | none => .error .unreadable
  | some sections => sections.foldlM addSection empty

/-- Adds to the last unit of a text, modulo 2^16. -/
def addToLast (amount : Nat) (units : List Nat) : List Nat :=
  match units.reverse with
  | [] => []
  | last :: others => (((last + amount) % sizeOfBits 16) :: others).reverse

/-- The text of a code on an interval of codes. A list may be too short for it. -/
def unitsOn (interval : Interval Value) (code : Nat) : Except Defect (List Nat) :=
  match interval.value with
  | .shifted distance => .ok [(code + distance) % sizeOfBits 16]
  | .counted units => .ok (addToLast (code - interval.first) units)
  | .listed texts =>
    match texts[code - interval.first]? with
    | some units => .ok units
    | none => .error .rangeTargets

/-- The text of a code, if it has one. -/
def units? (cmap : CMap) (length code : Nat) : Except Defect (Option (List Nat)) :=
  match IntervalMap.find? code (cmap.maps.getD (length - 1) []) with
  | none => .ok none
  | some interval => (unitsOn interval code).map some

/-- The unit of U+FFFD. -/
def replacementUnit : Nat := 0xFFFD

/-- The units of a string, given the units so far, last first, and the code begun. -/
def unitsOfString (cmap : CMap) (units : List Nat) (length code : Nat) :
    Bytes → Except Defect (List Nat)
  | [] => .ok ((if length = 0 then units else replacementUnit :: units).reverse)
  | b :: rest => do
    let (units, length, code) :=
      if length = 4 then (replacementUnit :: units, 1, b.toNat)
      else (units, length + 1, 256 * code + b.toNat)
    match ← cmap.units? length code with
    | some found => unitsOfString cmap (found.reverse ++ units) 0 0 rest
    | none => unitsOfString cmap units length code rest

/-- The text of a string. -/
def decode (cmap : CMap) (bytes : Bytes) : Except Defect (List Char) :=
  (unitsOfString cmap [] 0 0 bytes).map fun units => Utf16.decode (units.flatMap Utf16.unitBytes)

end CMap

end PdfText

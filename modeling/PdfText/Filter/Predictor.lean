import PdfText.Error.Io
import PdfText.Bytes

/-!
# Rows that were predicted

Before compression, the bytes of a row can be replaced by what they differ from a prediction made
from their neighbours. Each row then begins with a byte that tells the prediction used, and
`Predictor.decode` undoes it, row by row.

The average is taken as the byte to the left plus half the byte above.

## Main definitions

* `Predictor.Prediction` — how a row was predicted
* `Predictor.row` — a row of bytes from the differences and the row above
* `Predictor.decode` — the rows behind data of a given shape
-/

namespace PdfText.Predictor

/-- How the bytes of a row were predicted. -/
inductive Prediction where
  /-- Not at all. -/
  | nothing
  /-- By the byte to the left. -/
  | left
  /-- By the byte above. -/
  | above
  /-- By the byte to the left plus half the byte above. -/
  | average
  /-- By the one of left, above and above left that is nearest to left + above - above left. -/
  | paeth
  deriving DecidableEq, Repr

/-- The prediction that the first byte of a row names. -/
def Prediction.ofByte? : UInt8 → Option Prediction
  | 0 => some nothing
  | 1 => some left
  | 2 => some above
  | 3 => some average
  | 4 => some paeth
  | _ => none

/-- The nearest of the three neighbours; left is preferred to above, and above to above left. -/
def nearest (left above corner : UInt8) : UInt8 :=
  let estimate : Int := left.toNat + above.toNat - corner.toNat
  let distance (b : UInt8) : Nat := (estimate - b.toNat).natAbs
  if distance left ≤ distance above ∧ distance left ≤ distance corner then left
  else if distance above ≤ distance corner then above
  else corner

/-- What a byte is predicted to be: from the byte before it in the row, the byte over it in the row
above, and the byte before that one. -/
def Prediction.apply (prediction : Prediction) (before upper corner : UInt8) : UInt8 :=
  match prediction with
  | .nothing => 0
  | .left => before
  | .above => upper
  | .average => before + upper / 2
  | .paeth => nearest before upper corner

/-- A row from its differences. `lefts` and `corners` hold the last bytes of this row and of the
row above, one for each byte of a pixel; `done` holds the row so far, last byte first. -/
def row (prediction : Prediction) (lefts corners done : Bytes) :
    (aboves differences : Bytes) → Bytes
  | above :: aboves, difference :: differences =>
    let left := lefts.headD 0
    let value := difference + prediction.apply left above (corners.headD 0)
    row prediction (lefts.tail ++ [value]) (corners.tail ++ [above]) (value :: done)
      aboves differences
  | _, _ => done.reverse

/-- The shape of predicted data. -/
structure Shape where
  /-- How many bytes a pixel has. -/
  pixelBytes : Nat
  /-- How many bytes a row has, the one for the prediction not counted. -/
  rowBytes : Nat
  deriving Repr

/-- The complaint about a row with an unknown prediction. -/
def unknownPrediction (mark : UInt8) : IoError :=
  .described .invalidData ("invalid PNG filter type (" ++ toString mark.toNat ++ ")")

/-- The rows behind predicted data, at most `budget` of them, after those already decoded, which
come last first. The row above the first is zero. -/
def rows (shape : Shape) : Nat → (above : Bytes) → (done : List Bytes) → Bytes →
    Except IoError Bytes
  | 0, _, done, _ => .ok done.reverse.flatten
  | _ + 1, _, done, [] => .ok done.reverse.flatten
  | budget + 1, above, done, mark :: rest =>
    match Prediction.ofByte? mark with
    | none => .error (unknownPrediction mark)
    | some prediction =>
      if rest.length < shape.rowBytes then .error .bufferNotFilled
      else
        let zeros := List.replicate shape.pixelBytes 0
        let current := row prediction zeros zeros [] above rest
        rows shape budget current (current :: done) (rest.drop shape.rowBytes)

/-- How many bytes there is room for in a row. The program asks for the memory of a whole row before
it reads any, and reports an error if it is not given that much. How much it is given depends on the
machine; this bound stands for any machine, beyond every row that a file could fill. -/
def maxRowBytes : Nat := sizeOfBits 40

/-- The rows behind predicted data. Room is made for a row before any is read. -/
def decode (shape : Shape) (bytes : Bytes) : Except IoError Bytes :=
  if maxRowBytes < shape.rowBytes then .error .outOfMemory
  else
    -- A row that is longer than the data is never read, so no more bytes are needed above it.
    let above := List.replicate (min shape.rowBytes bytes.length) 0
    rows shape bytes.length above [] bytes

end PdfText.Predictor

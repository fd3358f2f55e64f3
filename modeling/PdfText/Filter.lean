import PdfText.Filter.Inflate
import PdfText.Filter.Lzw
import PdfText.Filter.Ascii85
import PdfText.Filter.Predictor

/-!
# Filters

The body of a stream may be stored under one or more filters, which its dictionary names in the
order in which they are to be undone. One dictionary of parameters goes with all of them.

## Main definitions

* `Filter.names` — the filters that a dictionary names
* `Filter.apply` — undoes one filter
* `Filter.decode` — the data behind all filters of a stream
* `Filter.isSound` — whether nothing is found amiss on the way
-/

namespace PdfText.Filter

/-- The name that an object has to be. -/
def nameOf (object : Object) : Except PdfError Bytes :=
  match object with
  | .name letters => .ok letters
  | other => .error (.objectType [.name] other.kind)

/-- The filters that a dictionary names: one name, or a list of names. -/
def names (entries : Dict) : Except PdfError (List Bytes) :=
  match entries.get? "Filter" with
  | none => .error (.missingKey "Filter")
  | some (.name letters) => .ok [letters]
  | some (.array items) => items.mapM nameOf
  | some other => .error (.objectType [.name, .array] other.kind)

/-- The integer parameter at a key, or a default where there is none. -/
def parameter (parameters : Dict) (key : String) (default : Int) : Int :=
  ((parameters.get? key).bind Object.integer?).getD default

/-- The shape of predicted rows that parameters describe, if the data is predicted at all. -/
def shape? (parameters : Dict) : Option Predictor.Shape :=
  let predictor := parameter parameters "Predictor" 1
  if 10 ≤ predictor ∧ predictor ≤ 15 then
    let columns := (max 1 (parameter parameters "Columns" 1)).toNat
    let colors := (max 1 (parameter parameters "Colors" 1)).toNat
    let bits := (max 8 (parameter parameters "BitsPerComponent" 8)).toNat
    let pixelBytes := colors * bits / 8
    some ⟨pixelBytes, columns * pixelBytes⟩
  else none

/-- Undoes the prediction that parameters describe. -/
def unpredict (parameters : Dict) (bytes : Bytes) : Except PdfError Bytes :=
  match shape? parameters with
  | none => .ok bytes
  | some shape => (Predictor.decode shape bytes).mapError .io

/-- Whether the codes of LZW data grow one entry early. -/
def hasEarlyChange (parameters : Dict) : Bool := parameter parameters "EarlyChange" 1 != 0

/-- Undoes one filter. -/
def apply (parameters : Dict) (name bytes : Bytes) : Except PdfError Bytes :=
  if name == ascii "FlateDecode" then unpredict parameters (inflate bytes).data
  else if name == ascii "LZWDecode" then
    unpredict parameters (Lzw.decode (hasEarlyChange parameters) bytes).data
  else if name == ascii "ASCII85Decode" then (Ascii85.decode bytes).mapError .ascii85
  else .error (.unimplemented "decompression algorithms")

/-- Whether one filter finds nothing amiss in what it undoes. -/
def isSoundUnder (parameters : Dict) (name bytes : Bytes) : Bool :=
  if name == ascii "FlateDecode" then (inflate bytes).isSound
  else if name == ascii "LZWDecode" then (Lzw.decode (hasEarlyChange parameters) bytes).isSound
  else if name == ascii "ASCII85Decode" then Ascii85.hasMark bytes
  else true

/-- The parameters of the filters. Only a dictionary that is written out counts. -/
def parameters (entries : Dict) : Dict :=
  ((entries.get? "DecodeParms").bind Object.dictionary?).getD .empty

/-- The data behind all filters of a stream. With an empty list of filters there is none. -/
def decode (entries : Dict) (body : Bytes) : Except PdfError Bytes := do
  match ← names entries with
  | [] => return []
  | first :: others =>
    let start ← apply (parameters entries) first body
    others.foldlM (fun bytes name => apply (parameters entries) name bytes) start

/-- Whether filters find nothing amiss, one after the other, as far as they can be undone. -/
def areSoundUnder (parameters : Dict) : (names : List Bytes) → Bytes → Bool
  | [], _ => true
  | name :: names, bytes =>
    isSoundUnder parameters name bytes &&
      match apply parameters name bytes with
      | .ok data => areSoundUnder parameters names data
      | .error _ => true

/-- Whether nothing is found amiss when the filters of a stream are undone. -/
def isSound (entries : Dict) (body : Bytes) : Bool :=
  match names entries with
  | .ok names => areSoundUnder (parameters entries) names body
  | .error _ => true

/-- The data of a stream: behind its filters if it names any, and as it stands otherwise. -/
def plain (entries : Dict) (body : Bytes) : Except PdfError Bytes :=
  match names entries with
  | .ok (_ :: _) => decode entries body
  | _ => .ok body

end PdfText.Filter

import PdfText.Filter
import PdfText.Grammar.Direct
import PdfText.Unicode.Utf8
import PdfText.Unicode.Words
import Std.Data.TreeMap

/-!
# Object streams

A stream of type `ObjStm` holds objects one after the other. Its data begins with pairs of numbers,
separated by white space: the number of an object and where it begins, counted from the place that
`First` names.

An object stream that has been unpacked is kept with its filters undone.

## Main definitions

* `Objects` — objects by their ids
* `ObjectStream` — an object stream with its filters undone
* `ObjectStream.members?` — the objects that it holds
-/

namespace PdfText

/-- Objects by their ids. -/
abbrev Objects := Std.TreeMap ObjectId Object

/-- An object stream with its filters undone, if that was possible. -/
structure ObjectStream where
  /-- Its dictionary. -/
  entries : Dict
  /-- Its data. -/
  data : Bytes

namespace ObjectStream

/-- The object stream that a stream is. -/
def ofStream (entries : Dict) (body : Bytes) : ObjectStream :=
  match Filter.decode entries body with
  | .ok data =>
    let entries := (entries.erase "DecodeParms").erase "Filter"
    ⟨entries.set "Length" (.integer data.length), data⟩
  | .error _ => ⟨entries, body⟩

/-- The object stream that an object is. -/
def ofObject? : Object → Option ObjectStream
  | .stream entries body => if entries.hasType "ObjStm" then some (ofStream entries body) else none
  | _ => none

/-- The stream as it is kept. -/
def object (stream : ObjectStream) : Object := .stream stream.entries stream.data

/-- Pairs of consecutive items. An odd last item is left out. -/
def pairs {α : Type} : List α → List (α × α)
  | first :: second :: rest => (first, second) :: pairs rest
  | _ => []

/-- The object that a pair of numbers announces. -/
def member? (data : Bytes) (first : Nat) (pair : Option Nat × Option Nat) :
    Option (ObjectId × Object) := do
  let number ← pair.1
  let place := first + (← pair.2)
  if data.length ≤ place then none
  let object ← Direct.objectAt? (data.drop place)
  return (⟨number, 0⟩, object)

/-- The numbers at the front of the data, up to the place where the objects begin. A word that is
no number of 32 bits is kept as none. -/
def numbers (index : Bytes) : List (Option Nat) :=
  (Words.split (Utf8.decode index)).map fun word =>
    (Words.decimal? word).filter (· < sizeOfBits 32)

/-- The objects that a stream holds, or nothing if its data does not begin as it should. Of objects
with one number, the last counts. -/
def members? (stream : ObjectStream) : Option Objects := do
  if stream.data.isEmpty then return ∅
  let first ← (stream.entries.get? "First").bind Object.integer?
  let _ ← (stream.entries.get? "N").bind Object.integer?
  if first < 0 ∨ stream.data.length < first then none
  let index := stream.data.take first.toNat
  if !Utf8.isValid index then none
  let found := (pairs (numbers index)).filterMap (member? stream.data first.toNat)
  return Std.TreeMap.ofList found

end ObjectStream

end PdfText

import PdfText.Error
import PdfText.Layout
import PdfText.ObjectStream

/-!
# Documents

A document is the trailer of a file together with its objects. Objects refer to one another by
id, and a reference may lead to a further reference; more than a fixed number of them in a row are
not followed.

`Document.ofLayout` reads the objects of a file that is not encrypted. Each object in use is read
at its offset and kept under the id that it bears itself; one that cannot be read is left out. The
objects inside object streams come after them and replace none. Last, the streams that were read
without a body are given theirs, if it is known where it begins.

## Main definitions

* `Document` — a trailer and objects
* `Document.resolve`, `Document.objectAt` — following references
* `Document.ofLayout` — the document in a file that is not encrypted
-/

namespace PdfText

/-- A trailer and the objects that it leads to. -/
structure Document where
  /-- What the file says about the document. -/
  trailer : Dict
  /-- The objects by their ids. -/
  objects : Objects

namespace Document

/-! ## References -/

/-- How many references in a row are followed. -/
def referenceLimit : Nat := 128

/-- Follows references to an object that is none, at most `left` of them. -/
def follow (objects : Objects) : (left : Nat) → Object → Except PdfError Object
  | left, .reference id =>
    match objects[id]? with
    | none => .error (.objectNotFound id)
    | some target =>
      match left with
      | 0 => .error .referenceLimit
      | left + 1 => follow objects left target
  | _, object => .ok object

/-- The object behind references. -/
def resolve (document : Document) (object : Object) : Except PdfError Object :=
  follow document.objects referenceLimit object

/-- The object with an id, behind references. -/
def objectAt (document : Document) (id : ObjectId) : Except PdfError Object :=
  match document.objects[id]? with
  | none => .error (.objectNotFound id)
  | some object => document.resolve object

/-- The dictionary that an object has to be. -/
def dictionaryOf (object : Object) : Except PdfError Dict :=
  match object with
  | .dictionary entries => .ok entries
  | other => .error (.objectType [.dictionary] other.kind)

/-- The stream that an object has to be. -/
def streamOf (object : Object) : Except PdfError (Dict × Bytes) :=
  match object with
  | .stream entries body => .ok (entries, body)
  | other => .error (.objectType [.stream] other.kind)

/-- The dictionary with an id. -/
def dictionaryAt (document : Document) (id : ObjectId) : Except PdfError Dict :=
  document.objectAt id >>= dictionaryOf

/-- The object at a key of a dictionary, behind references. -/
def resolveAt (document : Document) (entries : Dict) (key : String) : Except PdfError Object :=
  match entries.get? key with
  | none => .error (.missingKey key)
  | some object => document.resolve object

/-! ## Reading the objects of a file -/

/-- Objects as they are read, in the order of the cross-reference table. -/
structure Harvest where
  /-- The objects read at their offsets. -/
  objects : Objects := ∅
  /-- The objects in object streams, last stream first. -/
  packed : List Objects := []
  /-- The ids under which a stream without a body was read, last one first. -/
  hollow : List ObjectId := []
  /-- For each stream of unknown length, how many bytes are left from the start of its body on. -/
  starts : Std.TreeMap ObjectId Nat := ∅

/-- Keeps an object in the form given, with the start of its body. -/
def Harvest.keep (harvest : Harvest) (found : Indirect) (object : Object) : Harvest :=
  { harvest with
    objects := harvest.objects.insert found.id object
    starts := match found.pending with
      | some left => harvest.starts.insert found.id left
      | none => harvest.starts.erase found.id }

/-- Adds an object. An object stream that cannot be unpacked is left out. -/
def Harvest.add (harvest : Harvest) (found : Indirect) : Harvest :=
  match ObjectStream.ofObject? found.object with
  | some stream =>
    match stream.members? with
    | none => harvest
    | some members =>
      { harvest.keep found stream.object with packed := members :: harvest.packed }
  | none =>
    let kept := harvest.keep found found.object
    match found.object with
    | .stream _ [] => { kept with hollow := found.id :: kept.hollow }
    | _ => kept

/-- The objects of both, where those already there count. -/
def addMissing (objects more : Objects) : Objects :=
  more.foldl (fun objects id object => objects.insertIfNew id object) objects

/-- The id of the object that an id leads to, where at most `left` references are followed. -/
def targetOf (objects : Objects) : (left : Nat) → ObjectId → Option ObjectId
  | left, id =>
    match objects[id]? with
    | none => none
    | some (.reference next) =>
      match left with
      | 0 => none
      | left + 1 => targetOf objects left next
    | some _ => some id

/-- Gives the stream that an id leads to the body that begins where `starts` says, if its length is
known by now and the file is long enough. -/
def fillBody (bytes : Bytes) (starts : Std.TreeMap ObjectId Nat) (objects : Objects)
    (id : ObjectId) : Objects :=
  match targetOf objects referenceLimit id with
  | none => objects
  | some target =>
    match objects[target]?, starts[target]? with
    | some (.stream entries _), some left =>
      match (entries.get? "Length").map (follow objects referenceLimit) with
      | some (.ok (.integer (.ofNat length))) =>
        if length ≤ left then
          let body := (bytes.drop (bytes.length - left)).take length
          objects.insert target (Indirect.streamOf entries body)
        else objects
      | _ => objects
    | _, _ => objects

/-- The document in a file that is not encrypted. -/
def ofLayout (layout : Layout) : Document :=
  let harvest := layout.normalEntries.foldl (fun harvest (_, offset) =>
    match layout.indirectAt? offset with
    | some found => harvest.add found
    | none => harvest) ({} : Harvest)
  let objects := harvest.packed.reverse.foldl addMissing harvest.objects
  { trailer := layout.trailer
    objects := harvest.hollow.reverse.foldl (fillBody layout.bytes harvest.starts) objects }

end Document

end PdfText

import PdfText.Security.Decryption

/-!
# Opening a file

A file that is not encrypted is read at once. One that is encrypted is tried with the empty
password first: its objects are cut out of the file unread, the encryption dictionary is read
among them, and if the empty password is accepted, all of them are read and decrypted. Otherwise
the document stays locked, with nothing but its encryption dictionary, until a password is given.

A locked document is opened by its user password. Its objects are then read again, each at the
place that the cross-reference table names, and decrypted; here the first object that cannot be
decrypted ends the attempt.

## Main definitions

* `Opening` — a document that is open, or one that is locked
* `Opening.ofBytes` — what a file gives before a password is known
* `Locked.unlock` — opens a locked document by a password
* `Document.load` — the document in a file, opened by a password if it needs one
-/

namespace PdfText

/-! ## Objects cut out unread -/

/-- Where each object of an encrypted file is written, by the id that it bears. -/
abbrev RawObjects := Std.TreeMap ObjectId Bytes

namespace RawObjects

/-- White space before the word `obj` of an object cut out unread. Null is none. -/
def isGap (b : UInt8) : Bool := isBlank b && b != 0

/-- An id and the word `obj`, between which no comment may stand. -/
def header : Rule ObjectId := do
  let _ ← Rule.run isGap
  let number ← Token.objectNumber
  let _ ← Rule.run isGap
  let generation ← Token.generation
  let _ ← Rule.run isGap
  Rule.literal "obj"
  return ⟨number, generation⟩

/-- The word that ends an object. -/
def ending : Bytes := ascii "endobj"

/-- The object at the front of some bytes, up to and with its last word. Without that word it goes
to the last place where the word could stand. -/
def cut (bytes : Bytes) : Option (ObjectId × Bytes) :=
  (header.value? bytes).map fun id =>
    (id, match bytes.find? ending with
      | some place => bytes.take (place + ending.length)
      | none => bytes.take (bytes.length + 1 - ending.length))

/-- The objects in use. Of objects that bear one id, the last counts. -/
def ofLayout (layout : Layout) : RawObjects :=
  layout.normalEntries.foldl (fun raw (_, offset) =>
    match cut (layout.bytesFrom offset) with
    | some (id, bytes) => raw.insert id bytes
    | none => raw) ∅

end RawObjects

/-! ## Documents that are locked -/

/-- An encrypted document that is not open. -/
structure Locked where
  /-- The file. -/
  layout : Layout
  /-- The trailer and, where it can be found, the encryption dictionary. -/
  shell : Document

namespace Locked

/-- What an encrypted file shows before it is open. -/
def ofRaw (layout : Layout) (raw : RawObjects) : Locked :=
  let known := do
    let id ← (layout.trailer.get? "Encrypt").bind Object.reference?
    let found ← Indirect.read? layout.lengthOf (← raw[id]?)
    return (id, found.object)
  { layout
    shell :=
      { trailer := layout.trailer
        objects := match known with
          | some (id, object) => Std.TreeMap.empty.insert id object
          | none => ∅ } }

/-- The objects at the places that the cross-reference table names, as they are encrypted. An
object counts only if it bears the id of its entry. The encryption dictionary is left out. -/
def reread (layout : Layout) (except : ObjectId) : List (ObjectId × Object) :=
  layout.normalEntries.filterMap fun (id, offset) =>
    if id = except then none
    else (layout.indirectAt? offset).bind fun found =>
      if found.id = id then some (id, found.object) else none

/-- The shell together with all objects, as they are encrypted. -/
def filled (locked : Locked) : Except PdfError Document :=
  match locked.shell.trailer.get? "Encrypt" with
  | none => .error (.missingKey "Encrypt")
  | some (.reference id) =>
    .ok { locked.shell with
          objects := (reread locked.layout id).foldl
            (fun objects (id, object) => objects.insert id object) locked.shell.objects }
  | some other => .error (.objectType [.reference] other.kind)

end Locked

namespace Document

/-- An object as it is kept after unpacking. -/
def unpacked (object : Object) : Object :=
  match ObjectStream.ofObject? object with
  | some stream => stream.object
  | none => object

/-- The objects in the object streams of a document. -/
def packedObjects (objects : Objects) : List Objects :=
  objects.values.filterMap fun object =>
    (ObjectStream.ofObject? object).bind ObjectStream.members?

/-- The objects of a document whose objects are encrypted, and the id of the encryption dictionary
among them. A password that is not accepted, and an object that cannot be decrypted, are errors. -/
def decryptedObjects (document : Document) (password : String) :
    Except PdfError (ObjectId × Objects) := do
  let some id := document.encryptionId? | throw .notEncrypted
  document.authenticate password
  let cryptor ← Cryptor.ofPassword document password
  return (id, ← cryptor.decryptObjects id document.objects)

/-- Decrypts a document whose objects are encrypted. -/
def decrypt (document : Document) (password : String) : Except PdfError Document := do
  let (id, objects) ← document.decryptedObjects password
  let kept := objects.map fun _ object => unpacked object
  return { trailer := document.trailer.erase "Encrypt"
           objects := ((packedObjects objects).foldl addMissing kept).erase id }

/-- The objects of an encrypted file, decrypted as far as that is possible. -/
def decryptRaw (layout : Layout) (cryptor : Cryptor) (raw : RawObjects) : Objects :=
  raw.foldl (fun objects id bytes =>
    match Indirect.read? layout.lengthOf bytes with
    | some found => objects.insert id (cryptor.decryptObject id found.object).1
    | none => objects) ∅

/-- The objects in the object stream with a number, if it can be unpacked. -/
def unpackAt? (objects : Objects) (container : Nat) : Option Objects :=
  match objects[(⟨container, 0⟩ : ObjectId)]? with
  | some (.stream entries body) => (ObjectStream.ofStream entries body).members?
  | _ => none

/-- The object streams that a cross-reference table names, unpacked, by their numbers. -/
def unpackNamed (layout : Layout) (objects : Objects) : Std.TreeMap Nat Objects :=
  layout.entries.foldl (fun unpacked _ entry =>
    match entry with
    | .compressed container _ =>
      if unpacked.contains container then unpacked
      else
        match unpackAt? objects container with
        | some members => unpacked.insert container members
        | none => unpacked
    | .normal .. => unpacked) ∅

/-- Puts in the objects that the cross-reference table finds in object streams. -/
def addPacked (layout : Layout) (objects : Objects) : Objects :=
  let unpacked := unpackNamed layout objects
  layout.entries.foldl (fun all number entry =>
    match entry with
    | .compressed container _ =>
      match unpacked[container]?.bind fun members => members[(⟨number, 0⟩ : ObjectId)]? with
      | some object => all.insert ⟨number, 0⟩ object
      | none => all
    | .normal .. => all) objects

end Document

/-! ## Opening -/

/-- What a file gives before a password is known. -/
inductive Opening where
  /-- A document that is open. -/
  | opened (document : Document)
  /-- A document that needs a password. -/
  | locked (locked : Locked)

namespace Opening

/-- Whether a password is needed. -/
def isLocked : Opening → Bool
  | opened _ => false
  | locked _ => true

/-- Whether the document was encrypted and is open. Its trailer still tells of the encryption. -/
def isUnlocked : Opening → Bool
  | opened document => (document.trailer.get? "Encrypt").isSome
  | locked _ => false

/-- Opens a file that is encrypted by the empty password, if that is accepted. -/
def ofEncrypted (layout : Layout) : Opening :=
  let raw := RawObjects.ofLayout layout
  let locked := Locked.ofRaw layout raw
  let attempt := do
    locked.shell.authenticate ""
    Cryptor.ofPassword locked.shell ""
  match attempt with
  | .error _ => .locked locked
  | .ok cryptor =>
    .opened
      { trailer := layout.trailer
        objects := Document.addPacked layout (Document.decryptRaw layout cryptor raw) }

/-- What a file with a known layout gives. -/
def ofLayout (layout : Layout) : Opening :=
  if (layout.trailer.get? "Encrypt").isSome then ofEncrypted layout
  else .opened (Document.ofLayout layout)

/-- What a file gives before a password is known. -/
def ofBytes (file : Bytes) : Except PdfError Opening := (Layout.read file).map ofLayout

end Opening

/-- Opens a locked document by a password, which has to be its user password. -/
def Locked.unlock (locked : Locked) (password : String) : Except ExtractError Document := do
  match locked.shell.authenticateUser password with
  | .ok () => ((← locked.filled.mapError .pdf).decrypt password).mapError .pdf
  | .error (.decryption .incorrectPassword) => throw .incorrectPassword
  | .error error => throw (.pdf error)

/-- The document that a file gives with a password, or with none. A document that is open already
needs none. -/
def Opening.document (opening : Opening) (password : Option String) :
    Except ExtractError Document :=
  match opening, password with
  | .opened document, _ => .ok document
  | .locked _, none => .error .passwordRequired
  | .locked shut, some password => shut.unlock password

/-- The document in a file, opened by a password if it needs one. -/
def Document.load (file : Bytes) (password : Option String) : Except ExtractError Document := do
  ((← (Opening.ofBytes file).mapError .pdf).document password)

end PdfText

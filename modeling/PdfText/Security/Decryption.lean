import PdfText.Security.CryptFilter

/-!
# Decrypting objects

Strings and the bodies of streams are encrypted, also strings inside lists and dictionaries; the
strings in the dictionary of a stream are not. Cross-reference streams are never encrypted, and
metadata is not if the document says so. A stream can name a crypt filter of its own.

Decryption goes through an object in order and stops at the first thing that it cannot decrypt.
What comes after that stays encrypted.

## Main definitions

* `Cryptor.decryptObject` — an object decrypted as far as possible, and the error that stopped it
* `Cryptor.decryptObjects` — all objects of a document, or the first error
-/

namespace PdfText.Cryptor

/-- Whether a dictionary describes metadata that is not encrypted. -/
def isOpenMetadata (cryptor : Cryptor) (entries : Dict) : Bool :=
  entries.hasType "Metadata" && !cryptor.encryptMetadata

/-- The method for the body of a stream: that of the crypt filter it names itself, if it names one,
or that for all streams. -/
def streamMethod (cryptor : Cryptor) (entries : Dict) : CryptMethod :=
  let isOwn := match Filter.names entries with
    | .ok names => names.contains (ascii "Crypt")
    | .error _ => false
  match (entries.get? "DecodeParms").bind Object.dictionary? with
  | some parameters =>
    if isOwn then
      (((parameters.get? "Name").bind Object.name?).bind (List.lookup · cryptor.filters)).getD .none
    else cryptor.methodNamed cryptor.streamFilter
  | none => cryptor.methodNamed cryptor.streamFilter

/-- Decrypts the body of a stream. -/
def decryptStream (cryptor : Cryptor) (id : ObjectId) (entries : Dict) (body : Bytes) :
    Object × Option DecryptionError :=
  if entries.hasType "XRef" || cryptor.isOpenMetadata entries then (.stream entries body, none)
  else
    match cryptor.decryptData id (cryptor.streamMethod entries) body with
    | .ok plain => (Indirect.streamOf entries plain, none)
    | .error error => (.stream entries body, some error)

mutual

/-- An object decrypted as far as possible, and the error that stopped it. -/
def decryptObject (cryptor : Cryptor) (id : ObjectId) : Object → Object × Option DecryptionError
  | .string bytes =>
    match cryptor.decryptData id (cryptor.methodNamed cryptor.stringFilter) bytes with
    | .ok plain => (.string plain, none)
    | .error error => (.string bytes, some error)
  | .array items =>
    let (items, error) := decryptItems cryptor id items
    (.array items, error)
  | .dictionary ⟨entries⟩ =>
    if cryptor.isOpenMetadata ⟨entries⟩ then (.dictionary ⟨entries⟩, none)
    else
      let (entries, error) := decryptEntries cryptor id entries
      (.dictionary ⟨entries⟩, error)
  | .stream entries body => decryptStream cryptor id entries body
  | object => (object, none)

/-- Objects in a list, decrypted up to the first error. -/
def decryptItems (cryptor : Cryptor) (id : ObjectId) :
    List Object → List Object × Option DecryptionError
  | [] => ([], none)
  | item :: rest =>
    match decryptObject cryptor id item with
    | (item, some error) => (item :: rest, some error)
    | (item, none) =>
      let (rest, error) := decryptItems cryptor id rest
      (item :: rest, error)

/-- Objects in a dictionary, decrypted up to the first error. -/
def decryptEntries (cryptor : Cryptor) (id : ObjectId) :
    List (Bytes × Object) → List (Bytes × Object) × Option DecryptionError
  | [] => ([], none)
  | (key, value) :: rest =>
    match decryptObject cryptor id value with
    | (value, some error) => ((key, value) :: rest, some error)
    | (value, none) =>
      let (rest, error) := decryptEntries cryptor id rest
      ((key, value) :: rest, error)

end

/-- Decrypts all objects except one, in ascending order of their ids. The first error is the
result. -/
def decryptObjects (cryptor : Cryptor) (except : ObjectId) (objects : Objects) :
    Except PdfError Objects :=
  objects.toList.foldlM (fun decrypted (id, object) =>
    if id = except then .ok decrypted
    else
      match cryptor.decryptObject id object with
      | (object, none) => .ok (decrypted.insert id object)
      | (_, some error) => .error (.decryption error)) objects

end PdfText.Cryptor

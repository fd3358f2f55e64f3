import PdfText.Security.Password

/-!
# Crypt filters

How strings and streams are encrypted is named by crypt filters. A name that stands for none of
them means RC4.

Each object has a key of its own, made from the file key and its id, except where the file key
itself is strong enough.

## Main definitions

* `CryptMethod` — how data is encrypted, `CryptMethod.decrypt` — undoes it
* `Cryptor` — the file key and the crypt filters of a document
* `Cryptor.ofPassword` — what a password gives
-/

namespace PdfText

/-- How data is encrypted. -/
inductive CryptMethod where
  /-- Not at all. -/
  | none
  /-- By RC4. -/
  | rc4
  /-- By AES with a key of 16 bytes. -/
  | aes128
  /-- By AES with a key of 32 bytes. -/
  | aes256
  deriving DecidableEq, Repr

namespace CryptMethod

/-- The key of an object, made from the file key. -/
def derivedKey (key : Bytes) (id : ObjectId) (salt : Bytes) : Bytes :=
  (Md5.digest (key ++ Bytes.littleEndian 3 id.number ++ Bytes.littleEndian 2 id.generation ++
    salt)).take (min (key.length + 5) 16)

/-- The key of an object. -/
def objectKey (key : Bytes) (id : ObjectId) : CryptMethod → Bytes
  | .none => key
  | .rc4 => derivedKey key id []
  | .aes128 => derivedKey key id (ascii "sAlT")
  | .aes256 => key

/-- Takes the padding off: as many bytes as each of them says, one to sixteen. -/
def unpad (data : Bytes) : Except DecryptionError Bytes :=
  let count := (data.getLastD 0).toNat
  if 1 ≤ count ∧ count ≤ 16 ∧
      (data.drop (data.length - count)).all (· == UInt8.ofNat count) then
    .ok (data.take (data.length - count))
  else .error .invalidPadding

/-- Decrypts data that begins with the block that its encryption started from. -/
def decryptAes (keyLength : Nat) (key data : Bytes) : Except DecryptionError Bytes :=
  if key.length ≠ keyLength then .error .invalidKeyLength
  else if data.length % 16 ≠ 0 then .error .invalidCiphertextLength
  else if data.length ≤ 16 then .ok []
  else unpad (Aes.decryptChain key (data.take 16) (data.drop 16))

/-- Decrypts data under the key of its object. -/
def decrypt (key data : Bytes) : CryptMethod → Except DecryptionError Bytes
  | .none => .ok data
  | .rc4 => .ok (Rc4.apply key data)
  | .aes128 => decryptAes 16 key data
  | .aes256 => decryptAes 32 key data

/-- The method that a crypt filter names; one that names none leaves data as it is. -/
def ofName? : Option Bytes → Option CryptMethod
  | .none => some .none
  | some name =>
    if name == ascii "V2" then some .rc4
    else if name == ascii "AESV2" then some .aes128
    else if name == ascii "AESV3" then some .aes256
    else if name == ascii "Identity" then some .none
    else Option.none

end CryptMethod

/-- The file key and the crypt filters of a document. -/
structure Cryptor where
  /-- The file key. -/
  key : Bytes
  /-- The crypt filters by their names. -/
  filters : List (Bytes × CryptMethod)
  /-- The name of the filter for streams. -/
  streamFilter : Bytes
  /-- The name of the filter for strings. -/
  stringFilter : Bytes
  /-- Whether streams of metadata are encrypted. -/
  encryptMetadata : Bool
  deriving Repr

namespace Cryptor

/-- The crypt filter that an entry describes, if it describes one. -/
def filterOf? (entry : Bytes × Object) : Option (Bytes × CryptMethod) := do
  let description ← entry.2.dictionary?
  if (description.get? "Type").isSome && !description.hasType "CryptFilter" then none
  let method ← CryptMethod.ofName? ((description.get? "CFM").bind Object.name?)
  return (entry.1, method)

/-- The crypt filters that an encryption dictionary describes. -/
def filtersOf (entries : Dict) : List (Bytes × CryptMethod) :=
  match (entries.get? "CF").bind Object.dictionary? with
  | none => []
  | some descriptions => descriptions.entries.filterMap filterOf?

/-- The name at a key, or the empty name. -/
def nameAt (entries : Dict) (key : String) : Bytes :=
  ((entries.get? key).bind Object.name?).getD []

/-- Whether a version has crypt filters. -/
def hasFilters (version : Int) : Bool := version == 4 || version == 5

/-- The file key and the crypt filters that a password gives. Only the standard handler is known. -/
def ofPassword (document : Document) (password : String) : Except PdfError Cryptor := do
  let some entries := document.encryption? | throw .notEncrypted
  let some handler := (entries.get? "Filter").bind Object.name? | throw (.missingKey "Filter")
  if handler ≠ ascii "Standard" then throw .unsupportedSecurityHandler
  let settings ← Settings.ofDictionary entries
  let bytes ← (settings.passwordBytes password).mapError .decryption
  let key ← (settings.fileKey document bytes).mapError .decryption
  let encryptMetadata := settings.encryptMetadata
  if hasFilters settings.version then
    return { key, filters := filtersOf entries, streamFilter := nameAt entries "StmF",
             stringFilter := nameAt entries "StrF", encryptMetadata }
  else return { key, filters := [], streamFilter := [], stringFilter := [], encryptMetadata }

/-- The method of the filter with a name. -/
def methodNamed (cryptor : Cryptor) (name : Bytes) : CryptMethod :=
  (cryptor.filters.lookup name).getD .rc4

/-- Decrypts data of an object. -/
def decryptData (cryptor : Cryptor) (id : ObjectId) (method : CryptMethod) (data : Bytes) :
    Except DecryptionError Bytes :=
  method.decrypt (method.objectKey cryptor.key id) data

end Cryptor

end PdfText

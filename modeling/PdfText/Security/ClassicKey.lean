import PdfText.Cipher.Md5
import PdfText.Cipher.Rc4
import PdfText.Security.Settings

/-!
# Passwords and keys of the classic revisions

In the revisions 2 to 4, a password is padded to 32 bytes and digested together with entries of
the document; the digest is the file key. The user password is right if the file key encrypts
known data to what the dictionary holds. The owner password is right if it decrypts what the
dictionary holds to the right user password.

## Main definitions

* `ClassicKey.fileKey` — the file key that a user password makes
* `ClassicKey.checkUser`, `ClassicKey.checkOwner` — whether a password is right
-/

namespace PdfText.ClassicKey

/-- The bytes that fill a password up. -/
def padding : Bytes :=
  [0x28, 0xBF, 0x4E, 0x5E, 0x4E, 0x75, 0x8A, 0x41, 0x64, 0x00, 0x4E, 0x56, 0xFF, 0xFA, 0x01, 0x08,
   0x2E, 0x2E, 0x00, 0xB6, 0xD0, 0x68, 0x3E, 0x80, 0x2F, 0x0C, 0xA9, 0xFE, 0x64, 0x53, 0x69, 0x7A]

/-- A password as 32 bytes. -/
def padded (password : Bytes) : Bytes := (password ++ padding).take 32

/-- How many times the newer of these revisions digest again. -/
def repetitions : Nat := 50

/-- The digest of the first `length` bytes of a digest, `count` times over. -/
def digestAgain (length : Nat) : (count : Nat) → Bytes → Bytes
  | 0, digest => digest
  | count + 1, digest => digestAgain length count (Md5.digest (digest.take length))

/-- The length of keys in bytes. -/
def keyLength (settings : Settings) : Nat :=
  if settings.revision = 2 then 5 else settings.keyLength.getD 40 / 8

/-- The length of keys in bytes, which no digest exceeds. -/
def checkedLength (settings : Settings) : Except DecryptionError Nat :=
  if keyLength settings ≤ 16 then .ok (keyLength settings) else .error .invalidKeyLength

/-- The file key that a user password makes. -/
def fileKey (settings : Settings) (document : Document) (password : Bytes) :
    Except DecryptionError Bytes := do
  let id ← document.fileId
  let hidden := if 4 ≤ settings.revision ∧ !settings.encryptMetadata then
    [0xFF, 0xFF, 0xFF, 0xFF] else []
  let digest := Md5.digest (padded password ++ settings.owner.verifier ++
    Bytes.littleEndian 4 settings.permissions ++ id ++ hidden)
  let length ← checkedLength settings
  if settings.revision = 2 then return digest.take length
  else return (digestAgain length repetitions digest).take length

/-- A key combined with a byte. -/
def keyWith (key : Bytes) (byte : Nat) : Bytes := key.map (· ^^^ UInt8.ofNat byte)

/-- Applies the stream cipher once for each byte, combined with the key. -/
def applyAll (key : Bytes) (bytes : List Nat) (data : Bytes) : Bytes :=
  bytes.foldl (fun data byte => Rc4.apply (keyWith key byte) data) data

/-- What the dictionary holds for the user password that makes a file key. -/
def userVerifier (settings : Settings) (key id : Bytes) : Bytes :=
  if settings.revision = 2 then Rc4.apply key padding
  else applyAll key (List.range 20) (Md5.digest (padding ++ id))

/-- Accepts a user password if it is right. -/
def checkUser (settings : Settings) (document : Document) (password : Bytes) :
    Except DecryptionError Unit := do
  let key ← fileKey settings document password
  let id ← document.fileId
  let expected := userVerifier settings key id
  if settings.user.verifier.take expected.length = expected then return
  else throw .incorrectPassword

/-- The key under which an owner password hides the user password. -/
def ownerKey (settings : Settings) (password : Bytes) : Except DecryptionError Bytes := do
  let digest := Md5.digest (padded password)
  let length ← checkedLength settings
  if settings.revision = 2 then return digest.take length
  else return (digestAgain 16 repetitions digest).take length

/-- The user password that an owner password reveals. -/
def revealed (settings : Settings) (password : Bytes) : Except DecryptionError Bytes := do
  let key ← ownerKey settings password
  if settings.revision = 2 then return Rc4.apply key settings.owner.verifier
  else return applyAll key (List.range 20).reverse settings.owner.verifier

/-- Accepts an owner password if it is right. -/
def checkOwner (settings : Settings) (document : Document) (password : Bytes) :
    Except DecryptionError Unit := do
  checkUser settings document (← revealed settings password)

end PdfText.ClassicKey

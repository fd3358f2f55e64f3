import PdfText.Cipher.Aes
import PdfText.Cipher.Sha256
import PdfText.Cipher.Sha512
import PdfText.Security.Settings

/-!
# Passwords and keys of the modern revisions

In the revisions 5 and 6 the file key is a random one. The dictionary holds it twice, encrypted
under the owner password and under the user password, each with a digest by which the password is
recognised. Revision 6 makes the digest costly: it is digested over and over, with a digest that
the data itself chooses.

## Main definitions

* `ModernKey.hash` — the digest of a password with its salt
* `ModernKey.checkUser`, `ModernKey.checkOwner` — whether a password is right
* `ModernKey.fileKey` — the file key that a password opens
-/

namespace PdfText.ModernKey

/-! ## Digests -/

/-- The digest that is chosen by the remainder of a number divided by three. -/
def chosenDigest (number : Nat) (data : Bytes) : Bytes :=
  match number % 3 with
  | 0 => Sha256.digest data
  | 1 => Sha512.shortDigest data
  | _ => Sha512.digest data

/-- A round: the password, the digest so far and the extra data, 64 times over, are encrypted, and
the result is digested. It comes with the last byte of what was encrypted. -/
def round (password extra digest : Bytes) : Bytes × UInt8 :=
  let text := (List.replicate 64 (password ++ digest ++ extra)).flatten
  let encrypted := Aes.encryptChain (digest.take 16) ((digest.drop 16).take 16) text
  (chosenDigest (Bytes.bigEndian (encrypted.take 16)) encrypted, encrypted.getLastD 0)

/-- The number of the first round after which rounds can end. -/
def leastRounds : Nat := 64

/-- At most so many rounds are needed: by then every byte is small enough to end them. -/
def mostRounds : Nat := 288

/-- Runs rounds until the last byte is no larger than the number of the round less 32, and at least
64 of them. -/
def rounds (password extra : Bytes) : (left : Nat) → (number : Nat) → Bytes → Bytes
  | 0, _, digest => digest
  | left + 1, number, digest =>
    let (next, last) := round password extra digest
    if leastRounds ≤ number ∧ last.toNat + 32 ≤ number then next
    else rounds password extra left (number + 1) next

/-- The digest of a password with a salt, and with extra data for the owner password. -/
def hash (settings : Settings) (password salt extra : Bytes) : Bytes :=
  let first := Sha256.digest (password ++ salt ++ extra)
  if settings.revision = 5 then first else (rounds password extra mostRounds 1 first).take 32

/-! ## Passwords -/

/-- The digest in a verifier. -/
def digestOf (entry : PasswordEntry) : Bytes := entry.verifier.take 32

/-- The salt for recognising a password. -/
def checkSalt (entry : PasswordEntry) : Bytes := (entry.verifier.drop 32).take 8

/-- The salt for opening the file key. -/
def keySalt (entry : PasswordEntry) : Bytes := (entry.verifier.drop 40).take 8

/-- Whether a user password is right. -/
def isUser (settings : Settings) (password : Bytes) : Bool :=
  hash settings password (checkSalt settings.user) [] == digestOf settings.user

/-- Whether an owner password is right. -/
def isOwner (settings : Settings) (password : Bytes) : Bool :=
  hash settings password (checkSalt settings.owner) settings.user.verifier ==
    digestOf settings.owner

/-- Accepts a user password if it is right. -/
def checkUser (settings : Settings) (password : Bytes) : Except DecryptionError Unit :=
  if isUser settings password then .ok () else .error .incorrectPassword

/-- Accepts an owner password if it is right. -/
def checkOwner (settings : Settings) (password : Bytes) : Except DecryptionError Unit :=
  if isOwner settings password then .ok () else .error .incorrectPassword

/-! ## The file key -/

/-- The block of zeros that the encryption of keys starts from. -/
def zeroStart : Bytes := List.replicate 16 0

/-- The file key of an entry, opened by a digest. -/
def openKey (entry : PasswordEntry) (digest : Bytes) : Bytes :=
  Aes.decryptChain digest zeroStart entry.encryptedKey

/-- Whether a file key decrypts the permissions to what the dictionary says. -/
def confirms (settings : Settings) (key : Bytes) : Bool :=
  let plain := Aes.decryptChain key zeroStart settings.encryptedPermissions
  (plain.drop 9).take 3 == ascii "adb" &&
    plain.take 3 == Bytes.littleEndian 3 settings.permissions &&
    (plain.drop 8).take 1 == ascii (if settings.encryptMetadata then "T" else "F")

/-- The file key that a password opens: as the owner password, or else as the user password, where
the permissions have to be as the dictionary says. -/
def fileKey (settings : Settings) (password : Bytes) : Except DecryptionError Bytes :=
  if isOwner settings password then
    .ok (openKey settings.owner
      (hash settings password (keySalt settings.owner) settings.user.verifier))
  else if isUser settings password then
    let key := openKey settings.user (hash settings password (keySalt settings.user) [])
    if confirms settings key then .ok key else .error .incorrectPassword
  else .error .incorrectPassword

end PdfText.ModernKey

import PdfText.Document

/-!
# What an encryption dictionary says

An encrypted document has a dictionary that tells how it was encrypted and by what a password is
recognised. It is read in a fixed order, so that of several faults the first one is reported.

## Main definitions

* `Settings` — what the dictionary says
* `Settings.read` — reads it, or tells its first fault
* `Document.encryption?` — the dictionary of a document
-/

namespace PdfText

namespace Document

/-- The id of the encryption dictionary, if the trailer refers to one. -/
def encryptionId? (document : Document) : Option ObjectId :=
  (document.trailer.get? "Encrypt").bind Object.reference?

/-- The encryption dictionary. A document without one counts as not encrypted. -/
def encryption? (document : Document) : Option Dict := do
  (document.dictionaryAt (← document.encryptionId?)).toOption

/-- The first element of the file identifier, which takes part in making keys. -/
def fileId (document : Document) : Except DecryptionError Bytes :=
  match document.trailer.get? "ID" with
  | none => .error .missingFileId
  | some (.array (.string bytes :: _)) => .ok bytes
  | some _ => .error .invalidType

end Document

/-- A verifier of a password, and the file key under that password. -/
structure PasswordEntry where
  /-- By what the password is recognised. -/
  verifier : Bytes
  /-- The file key, encrypted. Only newer revisions have it. -/
  encryptedKey : Bytes
  deriving Repr

/-- What an encryption dictionary says. -/
structure Settings where
  /-- Whether streams of metadata are encrypted. -/
  encryptMetadata : Bool
  /-- The length of the file key in bits. -/
  keyLength : Option Nat
  /-- Which algorithm encrypts. -/
  version : Int
  /-- Which algorithm makes keys. -/
  revision : Int
  /-- What belongs to the owner password. -/
  owner : PasswordEntry
  /-- What belongs to the user password. -/
  user : PasswordEntry
  /-- What the user may do, as a number of 64 bits. -/
  permissions : Nat
  /-- The permissions, encrypted. Only newer revisions have them. -/
  encryptedPermissions : Bytes
  deriving Repr

namespace Settings

/-- Reports a cause that belongs to encryption. -/
def fail {α : Type} (error : DecryptionError) : Except PdfError α := .error (.decryption error)

/-- Whether a dictionary says that metadata is encrypted, as it is by default. -/
def readMetadata (entries : Dict) : Except PdfError Bool :=
  match entries.get? "EncryptMetadata" with
  | none => .ok true
  | some (.boolean value) => .ok value
  | some _ => fail .invalidType

/-- The length of the file key in bits. -/
def readLength (entries : Dict) : Except PdfError (Option Nat) :=
  match entries.get? "Length" with
  | none => .ok none
  | some (.integer (.ofNat length)) => .ok (some length)
  | some (.integer (.negSucc _)) => .error .negativeInteger
  | some other => .error (.objectType [.integer] other.kind)

/-- Whether a version allows a length. -/
def allowsLength (version : Int) (length : Nat) : Bool :=
  if version = 2 then length % 8 == 0 && 40 ≤ length && length ≤ 128
  else if version = 4 then length == 128
  else version == 5 && length == 256

/-- The version, which has to allow the length that is given. -/
def readVersion (entries : Dict) (length : Option Nat) : Except PdfError Int :=
  match entries.get? "V" with
  | none => fail .missingVersion
  | some (.integer version) =>
    if version = 0 ∨ version = 3 then fail .invalidVersion
    else if version = 1 ∨ version = 2 ∨ version = 4 ∨ version = 5 then
      if length.all (allowsLength version) then .ok version else fail .invalidKeyLength
    else fail .unsupportedVersion
  | some _ => fail .invalidType

/-- The revision. -/
def readRevision (entries : Dict) : Except PdfError Int :=
  match entries.get? "R" with
  | none => fail .missingRevision
  | some (.integer revision) => .ok revision
  | some _ => fail .invalidType

/-- Whether a revision is one of the newer ones, which keep the file key in the dictionary. -/
def isModern (revision : Int) : Bool := 5 ≤ revision

/-- A string of a given length that only the newer revisions have. -/
def readModern (entries : Dict) (revision : Int) (key : String) (length : Nat) :
    Except PdfError Bytes :=
  let bytes := ((entries.get? key).bind Object.string?).getD []
  if isModern revision && bytes.length != length then fail .invalidCiphertextLength else .ok bytes

/-- What belongs to a password: the string at a key, and the one beside it. -/
def readEntry (entries : Dict) (revision : Int) (key keyBeside : String)
    (missing : DecryptionError) : Except PdfError PasswordEntry :=
  match entries.get? key with
  | none => fail missing
  | some (.string verifier) => do
    if verifier.length ≠ (if isModern revision then 48 else 32) then fail .invalidHashLength
    return ⟨verifier, ← readModern entries revision keyBeside 32⟩
  | some _ => fail .invalidType

/-- The permissions. -/
def readPermissions (entries : Dict) : Except PdfError Nat :=
  match entries.get? "P" with
  | none => fail .missingPermissions
  | some (.integer value) => .ok (value % sizeOfBits 64).toNat
  | some _ => fail .invalidType

/-- Reads an encryption dictionary. -/
def ofDictionary (entries : Dict) : Except PdfError Settings := do
  let encryptMetadata ← readMetadata entries
  let keyLength ← readLength entries
  let version ← readVersion entries keyLength
  let revision ← readRevision entries
  let owner ← readEntry entries revision "O" "OE" .missingOwnerPassword
  let user ← readEntry entries revision "U" "UE" .missingUserPassword
  let permissions ← readPermissions entries
  let encryptedPermissions ← readModern entries revision "Perms" 16
  return { encryptMetadata, keyLength, version, revision, owner, user, permissions,
           encryptedPermissions }

/-- Reads the encryption dictionary of a document. -/
def read (document : Document) : Except PdfError Settings :=
  match document.encryption? with
  | none => .error .notEncrypted
  | some entries => ofDictionary entries

end Settings

end PdfText

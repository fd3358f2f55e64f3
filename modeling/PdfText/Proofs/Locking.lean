import PdfText.Proofs.Keystream
import PdfText.Proofs.Outcome
import PdfText.Proofs.Spelling
import PdfText.Proofs.Unlocking

/-!
# Locking documents

A writer locks a document by a user password and an owner password. From both it makes a file key,
and from that a key for each object, under which strings and the bodies of streams are encrypted.
What it takes to make the file key again from the user password is put into the encryption
dictionary: the user password as the owner password hides it, what the file key makes of known data,
and the permissions.

A reader that is given the user password makes the same keys, accepts the password, and gets back
what was encrypted.

## Main definitions

* `Lock` — what a document is locked with
* `Lock.key`, `Lock.dictionary` — the file key, and the encryption dictionary
* `Object.encrypt` — an object with its strings and its body encrypted

## Main results

* `Lock.authenticateUser` — the user password is accepted
* `Lock.cryptor_eq` — and gives the file key
* `Cryptor.decryptObject_encrypt`, `Cryptor.decryptObject_encrypt_stream` — decrypting undoes it
-/

namespace PdfText

/-! ## How long digests are -/

theorem Bytes.length_littleEndian (count value : Nat) : (littleEndian count value).length = count := by
  rw [littleEndian, List.length_map, List.length_range]

theorem Md5.length_digest (data : Bytes) : (digest data).length = 16 := by
  simp [digest, Bytes.length_littleEndian]

theorem ClassicKey.length_applyAll (key : Bytes) (bytes : List Nat) (data : Bytes) :
    (applyAll key bytes data).length = data.length := by
  rw [applyAll]
  induction bytes generalizing data with
  | nil => rfl
  | cons byte bytes ih => rw [List.foldl_cons, ih, Rc4.length_apply]

theorem ClassicKey.length_padded (password : Bytes) : (padded password).length = 32 := by
  have filled : padding.length = 32 := rfl
  rw [padded, List.length_take, List.length_append, filled]
  omega

/-! ## Locks -/

/-- What a document is locked with: two passwords, the permissions, the identifier of the file, and
as many bytes again that no reader looks at. -/
structure Lock where
  user : String
  owner : String
  permissions : Int64
  fileId : Bytes
  filler : Bytes
  length_fileId : fileId.length = 16
  length_filler : filler.length = 16

namespace Lock

open ClassicKey

variable (lock : Lock)

/-- The key under which the owner password hides the user password. -/
def ownerKey : Bytes :=
  (digestAgain 16 repetitions (Md5.digest (padded (Settings.documentBytes lock.owner)))).take 16

/-- The user password, hidden by the owner password. -/
def ownerEntry : Bytes :=
  applyAll lock.ownerKey (List.range 20) (padded (Settings.documentBytes lock.user))

/-- The permissions as a word. -/
def word : Nat := (lock.permissions.toInt % sizeOfBits 64).toNat

/-- The file key. -/
def key : Bytes :=
  (digestAgain 16 repetitions (Md5.digest (padded (Settings.documentBytes lock.user) ++
    lock.ownerEntry ++ Bytes.littleEndian 4 lock.word ++ lock.fileId))).take 16

/-- What the file key makes of known data, filled up. -/
def userEntry : Bytes :=
  applyAll lock.key (List.range 20) (Md5.digest (padding ++ lock.fileId)) ++ lock.filler

/-- The encryption dictionary. -/
def dictionary : Dict :=
  ⟨[(ascii "Filter", .name (ascii "Standard")), (ascii "V", .integer 2), (ascii "R", .integer 3),
    (ascii "Length", .integer 128), (ascii "O", .string lock.ownerEntry),
    (ascii "U", .string lock.userEntry), (ascii "P", .integer lock.permissions.toInt)]⟩

/-- What a reader takes the encryption dictionary for. -/
def settings : Settings where
  encryptMetadata := true
  keyLength := some 128
  version := 2
  revision := 3
  owner := ⟨lock.ownerEntry, []⟩
  user := ⟨lock.userEntry, []⟩
  permissions := lock.word
  encryptedPermissions := []

/-- The cryptor of a reader that has made the file key. -/
def cryptor : Cryptor where
  key := lock.key
  filters := []
  streamFilter := []
  stringFilter := []
  encryptMetadata := true

theorem length_ownerEntry : lock.ownerEntry.length = 32 := by
  rw [ownerEntry, length_applyAll, length_padded]

theorem length_userEntry : lock.userEntry.length = 32 := by
  rw [userEntry, List.length_append, length_applyAll, Md5.length_digest, lock.length_filler]

theorem settings_eq : Settings.ofDictionary lock.dictionary = .ok lock.settings := by
  have owner : Settings.readEntry lock.dictionary 3 "O" "OE" .missingOwnerPassword =
      .ok ⟨lock.ownerEntry, []⟩ := by
    have held : lock.dictionary.get? "O" = some (.string lock.ownerEntry) := rfl
    rw [Settings.readEntry, held]
    simp only
    rw [if_neg (by rw [length_ownerEntry]; decide)]
    rfl
  have user : Settings.readEntry lock.dictionary 3 "U" "UE" .missingUserPassword =
      .ok ⟨lock.userEntry, []⟩ := by
    have held : lock.dictionary.get? "U" = some (.string lock.userEntry) := rfl
    rw [Settings.readEntry, held]
    simp only
    rw [if_neg (by rw [length_userEntry]; decide)]
    rfl
  have metadata : Settings.readMetadata lock.dictionary = .ok true := rfl
  have length : Settings.readLength lock.dictionary = .ok (some 128) := rfl
  have version : Settings.readVersion lock.dictionary (some 128) = .ok 2 := rfl
  have revision : Settings.readRevision lock.dictionary = .ok 3 := rfl
  have permissions : Settings.readPermissions lock.dictionary = .ok lock.word := rfl
  have encrypted : Settings.readModern lock.dictionary 3 "Perms" 16 = .ok [] := rfl
  simp only [Settings.ofDictionary, metadata, length, version, revision, owner, user, permissions,
    encrypted, Except.ok_bind]
  rfl

theorem revision_settings : lock.settings.revision = 3 := rfl

theorem owner_settings : lock.settings.owner = ⟨lock.ownerEntry, []⟩ := rfl

theorem user_settings : lock.settings.user = ⟨lock.userEntry, []⟩ := rfl

section Reader

variable {lock} {document : Document}

/-- The reader makes the file key of the writer. -/
theorem fileKey_eq (identified : document.fileId = .ok lock.fileId) :
    ClassicKey.fileKey lock.settings document (Settings.documentBytes lock.user) = .ok lock.key := by
  have length : checkedLength lock.settings = .ok 16 := by
    have given : keyLength lock.settings = 16 := by
      have bits : lock.settings.keyLength = some 128 := rfl
      rw [keyLength, revision_settings, if_neg (by decide), bits, Option.getD_some]
    rw [checkedLength, given, if_pos (Nat.le_refl 16)]
  have hidden : (if 4 ≤ lock.settings.revision ∧ !lock.settings.encryptMetadata then
      [0xFF, 0xFF, 0xFF, 0xFF] else ([] : Bytes)) = [] := by
    rw [revision_settings, if_neg (by simp)]
  rw [ClassicKey.fileKey, identified]
  simp only [Except.ok_bind, length, hidden, List.append_nil]
  have permissions : lock.settings.permissions = lock.word := rfl
  rw [revision_settings, if_neg (by decide), owner_settings, permissions, key]
  dsimp only
  rfl

/-- The reader accepts the user password. -/
theorem checkUser_eq (identified : document.fileId = .ok lock.fileId) :
    ClassicKey.checkUser lock.settings document (Settings.documentBytes lock.user) = .ok () := by
  have verifier : userVerifier lock.settings lock.key lock.fileId =
      applyAll lock.key (List.range 20) (Md5.digest (padding ++ lock.fileId)) := rfl
  have held : lock.settings.user.verifier = applyAll lock.key (List.range 20)
      (Md5.digest (padding ++ lock.fileId)) ++ lock.filler := by
    rw [user_settings, userEntry]
  rw [ClassicKey.checkUser, fileKey_eq identified, identified]
  simp only [Except.ok_bind, verifier, held, List.take_left', if_pos]
  rfl

theorem settings_read (known : document.encryption? = some lock.dictionary) :
    Settings.read document = .ok lock.settings := by
  rw [Settings.read, known]
  exact lock.settings_eq

theorem authenticateUser (known : document.encryption? = some lock.dictionary)
    (identified : document.fileId = .ok lock.fileId) :
    document.authenticateUser lock.user = .ok () := by
  have accepted : lock.settings.checkUser document (Settings.documentBytes lock.user) = .ok () :=
    checkUser_eq identified
  rw [Document.authenticateUser, Document.authenticateBy, settings_read known]
  change (lock.settings.checkUser document (Settings.documentBytes lock.user)).mapError _ = _
  rw [accepted]
  rfl

theorem cryptor_eq (known : document.encryption? = some lock.dictionary)
    (identified : document.fileId = .ok lock.fileId) :
    Cryptor.ofPassword document lock.user = .ok lock.cryptor := by
  have made : lock.settings.fileKey document (Settings.documentBytes lock.user) = .ok lock.key :=
    fileKey_eq identified
  have handler : (lock.dictionary.get? "Filter").bind Object.name? = some (ascii "Standard") := rfl
  have bytes : lock.settings.passwordBytes lock.user = .ok (Settings.documentBytes lock.user) := rfl
  have done : (Except.ok (Settings.documentBytes lock.user)).mapError PdfError.decryption =
      .ok (Settings.documentBytes lock.user) := rfl
  simp only [Cryptor.ofPassword, known, handler, ne_eq, not_true, if_false, lock.settings_eq, bytes,
    done, made, Except.ok_bind]
  rfl

theorem authenticate (known : document.encryption? = some lock.dictionary)
    (identified : document.fileId = .ok lock.fileId) :
    document.authenticate lock.user = .ok () :=
  Document.authenticate_of_authenticateUser (authenticateUser known identified)

end Reader

end Lock

/-! ## Encrypted objects -/

namespace Object

mutual

/-- An object with its strings and the bodies of its streams changed. -/
def mapData (change : Bytes → Bytes) : Object → Object
  | .string bytes => .string (change bytes)
  | .array items => .array (mapItems change items)
  | .dictionary ⟨entries⟩ => .dictionary ⟨mapEntries change entries⟩
  | .stream entries body => .stream entries (change body)
  | object => object

/-- Objects in a list, changed. -/
def mapItems (change : Bytes → Bytes) : List Object → List Object
  | [] => []
  | item :: rest => mapData change item :: mapItems change rest

/-- Objects in a dictionary, changed. -/
def mapEntries (change : Bytes → Bytes) : List (Bytes × Object) → List (Bytes × Object)
  | [] => []
  | (key, value) :: rest => (key, mapData change value) :: mapEntries change rest

end

/-- An object encrypted by RC4, under a key made from the file key and its id. -/
def encrypt (key : Bytes) (id : ObjectId) (object : Object) : Object :=
  object.mapData (Rc4.apply (CryptMethod.derivedKey key id []))

end Object

namespace Cryptor

variable {cryptor : Cryptor} {id : ObjectId}

/-- A cryptor of the older revisions, which know no crypt filters and encrypt metadata too. -/
structure IsClassic (cryptor : Cryptor) : Prop where
  noFilters : cryptor.filters = []
  metadata : cryptor.encryptMetadata = true

namespace IsClassic

theorem methodNamed (classic : cryptor.IsClassic) (name : Bytes) :
    cryptor.methodNamed name = .rc4 := by
  rw [Cryptor.methodNamed, classic.noFilters]
  rfl

theorem isOpenMetadata (classic : cryptor.IsClassic) (entries : Dict) :
    cryptor.isOpenMetadata entries = false := by
  rw [Cryptor.isOpenMetadata, classic.metadata, Bool.not_true, Bool.and_false]

end IsClassic

/-- The key stream is the same again, so that what it changed is back. -/
theorem decryptData_apply (id : ObjectId) (bytes : Bytes) :
    cryptor.decryptData id .rc4 (Rc4.apply (CryptMethod.derivedKey cryptor.key id []) bytes) =
      .ok bytes := by
  have same : CryptMethod.objectKey cryptor.key id .rc4 = CryptMethod.derivedKey cryptor.key id [] :=
    rfl
  rw [decryptData, same, CryptMethod.decrypt, Rc4.apply_apply]

theorem decryptItems_mapItems {change : Bytes → Bytes} {items : List Object}
    (each : ∀ item ∈ items, cryptor.decryptObject id (item.mapData change) = (item, none)) :
    cryptor.decryptItems id (Object.mapItems change items) = (items, none) := by
  induction items with
  | nil => rfl
  | cons item rest ih =>
    obtain ⟨first, others⟩ := List.forall_mem_cons.mp each
    rw [Object.mapItems, decryptItems, first]
    simp only
    rw [ih others]

theorem decryptEntries_mapEntries {change : Bytes → Bytes} {entries : List (Bytes × Object)}
    (each : ∀ entry ∈ entries, cryptor.decryptObject id (entry.2.mapData change) = (entry.2, none)) :
    cryptor.decryptEntries id (Object.mapEntries change entries) = (entries, none) := by
  induction entries with
  | nil => rfl
  | cons entry rest ih =>
    obtain ⟨first, others⟩ := List.forall_mem_cons.mp each
    rw [Object.mapEntries, decryptEntries, first]
    simp only
    rw [ih others]

/-- Decrypting an object gives back what was encrypted. -/
theorem decryptObject_encrypt (classic : cryptor.IsClassic) {object : Object}
    (readable : object.IsReadable) :
    cryptor.decryptObject id (object.encrypt cryptor.key id) = (object, none) := by
  rw [Object.encrypt]
  -- By induction on the object: strings are encrypted, arrays and dictionaries by what they hold,
  -- and all others are left as they are.
  induction readable with
  | string =>
    rw [Object.mapData, decryptObject, classic.methodNamed, decryptData_apply]
  | array _ ih => rw [Object.mapData, decryptObject, decryptItems_mapItems ih]
  | dictionary _ _ _ ih =>
    rw [Object.mapData, decryptObject, classic.isOpenMetadata, if_neg (by decide),
      decryptEntries_mapEntries ih]
  | _ => rfl

/-- Decrypting a stream that names no filter of its own gives back what was encrypted. -/
theorem decryptObject_encrypt_stream (classic : cryptor.IsClassic) {entries : Dict} {body : Bytes}
    (untyped : entries.hasType "XRef" = false)
    (plain : (entries.get? "DecodeParms").bind Object.dictionary? = none) :
    cryptor.decryptObject id (Object.encrypt cryptor.key id (.stream entries body)) =
      (Indirect.streamOf entries body, none) := by
  have method : cryptor.streamMethod entries = .rc4 := by
    rw [streamMethod, plain]
    exact classic.methodNamed _
  rw [Object.encrypt, Object.mapData, decryptObject, decryptStream, untyped,
    classic.isOpenMetadata, method, decryptData_apply]
  rfl

end Cryptor

theorem Lock.isClassic (lock : Lock) : lock.cryptor.IsClassic := ⟨rfl, rfl⟩

end PdfText

import PdfText.Proofs.LockedBooklet

/-!
# Locked booklets and their texts

A booklet that is locked has the texts that it has without a lock, with one exception. The file of a
locked booklet is cut up at the words `endobj`, and what the stream cipher makes of the data may
hold the word by chance. A content stream in which it stands is lost when the empty password opens
the booklet, and its page is empty. If the word stands in the encryption dictionary, the booklet is
lost as a whole. That is a defect of the reader, since the same objects are not lost when they are
read again. Passwords and texts by which it happens can be found, and two such locks are worked out
here.

## Main definitions

* `Booklet.shownText` — what a page shows of a text
* `Booklet.textsLeft` — the texts that are left when the file is cut up
* `Lock.ComesTo` — the keys and the entries that a lock comes to
* `tornLock`, `lossyLock` — locks under which booklets and pages are lost

## Main results

* `Booklet.locking_keeps_texts` — the texts of a booklet with and without a lock
* `Booklet.locking_loses_texts` — they are not always the same
-/

namespace PdfText

open Except (FailsOnly)

/-! ## Failures of pages -/

/-- No page fails for want of a password. -/
theorem Document.extract_failsOnly (document : Document) :
    FailsOnly (· ≠ Halt.cause ExtractError.passwordRequired) document.extract := by
  have pages : FailsOnly (· ≠ Halt.cause ExtractError.passwordRequired) document.pageTexts := by
    refine .mapM (fun index => ?_) _
    rw [pageText]
    split
    · refine .mapError fun reason => ?_
      cases reason <;> simp [Halt.map]
    · exact .error (by simp)
  rw [extract_eq]
  exact pages.bind fun texts => .ok (joinPages texts)

namespace Extractor

variable {extractor : Extractor} {file : Bytes}

/-- A password is asked for when the document is loaded. -/
theorem load_of_fromBytes
    (asked : extractor.fromBytes file = .error (.cause .passwordRequired)) :
    Document.load file extractor.password = .error .passwordRequired := by
  rw [fromBytes] at asked
  cases loaded : Document.load file extractor.password with
  | error reason =>
    rw [loaded] at asked
    cases asked
    rfl
  | ok document =>
    rw [loaded] at asked
    exact absurd rfl (document.extract_failsOnly _ asked)

theorem fromBytes_of_load_error {reason : ExtractError}
    (failed : Document.load file extractor.password = .error reason) :
    extractor.fromBytes file = .error (.cause reason) := by
  rw [fromBytes, failed]
  rfl

theorem fromBytes_of_isBooklet {document : Document} {contents : List Object} {texts : List String}
    (loaded : Document.load file extractor.password = .ok document)
    (booklet : document.IsBooklet contents)
    (shown : contents.map (fun object => Booklet.textOf (Booklet.dataOf object)) = texts.map .ok) :
    extractor.fromBytes file = .ok (joinPages texts) := by
  rw [fromBytes, loaded]
  exact booklet.extract shown

end Extractor

namespace Booklet

variable {lock : Lock} {texts : List String}

/-! ## The text of a booklet -/

/-- What a page shows of a text. -/
def shownText (text : String) : String := (textOf (operations text)).toOption.getD ""

theorem textOf_operations_eq (text : String) : textOf (operations text) = .ok (shownText text) := by
  obtain ⟨shown, read⟩ := textOf_operations text
  rw [shownText, read]
  rfl

theorem operations_ne_nil (text : String) : operations text ≠ [] := by
  have front : ascii "BT\n/F1 24 Tf\n72 700 Td\n(" ≠ [] := by decide
  exact List.append_ne_nil_of_left_ne_nil front _

theorem textOf_contents (texts : List String) :
    (contents (texts.map operations)).map (fun object => textOf (dataOf object)) =
      (texts.map shownText).map .ok := by
  rw [contents, List.map_map, List.map_map, List.map_map]
  refine List.map_congr_left fun text _ => ?_
  rw [Function.comp_apply, Function.comp_apply, dataOf_content, textOf_operations_eq]
  rfl

/-- The text of a booklet that is not encrypted. -/
theorem fromBytes_plainFile (extractor : Extractor)
    (fits : (plainFile (texts.map operations)).length < sizeOfBits 32) :
    extractor.fromBytes (plainFile (texts.map operations)) =
      .ok (joinPages (texts.map shownText)) := by
  obtain ⟨document, loaded, booklet⟩ :=
    load_plainFile (List.forall_mem_map.mpr fun text _ => operations_ne_nil text) fits
  exact Extractor.fromBytes_of_isBooklet (loaded _) booklet (textOf_contents texts)

/-! ## The text of a locked booklet -/

/-- Without its encryption dictionary, a locked booklet is not opened. -/
theorem fromBytes_of_isTorn (torn : lock.IsTorn)
    (fits : (lockedFile lock (texts.map operations)).length < sizeOfBits 32) :
    ({} : Extractor).fromBytes (lockedFile lock (texts.map operations)) =
        .error (.cause .passwordRequired) ∧
      ∀ password : String, ({ password } : Extractor).fromBytes
        (lockedFile lock (texts.map operations)) = .error (.cause (.pdf .notEncrypted)) := by
  obtain ⟨layout, read, locks⟩ := read_lockedFile fits
  obtain ⟨asked, refused⟩ :=
    Document.load_of_unknown read locks.target (locks.encryption?_of_isTorn torn)
  exact ⟨Extractor.fromBytes_of_load_error asked,
    fun password => Extractor.fromBytes_of_load_error (refused password)⟩

/-- The texts of a locked booklet that are left when its file is cut up: those of the pages in whose
encrypted content streams the word `endobj` does not stand. -/
def textsLeft (lock : Lock) (texts : List String) : List String :=
  texts.mapIdx fun place text =>
    if RawObjects.ending <:+: encryptBody lock place (operations text) then "" else shownText text

theorem textOf_keptContents (lock : Lock) (texts : List String) :
    (keptContents lock (texts.map operations)).map (fun object => textOf (dataOf object)) =
      (textsLeft lock texts).map .ok := by
  apply List.ext_getElem?
  intro place
  rw [List.getElem?_map, List.getElem?_map, getElem?_keptContents, List.getElem?_map, textsLeft,
    List.getElem?_mapIdx]
  cases texts[place]? with
  | none => simp only [Option.map_none]
  | some text =>
    simp only [Option.map_some, kept]
    -- A page without a body shows nothing.
    split
    · exact congrArg some textOf_nil
    · rw [dataOf_content, textOf_operations_eq]

/-- Where the empty password is the user password, any password leads to the text of the pages that
are left. -/
theorem fromBytes_of_empty (whole : ¬ lock.IsTorn) (empty : lock.user = "")
    (fits : (lockedFile lock (texts.map operations)).length < sizeOfBits 32)
    (extractor : Extractor) :
    extractor.fromBytes (lockedFile lock (texts.map operations)) =
      .ok (joinPages (textsLeft lock texts)) := by
  obtain ⟨layout, read, locks⟩ := read_lockedFile fits
  exact Extractor.fromBytes_of_isBooklet (locks.load_of_empty read whole empty _)
    locks.isBooklet_decryptRaw (textOf_keptContents lock texts)

/-- Where a password is asked for, the user password leads to the text. -/
theorem fromBytes_of_user (whole : ¬ lock.IsTorn)
    (fits : (lockedFile lock (texts.map operations)).length < sizeOfBits 32)
    (asked : ({} : Extractor).fromBytes (lockedFile lock (texts.map operations)) =
      .error (.cause .passwordRequired)) :
    ({ password := lock.user } : Extractor).fromBytes (lockedFile lock (texts.map operations)) =
      .ok (joinPages (texts.map shownText)) := by
  obtain ⟨layout, read, locks⟩ := read_lockedFile fits
  obtain ⟨document, loaded, booklet⟩ :=
    locks.load_of_locked read whole (Extractor.load_of_fromBytes asked)
  exact Extractor.fromBytes_of_isBooklet loaded booklet (textOf_contents texts)

/-- Where the word stands in no encrypted content stream, all texts are left. -/
theorem textsLeft_eq
    (unbroken : ∀ body ∈ encryptBodies lock (texts.map operations), ¬ RawObjects.ending <:+: body) :
    textsLeft lock texts = texts.map shownText := by
  apply List.ext_getElem?
  intro place
  rw [textsLeft, List.getElem?_mapIdx, List.getElem?_map]
  cases held : texts[place]? with
  | none => rw [Option.map_none, Option.map_none]
  | some text =>
    -- The content stream of this page is among those that the word does not stand in.
    have hides : encryptBody lock place (operations text) ∈
        encryptBodies lock (texts.map operations) := by
      refine List.mem_of_getElem? (i := place) ?_
      rw [getElem?_encryptBodies, List.getElem?_map, held, Option.map_some, Option.map_some]
    rw [Option.map_some, Option.map_some, if_neg (unbroken _ hides)]

end Booklet

/-! ## Locks worked out -/

namespace Lock

open ClassicKey

/-- The stream cipher applied once for each byte, on a table of states that is one number. -/
theorem applyAll_eq_packed (key : Bytes) (bytes : List Nat) (data : Bytes) :
    applyAll key bytes data =
      bytes.foldl (fun data byte => Rc4.Packed.apply (keyWith key byte) data) data := by
  simp only [applyAll, Rc4.apply_eq_packed]

/-- What the keys and the entries of a lock come to. -/
structure ComesTo (lock : Lock) (ownerKey ownerEntry key verifier : Bytes) : Prop where
  ownerKey : lock.ownerKey = ownerKey
  ownerEntry : lock.ownerEntry = ownerEntry
  key : lock.key = key
  userEntry : lock.userEntry = verifier ++ lock.filler

/-- The keys and the entries are made one after the other. -/
theorem ComesTo.of_steps {lock : Lock}
    {user owner known ownerKey ownerEntry key mark verifier : Bytes}
    (userBytes : Settings.documentBytes lock.user = user)
    (ownerBytes : Settings.documentBytes lock.owner = owner)
    (rest : Bytes.littleEndian 4 lock.word ++ lock.fileId = known)
    (first : (digestAgain 16 repetitions (Md5.digest (padded owner))).take 16 = ownerKey)
    (second : (List.range 20).foldl (fun data byte => Rc4.Packed.apply (keyWith ownerKey byte) data)
      (padded user) = ownerEntry)
    (third : (digestAgain 16 repetitions (Md5.digest (padded user ++ ownerEntry ++ known))).take 16 =
      key)
    (marked : Md5.digest (padding ++ lock.fileId) = mark)
    (fourth : (List.range 20).foldl (fun data byte => Rc4.Packed.apply (keyWith key byte) data) mark =
      verifier) :
    lock.ComesTo ownerKey ownerEntry key verifier := by
  -- The file key is made from the owner entry, and the user entry with the file key.
  have ownerKey_eq : lock.ownerKey = ownerKey := by rw [Lock.ownerKey, ownerBytes, first]
  have ownerEntry_eq : lock.ownerEntry = ownerEntry := by
    rw [Lock.ownerEntry, ownerKey_eq, userBytes, applyAll_eq_packed, second]
  have key_eq : lock.key = key := by
    rw [Lock.key, userBytes, ownerEntry_eq, List.append_assoc _ (Bytes.littleEndian 4 lock.word),
      rest, third]
  refine ⟨ownerKey_eq, ownerEntry_eq, key_eq, ?_⟩
  rw [Lock.userEntry, key_eq, applyAll_eq_packed, marked, fourth]

end Lock

namespace Lock.ComesTo

variable {lock : Lock} {ownerKey ownerEntry key verifier : Bytes}

theorem dictionary_eq (made : lock.ComesTo ownerKey ownerEntry key verifier) :
    lock.dictionary = ⟨[(ascii "Filter", .name (ascii "Standard")), (ascii "V", .integer 2),
      (ascii "R", .integer 3), (ascii "Length", .integer 128), (ascii "O", .string ownerEntry),
      (ascii "U", .string (verifier ++ lock.filler)),
      (ascii "P", .integer lock.permissions.toInt)]⟩ := by
  rw [Lock.dictionary, made.ownerEntry, made.userEntry]

theorem encryptBody_eq (made : lock.ComesTo ownerKey ownerEntry key verifier) {place : Nat}
    {body objectKey encrypted : Bytes}
    (derived : CryptMethod.derivedKey key ⟨4 + 2 * place, 0⟩ [] = objectKey)
    (applied : Rc4.Packed.apply objectKey body = encrypted) :
    Booklet.encryptBody lock place body = encrypted := by
  rw [Booklet.encryptBody, made.key, derived, Rc4.apply_eq_packed, applied]

end Lock.ComesTo

/-- A lock whose owner entry begins with the word `endobj`. -/
def tornLock : Lock where
  user := "Yd+!=~"
  owner := "ay"
  permissions := -4
  fileId := ascii "0123456789abcdef"
  filler := List.replicate 16 0
  length_fileId := rfl
  length_filler := rfl

theorem tornLock_comesTo : tornLock.ComesTo
    [0xDB, 0x65, 0xB0, 0x59, 0x28, 0x2D, 0x7F, 0x30, 0xE0, 0xB0, 0xA8, 0xF5, 0x02, 0x06, 0x69, 0xDF]
    [0x65, 0x6E, 0x64, 0x6F, 0x62, 0x6A, 0xE5, 0x2C, 0x33, 0xE2, 0xBB, 0x40, 0xA6, 0x53, 0x7D, 0x45,
      0x7A, 0x92, 0x98, 0x2A, 0xBA, 0x3A, 0x8F, 0x33, 0x44, 0x0D, 0xBB, 0x30, 0xA2, 0x0F, 0x6A, 0x08]
    [0x6E, 0xCC, 0xD5, 0x54, 0x23, 0x7E, 0xF5, 0xE2, 0x1B, 0x7B, 0xA5, 0x2B, 0x43, 0xAE, 0x4D, 0x13]
    [0x1D, 0x11, 0x92, 0xDC, 0xC7, 0xBA, 0xFC, 0xA3, 0xDB, 0x63, 0x2F, 0x84, 0xDD, 0x83, 0x02, 0xFC] :=
  .of_steps (show _ = [0x59, 0x64, 0x2B, 0x21, 0x3D, 0x7E] by decide +kernel)
    (show _ = [0x61, 0x79] by decide +kernel)
    (show _ = [0xFC, 0xFF, 0xFF, 0xFF, 0x30, 0x31, 0x32, 0x33, 0x34, 0x35, 0x36, 0x37, 0x38, 0x39,
      0x61, 0x62, 0x63, 0x64, 0x65, 0x66] by decide +kernel)
    (by decide +kernel) (by decide +kernel) (by decide +kernel)
    (show _ = [0xFB, 0xFE, 0x23, 0x58, 0x8B, 0x69, 0x96, 0xEC, 0xFA, 0xF7, 0x0E, 0x50, 0xE6, 0x4C,
      0x33, 0x61] by decide +kernel)
    (by decide +kernel)

theorem isTorn_tornLock : tornLock.IsTorn := by
  rw [Lock.IsTorn, tornLock_comesTo.dictionary_eq]
  decide +kernel

/-- A lock that the empty password opens, under which the content stream of the text `lRbunm` is
encrypted to bytes with the word `endobj` among them. -/
def lossyLock : Lock where
  user := ""
  owner := "hv"
  permissions := -4
  fileId := ascii "0123456789abcdef"
  filler := List.replicate 16 0
  length_fileId := rfl
  length_filler := rfl

theorem lossyLock_comesTo : lossyLock.ComesTo
    [0x69, 0xB1, 0xDF, 0x16, 0x2C, 0xED, 0x00, 0x24, 0xED, 0x71, 0x7D, 0x00, 0x12, 0x9A, 0xB0, 0x65]
    [0x31, 0x22, 0xC5, 0x0F, 0x34, 0xA5, 0x97, 0x1C, 0xD6, 0x92, 0xE8, 0xE2, 0x70, 0xD1, 0x7A, 0xF6,
      0x76, 0x85, 0x93, 0x4F, 0x54, 0x24, 0x2B, 0xDA, 0xE2, 0xEC, 0x8D, 0x97, 0x55, 0x37, 0xB7, 0x9B]
    [0x81, 0x60, 0x6F, 0x6E, 0xE9, 0x49, 0xEF, 0x82, 0xAA, 0x4C, 0xB1, 0x0B, 0x6C, 0xD7, 0xB3, 0xA0]
    [0xED, 0x65, 0xCC, 0x78, 0x09, 0x69, 0x93, 0xE1, 0x66, 0x04, 0x48, 0x34, 0x09, 0xF6, 0x6A, 0x0C] :=
  .of_steps (show _ = [] by decide +kernel) (show _ = [0x68, 0x76] by decide +kernel)
    (show _ = [0xFC, 0xFF, 0xFF, 0xFF, 0x30, 0x31, 0x32, 0x33, 0x34, 0x35, 0x36, 0x37, 0x38, 0x39,
      0x61, 0x62, 0x63, 0x64, 0x65, 0x66] by decide +kernel)
    (by decide +kernel) (by decide +kernel) (by decide +kernel)
    (show _ = [0xFB, 0xFE, 0x23, 0x58, 0x8B, 0x69, 0x96, 0xEC, 0xFA, 0xF7, 0x0E, 0x50, 0xE6, 0x4C,
      0x33, 0x61] by decide +kernel)
    (by decide +kernel)

theorem not_isTorn_lossyLock : ¬ lossyLock.IsTorn := by
  rw [Lock.IsTorn, lossyLock_comesTo.dictionary_eq]
  decide +kernel

namespace Booklet

/-! ### Their files -/

theorem encryptBody_tornLock : encryptBody tornLock 0 (operations "Hi") =
    [0x03, 0xE4, 0x87, 0x46, 0xF1, 0x90, 0x9C, 0x67, 0x43, 0x59, 0xB2, 0x50, 0x05, 0x7E, 0x55, 0xBD,
      0x3F, 0x91, 0x38, 0x65, 0x96, 0x12, 0x6A, 0x63, 0xAC, 0xFD, 0x9A, 0xCA, 0x69, 0xD4, 0xF2, 0x1E,
      0x0D] :=
  tornLock_comesTo.encryptBody_eq (show _ = [0x5A, 0xC1, 0xC6, 0x53, 0x63, 0x7F, 0x4A, 0x13, 0x69,
    0x52, 0x26, 0x25, 0x2B, 0xB0, 0xCF, 0x90] by decide +kernel) (by decide +kernel)

theorem derivedKey_lossyLock : CryptMethod.derivedKey
    [0x81, 0x60, 0x6F, 0x6E, 0xE9, 0x49, 0xEF, 0x82, 0xAA, 0x4C, 0xB1, 0x0B, 0x6C, 0xD7, 0xB3, 0xA0]
    ⟨4, 0⟩ [] =
    [0xA1, 0x18, 0x40, 0x89, 0xF6, 0x7E, 0x65, 0xF0, 0x39, 0xCA, 0x4C, 0x43, 0xB8, 0xBB, 0xFD,
      0xE5] := by
  decide +kernel

theorem encryptBody_lossyLock_hi : encryptBody lossyLock 0 (operations "Hi") =
    [0x63, 0xF4, 0x7D, 0x65, 0x27, 0x1C, 0x0F, 0x77, 0x85, 0xBC, 0x00, 0xEC, 0x14, 0x1E, 0x84, 0x17,
      0xFF, 0x60, 0x04, 0x68, 0x52, 0xAE, 0x63, 0xB6, 0x41, 0x55, 0x2F, 0x3A, 0x58, 0x6D, 0x84, 0x7F,
      0xA6] :=
  lossyLock_comesTo.encryptBody_eq derivedKey_lossyLock (by decide +kernel)

theorem encryptBody_lossyLock : encryptBody lossyLock 0 (operations "lRbunm") =
    [0x63, 0xF4, 0x7D, 0x65, 0x27, 0x1C, 0x0F, 0x77, 0x85, 0xBC, 0x00, 0xEC, 0x14, 0x1E, 0x84, 0x17,
      0xFF, 0x60, 0x04, 0x68, 0x52, 0xAE, 0x63, 0xB6, 0x65, 0x6E, 0x64, 0x6F, 0x62, 0x6A, 0xA7, 0x1A,
      0xA6, 0xC5, 0x64, 0x1E, 0x31] :=
  lossyLock_comesTo.encryptBody_eq derivedKey_lossyLock (by decide +kernel)

theorem encryptBodies_singleton (lock : Lock) (text : String) :
    encryptBodies lock ([text].map operations) = [encryptBody lock 0 (operations text)] := rfl

theorem lockedFile_singleton (lock : Lock) (text : String) :
    lockedFile lock ([text].map operations) =
      SavedFile.save (parts (contents [encryptBody lock 0 (operations text)]) ++
        [.dictionary lock.dictionary]) (lockedTrailer lock 1) := by
  have few : 4 + 2 * ([text].map operations).length < sizeOfBits 32 := by
    rw [List.length_map, List.length_singleton]
    decide
  rw [lockedFile, encryptAll_parts few, encryptBodies_singleton]
  rfl

theorem fits_tornLock : (lockedFile tornLock (["Hi"].map operations)).length < sizeOfBits 32 := by
  rw [lockedFile_singleton, encryptBody_tornLock, tornLock_comesTo.dictionary_eq]
  decide +kernel

theorem fits_lossyLock_hi :
    (lockedFile lossyLock (["Hi"].map operations)).length < sizeOfBits 32 := by
  rw [lockedFile_singleton, encryptBody_lossyLock_hi, lossyLock_comesTo.dictionary_eq]
  decide +kernel

theorem fits_lossyLock :
    (lockedFile lossyLock (["lRbunm"].map operations)).length < sizeOfBits 32 := by
  rw [lockedFile_singleton, encryptBody_lossyLock, lossyLock_comesTo.dictionary_eq]
  decide +kernel

theorem fits_hi : (plainFile (["Hi"].map operations)).length < sizeOfBits 32 := by decide +kernel

theorem textsLeft_lossyLock : textsLeft lossyLock ["lRbunm"] = [""] := by
  have held : RawObjects.ending <:+: encryptBody lossyLock 0 (operations "lRbunm") := by
    rw [encryptBody_lossyLock]
    decide +kernel
  rw [textsLeft, List.mapIdx_cons, List.mapIdx_nil, if_pos held]

/-! ## With and without a lock -/

/-- Encryption leaves the text of a booklet as it is, if a reader that cuts the file up at the words
`endobj` finds its objects whole. Where the empty password is the user password, the text is found
with any password, but for pages in whose encrypted content streams the word stands, which are
empty. Where a password is asked for, the user password leads to the text of all pages. But if the
word stands in the encryption dictionary, no password opens the file. -/
theorem locking_keeps_texts (lock : Lock) (texts : List String)
    (fits : (plainFile (texts.map operations)).length < sizeOfBits 32)
    (fits' : (lockedFile lock (texts.map operations)).length < sizeOfBits 32) :
    let plain := ({} : Extractor).fromBytes (plainFile (texts.map operations))
    let locked (password : Option String) :=
      ({ password } : Extractor).fromBytes (lockedFile lock (texts.map operations))
    plain = .ok (joinPages (texts.map shownText)) ∧
    (¬ lock.IsTorn → lock.user = "" → ∀ password,
      locked password = .ok (joinPages (textsLeft lock texts)) ∧
      ((∀ body ∈ encryptBodies lock (texts.map operations),
          ¬ RawObjects.ending <:+: body) → locked password = plain)) ∧
    (¬ lock.IsTorn → locked none = .error (.cause .passwordRequired) →
      locked (some lock.user) = plain) ∧
    (lock.IsTorn → locked none = .error (.cause .passwordRequired) ∧
      ∀ password, locked (some password) = .error (.cause (.pdf .notEncrypted))) := by
  have shown := fromBytes_plainFile {} fits
  refine ⟨shown, fun whole empty password => ?_, fun whole asked => ?_,
    fun torn => fromBytes_of_isTorn torn fits'⟩
  · have left := fromBytes_of_empty whole empty fits' { password }
    refine ⟨left, fun unbroken => left.trans ?_⟩
    rw [textsLeft_eq unbroken]
    exact shown.symm
  · exact (fromBytes_of_user whole fits' asked).trans shown.symm

/-- A text that is kept. -/
theorem locking_keeps_hi :
    (plainFile (["Hi"].map operations)).length < sizeOfBits 32 ∧
      (lockedFile lossyLock (["Hi"].map operations)).length < sizeOfBits 32 ∧
      ∀ password : Option String,
        ({ password } : Extractor).fromBytes (lockedFile lossyLock (["Hi"].map operations)) =
          ({} : Extractor).fromBytes (plainFile (["Hi"].map operations)) := by
  have unbroken : ∀ body ∈ encryptBodies lossyLock (["Hi"].map operations),
      ¬ RawObjects.ending <:+: body := by
    rw [encryptBodies_singleton, encryptBody_lossyLock_hi, List.forall_mem_singleton]
    decide +kernel
  have kept := locking_keeps_texts lossyLock ["Hi"] fits_hi fits_lossyLock_hi
  exact ⟨fits_hi, fits_lossyLock_hi, fun password =>
    (kept.2.1 not_isTorn_lossyLock rfl password).2 unbroken⟩

/-- Whether a password is made of printable characters. -/
def isPrintable (password : String) : Bool :=
  password.toList.all fun c => 0x20 ≤ c.toNat && c.toNat ≤ 0x7E

/-- Texts that are lost. All passwords are of printable characters. Under one lock, a password is
asked for, and the user password does not lead to the text. Under the other, the empty password
opens the booklet, and no password leads to the text. -/
theorem locking_loses_texts :
    (isPrintable tornLock.user ∧ isPrintable tornLock.owner ∧ tornLock.user ≠ "" ∧
      (plainFile (["Hi"].map operations)).length < sizeOfBits 32 ∧
      (lockedFile tornLock (["Hi"].map operations)).length < sizeOfBits 32 ∧
      ({} : Extractor).fromBytes (lockedFile tornLock (["Hi"].map operations)) =
        .error (.cause .passwordRequired) ∧
      ({ password := tornLock.user } : Extractor).fromBytes
          (lockedFile tornLock (["Hi"].map operations)) ≠
        ({} : Extractor).fromBytes (plainFile (["Hi"].map operations))) ∧
    (lossyLock.user = "" ∧ isPrintable lossyLock.owner ∧
      (plainFile (["lRbunm"].map operations)).length < sizeOfBits 32 ∧
      (lockedFile lossyLock (["lRbunm"].map operations)).length < sizeOfBits 32 ∧
      ∀ password : Option String,
        ({ password } : Extractor).fromBytes (lockedFile lossyLock (["lRbunm"].map operations)) ≠
          ({} : Extractor).fromBytes (plainFile (["lRbunm"].map operations))) := by
  have fits : (plainFile (["lRbunm"].map operations)).length < sizeOfBits 32 := by decide +kernel
  obtain ⟨asked, refused⟩ := fromBytes_of_isTorn isTorn_tornLock fits_tornLock
  refine ⟨⟨by decide +kernel, by decide +kernel, by decide +kernel, fits_hi, fits_tornLock, asked,
    ?_⟩, rfl, by decide +kernel, fits, fits_lossyLock, fun password => ?_⟩
  · rw [refused, fromBytes_plainFile {} fits_hi]
    exact nofun
  · rw [fromBytes_of_empty not_isTorn_lossyLock rfl fits_lossyLock, fromBytes_plainFile {} fits,
      textsLeft_lossyLock, Ne, Except.ok.injEq]
    decide +kernel

end Booklet

end PdfText

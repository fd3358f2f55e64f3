import PdfText.Extractor
import PdfText.Proofs.Maps
import PdfText.Proofs.Reading

/-!
# What a password does

A file that is not encrypted, or that the empty password opens, is the same with every password.
Any other encrypted file is opened by its user password alone. The password is looked at three
times: it is authenticated on the shell of the file, authenticated once more when the objects are
there, and turned into the file key. All three read the same dictionary, so they agree, but for one
case: in the newer revisions the file key has to decrypt the permissions to what the dictionary
says, and authentication does not ask for that.

The empty password is tried before any other, on the same shell and in the same way. So giving it
does not open a file that was locked without it.

## Main definitions

* `DecryptionError.IsDamage` — what can be wrong with encrypted data
* `Settings.OpensUnconfirmed` — a user password whose file key is refused
* `Document.RefusesKey` — the same for a document

## Main results

* `Settings.fileKey_of_checkUser` — the file key of a user password that is right
* `Document.load_password_law` — what a file gives with each password, compared with none
* `Document.load_empty_password` — the empty password opens what no password opens
-/

namespace PdfText

open Except (FailsOnly)

/-! ## Damaged data -/

/-- What can be wrong with encrypted data, whatever the password is. -/
def DecryptionError.IsDamage : DecryptionError → Prop
  | .invalidKeyLength | .invalidCiphertextLength | .invalidPadding => True
  | _ => False

theorem CryptMethod.decrypt_failsOnly (key data : Bytes) (method : CryptMethod) :
    FailsOnly DecryptionError.IsDamage (method.decrypt key data) := by
  have aes (length : Nat) : FailsOnly DecryptionError.IsDamage (decryptAes length key data) := by
    unfold decryptAes
    split
    · exact .error trivial
    split
    · exact .error trivial
    split
    · exact .ok _
    · simp only [unpad]
      split
      · exact .ok _
      · exact .error trivial
  cases method with
  | none => exact .ok _
  | rc4 => exact .ok _
  | aes128 => exact aes 16
  | aes256 => exact aes 32

namespace Cryptor

variable {cryptor : Cryptor} {id : ObjectId}

theorem isDamage_of_decryptData {method : CryptMethod} {data : Bytes} {error : DecryptionError}
    (failed : cryptor.decryptData id method data = .error error) : error.IsDamage :=
  CryptMethod.decrypt_failsOnly _ _ _ _ failed

theorem isDamage_of_decryptStream {entries : Dict} {body : Bytes} {error : DecryptionError}
    (failed : (cryptor.decryptStream id entries body).2 = some error) : error.IsDamage := by
  unfold decryptStream at failed
  split at failed
  · cases failed
  split at failed
  · cases failed
  · next found =>
    cases failed
    exact isDamage_of_decryptData found

mutual

theorem isDamage_of_decryptObject {object : Object} {error : DecryptionError}
    (failed : (cryptor.decryptObject id object).2 = some error) : error.IsDamage := by
  cases object with
  | string bytes =>
    rw [decryptObject] at failed
    split at failed
    · cases failed
    · next found =>
      cases failed
      exact isDamage_of_decryptData found
  | array items =>
    rw [decryptObject] at failed
    exact isDamage_of_decryptItems failed
  | dictionary entries =>
    obtain ⟨entries⟩ := entries
    rw [decryptObject] at failed
    split at failed
    · cases failed
    · exact isDamage_of_decryptEntries failed
  | stream entries body =>
    rw [decryptObject] at failed
    exact isDamage_of_decryptStream failed
  | _ => simp [decryptObject] at failed

theorem isDamage_of_decryptItems {items : List Object} {error : DecryptionError}
    (failed : (cryptor.decryptItems id items).2 = some error) : error.IsDamage := by
  cases items with
  | nil => cases failed
  | cons item rest =>
    rw [decryptItems] at failed
    split at failed
    · next found =>
      cases failed
      exact isDamage_of_decryptObject (congrArg Prod.snd found)
    · exact isDamage_of_decryptItems failed

theorem isDamage_of_decryptEntries {entries : List (Bytes × Object)} {error : DecryptionError}
    (failed : (cryptor.decryptEntries id entries).2 = some error) : error.IsDamage := by
  cases entries with
  | nil => cases failed
  | cons entry rest =>
    obtain ⟨key, value⟩ := entry
    rw [decryptEntries] at failed
    split at failed
    · next found =>
      cases failed
      exact isDamage_of_decryptObject (congrArg Prod.snd found)
    · exact isDamage_of_decryptEntries failed

end

/-- Decrypting objects fails where one of them is damaged, and for no other reason. -/
theorem decryptObjects_failsOnly (cryptor : Cryptor) (except : ObjectId) (objects : Objects) :
    FailsOnly (fun reason => ∃ damage : DecryptionError, reason = .decryption damage ∧ damage.IsDamage)
      (cryptor.decryptObjects except objects) := by
  refine .foldlM (fun decrypted item => ?_) _ _
  obtain ⟨id, object⟩ := item
  dsimp only
  split
  · exact .ok _
  split
  · exact .ok _
  · next found => exact .error ⟨_, rfl, isDamage_of_decryptObject (congrArg Prod.snd found)⟩

end Cryptor

/-! ## Keys -/

/-- Two documents with the same trailer and the same encryption dictionary. All that is known of a
password is known from these. -/
structure Document.SameLock (first second : Document) : Prop where
  trailer : first.trailer = second.trailer
  encryption : first.encryption? = second.encryption?

namespace Document.SameLock

variable {first second : Document}

theorem fileId (same : first.SameLock second) : first.fileId = second.fileId := by
  rw [Document.fileId, Document.fileId, same.trailer]

theorem classicKey (same : first.SameLock second) (settings : Settings) (password : Bytes) :
    ClassicKey.fileKey settings first password = ClassicKey.fileKey settings second password := by
  rw [ClassicKey.fileKey, ClassicKey.fileKey, same.fileId]

theorem checkUser (same : first.SameLock second) (settings : Settings) (password : Bytes) :
    settings.checkUser first password = settings.checkUser second password := by
  simp only [Settings.checkUser, ClassicKey.checkUser, same.classicKey, same.fileId]

theorem checkOwner (same : first.SameLock second) (settings : Settings) (password : Bytes) :
    settings.checkOwner first password = settings.checkOwner second password := by
  simp only [Settings.checkOwner, ClassicKey.checkOwner, ClassicKey.checkUser, same.classicKey,
    same.fileId]

theorem fileKey (same : first.SameLock second) (settings : Settings) (password : Bytes) :
    settings.fileKey first password = settings.fileKey second password := by
  simp only [Settings.fileKey, same.classicKey]

theorem settings (same : first.SameLock second) : Settings.read first = Settings.read second := by
  rw [Settings.read, Settings.read, same.encryption]

theorem authenticateUser (same : first.SameLock second) (password : String) :
    first.authenticateUser password = second.authenticateUser password := by
  simp only [Document.authenticateUser, authenticateBy, same.settings, same.checkUser]

theorem authenticate (same : first.SameLock second) (password : String) :
    first.authenticate password = second.authenticate password := by
  simp only [Document.authenticate, authenticateBy, same.settings, Settings.check, same.checkUser,
    same.checkOwner]

theorem cryptor (same : first.SameLock second) (password : String) :
    Cryptor.ofPassword first password = Cryptor.ofPassword second password := by
  simp only [Cryptor.ofPassword, same.encryption, same.fileKey]

end Document.SameLock

namespace Settings

/-- A user password of the newer revisions whose file key does not decrypt the permissions to what
the dictionary says. The owner password is not asked for that. -/
structure OpensUnconfirmed (settings : Settings) (password : Bytes) : Prop where
  modern : settings.generation = .ok .modern
  user : ModernKey.isUser settings password = true
  notOwner : ModernKey.isOwner settings password = false
  unconfirmed : ModernKey.confirms settings (ModernKey.openKey settings.user
    (ModernKey.hash settings password (ModernKey.keySalt settings.user) [])) = false

variable {settings : Settings} {document : Document} {password : Bytes}

theorem OpensUnconfirmed.fileKey (refused : settings.OpensUnconfirmed password) :
    settings.fileKey document password = .error .incorrectPassword := by
  simp [Settings.fileKey, refused.modern, ModernKey.fileKey, refused.notOwner, refused.user,
    refused.unconfirmed]

theorem OpensUnconfirmed.checkUser (refused : settings.OpensUnconfirmed password) :
    settings.checkUser document password = .ok () := by
  simp [Settings.checkUser, refused.modern, ModernKey.checkUser, refused.user]

/-- A password that is right as the user password is right. -/
theorem check_of_checkUser (accepted : settings.checkUser document password = .ok ()) :
    settings.check document password = .ok () := by
  unfold check
  split
  · rfl
  · exact accepted

/-- A user password that is right makes or opens the file key, unless the key is not confirmed. -/
theorem fileKey_of_checkUser (accepted : settings.checkUser document password = .ok ()) :
    (∃ key, settings.fileKey document password = .ok key) ∨ settings.OpensUnconfirmed password := by
  rw [Settings.checkUser, Except.bind_eq_ok_iff] at accepted
  obtain ⟨revision, generation, accepted⟩ := accepted
  cases revision with
  | classic =>
    rw [ClassicKey.checkUser, Except.bind_eq_ok_iff] at accepted
    obtain ⟨key, made, -⟩ := accepted
    exact .inl ⟨key, by simp [Settings.fileKey, generation, made]⟩
  | modern =>
    have user : ModernKey.isUser settings password = true := by
      simpa [ModernKey.checkUser] using accepted
    -- The key of the owner is not confirmed. A password may be that of both.
    cases notOwner : ModernKey.isOwner settings password with
    | true => exact .inl ⟨_, by simp only [Settings.fileKey, generation, Except.ok_bind,
        ModernKey.fileKey, notOwner, if_true]; rfl⟩
    | false =>
      cases unconfirmed : ModernKey.confirms settings (ModernKey.openKey settings.user
          (ModernKey.hash settings password (ModernKey.keySalt settings.user) [])) with
      | true => exact .inl ⟨_, by simp only [Settings.fileKey, generation, Except.ok_bind,
          ModernKey.fileKey, notOwner, user, unconfirmed, if_true, Bool.false_eq_true, if_false]; rfl⟩
      | false => exact .inr ⟨generation, user, notOwner, unconfirmed⟩

end Settings

namespace Document

/-- The standard handler knows the password as the user's, but refuses the file key that it
opens. -/
def RefusesKey (document : Document) (password : String) : Prop :=
  ∃ entries settings bytes, document.encryption? = some entries ∧
    (entries.get? "Filter").bind Object.name? = some (ascii "Standard") ∧
    Settings.ofDictionary entries = .ok settings ∧
    settings.passwordBytes password = .ok bytes ∧
    settings.OpensUnconfirmed bytes

variable {document : Document} {password : String}

/-- What a check has read where it accepts a password. -/
theorem authenticateBy_eq_ok_iff {check : Settings → Document → Bytes → Except DecryptionError Unit} :
    document.authenticateBy password check = .ok () ↔
      ∃ entries settings bytes, document.encryption? = some entries ∧
        Settings.ofDictionary entries = .ok settings ∧
        settings.passwordBytes password = .ok bytes ∧
        check settings document bytes = .ok () := by
  cases encryption : document.encryption? <;>
    simp [authenticateBy, Settings.read, encryption, Except.bind_eq_ok_iff,
      Except.mapError_eq_ok_iff]

/-- A user password that is accepted is accepted again. -/
theorem authenticate_of_authenticateUser (accepted : document.authenticateUser password = .ok ()) :
    document.authenticate password = .ok () := by
  obtain ⟨entries, settings, bytes, encryption, read, made, accepted⟩ :=
    authenticateBy_eq_ok_iff.mp accepted
  exact authenticateBy_eq_ok_iff.mpr
    ⟨entries, settings, bytes, encryption, read, made, Settings.check_of_checkUser accepted⟩

theorem RefusesKey.authenticateUser (refused : document.RefusesKey password) :
    document.authenticateUser password = .ok () := by
  obtain ⟨entries, settings, bytes, encryption, -, read, made, unconfirmed⟩ := refused
  exact authenticateBy_eq_ok_iff.mpr
    ⟨entries, settings, bytes, encryption, read, made, unconfirmed.checkUser⟩

/-- The file key of an accepted user password fails by the password only if it is refused. -/
theorem ofPassword_eq_incorrectPassword_iff
    (accepted : document.authenticateUser password = .ok ()) :
    Cryptor.ofPassword document password = .error (.decryption .incorrectPassword) ↔
      document.RefusesKey password := by
  obtain ⟨entries, settings, bytes, encryption, read, made, right⟩ :=
    authenticateBy_eq_ok_iff.mp accepted
  constructor
  · intro failed
    have handler : (entries.get? "Filter").bind Object.name? = some (ascii "Standard") := by
      cases named : (entries.get? "Filter").bind Object.name? with
      | none => simp [Cryptor.ofPassword, encryption, named] at failed
      | some handler =>
        by_cases known : handler = ascii "Standard"
        · rw [known]
        · simp [Cryptor.ofPassword, encryption, named, known] at failed
    rcases Settings.fileKey_of_checkUser right with ⟨key, opened⟩ | unconfirmed
    · cases filters : Cryptor.hasFilters settings.version <;>
        simp [Cryptor.ofPassword, encryption, handler, read, made, opened, filters] at failed
    · exact ⟨entries, settings, bytes, encryption, handler, read, made, unconfirmed⟩
  · rintro ⟨entries', settings', bytes', encryption', handler, read', made', unconfirmed⟩
    simp [Cryptor.ofPassword, encryption', handler, read', made', unconfirmed.fileKey]

/-- Decryption under an accepted user password fails by the password only if its key is refused. -/
theorem decrypt_eq_incorrectPassword_iff {id : ObjectId} (held : document.encryptionId? = some id)
    (accepted : document.authenticateUser password = .ok ()) :
    document.decrypt password = .error (.decryption .incorrectPassword) ↔
      document.RefusesKey password := by
  rw [← ofPassword_eq_incorrectPassword_iff accepted]
  cases key : Cryptor.ofPassword document password with
  | error reason =>
    simp [decrypt, decryptedObjects, held, authenticate_of_authenticateUser accepted, key]
  | ok cryptor =>
    cases decrypted : cryptor.decryptObjects id document.objects with
    | ok objects =>
      simp [decrypt, decryptedObjects, held, authenticate_of_authenticateUser accepted, key,
        decrypted]
    | error reason =>
      obtain ⟨damage, rfl, isDamage⟩ := cryptor.decryptObjects_failsOnly _ _ _ decrypted
      have other : damage ≠ .incorrectPassword := by
        rintro rfl
        exact isDamage
      simp [decrypt, decryptedObjects, held, authenticate_of_authenticateUser accepted, key,
        decrypted, other]

end Document

/-! ## The shell of a file -/

theorem Document.encryptionId?_eq_some_iff {document : Document} {id : ObjectId} :
    document.encryptionId? = some id ↔ document.trailer.get? "Encrypt" = some (.reference id) := by
  rw [encryptionId?, Option.bind_eq_some_iff]
  constructor
  · rintro ⟨object, held, target⟩
    cases object <;> simp_all [Object.reference?]
  · intro held
    exact ⟨_, held, rfl⟩

theorem Document.encryption?_eq_some_iff {document : Document} {entries : Dict} :
    document.encryption? = some entries ↔
      ∃ id, document.encryptionId? = some id ∧ document.dictionaryAt id = .ok entries := by
  simp [encryption?, Option.bind_eq_some_iff, Except.toOption_eq_some_iff]

/-- An object that is no reference is what its id leads to. -/
theorem Document.objectAt_of_getElem? {document : Document} {id : ObjectId} {object : Object}
    (held : document.objects[id]? = some object) (direct : object.reference? = none) :
    document.objectAt id = .ok object := by
  rw [objectAt, held]
  cases object <;> first | rfl | cases direct

theorem Document.dictionaryAt_of_getElem? {document : Document} {id : ObjectId} {entries : Dict}
    (held : document.objects[id]? = some (.dictionary entries)) :
    document.dictionaryAt id = .ok entries := by
  rw [dictionaryAt, objectAt_of_getElem? held rfl]
  rfl

theorem Document.follow_self {objects : Objects} {id : ObjectId}
    (loop : objects[id]? = some (.reference id)) (left : Nat) :
    follow objects left (.reference id) = .error .referenceLimit := by
  induction left with
  | zero => rw [follow, loop]
  | succ left ih => rw [follow, loop]; exact ih

namespace Locked

variable {layout : Layout} {raw : RawObjects}

/-- The shell holds no object but what it takes for the encryption dictionary. -/
theorem eq_of_getElem?_shell {id held : ObjectId} {object : Object}
    (target : layout.trailer.get? "Encrypt" = some (.reference id))
    (found : (ofRaw layout raw).shell.objects[held]? = some object) : held = id := by
  simp only [ofRaw] at found
  split at found
  · next key kept known =>
    simp only [target, Option.bind_some, Object.reference?, Option.bind_eq_bind,
      Option.bind_eq_some_iff, Option.pure_def, Option.some.injEq, Prod.mk.injEq] at known
    obtain ⟨_, -, _, -, rfl, -⟩ := known
    rw [Std.TreeMap.getElem?_insert_eq_ite] at found
    split at found
    · assumption
    · simp at found
  · simp at found

/-- What the shell holds was cut out under the same id. -/
theorem getElem?_raw_of_shell {id : ObjectId} {object : Object}
    (found : (ofRaw layout raw).shell.objects[id]? = some object) :
    ∃ bytes indirect, raw[id]? = some bytes ∧
      Indirect.read? layout.lengthOf bytes = some indirect ∧ indirect.object = object := by
  simp only [ofRaw] at found
  split at found
  · next key kept known =>
    simp only [Option.bind_eq_bind, Option.bind_eq_some_iff, Option.pure_def,
      Option.some.injEq, Prod.mk.injEq] at known
    obtain ⟨target, -, bytes, cut, indirect, read, rfl, rfl⟩ := known
    rw [Std.TreeMap.getElem?_insert_eq_ite] at found
    split at found
    · next same =>
      cases found
      exact ⟨bytes, indirect, same ▸ cut, read, rfl⟩
    · simp at found
  · simp at found

/-- The shell has an encryption dictionary only where that is the one object it holds. -/
theorem getElem?_of_encryption {entries : Dict}
    (known : (ofRaw layout raw).shell.encryption? = some entries) :
    ∃ id, layout.trailer.get? "Encrypt" = some (.reference id) ∧
      (ofRaw layout raw).shell.objects[id]? = some (.dictionary entries) := by
  obtain ⟨id, target, found⟩ := Document.encryption?_eq_some_iff.mp known
  replace target : layout.trailer.get? "Encrypt" = some (.reference id) :=
    Document.encryptionId?_eq_some_iff.mp target
  refine ⟨id, target, ?_⟩
  rw [Document.dictionaryAt, Document.objectAt] at found
  cases held : (ofRaw layout raw).shell.objects[id]? with
  | none => simp [held] at found
  | some object =>
    cases object with
    | reference next =>
      -- The only object that the reference can lead to is itself.
      rw [held] at found
      cases beyond : (ofRaw layout raw).shell.objects[next]? with
      | none => simp [Document.resolve, Document.follow, beyond] at found
      | some object =>
        obtain rfl := eq_of_getElem?_shell target beyond
        simp [Document.resolve, Document.follow_self held] at found
    | _ => simp_all [Document.resolve, Document.follow, Document.dictionaryOf]

/-! ## The objects read again -/

theorem ne_of_mem_reread {except id : ObjectId} {object : Object}
    (found : (id, object) ∈ reread layout except) : id ≠ except := by
  obtain ⟨⟨number, offset⟩, -, read⟩ := List.mem_filterMap.mp found
  dsimp only at read
  split at read
  · simp at read
  next other =>
  obtain ⟨_, -, read⟩ := Option.bind_eq_some_iff.mp read
  split at read
  · cases read
    exact other
  · simp at read

theorem filled_ofRaw {id : ObjectId}
    (target : layout.trailer.get? "Encrypt" = some (.reference id)) :
    (ofRaw layout raw).filled =
      .ok { trailer := layout.trailer
            objects := (ofRaw layout raw).shell.objects.insertAll (reread layout id) } := by
  have known : (ofRaw layout raw).shell.trailer.get? "Encrypt" = some (.reference id) := target
  rw [filled, known]
  rfl

/-- A shell with an encryption dictionary can be filled, and what is known of the password stays. -/
theorem filled_of_encryption {entries : Dict}
    (known : (ofRaw layout raw).shell.encryption? = some entries) :
    ∃ full id, (ofRaw layout raw).filled = .ok full ∧ full.encryptionId? = some id ∧
      full.SameLock (ofRaw layout raw).shell := by
  obtain ⟨id, target, held⟩ := getElem?_of_encryption known
  refine ⟨_, id, filled_ofRaw target, Document.encryptionId?_eq_some_iff.mpr target, rfl, ?_⟩
  rw [known]
  refine Document.encryption?_eq_some_iff.mpr
    ⟨id, Document.encryptionId?_eq_some_iff.mpr target, Document.dictionaryAt_of_getElem? ?_⟩
  rw [← held]
  exact Std.TreeMap.getElem?_insertAll_of_absent fun item inside => ne_of_mem_reread inside

end Locked

/-! ## What a file gives -/

namespace Locked

variable {layout : Layout} {raw : RawObjects} {password : String}

/-- A password that is rejected as the user password is no password for the file. -/
theorem unlock_eq_incorrectPassword_iff {locked : Locked} :
    locked.unlock password = .error .incorrectPassword ↔
      locked.shell.authenticateUser password = .error (.decryption .incorrectPassword) := by
  have other (outcome : Except PdfError Document) :
      outcome.mapError ExtractError.pdf ≠ .error .incorrectPassword := by
    cases outcome <;> simp
  unfold unlock
  split
  · next accepted =>
    cases filled : locked.filled with
    | error reason => simp [accepted]
    | ok full => simp [accepted, other]
  · next rejected => simp [rejected]
  · next reason known asked => simp_all

/-- A password that is not rejected gives the document, or a reason why the file is not read. -/
theorem unlock_cases (locked : Locked) (password : String) :
    locked.unlock password = .error .incorrectPassword ∨
      (∃ document, locked.unlock password = .ok document) ∨
        ∃ reason, locked.unlock password = .error (.pdf reason) := by
  have restated (outcome : Except PdfError Document) :
      (∃ document, outcome.mapError ExtractError.pdf = .ok document) ∨
        ∃ reason, outcome.mapError ExtractError.pdf = .error (.pdf reason) := by
    cases outcome <;> simp
  unfold unlock
  split
  · cases locked.filled with
    | error reason => exact .inr (.inr ⟨reason, rfl⟩)
    | ok full => exact .inr (restated _)
  · exact .inl rfl
  · exact .inr (.inr ⟨_, rfl⟩)

/-- Where a password is accepted and then refused after all, its file key is at fault. -/
theorem unlock_eq_pdf_incorrectPassword_iff :
    (ofRaw layout raw).unlock password = .error (.pdf (.decryption .incorrectPassword)) ↔
      (ofRaw layout raw).shell.RefusesKey password := by
  cases accepted : (ofRaw layout raw).shell.authenticateUser password with
  | error reason =>
    have unrefused : ¬ (ofRaw layout raw).shell.RefusesKey password := fun refused => by
      simp [refused.authenticateUser] at accepted
    by_cases rejected : reason = .decryption .incorrectPassword
    · simp [unlock, accepted, rejected, unrefused]
    · simp [unlock, accepted, rejected, unrefused]
  | ok _ =>
    obtain ⟨entries, _, _, known, -⟩ := Document.authenticateBy_eq_ok_iff.mp accepted
    obtain ⟨full, id, filled, held, same⟩ := filled_of_encryption known
    have again : full.authenticateUser password = .ok () := by
      rw [same.authenticateUser, accepted]
    have refused : full.RefusesKey password ↔ (ofRaw layout raw).shell.RefusesKey password := by
      rw [Document.RefusesKey, Document.RefusesKey, same.encryption]
    rw [← refused, ← Document.decrypt_eq_incorrectPassword_iff held again]
    simp [unlock, accepted, filled, Except.mapError_eq_error_iff]

end Locked

theorem Opening.eq_of_ofLayout_eq_locked {layout : Layout} {shut : Locked}
    (closed : ofLayout layout = .locked shut) :
    (layout.trailer.get? "Encrypt").isSome ∧ shut = Locked.ofRaw layout (.ofLayout layout) := by
  unfold ofLayout at closed
  split at closed
  · next encrypted =>
    simp only [ofEncrypted] at closed
    split at closed <;> cases closed
    exact ⟨encrypted, rfl⟩
  · cases closed

namespace Document

/-- The shell of the encrypted file with a layout. -/
def shellOf (layout : Layout) : Document := (Locked.ofRaw layout (.ofLayout layout)).shell

/-- How loading goes on when the layout of the file is known. -/
theorem load_cases (file : Bytes) :
    (∃ reason : PdfError, reason.IsPlain ∧ ∀ password, load file password = .error (.pdf reason)) ∨
      (∃ document, ∀ password, load file password = .ok document) ∨
        ∃ layout, Layout.read file = .ok layout ∧ (layout.trailer.get? "Encrypt").isSome ∧
          load file none = .error .passwordRequired ∧
          ∀ password, load file (some password) =
            (Locked.ofRaw layout (.ofLayout layout)).unlock password := by
  cases read : Layout.read file with
  | error reason =>
    exact .inl ⟨reason, Layout.read_failsOnly file reason read, fun password => by
      simp [load, Opening.ofBytes, read, Except.map]⟩
  | ok layout =>
    cases opening : Opening.ofLayout layout with
    | opened document =>
      exact .inr (.inl ⟨document, fun password => by
        simp [load, Opening.ofBytes, read, Except.map, opening, Opening.document]⟩)
    | locked shut =>
      obtain ⟨encrypted, rfl⟩ := Opening.eq_of_ofLayout_eq_locked opening
      refine .inr (.inr ⟨layout, rfl, encrypted, ?_, fun password => ?_⟩) <;>
        simp [load, Opening.ofBytes, read, Except.map, opening, Opening.document]

/-- What a password does. A file that does not ask for one gives the same outcome with each. A file
that asks for one rejects those that are not its user password, and gives its document or a reason
why it cannot be read for all others. That reason is the password itself in one case only: the
newer revisions refuse a file key that does not decrypt the permissions to what the dictionary
says. No outcome is about reading or writing files, or about a page. -/
theorem load_password_law (file : Bytes) :
    (load file none ≠ .error .passwordRequired →
      ∀ password, load file (some password) = load file none) ∧
    (load file none = .error .passwordRequired →
      ∃ layout, Layout.read file = .ok layout ∧ ∀ password,
        (load file (some password) = .error .incorrectPassword ↔
          (shellOf layout).authenticateUser password = .error (.decryption .incorrectPassword)) ∧
        (load file (some password) = .error .incorrectPassword ∨
          (∃ document, load file (some password) = .ok document) ∨
          ∃ reason, load file (some password) = .error (.pdf reason)) ∧
        (load file (some password) = .error (.pdf (.decryption .incorrectPassword)) ↔
          (shellOf layout).RefusesKey password)) ∧
    (∀ password, load file password = .error (.pdf (.decryption .incorrectPassword)) →
      load file none = .error .passwordRequired) ∧
    ∀ password failure, load file password = .error failure →
      (∃ reason, failure = .pdf reason) ∨ failure = .passwordRequired ∨
        failure = .incorrectPassword := by
  rcases load_cases file with ⟨reason, plain, failed⟩ | ⟨document, loaded⟩ |
    ⟨layout, read, -, asked, unlocked⟩
  · refine ⟨fun _ password => by rw [failed, failed], fun asked => ?_, fun password refused => ?_,
      fun password failure given => ?_⟩
    · simp [failed] at asked
    · obtain rfl : reason = .decryption .incorrectPassword := by simpa [failed] using refused
      exact plain.elim
    · obtain rfl : ExtractError.pdf reason = failure := by simpa [failed] using given
      exact .inl ⟨reason, rfl⟩
  · simp [loaded]
  · refine ⟨fun silent => absurd asked silent, fun _ => ⟨layout, read, fun password => ?_⟩,
      fun _ _ => asked, fun password failure given => ?_⟩
    · rw [unlocked]
      exact ⟨Locked.unlock_eq_incorrectPassword_iff, Locked.unlock_cases _ _,
        Locked.unlock_eq_pdf_incorrectPassword_iff⟩
    · cases password with
      | none =>
        obtain rfl : ExtractError.passwordRequired = failure := by simpa [asked] using given
        exact .inr (.inl rfl)
      | some password =>
        rw [unlocked] at given
        rcases Locked.unlock_cases (Locked.ofRaw layout (.ofLayout layout)) password with
          rejected | ⟨document, loaded⟩ | ⟨reason, failed⟩
        · obtain rfl : ExtractError.incorrectPassword = failure := by simpa [rejected] using given
          exact .inr (.inr rfl)
        · simp [loaded] at given
        · obtain rfl : ExtractError.pdf reason = failure := by simpa [failed] using given
          exact .inl ⟨reason, rfl⟩

/-- A file of revision 5 whose user password is `x`. Its permissions are given as zeros, which is not
what the file key encrypts them to. -/
def unconfirmedFile : Bytes :=
  [ascii "%PDF-1.5\n1 0 obj\n<</Type/Catalog/Pages 2 0 R>>\nendobj\n",
   ascii "2 0 obj\n<</Type/Pages/Kids[3 0 R]>>\nendobj\n",
   ascii "3 0 obj\n<</Type/Page/Contents 4 0 R",
   ascii "/Resources<</Font<</F<</Type/Font/Encoding/WinAnsiEncoding>>>>>>>>\nendobj\n",
   ascii "4 0 obj\n<</Length 18>>stream\nBT/F 9 Tf(Hi)Tj ET\nendstream\nendobj\n",
   ascii "5 0 obj\n<</Filter/Standard/V 5/R 5/O(", List.replicate 48 0,
   ascii ")/OE(", List.replicate 32 0,
   ascii ")/U(",
   [45, 254, 91, 69, 6, 188, 8, 183, 240, 49, 104, 144, 188, 9, 103, 190, 33, 175, 196, 82, 114, 74,
     158, 146, 132, 135, 120, 229, 24, 136, 54, 113],
   ascii "salt0002SALTSALT)/UE(", List.replicate 32 0,
   ascii ")/P -1/Perms(", List.replicate 16 0,
   ascii ")/CF<</I<</CFM/Identity>>>>/StmF/I/StrF/I>>\nendobj\n",
   ascii "xref\n0 6\n0000000000 65535 f \n0000000009 00000 n \n0000000054 00000 n \n",
   ascii "0000000097 00000 n \n0000000206 00000 n \n0000000271 00000 n \n",
   ascii "trailer\n<</Size 6/Root 1 0 R/Encrypt 5 0 R>>\nstartxref\n562\n%%EOF"].flatten

/-- Whether loading has failed with a reason that is the password itself. -/
def isRefused : Except ExtractError Document → Bool
  | .error (.pdf (.decryption .incorrectPassword)) => true
  | _ => false

theorem eq_of_isRefused {outcome : Except ExtractError Document} (refused : isRefused outcome) :
    outcome = .error (.pdf (.decryption .incorrectPassword)) := by
  unfold isRefused at refused
  split at refused
  · rfl
  · cases refused

/-- A password can be accepted and refused after all. -/
theorem load_refuses_accepted_password :
    load unconfirmedFile (some "x") = .error (.pdf (.decryption .incorrectPassword)) ∧
      ∃ layout, Layout.read unconfirmedFile = .ok layout ∧
        (shellOf layout).authenticateUser "x" = .ok () := by
  have refused : load unconfirmedFile (some "x") = .error (.pdf (.decryption .incorrectPassword)) :=
    eq_of_isRefused (by decide +kernel)
  refine ⟨refused, ?_⟩
  rcases load_cases unconfirmedFile with ⟨reason, plain, failed⟩ | ⟨document, loaded⟩ |
    ⟨layout, read, -, -, unlocked⟩
  · obtain rfl : reason = .decryption .incorrectPassword := by simpa [failed] using refused
    exact plain.elim
  · simp [loaded] at refused
  · rw [unlocked, Locked.unlock_eq_pdf_incorrectPassword_iff] at refused
    exact ⟨layout, read, refused.authenticateUser⟩

end Document

/-! ## The empty password -/

/-- A file stays locked only where the empty password is not accepted, or gives no file key. -/
theorem Opening.not_accepted_of_locked {layout : Layout} {shut : Locked} {cryptor : Cryptor}
    (closed : ofLayout layout = .locked shut) (accepted : shut.shell.authenticate "" = .ok ()) :
    Cryptor.ofPassword shut.shell "" ≠ .ok cryptor := by
  intro made
  obtain ⟨encrypted, rfl⟩ := eq_of_ofLayout_eq_locked closed
  rw [ofLayout, if_pos encrypted] at closed
  simp only [ofEncrypted, accepted, Except.ok_bind, made] at closed
  cases closed

/-- A password that opens a document is accepted and gives a file key before any object is read. -/
theorem Locked.exists_cryptor_of_unlock {layout : Layout} {raw : RawObjects} {password : String}
    {document : Document} (opened : (ofRaw layout raw).unlock password = .ok document) :
    (ofRaw layout raw).shell.authenticate password = .ok () ∧
      ∃ cryptor, Cryptor.ofPassword (ofRaw layout raw).shell password = .ok cryptor := by
  unfold unlock at opened
  split at opened
  · next accepted =>
    obtain ⟨entries, -, -, known, -⟩ := Document.authenticateBy_eq_ok_iff.mp accepted
    obtain ⟨full, id, filled, held, same⟩ := filled_of_encryption known
    refine ⟨Document.authenticate_of_authenticateUser accepted, ?_⟩
    -- The filled shell asks for its key again, and has the same lock.
    rw [filled, Except.mapError_ok, Except.ok_bind, Except.mapError_eq_ok_iff, Document.decrypt,
      Except.bind_eq_ok_iff] at opened
    obtain ⟨_, decrypted, -⟩ := opened
    simp only [Document.decryptedObjects, held] at decrypted
    obtain ⟨-, -, decrypted⟩ := Except.bind_eq_ok_iff.mp decrypted
    obtain ⟨cryptor, made, -⟩ := Except.bind_eq_ok_iff.mp decrypted
    exact ⟨cryptor, same.cryptor password ▸ made⟩
  · cases opened
  · cases opened

namespace Document

/-- The empty password opens no file that is locked without a password. -/
theorem load_empty_ne_ok_of_locked {file : Bytes} {document : Document}
    (asked : load file none = .error .passwordRequired) : load file (some "") ≠ .ok document := by
  intro opened
  cases found : Opening.ofBytes file with
  | error reason => simp [load, found] at asked
  | ok opening =>
    cases opening with
    | opened first => simp [load, found, Opening.document] at asked
    | locked shut =>
      have unlocked : shut.unlock "" = .ok document := by
        simpa [load, found, Opening.document] using opened
      obtain ⟨layout, -, closed⟩ : ∃ layout, Layout.read file = .ok layout ∧
          Opening.ofLayout layout = .locked shut := by
        cases read : Layout.read file <;> simp_all [Opening.ofBytes, Except.map]
      obtain ⟨-, rfl⟩ := Opening.eq_of_ofLayout_eq_locked closed
      obtain ⟨accepted, cryptor, made⟩ := Locked.exists_cryptor_of_unlock unlocked
      exact Opening.not_accepted_of_locked closed accepted made

/-- The empty password opens what no password opens: the same files, each as the same document. -/
theorem load_empty_eq_ok_iff {file : Bytes} {document : Document} :
    load file (some "") = .ok document ↔ load file none = .ok document := by
  rcases load_cases file with ⟨reason, -, failed⟩ | ⟨loaded, same⟩ | ⟨layout, -, -, asked, -⟩
  · rw [failed, failed]
  · rw [same, same]
  · simp [load_empty_ne_ok_of_locked asked, asked]

/-- To give the empty password is to give none, where the file opens at all. Then both documents
have the same pages with the same texts. A file that asks for a password takes the empty one for a
wrong one, or cannot be read. -/
theorem load_empty_password (file : Bytes) :
    ((∃ document, load file (some "") = .ok document) ↔ ∃ document, load file none = .ok document) ∧
    (∀ given silent, load file (some "") = .ok given → load file none = .ok silent →
      given.pageCount = silent.pageCount ∧ ∀ index, given.pageText index = silent.pageText index) ∧
    (load file none = .error .passwordRequired →
      load file (some "") = .error .incorrectPassword ∨
        ∃ reason, load file (some "") = .error (.pdf reason)) := by
  refine ⟨exists_congr fun _ => load_empty_eq_ok_iff, fun given silent opened plain => ?_,
    fun asked => ?_⟩
  · obtain rfl : given = silent := Except.ok.inj ((load_empty_eq_ok_iff.mp opened).symm.trans plain)
    exact ⟨rfl, fun _ => rfl⟩
  · rcases load_cases file with ⟨reason, -, failed⟩ | ⟨loaded, same⟩ | ⟨layout, -, -, -, unlocked⟩
    · exact .inr ⟨reason, failed _⟩
    · simp [same] at asked
    · rw [unlocked]
      rcases Locked.unlock_cases (.ofRaw layout (.ofLayout layout)) "" with
        rejected | ⟨document, opened⟩ | refused
      · exact .inl rejected
      · exact absurd ((unlocked "").trans opened) (load_empty_ne_ok_of_locked asked)
      · exact .inr refused

end Document

end PdfText

import PdfText.Proofs.Rereading
import PdfText.Proofs.SavedBooklet
import PdfText.Proofs.Truncation

/-!
# Booklets that are locked

A booklet is locked by encrypting each of its objects, and putting the encryption dictionary after
them. Of all objects, only the content streams are changed by that.

The file is cut up at the words `endobj` when it is opened. If the word stands in a string of the
encryption dictionary, that is not found, and no password opens the file. Otherwise the keys can be
made from the user password. If that is empty, what was cut out is decrypted, which gives the
booklet without the bodies of those content streams in which the word stands. If a password is asked
for, the objects are read again as a whole, and decrypting them gives the booklet.

## Main definitions

* `OnlyStrings` — entries of a dictionary that hold the word in a string or not at all
* `Lock.IsTorn` — a lock in whose encryption dictionary the word stands
* `Booklet.lockedFile` — the file of a booklet that is locked
* `Booklet.Locks` — the layout of such a file

## Main results

* `Document.load_of_unknown` — a file without its encryption dictionary is not opened
* `Booklet.Locks.load_of_empty`, `Booklet.Locks.isBooklet_decryptRaw` — what the empty password
  opens
* `Booklet.Locks.load_of_locked` — what the user password opens
-/

namespace PdfText

/-! ## The shell of a file -/

namespace Document

variable {layout : Layout} {id : ObjectId}

/-- The shell holds what is found in place of the encryption dictionary when the file is cut up. -/
theorem getElem?_shellOf (named : layout.IsNamed)
    (target : layout.trailer.get? "Encrypt" = some (.reference id)) :
    (shellOf layout).objects[id]? = (layout.offsetOf? id).bind layout.cutAt? := by
  have cut : (RawObjects.ofLayout layout)[id]?.bind (fun bytes =>
      (Indirect.read? layout.lengthOf bytes).map Indirect.object) =
        (layout.offsetOf? id).bind layout.cutAt? := by
    rw [RawObjects.getElem?_ofLayout named]
    cases layout.offsetOf? id with
    | none => rfl
    | some offset =>
      rw [Option.bind_some, Option.bind_some, Layout.cutAt?]
      cases RawObjects.cut (layout.bytesFrom offset) <;> rfl
  rw [← cut, shellOf, Locked.ofRaw]
  simp only [target, Option.bind_some, Object.reference?, Option.bind_eq_bind]
  cases (RawObjects.ofLayout layout)[id]? with
  | none => simp
  | some bytes => cases read : Indirect.read? layout.lengthOf bytes <;> simp [read]

/-- Where nothing is found there, the file has no encryption dictionary. -/
theorem encryption?_shellOf (absent : (shellOf layout).objects[id]? = none)
    (target : layout.trailer.get? "Encrypt" = some (.reference id)) :
    (shellOf layout).encryption? = none := by
  rw [Option.eq_none_iff_forall_ne_some]
  intro entries known
  obtain ⟨held, target', found⟩ := Locked.getElem?_of_encryption known
  obtain rfl : id = held := by simpa [target] using target'
  change (shellOf layout).objects[id]? = _ at found
  rw [absent] at found
  cases found

/-- An encrypted file stays locked when the empty password is refused. -/
theorem ofLayout_of_refused {reason : PdfError}
    (encrypted : (layout.trailer.get? "Encrypt").isSome)
    (refused : (shellOf layout).authenticate "" = .error reason) :
    Opening.ofLayout layout = .locked (Locked.ofRaw layout (.ofLayout layout)) := by
  have attempt : ((shellOf layout).authenticate "" >>= fun _ =>
      Cryptor.ofPassword (shellOf layout) "") = .error reason := by
    rw [refused]
    rfl
  simp only [Opening.ofLayout, if_pos encrypted, Opening.ofEncrypted]
  split
  · rfl
  next cryptor made => cases made.symm.trans attempt

/-- An encrypted file is decrypted while it is read when the empty password is accepted. -/
theorem ofLayout_of_accepted {cryptor : Cryptor}
    (encrypted : (layout.trailer.get? "Encrypt").isSome)
    (accepted : (shellOf layout).authenticate "" = .ok ())
    (made : Cryptor.ofPassword (shellOf layout) "" = .ok cryptor) :
    Opening.ofLayout layout = .opened
      { trailer := layout.trailer
        objects := addPacked layout (decryptRaw layout cryptor (.ofLayout layout)) } := by
  have attempt : ((shellOf layout).authenticate "" >>= fun _ =>
      Cryptor.ofPassword (shellOf layout) "") = .ok cryptor := by
    rw [accepted, Except.ok_bind, made]
  simp only [Opening.ofLayout, if_pos encrypted, Opening.ofEncrypted]
  split
  next reason failed => cases failed.symm.trans attempt
  next other found =>
    cases found.symm.trans attempt
    rfl

/-- A file without an encryption dictionary is not opened by any password. -/
theorem load_of_unknown {file : Bytes} (read : Layout.read file = .ok layout)
    (target : layout.trailer.get? "Encrypt" = some (.reference id))
    (unknown : (shellOf layout).encryption? = none) :
    load file none = .error .passwordRequired ∧
      ∀ password, load file (some password) = .error (.pdf .notEncrypted) := by
  have encrypted : (layout.trailer.get? "Encrypt").isSome := by
    rw [target]
    rfl
  have unread : Settings.read (shellOf layout) = .error .notEncrypted := by
    rw [Settings.read, unknown]
  have refused : (shellOf layout).authenticate "" = .error .notEncrypted := by
    rw [authenticate, authenticateBy, unread]
    rfl
  have loaded (password : Option String) : load file password =
      (Opening.locked (Locked.ofRaw layout (.ofLayout layout))).document password := by
    rw [load, Opening.ofBytes, read, Except.map, ofLayout_of_refused encrypted refused]
    rfl
  refine ⟨loaded none, fun password => ?_⟩
  have rejected : (Locked.ofRaw layout (.ofLayout layout)).shell.authenticateUser password =
      .error .notEncrypted := by
    rw [authenticateUser, authenticateBy]
    change Settings.read (shellOf layout) >>= _ = _
    rw [unread]
    rfl
  rw [loaded, Opening.document, Locked.unlock, rejected]
  rfl

end Document

/-! ## Dictionaries with strings -/

namespace Object

theorem isReadable_string {bytes : Bytes} (short : bytes.length ≤ Token.maxNesting) :
    IsReadable (.string bytes) :=
  .string (List.count_le_length.trans short)

/-- A dictionary is read back, given the names that it has. -/
theorem isReadable_of_names {entries : List (Bytes × Object)} (names : List Bytes)
    (keys : entries.map Prod.fst = names) (distinct : names.Nodup)
    (named : names.all IsBare.isBareName) (readable : ∀ entry ∈ entries, IsReadable entry.2) :
    IsReadable (.dictionary ⟨entries⟩) := by
  subst keys
  refine .dictionary distinct (fun entry inside b within => ?_) readable
  have bare := List.all_eq_true.mp named entry.1 (List.mem_map_of_mem inside)
  exact (IsBare.isPlain_of_isBareName bare b within).1

end Object

/-! ## Dictionaries that are cut off -/

section Torn

open Object

variable {layout : Layout} {id : ObjectId} {entries : List (Bytes × Object)} {offset : Nat}
variable {rest : Bytes}

/-- Entries with strings in which the word `endobj` may stand. It stands nowhere else. -/
def OnlyStrings (entries : List (Bytes × Object)) : Prop :=
  ∀ entry ∈ entries, IsBare.isBareName entry.1 ∧ (entry.2.IsBare ∨ ∃ bytes, entry.2 = .string bytes)

theorem Object.spellEntries_append (before after : List (Bytes × Object)) :
    spellEntries (before ++ after) = spellEntries before ++ spellEntries after := by
  induction before with
  | nil => rfl
  | cons entry before ih => simp [spellEntries, ih]

/-- Where the word stands in such entries, it stands in a string first. -/
theorem OnlyStrings.exists_first (only : OnlyStrings entries) {front : Bytes}
    (absent : ¬ RawObjects.ending <:+: front)
    (held : RawObjects.ending <:+: front ++ (spellEntries entries ++ ascii ">>")) :
    ∃ before key bytes after, entries = before ++ (key, .string bytes) :: after ∧
      ¬ RawObjects.ending <:+: front ++ (spellEntries before ++ 0x2F :: key) ∧
      RawObjects.ending <:+: Literal.spell 0 bytes := by
  -- By induction on the entries, for all that is written in front of them. The letter `j` of the
  -- word stands neither in names nor in values other than strings, so the word can only end in a
  -- string.
  induction entries generalizing front with
  | nil =>
    have word : ascii ">>" = [0x3E, 0x3E] := by decide
    rw [spellEntries, List.nil_append, word, Bytes.inside_append_cons (by decide)] at held
    exact absurd held (not_or.mpr ⟨absent, Bytes.not_inside_of_not_mem
      (show (0x6A : UInt8) ∈ RawObjects.ending by decide) (by decide)⟩)
  | cons entry entries ih =>
    obtain ⟨key, value⟩ := entry
    obtain ⟨⟨named, kind⟩, others⟩ := List.forall_mem_cons.mp only
    have noLetter : (0x6A : UInt8) ∉ key := fun inside =>
      (IsBare.isPlain_of_isBareName named _ inside).2 rfl
    have beyond {more : Bytes} (without : (0x6A : UInt8) ∉ more) :
        ¬ RawObjects.ending <:+: front ++ 0x2F :: more := by
      rw [Bytes.inside_append_cons (by decide)]
      exact not_or.mpr ⟨absent, Bytes.not_inside_of_not_mem (by decide) without⟩
    have later {spelled : Bytes} (apart : 0x2F :: key ++ value.gap ++ value.spell = spelled)
        (passed : ¬ RawObjects.ending <:+: front ++ spelled) :
        ∃ before key' bytes after,
          (key, value) :: entries = before ++ (key', .string bytes) :: after ∧
          ¬ RawObjects.ending <:+: front ++ (spellEntries before ++ 0x2F :: key') ∧
          RawObjects.ending <:+: Literal.spell 0 bytes := by
      have held' : RawObjects.ending <:+:
          (front ++ spelled) ++ (spellEntries entries ++ ascii ">>") := by
        rw [← apart]
        simpa [spellEntries] using held
      obtain ⟨before, key', bytes, after, split, absent', inside⟩ := ih others passed held'
      refine ⟨(key, value) :: before, key', bytes, after, by rw [split]; rfl, ?_, inside⟩
      rw [← apart] at absent'
      simpa [spellEntries] using absent'
    rcases kind with bare | ⟨bytes, rfl⟩
    · refine later rfl ?_
      rw [List.append_assoc, List.cons_append]
      exact beyond (by simp [noLetter, not_mem_gap, bare.noLetter])
    · by_cases inside : RawObjects.ending <:+: Literal.spell 0 bytes
      · exact ⟨[], key, bytes, entries, rfl, beyond noLetter, inside⟩
      · have apart : 0x2F :: key ++ (Object.string bytes).gap ++ (Object.string bytes).spell =
            0x2F :: key ++ 0x28 :: (Literal.spell 0 bytes ++ 0x29 :: []) := by
          simp [spell, gap, needsGap]
        refine later apart ?_
        rw [← List.append_assoc, Bytes.inside_append_cons (b := 0x28) (by decide),
          Bytes.inside_append_cons (b := 0x29) (by decide)]
        exact not_or.mpr ⟨beyond noLetter, not_or.mpr ⟨inside, by decide⟩⟩

/-- Nothing is found of a dictionary in which the word stands in a string. -/
theorem Layout.cutAt?_of_torn (only : OnlyStrings entries)
    (written : layout.bytesFrom offset = Indirect.spell id (.dictionary ⟨entries⟩) ++ rest)
    (readable : IsReadable (.dictionary ⟨entries⟩)) (number : id.number < sizeOfBits 32)
    (generation : id.generation < sizeOfBits 16)
    (held : RawObjects.ending <:+: Object.spell (.dictionary ⟨entries⟩)) :
    layout.cutAt? offset = none := by
  rw [spell, List.append_assoc] at held
  obtain ⟨before, key, bytes, after, rfl, absent, inside⟩ := only.exists_first (by decide) held
  cases readable with
  | dictionary distinct plain readable =>
    obtain ⟨plainBefore, plainKey, -⟩ := List.forall_mem_append.mp plain |>.imp_right
      List.forall_mem_cons.mp
    have spelled : layout.bytesFrom offset = Indirect.spellId id ++ (spellOpen before key ++
        (Literal.spell 0 bytes ++
          0x29 :: (spellEntries after ++ (ascii ">>" ++ (ascii "\nendobj" ++ rest))))) := by
      rw [written, Indirect.spell, spell, spellEntries_append]
      simp [spellOpen, spellEntries, gap, needsGap, spell]
    have misses : Bytes.Misses RawObjects.ending (spellOpen before key) := by
      rw [spellOpen, ← List.append_assoc, ← List.append_assoc]
      exact .of_not_inside (by decide) (by rwa [List.append_assoc])
    exact cutAt?_of_string spelled plainBefore
      (fun entry inside => readable entry (List.mem_append_left _ inside)) plainKey number generation
      misses inside

end Torn

/-! ## The encryption dictionary -/

namespace Lock

open Object

variable (lock : Lock)

theorem isReadable_dictionary : IsReadable (.dictionary lock.dictionary) := by
  have permissions : IsReadable (.integer lock.permissions.toInt) :=
    .integer lock.permissions.le_toInt lock.permissions.toInt_lt
  refine isReadable_of_names [ascii "Filter", ascii "V", ascii "R", ascii "Length", ascii "O",
    ascii "U", ascii "P"] rfl (by decide) (by decide) ?_
  simp only [List.forall_mem_cons]
  exact ⟨(IsBare.name (by decide)).readable, .integer (by decide) (by decide),
    .integer (by decide) (by decide), .integer (by decide) (by decide),
    isReadable_string (by rw [lock.length_ownerEntry]; decide),
    isReadable_string (by rw [lock.length_userEntry]; decide), permissions, nofun⟩

theorem onlyStrings_dictionary : OnlyStrings lock.dictionary.entries := by
  have entries : lock.dictionary.entries = [(ascii "Filter", .name (ascii "Standard")),
    (ascii "V", .integer 2), (ascii "R", .integer 3), (ascii "Length", .integer 128),
    (ascii "O", .string lock.ownerEntry), (ascii "U", .string lock.userEntry),
    (ascii "P", .integer lock.permissions.toInt)] := rfl
  rw [OnlyStrings, entries]
  simp only [List.forall_mem_cons]
  exact ⟨⟨by decide, .inl (.name (by decide))⟩,
    ⟨by decide, .inl (.integer (by decide) (by decide))⟩,
    ⟨by decide, .inl (.integer (by decide) (by decide))⟩,
    ⟨by decide, .inl (.integer (by decide) (by decide))⟩, ⟨by decide, .inr ⟨_, rfl⟩⟩,
    ⟨by decide, .inr ⟨_, rfl⟩⟩,
    ⟨by decide, .inl (.integer lock.permissions.le_toInt lock.permissions.toInt_lt)⟩, nofun⟩

/-- The word at which a file is cut up stands in the encryption dictionary. -/
def IsTorn : Prop :=
  RawObjects.ending <:+: Object.spell (.dictionary lock.dictionary)

end Lock

namespace Booklet

open Object

variable (lock : Lock) (bodies : List Bytes)

/-! ## The file -/

/-- Objects that are numbered from 1, each encrypted under the key of its id. -/
def encryptAll (key : Bytes) (objects : List Object) : List Object :=
  objects.mapIdx fun index object => object.encrypt key ⟨index + 1, 0⟩

/-- The trailer of a booklet that is locked, which names the catalog, the identifier of the file and
the encryption dictionary. -/
def lockedTrailer (count : Nat) : Dict :=
  ⟨[(ascii "Root", referTo (4 + 2 * count)),
    (ascii "ID", .array [.string lock.fileId, .string (ascii "fedcba9876543210")]),
    (ascii "Encrypt", referTo (5 + 2 * count))]⟩

/-- The file of a booklet that is locked. -/
def lockedFile : Bytes :=
  SavedFile.save (encryptAll lock.key (parts (contents bodies)) ++ [.dictionary lock.dictionary])
    (lockedTrailer lock bodies.length)

/-- The body of the content stream at a place, as it is encrypted. -/
def encryptBody (place : Nat) (body : Bytes) : Bytes :=
  Rc4.apply (CryptMethod.derivedKey lock.key ⟨4 + 2 * place, 0⟩ []) body

/-- The bodies of the content streams, as they are encrypted. -/
def encryptBodies : List Bytes := bodies.mapIdx (encryptBody lock)

variable {lock bodies}

theorem length_encryptBody (place : Nat) (body : Bytes) :
    (encryptBody lock place body).length = body.length :=
  Rc4.length_apply _ _

theorem length_encryptBodies : (encryptBodies lock bodies).length = bodies.length :=
  List.length_mapIdx

theorem getElem?_encryptBodies (place : Nat) :
    (encryptBodies lock bodies)[place]? = bodies[place]?.map (encryptBody lock place) :=
  List.getElem?_mapIdx

theorem encrypt_content (place : Nat) (body : Bytes) :
    (content body).encrypt lock.key ⟨2 * place + 3 + 1, 0⟩ =
      content (encryptBody lock place body) := by
  have number : 2 * place + 3 + 1 = 4 + 2 * place := by omega
  rw [content_eq, content_eq, length_encryptBody, number]
  rfl

/-- Encryption changes the content streams and nothing else. -/
theorem encryptAll_parts (few : 4 + 2 * bodies.length < sizeOfBits 32) :
    encryptAll lock.key (parts (contents bodies)) =
      parts (contents (encryptBodies lock bodies)) := by
  apply List.ext_getElem?
  intro index
  rw [encryptAll, List.getElem?_mapIdx]
  cases held : (parts (contents bodies))[index]? with
  | none =>
    rw [List.getElem?_eq_none_iff, length_parts_contents] at held
    rw [Option.map_none, List.getElem?_eq_none]
    rwa [length_parts_contents, length_encryptBodies]
  | some object =>
    rw [Option.map_some]
    rcases parts_contents_cases few held with ⟨place, body, rfl, found, rfl⟩ | ⟨bare, -, same⟩
    · refine (congrArg some (encrypt_content place body)).trans (getElem?_parts_contents ?_).symm
      rw [getElem?_encryptBodies, found, Option.map_some]
    · rw [bare.encrypt_eq, same _ (by rw [length_contents, length_encryptBodies])]

/-! ## Reading the file -/

theorem sized_lockedTrailer (objects : List Object) (count : Nat) :
    SavedFile.sized objects (lockedTrailer lock count) =
      ⟨[(ascii "Root", referTo (4 + 2 * count)),
        (ascii "ID", .array [.string lock.fileId, .string (ascii "fedcba9876543210")]),
        (ascii "Encrypt", referTo (5 + 2 * count)), (ascii "Size", .integer (objects.length + 1))]⟩ :=
  rfl

theorem isReadable_sized {objects : List Object} {count : Nat} (few : 5 + 2 * count < sizeOfBits 32)
    (size : objects.length + 1 < sizeOfBits 32) :
    IsReadable (.dictionary (SavedFile.sized objects (lockedTrailer lock count))) := by
  have wide : sizeOfBits 32 < sizeOfBits 63 := by decide
  have generation : 0 < sizeOfBits 16 := by decide
  have root : 4 + 2 * count < sizeOfBits 32 := by omega
  rw [sized_lockedTrailer]
  refine isReadable_of_names [ascii "Root", ascii "ID", ascii "Encrypt", ascii "Size"] rfl
    (by decide) (by decide) ?_
  simp only [List.forall_mem_cons]
  refine ⟨.reference root generation, .array ?_, .reference few generation,
    .integer (by omega) (by omega), nofun⟩
  simp only [List.forall_mem_cons]
  exact ⟨isReadable_string (by rw [lock.length_fileId]; decide), isReadable_string (by decide), nofun⟩

/-- The layout of a file in which a booklet is locked. -/
structure Locks (layout : Layout) (lock : Lock) (bodies : List Bytes) : Prop where
  root : layout.trailer.get? "Root" = some (referTo (4 + 2 * bodies.length))
  target : layout.trailer.get? "Encrypt" = some (.reference ⟨5 + 2 * bodies.length, 0⟩)
  identified : layout.trailer.get? "ID" =
    some (.array [.string lock.fileId, .string (ascii "fedcba9876543210")])
  stores : layout.Stores
    (parts (contents (encryptBodies lock bodies)) ++ [.dictionary lock.dictionary])
  few : 5 + 2 * bodies.length < sizeOfBits 32
  short : ∀ body ∈ bodies, body.length < sizeOfBits 63

theorem short_encryptBodies
    (short : ∀ body ∈ encryptBodies lock bodies, body.length < sizeOfBits 63) :
    ∀ body ∈ bodies, body.length < sizeOfBits 63 := by
  intro body inside
  obtain ⟨place, held⟩ := List.getElem?_of_mem inside
  have found : (encryptBodies lock bodies)[place]? = some (encryptBody lock place body) := by
    rw [getElem?_encryptBodies, held, Option.map_some]
  have same : (encryptBody lock place body).length = body.length := length_encryptBody place body
  rw [← same]
  exact short _ (List.mem_of_getElem? found)

theorem read_lockedFile (fits : (lockedFile lock bodies).length < sizeOfBits 32) :
    ∃ layout, Layout.read (lockedFile lock bodies) = .ok layout ∧ Locks layout lock bodies := by
  have few : 6 + 2 * bodies.length < sizeOfBits 32 := by
    have below := SavedFile.length_lt_save (encryptAll lock.key (parts (contents bodies)) ++
      [.dictionary lock.dictionary]) (lockedTrailer lock bodies.length)
    rw [List.length_append, encryptAll, List.length_mapIdx, length_parts_contents,
      List.length_singleton] at below
    rw [lockedFile, encryptAll] at fits
    omega
  rw [lockedFile, encryptAll_parts (by omega)] at fits ⊢
  have size : (parts (contents (encryptBodies lock bodies)) ++
      [Object.dictionary lock.dictionary]).length = 2 * bodies.length + 5 := by
    rw [List.length_append, length_parts_contents, length_encryptBodies, List.length_singleton]
  obtain ⟨layout, read, trailed, stores⟩ :=
    SavedFile.read_save (isReadable_sized (by omega) (by omega)) rfl fits
  rw [sized_lockedTrailer] at trailed
  exact ⟨layout, read, by rw [trailed]; rfl, by rw [trailed]; rfl, by rw [trailed]; rfl, stores,
    by omega, short_encryptBodies (short_of_fits fits)⟩

/-- The objects of a booklet stand in front of the encryption dictionary. -/
theorem getElem?_append {objects more : List Object} {index : Nat} {object : Object}
    (held : objects[index]? = some object) : (objects ++ more)[index]? = some object := by
  rw [List.getElem?_append_left (List.getElem?_eq_some_iff.mp held).1, held]

namespace Locks

variable {layout : Layout}

theorem storable (locks : Locks layout lock bodies) :
    ∀ object ∈ parts (contents (encryptBodies lock bodies)) ++ [.dictionary lock.dictionary],
      object.IsStorable := by
  have few := locks.few
  intro object inside
  rcases List.mem_append.mp inside with inside | inside
  · refine isStorable_of_mem_parts (by rw [length_encryptBodies]; omega) ?_ object inside
    intro body held
    obtain ⟨place, found⟩ := List.getElem?_of_mem held
    rw [getElem?_encryptBodies] at found
    obtain ⟨plain, held', rfl⟩ := Option.map_eq_some_iff.mp found
    rw [length_encryptBody]
    exact locks.short plain (List.mem_of_getElem? held')
  · rw [List.mem_singleton.mp inside]
    exact .dictionary lock.isReadable_dictionary

theorem isNamed (locks : Locks layout lock bodies) : layout.IsNamed :=
  locks.stores.isNamed locks.storable

end Locks

/-! ## What is known of the password -/

namespace Locks

variable {layout : Layout}

/-- Where the encryption dictionary stands, and what the shell holds of it. -/
theorem exists_place (locks : Locks layout lock bodies) :
    ∃ offset rest, (Document.shellOf layout).objects[(⟨5 + 2 * bodies.length, 0⟩ : ObjectId)]? =
        layout.cutAt? offset ∧
      layout.bytesFrom offset =
        Indirect.spell ⟨5 + 2 * bodies.length, 0⟩ (.dictionary lock.dictionary) ++ rest := by
  have last : (parts (contents (encryptBodies lock bodies)) ++
      [.dictionary lock.dictionary])[4 + 2 * bodies.length]? =
        some (.dictionary lock.dictionary) := by
    have size : 4 + 2 * bodies.length = (parts (contents (encryptBodies lock bodies))).length := by
      rw [length_parts_contents, length_encryptBodies, Nat.add_comm]
    rw [size, List.getElem?_concat_length]
  obtain ⟨offset, rest, place, written⟩ := locks.stores.exists_place last
  have number : 4 + 2 * bodies.length + 1 = 5 + 2 * bodies.length := by omega
  rw [number] at place written
  refine ⟨offset, rest, ?_, written⟩
  rw [Document.getElem?_shellOf locks.isNamed locks.target, place, Option.bind_some]

/-- An encryption dictionary in which the word stands is not found. -/
theorem encryption?_of_isTorn (locks : Locks layout lock bodies) (torn : lock.IsTorn) :
    (Document.shellOf layout).encryption? = none := by
  obtain ⟨offset, rest, shown, written⟩ := locks.exists_place
  refine Document.encryption?_shellOf ?_ locks.target
  rw [shown]
  exact Layout.cutAt?_of_torn lock.onlyStrings_dictionary written lock.isReadable_dictionary
    locks.few Layout.Stores.generation_lt torn

/-- An encryption dictionary in which the word does not stand is held by the shell. -/
theorem getElem?_shellOf (locks : Locks layout lock bodies) (whole : ¬ lock.IsTorn) :
    (Document.shellOf layout).objects[(⟨5 + 2 * bodies.length, 0⟩ : ObjectId)]? =
      some (.dictionary lock.dictionary) := by
  obtain ⟨offset, rest, shown, written⟩ := locks.exists_place
  rw [shown]
  exact Layout.cutAt?_of_spell written (.dictionary lock.isReadable_dictionary) locks.few
    Layout.Stores.generation_lt whole

theorem encryption?_eq (locks : Locks layout lock bodies) (whole : ¬ lock.IsTorn) :
    (Document.shellOf layout).encryption? = some lock.dictionary :=
  Document.encryption?_eq_some_iff.mpr ⟨_, Document.encryptionId?_eq_some_iff.mpr locks.target,
    Document.dictionaryAt_of_getElem? (locks.getElem?_shellOf whole)⟩

theorem fileId_eq (locks : Locks layout lock bodies) :
    (Document.shellOf layout).fileId = .ok lock.fileId := by
  have identified : (Document.shellOf layout).trailer.get? "ID" = _ := locks.identified
  rw [Document.fileId, identified]

end Locks

/-! ## The empty password -/

/-- What is left of a content stream when the file is cut up: its dictionary, if the word stands in
what its body is encrypted to. -/
def kept (lock : Lock) (place : Nat) (body : Bytes) : Object :=
  if RawObjects.ending <:+: encryptBody lock place body then .dictionary (lengthOnly body.length)
  else content body

/-- What is left of all content streams. -/
def keptContents (lock : Lock) (bodies : List Bytes) : List Object := bodies.mapIdx (kept lock)

theorem length_keptContents : (keptContents lock bodies).length = bodies.length :=
  List.length_mapIdx

theorem getElem?_keptContents (place : Nat) :
    (keptContents lock bodies)[place]? = bodies[place]?.map (kept lock place) :=
  List.getElem?_mapIdx

/-- Decrypting a content stream gives back what was encrypted. -/
theorem decryptObject_content (lock : Lock) (place : Nat) (body : Bytes) :
    lock.cryptor.decryptObject ⟨2 * place + 3 + 1, 0⟩ (content (encryptBody lock place body)) =
      (content body, none) := by
  have length : (lengthOnly body.length).get? "Length" = some (.integer body.length) := rfl
  have made : lock.cryptor.decryptObject ⟨2 * place + 3 + 1, 0⟩
      (Object.encrypt lock.cryptor.key ⟨2 * place + 3 + 1, 0⟩ (content body)) =
        (Indirect.streamOf (lengthOnly body.length) body, none) := by
    rw [content_eq]
    exact Cryptor.decryptObject_encrypt_stream lock.isClassic rfl rfl
  rw [Indirect.streamOf, Dictionary.set_eq_self length, ← content_eq] at made
  rwa [← encrypt_content]

/-- What a reader that cuts the file up finds of a content stream, decrypted. -/
theorem cutAt?_content {layout : Layout} {place : Nat} {body : Bytes} {offset : Nat} {rest : Bytes}
    (few : 2 * place + 3 + 1 < sizeOfBits 32) (short : body.length < sizeOfBits 63)
    (written : layout.bytesFrom offset =
      Indirect.spell ⟨2 * place + 3 + 1, 0⟩ (content (encryptBody lock place body)) ++ rest) :
    (layout.cutAt? offset).map (fun object =>
      (lock.cryptor.decryptObject ⟨2 * place + 3 + 1, 0⟩ object).1) =
        some (kept lock place body) := by
  have short' : (encryptBody lock place body).length < sizeOfBits 63 := by rwa [length_encryptBody]
  have bare : IsBare (.dictionary (lengthOnly body.length)) := isBare_lengthOnly short
  have absent : ¬ RawObjects.ending <:+:
      Object.spell (.dictionary (lengthOnly body.length)) ++ ascii "stream" :=
    Bytes.not_inside_of_not_mem (b := 0x6A) (by decide) (by
      rw [List.mem_append]
      exact not_or.mpr ⟨bare.noLetter, by decide⟩)
  rw [kept]
  split
  · next held =>
    rw [content_eq] at written
    rw [Layout.cutAt?_of_stream written (isStorable_content short') few Layout.Stores.generation_lt
      (by rwa [length_encryptBody]) held, length_encryptBody, Option.map_some,
      bare.decryptObject_eq lock.isClassic]
  -- The object is cut out as a whole: the word would have to stand in one of its three parts, as it
  -- goes over no line end.
  · next whole =>
    rw [Layout.cutAt?_of_spell written (isStorable_content short') few Layout.Stores.generation_lt ?_,
      Option.map_some, decryptObject_content]
    have word : ascii "stream\n" = ascii "stream" ++ [0x0A] := by decide
    have word' : ascii "\nendstream" = 0x0A :: ascii "endstream" := by decide
    rw [content_eq, Indirect.spell_stream, word, word', List.append_assoc, ← List.append_assoc,
      List.singleton_append, Bytes.inside_append_cons (b := 0x0A) (by decide), length_encryptBody,
      Bytes.inside_append_cons (b := 0x0A) (by decide)]
    exact not_or.mpr ⟨absent, not_or.mpr ⟨whole, by decide⟩⟩

namespace Locks

variable {layout : Layout}

/-- The booklet that is found when a locked one is cut up and decrypted. -/
theorem isBooklet_decryptRaw (locks : Locks layout lock bodies) :
    Document.IsBooklet
      { trailer := layout.trailer
        objects := Document.addPacked layout
          (Document.decryptRaw layout lock.cryptor (.ofLayout layout)) }
      (keptContents lock bodies) := by
  have few := locks.few
  have size : (keptContents lock bodies).length = bodies.length := length_keptContents
  refine ⟨?_, fun index object held => ?_, fun object inside => ?_⟩
  · change (layout.trailer.get? "Root").bind Object.reference? = _
    rw [locks.root, size]
    rfl
  · change (Document.addPacked layout _)[_]? = _
    rw [locks.stores.getElem?_addPacked]
    rcases parts_cases (by rw [size]; omega) held with ⟨place, rfl, found⟩ | ⟨bare, -, same⟩
    · rw [getElem?_keptContents] at found
      obtain ⟨body, inside, rfl⟩ := Option.map_eq_some_iff.mp found
      have below : place < bodies.length := (List.getElem?_eq_some_iff.mp inside).1
      have hides : (encryptBodies lock bodies)[place]? = some (encryptBody lock place body) := by
        rw [getElem?_encryptBodies, inside, Option.map_some]
      have short := locks.short body (List.mem_of_getElem? inside)
      obtain ⟨offset, rest, offsetOf, written⟩ :=
        locks.stores.exists_place (getElem?_append (getElem?_parts_contents hides))
      rw [Document.getElem?_decryptRaw_ofLayout locks.isNamed, offsetOf, Option.bind_some]
      exact cutAt?_content (by omega) short written
    · have bare' := same (contents (encryptBodies lock bodies)) (by
        rw [length_contents, length_encryptBodies, size])
      rw [locks.stores.getElem?_decryptRaw locks.storable (getElem?_append bare')
        fun offset rest written => Layout.cutAt?_of_spell written
          (locks.storable object (List.mem_of_getElem? (getElem?_append bare')))
          (locks.stores.number_lt (getElem?_append bare')) Layout.Stores.generation_lt bare.unbroken]
      rw [Option.map_some, bare.decryptObject_eq lock.isClassic]
  · obtain ⟨place, found⟩ := List.getElem?_of_mem inside
    rw [getElem?_keptContents] at found
    obtain ⟨body, -, rfl⟩ := Option.map_eq_some_iff.mp found
    rw [kept]
    split <;> trivial

/-- Where the empty password is the user password, a locked booklet is opened by any password. -/
theorem load_of_empty {file : Bytes} (read : Layout.read file = .ok layout)
    (locks : Locks layout lock bodies) (whole : ¬ lock.IsTorn) (empty : lock.user = "")
    (password : Option String) :
    Document.load file password = .ok
      { trailer := layout.trailer
        objects := Document.addPacked layout
          (Document.decryptRaw layout lock.cryptor (.ofLayout layout)) } := by
  have accepted : (Document.shellOf layout).authenticate "" = .ok () := by
    rw [← empty]
    exact lock.authenticate (locks.encryption?_eq whole) locks.fileId_eq
  have made : Cryptor.ofPassword (Document.shellOf layout) "" = .ok lock.cryptor := by
    rw [← empty]
    exact lock.cryptor_eq (locks.encryption?_eq whole) locks.fileId_eq
  have encrypted : (layout.trailer.get? "Encrypt").isSome := by
    rw [locks.target]
    rfl
  rw [Document.load, Opening.ofBytes, read, Except.map,
    Document.ofLayout_of_accepted encrypted accepted made]
  rfl

end Locks

/-! ## The user password -/

theorem savedAt_append_of_ne {objects : List Object} {last : Object} {id : ObjectId}
    (ne : id ≠ ⟨objects.length + 1, 0⟩) : savedAt (objects ++ [last]) id = savedAt objects id := by
  match id, ne with
  | ⟨0, _⟩, _ => rfl
  | ⟨index + 1, 0⟩, ne =>
    have other : index ≠ objects.length := fun same => ne (by rw [same])
    rw [savedAt, savedAt, List.getElem?_append]
    split
    · rfl
    · rw [List.getElem?_eq_none (by rw [List.length_singleton]; omega),
        List.getElem?_eq_none (by omega)]
  | ⟨index + 1, generation + 1⟩, _ => rfl

/-- Decrypting a part of a booklet gives back what was encrypted. -/
theorem decryptObject_part (few : 4 + 2 * bodies.length < sizeOfBits 32) {index : Nat}
    {object : Object} (held : (parts (contents bodies))[index]? = some object) :
    lock.cryptor.decryptObject ⟨index + 1, 0⟩ (object.encrypt lock.key ⟨index + 1, 0⟩) =
      (object, none) := by
  rcases parts_contents_cases few held with ⟨place, body, rfl, -, rfl⟩ | ⟨bare, -, -⟩
  · rw [encrypt_content, decryptObject_content]
  · rw [bare.encrypt_eq, bare.decryptObject_eq lock.isClassic]

/-- No part of a booklet is an object stream. -/
theorem unpacked_part (few : 4 + 2 * bodies.length < sizeOfBits 32) {index : Nat} {object : Object}
    (held : (parts (contents bodies))[index]? = some object) : Document.unpacked object = object := by
  rcases parts_contents_cases few held with ⟨place, body, -, -, rfl⟩ | ⟨-, ⟨entries, rfl⟩, -⟩ <;> rfl

namespace Locks

variable {layout : Layout} {objects : Objects}

/-- What is read again is encrypted. -/
theorem getElem?_stored (locks : Locks layout lock bodies)
    (stored : Document.HoldsStored layout ⟨5 + 2 * bodies.length, 0⟩ objects) {id : ObjectId}
    (ne : id ≠ ⟨5 + 2 * bodies.length, 0⟩) :
    objects[id]? = savedAt (encryptAll lock.key (parts (contents bodies))) id := by
  have few := locks.few
  have size : (parts (contents (encryptBodies lock bodies))).length + 1 = 5 + 2 * bodies.length := by
    rw [length_parts_contents, length_encryptBodies]
    omega
  rw [stored id ne, locks.stores.stored?_eq locks.storable, savedAt_append_of_ne (by rwa [size]),
    encryptAll_parts (by omega)]

/-- Every object that is read again can be decrypted. -/
theorem decryptObjects_eq (locks : Locks layout lock bodies)
    (stored : Document.HoldsStored layout ⟨5 + 2 * bodies.length, 0⟩ objects) :
    ∃ decrypted, lock.cryptor.decryptObjects ⟨5 + 2 * bodies.length, 0⟩ objects = .ok decrypted := by
  have few := locks.few
  refine ⟨_, Cryptor.decryptObjects_eq_ok_iff.mpr ⟨?_, rfl⟩⟩
  rintro ⟨⟨number, generation⟩, object⟩ inside ne
  have held := Std.TreeMap.mem_toList_iff_getElem?_eq_some.mp inside
  rw [locks.getElem?_stored stored ne] at held
  match number, generation, held with
  | index + 1, 0, held =>
    rw [savedAt, encryptAll, List.getElem?_mapIdx] at held
    obtain ⟨plain, found, rfl⟩ := Option.map_eq_some_iff.mp held
    rw [decryptObject_part (by omega) found]

/-- The parts of the booklet are kept. -/
theorem getElem?_keep (locks : Locks layout lock bodies)
    (stored : Document.HoldsStored layout ⟨5 + 2 * bodies.length, 0⟩ objects) {decrypted : Objects}
    (done : lock.cryptor.decryptObjects ⟨5 + 2 * bodies.length, 0⟩ objects = .ok decrypted)
    {index : Nat} {object : Object} (held : (parts (contents bodies))[index]? = some object) :
    (Document.keep ⟨5 + 2 * bodies.length, 0⟩ decrypted)[(⟨index + 1, 0⟩ : ObjectId)]? =
      some object := by
  have few := locks.few
  have ne : (⟨index + 1, 0⟩ : ObjectId) ≠ ⟨5 + 2 * bodies.length, 0⟩ := by
    have inside := (List.getElem?_eq_some_iff.mp held).1
    rw [length_parts_contents] at inside
    simp only [ne_eq, ObjectId.mk.injEq, and_true]
    omega
  have found : decrypted[(⟨index + 1, 0⟩ : ObjectId)]? = some object := by
    rw [Cryptor.getElem?_decryptObjects done, if_neg ne, locks.getElem?_stored stored ne, savedAt,
      encryptAll, List.getElem?_mapIdx, held, Option.map_some, Option.map_some,
      decryptObject_part (by omega) held]
  rw [Document.getElem?_keep ne, found, Option.map_some, unpacked_part (by omega) held,
    Option.some_or]

/-- The booklet that is found when a locked one is read again and decrypted. -/
theorem reopened_eq (locks : Locks layout lock bodies) (whole : ¬ lock.IsTorn) :
    ∃ document, Document.reopened layout lock.user = .ok document ∧
      document.IsBooklet (contents bodies) := by
  have known := locks.encryption?_eq whole
  obtain ⟨full, filled, trailer, same, -, stored⟩ :=
    Document.filled_shellOf locks.isNamed locks.target (locks.getElem?_shellOf whole)
  obtain ⟨decrypted, done⟩ := locks.decryptObjects_eq stored
  have target : full.encryptionId? = some ⟨5 + 2 * bodies.length, 0⟩ := by
    rw [Document.encryptionId?_eq_some_iff, trailer, locks.target]
  have accepted : full.authenticate lock.user = .ok () := by
    rw [same.authenticate, lock.authenticate known locks.fileId_eq]
  have key : Cryptor.ofPassword full lock.user = .ok lock.cryptor := by
    rw [same.cryptor, lock.cryptor_eq known locks.fileId_eq]
  refine ⟨_, (Document.reopened_eq_ok_iff filled target accepted key).mpr ⟨decrypted, done, rfl⟩, ?_,
    fun index object held => ?_, isContent_of_mem_contents⟩
  · change ((full.trailer.erase "Encrypt").get? "Root").bind Object.reference? = _
    rw [trailer, Dictionary.get?_erase, if_neg (by decide), locks.root, length_contents]
    rfl
  · exact locks.getElem?_keep stored done held

/-- A locked booklet that asks for a password is opened by its user password. -/
theorem load_of_locked {file : Bytes} (read : Layout.read file = .ok layout)
    (locks : Locks layout lock bodies) (whole : ¬ lock.IsTorn)
    (asked : Document.load file none = .error .passwordRequired) :
    ∃ document, Document.load file (some lock.user) = .ok document ∧
      document.IsBooklet (contents bodies) := by
  obtain ⟨document, opened, booklet⟩ := locks.reopened_eq whole
  refine ⟨document, ?_, booklet⟩
  rcases Document.load_cases file with ⟨reason, -, failed⟩ | ⟨other, loaded⟩ |
    ⟨layout', read', -, -, unlocked⟩
  · rw [failed] at asked
    cases asked
  · rw [loaded] at asked
    cases asked
  · obtain rfl : layout' = layout := by simpa [read] using read'.symm
    have accepted : (Locked.ofRaw layout' (.ofLayout layout')).shell.authenticateUser lock.user =
        .ok () := lock.authenticateUser (locks.encryption?_eq whole) locks.fileId_eq
    obtain ⟨full, filled, decrypted⟩ := Except.bind_eq_ok_iff.mp opened
    rw [unlocked, Locked.unlock, accepted]
    simp only [filled, Except.mapError_ok, Except.ok_bind, decrypted]

end Locks

end Booklet

end PdfText

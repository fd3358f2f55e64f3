import PdfText.Proofs.Leading

/-!
# Filling the shell of a locked document

A locked document is filled with the objects in use, each read at its place. The reader goes from id
to id and puts every object that it reads into the very document that it holds. To read a stream it
may have to read another object first, which holds the length, and so on; the ids on the way are
kept, and one that comes up again is not read.

None of this can be seen in the end. A length has to be an integer, and neither a stream nor a
dictionary is one, so the way is never longer than one step. What is read depends on the bytes and on the
cross-reference table alone, and so neither on the order of the ids nor on what was read before.

The shell can be filled if the trailer refers to the encryption dictionary. A password is accepted
only if the encryption dictionary is found in the same way, so an accepted password never meets a
shell that cannot be filled.

## Main definitions

* `FiledDocument` — a document with the version and the cross-reference table of its file
* `Reader`, `Reader.object?` — reads objects, given the ids on the way to each
* `Reader.fill` — puts the objects with some ids into the document that the reader holds
* `FiledDocument.filledFrom` — the shell of a file together with its objects

## Main results

* `Reader.object?_nil` — an object is what stands at its place
* `FiledDocument.filledFrom_holds` — what a filled shell holds
* `Document.load_of_accepted` — an accepted password fails by decryption alone
-/

namespace Std.TreeMap

variable {κ β : Type} [Ord κ] [TransOrd κ] [LawfulEqOrd κ] [DecidableEq κ]

/-- What a map holds at a key after the values of some keys were put in, as far as they have one. -/
theorem getElem?_insertAll_filterMap_keys (keys : List κ) (make : κ → Option β) (map : TreeMap κ β)
    (key : κ) :
    (map.insertAll (keys.filterMap fun key => (make key).map (Prod.mk key)))[key]? =
      if key ∈ keys then (make key).or map[key]? else map[key]? := by
  -- By induction on the keys. A key may occur again, but its value is the same.
  induction keys generalizing map with
  | nil => rfl
  | cons first keys ih =>
    rw [List.filterMap_cons]
    cases made : make first with
    | none =>
      rw [Option.map_none, ih]
      by_cases here : key = first
      · subst here
        simp [made]
      · simp [here]
    | some value =>
      rw [Option.map_some, insertAll, List.foldl_cons]
      change ((map.insert first value).insertAll _)[key]? = _
      rw [ih, getElem?_insert_eq_ite]
      by_cases here : key = first
      · subst here
        simp [made]
      · simp [here]

end Std.TreeMap

namespace PdfText

/-! ## Objects that begin like a dictionary -/

namespace Direct

/-- A dictionary begins with two brackets. -/
theorem eq_cons_of_dictionary {budget : Nat} {bytes rest : Bytes} {entries : Dict}
    (read : dictionary budget bytes = some (entries, rest)) :
    ∃ others, bytes = 0x3C :: 0x3C :: others := by
  have word : ascii "<<" = [0x3C, 0x3C] := by decide
  rw [dictionary, dictionaryOf, Rule.bind_apply, Option.bind_eq_some_iff] at read
  obtain ⟨found, opened, -⟩ := read
  rw [Rule.literal, word, Option.map_eq_some_iff] at opened
  obtain ⟨others, begins, -⟩ := opened
  exact ⟨others, (List.isPrefixOf?_eq_some_iff_append_eq.mp begins).symm⟩

/-- What begins with two brackets is no integer. -/
theorem integer?_of_brackets (others : Bytes) :
    (objectAt? (0x3C :: 0x3C :: others)).bind Object.integer? = none := by
  have unnamed : Token.name (0x3C :: 0x3C :: others) = none := rfl
  have string : Token.literalString (0x3C :: 0x3C :: others) = none := rfl
  have digits : Token.hexString (0x3C :: 0x3C :: others) = none := rfl
  have unlisted (budget : Nat) :
      arrayOf (object budget) budget (0x3C :: 0x3C :: others) = none := rfl
  rw [objectAt?, Rule.value?, List.length_cons, object_of_mark (by decide), unnamed, string, digits,
    compoundOf, Rule.orElse_apply, Rule.map_apply, Rule.map_apply, unlisted]
  cases dictionaryOf (object _) _ (0x3C :: 0x3C :: others) <;> rfl

end Direct

namespace Indirect

variable {lengthOf other : ObjectId → Option Int} {id : ObjectId} {bytes : Bytes}

/-- An object is an integer if one stands after its header. Lengths of streams do not matter. -/
theorem integer?_of_body? (lengthOf : ObjectId → Option Int) (id : ObjectId) (bytes : Bytes) :
    ((body? lengthOf id bytes).map Indirect.object).bind Object.integer? =
      (Direct.objectAt? bytes).bind Object.integer? := by
  rw [body?]
  cases read : Direct.dictionary (bytes.length + 1) bytes with
  | none =>
    rw [Direct.objectAt?]
    simp [Option.map_map, Function.comp_def]
  | some found =>
    obtain ⟨others, rfl⟩ := Direct.eq_cons_of_dictionary (read.trans rfl)
    rw [Direct.integer?_of_brackets]
    -- A stream, a dictionary or nothing.
    dsimp only
    split
    · rfl
    split
    · rfl
    · split <;> rfl
    · rfl

/-- The lengths of streams matter only where a dictionary stands. -/
theorem body?_congr
    (same : (Direct.objectAt? bytes).bind Object.integer? = none → ∀ target, lengthOf target = other target) :
    body? lengthOf id bytes = body? other id bytes := by
  cases read : Direct.dictionary (bytes.length + 1) bytes with
  | none =>
    rw [body?, body?]
    simp only [read]
  | some found =>
    obtain ⟨others, rfl⟩ := Direct.eq_cons_of_dictionary (read.trans rfl)
    rw [funext (same (Direct.integer?_of_brackets others))]

theorem integer?_eq (id : ObjectId) (bytes : Bytes) :
    integer? id bytes = (header bytes).bind fun (found, afterHeader) =>
      if found = id then (Direct.objectAt? afterHeader).bind Object.integer? else none := rfl

end Indirect

theorem Layout.lengthOf_eq (layout : Layout) (id : ObjectId) :
    layout.lengthOf id =
      (layout.offsetOf? id).bind fun offset => Indirect.integer? id (layout.bytesFrom offset) := by
  rw [lengthOf, offsetOf?]
  rcases layout.entries[id.number]? with _ | ⟨offset, generation⟩ | _
  · rfl
  · dsimp only
    split <;> rfl
  · rfl

/-! ## The reader -/

/-- A document with the version and the cross-reference table of its file. -/
structure FiledDocument extends Document where
  /-- The version that the header names. -/
  version : Bytes
  /-- Where objects stand. A number that is free has no entry. -/
  entries : Xref

/-- Reads the objects of a document from some bytes. -/
structure Reader where
  /-- The bytes, from the header on. -/
  buffer : Bytes
  /-- The document that the objects belong to, with those read so far. -/
  document : FiledDocument

namespace Reader

variable {reader : Reader} {seen : List ObjectId} {id : ObjectId}

/-- The layout that the reader goes by. -/
def layout (reader : Reader) : Layout where
  bytes := reader.buffer
  version := reader.document.version
  entries := reader.document.entries
  trailer := reader.document.trailer

/-- The ids of the objects in use. -/
def ids (reader : Reader) : List ObjectId := reader.layout.normalEntries.map Prod.fst

/-- The objects in use that are not on the way. -/
def unseen (reader : Reader) (seen : List ObjectId) : List ObjectId :=
  reader.ids.filter fun id => id ∉ seen

theorem mem_ids : id ∈ reader.ids ↔ ∃ offset, reader.layout.offsetOf? id = some offset := by
  simp [ids, ← Layout.mem_normalEntries]

/-- Each object on the way leaves fewer of them. -/
theorem length_unseen_lt (new : id ∉ seen) (inside : id ∈ reader.ids) :
    (reader.unseen (id :: seen)).length < (reader.unseen seen).length := by
  have apart : reader.unseen (id :: seen) = (reader.unseen seen).filter (· ≠ id) := by
    rw [unseen, unseen, List.filter_filter]
    refine List.filter_congr fun other _ => ?_
    simp
  rw [apart, List.length_filter_lt_length_iff_exists]
  exact ⟨id, List.mem_filter.mpr ⟨inside, by simpa using new⟩, by simp⟩

/-- The object with an id, if it stands where the table says and bears that id. An id on the way to
itself is not read. A stream whose length stands elsewhere leads on to the object that holds it. -/
def object? (reader : Reader) (seen : List ObjectId) (id : ObjectId) : Option Object :=
  if new : id ∈ seen then none
  else
    match place : reader.layout.offsetOf? id with
    | none => none
    | some offset =>
      have : (reader.unseen (id :: seen)).length < (reader.unseen seen).length :=
        length_unseen_lt new (mem_ids.mpr ⟨offset, place⟩)
      let lengthOf target := (reader.object? (id :: seen) target).bind Object.integer?
      (Indirect.header (reader.layout.bytesFrom offset)).bind fun (found, afterHeader) =>
        if found = id then (Indirect.body? lengthOf found afterHeader).map Indirect.object else none
termination_by (reader.unseen seen).length

theorem object?_of_mem (visited : id ∈ seen) : reader.object? seen id = none := by
  rw [object?, dif_pos visited]

/-- What is read of an id that is not on the way. -/
theorem object?_of_not_mem (new : id ∉ seen) :
    reader.object? seen id = (reader.layout.offsetOf? id).bind fun offset =>
      (Indirect.header (reader.layout.bytesFrom offset)).bind fun (found, afterHeader) =>
        if found = id then
          (Indirect.body? (fun target => (reader.object? (id :: seen) target).bind Object.integer?)
            found afterHeader).map Indirect.object
        else none := by
  rw [object?, dif_neg new]
  split
  · next absent => rw [absent, Option.bind_none]
  · next offset place =>
    dsimp only
    rw [place, Option.bind_some]

/-- Whatever is on the way, an integer is found where the layout finds a length. -/
theorem integer?_object? (new : id ∉ seen) :
    (reader.object? seen id).bind Object.integer? = reader.layout.lengthOf id := by
  rw [object?_of_not_mem new, Layout.lengthOf_eq, Option.bind_assoc]
  congr 1
  funext offset
  rw [Indirect.integer?_eq, Option.bind_assoc]
  congr 1
  funext ⟨found, afterHeader⟩
  dsimp only
  split
  · exact Indirect.integer?_of_body? _ _ _
  · rfl

/-- An object is what stands at its place, if that bears its id. -/
theorem object?_nil (reader : Reader) (id : ObjectId) :
    reader.object? [] id = (reader.layout.offsetOf? id).bind fun offset =>
      (reader.layout.indirectAt? offset).bind fun found =>
        if found.id = id then some found.object else none := by
  rw [object?_of_not_mem (List.not_mem_nil)]
  cases place : reader.layout.offsetOf? id with
  | none => rfl
  | some offset =>
  rw [Option.bind_some, Option.bind_some, Layout.indirectAt?, Indirect.read?]
  cases headed : Indirect.header (reader.layout.bytesFrom offset) with
  | none => rfl
  | some header =>
  obtain ⟨found, afterHeader⟩ := header
  rw [Option.bind_some]
  change _ = (Indirect.body? reader.layout.lengthOf found afterHeader).bind _
  dsimp only
  split
  · next same =>
    subst same
    -- The only id on the way is that of the object itself. If it is a stream, it is no length.
    have lengths (unlike : (Direct.objectAt? afterHeader).bind Object.integer? = none)
        (target : ObjectId) : (reader.object? [found] target).bind Object.integer? =
          reader.layout.lengthOf target := by
      by_cases own : target = found
      · subst own
        have none : reader.layout.lengthOf target = none := by
          simp [Layout.lengthOf_eq, place, Indirect.integer?_eq, headed, unlike]
        rw [none, object?_of_mem (List.mem_singleton_self _), Option.bind_none]
      · exact integer?_object? (by simpa using own)
    rw [Indirect.body?_congr lengths]
    cases read : Indirect.body? reader.layout.lengthOf found afterHeader with
    | none => rfl
    | some indirect => simp [Indirect.id_of_body? read]
  · next other =>
    cases read : Indirect.body? reader.layout.lengthOf found afterHeader with
    | none => rfl
    | some indirect => simp [Indirect.id_of_body? read, other]

/-! ### Reading one object after the other -/

/-- Reads an object and puts it into the document. One that cannot be read is passed over. -/
def step (reader : Reader) (id : ObjectId) : Reader :=
  match reader.object? [] id with
  | some object =>
    { reader with document.objects := reader.document.objects.insert id object }
  | none => reader

/-- Reads the objects with some ids, one after the other. -/
def fill (reader : Reader) (ids : List ObjectId) : Reader := ids.foldl step reader

/-- What is read does not depend on the objects read before. -/
theorem object?_of_layout {other : Reader} (same : reader.layout = other.layout) (id : ObjectId) :
    reader.object? [] id = other.object? [] id := by
  rw [object?_nil, object?_nil, same]

/-- Reading in a row changes nothing but the objects, and puts in those that can be read. -/
theorem fill_eq (reader : Reader) (ids : List ObjectId) :
    reader.fill ids = { reader with
      document.objects := reader.document.objects.insertAll
        (ids.filterMap fun id => (reader.object? [] id).map (Prod.mk id)) } := by
  -- By induction on the ids, for all readers: a step leaves a reader with the same layout, and so
  -- the rest is read as it would have been without the step.
  induction ids generalizing reader with
  | nil => rfl
  | cons id ids ih =>
    have same : (reader.step id).layout = reader.layout := by
      rw [step]
      split <;> rfl
    rw [fill, List.foldl_cons]
    change (reader.step id).fill ids = _
    simp only [ih, object?_of_layout same]
    rw [step, List.filterMap_cons]
    cases reader.object? [] id <;> rfl

/-- The ids that are read decide what is held in the end, and their order does not matter. -/
theorem getElem?_fill (reader : Reader) (ids : List ObjectId) (id : ObjectId) :
    (reader.fill ids).document.objects[id]? =
      if id ∈ ids then (reader.object? [] id).or reader.document.objects[id]?
      else reader.document.objects[id]? := by
  rw [fill_eq]
  exact Std.TreeMap.getElem?_insertAll_filterMap_keys ids (reader.object? []) _ id

end Reader

/-! ## Shells that are filled -/

/-- The reader of the objects of a document in a file. -/
def FiledDocument.readerOf (shell : FiledDocument) (file : Bytes) : Reader :=
  ⟨file.drop (Locked.bufferStart file), shell⟩

/-- The shell of a file together with its objects, as they are encrypted. The encryption dictionary
stays as it is. -/
def FiledDocument.filledFrom (shell : FiledDocument) (file : Bytes) :
    Except PdfError FiledDocument :=
  match shell.trailer.get? "Encrypt" with
  | none => .error (.missingKey "Encrypt")
  | some (.reference encryption) =>
    let reader := shell.readerOf file
    .ok (reader.fill (reader.ids.filter (· ≠ encryption))).document
  | some other => .error (.objectType [.reference] other.kind)

/-- The objects that the reader reads are those that are read again. -/
theorem Locked.reread_layout (reader : Reader) (encryption : ObjectId) :
    reread reader.layout encryption = (reader.ids.filter (· ≠ encryption)).filterMap fun id =>
      (reader.object? [] id).map (Prod.mk id) := by
  rw [List.filterMap_filter, Reader.ids, List.filterMap_map, reread]
  refine List.filterMap_congr ?_
  rintro ⟨id, offset⟩ inside
  rw [Function.comp_apply, reader.object?_nil, Layout.mem_normalEntries.mp inside, Option.bind_some]
  by_cases left : id = encryption
  · simp [left]
  · simp only [left, if_false, ne_eq, not_false_eq_true, decide_true, if_true]
    cases reader.layout.indirectAt? offset with
    | none => rfl
    | some found =>
      simp only [Option.bind_some]
      split <;> rfl

/-- Filling a shell object by object comes to the same as reading all objects first. -/
theorem FiledDocument.filledFrom_eq (shell : FiledDocument) (file : Bytes) :
    (shell.filledFrom file).map toDocument =
      Locked.filled ⟨(shell.readerOf file).layout, shell.toDocument⟩ := by
  rw [filledFrom, Locked.filled]
  cases shell.trailer.get? "Encrypt" with
  | none => rfl
  | some object =>
    cases object with
    | reference encryption =>
      dsimp only [Except.map]
      rw [Reader.fill_eq, ← Locked.reread_layout]
      rfl
    | _ => rfl

theorem Reader.mem_ids_filter {reader : Reader} {encryption id : ObjectId} :
    id ∈ reader.ids.filter (· ≠ encryption) ↔
      (∃ offset, reader.document.entries[id.number]? = some (.normal offset id.generation)) ∧
        id ≠ encryption := by
  simp [Reader.mem_ids, Layout.offsetOf?_eq_some_iff, Reader.layout]

/-- What a filled shell holds. Under the id of each object in use, but for the encryption dictionary,
it holds what the reader reads for that id, without anything on the way; where nothing is read, and
under all other ids, it holds what the shell held. The rest of the shell stays as it is. The ids may
be gone through in any order, and what is read for one does not depend on what is held already. The
objects of a locked document are read again in this way. -/
theorem FiledDocument.filledFrom_holds (file : Bytes) (shell : FiledDocument) {encryption : ObjectId}
    (target : shell.trailer.get? "Encrypt" = some (.reference encryption)) :
    let reader := shell.readerOf file
    ∃ full, shell.filledFrom file = .ok full ∧
      full.trailer = shell.trailer ∧ full.version = shell.version ∧ full.entries = shell.entries ∧
      (∀ id offset, shell.entries[id.number]? = some (.normal offset id.generation) →
        id ≠ encryption → full.objects[id]? = (reader.object? [] id).or shell.objects[id]?) ∧
      (∀ id, id = encryption ∨
          (∀ offset, shell.entries[id.number]? ≠ some (.normal offset id.generation)) →
        full.objects[id]? = shell.objects[id]?) ∧
      (∀ order : List ObjectId, order.Perm (reader.ids.filter (· ≠ encryption)) →
        ∀ id : ObjectId, (reader.fill order).document.objects[id]? = full.objects[id]?) ∧
      (∀ (held : Objects) (id : ObjectId),
        ({ shell with objects := held }.readerOf file).object? [] id = reader.object? [] id) ∧
      Locked.filled ⟨reader.layout, shell.toDocument⟩ = .ok full.toDocument := by
  intro reader
  have filled : shell.filledFrom file =
      .ok (reader.fill (reader.ids.filter (· ≠ encryption))).document := by
    rw [filledFrom, target]
  have again := shell.filledFrom_eq file
  rw [filled] at again
  have kept := reader.fill_eq (reader.ids.filter (· ≠ encryption))
  refine ⟨_, filled, by rw [kept]; rfl, by rw [kept]; rfl, by rw [kept]; rfl,
    fun id offset used other => ?_, fun id left => ?_, fun order same id => ?_, fun held id => ?_,
    again.symm⟩
  · rw [reader.getElem?_fill, if_pos (Reader.mem_ids_filter.mpr ⟨⟨offset, used⟩, other⟩)]
    rfl
  · rw [reader.getElem?_fill, if_neg]
    · rfl
    · rw [Reader.mem_ids_filter]
      rintro ⟨⟨offset, used⟩, other⟩
      exact left.elim other fun free => free offset used
  · rw [reader.getElem?_fill, reader.getElem?_fill]
    simp only [same.mem_iff]
  · have same : ({ shell with objects := held }.readerOf file).layout = reader.layout := rfl
    exact Reader.object?_of_layout same id

/-- The shell of a file with some bytes before its header. The length of one stream stands elsewhere,
one entry leads to an object with another id, and the encryption dictionary is there already. -/
def scatteredShell : FiledDocument where
  trailer := ⟨[(ascii "Encrypt", .reference ⟨4, 0⟩)]⟩
  objects := Std.TreeMap.empty.insert ⟨4, 0⟩ (.integer 5)
  version := ascii "1.5"
  entries := Std.TreeMap.ofList
    [(1, XrefEntry.normal 9 0), (2, .normal 26 0), (3, .normal 26 0), (4, .normal 9 0)]

/-- The file that this shell belongs to. -/
def scatteredFile : Bytes :=
  ascii "%PDF %PDF-1.5\n1 0 obj 3 endobj \n2 0 obj<</Length 1 0 R>>stream\nabc\nendstream"

/-- The shell is filled with the two objects that stand where the table says. -/
theorem scatteredShell_filled :
    scatteredShell.trailer.get? "Encrypt" = some (.reference ⟨4, 0⟩) ∧
      ∃ full, scatteredShell.filledFrom scatteredFile = .ok full ∧
        full.objects[(⟨1, 0⟩ : ObjectId)]?.bind Object.integer? = some 3 ∧
        (full.objects[(⟨2, 0⟩ : ObjectId)]?.bind Object.stream?).map Prod.snd = some (ascii "abc") ∧
        full.objects[(⟨3, 0⟩ : ObjectId)]?.isNone ∧
        full.objects[(⟨4, 0⟩ : ObjectId)]?.bind Object.integer? = some 5 := by
  obtain ⟨full, filled, -, -, -, used, left, -⟩ :=
    FiledDocument.filledFrom_holds scatteredFile scatteredShell rfl
  refine ⟨rfl, full, filled, ?_, ?_, ?_, ?_⟩
  · rw [used ⟨1, 0⟩ 9 (by decide +kernel) (by decide), Reader.object?_nil]
    decide +kernel
  · rw [used ⟨2, 0⟩ 26 (by decide +kernel) (by decide), Reader.object?_nil]
    decide +kernel
  · rw [used ⟨3, 0⟩ 26 (by decide +kernel) (by decide), Reader.object?_nil]
    decide +kernel
  · rw [left ⟨4, 0⟩ (.inl rfl)]
    decide +kernel

/-! ## Passwords that are accepted -/

/-- The shell of a locked document, with the version and the table of its file. -/
def Locked.filed (locked : Locked) : FiledDocument where
  toDocument := locked.shell
  version := locked.layout.version
  entries := locked.layout.entries

/-- A locked document is read again with the layout that it was found with. -/
theorem Locked.layout_readerOf {file : Bytes} {layout : Layout} (read : Layout.read file = .ok layout)
    (raw : RawObjects) : ((ofRaw layout raw).filed.readerOf file).layout = layout := by
  have bytes : file.drop (bufferStart file) = layout.bytes := by
    rw [bufferStart_eq, Layout.bytes_of_read read, Bytes.fromFirst]
  simp only [Reader.layout, FiledDocument.readerOf, bytes]
  rfl

/-- Decryption under an accepted user password fails because of the file key, or because of data that
is damaged. -/
theorem Document.decrypt_failsOnly {document : Document} {encryption : ObjectId} {password : String}
    (held : document.encryptionId? = some encryption)
    (accepted : document.authenticateUser password = .ok ()) :
    Except.FailsOnly (fun reason => Cryptor.ofPassword document password = .error reason ∨
      ∃ damage : DecryptionError, reason = .decryption damage ∧ damage.IsDamage)
      (document.decrypt password) := by
  intro reason failed
  -- The password is accepted, so the first step that can fail is to make the file key.
  cases key : Cryptor.ofPassword document password with
  | error other =>
    left
    simpa [decrypt, decryptedObjects, held, authenticate_of_authenticateUser accepted, key]
      using failed
  | ok cryptor =>
    right
    cases decrypted : cryptor.decryptObjects encryption document.objects with
    | ok objects =>
      simp [decrypt, decryptedObjects, held, authenticate_of_authenticateUser accepted, key,
        decrypted] at failed
    | error other =>
      obtain rfl : other = reason := by
        simpa [decrypt, decryptedObjects, held, authenticate_of_authenticateUser accepted, key,
          decrypted] using failed
      exact cryptor.decryptObjects_failsOnly _ _ _ decrypted

/-- A password that is accepted for a locked document is not wasted. The trailer then refers to the
encryption dictionary, so the shell can be filled, and loading comes to decrypting what it is filled
with. That fails because of the file key or because of data that is damaged, and for no other
reason. -/
theorem Document.load_of_accepted {file : Bytes} {shut : Locked} {password : String}
    (found : Opening.ofBytes file = .ok (.locked shut))
    (accepted : shut.shell.authenticateUser password = .ok ()) :
    ∃ (encryption : ObjectId) (full : FiledDocument),
      shut.shell.trailer.get? "Encrypt" = some (.reference encryption) ∧
      shut.filed.filledFrom file = .ok full ∧
      shut.filled = .ok full.toDocument ∧
      load file (some password) = (full.decrypt password).mapError .pdf ∧
      ∀ reason, full.decrypt password = .error reason →
        Cryptor.ofPassword full.toDocument password = .error reason ∨
          ∃ damage : DecryptionError, reason = .decryption damage ∧ damage.IsDamage := by
  have loaded : load file (some password) = shut.unlock password := by
    simp [load, found, Opening.document]
  rw [Opening.ofBytes] at found
  cases read : Layout.read file with
  | error reason => simp [read, Except.map] at found
  | ok layout =>
  obtain ⟨-, rfl⟩ : (layout.trailer.get? "Encrypt").isSome ∧ shut = .ofRaw layout (.ofLayout layout) :=
    Opening.eq_of_ofLayout_eq_locked (by simpa [read, Except.map] using found)
  -- The dictionary is looked up for authentication, and so it is there and referred to.
  obtain ⟨entries, -, -, known, -⟩ := authenticateBy_eq_ok_iff.mp accepted
  obtain ⟨again, encryption, filled, held, same⟩ := Locked.filled_of_encryption known
  have target : layout.trailer.get? "Encrypt" = some (.reference encryption) := by
    have trailer : again.trailer = layout.trailer := same.trailer
    rw [← trailer]
    exact encryptionId?_eq_some_iff.mp held
  have both := (Locked.ofRaw layout (.ofLayout layout)).filed.filledFrom_eq file
  rw [Locked.layout_readerOf read] at both
  obtain ⟨full, read', rfl⟩ : ∃ full, (Locked.ofRaw layout (.ofLayout layout)).filed.filledFrom file =
      .ok full ∧ full.toDocument = again := by
    change _ = (Locked.ofRaw layout (.ofLayout layout)).filled at both
    rw [filled] at both
    cases refilled : (Locked.ofRaw layout (.ofLayout layout)).filed.filledFrom file with
    | error reason => simp [refilled, Except.map] at both
    | ok full => exact ⟨full, rfl, by simpa [refilled, Except.map] using both⟩
  refine ⟨encryption, full, target, read', filled, ?_, ?_⟩
  · rw [loaded, Locked.unlock, accepted, filled]
    rfl
  · exact decrypt_failsOnly held (by rw [same.authenticateUser, accepted])

/-- Whether a file gives a locked document for which a password is accepted. -/
def Document.accepts (file : Bytes) (password : String) : Bool :=
  match Opening.ofBytes file with
  | .ok (.locked shut) => (shut.shell.authenticateUser password).isOk
  | _ => false

theorem Document.exists_of_accepts {file : Bytes} {password : String}
    (accepted : accepts file password) :
    ∃ shut, Opening.ofBytes file = .ok (.locked shut) ∧
      shut.shell.authenticateUser password = .ok () := by
  unfold accepts at accepted
  split at accepted
  · next shut found =>
    cases checked : shut.shell.authenticateUser password with
    | error reason => simp [checked, Except.isOk, Except.toBool] at accepted
    | ok _ => exact ⟨shut, found, checked⟩
  · cases accepted

/-- A password that is accepted, for a file of revision 5. -/
theorem Document.load_unconfirmedFile :
    ∃ shut, Opening.ofBytes unconfirmedFile = .ok (.locked shut) ∧
      shut.shell.authenticateUser "x" = .ok () ∧
      ∃ full, shut.filed.filledFrom unconfirmedFile = .ok full ∧
        load unconfirmedFile (some "x") = (full.decrypt "x").mapError .pdf := by
  obtain ⟨shut, found, accepted⟩ : ∃ shut, Opening.ofBytes unconfirmedFile = .ok (.locked shut) ∧
      shut.shell.authenticateUser "x" = .ok () := exists_of_accepts (by decide +kernel)
  obtain ⟨-, full, -, filled, -, loaded, -⟩ := load_of_accepted found accepted
  exact ⟨shut, found, accepted, full, filled, loaded⟩

end PdfText

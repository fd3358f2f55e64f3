import PdfText.Proofs.SavedFile
import PdfText.Proofs.Stored
import PdfText.Proofs.Unlocking
import PdfText.Proofs.Unpacking

/-!
# Two ways to decrypt a file

A file that the empty password opens is decrypted while it is read: its objects are cut out unread,
decrypted as far as that is possible, and the cross-reference table then adds what it finds in
object streams. The same file can be taken as a shell, read again with the objects as they are
encrypted, and decrypted like a file that is opened by a password.

Where no object is lost by cutting it out, both ways come to alike objects, but for those that they
treat differently on purpose: the encryption dictionary, which only one of them keeps, objects that
the table and the object streams do not place alike, and object streams with an empty list of
filters. If no reference leads there, both documents have the same pages, as far as the walk of the
page tree may go: each document bounds it by the number of its objects.

## Main definitions

* `Layout.Differs` — the ids under which the two ways may keep different objects
* `Document.reopened` — the document that the second way comes to

## Main results

* `Document.load_agrees_with_reread` — when both ways show the same pages
-/

namespace PdfText

/-! ## Both ways side by side -/

/-- The ids under which the two ways may keep different objects, given those that are decrypted while
the file is read. -/
inductive Layout.Differs (layout : Layout) (encryption : ObjectId) (objects : Objects) :
    ObjectId → Prop
  /-- The encryption dictionary is kept by one way and left out by the other. -/
  | lock : layout.Differs encryption objects encryption
  /-- Where no object stands, one way asks the table and the other all object streams. -/
  | packed {id : ObjectId} (absent : objects[id]? = none)
    (ne : Document.foundPacked? layout objects id ≠ Document.heldPacked? objects id) :
    layout.Differs encryption objects id
  /-- An object stream is kept with its filters undone by one way only, and an empty list of filters
  is undone by dropping the body. -/
  | unfiltered {id : ObjectId} {entries : Dict} {body : Bytes}
    (held : objects[id]? = some (.stream entries body)) (typed : entries.hasType "ObjStm")
    (none : Filter.names entries = .ok []) (some : body ≠ []) : layout.Differs encryption objects id

namespace Document

/-- The second way: the shell of a file with the objects read again and decrypted. -/
def reopened (layout : Layout) (password : String) : Except PdfError Document := do
  (← (Locked.ofRaw layout (.ofLayout layout)).filled).decrypt password

/-- The objects that the second way keeps, given those that it has decrypted. -/
def keep (encryption : ObjectId) (objects : Objects) : Objects :=
  ((packedObjects objects).foldl addMissing (objects.map fun _ object => unpacked object)).erase
    encryption

theorem getElem?_keep {encryption id : ObjectId} (ne : id ≠ encryption) (objects : Objects) :
    (keep encryption objects)[id]? =
      (objects[id]?.map unpacked).or (heldPacked? objects id) := by
  unfold keep heldPacked?
  rw [Std.TreeMap.getElem?_erase_of_ne ne, getElem?_foldl_addMissing, Std.TreeMap.getElem?_map]

/-- Object streams hold the same where only something else than a stream differs. -/
theorem heldPacked?_congr {objects others : Objects} {except : ObjectId}
    (same : ∀ id, id ≠ except → objects[id]? = others[id]?)
    (noStream : ∀ entries body, objects[except]? ≠ some (.stream entries body))
    (noStream' : ∀ entries body, others[except]? ≠ some (.stream entries body)) :
    heldPacked? objects = heldPacked? others := by
  have noPack {object : Object} (direct : ∀ entries body, object ≠ .stream entries body) :
      ((ObjectStream.ofObject? object).bind ObjectStream.members?) = none := by
    cases object with
    | stream entries body => exact absurd rfl (direct entries body)
    | _ => rfl
  have packs : packedObjects objects = packedObjects others := by
    refine Std.TreeMap.filterMap_values_congr same (fun object held => noPack ?_)
      (fun object held => noPack ?_)
    · rintro entries body rfl
      exact noStream entries body held
    · rintro entries body rfl
      exact noStream' entries body held
  funext id
  rw [heldPacked?, packs, heldPacked?]

/-! ## Agreement -/

section Agreement

variable {layout : Layout} {cryptor : Cryptor} {encryption : ObjectId} {shut : Objects}

/-- Objects that are encrypted, of which all but the encryption dictionary are those in use. -/
def HoldsStored (layout : Layout) (encryption : ObjectId) (objects : Objects) : Prop :=
  ∀ id, id ≠ encryption → objects[id]? = layout.stored? id

/-- The objects that both ways decrypt are the same, but for the encryption dictionary. -/
theorem getElem?_decryptRaw_eq (whole : layout.IsWhole)
    (stored : HoldsStored layout encryption shut) {decrypted : Objects}
    (done : cryptor.decryptObjects encryption shut = .ok decrypted) {id : ObjectId}
    (ne : id ≠ encryption) :
    (decryptRaw layout cryptor (.ofLayout layout))[id]? = decrypted[id]? := by
  rw [getElem?_decryptRaw_of_isWhole whole, Cryptor.getElem?_decryptObjects done, if_neg ne,
    stored id ne]

/-- The encryption dictionary has been decrypted by one way, and is a dictionary still. -/
theorem getElem?_decryptRaw_encryption {entries : Dict}
    (held : (shellOf layout).objects[encryption]? = some (.dictionary entries)) :
    ∃ spoilt : Dict, (decryptRaw layout cryptor (.ofLayout layout))[encryption]? =
      some (.dictionary spoilt) := by
  obtain ⟨bytes, indirect, cut, read, same⟩ := Locked.getElem?_raw_of_shell held
  rw [getElem?_decryptRaw, cut, Option.bind_some, read, Option.map_some, same]
  obtain ⟨entries⟩ := entries
  rw [Cryptor.decryptObject]
  split <;> exact ⟨_, rfl⟩

/-- What is decrypted while the file is read stands where the table says. -/
theorem exists_offsetOf?_eq (whole : layout.IsWhole) {id : ObjectId} {object : Object}
    (found : (decryptRaw layout cryptor (.ofLayout layout))[id]? = some object) :
    ∃ offset, layout.offsetOf? id = some offset := by
  rw [getElem?_decryptRaw_of_isWhole whole] at found
  obtain ⟨_, stands, -⟩ := Option.map_eq_some_iff.mp found
  obtain ⟨offset, place, -⟩ := Option.bind_eq_some_iff.mp stands
  exact ⟨offset, place⟩

/-- Where the object with an id stands at an offset, it is not looked for in object streams. -/
theorem getElem?_addPacked_of_offset {id : ObjectId} {offset : Nat}
    (place : layout.offsetOf? id = some offset) (objects : Objects) :
    (addPacked layout objects)[id]? = objects[id]? := by
  rw [getElem?_addPacked, foundPacked?, Layout.offsetOf?_eq_some_iff.mp place]
  split <;> rfl

/-- What one way keeps the other keeps too, packed or unpacked, where they do not differ. -/
theorem alike_getElem? {plain decrypted : Objects}
    (placed : ∀ id object, plain[id]? = some object → ∃ offset, layout.offsetOf? id = some offset)
    (same : ∀ id, id ≠ encryption → plain[id]? = decrypted[id]?)
    (noStream : ∀ entries body, plain[encryption]? ≠ some (.stream entries body))
    (noStream' : ∀ entries body, decrypted[encryption]? ≠ some (.stream entries body))
    {id : ObjectId} (agree : ¬ layout.Differs encryption plain id) :
    Option.Rel Object.Alike (addPacked layout plain)[id]? (keep encryption decrypted)[id]? := by
  have ne : id ≠ encryption := by
    rintro rfl
    exact agree .lock
  rw [getElem?_keep ne, ← same id ne, ← heldPacked?_congr same noStream noStream']
  cases found : plain[id]? with
  | some object =>
    obtain ⟨offset, place⟩ := placed id object found
    rw [getElem?_addPacked_of_offset place, found]
    refine .some (Object.alike_unpacked ?_)
    rintro entries body rfl typed none
    by_contra some
    exact agree (.unfiltered found typed none some)
  | none =>
    have packed : foundPacked? layout plain id = heldPacked? plain id := by
      by_contra ne
      exact agree (.packed found ne)
    rw [getElem?_addPacked, found, packed, Option.or_none, Option.map_none, Option.none_or]
    cases heldPacked? plain id with
    | none => exact .none
    | some object => exact .some (.same object)

/-- Without an encryption dictionary there is no key. -/
theorem encryption?_of_ofPassword {document : Document} {password : String}
    (made : Cryptor.ofPassword document password = .ok cryptor) :
    ∃ entries, document.encryption? = some entries := by
  cases known : document.encryption? with
  | none => simp [Cryptor.ofPassword, known] at made
  | some entries => exact ⟨entries, rfl⟩

/-- A file that the empty password opens has been decrypted while it was read. -/
theorem opened_cases {file : Bytes} {first : Document} (read : Layout.read file = .ok layout)
    (encrypted : (layout.trailer.get? "Encrypt").isSome) (opened : load file none = .ok first) :
    ∃ cryptor, (shellOf layout).authenticate "" = .ok () ∧
      Cryptor.ofPassword (shellOf layout) "" = .ok cryptor ∧
      first = { trailer := layout.trailer
                objects := addPacked layout (decryptRaw layout cryptor (.ofLayout layout)) } := by
  have opening : Opening.ofLayout layout = .opened first := by
    cases opening : Opening.ofLayout layout with
    | opened document =>
      simpa [load, Opening.ofBytes, read, Except.map, opening, Opening.document] using opened
    | locked shut => simp [load, Opening.ofBytes, read, Except.map, opening, Opening.document] at opened
  rw [Opening.ofLayout, if_pos encrypted] at opening
  simp only [Opening.ofEncrypted] at opening
  split at opening
  · cases opening
  next cryptor made =>
  obtain ⟨_, accepted, key⟩ := Except.bind_eq_ok_iff.mp made
  cases opening
  exact ⟨cryptor, accepted, key, rfl⟩

/-- The shell with the objects read again has the same lock, and holds the objects in use. -/
theorem filled_shellOf (named : layout.IsNamed) {entries : Dict}
    (target : layout.trailer.get? "Encrypt" = some (.reference encryption))
    (held : (shellOf layout).objects[encryption]? = some (.dictionary entries)) :
    ∃ full : Document, (Locked.ofRaw layout (.ofLayout layout)).filled = .ok full ∧
      full.trailer = layout.trailer ∧ full.SameLock (shellOf layout) ∧
      full.objects[encryption]? = some (.dictionary entries) ∧
      HoldsStored layout encryption full.objects := by
  have known : (shellOf layout).encryption? = some entries :=
    encryption?_eq_some_iff.mpr
      ⟨encryption, encryptionId?_eq_some_iff.mpr target, dictionaryAt_of_getElem? held⟩
  have kept : ((shellOf layout).objects.insertAll (Locked.reread layout encryption))[encryption]? =
      some (.dictionary entries) := by
    rw [← held]
    exact Std.TreeMap.getElem?_insertAll_of_absent fun item inside => Locked.ne_of_mem_reread inside
  refine ⟨_, Locked.filled_ofRaw target, rfl, ⟨rfl, ?_⟩, kept, fun id ne => ?_⟩
  · rw [known]
    exact encryption?_eq_some_iff.mpr
      ⟨encryption, encryptionId?_eq_some_iff.mpr target, dictionaryAt_of_getElem? kept⟩
  · -- The shell holds nothing but the encryption dictionary.
    rw [Locked.getElem?_insertAll_reread named ne]
    have absent : (Locked.ofRaw layout (.ofLayout layout)).shell.objects[id]? = none := by
      rw [Option.eq_none_iff_forall_ne_some]
      intro object found
      exact ne (Locked.eq_of_getElem?_shell target found)
    rw [absent, Option.or_none]

/-- Decrypting what was read again is decrypting each of its objects. -/
theorem reopened_eq_ok_iff {full : Document} {password : String} {second : Document}
    (filled : (Locked.ofRaw layout (.ofLayout layout)).filled = .ok full)
    (target : full.encryptionId? = some encryption) (accepted : full.authenticate password = .ok ())
    (key : Cryptor.ofPassword full password = .ok cryptor) :
    reopened layout password = .ok second ↔
      ∃ decrypted, cryptor.decryptObjects encryption full.objects = .ok decrypted ∧
        second = { trailer := full.trailer.erase "Encrypt", objects := keep encryption decrypted } := by
  rw [reopened, filled, Except.ok_bind, decrypt, decryptedObjects, target]
  simp only [accepted, key, Except.ok_bind]
  cases cryptor.decryptObjects encryption full.objects with
  | error reason => simp
  | ok decrypted => simp [keep, eq_comm]

/-- What is decrypted is what was read again. -/
theorem forall_toList_iff (whole : layout.IsWhole) (stored : HoldsStored layout encryption shut)
    (property : ObjectId × Object → Prop) :
    (∀ item ∈ shut.toList, item.1 ≠ encryption → property item) ↔
      ∀ item ∈ Locked.reread layout encryption, property item := by
  constructor
  · rintro all ⟨id, object⟩ inside
    obtain ⟨ne, found⟩ := (Locked.mem_reread whole.isNamed).mp inside
    refine all _ (Std.TreeMap.mem_toList_iff_getElem?_eq_some.mpr ?_) ne
    rw [stored id ne, found]
  · rintro all ⟨id, object⟩ inside ne
    refine all _ ((Locked.mem_reread whole.isNamed).mpr ⟨ne, ?_⟩)
    rw [← stored id ne]
    exact Std.TreeMap.mem_toList_iff_getElem?_eq_some.mp inside

end Agreement

/-- A file that the empty password opens is decrypted while it is read, but it can be taken for a
locked one as well: its shell is filled with the objects read again, and these are decrypted. Where
no object of the file is lost by cutting it out, the second way gives a document if every object can
be decrypted, and only then. If no reference leads to an id that the two ways treat differently, both
documents have the same pages with the same texts or errors, provided that the walk of the page tree
finds the same with either number of objects for its bound, and only then. -/
theorem load_agrees_with_reread {file : Bytes} {layout : Layout} {first : Document}
    (read : Layout.read file = .ok layout) (encrypted : (layout.trailer.get? "Encrypt").isSome)
    (opened : load file none = .ok first) (whole : layout.IsWhole) :
    ∃ encryption cryptor, layout.trailer.get? "Encrypt" = some (.reference encryption) ∧
      Cryptor.ofPassword (shellOf layout) "" = .ok cryptor ∧
      ((∃ second, reopened layout "" = .ok second) ↔
        ∀ item ∈ Locked.reread layout encryption,
          (cryptor.decryptObject item.1 item.2).2 = none) ∧
      ∀ second, reopened layout "" = .ok second →
        (∀ id, layout.Differs encryption (decryptRaw layout cryptor (.ofLayout layout)) id →
          ¬ second.Reaches id) →
        ((first.pageCount = second.pageCount ∧
          ∀ index, first.pageText index = second.pageText index) ↔
            second.WalksWhole first.objects.size) := by
  obtain ⟨cryptor, accepted, key, rfl⟩ := opened_cases read encrypted opened
  obtain ⟨entries, known⟩ := encryption?_of_ofPassword key
  obtain ⟨encryption, target, held⟩ := Locked.getElem?_of_encryption known
  obtain ⟨full, filled, trailer, lock, kept, stored⟩ := filled_shellOf whole.isNamed target held
  have target' : full.encryptionId? = some encryption := by
    rw [encryptionId?_eq_some_iff, trailer, target]
  have reopens (second : Document) : reopened layout "" = .ok second ↔
      ∃ decrypted, cryptor.decryptObjects encryption full.objects = .ok decrypted ∧
        second = { trailer := full.trailer.erase "Encrypt", objects := keep encryption decrypted } :=
    reopened_eq_ok_iff filled target' (by rw [lock.authenticate, accepted])
      (by rw [lock.cryptor, key])
  refine ⟨encryption, cryptor, target, key, ?_, fun second again omitted => ?_⟩
  · rw [← forall_toList_iff whole stored fun item => (cryptor.decryptObject item.1 item.2).2 = none]
    constructor
    · rintro ⟨second, again⟩
      obtain ⟨decrypted, done, -⟩ := (reopens second).mp again
      exact (Cryptor.decryptObjects_eq_ok_iff.mp done).1
    · intro all
      exact ⟨_, (reopens _).mpr ⟨_, Cryptor.decryptObjects_eq_ok_iff.mpr ⟨all, rfl⟩, rfl⟩⟩
  · obtain ⟨decrypted, done, rfl⟩ := (reopens second).mp again
    obtain ⟨spoilt, spoils⟩ : ∃ spoilt : Dict,
        (decryptRaw layout cryptor (.ofLayout layout))[encryption]? = some (.dictionary spoilt) :=
      getElem?_decryptRaw_encryption held
    have kept' : decrypted[encryption]? = some (.dictionary entries) := by
      rw [Cryptor.getElem?_decryptObjects done, if_pos rfl, kept]
    have root : (layout.trailer.get? "Root").bind Object.reference? =
        ((full.trailer.erase "Encrypt").get? "Root").bind Object.reference? := by
      rw [trailer, Dictionary.get?_erase, if_neg (by decide)]
    have mirrors : Mirrors
        { trailer := layout.trailer
          objects := addPacked layout (decryptRaw layout cryptor (.ofLayout layout)) }
        { trailer := full.trailer.erase "Encrypt", objects := keep encryption decrypted } :=
      { root
        alike := fun id reached =>
          alike_getElem? (fun _ _ => exists_offsetOf?_eq whole)
            (fun _ => getElem?_decryptRaw_eq whole stored done) (by simp [spoils]) (by simp [kept'])
            fun differs => omitted id differs reached }
    rw [← mirrors.pageCount_eq_iff]
    exact ⟨And.left, fun same => ⟨same, mirrors.pageText (mirrors.pageCount_eq_iff.mp same)⟩⟩

/-! ## Files that the empty password opens -/

/-- The encryption dictionary of files that the empty password opens and whose streams are left as
they are. The crypt filter of strings has a name. -/
def emptyLock (more : List (Bytes × Object)) (strings : String) : Object :=
  .dictionary ⟨more ++ [(ascii "Filter", .name (ascii "Standard")), (ascii "V", .integer 5),
    (ascii "R", .integer 5),
    (ascii "O", .string ([47, 52, 175, 223, 95, 211, 220, 158, 204, 189, 45, 106, 252, 179, 1, 44, 72,
      86, 197, 223, 142, 174, 30, 52, 147, 199, 78, 55, 49, 44, 59, 163] ++ ascii "SALT0002saltsalt")),
    (ascii "OE", .string (List.replicate 32 0x2E)),
    (ascii "U", .string ([125, 231, 117, 32, 133, 56, 147, 128, 156, 136, 220, 159, 208, 68, 67, 58,
      231, 111, 208, 53, 144, 151, 111, 51, 220, 200, 212, 192, 156, 136, 22, 182] ++
      ascii "salt0001SALTSALT")),
    (ascii "UE", .string (List.replicate 32 0x2E)), (ascii "P", .integer 0),
    (ascii "Perms", .string (List.replicate 16 0x2E)),
    (ascii "CF", .dictionary ⟨[
      (ascii "I", .dictionary ⟨[(ascii "CFM", .name (ascii "Identity"))]⟩),
      (ascii "A", .dictionary ⟨[(ascii "CFM", .name (ascii "AESV2"))]⟩)]⟩),
    (ascii "StmF", .name (ascii "I")), (ascii "StrF", .name (ascii strings))]⟩

/-- A catalog whose page tree is the second object. -/
def shortCatalog : Object := .dictionary ⟨[(ascii "Pages", .reference ⟨2, 0⟩)]⟩

/-- The root of a page tree. -/
def shortTree (kids : List Object) : Object :=
  .dictionary ⟨[(ascii "Type", .name (ascii "Pages")), (ascii "Kids", .array kids)]⟩

/-- A page that shows the fourth object. Its font has an encoding, and the sixth object tells what
its codes mean. -/
def shortPage (encoding : String) : Object :=
  .dictionary ⟨[(ascii "Type", .name (ascii "Page")), (ascii "Contents", .reference ⟨4, 0⟩),
    (ascii "Resources", .dictionary ⟨[(ascii "Font", .dictionary ⟨[(ascii "F", .dictionary ⟨[
      (ascii "Type", .name (ascii "Font")), (ascii "Encoding", .name (ascii encoding)),
      (ascii "ToUnicode", .reference ⟨6, 0⟩)]⟩)]⟩)]⟩)]⟩

/-- A stream whose length is the last entry of its dictionary. -/
def shortStream (entries : List (Bytes × Object)) (body : Bytes) : Object :=
  .stream ⟨entries ++ [(ascii "Length", .integer body.length)]⟩ body

/-- The text of the codes of a font, by which no code has any. -/
def shortCMap : Bytes :=
  [ascii "/CIDInit/ProcSet findresource begin 1 dict begin begincmap ",
    ascii "/CMapName/A def 1 begincodespacerange\n<00><ff>\n",
    ascii "endcodespacerange endcmap CMapName currentdict ",
    ascii "/CMap defineresource pop end end"].flatten

/-- A file with one page, the third object, which shows the fourth. The fifth object is the
encryption dictionary, and the catalog is either the first object or another one. -/
def emptyLockFile (root : Nat) (kids : List Object) (encoding : String) (content lock : Object)
    (more : List Object) : Bytes :=
  SavedFile.save ([shortCatalog, shortTree kids, shortPage encoding, content, lock] ++ more)
    ⟨[(ascii "Root", .reference ⟨root, 0⟩), (ascii "Encrypt", .reference ⟨5, 0⟩)]⟩

/-- A file whose page is packed in the sixth object, and whose content stream has the seventh for
its length. The type of the sixth object and the header of the fourth are given. -/
def packedFile (type header : String) : Bytes :=
  [SavedFile.front, SavedFile.written 1 shortCatalog,
    SavedFile.written 2 (shortTree [.reference ⟨3, 0⟩]), ascii header,
    ascii "<</Length 7 0 R>>stream\nBT/F 9 Tf(Hi)Tj ET\nendstream\nendobj\n",
    SavedFile.written 5 (emptyLock [] "I"),
    SavedFile.written 6 (shortStream [(ascii "Type", .name (ascii type)), (ascii "N", .integer 1),
      (ascii "First", .integer 4)] (ascii "3 0 " ++ Object.spell (shortPage "WinAnsiEncoding"))),
    ascii "7 0 obj\n18\nendobj\n",
    SavedFile.written 8 (shortStream [(ascii "Type", .name (ascii "XRef")), (ascii "Size", .integer 9),
      (ascii "W", .array [.integer 1, .integer 2, .integer 1]), (ascii "Root", .reference ⟨1, 0⟩),
      (ascii "Encrypt", .reference ⟨5, 0⟩)]
      [0, 0, 0, 0, 1, 0, 15, 0, 1, 0, 47, 0, 2, 0, 6, 0, 1, 0, 90, 0, 1, 0, 158, 0, 1, 1, 208, 0,
        1, 2, 137, 0, 1, 2, 155, 0]),
    SavedFile.ending 667].flatten

/-- A file like that after an update. The page is packed together with an older copy of the seventh
object, which is in use elsewhere, and with a ninth object, which has been given up. The generation
of the sixth object is given. -/
def updatedFile (generation : UInt8) : Bytes :=
  [SavedFile.front, SavedFile.written 1 shortCatalog,
    SavedFile.written 2 (shortTree [.reference ⟨3, 0⟩]),
    ascii "4 0 obj\n<</Length 7 0 R>>stream\nBT/F 9 Tf(Hi)Tj ET\nendstream\nendobj\n",
    SavedFile.written 5 (emptyLock [] "I"),
    Indirect.spell ⟨6, generation.toNat⟩ (shortStream
      [(ascii "Type", .name (ascii "ObjStm")), (ascii "N", .integer 3), (ascii "First", .integer 12)]
      (ascii "7 0 9 3 3 8 17 null " ++ Object.spell (shortPage "WinAnsiEncoding"))) ++ [0x0A],
    ascii "7 0 obj\n18\nendobj\n",
    SavedFile.written 8 (shortStream [(ascii "Type", .name (ascii "XRef")), (ascii "Size", .integer 9),
      (ascii "W", .array [.integer 1, .integer 2, .integer 1]), (ascii "Root", .reference ⟨1, 0⟩),
      (ascii "Encrypt", .reference ⟨5, 0⟩)]
      [0, 0, 0, 0, 1, 0, 15, 0, 1, 0, 47, 0, 2, 0, 6, 0, 1, 0, 90, 0, 1, 0, 158, 0,
        1, 1, 208, generation, 1, 2, 154, 0, 1, 2, 172, 0]),
    SavedFile.ending 684].flatten

instance (document : Document) (budget : Nat) : Decidable (document.WalksWhole budget) :=
  decidable_of_iff (∀ root ∈ document.pageTreeRoot?,
      PageTree.walk document budget (PageTree.kids document root) [] =
        PageTree.walk document document.objects.size (PageTree.kids document root) [])
    Iff.rfl

/-- The ids under which the two ways can differ at all. -/
def suspects (layout : Layout) (encryption : ObjectId) (objects : Objects) : List ObjectId :=
  encryption :: objects.keys ++ (entriesById layout).map Prod.fst ++
    (packedObjects objects).flatMap Std.TreeMap.keys

/-- Whether the two ways may keep different objects under an id. -/
def differsAt (layout : Layout) (encryption : ObjectId) (objects : Objects) (id : ObjectId) : Bool :=
  id == encryption ||
    match objects[id]? with
    | none => foundPacked? layout objects id != heldPacked? objects id
    | some (.stream entries body) =>
      entries.hasType "ObjStm" && decide (Filter.names entries = .ok []) && !body.isEmpty
    | some _ => false

/-- Whether an id is neither the catalog nor referred to by any object. -/
def omits (document : Document) (id : ObjectId) : Bool :=
  (document.trailer.get? "Root").bind Object.reference? != some id &&
    document.objects.toList.all fun item => !item.2.mentions id

/-- Whether no reference leads to an id under which the two ways may keep different objects. -/
def omitsDifferences (layout : Layout) (encryption : ObjectId) (objects : Objects)
    (document : Document) : Bool :=
  (suspects layout encryption objects).all fun id =>
    !differsAt layout encryption objects id || document.omits id

section Checks

variable {layout : Layout} {encryption id : ObjectId} {objects : Objects}

theorem mem_suspects (differs : layout.Differs encryption objects id) :
    id ∈ suspects layout encryption objects := by
  unfold suspects
  rw [List.mem_append, List.mem_append, List.mem_cons]
  cases differs with
  | lock => exact .inl (.inl (.inl rfl))
  | unfiltered held =>
    refine .inl (.inl (.inr (Std.TreeMap.mem_keys.mpr ?_)))
    rw [← Std.TreeMap.isSome_getElem?_iff_mem, held]
    rfl
  | packed absent ne =>
    cases found : foundPacked? layout objects id with
    | some object =>
      obtain ⟨entry, named, -⟩ := Option.bind_eq_some_iff.mp found
      exact .inl (.inr (List.mem_map.mpr ⟨_, mem_entriesById.mpr named, rfl⟩))
    | none =>
      cases held : heldPacked? objects id with
      | none => rw [found, held] at ne; exact absurd rfl ne
      | some object =>
        obtain ⟨members, inside, held⟩ := List.exists_of_findSome?_eq_some held
        refine .inr (List.mem_flatMap.mpr ⟨members, inside, Std.TreeMap.mem_keys.mpr ?_⟩)
        rw [← Std.TreeMap.isSome_getElem?_iff_mem, held]
        rfl

theorem differsAt_of_differs (differs : layout.Differs encryption objects id) :
    differsAt layout encryption objects id := by
  unfold differsAt
  cases differs with
  | lock => simp
  | packed absent ne => simp [absent, ne]
  | unfiltered held typed none some => simp [held, typed, none, some]

theorem not_reaches_of_omits {document : Document} (omitted : document.omits id) :
    ¬ document.Reaches id := by
  simp only [omits, Bool.and_eq_true, bne_iff_ne, List.all_eq_true, Bool.not_eq_true'] at omitted
  refine not_reaches omitted.1 fun other object held mentioned => ?_
  have free := omitted.2 _ (Std.TreeMap.mem_toList_iff_getElem?_eq_some.mpr held)
  rw [Object.mentions_iff.mpr mentioned] at free
  cases free

/-- It is found out id by id. -/
theorem not_reaches_of_omitsDifferences {document : Document}
    (omitted : omitsDifferences layout encryption objects document)
    (differs : layout.Differs encryption objects id) : ¬ document.Reaches id := by
  have free := List.all_eq_true.mp omitted id (mem_suspects differs)
  rw [differsAt_of_differs differs, Bool.not_true, Bool.false_or] at free
  exact not_reaches_of_omits free

end Checks

/-- Whether all is as the agreement of both ways asks, for a file of one page. -/
def isAgreeable (file : Bytes) : Bool :=
  match Layout.read file, load file none with
  | .ok layout, .ok first =>
    match Cryptor.ofPassword (shellOf layout) "", reopened layout "",
      (layout.trailer.get? "Encrypt").bind Object.reference? with
    | .ok cryptor, .ok second, some encryption =>
      decide layout.IsWhole &&
        omitsDifferences layout encryption (decryptRaw layout cryptor (.ofLayout layout)) second &&
        decide (second.WalksWhole first.objects.size) && first.pageCount == 1
    | _, _, _ => false
  | _, _ => false

/-- A file with a packed page, an indirect length and packed objects out of use is read the same in
both ways. -/
theorem load_updatedFile_agrees_with_reread :
    ∃ layout first second, Layout.read (updatedFile 0) = .ok layout ∧
      load (updatedFile 0) none = .ok first ∧ layout.IsWhole ∧
      reopened layout "" = .ok second ∧ first.pageCount = 1 ∧ second.pageCount = 1 ∧
      ∀ index, first.pageText index = second.pageText index := by
  have agreeable : isAgreeable (updatedFile 0) := by decide +kernel
  unfold isAgreeable at agreeable
  split at agreeable
  next layout first read opened =>
    split at agreeable
    next cryptor second encryption key again target =>
      simp only [Bool.and_eq_true, decide_eq_true_eq, beq_iff_eq] at agreeable
      obtain ⟨⟨⟨whole, omitted⟩, ended⟩, one⟩ := agreeable
      have encrypted : (layout.trailer.get? "Encrypt").isSome := by
        obtain ⟨object, found, -⟩ := Option.bind_eq_some_iff.mp target
        rw [found]
        rfl
      obtain ⟨encryption', cryptor', target', key', -, agree⟩ :=
        load_agrees_with_reread read encrypted opened whole
      obtain rfl : cryptor = cryptor' := by simpa [key] using key'
      obtain rfl : encryption' = encryption := by simpa [target', Object.reference?] using target
      obtain ⟨count, texts⟩ :=
        (agree second again fun id => not_reaches_of_omitsDifferences omitted).mpr ended
      exact ⟨layout, first, second, read, opened, whole, again, one, count ▸ one, texts⟩
    · cases agreeable
  · cases agreeable

/-- A file with a layout of a given kind that the empty password opens, and that is not read the same
in both ways. -/
def Disagrees (kind : Layout → Prop) (file : Bytes) : Prop :=
  ∃ layout first, Layout.read file = .ok layout ∧ (layout.trailer.get? "Encrypt").isSome ∧
    load file none = .ok first ∧ kind layout ∧
    ∀ second, reopened layout "" = .ok second →
      ¬ (first.pageCount = second.pageCount ∧
        ∀ index, first.pageText index = second.pageText index)

/-- Whether two documents differ in the number of pages, or in the text of one. -/
def differ (first second : Document) : Bool :=
  first.pageCount != second.pageCount ||
    (List.range first.pageCount).any fun index =>
      (first.pageText index).toOption != (second.pageText index).toOption

/-- Whether a file is of that kind. -/
def disagrees (kind : Layout → Prop) [DecidablePred kind] (file : Bytes) : Bool :=
  match Layout.read file, load file none with
  | .ok layout, .ok first =>
    (layout.trailer.get? "Encrypt").isSome && decide (kind layout) &&
      match reopened layout "" with
      | .ok second => differ first second
      | .error _ => true
  | _, _ => false

theorem Disagrees.of_disagrees {kind : Layout → Prop} [DecidablePred kind] {file : Bytes}
    (found : disagrees kind file) : Disagrees kind file := by
  unfold disagrees at found
  split at found
  next layout first read opened =>
    simp only [Bool.and_eq_true, decide_eq_true_eq] at found
    obtain ⟨⟨encrypted, sound⟩, different⟩ := found
    refine ⟨layout, first, read, encrypted, opened, sound, ?_⟩
    rintro second again ⟨count, texts⟩
    rw [again] at different
    simp [differ, count, texts] at different
  · cases found

/-- Even where no object is lost by cutting it out, both ways disagree where an object cannot be
decrypted, where an object stream holds an object that the table does not know, where the table finds
an object in a stream of another type or the object stream has a generation, where an object stream
has a list of no filters, where the encryption dictionary is taken for a page or for the catalog, and
where a page is repeated more often than there are objects. -/
theorem load_disagrees_with_reread :
    Disagrees Layout.IsWhole (emptyLockFile 1 [.reference ⟨3, 0⟩, .string [0]] "WinAnsiEncoding"
      (shortStream [] []) (emptyLock [] "A") []) ∧
    Disagrees Layout.IsWhole (emptyLockFile 1 [.reference ⟨3, 0⟩, .reference ⟨9, 0⟩]
      "WinAnsiEncoding" (shortStream [] []) (emptyLock [] "I")
      [shortStream [(ascii "Type", .name (ascii "ObjStm")), (ascii "N", .integer 1),
        (ascii "First", .integer 4)] (ascii "9 0 <</Type/Page>>")]) ∧
    Disagrees Layout.IsWhole (packedFile "Object" "4 0 obj\n") ∧
    Disagrees Layout.IsWhole (updatedFile 1) ∧
    Disagrees Layout.IsWhole (emptyLockFile 1 [.reference ⟨3, 0⟩] "Identity-H"
      (shortStream [] (ascii "BT/F 9 Tf(Hi)Tj ET")) (emptyLock [] "I")
      [shortStream [(ascii "Type", .name (ascii "ObjStm")), (ascii "Filter", .array [])] shortCMap]) ∧
    Disagrees Layout.IsWhole (emptyLockFile 1 [.reference ⟨3, 0⟩, .reference ⟨5, 0⟩]
      "WinAnsiEncoding" (shortStream [] []) (emptyLock [(ascii "Type", .name (ascii "Page"))] "I")
      []) ∧
    Disagrees Layout.IsWhole (emptyLockFile 5 [.reference ⟨3, 0⟩] "WinAnsiEncoding"
      (shortStream [] []) (emptyLock [(ascii "Pages", .reference ⟨2, 0⟩)] "I") []) ∧
    Disagrees Layout.IsWhole (emptyLockFile 1 (List.replicate 5 (.reference ⟨3, 0⟩))
      "WinAnsiEncoding" (shortStream [] []) (emptyLock [] "I") []) := by
  refine ⟨.of_disagrees ?_, .of_disagrees ?_, .of_disagrees ?_, .of_disagrees ?_, .of_disagrees ?_,
    .of_disagrees ?_, .of_disagrees ?_, .of_disagrees ?_⟩ <;> decide +kernel

/-- A file in which every object in use stands where the table says, under a header with its id. -/
def IsHeaded (layout : Layout) : Prop :=
  ∀ entry ∈ layout.normalEntries,
    (Indirect.header (layout.bytesFrom entry.2)).map Prod.fst = some entry.1

instance : DecidablePred IsHeaded := fun layout =>
  inferInstanceAs (Decidable (∀ entry ∈ layout.normalEntries, _))

/-- Cutting objects out loses those that hold the word `endobj`, or have a comment in their header,
which reading again does not. -/
theorem load_loses_objects_cut_out :
    Disagrees IsHeaded (emptyLockFile 1 [.reference ⟨3, 0⟩] "WinAnsiEncoding"
      (shortStream [] (ascii "BT/F 9 Tf(endobj)Tj ET")) (emptyLock [] "I") []) ∧
    Disagrees IsHeaded (packedFile "ObjStm" "4 0%\nobj") := by
  refine ⟨.of_disagrees ?_, .of_disagrees ?_⟩ <;> decide +kernel

end Document

end PdfText

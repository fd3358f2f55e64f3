import PdfText.Proofs.SavedFile
import PdfText.Proofs.Stored
import PdfText.Proofs.Unpacking

/-!
# What is found in a saved file

A file in which objects are saved gives them back: to the reader of files that are not encrypted,
which takes them one after the other and finds no object streams among them, and to the reader that
reads them again as they are encrypted. The reader of files that were cut up finds an object as a
whole if the word `endobj` does not stand in its spelling. Of a stream in whose body the word stands
it finds the dictionary.

## Main definitions

* `savedAt` — the object that is saved under an id

## Main results

* `Layout.Stores.stored?_eq` — the objects that are read again
* `Layout.Stores.getElem?_ofLayout` — the objects of a file that is not encrypted
* `Layout.Stores.getElem?_decryptRaw` — the objects of a file that was cut up, decrypted
-/

namespace PdfText

/-- The object that is saved under an id, where objects are numbered from 1. -/
def savedAt (objects : List Object) : ObjectId → Option Object
  | ⟨index + 1, 0⟩ => objects[index]?
  | _ => none

namespace Layout

variable {layout : Layout} {objects : List Object}

/-! ## The places of objects -/

namespace Stores

theorem number_lt (stores : layout.Stores objects) {index : Nat} {object : Object}
    (held : objects[index]? = some object) : index + 1 < sizeOfBits 32 := by
  have few := stores.few
  have inside := (List.getElem?_eq_some_iff.mp held).1
  omega

/-- Objects that are saved have not been used before. -/
theorem generation_lt {number : Nat} : (⟨number, 0⟩ : ObjectId).generation < sizeOfBits 16 :=
  Nat.two_pow_pos 16

/-- An id either has no place and no object, or both. -/
theorem place_cases (stores : layout.Stores objects) (id : ObjectId) :
    (layout.offsetOf? id = none ∧ savedAt objects id = none) ∨
      ∃ index object offset rest, id = ⟨index + 1, 0⟩ ∧ objects[index]? = some object ∧
        layout.offsetOf? id = some offset ∧
        layout.bytesFrom offset = Indirect.spell id object ++ rest := by
  obtain ⟨number, generation⟩ := id
  cases place : layout.offsetOf? ⟨number, generation⟩ with
  | some offset =>
    right
    have entry := offsetOf?_eq_some_iff.mp place
    obtain ⟨index, rfl, inside⟩ := stores.only number _ entry
    obtain ⟨offset', rest, entry', written⟩ :=
      stores.place index objects[index] (List.getElem?_eq_getElem inside)
    obtain ⟨rfl, rfl⟩ : offset' = offset ∧ 0 = generation := by simpa [entry'] using entry
    exact ⟨index, objects[index], offset', rest, rfl, List.getElem?_eq_getElem inside, rfl, written⟩
  | none =>
    refine .inl ⟨rfl, ?_⟩
    rw [Option.eq_none_iff_forall_ne_some]
    intro object saved
    -- Objects are saved under numbers from 1 on and in generation 0, so no other id holds any.
    match number, generation, saved with
    | index + 1, 0, saved =>
      obtain ⟨offset, rest, entry, -⟩ := stores.place index object saved
      rw [offsetOf?_eq_some_iff.mpr entry] at place
      cases place

/-- The place of an object that is saved. -/
theorem exists_place (stores : layout.Stores objects) {index : Nat} {object : Object}
    (held : objects[index]? = some object) :
    ∃ offset rest, layout.offsetOf? ⟨index + 1, 0⟩ = some offset ∧
      layout.bytesFrom offset = Indirect.spell ⟨index + 1, 0⟩ object ++ rest := by
  obtain ⟨offset, rest, entry, written⟩ := stores.place index object held
  exact ⟨offset, rest, offsetOf?_eq_some_iff.mpr entry, written⟩

end Stores

/-! ## Objects read from their places -/

section Read

variable {offset : Nat} {id : ObjectId} {object : Object} {rest : Bytes}

theorem indirectAt?_of_spell (written : layout.bytesFrom offset = Indirect.spell id object ++ rest)
    (storable : object.IsStorable) (number : id.number < sizeOfBits 32)
    (generation : id.generation < sizeOfBits 16) :
    layout.indirectAt? offset = some { id, object } := by
  rw [indirectAt?, written]
  exact Indirect.read?_spell storable number generation rest

/-- An object is found as a whole unless the word `endobj` stands in its spelling. -/
theorem cutAt?_of_spell (written : layout.bytesFrom offset = Indirect.spell id object ++ rest)
    (storable : object.IsStorable) (number : id.number < sizeOfBits 32)
    (generation : id.generation < sizeOfBits 16)
    (whole : ¬ RawObjects.ending <:+: object.spell) : layout.cutAt? offset = some object := by
  have read : Indirect.read? layout.lengthOf (Indirect.spell id object ++ []) = some { id, object } :=
    Indirect.read?_spell storable number generation []
  rw [List.append_nil] at read
  rw [cutAt?, written, RawObjects.cut_spell number generation whole, Option.bind_some, read]
  rfl

/-- Of a stream in whose body the word stands, its dictionary is found. -/
theorem cutAt?_of_stream {entries : Dict} {body : Bytes}
    (written : layout.bytesFrom offset = Indirect.spell id (.stream entries body) ++ rest)
    (storable : (Object.stream entries body).IsStorable) (number : id.number < sizeOfBits 32)
    (generation : id.generation < sizeOfBits 16)
    (plain : ¬ RawObjects.ending <:+: Object.spell (.dictionary entries) ++ ascii "stream")
    (held : RawObjects.ending <:+: body) : layout.cutAt? offset = some (.dictionary entries) := by
  -- The file is cut at the first word in the body, so some bytes of the body are left.
  obtain ⟨count, cut⟩ := RawObjects.cut_of_inside number generation plain held rest
  cases storable with
  | stream readable length =>
    obtain ⟨b, others, spelled, solid, -⟩ := readable.spell_eq_cons
    have read : Indirect.body? layout.lengthOf id (Object.spell (.dictionary entries) ++
        (ascii "stream\n" ++ body.take count)) = some { id, object := .dictionary entries } :=
      Indirect.body?_cut readable length id count
    rw [spelled, List.cons_append] at read
    rw [cutAt?, written, cut, Option.bind_some, Indirect.read?, spelled, List.cons_append,
      Indirect.header_spellId number generation solid]
    simp only [Option.bind_eq_bind, Option.bind_some, read, Option.map_some]

/-- An object bears its own id where it is written. -/
theorem bears_of_spell (written : layout.bytesFrom offset = Indirect.spell id object ++ rest)
    (storable : object.IsStorable) (number : id.number < sizeOfBits 32)
    (generation : id.generation < sizeOfBits 16) : layout.Bears id offset := by
  constructor
  · obtain ⟨b, others, spelled, solid⟩ := storable.spell_eq_cons
    rw [written, Indirect.spell, List.append_assoc, List.append_assoc, spelled, List.cons_append,
      Indirect.header_spellId number generation solid]
    rfl
  · have named : RawObjects.header.value? (Indirect.spell id object ++ rest) = some id := by
      rw [Indirect.spell, List.append_assoc, List.append_assoc]
      exact RawObjects.header_spellId number generation _
    rw [written, RawObjects.cut, named]
    rfl

end Read

/-! ## All objects of a file -/

namespace Stores

variable {cryptor : Cryptor} {id : ObjectId}

/-- Reading again finds what is saved. -/
theorem stored?_eq (stores : layout.Stores objects)
    (storable : ∀ object ∈ objects, object.IsStorable) (id : ObjectId) :
    layout.stored? id = savedAt objects id := by
  rw [stored?]
  rcases stores.place_cases id with ⟨place, saved⟩ | ⟨index, object, offset, rest, rfl, held, place,
    written⟩
  · rw [place, saved, Option.bind_none]
  · rw [place, Option.bind_some, indirectAt?_of_spell written
      (storable object (List.mem_of_getElem? held)) (stores.number_lt held) generation_lt, savedAt, held]
    rfl

theorem isNamed (stores : layout.Stores objects)
    (storable : ∀ object ∈ objects, object.IsStorable) : layout.IsNamed := by
  intro id offset inside
  have place := mem_normalEntries.mp inside
  rcases stores.place_cases id with ⟨none, -⟩ | ⟨index, object, offset', rest, rfl, held, place',
    written⟩
  · rw [none] at place
    cases place
  · obtain rfl : offset' = offset := by simpa [place'] using place
    exact bears_of_spell written (storable object (List.mem_of_getElem? held))
      (stores.number_lt held) generation_lt

/-- The objects of a file that was cut up, decrypted. -/
theorem getElem?_decryptRaw (stores : layout.Stores objects)
    (storable : ∀ object ∈ objects, object.IsStorable) {index : Nat} {object : Object}
    (held : objects[index]? = some object) {found : Option Object}
    (cut : ∀ offset rest, layout.bytesFrom offset = Indirect.spell ⟨index + 1, 0⟩ object ++ rest →
      layout.cutAt? offset = found) :
    (Document.decryptRaw layout cryptor (.ofLayout layout))[(⟨index + 1, 0⟩ : ObjectId)]? =
      found.map fun object => (cryptor.decryptObject ⟨index + 1, 0⟩ object).1 := by
  obtain ⟨offset, rest, place, written⟩ := stores.exists_place held
  rw [Document.getElem?_decryptRaw_ofLayout (stores.isNamed storable), place, Option.bind_some,
    cut offset rest written]

/-- No object is looked for in an object stream. -/
theorem getElem?_addPacked (stores : layout.Stores objects) (found : Objects) (id : ObjectId) :
    (Document.addPacked layout found)[id]? = found[id]? := by
  rw [Document.getElem?_addPacked, Document.foundPacked?]
  cases entry : if id.generation = 0 then layout.entries[id.number]? else none with
  | none => rfl
  | some entry' =>
    split at entry
    · obtain ⟨index, numbered, inside⟩ := stores.only _ _ entry
      obtain ⟨offset, rest, entry'', -⟩ :=
        stores.place index objects[index] (List.getElem?_eq_getElem inside)
      rw [numbered, entry''] at entry
      cases entry
      rfl
    · cases entry

end Stores

end Layout

/-! ## Files that are not encrypted -/

/-- Objects that are kept as they are read: they are no object streams, and no streams without a
body, which may still be waiting for theirs. -/
structure Object.IsPlain (object : Object) : Prop where
  noPack : ObjectStream.ofObject? object = none
  hasBody : ∀ entries, object ≠ .stream entries []

namespace Document

variable {layout : Layout}

theorem Harvest.add_of_isPlain {harvest : Harvest} {found : Indirect}
    (plain : found.object.IsPlain) : harvest.add found = harvest.keep found found.object := by
  rw [Harvest.add, plain.noPack]
  dsimp only
  split
  · next entries empty => exact absurd empty (plain.hasBody entries)
  · rfl

/-- Where all objects are plain, they are put in one after the other, and nothing else happens. -/
theorem foldl_harvest (entries : List (ObjectId × Nat)) {harvest : Harvest}
    (unpacked : harvest.packed = []) (filled : harvest.hollow = [])
    (reads : ∀ entry ∈ entries, ∃ object, layout.indirectAt? entry.2 = some { id := entry.1, object } ∧
      object.IsPlain) :
    let result := entries.foldl (fun harvest entry =>
      match layout.indirectAt? entry.2 with
      | some found => harvest.add found
      | none => harvest) harvest
    result.packed = [] ∧ result.hollow = [] ∧
      result.objects = harvest.objects.insertAll (entries.filterMap fun entry =>
        ((layout.indirectAt? entry.2).map Indirect.object).map (Prod.mk entry.1)) := by
  -- By induction on the entries. Nothing to be unpacked or filled is ever met, so the objects are
  -- all there is to a harvest.
  induction entries generalizing harvest with
  | nil => exact ⟨unpacked, filled, rfl⟩
  | cons entry entries ih =>
    obtain ⟨⟨object, read, plain⟩, others⟩ := List.forall_mem_cons.mp reads
    have added : harvest.add { id := entry.1, object } = harvest.keep { id := entry.1, object } object :=
      Harvest.add_of_isPlain plain
    have later := @ih (harvest.keep { id := entry.1, object } object) unpacked filled others
    simp only [List.foldl_cons, read, added]
    refine ⟨later.1, later.2.1, ?_⟩
    rw [later.2.2]
    simp [Harvest.keep, Std.TreeMap.insertAll, read]

end Document

/-- The reader of files that are not encrypted finds what is saved. -/
theorem Layout.Stores.getElem?_ofLayout {layout : Layout} {objects : List Object}
    (stores : layout.Stores objects) (storable : ∀ object ∈ objects, object.IsStorable)
    (plain : ∀ object ∈ objects, object.IsPlain) (id : ObjectId) :
    (Document.ofLayout layout).objects[id]? = savedAt objects id := by
  have reads : ∀ entry ∈ layout.normalEntries, ∃ object,
      layout.indirectAt? entry.2 = some { id := entry.1, object } ∧ object.IsPlain := by
    rintro ⟨id, offset⟩ inside
    have place := mem_normalEntries.mp inside
    rcases stores.place_cases id with ⟨none, -⟩ | ⟨index, object, offset', rest, rfl, held, place',
      written⟩
    · rw [none] at place
      cases place
    · obtain rfl : offset' = offset := by simpa [place'] using place
      have member := List.mem_of_getElem? held
      exact ⟨object, indirectAt?_of_spell written (storable object member) (stores.number_lt held)
        generation_lt, plain object member⟩
  obtain ⟨unpacked, filled, listed⟩ := Document.foldl_harvest layout.normalEntries
    (show ({} : Document.Harvest).packed = [] from rfl) rfl reads
  rw [← stores.stored?_eq storable, Document.ofLayout]
  generalize layout.normalEntries.foldl _ ({} : Document.Harvest) = harvest
    at unpacked filled listed ⊢
  -- With nothing to unpack and nothing to fill, only the objects in use are left.
  rw [unpacked, filled]
  simp only [List.reverse_nil, List.foldl_nil, listed]
  rw [Std.TreeMap.getElem?_insertAll_filterMap nodup_normalEntries (fun _ _ => mem_normalEntries)
    fun _ offset => (layout.indirectAt? offset).map Indirect.object]
  simp [stored?]

end PdfText

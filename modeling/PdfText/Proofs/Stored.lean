import Mathlib.Data.List.Nodup
import PdfText.Proofs.Maps
import PdfText.Proofs.Objects
import PdfText.Proofs.Outcome
import PdfText.Security.Opening

/-!
# Objects where the table says

The cross-reference table of a file says where its objects stand. They are taken from there in two
ways. A file that the empty password may open is cut up first: each object ends at the first word
`endobj` from its place on, and what was cut out is read and decrypted as far as that is possible.
A file that a password opens is read again from each place, to the end of each object and no
further, and the first object that cannot be decrypted is an error.

Where objects bear the ids of their entries, both ways come down to what is found at one place.

## Main definitions

* `Layout.offsetOf?`, `Layout.stored?` — where the object with an id stands, and the object
* `Layout.cutAt?` — the object at an offset when the file is cut off at the first `endobj`
* `Layout.IsNamed` — a file whose objects in use bear the ids of their entries
* `Layout.IsWhole` — a file in which no object ends before its end

## Main results

* `Document.getElem?_decryptRaw_ofLayout` — what is decrypted of a file that was cut up
* `Locked.getElem?_insertAll_reread` — what is found by reading again
* `Cryptor.decryptObjects_eq_ok_iff`, `Cryptor.getElem?_decryptObjects` — what is decrypted of that
-/

namespace PdfText

/-! ## Objects in use -/

namespace Layout

variable {layout : Layout}

/-- Where the object with an id stands. -/
def offsetOf? (layout : Layout) (id : ObjectId) : Option Nat :=
  match layout.entries[id.number]? with
  | some (.normal offset generation) => if generation = id.generation then some offset else none
  | _ => none

theorem offsetOf?_eq_some_iff {id : ObjectId} {offset : Nat} :
    layout.offsetOf? id = some offset ↔
      layout.entries[id.number]? = some (.normal offset id.generation) := by
  unfold offsetOf?
  split
  · next offset' generation found =>
    rw [found]
    by_cases same : generation = id.generation <;> simp [same]
  · next other =>
    constructor
    · simp
    · intro found
      exact absurd found (other _ _)

theorem mem_normalEntries {id : ObjectId} {offset : Nat} :
    (id, offset) ∈ layout.normalEntries ↔ layout.offsetOf? id = some offset := by
  rw [offsetOf?_eq_some_iff, ← Std.TreeMap.mem_toList_iff_getElem?_eq_some]
  unfold normalEntries
  rw [List.mem_filterMap]
  constructor
  · rintro ⟨⟨number, entry⟩, inside, found⟩
    cases entry with
    | normal offset generation =>
      cases found
      exact inside
    | compressed => simp at found
  · intro inside
    exact ⟨_, inside, rfl⟩

/-- Leaving out entries leaves the numbers in order. -/
theorem map_number_normalEntries : (layout.normalEntries.map fun entry => entry.1.number).Sublist
    (layout.entries.toList.map Prod.fst) := by
  unfold normalEntries
  induction layout.entries.toList with
  | nil => exact .slnil
  | cons entry entries ih =>
    obtain ⟨number, entry⟩ := entry
    cases entry with
    | normal => exact ih.cons_cons number
    | compressed => exact ih.cons number

/-- The objects in use have distinct numbers, and so distinct ids. -/
theorem nodup_normalEntries : (layout.normalEntries.map Prod.fst).Nodup := by
  refine List.Nodup.of_map ObjectId.number ?_
  rw [List.map_map]
  exact Std.TreeMap.nodup_map_fst_toList.sublist map_number_normalEntries

/-- The object in use with an id, as it is encrypted. -/
def stored? (layout : Layout) (id : ObjectId) : Option Object :=
  (layout.offsetOf? id).bind fun offset => (layout.indirectAt? offset).map Indirect.object

/-- The object at an offset, as it is read when the file is cut off after the first word `endobj`
from there on. -/
def cutAt? (layout : Layout) (offset : Nat) : Option Object :=
  (RawObjects.cut (layout.bytesFrom offset)).bind fun found =>
    (Indirect.read? layout.lengthOf found.2).map Indirect.object

/-- An object that stands where the cross-reference table says, and bears the id of its entry. -/
structure Bears (layout : Layout) (id : ObjectId) (offset : Nat) : Prop where
  header : (Indirect.header (layout.bytesFrom offset)).map Prod.fst = some id
  rawHeader : (RawObjects.cut (layout.bytesFrom offset)).map Prod.fst = some id

/-- An object of that kind that is the same when the file is cut off after it. -/
structure HoldsWhole (layout : Layout) (id : ObjectId) (offset : Nat) : Prop
    extends layout.Bears id offset where
  cut : layout.cutAt? offset = (layout.indirectAt? offset).map Indirect.object

/-- A file whose objects in use bear the ids of their entries. -/
def IsNamed (layout : Layout) : Prop :=
  ∀ id offset, (id, offset) ∈ layout.normalEntries → layout.Bears id offset

/-- A file whose objects in use are all the same when the file is cut off after them. -/
def IsWhole (layout : Layout) : Prop :=
  ∀ id offset, (id, offset) ∈ layout.normalEntries → layout.HoldsWhole id offset

theorem IsWhole.isNamed (whole : layout.IsWhole) : layout.IsNamed :=
  fun id offset inside => (whole id offset inside).toBears

instance (id : ObjectId) (offset : Nat) : Decidable (layout.Bears id offset) :=
  decidable_of_iff (_ ∧ _) ⟨fun both => ⟨both.1, both.2⟩, fun bears => ⟨bears.1, bears.2⟩⟩

instance (id : ObjectId) (offset : Nat) : Decidable (layout.HoldsWhole id offset) :=
  decidable_of_iff (layout.Bears id offset ∧ _)
    ⟨fun both => ⟨both.1, both.2⟩, fun whole => ⟨whole.toBears, whole.cut⟩⟩

instance : Decidable layout.IsNamed :=
  decidable_of_iff (∀ entry ∈ layout.normalEntries, layout.Bears entry.1 entry.2)
    ⟨fun all id offset => all (id, offset), fun all entry => all entry.1 entry.2⟩

instance : Decidable layout.IsWhole :=
  decidable_of_iff (∀ entry ∈ layout.normalEntries, layout.HoldsWhole entry.1 entry.2)
    ⟨fun all id offset => all (id, offset), fun all entry => all entry.1 entry.2⟩

end Layout

theorem Indirect.id_of_body? {lengthOf : ObjectId → Option Int} {id : ObjectId} {bytes : Bytes}
    {found : Indirect} (read : body? lengthOf id bytes = some found) : found.id = id := by
  unfold body? at read
  dsimp only at read
  split at read
  · obtain ⟨object, -, rfl⟩ := Option.map_eq_some_iff.mp read
    rfl
  split at read
  · cases read
    rfl
  split at read
  · cases read
    rfl
  · split at read <;> cases read <;> rfl
  · cases read

/-- An object that is read bears the id of its header. -/
theorem Layout.Bears.id_eq {layout : Layout} {id : ObjectId} {offset : Nat} {found : Indirect}
    (bears : layout.Bears id offset) (read : layout.indirectAt? offset = some found) :
    found.id = id := by
  obtain ⟨⟨id', rest⟩, headed, body⟩ := Option.bind_eq_some_iff.mp read
  have same : id' = id := by simpa [headed] using bears.header
  rw [← same]
  exact Indirect.id_of_body? body

/-! ## Decrypting while reading -/

namespace RawObjects

theorem ofLayout_eq (layout : Layout) :
    ofLayout layout = Std.TreeMap.insertAll ∅
      (layout.normalEntries.filterMap fun entry => cut (layout.bytesFrom entry.2)) := by
  unfold ofLayout Std.TreeMap.insertAll
  rw [List.foldl_filterMap]
  congr 1
  funext raw entry
  dsimp only
  cases cut (layout.bytesFrom entry.2) <;> rfl

/-- An object that bears the id of its entry is cut out under that id. -/
theorem getElem?_ofLayout {layout : Layout} (named : layout.IsNamed) (id : ObjectId) :
    (ofLayout layout)[id]? =
      (layout.offsetOf? id).bind fun offset => (cut (layout.bytesFrom offset)).map Prod.snd := by
  have listed : (layout.normalEntries.filterMap fun entry => cut (layout.bytesFrom entry.2)) =
      layout.normalEntries.filterMap fun entry =>
        ((cut (layout.bytesFrom entry.2)).map Prod.snd).map (Prod.mk entry.1) := by
    refine List.filterMap_congr ?_
    rintro ⟨id, offset⟩ inside
    obtain ⟨⟨id', bytes⟩, found, rfl⟩ := Option.map_eq_some_iff.mp (named id offset inside).rawHeader
    simp [found]
  rw [ofLayout_eq, listed]
  rw [Std.TreeMap.getElem?_insertAll_filterMap Layout.nodup_normalEntries
    (fun _ _ => Layout.mem_normalEntries)
    fun _ offset => (cut (layout.bytesFrom offset)).map Prod.snd]
  simp

end RawObjects

namespace Document

variable {layout : Layout} {cryptor : Cryptor} {raw : RawObjects}

theorem getElem?_decryptRaw (id : ObjectId) :
    (decryptRaw layout cryptor raw)[id]? = raw[id]?.bind fun bytes =>
      (Indirect.read? layout.lengthOf bytes).map fun found =>
        (cryptor.decryptObject id found.object).1 := by
  have listed : decryptRaw layout cryptor raw = Std.TreeMap.insertAll ∅
      (raw.toList.filterMap fun entry => ((Indirect.read? layout.lengthOf entry.2).map fun found =>
        (cryptor.decryptObject entry.1 found.object).1).map (Prod.mk entry.1)) := by
    unfold decryptRaw Std.TreeMap.insertAll
    rw [Std.TreeMap.foldl_eq_foldl_toList, List.foldl_filterMap]
    congr 1
    funext objects entry
    cases Indirect.read? layout.lengthOf entry.2 <;> rfl
  rw [listed, Std.TreeMap.getElem?_insertAll_filterMap_toList raw fun id bytes =>
    (Indirect.read? layout.lengthOf bytes).map fun found => (cryptor.decryptObject id found.object).1]
  simp

/-- Decrypting what was cut out gives what is read there, decrypted. -/
theorem getElem?_decryptRaw_ofLayout (named : layout.IsNamed) (id : ObjectId) :
    (decryptRaw layout cryptor (.ofLayout layout))[id]? =
      ((layout.offsetOf? id).bind layout.cutAt?).map fun object =>
        (cryptor.decryptObject id object).1 := by
  rw [getElem?_decryptRaw, RawObjects.getElem?_ofLayout named]
  cases place : layout.offsetOf? id with
  | none => rfl
  | some offset =>
    rw [Option.bind_some, Option.bind_some, Layout.cutAt?]
    cases RawObjects.cut (layout.bytesFrom offset) with
    | none => rfl
    | some found => simp [Function.comp_def]

/-- Where every object is whole, decrypting what was cut out gives what stands there, decrypted. -/
theorem getElem?_decryptRaw_of_isWhole (whole : layout.IsWhole) (id : ObjectId) :
    (decryptRaw layout cryptor (.ofLayout layout))[id]? =
      (layout.stored? id).map fun object => (cryptor.decryptObject id object).1 := by
  rw [getElem?_decryptRaw_ofLayout whole.isNamed, Layout.stored?]
  cases place : layout.offsetOf? id with
  | none => rfl
  | some offset =>
    rw [Option.bind_some, Option.bind_some, (whole id offset (Layout.mem_normalEntries.mpr place)).cut]

end Document

/-! ## Decrypting what was read again -/

namespace Locked

variable {layout : Layout}

/-- Reading again finds the objects in use, but for the one left out. -/
theorem getElem?_insertAll_reread (named : layout.IsNamed) {except id : ObjectId} (ne : id ≠ except)
    (objects : Objects) :
    (objects.insertAll (reread layout except))[id]? = (layout.stored? id).or objects[id]? := by
  have listed : reread layout except = layout.normalEntries.filterMap fun entry =>
      (if entry.1 = except then none else (layout.indirectAt? entry.2).map Indirect.object).map
        (Prod.mk entry.1) := by
    refine List.filterMap_congr ?_
    rintro ⟨id, offset⟩ inside
    dsimp only
    split
    · rfl
    · cases found : layout.indirectAt? offset with
      | none => rfl
      | some found' =>
        have same := (named id offset inside).id_eq found
        simp [same]
  rw [listed, Std.TreeMap.getElem?_insertAll_filterMap Layout.nodup_normalEntries
    (fun _ _ => Layout.mem_normalEntries) fun id offset =>
      if id = except then none else (layout.indirectAt? offset).map Indirect.object]
  simp [ne, Layout.stored?]

theorem mem_reread (named : layout.IsNamed) {except id : ObjectId} {object : Object} :
    (id, object) ∈ reread layout except ↔ id ≠ except ∧ layout.stored? id = some object := by
  rw [reread, List.mem_filterMap]
  constructor
  · rintro ⟨⟨other, offset⟩, inside, read⟩
    dsimp only at read
    split at read
    · cases read
    next ne =>
    obtain ⟨indirect, found, read⟩ := Option.bind_eq_some_iff.mp read
    rw [if_pos ((named other offset inside).id_eq found)] at read
    cases read
    refine ⟨ne, ?_⟩
    rw [Layout.stored?, Layout.mem_normalEntries.mp inside, Option.bind_some, found]
    rfl
  · rintro ⟨ne, stored⟩
    obtain ⟨offset, place, found⟩ := Option.bind_eq_some_iff.mp stored
    obtain ⟨indirect, read, rfl⟩ := Option.map_eq_some_iff.mp found
    have inside := Layout.mem_normalEntries.mpr place
    refine ⟨(id, offset), inside, ?_⟩
    simp [ne, read, (named id offset inside).id_eq read]

end Locked

namespace Cryptor

variable {cryptor : Cryptor} {except : ObjectId}

/-- What is encrypted among some objects, decrypted. -/
def decryptions (cryptor : Cryptor) (except : ObjectId) (items : List (ObjectId × Object)) :
    List (ObjectId × Object) :=
  items.filterMap fun item =>
    (if item.1 = except then none else some (cryptor.decryptObject item.1 item.2).1).map
      (Prod.mk item.1)

/-- Decrypting objects succeeds where each of them can be decrypted, and puts all of them in. -/
theorem decryptObjects_eq_ok_iff {objects result : Objects} :
    cryptor.decryptObjects except objects = .ok result ↔
      (∀ item ∈ objects.toList, item.1 ≠ except →
        (cryptor.decryptObject item.1 item.2).2 = none) ∧
      result = objects.insertAll (cryptor.decryptions except objects.toList) := by
  unfold decryptObjects
  generalize objects.toList = items
  -- By induction on the objects, for all that have been put in so far.
  induction items generalizing objects with
  | nil => simp [decryptions, Std.TreeMap.insertAll, eq_comm]
  | cons item items ih =>
    obtain ⟨id, object⟩ := item
    rw [List.foldlM_cons, Except.bind_eq_ok_iff]
    by_cases skipped : id = except
    · simp [skipped, ih, decryptions, Std.TreeMap.insertAll]
    · rcases made : cryptor.decryptObject id object with ⟨plain, _ | error⟩
      · simp [skipped, ih, made, decryptions, Std.TreeMap.insertAll]
      · simp [skipped, made]

/-- What decrypting leaves at an id. -/
theorem getElem?_decryptObjects {objects result : Objects}
    (decrypted : cryptor.decryptObjects except objects = .ok result) (id : ObjectId) :
    result[id]? =
      if id = except then objects[id]?
      else objects[id]?.map fun object => (cryptor.decryptObject id object).1 := by
  obtain ⟨-, rfl⟩ := decryptObjects_eq_ok_iff.mp decrypted
  rw [decryptions, Std.TreeMap.getElem?_insertAll_filterMap_toList objects fun id object =>
    if id = except then none else some (cryptor.decryptObject id object).1]
  by_cases skipped : id = except
  · simp [skipped]
  · cases held : objects[id]? <;> simp [skipped]

end Cryptor

end PdfText

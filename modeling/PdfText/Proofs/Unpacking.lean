import Mathlib.Data.List.Nodup
import PdfText.Proofs.Maps
import PdfText.Proofs.Mirroring
import PdfText.Security.Opening

/-!
# Unpacking object streams

Objects can be packed into streams. One reader follows the cross-reference table, which names a
stream for each object that is packed, and a number that is looked up among the objects of that
stream. Another unpacks all streams of the type `ObjStm` and takes what they hold, and it keeps these
streams with their filters undone.

## Main definitions

* `Document.foundPacked?` — the object that the cross-reference table finds in an object stream
* `Document.heldPacked?` — the object that the object streams hold, asked one after the other

## Main results

* `Document.getElem?_addPacked` — what the table finds counts before what stands at an offset
* `Document.getElem?_foldl_addMissing` — what object streams hold counts after it
* `Object.alike_unpacked` — a stream that is kept unpacked reads the same
-/

namespace PdfText

/-! ## Object streams -/

namespace Document

/-- The objects of both, where those already there count. -/
theorem getElem?_addMissing (objects more : Objects) (id : ObjectId) :
    (addMissing objects more)[id]? = objects[id]?.or more[id]? :=
  Std.TreeMap.getElem?_foldl_insertIfNew objects more id

/-- What object streams hold counts only where nothing is there before. -/
theorem getElem?_foldl_addMissing (packs : List Objects) (objects : Objects) (id : ObjectId) :
    (packs.foldl addMissing objects)[id]? = objects[id]?.or (packs.findSome? fun pack => pack[id]?) := by
  -- By induction on the packs, for all objects that are there before.
  induction packs generalizing objects with
  | nil => simp
  | cons pack packs ih =>
    rw [List.foldl_cons, ih, getElem?_addMissing, List.findSome?_cons]
    cases objects[id]? <;> cases pack[id]? <;> rfl

/-- Unpacks the object stream that an entry names, unless it has been unpacked before. -/
def unpackEntry (objects : Objects) (unpacked : Std.TreeMap Nat Objects) :
    XrefEntry → Std.TreeMap Nat Objects
  | .compressed container _ =>
    if unpacked.contains container then unpacked
    else
      match unpackAt? objects container with
      | some members => unpacked.insert container members
      | none => unpacked
  | .normal .. => unpacked

section Unpack

variable {objects : Objects} {unpacked : Std.TreeMap Nat Objects}

/-- What has been unpacked is what the object streams hold. -/
def IsUnpacked (objects : Objects) (unpacked : Std.TreeMap Nat Objects) : Prop :=
  ∀ container members, unpacked[container]? = some members →
    unpackAt? objects container = some members

theorem IsUnpacked.unpackEntry (sound : IsUnpacked objects unpacked) (entry : XrefEntry) :
    IsUnpacked objects (unpackEntry objects unpacked entry) := by
  cases entry with
  | normal => exact sound
  | compressed container index =>
    simp only [Document.unpackEntry]
    split
    · exact sound
    split
    · next members found =>
      intro other held kept
      rw [Std.TreeMap.getElem?_insert_eq_ite] at kept
      split at kept
      · next same => rw [same, found, kept]
      · exact sound other held kept
    · exact sound

theorem getElem?_unpackEntry {container : Nat} {members : Objects}
    (held : unpacked[container]? = some members) (entry : XrefEntry) :
    (unpackEntry objects unpacked entry)[container]? = some members := by
  cases entry with
  | normal => exact held
  | compressed other index =>
    simp only [unpackEntry]
    split
    · exact held
    next unseen =>
    split
    · have ne : container ≠ other := by
        rintro rfl
        simp [Std.TreeMap.contains_eq_isSome_getElem?, held] at unseen
      rw [Std.TreeMap.getElem?_insert_of_ne ne, held]
    · exact held

theorem getElem?_unpackEntry_self (sound : IsUnpacked objects unpacked) {container index : Nat}
    {members : Objects} (found : unpackAt? objects container = some members) :
    (unpackEntry objects unpacked (.compressed container index))[container]? = some members := by
  simp only [unpackEntry]
  split
  · next seen =>
    rw [Std.TreeMap.contains_eq_isSome_getElem?] at seen
    obtain ⟨held, kept⟩ := Option.isSome_iff_exists.mp seen
    rw [kept, ← found, sound container held kept]
  · rw [found]
    exact Std.TreeMap.getElem?_insert_self

/-- After all entries, the object streams are unpacked that are named and that can be. -/
theorem foldl_unpackEntry (sound : IsUnpacked objects unpacked) (entries : List (Nat × XrefEntry)) :
    let result := entries.foldl (fun unpacked entry => unpackEntry objects unpacked entry.2) unpacked
    IsUnpacked objects result ∧
      ∀ container members, unpackAt? objects container = some members →
        (unpacked[container]? = some members ∨
          ∃ number index, (number, .compressed container index) ∈ entries) →
        result[container]? = some members := by
  -- By induction on the entries: what has been unpacked is right, and is not unpacked again.
  induction entries generalizing unpacked with
  | nil => simpa using sound
  | cons entry entries ih =>
    obtain ⟨kept, held⟩ := ih (sound.unpackEntry entry.2)
    refine ⟨kept, fun container members found named => held container members found ?_⟩
    rcases named with before | ⟨number, index, inside⟩
    · exact .inl (getElem?_unpackEntry before entry.2)
    · rcases List.mem_cons.mp inside with rfl | inside
      · exact .inl (getElem?_unpackEntry_self sound found)
      · exact .inr ⟨number, index, inside⟩

end Unpack

/-- An object stream that the cross-reference table names is unpacked. -/
theorem getElem?_unpackNamed {layout : Layout} {number container index : Nat}
    (named : layout.entries[number]? = some (.compressed container index)) (objects : Objects) :
    (unpackNamed layout objects)[container]? = unpackAt? objects container := by
  have listed : unpackNamed layout objects = layout.entries.toList.foldl
      (fun unpacked entry => unpackEntry objects unpacked entry.2) ∅ := by
    unfold unpackNamed
    rw [Std.TreeMap.foldl_eq_foldl_toList]
    rfl
  have start : IsUnpacked objects ∅ := fun container members held => by simp at held
  obtain ⟨sound, complete⟩ := foldl_unpackEntry start layout.entries.toList
  rw [listed]
  cases found : unpackAt? objects container with
  | some members =>
    exact complete container members found
      (.inr ⟨number, index, Std.TreeMap.mem_toList_iff_getElem?_eq_some.mpr named⟩)
  | none =>
    rw [Option.eq_none_iff_forall_ne_some]
    intro members held
    rw [sound container members held] at found
    cases found

/-- The object that an entry of the cross-reference table finds in an object stream. -/
def packedAt? (objects : Objects) (id : ObjectId) : XrefEntry → Option Object
  | .compressed container _ => (unpackAt? objects container).bind (·[id]?)
  | .normal .. => none

/-- The entries of the table under the ids of the objects that they find, which are all of
generation 0. -/
def entriesById (layout : Layout) : List (ObjectId × XrefEntry) :=
  layout.entries.toList.map fun entry => (⟨entry.1, 0⟩, entry.2)

theorem nodup_entriesById (layout : Layout) : ((entriesById layout).map Prod.fst).Nodup := by
  refine List.Nodup.of_map ObjectId.number ?_
  simp only [entriesById, List.map_map]
  exact Std.TreeMap.nodup_map_fst_toList

theorem mem_entriesById {layout : Layout} {id : ObjectId} {entry : XrefEntry} :
    (id, entry) ∈ entriesById layout ↔
      (if id.generation = 0 then layout.entries[id.number]? else none) = some entry := by
  obtain ⟨number, generation⟩ := id
  simp only [entriesById, List.mem_map]
  constructor
  · rintro ⟨⟨other, held⟩, inside, same⟩
    cases same
    exact Std.TreeMap.mem_toList_iff_getElem?_eq_some.mp inside
  · intro held
    split at held
    · next zero =>
      obtain rfl : generation = 0 := zero
      exact ⟨(number, entry), Std.TreeMap.mem_toList_iff_getElem?_eq_some.mpr held, rfl⟩
    · cases held

theorem addPacked_eq (layout : Layout) (objects : Objects) :
    addPacked layout objects = objects.insertAll ((entriesById layout).filterMap fun item =>
      (packedAt? objects item.1 item.2).map (Prod.mk item.1)) := by
  unfold addPacked Std.TreeMap.insertAll
  rw [Std.TreeMap.foldl_eq_foldl_toList, entriesById, List.filterMap_map, List.foldl_filterMap]
  refine (List.foldl_eq_of_invariant (fun _ => True) ?_ trivial).1
  rintro all - ⟨number, entry⟩ inside
  refine ⟨?_, trivial⟩
  cases entry with
  | normal => rfl
  | compressed container index =>
    have named := Std.TreeMap.mem_toList_iff_getElem?_eq_some.mp inside
    simp only [getElem?_unpackNamed named, packedAt?, Function.comp_apply]
    cases (unpackAt? objects container).bind (·[(⟨number, 0⟩ : ObjectId)]?) <;> rfl

/-- The object that the cross-reference table finds in an object stream under an id, which has to be
of generation 0. -/
def foundPacked? (layout : Layout) (objects : Objects) (id : ObjectId) : Option Object :=
  (if id.generation = 0 then layout.entries[id.number]? else none).bind (packedAt? objects id)

/-- What the cross-reference table finds in object streams counts before what stands at an
offset. -/
theorem getElem?_addPacked (layout : Layout) (objects : Objects) (id : ObjectId) :
    (addPacked layout objects)[id]? = (foundPacked? layout objects id).or objects[id]? := by
  have known : ∀ id entry, (id, entry) ∈ entriesById layout ↔
      (fun id : ObjectId => if id.generation = 0 then layout.entries[id.number]? else none) id =
        some entry := fun _ _ => mem_entriesById
  rw [addPacked_eq]
  exact Std.TreeMap.getElem?_insertAll_filterMap (nodup_entriesById layout) known
    (packedAt? objects) objects id

/-- The object that object streams hold under an id, where the first of them that has one counts. -/
def heldPacked? (objects : Objects) (id : ObjectId) : Option Object :=
  (packedObjects objects).findSome? fun members => members[id]?

end Document

/-! ## Streams that are kept unpacked -/

theorem Filter.names_eq_error {entries : Dict} (none : entries.get? "Filter" = none) :
    names entries = .error (.missingKey "Filter") := by
  rw [names, none]

theorem Filter.decode_eq_error {entries : Dict} (none : entries.get? "Filter" = none)
    (body : Bytes) : decode entries body = .error (.missingKey "Filter") := by
  rw [decode, names_eq_error none]
  rfl

/-- A stream that is kept with its filters undone reads the same, unless it has a body and an empty
list of filters, which only some readers take for no data. -/
theorem Object.alike_unpacked {object : Object}
    (filtered : ∀ entries body, object = .stream entries body → entries.hasType "ObjStm" →
      Filter.names entries = .ok [] → body = []) : object.Alike (Document.unpacked object) := by
  cases object with
  | stream entries body =>
    cases typed : entries.hasType "ObjStm" with
    | false =>
      have kept : Document.unpacked (.stream entries body) = .stream entries body := by
        simp [Document.unpacked, ObjectStream.ofObject?, typed]
      rw [kept]
      exact .same _
    | true =>
      have kept : Document.unpacked (.stream entries body) =
          (ObjectStream.ofStream entries body).object := by
        simp [Document.unpacked, ObjectStream.ofObject?, typed]
      rw [kept, ObjectStream.ofStream]
      cases decoded : Filter.decode entries body with
      | error reason => exact .same _
      | ok data =>
        -- The filters are undone, so there are none to undo again.
        have none : (((entries.erase "DecodeParms").erase "Filter").set "Length"
            (.integer data.length)).get? "Filter" = none := by
          rw [Dictionary.get?_set, if_neg (by decide), Dictionary.get?_erase, if_pos rfl]
        refine .stream ?_ ?_
        · simp only [Page.shownData, decoded, Filter.decode_eq_error none]
        · simp only [Filter.plain, Filter.names_eq_error none]
          cases filters : Filter.names entries with
          | error reason => simp [Filter.decode, filters] at decoded
          | ok names =>
            cases names with
            | nil =>
              obtain rfl : data = [] := by simpa [Filter.decode, filters, eq_comm] using decoded
              rw [filtered entries body rfl typed filters]
            | cons => exact decoded
  | _ => exact .same _

end PdfText

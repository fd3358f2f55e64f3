import Mathlib.Data.List.Basic
import Std.Data.TreeMap

/-!
# Maps with comparable keys

What a map holds at a key after it has been changed at that key or at others, and after the entries
of a list or of another map have been put in one after the other. Two keys are the same here if they
are equal, so that no statement has to speak of their order.
-/

namespace List

/-- Two folds agree where their steps agree on all states that satisfy an invariant. -/
theorem foldl_eq_of_invariant {σ α : Type} {step other : σ → α → σ} (invariant : σ → Prop)
    {items : List α}
    (agree : ∀ state, invariant state → ∀ item ∈ items,
      step state item = other state item ∧ invariant (other state item))
    {start : σ} (holds : invariant start) :
    items.foldl step start = items.foldl other start ∧ invariant (items.foldl other start) := by
  induction items generalizing start with
  | nil => exact ⟨rfl, holds⟩
  | cons item items ih =>
    obtain ⟨same, kept⟩ := agree start holds item mem_cons_self
    rw [foldl_cons, foldl_cons, same]
    exact ih (fun state holds other inside => agree state holds other (mem_cons_of_mem _ inside))
      kept

end List

namespace Std.TreeMap

variable {κ β : Type} [Ord κ] [TransOrd κ] [LawfulEqOrd κ] [DecidableEq κ]
variable {map : TreeMap κ β} {key other : κ} {value : β}

theorem getElem?_insert_eq_ite :
    (map.insert key value)[other]? = if other = key then some value else map[other]? := by
  simp only [getElem?_insert, LawfulEqOrd.compare_eq_iff_eq, eq_comm (a := key)]

theorem getElem?_insertIfNew_eq_ite :
    (map.insertIfNew key value)[other]? =
      if other = key then some (map[key]?.getD value) else map[other]? := by
  have absent : key ∉ map ↔ map[key]? = none := by
    rw [← isSome_getElem?_iff_mem, Option.not_isSome_iff_eq_none]
  simp only [getElem?_insertIfNew, absent, LawfulEqOrd.compare_eq_iff_eq, eq_comm (a := key)]
  by_cases same : other = key
  · subst same
    cases map[other]? <;> simp
  · simp [same]

theorem getElem?_insert_of_ne (ne : other ≠ key) : (map.insert key value)[other]? = map[other]? := by
  rw [getElem?_insert_eq_ite, if_neg ne]

omit [DecidableEq κ] in
theorem getElem?_erase_of_ne (ne : other ≠ key) : (map.erase key)[other]? = map[other]? := by
  rw [getElem?_erase, if_neg]
  exact fun same => ne (compare_eq_iff_eq.mp same).symm

/-! ## How many keys there are -/

section Size

omit [DecidableEq κ]

/-- Distinct keys of a map are no more than it has. -/
theorem length_le_size {keys : List κ} (distinct : keys.Nodup) (held : ∀ key ∈ keys, key ∈ map) :
    keys.length ≤ map.size := by
  rw [← length_keys]
  exact distinct.length_le_of_subset fun key inside => mem_keys.mpr (held key inside)

end Size

/-! ## Entries of a list, one after the other -/

/-- A map with the entries of a list put in, of which the last one with a key counts. -/
def insertAll (map : TreeMap κ β) (entries : List (κ × β)) : TreeMap κ β :=
  entries.foldl (fun map entry => map.insert entry.1 entry.2) map

theorem getElem?_insertAll_of_absent {entries : List (κ × β)}
    (absent : ∀ entry ∈ entries, entry.1 ≠ key) : (map.insertAll entries)[key]? = map[key]? := by
  induction entries generalizing map with
  | nil => rfl
  | cons entry entries ih =>
    obtain ⟨first, rest⟩ := List.forall_mem_cons.mp absent
    exact (ih rest).trans (getElem?_insert_of_ne first.symm)

theorem getElem?_insertAll_of_mem {entries : List (κ × β)}
    (distinct : (entries.map Prod.fst).Nodup) (inside : (key, value) ∈ entries) :
    (map.insertAll entries)[key]? = some value := by
  induction entries generalizing map with
  | nil => cases inside
  | cons entry entries ih =>
    obtain ⟨first, rest⟩ := List.nodup_cons.mp distinct
    rcases List.mem_cons.mp inside with rfl | inside
    · have later : ∀ other ∈ entries, other.1 ≠ key := fun other listed same =>
        first (List.mem_map.mpr ⟨other, listed, same⟩)
      rw [insertAll, List.foldl_cons]
      exact (getElem?_insertAll_of_absent later).trans getElem?_insert_self
    · exact ih rest inside

variable {α : Type}

omit [Ord κ] [TransOrd κ] [LawfulEqOrd κ] [DecidableEq κ] in
/-- The keys that values are made for. -/
theorem map_fst_filterMap (items : List (κ × α)) (make : κ → α → Option β) :
    (items.filterMap fun item => (make item.1 item.2).map (Prod.mk item.1)).map Prod.fst =
      (items.filter fun item => (make item.1 item.2).isSome).map Prod.fst := by
  induction items with
  | nil => rfl
  | cons item items ih => cases made : make item.1 item.2 <;> simp [made, ih]

/-- What a list of distinct keys says of a key, made into values of a map. -/
theorem getElem?_insertAll_filterMap {items : List (κ × α)} {known? : κ → Option α}
    (distinct : (items.map Prod.fst).Nodup)
    (known : ∀ key item, (key, item) ∈ items ↔ known? key = some item) (make : κ → α → Option β)
    (map : TreeMap κ β) (key : κ) :
    (map.insertAll (items.filterMap fun item => (make item.1 item.2).map (Prod.mk item.1)))[key]? =
      ((known? key).bind (make key)).or map[key]? := by
  have kept : ((items.filterMap fun item => (make item.1 item.2).map (Prod.mk item.1)).map
      Prod.fst).Nodup := by
    rw [map_fst_filterMap]
    exact distinct.sublist (List.filter_sublist.map _)
  cases made : (known? key).bind (make key) with
  | some value =>
    obtain ⟨item, listed, value⟩ := Option.bind_eq_some_iff.mp made
    refine getElem?_insertAll_of_mem kept (List.mem_filterMap.mpr ⟨(key, item), ?_, ?_⟩)
    · exact (known key item).mpr listed
    · simp [value]
  | none =>
    refine getElem?_insertAll_of_absent fun entry inside same => ?_
    subst same
    obtain ⟨item, listed, found⟩ := List.mem_filterMap.mp inside
    obtain ⟨value, value', rfl⟩ := Option.map_eq_some_iff.mp found
    simp [(known item.1 item.2).mp listed, value'] at made

omit [LawfulEqOrd κ] [DecidableEq κ] in
/-- The keys of a map are distinct. -/
theorem nodup_map_fst_toList : (map.toList.map Prod.fst).Nodup := by
  rw [map_fst_toList_eq_keys]
  exact nodup_keys

omit [TransOrd κ] [LawfulEqOrd κ] [DecidableEq κ] in
/-- The values of a map are those of its entries. -/
theorem map_snd_toList_eq_values : map.toList.map Prod.snd = map.values := by
  unfold values DTreeMap.values toList DTreeMap.Const.toList
  rw [DTreeMap.Internal.Impl.values_eq_map_snd,
    DTreeMap.Internal.Impl.Const.toList_eq_toListModel_map, List.map_map]
  rfl

/-- Maps that differ at one key at most have the same values in the same order, but for those at
that key. -/
theorem filterMap_values_congr {first second : TreeMap κ β} {except : κ} {make : β → Option α}
    (same : ∀ key, key ≠ except → first[key]? = second[key]?)
    (skipped : ∀ value, first[except]? = some value → make value = none)
    (skipped' : ∀ value, second[except]? = some value → make value = none) :
    first.values.filterMap make = second.values.filterMap make := by
  have without (map : TreeMap κ β)
      (skipped : ∀ value, map[except]? = some value → make value = none) :
      map.values.filterMap make =
        (map.filter fun key _ => key != except).toList.filterMap fun entry => make entry.2 := by
    rw [← map_snd_toList_eq_values, List.filterMap_map, toList_filter, List.filterMap_filter]
    refine List.filterMap_congr ?_
    rintro ⟨key, value⟩ inside
    by_cases here : key = except
    · subst here
      simp [skipped value (mem_toList_iff_getElem?_eq_some.mp inside)]
    · simp [here]
  have alike : (first.filter fun key _ => key != except).Equiv
      (second.filter fun key _ => key != except) := by
    refine Equiv.of_forall_constGet?_eq fun key => ?_
    rw [getElem?_filter', getElem?_filter']
    by_cases here : key = except
    · simp [here]
    · rw [same key here]
  rw [without first skipped, without second skipped', alike.toList_eq]

/-- What a map holds at a key, made into values of another map. -/
theorem getElem?_insertAll_filterMap_toList (source : TreeMap κ α) (make : κ → α → Option β)
    (map : TreeMap κ β) (key : κ) :
    (map.insertAll (source.toList.filterMap fun item =>
      (make item.1 item.2).map (Prod.mk item.1)))[key]? =
      (source[key]?.bind (make key)).or map[key]? := by
  have known : ∀ key item, (key, item) ∈ source.toList ↔ (fun key => source[key]?) key = some item :=
    fun _ _ => mem_toList_iff_getElem?_eq_some
  exact getElem?_insertAll_filterMap nodup_map_fst_toList known make map key

/-! ## Entries that are put in where there is none -/

theorem getElem?_foldl_insertIfNew_of_absent {entries : List (κ × β)}
    (absent : ∀ entry ∈ entries, entry.1 ≠ key) :
    (entries.foldl (fun map entry => map.insertIfNew entry.1 entry.2) map)[key]? = map[key]? := by
  induction entries generalizing map with
  | nil => rfl
  | cons entry entries ih =>
    obtain ⟨first, rest⟩ := List.forall_mem_cons.mp absent
    rw [List.foldl_cons, ih rest, getElem?_insertIfNew_eq_ite, if_neg first.symm]

theorem getElem?_foldl_insertIfNew_of_mem {entries : List (κ × β)}
    (distinct : (entries.map Prod.fst).Nodup) (inside : (key, value) ∈ entries) :
    (entries.foldl (fun map entry => map.insertIfNew entry.1 entry.2) map)[key]? =
      map[key]?.or (some value) := by
  induction entries generalizing map with
  | nil => cases inside
  | cons entry entries ih =>
    obtain ⟨first, rest⟩ := List.nodup_cons.mp distinct
    rcases List.mem_cons.mp inside with rfl | inside
    · have later : ∀ other ∈ entries, other.1 ≠ key := fun other listed same =>
        first (List.mem_map.mpr ⟨other, listed, same⟩)
      rw [List.foldl_cons, getElem?_foldl_insertIfNew_of_absent later, getElem?_insertIfNew_eq_ite,
        if_pos rfl]
      cases map[key]? <;> rfl
    · have ne : key ≠ entry.1 := fun same =>
        first (List.mem_map.mpr ⟨(key, value), inside, same⟩)
      rw [List.foldl_cons, ih rest inside, getElem?_insertIfNew_eq_ite, if_neg ne]

/-- The entries of both maps, where those of the first count. -/
theorem getElem?_foldl_insertIfNew (map source : TreeMap κ β) (key : κ) :
    (source.foldl (fun map key value => map.insertIfNew key value) map)[key]? =
      map[key]?.or source[key]? := by
  rw [foldl_eq_foldl_toList]
  cases held : source[key]? with
  | some value =>
    exact getElem?_foldl_insertIfNew_of_mem nodup_map_fst_toList
      (mem_toList_iff_getElem?_eq_some.mpr held)
  | none =>
    rw [getElem?_foldl_insertIfNew_of_absent, Option.or_none]
    rintro ⟨other, value⟩ inside rfl
    simp [mem_toList_iff_getElem?_eq_some.mp inside] at held

end Std.TreeMap

import PdfText.Object

/-!
# Looking up what a dictionary holds

What a dictionary holds at a key after a value has been put at that key or at another, and after a
key has been left out. A key that is given as a word is the bytes of that word.
-/

namespace PdfText.Dictionary

variable {α : Type} {dictionary : Dictionary α} {key other : Bytes} {value : α}

theorem lookup_cons_eq_ite {held : Bytes} {rest : List (Bytes × α)} :
    ((held, value) :: rest).lookup key = if key = held then some value else rest.lookup key := by
  by_cases same : key = held
  · rw [if_pos same, same, List.lookup_cons_self]
  · rw [if_neg same, List.lookup_cons, beq_eq_false_iff_ne.mpr same]

theorem mem_of_find? (found : dictionary.find? key = some value) :
    (key, value) ∈ dictionary.entries := by
  obtain ⟨entries⟩ := dictionary
  unfold find? at found
  induction entries with
  | nil => cases found
  | cons entry rest ih =>
    obtain ⟨held, old⟩ := entry
    rw [lookup_cons_eq_ite] at found
    split at found
    · next same =>
      cases found
      rw [same]
      exact List.mem_cons_self
    · exact List.mem_cons_of_mem _ (ih found)

theorem lookup_putEntry (entries : List (Bytes × α)) :
    (putEntry key value entries).lookup other =
      if other = key then some value else entries.lookup other := by
  induction entries with
  | nil => exact lookup_cons_eq_ite
  | cons entry rest ih =>
    obtain ⟨held, old⟩ := entry
    unfold putEntry
    split
    · next found =>
      obtain rfl : held = key := beq_iff_eq.mp found
      rw [lookup_cons_eq_ite, lookup_cons_eq_ite]
      by_cases same : other = held <;> simp [same]
    · next different =>
      have ne : held ≠ key := by simpa using different
      rw [lookup_cons_eq_ite, lookup_cons_eq_ite, ih]
      by_cases same : other = held
      · simp [same, ne]
      · simp [same]

theorem find?_put : (dictionary.put key value).find? other =
    if other = key then some value else dictionary.find? other :=
  lookup_putEntry dictionary.entries

theorem get?_set (key other : String) : (dictionary.set key value).get? other =
    if ascii other = ascii key then some value else dictionary.get? other :=
  find?_put

theorem get?_set_self (key : String) : (dictionary.set key value).get? key = some value := by
  rw [get?_set, if_pos rfl]

theorem putEntry_eq_self {entries : List (Bytes × α)} (held : entries.lookup key = some value) :
    putEntry key value entries = entries := by
  induction entries with
  | nil => cases held
  | cons entry rest ih =>
    obtain ⟨other, old⟩ := entry
    rw [lookup_cons_eq_ite] at held
    by_cases found : other = key
    · rw [if_pos found.symm] at held
      cases held
      rw [putEntry, if_pos (by simpa using found)]
    · rw [if_neg (Ne.symm found)] at held
      rw [putEntry, if_neg (by simpa using found), ih held]

/-- Putting a value where it is already changes nothing. -/
theorem set_eq_self {key : String} (held : dictionary.get? key = some value) :
    dictionary.set key value = dictionary := by
  obtain ⟨entries⟩ := dictionary
  rw [set, put, putEntry_eq_self held]

theorem lookup_filter_ne (entries : List (Bytes × α)) :
    (entries.filter fun entry => entry.1 != key).lookup other =
      if other = key then none else entries.lookup other := by
  induction entries with
  | nil => simp
  | cons entry rest ih =>
    obtain ⟨held, old⟩ := entry
    rw [lookup_cons_eq_ite]
    by_cases left : held = key
    · rw [List.filter_cons_of_neg (by simp [left]), ih]
      by_cases same : other = key <;> simp [left, same]
    · rw [List.filter_cons_of_pos (by simp [left]), lookup_cons_eq_ite, ih]
      by_cases same : other = held
      · simp [same, left]
      · simp [same]

theorem get?_erase (key other : String) : (dictionary.erase key).get? other =
    if ascii other = ascii key then none else dictionary.get? other :=
  lookup_filter_ne dictionary.entries

/-! ## Entries with distinct keys -/

theorem putEntry_of_absent {entries : List (Bytes × α)} (absent : key ∉ entries.map Prod.fst) :
    putEntry key value entries = entries ++ [(key, value)] := by
  induction entries with
  | nil => rfl
  | cons entry rest ih =>
    obtain ⟨ne, later⟩ : entry.1 ≠ key ∧ key ∉ rest.map Prod.fst := by
      simpa [eq_comm] using absent
    rw [putEntry, if_neg (by simpa using ne), ih later]
    rfl

theorem foldl_put_of_nodup {held more : List (Bytes × α)}
    (distinct : ((held ++ more).map Prod.fst).Nodup) :
    more.foldl (fun dictionary entry => dictionary.put entry.1 entry.2) (⟨held⟩ : Dictionary α) =
      ⟨held ++ more⟩ := by
  -- By induction on the entries to come, for all that are held: each is put behind the others.
  induction more generalizing held with
  | nil => simp
  | cons entry more ih =>
    have absent : entry.1 ∉ held.map Prod.fst := by
      rw [List.map_append, List.map_cons] at distinct
      exact fun inside => (List.nodup_append.mp distinct).2.2 _ inside _ List.mem_cons_self rfl
    rw [List.foldl_cons, put, putEntry_of_absent absent, ih (by simpa using distinct)]
    simp

/-- Entries with distinct keys make a dictionary of just these entries. -/
theorem ofEntries_of_nodup {entries : List (Bytes × α)} (distinct : (entries.map Prod.fst).Nodup) :
    ofEntries entries = ⟨entries⟩ :=
  foldl_put_of_nodup (show (([] ++ entries).map Prod.fst).Nodup from distinct)

end PdfText.Dictionary

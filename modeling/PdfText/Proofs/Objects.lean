import PdfText.Object

/-!
# Objects compared

Objects hold lists and dictionaries of objects, so whether two of them are equal, and whether one
refers to an id, is found by going through both kinds of nesting.

## Main definitions

* `Object.isEqual` — whether two objects are equal
* `Object.Mentions` — objects in which a reference to an id is written
* `Object.mentions` — whether an object is of that kind

## Main results

* `Object.isEqual_iff`, `Object.mentions_iff` — both are found
-/

namespace PdfText

deriving instance DecidableEq for Dictionary

namespace Object

/-! ## Equality -/

mutual

/-- Whether two objects are equal. -/
def isEqual : Object → Object → Bool
  | null, null => true
  | boolean value, boolean other => value == other
  | integer value, integer other => value == other
  | real spelling, real other => spelling == other
  | name letters, name other => letters == other
  | string bytes, string other => bytes == other
  | array items, array others => isEqualItems items others
  | dictionary ⟨entries⟩, dictionary ⟨others⟩ => isEqualEntries entries others
  | stream ⟨entries⟩ body, stream ⟨others⟩ rest => isEqualEntries entries others && body == rest
  | reference target, reference other => target == other
  | _, _ => false

/-- Whether two lists of objects are equal. -/
def isEqualItems : List Object → List Object → Bool
  | [], [] => true
  | item :: items, other :: others => isEqual item other && isEqualItems items others
  | _, _ => false

/-- Whether two lists of entries are equal. -/
def isEqualEntries : List (Bytes × Object) → List (Bytes × Object) → Bool
  | [], [] => true
  | (key, value) :: entries, (other, held) :: others =>
    key == other && isEqual value held && isEqualEntries entries others
  | _, _ => false

end

mutual

theorem eq_of_isEqual {first second : Object} (same : isEqual first second) : first = second := by
  cases first <;> cases second <;> simp only [isEqual, Bool.false_eq_true, beq_iff_eq,
    Bool.and_eq_true] at same
  case array.array items others => rw [eq_of_isEqualItems same]
  case dictionary.dictionary entries others =>
    obtain ⟨entries⟩ := entries
    obtain ⟨others⟩ := others
    obtain rfl : entries = others := eq_of_isEqualEntries same
    rfl
  case stream.stream entries body others rest =>
    obtain ⟨entries⟩ := entries
    obtain ⟨others⟩ := others
    obtain rfl : entries = others := eq_of_isEqualEntries same.1
    rw [same.2]
  all_goals first | rfl | rw [same]

theorem eq_of_isEqualItems {items others : List Object} (same : isEqualItems items others) :
    items = others := by
  cases items <;> cases others <;> simp only [isEqualItems, Bool.false_eq_true,
    Bool.and_eq_true] at same
  · rfl
  · rw [eq_of_isEqual same.1, eq_of_isEqualItems same.2]

theorem eq_of_isEqualEntries {entries others : List (Bytes × Object)}
    (same : isEqualEntries entries others) : entries = others := by
  cases entries <;> cases others
  · rfl
  · simp [isEqualEntries] at same
  · simp [isEqualEntries] at same
  case cons.cons entry entries other others =>
    obtain ⟨key, value⟩ := entry
    obtain ⟨key', value'⟩ := other
    simp only [isEqualEntries, Bool.and_eq_true, beq_iff_eq] at same
    rw [same.1.1, eq_of_isEqual same.1.2, eq_of_isEqualEntries same.2]

end

mutual

theorem isEqual_self (object : Object) : isEqual object object := by
  cases object with
  | array items => simpa [isEqual] using isEqualItems_self items
  | dictionary entries => simpa [isEqual] using isEqualEntries_self entries.entries
  | stream entries body => simpa [isEqual] using isEqualEntries_self entries.entries
  | _ => simp [isEqual]

theorem isEqualItems_self (items : List Object) : isEqualItems items items := by
  cases items with
  | nil => rfl
  | cons item items => simp [isEqualItems, isEqual_self item, isEqualItems_self items]

theorem isEqualEntries_self (entries : List (Bytes × Object)) : isEqualEntries entries entries := by
  cases entries with
  | nil => rfl
  | cons entry entries =>
    obtain ⟨key, value⟩ := entry
    simp [isEqualEntries, isEqual_self value, isEqualEntries_self entries]

end

theorem isEqual_iff {first second : Object} : isEqual first second ↔ first = second := by
  constructor
  · exact eq_of_isEqual
  · rintro rfl
    exact isEqual_self first

instance : DecidableEq Object := fun _ _ => decidable_of_iff _ isEqual_iff

/-! ## References -/

/-- An object in which a reference to an id is written. The dictionary of a stream does not count,
since no page is found through it. -/
inductive Mentions (id : ObjectId) : Object → Prop
  | reference : Mentions id (.reference id)
  | array {items : List Object} {item : Object} (inside : item ∈ items) (mentioned : Mentions id item) :
    Mentions id (.array items)
  | dictionary {entries : Dict} {entry : Bytes × Object} (inside : entry ∈ entries.entries)
    (mentioned : Mentions id entry.2) : Mentions id (.dictionary entries)

mutual

/-- Whether a reference to an id is written in an object. -/
def mentions (id : ObjectId) : Object → Bool
  | reference target => target == id
  | array items => mentionsItems id items
  | dictionary ⟨entries⟩ => mentionsEntries id entries
  | _ => false

/-- Whether a reference to an id is written in a list of objects. -/
def mentionsItems (id : ObjectId) : List Object → Bool
  | [] => false
  | item :: items => mentions id item || mentionsItems id items

/-- Whether a reference to an id is written in the values of some entries. -/
def mentionsEntries (id : ObjectId) : List (Bytes × Object) → Bool
  | [] => false
  | (_, value) :: entries => mentions id value || mentionsEntries id entries

end

variable {id : ObjectId}

theorem mentionsItems_eq_any (items : List Object) :
    mentionsItems id items = items.any (mentions id) := by
  induction items with
  | nil => rfl
  | cons item items ih => rw [mentionsItems, ih, List.any_cons]

theorem mentionsEntries_eq_any (entries : List (Bytes × Object)) :
    mentionsEntries id entries = entries.any fun entry => mentions id entry.2 := by
  induction entries with
  | nil => rfl
  | cons entry entries ih => rw [mentionsEntries, ih, List.any_cons]

theorem mentions_of_mentions {object : Object} (mentioned : object.Mentions id) :
    mentions id object := by
  induction mentioned with
  | reference => simp [mentions]
  | array inside _ ih =>
    rw [mentions, mentionsItems_eq_any]
    exact List.any_eq_true.mpr ⟨_, inside, ih⟩
  | dictionary inside _ ih =>
    rw [mentions, mentionsEntries_eq_any]
    exact List.any_eq_true.mpr ⟨_, inside, ih⟩

mutual

theorem mentions_sound (object : Object) (mentioned : mentions id object) : object.Mentions id := by
  cases object with
  | reference target =>
    obtain rfl : target = id := by simpa [mentions] using mentioned
    exact .reference
  | array items =>
    obtain ⟨item, inside, found⟩ := mentionsItems_sound items mentioned
    exact .array inside found
  | dictionary entries =>
    obtain ⟨entry, inside, found⟩ := mentionsEntries_sound entries.entries mentioned
    exact .dictionary inside found
  | _ => cases mentioned

theorem mentionsItems_sound (items : List Object) (mentioned : mentionsItems id items) :
    ∃ item ∈ items, item.Mentions id := by
  cases items with
  | nil => cases mentioned
  | cons item items =>
    rw [mentionsItems, Bool.or_eq_true] at mentioned
    rcases mentioned with first | later
    · exact ⟨item, List.mem_cons_self, mentions_sound item first⟩
    · obtain ⟨found, inside, mentioned⟩ := mentionsItems_sound items later
      exact ⟨found, List.mem_cons_of_mem _ inside, mentioned⟩

theorem mentionsEntries_sound (entries : List (Bytes × Object))
    (mentioned : mentionsEntries id entries) : ∃ entry ∈ entries, entry.2.Mentions id := by
  cases entries with
  | nil => cases mentioned
  | cons entry entries =>
    obtain ⟨key, value⟩ := entry
    rw [mentionsEntries, Bool.or_eq_true] at mentioned
    rcases mentioned with first | later
    · exact ⟨(key, value), List.mem_cons_self, mentions_sound value first⟩
    · obtain ⟨found, inside, mentioned⟩ := mentionsEntries_sound entries later
      exact ⟨found, List.mem_cons_of_mem _ inside, mentioned⟩

end

theorem mentions_iff {object : Object} : mentions id object ↔ object.Mentions id :=
  ⟨mentions_sound object, mentions_of_mentions⟩

instance (object : Object) : Decidable (object.Mentions id) := decidable_of_iff _ mentions_iff

end Object

end PdfText

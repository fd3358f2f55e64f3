import Mathlib.Data.List.Infix
import PdfText.Bytes

/-!
# Where a word stands

The first and the last place of a word in bytes that are put together from parts. A part misses a
word if no place of the word begins in it, whatever comes after it.

## Main definitions

* `Bytes.Misses` — no place of a word begins in these bytes

## Main results

* `Bytes.Misses.find?_append` — the first place lies behind a part that misses the word
* `Bytes.findLast?_eq_some` — the last place of a word
-/

namespace PdfText.Bytes

variable {word bytes front rest : Bytes}

/-! ## The first place -/

theorem find?_cons_of_absent {b : UInt8} (absent : ¬ word <+: b :: rest) :
    find? (b :: rest) word = (find? rest word).map (· + 1) := by
  rw [find?, if_neg]
  rwa [List.isPrefixOf_iff_prefix]

theorem find?_of_present (present : word <+: bytes) : find? bytes word = some 0 := by
  cases bytes with
  | nil =>
    obtain rfl := List.prefix_nil.mp present
    rfl
  | cons b rest =>
    rw [find?, if_pos]
    rwa [List.isPrefixOf_iff_prefix]

/-- No place of a word begins in these bytes, whatever comes after them. -/
def Misses (word front : Bytes) : Prop :=
  ∀ rest place, place < front.length → ¬ word <+: (front ++ rest).drop place

namespace Misses

/-- The first place of a word lies behind the bytes that miss it. -/
theorem find?_append (misses : Misses word front) (rest : Bytes) :
    find? (front ++ rest) word = (find? rest word).map (front.length + ·) := by
  -- By induction on the front part, where the word does not begin.
  induction front with
  | nil => simp
  | cons b front ih =>
    have first : ¬ word <+: b :: (front ++ rest) := misses rest 0 (by simp)
    have later : Misses word front := fun rest place inside =>
      misses rest (place + 1) (by simpa using inside)
    rw [List.cons_append, find?_cons_of_absent first, ih later, Option.map_map]
    congr 1
    funext place
    simp only [Function.comp_apply, List.length_cons]
    omega

theorem append {other : Bytes} (first : Misses word front) (second : Misses word other) :
    Misses word (front ++ other) := by
  intro rest place inside
  rw [List.append_assoc]
  by_cases early : place < front.length
  · exact first _ place early
  · have apart : (front ++ (other ++ rest)).drop place =
        (other ++ rest).drop (place - front.length) := by
      rw [List.drop_append, List.drop_of_length_le (by omega), List.nil_append]
    rw [apart]
    exact second rest _ (by rw [List.length_append] at inside; omega)

/-- A word does not begin where its first byte does not occur. -/
theorem of_not_mem {b : UInt8} {others : Bytes} (absent : b ∉ front) :
    Misses (b :: others) front := by
  intro rest place inside found
  obtain ⟨after, found⟩ := found
  have begins : (front ++ rest)[place]? = some b := by
    rw [← List.head?_drop, ← found]
    rfl
  rw [List.getElem?_append_left inside] at begins
  exact absent (List.mem_of_getElem? begins)

/-- A word does not begin in bytes that do not hold it and are closed off by a byte that it does not
hold. -/
theorem of_not_inside {b : UInt8} (apart : b ∉ word) (absent : ¬ word <:+: front) :
    Misses word (front ++ [b]) := by
  intro rest place inside found
  rw [List.length_append, List.length_singleton] at inside
  rw [List.append_assoc, List.drop_append_of_le_length (by omega)] at found
  by_cases short : word.length ≤ (front.drop place).length
  · have within : word <+: front.drop place :=
      List.prefix_of_prefix_length_le found (List.prefix_append _ _) short
    exact absent (within.isInfix.trans (List.drop_suffix place front).isInfix)
  · have beyond : front.drop place ++ [b] <+: word := by
      refine List.prefix_of_prefix_length_le ?_ found (by simp at short ⊢; omega)
      rw [← List.append_assoc]
      exact List.prefix_append _ _
    exact apart (beyond.subset (by simp))

end Misses

/-- Around a byte that it does not hold, a word stands on one side. -/
theorem inside_append_cons {b : UInt8} {after : Bytes} (apart : b ∉ word) :
    word <:+: front ++ b :: after ↔ word <:+: front ∨ word <:+: after := by
  constructor
  · intro held
    by_cases before : word <:+: front
    · exact .inl before
    · right
      -- If the word does not stand in front of the byte, it begins behind it.
      obtain ⟨start, rest, whole⟩ := held
      have misses : Misses word (front ++ [b]) := .of_not_inside apart before
      have beyond : (front ++ [b]).length ≤ start.length := by
        by_contra early
        refine misses after start.length (by omega) ?_
        rw [List.append_assoc, List.singleton_append, ← whole, List.append_assoc, List.drop_left]
        exact List.prefix_append _ _
      refine ⟨start.drop (front ++ [b]).length, rest, ?_⟩
      have left := congrArg (List.drop (front ++ [b]).length) whole
      rw [List.append_assoc, List.drop_append_of_le_length beyond] at left
      have split : front ++ b :: after = (front ++ [b]) ++ after := by simp
      rw [List.append_assoc, left, split, List.drop_left]
  · rintro (before | later)
    · exact before.trans (List.prefix_append _ _).isInfix
    · exact later.trans ((List.suffix_cons b after).trans (List.suffix_append _ _)).isInfix

/-- A word does not stand where one of its bytes does not occur. -/
theorem not_inside_of_not_mem {b : UInt8} (needed : b ∈ word) (absent : b ∉ front) :
    ¬ word <:+: front := fun held => absent (held.subset needed)

/-- A word that stands in the front part has its first place there. -/
theorem exists_find?_of_inside (nonempty : word ≠ []) (held : word <:+: front) (rest : Bytes) :
    ∃ place, place + word.length ≤ front.length ∧ find? (front ++ rest) word = some place := by
  induction front with
  | nil => exact absurd (List.infix_nil.mp held) nonempty
  | cons b front ih =>
    by_cases first : word <+: b :: front
    · refine ⟨0, by simpa using first.length_le, ?_⟩
      exact find?_of_present (first.trans (List.prefix_append _ _))
    · have later : word <:+: front := (List.infix_cons_iff.mp held).resolve_left first
      obtain ⟨place, inside, found⟩ := ih later
      by_cases early : word <+: b :: (front ++ rest)
      · exact ⟨0, by simp; omega, find?_of_present early⟩
      · refine ⟨place + 1, by simp; omega, ?_⟩
        rw [List.cons_append, find?_cons_of_absent early, found]
        rfl

/-! ## The last place -/

theorem findLast?_go_of_absent {position : Nat} {found : Option Nat}
    (absent : ∀ place, ¬ word <+: bytes.drop place) :
    findLast?.go word position found bytes = found := by
  induction bytes generalizing position with
  | nil => rfl
  | cons b bytes ih =>
    have first : ¬ word <+: b :: bytes := absent 0
    rw [findLast?.go, if_neg (by rwa [List.isPrefixOf_iff_prefix])]
    exact ih fun place => absent (place + 1)

theorem findLast?_go_eq_some {position distance : Nat} (nonempty : word ≠ [])
    (present : word <+: bytes.drop distance)
    (last : ∀ other, distance < other → ¬ word <+: bytes.drop other) (found : Option Nat) :
    findLast?.go word position found bytes = some (position + distance) := by
  -- By induction on the bytes, for all places found so far: only the last one is returned.
  induction bytes generalizing position distance found with
  | nil => exact absurd (by simpa using present) nonempty
  | cons b bytes ih =>
    cases distance with
    | zero =>
      rw [findLast?.go, if_pos (by rwa [List.isPrefixOf_iff_prefix])]
      exact findLast?_go_of_absent fun place => last (place + 1) (by omega)
    | succ distance =>
      rw [findLast?.go, ih present fun other beyond => last (other + 1) (by omega)]
      congr 1
      omega

/-- The last place of a word is one after which it does not stand again. The search may start
anywhere before it. -/
theorem findLast?_eq_some {start place : Nat} (nonempty : word ≠ []) (late : start ≤ place)
    (present : word <+: bytes.drop place) (last : ∀ other, place < other → ¬ word <+: bytes.drop other) :
    findLast? bytes word start = some place := by
  obtain ⟨distance, rfl⟩ := Nat.exists_eq_add_of_le late
  rw [← List.drop_drop] at present
  refine findLast?_go_eq_some nonempty present (fun other beyond => ?_) none
  rw [List.drop_drop]
  exact last _ (by omega)

end PdfText.Bytes

import Mathlib.Data.List.Basic
import Mathlib.Data.Nat.Bitwise
import PdfText.Cipher.Rc4

/-!
# The keystream of RC4

What RC4 does to data is to combine it with bytes that depend on the key only. Doing it twice gives
the data back, and does not change its length.

The table of the generator fits into one number of 2048 bits, in which entries are exchanged by
arithmetic. That form of the cipher is as good as the other, and it can be run inside a proof.

## Main definitions

* `Rc4.mask` — the bytes of a generator
* `Rc4.Packed.apply` — the cipher with its table in one number

## Main results

* `Rc4.apply_apply` — the cipher is its own inverse
* `Rc4.apply_eq_packed` — both forms of the cipher agree
-/

namespace PdfText.Rc4

/-! ## Combining with a keystream -/

/-- The first bytes of a generator. -/
def mask (rc4 : Rc4) : (count : Nat) → Bytes
  | 0 => []
  | count + 1 => rc4.next.1 :: mask rc4.next.2 count

theorem length_mask (rc4 : Rc4) (count : Nat) : (mask rc4 count).length = count := by
  induction count generalizing rc4 with
  | zero => rfl
  | succ count ih => rw [mask, List.length_cons, ih]

theorem combine_eq (rc4 : Rc4) (done data : Bytes) :
    combine rc4 done data = done.reverse ++ List.zipWith (· ^^^ ·) data (mask rc4 data.length) := by
  induction data generalizing rc4 done with
  | nil => simp [combine]
  | cons b rest ih => simp [combine, ih, mask]

theorem apply_eq (key data : Bytes) :
    apply key data = List.zipWith (· ^^^ ·) data (mask (start key) data.length) := by
  rw [apply, combine_eq, List.reverse_nil, List.nil_append]

theorem length_apply (key data : Bytes) : (apply key data).length = data.length := by
  rw [apply_eq, List.length_zipWith, length_mask, Nat.min_self]

/-- Combining twice with the same bytes changes nothing. -/
theorem zipWith_xor_xor {data mask : Bytes} (enough : data.length ≤ mask.length) :
    List.zipWith (· ^^^ ·) (List.zipWith (· ^^^ ·) data mask) mask = data := by
  induction data generalizing mask with
  | nil => rfl
  | cons b data ih =>
    cases mask with
    | nil => simp at enough
    | cons byte mask =>
      have enough' : data.length ≤ mask.length := by simpa using enough
      have same : b ^^^ byte ^^^ byte = b := by
        rw [UInt8.xor_assoc, UInt8.xor_self, UInt8.xor_zero]
      simp only [List.zipWith_cons_cons, ih enough', same]

/-- Encrypting and decrypting are the same. -/
theorem apply_apply (key data : Bytes) : apply key (apply key data) = data := by
  rw [apply_eq key (apply key data), length_apply, apply_eq]
  exact zipWith_xor_xor (length_mask _ _).ge

/-! ## A table in one number -/

namespace Packed

/-- The entry at a place. -/
def entry (table : Nat) (place : UInt8) : Nat := (table >>> (8 * place.toNat)) % 256

/-- Exchanges two entries. -/
def exchange (table : Nat) (first second : UInt8) : Nat :=
  let difference := entry table first ^^^ entry table second
  table ^^^ (difference <<< (8 * first.toNat)) ^^^ (difference <<< (8 * second.toNat))

/-- The table that leaves all bytes in place. -/
def identity : Nat :=
  (List.range 256).foldl (fun table place => table ^^^ (place <<< (8 * place))) 0

/-- Mixes the bytes of the key at the places from `first` on into the table. -/
def mixAll (table : Nat) (first second : UInt8) : Bytes → Nat
  | [] => table
  | b :: rest =>
    let second := second + UInt8.ofNat (entry table first) + b
    mixAll (exchange table first second) (first + 1) second rest

/-- Combines data with the bytes of a generator. -/
def combine (table : Nat) (first second : UInt8) : Bytes → Bytes
  | [] => []
  | b :: rest =>
    let first := first + 1
    let second := second + UInt8.ofNat (entry table first)
    let table := exchange table first second
    let place := UInt8.ofNat (entry table first + entry table second)
    (b ^^^ UInt8.ofNat (entry table place)) :: combine table first second rest

/-- Encrypts or decrypts data. -/
def apply (key data : Bytes) : Bytes :=
  let stretched := (List.replicate (256 / key.length + 1) key).flatten.take 256
  combine (mixAll identity 0 0 stretched) 0 0 data

/-! ## Exchanging entries -/

theorem entry_xor (table other : Nat) (place : UInt8) :
    entry (table ^^^ other) place = entry table place ^^^ entry other place := by
  have bits : (256 : Nat) = 2 ^ 8 := rfl
  rw [entry, entry, entry, Nat.shiftRight_xor_distrib, bits, Nat.xor_mod_two_pow]

/-- A number that is moved to a place is the entry there, and all others are zero. -/
theorem entry_shiftLeft {value : Nat} (small : value < 256) (home place : UInt8) :
    entry (value <<< (8 * home.toNat)) place = if place = home then value else 0 := by
  unfold entry
  split
  · next same => rw [same, Nat.shiftLeft_shiftRight, Nat.mod_eq_of_lt small]
  · next other =>
    have apart : place.toNat ≠ home.toNat := fun same => other (UInt8.toNat_inj.mp same)
    have bits : (256 : Nat) = 2 ^ 8 := rfl
    rw [bits] at small ⊢
    refine Nat.eq_of_testBit_eq fun bit => ?_
    rw [Nat.testBit_mod_two_pow, Nat.testBit_shiftRight, Nat.testBit_shiftLeft, Nat.zero_testBit]
    by_cases inside : bit < 8 ∧ 8 * home.toNat ≤ 8 * place.toNat + bit
    · -- The number has no bits so far up.
      have beyond : 8 ≤ 8 * place.toNat + bit - 8 * home.toNat := by omega
      have high : value < 2 ^ (8 * place.toNat + bit - 8 * home.toNat) :=
        small.trans_le (Nat.pow_le_pow_right (by decide) beyond)
      simp [Nat.testBit_lt_two_pow high]
    · rcases not_and_or.mp inside with outside | below
      · simp [outside]
      · simp [below]

theorem entry_lt (table : Nat) (place : UInt8) : entry table place < 256 :=
  Nat.mod_lt _ (by decide)

/-- Exchanging exchanges two entries and no others. -/
theorem entry_exchange (table : Nat) (first second place : UInt8) :
    entry (exchange table first second) place =
      if place = first then entry table second
      else if place = second then entry table first else entry table place := by
  have small : entry table first ^^^ entry table second < 256 :=
    Nat.xor_lt_two_pow (n := 8) (entry_lt table first) (entry_lt table second)
  simp only [exchange, entry_xor, entry_shiftLeft small]
  -- The difference of two entries turns each of them into the other.
  by_cases one : place = first <;> by_cases two : place = second
  · rw [if_pos one, if_pos two, if_pos one, ← one, ← two]
    simp
  · rw [if_pos one, if_neg two, if_pos one, one, Nat.xor_zero, ← Nat.xor_assoc, Nat.xor_self,
      Nat.zero_xor]
  · rw [if_neg one, if_pos two, if_neg one, if_pos two, two, Nat.xor_zero,
      Nat.xor_comm (entry table first), ← Nat.xor_assoc, Nat.xor_self, Nat.zero_xor]
  · rw [if_neg one, if_neg two, if_neg one, if_neg two, Nat.xor_zero, Nat.xor_zero]

/-! ## Both forms of a table -/

/-- A table with the same entries. -/
def Packs (packed : Nat) (table : Vector UInt8 256) : Prop :=
  ∀ place, Rc4.entry table place = UInt8.ofNat (entry packed place)

theorem packs_identity : Packs identity Rc4.identity := by
  intro place
  have all : ∀ place : Fin 256,
      Rc4.identity.get place = UInt8.ofNat (entry identity (UInt8.ofNat place)) := by
    decide +kernel
  have same : UInt8.ofNat place.toNat = place := UInt8.ofNat_toNat
  rw [Rc4.entry, all ⟨place.toNat, place.toNat_lt⟩, same]

variable {packed : Nat} {table : Vector UInt8 256}

theorem entry_rc4_exchange (first second place : UInt8) :
    Rc4.entry (Rc4.exchange table first second) place =
      if place = first then Rc4.entry table second
      else if place = second then Rc4.entry table first else Rc4.entry table place := by
  have get (table : Vector UInt8 256) (place : UInt8) :
      Rc4.entry table place = getElem table place.toNat place.toNat_lt := rfl
  simp only [get, Rc4.exchange, Vector.getElem_swap, UInt8.toNat_inj]

theorem Packs.exchange (packs : Packs packed table) (first second : UInt8) :
    Packs (exchange packed first second) (Rc4.exchange table first second) := by
  intro place
  rw [entry_rc4_exchange, entry_exchange, packs, packs, packs]
  split
  · rfl
  · split <;> rfl

/-- Mixing a key into both forms of a table gives both forms of another. -/
theorem Packs.mixAll (packs : Packs packed table) (first second : UInt8) (key : Bytes) :
    Packs (mixAll packed first second key) (key.foldl mix { table, first, second }).table := by
  -- Each byte of the key makes one exchange, in both forms.
  induction key generalizing packed table first second with
  | nil => exact packs
  | cons b rest ih =>
    rw [List.foldl_cons, mix, Packed.mixAll, packs first]
    exact ih (packs.exchange _ _) _ _

/-- Both forms of a table give the same bytes. -/
theorem Packs.combine (packs : Packs packed table) (first second : UInt8) (data : Bytes) :
    List.zipWith (· ^^^ ·) data (mask { table, first, second } data.length) =
      combine packed first second data := by
  -- Each byte of the data takes one exchange, after which both forms give the same byte.
  induction data generalizing packed table first second with
  | nil => rfl
  | cons b rest ih =>
    have packs' := packs.exchange (first + 1) (second + UInt8.ofNat (entry packed (first + 1)))
    have next : Rc4.next { table, first, second } =
        (UInt8.ofNat (entry (Packed.exchange packed (first + 1)
            (second + UInt8.ofNat (entry packed (first + 1))))
          (UInt8.ofNat (entry (Packed.exchange packed (first + 1)
              (second + UInt8.ofNat (entry packed (first + 1)))) (first + 1) +
            entry (Packed.exchange packed (first + 1)
              (second + UInt8.ofNat (entry packed (first + 1))))
              (second + UInt8.ofNat (entry packed (first + 1)))))),
          { table := Rc4.exchange table (first + 1) (second + UInt8.ofNat (entry packed (first + 1)))
            first := first + 1
            second := second + UInt8.ofNat (entry packed (first + 1)) }) := by
      rw [Rc4.next, packs (first + 1), packs', packs', packs', UInt8.ofNat_add]
    rw [List.length_cons, mask, List.zipWith_cons_cons, next, ih packs', Packed.combine]

end Packed

/-- The cipher can be run with its table in one number. -/
theorem apply_eq_packed (key data : Bytes) : apply key data = Packed.apply key data := by
  rw [apply_eq, start, Packed.apply]
  exact (Packed.packs_identity.mixAll 0 0 _).combine 0 0 data

end PdfText.Rc4

import Mathlib.Data.List.TakeDrop
import PdfText.Grammar.Indirect

/-!
# What rules read

Rules are put together from few parts, and each part has one lemma that tells what it reads at the
front of bytes that begin as it expects. The lemmas about whole objects are chained from these.

## Main definitions

* `Bytes.digits` — the decimal digits of a number
* `Rule.Stops` — bytes that a run of a class does not go on into

## Main results

* `Token.unsigned_append` — digits are read back as their number
* `Token.blank_of_solid` — where there is nothing to skip
-/

namespace PdfText

/-! ## Parts of rules -/

namespace Rule

variable {α β : Type} {bytes rest : Bytes}

theorem bind_apply (rule : Rule α) (next : α → Rule β) (bytes : Bytes) :
    (rule >>= next) bytes = (rule bytes).bind fun found => next found.1 found.2 := rfl

theorem pure_apply (value : α) (bytes : Bytes) :
    (pure value : Rule α) bytes = some (value, bytes) := rfl

theorem map_apply (change : α → β) (rule : Rule α) (bytes : Bytes) :
    (change <$> rule) bytes = (rule bytes).map fun found => (change found.1, found.2) := by
  cases read : rule bytes <;> simp [Functor.map, StateT.map, read]

theorem orElse_apply (rule other : Rule α) (bytes : Bytes) :
    (rule <|> other) bytes = (rule bytes).or (other bytes) := by
  change (rule bytes <|> other bytes) = _
  cases rule bytes <;> rfl

theorem seqLeft_apply (rule : Rule α) (after : Rule β) (bytes : Bytes) :
    (rule <* after) bytes =
      (rule bytes).bind fun found => (after found.2).map fun next => (found.1, next.2) := by
  cases read : rule bytes with
  | none => simp [SeqLeft.seqLeft, StateT.bind, bind, read]
  | some found =>
    cases next : after found.2 with
    | none => simp [SeqLeft.seqLeft, StateT.bind, bind, read, next]
    | some result =>
      simp [SeqLeft.seqLeft, StateT.bind, bind, read, next]
      rfl

/-! ## Words -/

theorem isPrefixOf?_append (word rest : Bytes) : word.isPrefixOf? (word ++ rest) = some rest := by
  induction word with
  | nil => rfl
  | cons b word ih =>
    change (if b == b then word.isPrefixOf? (word ++ rest) else none) = some rest
    rw [if_pos (beq_self_eq_true b), ih]

theorem literal_append (word : String) (rest : Bytes) :
    literal word (ascii word ++ rest) = some ((), rest) := by
  rw [literal, isPrefixOf?_append]
  rfl

/-- A word does not stand where the first byte is another. -/
theorem literal_eq_none {word : String} {first b : UInt8} (begins : (ascii word).head? = some first)
    (ne : first ≠ b) (rest : Bytes) : literal word (b :: rest) = none := by
  obtain ⟨others, spelled⟩ : ∃ others, ascii word = first :: others := by
    cases spelled : ascii word <;> simp_all
  have absent : (first :: others).isPrefixOf? (b :: rest) = none := by
    change (if first == b then others.isPrefixOf? rest else none) = none
    rw [if_neg (by simpa using ne)]
  rw [literal, spelled, absent]
  rfl

/-! ## Runs -/

variable {accept : UInt8 → Bool}

/-- Bytes that a run of a class does not go on into. -/
def Stops (accept : UInt8 → Bool) (rest : Bytes) : Prop := ∀ b ∈ rest.head?, accept b = false

theorem stops_cons {b : UInt8} (other : accept b = false) : Stops accept (b :: rest) := by
  intro first inside
  obtain rfl : b = first := by simpa using inside
  exact other

theorem span_append {taken : Bytes} (all : ∀ b ∈ taken, accept b) (stop : Stops accept rest) :
    (taken ++ rest).span accept = (taken, rest) := by
  have none : rest.takeWhile accept = [] ∧ rest.dropWhile accept = rest := by
    cases rest with
    | nil => exact ⟨rfl, rfl⟩
    | cons b rest => simp [stop b rfl]
  rw [List.span_eq_takeWhile_dropWhile, List.takeWhile_append_of_pos all,
    List.dropWhile_append_of_pos all, none.1, none.2, List.append_nil]

theorem run_append {taken : Bytes} (all : ∀ b ∈ taken, accept b) (stop : Stops accept rest) :
    run accept (taken ++ rest) = some (taken, rest) := by
  rw [run, span_append all stop]

theorem span_of_stops (stop : Stops accept rest) : rest.span accept = ([], rest) := by
  have nothing : ∀ b ∈ ([] : Bytes), accept b := by simp
  exact span_append nothing stop

theorem run_of_stops (stop : Stops accept rest) : run accept rest = some ([], rest) := by
  rw [run, span_of_stops stop]

theorem run1_append {taken : Bytes} (some_ : taken ≠ []) (all : ∀ b ∈ taken, accept b)
    (stop : Stops accept rest) : run1 accept (taken ++ rest) = some (taken, rest) := by
  rw [run1, span_append all stop]
  cases taken with
  | nil => exact absurd rfl some_
  | cons => rfl

theorem run1_of_stops (stop : Stops accept rest) : run1 accept rest = none := by
  rw [run1, span_of_stops stop]

/-! ## Repetition -/

/-- A repeated rule reads items one after the other, up to where none stands. -/
theorem manyAfter_flatMap {rule : Rule α} {spell : β → Bytes} {value : β → α} {items : List β}
    (reads : ∀ item ∈ items, ∀ rest, rule (spell item ++ rest) = some (value item, rest))
    (stop : rule rest = none) {budget : Nat} (enough : items.length ≤ budget) (read : List α) :
    manyAfter rule budget read (items.flatMap spell ++ rest) =
      some (read.reverse ++ items.map value, rest) := by
  induction items generalizing budget read with
  | nil => cases budget <;> simp [manyAfter, stop]
  | cons item items ih =>
    obtain ⟨budget, rfl⟩ : ∃ less, budget = less + 1 := ⟨budget - 1, by simp at enough; omega⟩
    obtain ⟨first, later⟩ := List.forall_mem_cons.mp reads
    rw [List.flatMap_cons, List.append_assoc]
    simp only [manyAfter, first]
    rw [ih later (by simpa using enough)]
    simp

end Rule

/-! ## Numbers -/

namespace Bytes

/-- The decimal digits of a number. -/
def digits (value : Nat) : Bytes := (Nat.toDigits 10 value).map Char.toUInt8

theorem digits_ne_nil (value : Nat) : digits value ≠ [] := by
  simp [digits, Nat.toDigits_ne_nil]

/-- A digit as a character is the same digit as a byte. -/
theorem toNat_toUInt8 {c : Char} (digit : c.isDigit) : c.toUInt8.toNat = c.toNat := by
  have bound : c.toNat ≤ 57 := by
    simp only [Char.isDigit, Bool.and_eq_true, decide_eq_true_eq] at digit
    exact UInt32.le_iff_toNat_le.mp digit.2
  have small : c.toNat < 256 := by omega
  simp only [Char.toUInt8, UInt32.toNat_toUInt8]
  exact Nat.mod_eq_of_lt small

theorem isDigit_of_mem_digits {value : Nat} {b : UInt8} (inside : b ∈ digits value) : isDigit b := by
  obtain ⟨c, listed, rfl⟩ := List.mem_map.mp inside
  have digit := Nat.isDigit_of_mem_toDigits (by decide) (by decide) listed
  have same := toNat_toUInt8 digit
  simp only [Char.isDigit, Bool.and_eq_true, decide_eq_true_eq] at digit
  have low : 48 ≤ c.toNat := UInt32.le_iff_toNat_le.mp digit.1
  have high : c.toNat ≤ 57 := UInt32.le_iff_toNat_le.mp digit.2
  simp only [isDigit, Bool.and_eq_true, decide_eq_true_eq, UInt8.le_iff_toNat_le, same]
  exact ⟨low, high⟩

theorem foldl_toUInt8 {chars : List Char} (all : ∀ c ∈ chars, c.isDigit) (start : Nat) :
    (chars.map Char.toUInt8).foldl (fun value digit => 10 * value + (digit.toNat - 0x30)) start =
      Nat.ofDigitChars 10 chars start := by
  induction chars generalizing start with
  | nil => rfl
  | cons c chars ih =>
    obtain ⟨digit, rest⟩ := List.forall_mem_cons.mp all
    rw [List.map_cons, List.foldl_cons, ih rest, Nat.ofDigitChars_cons, toNat_toUInt8 digit]
    rfl

/-- The digits of a number stand for it. -/
@[simp]
theorem decimal_digits (value : Nat) : decimal (digits value) = value := by
  rw [decimal, digits, foldl_toUInt8 fun c inside =>
    Nat.isDigit_of_mem_toDigits (by decide) (by decide) inside]
  exact Nat.ofDigitChars_ten_toDigits

/-- Leading zeros do not change a number. -/
@[simp]
theorem decimal_replicate_append (count : Nat) (bytes : Bytes) :
    decimal (List.replicate count 0x30 ++ bytes) = decimal bytes := by
  induction count with
  | zero => rfl
  | succ count ih => exact ih

end Bytes

namespace Token

open Rule

variable {rest : Bytes}

/-- Digits are read back as their number, if that is below the bound. -/
theorem unsigned_append {digits : Bytes} (some_ : digits ≠ []) (all : ∀ b ∈ digits, isDigit b)
    (stop : Stops isDigit rest) (bound : Nat) :
    unsigned bound (digits ++ rest) =
      if Bytes.decimal digits < bound then some (Bytes.decimal digits, rest) else none := by
  rw [unsigned, verify, run1_append some_ all stop]
  dsimp only
  split <;> rfl

theorem unsigned_digits {value bound : Nat} (below : value < bound) (stop : Stops isDigit rest) :
    unsigned bound (Bytes.digits value ++ rest) = some (value, rest) := by
  rw [unsigned_append (Bytes.digits_ne_nil value) (fun _ => Bytes.isDigit_of_mem_digits) stop,
    Bytes.decimal_digits, if_pos below]

/-- Where no digit stands, no number does. -/
theorem unsigned_of_stops (stop : Stops isDigit rest) (bound : Nat) : unsigned bound rest = none := by
  rw [unsigned, verify, run1_of_stops stop]

/-! ## Blanks -/

/-- A byte that is neither white space nor the start of a comment. -/
def isSolid (b : UInt8) : Bool := !isBlank b && b != 0x25

theorem blank_of_solid {b : UInt8} (solid : isSolid b) (rest : Bytes) :
    blank (b :: rest) = some ((), b :: rest) := by
  have plain : isBlank b = false ∧ b ≠ 0x25 := by simpa [isSolid] using solid
  simp [blank, skipGap, plain]

theorem blank_cons {b : UInt8} (skipped : isBlank b) (rest : Bytes) :
    blank (b :: rest) = blank rest := by
  simp [blank, skipGap, skipped]

theorem isSolid_of_isDigit {b : UInt8} (digit : isDigit b) : isSolid b := by
  have ne {c : UInt8} (other : isDigit c = false) : b ≠ c := by
    rintro rfl
    simp [digit] at other
  simp [isSolid, isBlank, ne (c := 0x20) rfl, ne (c := 0x09) rfl, ne (c := 0x0A) rfl,
    ne (c := 0x0D) rfl, ne (c := 0x00) rfl, ne (c := 0x0C) rfl, ne (c := 0x25) rfl]

end Token

end PdfText

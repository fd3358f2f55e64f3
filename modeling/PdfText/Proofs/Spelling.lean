import PdfText.Proofs.Dictionaries
import PdfText.Proofs.Rules

/-!
# Spelling objects

Objects are spelled in the syntax of the file format, with as few bytes as the format allows: white
space stands only where two objects would otherwise run together. A string is spelled in
parentheses. Of the parentheses inside it, those that have a partner stand for themselves, and all
others are marked by a backslash, as are backslashes and carriage returns.

What is spelled is read back, if nothing after it can be taken for a part of it.

## Main definitions

* `Literal.spell` — the bytes of a string between its parentheses
* `Object.spell` — an object as it is written out
* `Object.IsReadable` — objects whose spelling is read back
* `Direct.Ends` — bytes that do not go on with the object before them

## Main results

* `Token.stringBytes_spell` — a string is read back, unless its parentheses nest too deep
* `Direct.object_spell` — an object is read back
-/

namespace PdfText

/-! ## Strings -/

namespace Literal

/-- Whether a parenthesis that is open is closed later on, past `inner` ones that are opened after
it. -/
def closes : (inner : Nat) → Bytes → Bool
  | _, [] => false
  | inner, b :: rest =>
    if b == 0x28 then closes (inner + 1) rest
    else if b == 0x29 then
      match inner with
      | 0 => true
      | inner + 1 => closes inner rest
    else closes inner rest

/-- The bytes of a string as they stand inside its parentheses, where `level` parentheses are open
that will be closed. -/
def spell : (level : Nat) → Bytes → Bytes
  | _, [] => []
  | level, b :: rest =>
    if b == 0x28 then
      if closes 0 rest then b :: spell (level + 1) rest else 0x5C :: b :: spell level rest
    else if b == 0x29 then
      match level with
      | 0 => 0x5C :: b :: spell 0 rest
      | level + 1 => b :: spell level rest
    else if b == 0x5C then 0x5C :: b :: spell level rest
    else if b == 0x0D then 0x5C :: 0x72 :: spell level rest
    else b :: spell level rest

theorem closes_of_closes_succ {inner : Nat} {bytes : Bytes} (closed : closes (inner + 1) bytes) :
    closes inner bytes := by
  induction bytes generalizing inner with
  | nil => cases closed
  | cons b rest ih =>
    simp only [closes] at closed ⊢
    split
    · next opens =>
      rw [if_pos opens] at closed
      exact ih closed
    · next other =>
      rw [if_neg other] at closed
      split
      · next ends =>
        rw [if_pos ends] at closed
        cases inner with
        | zero => rfl
        | succ inner => exact ih closed
      · next plain =>
        rw [if_neg plain] at closed
        exact ih closed

theorem closes_zero {inner : Nat} {bytes : Bytes} (closed : closes inner bytes) :
    closes 0 bytes := by
  induction inner with
  | zero => exact closed
  | succ inner ih => exact ih (closes_of_closes_succ closed)

/-- How the first byte of a string is spelled, and the level at which the bytes after it are. -/
inductive SpelledAs (rest : Bytes) : (level : Nat) → (b : UInt8) → (spelled : Bytes) →
    (next : Nat) → Prop
  /-- A parenthesis that will be closed stands for itself. -/
  | partner {level : Nat} (closed : closes 0 rest) : SpelledAs rest level 0x28 [0x28] (level + 1)
  /-- So does one that closes another. -/
  | close {level : Nat} : SpelledAs rest (level + 1) 0x29 [0x29] level
  /-- A byte that is marked, among them all other parentheses. -/
  | marked {level : Nat} {b letter : UInt8} (digit : isOctal letter = false)
    (ends : isLineEnd letter = false) (means : Token.escaped letter = b)
    (lone : b = 0x28 → ¬ closes 0 rest) (outer : b = 0x29 → level = 0) :
    SpelledAs rest level b [0x5C, letter] level
  | plain {level : Nat} {b : UInt8} (other : b ≠ 0x28 ∧ b ≠ 0x29 ∧ b ≠ 0x5C) :
    SpelledAs rest level b [b] level

theorem spell_cons (level : Nat) (b : UInt8) (rest : Bytes) :
    ∃ spelled next, SpelledAs rest level b spelled next ∧
      spell level (b :: rest) = spelled ++ spell next rest := by
  by_cases opens : b = 0x28
  · subst opens
    by_cases closed : closes 0 rest
    · exact ⟨_, _, .partner closed, by simp [spell, closed]⟩
    · exact ⟨[0x5C, 0x28], level, .marked rfl rfl rfl (fun _ => closed) (by simp),
        by simp [spell, closed]⟩
  by_cases ends : b = 0x29
  · subst ends
    cases level with
    | zero => exact ⟨[0x5C, 0x29], 0, .marked rfl rfl rfl (by simp) (fun _ => rfl), rfl⟩
    | succ level => exact ⟨_, _, .close, rfl⟩
  by_cases backslash : b = 0x5C
  · subst backslash
    exact ⟨[0x5C, 0x5C], level, .marked rfl rfl rfl (by simp) (by simp), rfl⟩
  by_cases return_ : b = 0x0D
  · subst return_
    exact ⟨[0x5C, 0x72], level, .marked rfl rfl rfl (by simp) (by simp), rfl⟩
  · exact ⟨[b], level, .plain ⟨opens, ends, backslash⟩,
      by simp [spell, opens, ends, backslash, return_]⟩

/-- All parentheses that are open will be closed. -/
def AllClose : (level : Nat) → Bytes → Prop
  | 0, _ => True
  | level + 1, bytes => closes level bytes

namespace SpelledAs

variable {level next : Nat} {b : UInt8} {rest spelled : Bytes}

theorem allClose (step : SpelledAs rest level b spelled next)
    (closing : AllClose level (b :: rest)) : AllClose next rest := by
  cases level with
  | zero =>
    cases step with
    | partner closed => exact closed
    | _ => trivial
  | succ level =>
    simp only [AllClose, closes] at closing
    cases step with
    | partner => exact closing
    | close =>
      cases next with
      | zero => trivial
      | succ next => exact closing
    | marked _ _ _ lone outer =>
      -- A parenthesis that has no partner stands inside no other.
      have opens : b ≠ 0x28 := by
        rintro rfl
        exact lone rfl (closes_zero (by simpa using closing))
      have ends : b ≠ 0x29 := fun same => nomatch outer same
      simpa [AllClose, opens, ends] using closing
    | plain other => simpa [AllClose, other.1, other.2.1] using closing

/-- Each level is that of a parenthesis. -/
theorem add_count_le (step : SpelledAs rest level b spelled next) :
    next + rest.count 0x28 ≤ level + (b :: rest).count 0x28 := by
  cases step with
  | partner =>
    rw [List.count_cons_self]
    omega
  | close => simp
  | _ => exact Nat.add_le_add_left (List.count_le_count_cons) _

end SpelledAs

end Literal

namespace Token

open Literal

section Steps

variable (level : Nat) (read rest : Bytes)

theorem stringBytes_open : stringBytes level read 0 (0x28 :: rest) =
    if level < maxNesting then stringBytes (level + 1) (0x28 :: read) 0 rest else none := rfl

theorem stringBytes_close : stringBytes (level + 1) read 0 (0x29 :: rest) =
    stringBytes level (0x29 :: read) 0 rest := rfl

theorem stringBytes_end : stringBytes 0 read 0 (0x29 :: rest) = some (read.reverse, rest) := rfl

theorem stringBytes_plain {b : UInt8} (plain : b ≠ 0x28 ∧ b ≠ 0x29 ∧ b ≠ 0x5C) :
    stringBytes level read 0 (b :: rest) = stringBytes level (b :: read) 0 rest := by
  simp [stringBytes, plain]

/-- A byte that a backslash marks is read as what it stands for. -/
theorem stringBytes_escaped {b : UInt8} (digit : isOctal b = false) (ends : isLineEnd b = false) :
    stringBytes level read 0 (0x5C :: b :: rest) = stringBytes level (escaped b :: read) 0 rest := by
  have ne : b ≠ 0x0D := by
    rintro rfl
    cases ends
  have found : escape (b :: rest) = some ([escaped b], 1) := by
    simp [escape, digit, ends, ne]
  simp only [stringBytes, found]
  rfl

end Steps

/-- A byte is read from its spelling, whatever follows. Only a parenthesis that opens may fail, where
`maxNesting` are open. -/
theorem stringBytes_spelledAs {level next : Nat} {b : UInt8} {bytes spelled : Bytes}
    (step : SpelledAs bytes level b spelled next) (read rest : Bytes) :
    stringBytes level read 0 (spelled ++ rest) = stringBytes next (b :: read) 0 rest ∨
      b = 0x28 ∧ maxNesting ≤ level ∧ stringBytes level read 0 (spelled ++ rest) = none := by
  cases step with
  | partner =>
    rw [List.singleton_append, stringBytes_open]
    by_cases room : level < maxNesting
    · exact .inl (if_pos room)
    · exact .inr ⟨rfl, Nat.le_of_not_lt room, if_neg room⟩
  | close => exact .inl (stringBytes_close _ read rest)
  | marked digit ends means =>
    subst means
    exact .inl (stringBytes_escaped level read rest digit ends)
  | plain other => exact .inl (stringBytes_plain level read rest other)

/-- A string is read back, unless its parentheses nest too deep. -/
theorem stringBytes_spell {level : Nat} {bytes : Bytes} (closing : AllClose level bytes)
    (read rest : Bytes) :
    stringBytes level read 0 (spell level bytes ++ 0x29 :: rest) =
        some (read.reverse ++ bytes, rest) ∨
      maxNesting < level + bytes.count 0x28 ∧
        stringBytes level read 0 (spell level bytes ++ 0x29 :: rest) = none := by
  -- By induction on the bytes, for all levels. What carries it is that the parentheses that are open
  -- will be closed.
  induction bytes generalizing level read with
  | nil =>
    cases level with
    | zero =>
      left
      rw [spell, List.nil_append, stringBytes_end, List.append_nil]
    | succ level => cases closing
  | cons b bytes ih =>
    obtain ⟨spelled, next, step, same⟩ := spell_cons level b bytes
    rw [same, List.append_assoc]
    rcases stringBytes_spelledAs step read (spell next bytes ++ 0x29 :: rest) with
      taken | ⟨rfl, deep, fails⟩
    · have fewer := step.add_count_le
      rw [taken]
      rcases ih (step.allClose closing) (b :: read) with done | ⟨deep, fails⟩
      · left
        simpa using done
      · exact .inr ⟨by omega, fails⟩
    · refine .inr ⟨?_, fails⟩
      rw [List.count_cons_self]
      omega

/-- A string with few parentheses is read back. -/
theorem literalString_spell {bytes : Bytes} (few : bytes.count 0x28 ≤ maxNesting) (rest : Bytes) :
    literalString (0x28 :: spell 0 bytes ++ 0x29 :: rest) = some (bytes, rest) := by
  have opened : Rule.literal "(" (0x28 :: (spell 0 bytes ++ 0x29 :: rest)) =
      some ((), spell 0 bytes ++ 0x29 :: rest) := Rule.literal_append "(" _
  rw [literalString, Rule.bind_apply, List.cons_append, opened, Option.bind_some]
  rcases stringBytes_spell (show AllClose 0 bytes from trivial) [] rest with done | ⟨deep, -⟩
  · exact done
  · omega

end Token

/-! ## Objects -/

namespace Object

/-- Whether white space is needed before an object, so that it does not run into the one before
it. -/
def needsGap : Object → Bool
  | null | boolean _ | integer _ | real _ | reference _ => true
  | name _ | string _ | array _ | dictionary _ | stream .. => false

/-- The white space before an object. -/
def gap (object : Object) : Bytes := if object.needsGap then [0x20] else []

/-- A whole number as it is written. -/
def spellInteger : Int → Bytes
  | .ofNat size => Bytes.digits size
  | .negSucc less => 0x2D :: Bytes.digits (less + 1)

mutual

/-- An object as it is written out. -/
def spell : Object → Bytes
  | null => ascii "null"
  | boolean true => ascii "true"
  | boolean false => ascii "false"
  | integer value => spellInteger value
  | real spelling => spelling
  | name letters => 0x2F :: letters
  | string bytes => 0x28 :: Literal.spell 0 bytes ++ [0x29]
  | array items => 0x5B :: spellItems items
  | dictionary ⟨entries⟩ => ascii "<<" ++ spellEntries entries ++ ascii ">>"
  | stream ⟨entries⟩ body =>
    ascii "<<" ++ spellEntries entries ++ ascii ">>stream\n" ++ body ++ ascii "\nendstream"
  | reference id => Bytes.digits id.number ++ 0x20 :: Bytes.digits id.generation ++ ascii " R"

/-- The objects of a list from the first one on, and the bracket after them. -/
def spellItems : List Object → Bytes
  | [] => [0x5D]
  | item :: rest => spell item ++ spellMore rest

/-- The objects of a list after the first one, and the bracket after them. -/
def spellMore : List Object → Bytes
  | [] => [0x5D]
  | item :: rest => item.gap ++ spell item ++ spellMore rest

/-- The entries of a dictionary. -/
def spellEntries : List (Bytes × Object) → Bytes
  | [] => []
  | (key, value) :: rest => 0x2F :: key ++ value.gap ++ spell value ++ spellEntries rest

end

/-- Objects whose spelling is read back. -/
inductive IsReadable : Object → Prop
  | null : IsReadable null
  | boolean (value : Bool) : IsReadable (boolean value)
  | integer {value : Int} (low : -(sizeOfBits 63 : Int) ≤ value) (high : value < sizeOfBits 63) :
    IsReadable (integer value)
  | name {letters : Bytes} (plain : ∀ b ∈ letters, Token.isPlainInName b) : IsReadable (name letters)
  | string {bytes : Bytes} (few : bytes.count 0x28 ≤ Token.maxNesting) : IsReadable (string bytes)
  | array {items : List Object} (readable : ∀ item ∈ items, IsReadable item) :
    IsReadable (array items)
  | dictionary {entries : List (Bytes × Object)} (distinct : (entries.map Prod.fst).Nodup)
    (plain : ∀ entry ∈ entries, ∀ b ∈ entry.1, Token.isPlainInName b)
    (readable : ∀ entry ∈ entries, IsReadable entry.2) : IsReadable (dictionary ⟨entries⟩)
  | reference {id : ObjectId} (number : id.number < sizeOfBits 32)
    (generation : id.generation < sizeOfBits 16) : IsReadable (reference id)

end Object

/-! ## Reading back -/

/-- A byte that cannot go on with a number, a word or a name. -/
def isStop (b : UInt8) : Bool := isBlank b || isDelimiter b

/-- These bytes, white space first. -/
def stopBytes : Bytes :=
  [0x20, 0x09, 0x0A, 0x0D, 0x00, 0x0C, 0x28, 0x29, 0x3C, 0x3E, 0x5B, 0x5D, 0x7B, 0x7D, 0x2F, 0x25]

theorem mem_stopBytes {b : UInt8} (stop : isStop b) : b ∈ stopBytes := by
  have delimiters : ascii "()<>[]\x7b\x7d/%" =
      [0x28, 0x29, 0x3C, 0x3E, 0x5B, 0x5D, 0x7B, 0x7D, 0x2F, 0x25] := by decide
  simp only [isStop, isBlank, isDelimiter, delimiters, List.contains_cons, List.contains_nil,
    Bool.or_eq_true, beq_iff_eq, or_assoc] at stop
  simpa [stopBytes] using stop

/-- What none of these bytes is can be checked one by one. -/
theorem eq_false_of_isStop {b : UInt8} (stop : isStop b) {accept : UInt8 → Bool}
    (none : ∀ b ∈ stopBytes, accept b = false) : accept b = false :=
  none b (mem_stopBytes stop)

theorem ne_of_isStop {b other : UInt8} (stop : isStop b) (none : other ∉ stopBytes) : b ≠ other := by
  rintro rfl
  exact none (mem_stopBytes stop)

namespace Direct

/-- What a reference would go on with after its number. -/
def mark : Rule Unit := do
  Token.blank
  let _ ← Token.generation
  Token.blank
  Rule.literal "R"

/-- Bytes that do not go on with the object before them. -/
structure Ends (rest : Bytes) : Prop where
  head : ∀ b ∈ rest.head?, isStop b
  mark : mark rest = none

variable {rest : Bytes}

theorem Ends.stops (ends : Ends rest) {accept : UInt8 → Bool}
    (none : ∀ b ∈ stopBytes, accept b = false) : Rule.Stops accept rest :=
  fun b inside => eq_false_of_isStop (ends.head b inside) none

theorem Ends.stops_isDigit (ends : Ends rest) : Rule.Stops isDigit rest := ends.stops (by decide +kernel)

/-- Without a number there is no generation. -/
theorem mark_eq_none {b : UInt8} (solid : Token.isSolid b) (digit : isDigit b = false)
    (rest : Bytes) : mark (b :: rest) = none := by
  rw [mark, Rule.bind_apply, Token.blank_of_solid solid, Option.bind_some, Rule.bind_apply,
    Token.generation, Token.unsigned_of_stops (Rule.stops_cons digit), Option.bind_none]

/-- A delimiter ends all objects before it. -/
theorem ends_of_isDelimiter {b : UInt8} (delimiter : isDelimiter b) (solid : Token.isSolid b)
    (rest : Bytes) : Ends (b :: rest) := by
  have stop : isStop b := by simp [isStop, delimiter]
  refine ⟨fun first inside => ?_, ?_⟩
  · obtain rfl : b = first := by simpa using inside
    exact stop
  · exact mark_eq_none solid (eq_false_of_isStop stop (by decide +kernel)) rest

end Direct

/-! ## Reading back objects that hold no others -/

namespace Token

open Rule

variable {rest : Bytes}

theorem keyword_eq_none {b : UInt8} (ne : 0x6E ≠ b ∧ 0x74 ≠ b ∧ 0x66 ≠ b) (rest : Bytes) :
    keyword (b :: rest) = none := by
  have null : (ascii "null").head? = some 0x6E := by decide
  have true_ : (ascii "true").head? = some 0x74 := by decide
  have false_ : (ascii "false").head? = some 0x66 := by decide
  simp only [keyword, orElse_apply, bind_apply, literal_eq_none null ne.1,
    literal_eq_none true_ ne.2.1, literal_eq_none false_ ne.2.2, Option.bind_none, Option.or_none]

theorem reference_eq_none (stop : Stops isDigit rest) : reference rest = none := by
  rw [reference, bind_apply, objectNumber, unsigned_of_stops stop, Option.bind_none]

/-- A number is no reference unless a mark follows. -/
theorem reference_digits (value : Nat) (ends : Direct.Ends rest) :
    reference (Bytes.digits value ++ rest) = none := by
  have mark := ends.mark
  rw [reference, bind_apply, objectNumber, unsigned_append (Bytes.digits_ne_nil value)
    (fun _ => Bytes.isDigit_of_mem_digits) ends.stops_isDigit]
  split
  · -- Past the number, a reference goes on as its mark does.
    simp only [Direct.mark, bind_apply, Option.bind_eq_none_iff, Option.bind_some] at mark ⊢
    intro gap skipped generation read gap' skipped' found marked
    rw [mark gap skipped generation read gap' skipped'] at marked
    cases marked
  · rfl

/-- A sign is optional. -/
theorem sign_eq_nil {b : UInt8} (ne : b ≠ 0x2B ∧ b ≠ 0x2D) (rest : Bytes) :
    sign (b :: rest) = some ([], b :: rest) := by
  simp [sign, bind_apply, opt, byte, ne, pure_apply]

/-- Neither a number with a point nor one without. -/
theorem real_eq_none {b : UInt8}
    (ne : b ≠ 0x2B ∧ b ≠ 0x2D ∧ 0x2E ≠ b ∧ isDigit b = false) (rest : Bytes) :
    real (b :: rest) = none := by
  have point : (ascii ".").head? = some 0x2E := by decide
  rw [real, bind_apply, sign_eq_nil ⟨ne.1, ne.2.1⟩, Option.bind_some, bind_apply,
    run_of_stops (stops_cons ne.2.2.2), Option.bind_some, bind_apply,
    literal_eq_none point ne.2.2.1, Option.bind_none]

theorem integer_eq_none {b : UInt8} (ne : b ≠ 0x2B ∧ b ≠ 0x2D ∧ isDigit b = false)
    (rest : Bytes) : integer (b :: rest) = none := by
  rw [integer, bind_apply, sign_eq_nil ⟨ne.1, ne.2.1⟩, Option.bind_some, verify,
    run1_of_stops (stops_cons ne.2.2)]

/-- Digits begin with a digit. -/
theorem digits_eq_cons (value : Nat) :
    ∃ b others, Bytes.digits value = b :: others ∧ isDigit b := by
  cases spelled : Bytes.digits value with
  | nil => exact absurd spelled (Bytes.digits_ne_nil value)
  | cons b others =>
    refine ⟨b, others, rfl, Bytes.isDigit_of_mem_digits (show b ∈ Bytes.digits value from ?_)⟩
    rw [spelled]
    exact List.mem_cons_self

theorem blank_digits (value : Nat) (rest : Bytes) :
    blank (Bytes.digits value ++ rest) = some ((), Bytes.digits value ++ rest) := by
  obtain ⟨b, others, spelled, digit⟩ := digits_eq_cons value
  rw [spelled]
  exact blank_of_solid (isSolid_of_isDigit digit) _

/-- A digit is none of the bytes that are no digits. -/
theorem ne_of_isDigit {b other : UInt8} (digit : isDigit b) (none : isDigit other = false) :
    b ≠ other := by
  rintro rfl
  simp [digit] at none

/-- A whole number begins with its sign, and the digits of its size follow. -/
theorem sign_spellInteger (value : Int) (rest : Bytes) :
    ∃ mark size, sign (Object.spellInteger value ++ rest) = some (mark, Bytes.digits size ++ rest) ∧
      (if mark == [0x2D] then -(size : Int) else size) = value := by
  cases value with
  | ofNat size =>
    obtain ⟨b, others, spelled, digit⟩ := digits_eq_cons size
    refine ⟨[], size, ?_, rfl⟩
    rw [Object.spellInteger, spelled]
    exact sign_eq_nil ⟨ne_of_isDigit digit rfl, ne_of_isDigit digit rfl⟩ _
  | negSucc less => exact ⟨[0x2D], less + 1, rfl, rfl⟩

theorem real_spellInteger (value : Int) (ends : Direct.Ends rest) :
    real (Object.spellInteger value ++ rest) = none := by
  have point : literal "." rest = none := by
    cases rest with
    | nil => rfl
    | cons b rest =>
      have begins : (ascii ".").head? = some 0x2E := by decide
      exact literal_eq_none begins (ne_of_isStop (ends.head b rfl) (by decide)).symm rest
  obtain ⟨mark, size, signed, -⟩ := sign_spellInteger value rest
  rw [real, bind_apply, signed, Option.bind_some, bind_apply,
    run_append (fun _ => Bytes.isDigit_of_mem_digits) ends.stops_isDigit, Option.bind_some,
    bind_apply, point, Option.bind_none]

/-- A whole number of 64 bits is read back. -/
theorem integer_spellInteger {value : Int} (low : -(sizeOfBits 63 : Int) ≤ value)
    (high : value < sizeOfBits 63) (ends : Direct.Ends rest) :
    integer (Object.spellInteger value ++ rest) = some (value, rest) := by
  obtain ⟨mark, size, signed, same⟩ := sign_spellInteger value rest
  rw [integer, bind_apply, signed, Option.bind_some, verify,
    run1_append (Bytes.digits_ne_nil size) (fun _ => Bytes.isDigit_of_mem_digits)
      ends.stops_isDigit]
  simp only [Bytes.decimal_digits, same]
  rw [if_pos ⟨low, high⟩]
  rfl

theorem reference_spellInteger (value : Int) (ends : Direct.Ends rest) :
    reference (Object.spellInteger value ++ rest) = none := by
  cases value with
  | ofNat size => exact reference_digits size ends
  | negSucc less => exact reference_eq_none (stops_cons rfl)

theorem keyword_spellInteger (value : Int) (rest : Bytes) :
    keyword (Object.spellInteger value ++ rest) = none := by
  cases value with
  | ofNat size =>
    obtain ⟨b, others, spelled, digit⟩ := digits_eq_cons size
    rw [Object.spellInteger, spelled]
    exact keyword_eq_none ⟨(ne_of_isDigit digit rfl).symm, (ne_of_isDigit digit rfl).symm,
      (ne_of_isDigit digit rfl).symm⟩ _
  | negSucc less => exact keyword_eq_none (by decide) _

/-- A reference is read back. -/
theorem reference_spell {id : ObjectId} (number : id.number < sizeOfBits 32)
    (generation : id.generation < sizeOfBits 16) (rest : Bytes) :
    reference (Object.spell (.reference id) ++ rest) = some (.reference id, rest) := by
  have space (rest : Bytes) : Stops isDigit (0x20 :: rest) := stops_cons rfl
  have skipped (rest : Bytes) : blank (0x20 :: (Bytes.digits id.generation ++ rest)) =
      some ((), Bytes.digits id.generation ++ rest) :=
    (blank_cons rfl _).trans (blank_digits _ rest)
  have marked : blank (ascii " R" ++ rest) = some ((), ascii "R" ++ rest) := by
    have apart : ascii " R" = [0x20, 0x52] ∧ ascii "R" = [0x52] := by decide
    rw [apart.1, apart.2, List.cons_append, blank_cons rfl]
    exact blank_of_solid rfl rest
  have generation' : Token.generation (Bytes.digits id.generation ++ (ascii " R" ++ rest)) =
      some (id.generation, ascii " R" ++ rest) := by
    have apart : ascii " R" = [0x20, 0x52] := by decide
    rw [apart]
    exact unsigned_digits generation (space _)
  rw [Object.spell, List.append_assoc, List.append_assoc, List.cons_append, reference, bind_apply,
    objectNumber, unsigned_digits number (space _), Option.bind_some, bind_apply, skipped,
    Option.bind_some, bind_apply, generation', Option.bind_some, bind_apply, marked,
    Option.bind_some, bind_apply, literal_append, Option.bind_some]
  rfl

/-- The letters of a name are read up to the byte that ends it. -/
theorem nameLetters_append {letters : Bytes} (plain : ∀ b ∈ letters, isPlainInName b)
    (stop : ∀ b ∈ rest.head?, isStop b) (read : Bytes) :
    nameLetters read (letters ++ rest) = (read.reverse ++ letters, rest) := by
  induction letters generalizing read with
  | nil =>
    cases rest with
    | nil => simp [nameLetters]
    | cons b rest =>
      have ends : isPlainInName b = false := eq_false_of_isStop (stop b rfl) (by decide +kernel)
      rw [List.nil_append, nameLetters]
      · simp [ends]
      · rintro high low rest' rfl
        exact absurd rfl (ne_of_isStop (stop 0x23 rfl) (by decide))
  | cons b letters ih =>
    obtain ⟨first, later⟩ := List.forall_mem_cons.mp plain
    rw [List.cons_append, nameLetters]
    · rw [if_pos first, ih later]
      simp
    · rintro high low rest' rfl
      cases first

/-- A name is read back. -/
theorem name_append {letters : Bytes} (plain : ∀ b ∈ letters, isPlainInName b)
    (stop : ∀ b ∈ rest.head?, isStop b) : name (0x2F :: letters ++ rest) = some (letters, rest) := by
  have slash : literal "/" (0x2F :: (letters ++ rest)) = some ((), letters ++ rest) :=
    literal_append "/" _
  rw [name, bind_apply, List.cons_append, slash, Option.bind_some, nameLetters_append plain stop]
  rfl

end Token

/-- A number is the generation of a reference only where the mark follows. -/
theorem Direct.mark_digits (value : Nat) {rest others : Bytes} (stop : Rule.Stops isDigit rest)
    (skipped : Token.blank rest = some ((), others))
    (unmarked : Rule.literal "R" others = none) : mark (Bytes.digits value ++ rest) = none := by
  rw [mark, Rule.bind_apply, Token.blank_digits, Option.bind_some, Rule.bind_apply, Token.generation,
    Token.unsigned_append (Bytes.digits_ne_nil value) (fun _ => Bytes.isDigit_of_mem_digits) stop]
  split
  · rw [Option.bind_some, Rule.bind_apply, skipped, Option.bind_some, unmarked]
  · rfl

/-! ## Reading back lists and dictionaries -/

namespace Object

variable {object : Object} {items : List Object} {entries : List (Bytes × Object)} {rest : Bytes}

theorem spell_null : spell null = [0x6E, 0x75, 0x6C, 0x6C] := by decide

theorem spell_true : spell (boolean true) = [0x74, 0x72, 0x75, 0x65] := by decide

theorem spell_false : spell (boolean false) = [0x66, 0x61, 0x6C, 0x73, 0x65] := by decide

theorem spell_dictionary (entries : List (Bytes × Object)) :
    spell (dictionary ⟨entries⟩) = 0x3C :: 0x3C :: (spellEntries entries ++ ascii ">>") := by
  have opening : ascii "<<" = [0x3C, 0x3C] := by decide
  rw [spell, opening]
  rfl

/-- How a spelling begins: with no white space, with no mark of a reference, and where there is no
gap before it, with a delimiter. -/
theorem IsReadable.spell_eq_cons (readable : IsReadable object) :
    ∃ b others, spell object = b :: others ∧ Token.isSolid b ∧ b ≠ 0x52 ∧
      (object.needsGap = false → isDelimiter b) := by
  cases readable with
  | null => exact ⟨_, _, spell_null, rfl, by decide, by simp [needsGap]⟩
  | boolean value =>
    cases value
    · exact ⟨_, _, spell_false, rfl, by decide, by simp [needsGap]⟩
    · exact ⟨_, _, spell_true, rfl, by decide, by simp [needsGap]⟩
  | @integer value =>
    cases value with
    | ofNat size =>
      obtain ⟨b, others, spelled, digit⟩ := Token.digits_eq_cons size
      exact ⟨b, others, spelled, Token.isSolid_of_isDigit digit, Token.ne_of_isDigit digit rfl,
        by simp [needsGap]⟩
    | negSucc less => exact ⟨0x2D, _, rfl, rfl, by decide, by simp [needsGap]⟩
  | name => exact ⟨0x2F, _, rfl, rfl, by decide, fun _ => by decide⟩
  | string => exact ⟨0x28, _, rfl, rfl, by decide, fun _ => by decide⟩
  | array => exact ⟨0x5B, _, rfl, rfl, by decide, fun _ => by decide⟩
  | dictionary => exact ⟨_, _, spell_dictionary _, rfl, by decide, fun _ => by decide⟩
  | @reference id =>
    obtain ⟨b, others, spelled, digit⟩ := Token.digits_eq_cons id.number
    have begins : spell (Object.reference id) =
        b :: (others ++ 0x20 :: Bytes.digits id.generation ++ ascii " R") := by
      rw [spell, spelled]
      rfl
    exact ⟨_, _, begins, Token.isSolid_of_isDigit digit, Token.ne_of_isDigit digit rfl,
      by simp [needsGap]⟩

/-- White space before an object is passed over. -/
theorem blank_gap (readable : IsReadable object) (rest : Bytes) :
    Token.blank (object.gap ++ (spell object ++ rest)) = some ((), spell object ++ rest) := by
  obtain ⟨b, others, spelled, solid, -, -⟩ := readable.spell_eq_cons
  rw [spelled, gap]
  split
  · exact (Token.blank_cons rfl _).trans (Token.blank_of_solid solid _)
  · exact Token.blank_of_solid solid _

theorem head_gap (readable : IsReadable object) (rest : Bytes) :
    ∀ b ∈ (object.gap ++ (spell object ++ rest)).head?, isStop b := by
  obtain ⟨b, others, spelled, -, -, delimiter⟩ := readable.spell_eq_cons
  rw [spelled, gap]
  intro first inside
  split at inside
  · obtain rfl : 0x20 = first := by simpa using inside
    rfl
  · next none =>
    obtain rfl : b = first := by simpa using inside
    simp [isStop, delimiter (by simpa using none)]

theorem blank_spellMore (readable : ∀ item ∈ items, IsReadable item) :
    Token.blank (spellMore items ++ rest) = some ((), spellItems items ++ rest) := by
  cases items with
  | nil => exact Token.blank_of_solid rfl rest
  | cons item items =>
    rw [spellMore, spellItems, List.append_assoc, List.append_assoc, List.append_assoc]
    exact blank_gap (readable item List.mem_cons_self) _

theorem literal_spellItems (readable : ∀ item ∈ items, IsReadable item) :
    Rule.literal "R" (spellItems items ++ rest) = none := by
  have begins : (ascii "R").head? = some 0x52 := by decide
  cases items with
  | nil => exact Rule.literal_eq_none begins (by decide) _
  | cons item items =>
    obtain ⟨b, others, spelled, -, ne, -⟩ := (readable item List.mem_cons_self).spell_eq_cons
    rw [spellItems, spelled]
    exact Rule.literal_eq_none begins ne.symm _

theorem mark_gap (readable : IsReadable object) (rest : Bytes) :
    Direct.mark (object.gap ++ (spell object ++ rest)) = Direct.mark (spell object ++ rest) := by
  obtain ⟨b, others, spelled, solid, -, -⟩ := readable.spell_eq_cons
  rw [Direct.mark, Rule.bind_apply, Rule.bind_apply, blank_gap readable, spelled, List.cons_append,
    Token.blank_of_solid solid]

/-- What follows an object in a list does not go on with it. Only a number could be taken for the
generation of a reference, and no mark comes after it. -/
theorem ends_spellMore (readable : ∀ item ∈ items, IsReadable item) (rest : Bytes) :
    Direct.Ends (spellMore items ++ rest) := by
  induction items with
  | nil => exact Direct.ends_of_isDelimiter (by decide) rfl rest
  | cons item items ih =>
    obtain ⟨first, later⟩ := List.forall_mem_cons.mp readable
    rw [spellMore, List.append_assoc, List.append_assoc]
    refine ⟨head_gap first _, ?_⟩
    rw [mark_gap first]
    cases first with
    | null =>
      rw [spell_null]
      exact Direct.mark_eq_none rfl rfl _
    | boolean value =>
      cases value
      · rw [spell_false]
        exact Direct.mark_eq_none rfl rfl _
      · rw [spell_true]
        exact Direct.mark_eq_none rfl rfl _
    | name => exact Direct.mark_eq_none rfl rfl _
    | string => exact Direct.mark_eq_none rfl rfl _
    | array => exact Direct.mark_eq_none rfl rfl _
    | dictionary =>
      rw [spell_dictionary]
      exact Direct.mark_eq_none rfl rfl _
    | @integer value =>
      cases value with
      | negSucc less => exact Direct.mark_eq_none rfl rfl _
      | ofNat size =>
        exact Direct.mark_digits size (ih later).stops_isDigit (blank_spellMore later)
          (literal_spellItems later)
    | @reference id =>
      -- Its number is followed by that of a generation, so by a digit.
      have unmarked (rest : Bytes) :
          Rule.literal "R" (Bytes.digits id.generation ++ rest) = none := by
        have begins : (ascii "R").head? = some 0x52 := by decide
        obtain ⟨b, others, spelled, digit⟩ := Token.digits_eq_cons id.generation
        rw [spelled]
        exact Rule.literal_eq_none begins (Token.ne_of_isDigit digit rfl).symm _
      rw [spell, List.append_assoc, List.append_assoc, List.cons_append]
      exact Direct.mark_digits id.number (Rule.stops_cons rfl)
        ((Token.blank_cons rfl _).trans (Token.blank_digits _ _)) (unmarked _)

end Object

namespace Direct

open Object

variable {items : List Object} {entries : List (Bytes × Object)} {rest : Bytes}

theorem object_succ (budget : Nat) (bytes : Bytes) :
    object (budget + 1) bytes = (Token.keyword bytes).or ((Token.reference bytes).or
      ((Token.scalar bytes).or (compoundOf (object budget) budget bytes))) := by
  simp only [object, Rule.orElse_apply]

theorem scalar_eq (bytes : Bytes) :
    Token.scalar bytes = ((Token.real bytes).map fun found => (.real found.1, found.2)).or
      (((Token.integer bytes).map fun found => (.integer found.1, found.2)).or
      (((Token.name bytes).map fun found => (.name found.1, found.2)).or
      (((Token.literalString bytes).map fun found => (.string found.1, found.2)).or
      ((Token.hexString bytes).map fun found => (.string found.1, found.2))))) := by
  simp only [Token.scalar, Rule.orElse_apply, Rule.map_apply]

/-- Bytes that no word, no reference and no number begins with. -/
theorem object_of_mark {b : UInt8} (other : 0x6E ≠ b ∧ 0x74 ≠ b ∧ 0x66 ≠ b ∧ b ≠ 0x2B ∧ b ≠ 0x2D ∧
    0x2E ≠ b ∧ isDigit b = false) (budget : Nat) (rest : Bytes) :
    object (budget + 1) (b :: rest) =
      (((Token.name (b :: rest)).map fun found => (Object.name found.1, found.2)).or
      (((Token.literalString (b :: rest)).map fun found => (.string found.1, found.2)).or
      ((Token.hexString (b :: rest)).map fun found => (.string found.1, found.2)))).or
      (compoundOf (object budget) budget (b :: rest)) := by
  obtain ⟨n, t, f, plus, minus, point, digit⟩ := other
  rw [object_succ, Token.keyword_eq_none ⟨n, t, f⟩,
    Token.reference_eq_none (Rule.stops_cons digit), scalar_eq,
    Token.real_eq_none ⟨plus, minus, point, digit⟩, Token.integer_eq_none ⟨plus, minus, digit⟩]
  rfl

/-- No object begins with a closing bracket. -/
theorem object_bracket (budget : Nat) (rest : Bytes) : object budget (0x5D :: rest) = none := by
  cases budget with
  | zero => rfl
  | succ budget => rw [object_of_mark (by decide)]; rfl

/-- A rule that reads the spelling of an object back, whatever ends it. -/
def Reads (rule : Rule Object) (object : Object) : Prop :=
  ∀ rest, Ends rest → rule (spell object ++ rest) = some (object, rest)

/-- The objects of a list are read one after the other. -/
theorem manyAfter_spellItems {element : Rule Object} (readable : ∀ item ∈ items, IsReadable item)
    (reads : ∀ item ∈ items, Reads element item) (stop : element (0x5D :: rest) = none)
    {budget : Nat} (enough : items.length ≤ budget) (read : List Object) :
    Rule.manyAfter (element <* Token.blank) budget read (spellItems items ++ rest) =
      some (read.reverse ++ items, 0x5D :: rest) := by
  -- By induction on the items, each of which uses up one of the budget.
  induction items generalizing budget read with
  | nil =>
    cases budget with
    | zero => simp [Rule.manyAfter, spellItems]
    | succ budget => simp [Rule.manyAfter, spellItems, Rule.seqLeft_apply, stop]
  | cons item items ih =>
    obtain ⟨budget, rfl⟩ : ∃ less, budget = less + 1 := ⟨budget - 1, by simp at enough; omega⟩
    obtain ⟨-, later⟩ := List.forall_mem_cons.mp readable
    obtain ⟨first, others⟩ := List.forall_mem_cons.mp reads
    have taken : (element <* Token.blank) (spellItems (item :: items) ++ rest) =
        some (item, spellItems items ++ rest) := by
      rw [spellItems, List.append_assoc, Rule.seqLeft_apply, first _ (ends_spellMore later rest),
        Option.bind_some, blank_spellMore later]
      rfl
    simp only [Rule.manyAfter, taken]
    rw [ih later others (by simpa using enough)]
    simp

/-- The rule for an entry of a dictionary. -/
def pair (element : Rule Object) : Rule (Bytes × Object) := do
  let key ← Token.name
  Token.blank
  let value ← element
  Token.blank
  return (key, value)

/-- Bytes that an entry of a dictionary does not go on into, and that are not passed over. -/
structure Closes (rest : Bytes) : Prop where
  begins : ∃ b others, rest = b :: others ∧ isDelimiter b ∧ Token.isSolid b

theorem closes_spellEntries (closes : Closes rest) : Closes (spellEntries entries ++ rest) := by
  cases entries with
  | nil => exact closes
  | cons entry entries => exact ⟨0x2F, _, rfl, by decide, rfl⟩

theorem Closes.ends (closes : Closes rest) : Ends rest := by
  obtain ⟨b, others, rfl, delimiter, solid⟩ := closes.begins
  exact ends_of_isDelimiter delimiter solid others

theorem Closes.blank (closes : Closes rest) : Token.blank rest = some ((), rest) := by
  obtain ⟨b, others, rfl, delimiter, solid⟩ := closes.begins
  exact Token.blank_of_solid solid others

theorem pair_append {element : Rule Object} {key : Bytes} {value : Object}
    (plain : ∀ b ∈ key, Token.isPlainInName b) (readable : IsReadable value)
    (reads : Reads element value) (closes : Closes rest) :
    pair element (0x2F :: key ++ (value.gap ++ (spell value ++ rest))) =
      some ((key, value), rest) := by
  rw [pair, Rule.bind_apply, Token.name_append plain (head_gap readable rest), Option.bind_some,
    Rule.bind_apply, blank_gap readable, Option.bind_some, Rule.bind_apply,
    reads rest closes.ends, Option.bind_some, Rule.bind_apply, closes.blank, Option.bind_some]
  rfl

/-- The entries of a dictionary are read one after the other, up to where none stands. -/
theorem manyAfter_spellEntries {element : Rule Object}
    (plain : ∀ entry ∈ entries, ∀ b ∈ entry.1, Token.isPlainInName b)
    (readable : ∀ entry ∈ entries, IsReadable entry.2)
    (reads : ∀ entry ∈ entries, Reads element entry.2) (closes : Closes rest)
    (stop : pair element rest = none) {budget : Nat} (enough : entries.length ≤ budget)
    (read : List (Bytes × Object)) :
    Rule.manyAfter (pair element) budget read (spellEntries entries ++ rest) =
      some (read.reverse ++ entries, rest) := by
  -- By induction on the entries, as for the items of an array.
  induction entries generalizing budget read with
  | nil =>
    cases budget with
    | zero => simp [Rule.manyAfter, spellEntries]
    | succ budget => simp [Rule.manyAfter, spellEntries, stop]
  | cons entry entries ih =>
    obtain ⟨key, value⟩ := entry
    obtain ⟨budget, rfl⟩ : ∃ less, budget = less + 1 := ⟨budget - 1, by simp at enough; omega⟩
    obtain ⟨plainFirst, plainLater⟩ := List.forall_mem_cons.mp plain
    obtain ⟨readableFirst, readableLater⟩ := List.forall_mem_cons.mp readable
    obtain ⟨first, later⟩ := List.forall_mem_cons.mp reads
    have taken : pair element (spellEntries ((key, value) :: entries) ++ rest) =
        some ((key, value), spellEntries entries ++ rest) := by
      rw [spellEntries, List.append_assoc, List.append_assoc, List.append_assoc]
      exact pair_append plainFirst readableFirst first (closes_spellEntries closes)
    simp only [Rule.manyAfter, taken]
    rw [ih plainLater readableLater later (by simpa using enough)]
    simp

/-! ## How long spellings are -/

theorem length_spell_pos {value : Object} (readable : IsReadable value) :
    0 < (spell value).length := by
  obtain ⟨b, others, spelled, -⟩ := readable.spell_eq_cons
  simp [spelled]

theorem length_spellMore (readable : ∀ item ∈ items, IsReadable item) :
    items.length < (spellMore items).length ∧
      ∀ item ∈ items, (spell item).length < (spellMore items).length := by
  induction items with
  | nil => simp [spellMore]
  | cons item items ih =>
    obtain ⟨first, later⟩ := List.forall_mem_cons.mp readable
    obtain ⟨count, each⟩ := ih later
    have pos := length_spell_pos first
    simp only [spellMore, List.length_append, List.length_cons, List.mem_cons, forall_eq_or_imp]
    refine ⟨by omega, by omega, fun item inside => ?_⟩
    have := each item inside
    omega

theorem length_spellItems (readable : ∀ item ∈ items, IsReadable item) :
    items.length < (spellItems items).length ∧
      ∀ item ∈ items, (spell item).length < (spellItems items).length := by
  cases items with
  | nil => simp [spellItems]
  | cons item items =>
    obtain ⟨first, later⟩ := List.forall_mem_cons.mp readable
    obtain ⟨count, each⟩ := length_spellMore later
    have pos := length_spell_pos first
    simp only [spellItems, List.length_append, List.length_cons, List.mem_cons, forall_eq_or_imp]
    refine ⟨by omega, by omega, fun item inside => ?_⟩
    have := each item inside
    omega

theorem length_spellEntries (entries : List (Bytes × Object)) :
    entries.length ≤ (spellEntries entries).length ∧
      ∀ entry ∈ entries, (spell entry.2).length ≤ (spellEntries entries).length := by
  induction entries with
  | nil => simp [spellEntries]
  | cons entry entries ih =>
    obtain ⟨key, value⟩ := entry
    obtain ⟨count, each⟩ := ih
    simp only [spellEntries, List.length_append, List.length_cons, List.mem_cons, forall_eq_or_imp]
    refine ⟨by omega, by omega, fun item inside => ?_⟩
    have := each item inside
    omega

/-! ## Reading back any object -/

theorem arrayOf_spellItems {element : Rule Object} (readable : ∀ item ∈ items, IsReadable item)
    (reads : ∀ item ∈ items, Reads element item)
    (stop : ∀ rest, element (0x5D :: rest) = none) {budget : Nat} (enough : items.length ≤ budget)
    (rest : Bytes) :
    arrayOf element budget (0x5B :: spellItems items ++ rest) = some (items, rest) := by
  have opened : Rule.literal "[" (0x5B :: (spellItems items ++ rest)) =
      some ((), spellItems items ++ rest) := Rule.literal_append "[" _
  have closed : Rule.literal "]" (0x5D :: rest) = some ((), rest) := Rule.literal_append "]" _
  have skipped : Token.blank (spellItems items ++ rest) = some ((), spellItems items ++ rest) := by
    cases items with
    | nil => exact Token.blank_of_solid rfl rest
    | cons item items =>
      obtain ⟨b, others, spelled, solid, -⟩ := (readable item List.mem_cons_self).spell_eq_cons
      rw [spellItems, spelled]
      exact Token.blank_of_solid solid _
  rw [arrayOf, Rule.bind_apply, List.cons_append, opened, Option.bind_some, Rule.bind_apply,
    skipped, Option.bind_some, Rule.bind_apply, Rule.many,
    manyAfter_spellItems readable reads (stop rest) enough, Option.bind_some, Rule.bind_apply,
    closed, Option.bind_some]
  rfl

theorem pair_bracket (element : Rule Object) (rest : Bytes) : pair element (0x3E :: rest) = none :=
  rfl

theorem dictionaryOf_spell {element : Rule Object} (distinct : (entries.map Prod.fst).Nodup)
    (plain : ∀ entry ∈ entries, ∀ b ∈ entry.1, Token.isPlainInName b)
    (readable : ∀ entry ∈ entries, IsReadable entry.2)
    (reads : ∀ entry ∈ entries, Reads element entry.2) {budget : Nat}
    (enough : entries.length ≤ budget) (rest : Bytes) :
    dictionaryOf element budget (spell (.dictionary ⟨entries⟩) ++ rest) = some (⟨entries⟩, rest) := by
  have closing : ascii ">>" = [0x3E, 0x3E] := by decide
  have closes : Closes (ascii ">>" ++ rest) := by
    rw [closing]
    exact ⟨0x3E, _, rfl, by decide, rfl⟩
  have stop : pair element (ascii ">>" ++ rest) = none := by
    rw [closing]
    exact pair_bracket element _
  have pairs : Rule.many (pair element) budget (spellEntries entries ++ (ascii ">>" ++ rest)) =
      some (entries, ascii ">>" ++ rest) :=
    manyAfter_spellEntries plain readable reads closes stop enough []
  have read : entriesOf element budget (spellEntries entries ++ (ascii ">>" ++ rest)) =
      some (⟨entries⟩, ascii ">>" ++ rest) := by
    rw [entriesOf, Rule.bind_apply]
    change (Rule.many (pair element) budget _).bind _ = _
    rw [pairs, Option.bind_some, Dictionary.ofEntries_of_nodup distinct]
    rfl
  rw [spell, List.append_assoc, List.append_assoc, dictionaryOf, Rule.bind_apply,
    Rule.literal_append, Option.bind_some, Rule.bind_apply,
    (closes_spellEntries closes).blank, Option.bind_some, Rule.bind_apply, read,
    Option.bind_some, Rule.bind_apply, Rule.literal_append, Option.bind_some]
  rfl

theorem compoundOf_array {element : Rule Object} {budget : Nat} {bytes : Bytes}
    (read : arrayOf element budget bytes = some (items, rest)) :
    compoundOf element budget bytes = some (.array items, rest) := by
  rw [compoundOf, Rule.orElse_apply, Rule.map_apply, read]
  rfl

theorem compoundOf_dictionary {element : Rule Object} {budget : Nat} {bytes : Bytes} {found : Dict}
    (none : arrayOf element budget bytes = none)
    (read : dictionaryOf element budget bytes = some (found, rest)) :
    compoundOf element budget bytes = some (.dictionary found, rest) := by
  rw [compoundOf, Rule.orElse_apply, Rule.map_apply, none, Rule.map_apply, read]
  rfl

section Kinds

variable {budget : Nat}

theorem reads_integer {value : Int} (low : -(sizeOfBits 63 : Int) ≤ value)
    (high : value < sizeOfBits 63) : Reads (object (budget + 1)) (.integer value) := by
  intro rest ends
  rw [spell, object_succ, Token.keyword_spellInteger, Token.reference_spellInteger _ ends,
    scalar_eq, Token.real_spellInteger _ ends, Token.integer_spellInteger low high ends]
  rfl

theorem reads_reference {id : ObjectId} (number : id.number < sizeOfBits 32)
    (generation : id.generation < sizeOfBits 16) :
    Reads (object (budget + 1)) (.reference id) := by
  intro rest ends
  have word : Token.keyword (spell (.reference id) ++ rest) = none := by
    obtain ⟨b, others, spelled, digit⟩ := Token.digits_eq_cons id.number
    rw [spell, spelled]
    exact Token.keyword_eq_none ⟨(Token.ne_of_isDigit digit rfl).symm,
      (Token.ne_of_isDigit digit rfl).symm, (Token.ne_of_isDigit digit rfl).symm⟩ _
  rw [object_succ, word, Token.reference_spell number generation]
  rfl

theorem reads_name {letters : Bytes} (plain : ∀ b ∈ letters, Token.isPlainInName b) :
    Reads (object (budget + 1)) (.name letters) := by
  intro rest ends
  rw [spell, List.cons_append, object_of_mark (by decide), ← List.cons_append,
    Token.name_append plain ends.head]
  rfl

theorem reads_string {bytes : Bytes} (few : bytes.count 0x28 ≤ Token.maxNesting) :
    Reads (object (budget + 1)) (.string bytes) := by
  intro rest ends
  have spelled : spell (.string bytes) ++ rest =
      0x28 :: (Literal.spell 0 bytes ++ 0x29 :: rest) := by
    simp [spell]
  have unnamed : Token.name (0x28 :: (Literal.spell 0 bytes ++ 0x29 :: rest)) = none := rfl
  rw [spelled, object_of_mark (by decide), unnamed, ← List.cons_append,
    Token.literalString_spell few rest]
  rfl

theorem reads_array (readable : ∀ item ∈ items, IsReadable item)
    (reads : ∀ item ∈ items, Reads (object budget) item) (enough : items.length ≤ budget) :
    Reads (object (budget + 1)) (.array items) := by
  intro rest ends
  have read : arrayOf (object budget) budget (0x5B :: spellItems items ++ rest) =
      some (items, rest) :=
    arrayOf_spellItems readable reads (object_bracket budget) enough rest
  rw [spell, List.cons_append, object_of_mark (by decide), ← List.cons_append,
    compoundOf_array read]
  rfl

theorem reads_dictionary (distinct : (entries.map Prod.fst).Nodup)
    (plain : ∀ entry ∈ entries, ∀ b ∈ entry.1, Token.isPlainInName b)
    (readable : ∀ entry ∈ entries, IsReadable entry.2)
    (reads : ∀ entry ∈ entries, Reads (object budget) entry.2)
    (enough : entries.length ≤ budget) :
    Reads (object (budget + 1)) (.dictionary ⟨entries⟩) := by
  intro rest ends
  have read := dictionaryOf_spell distinct plain readable reads enough rest
  rw [spell_dictionary] at read ⊢
  have unlisted : arrayOf (object budget) budget
      (0x3C :: 0x3C :: (spellEntries entries ++ ascii ">>") ++ rest) = none := rfl
  rw [List.cons_append, object_of_mark (by decide), ← List.cons_append,
    compoundOf_dictionary unlisted read]
  rfl

end Kinds

/-- A readable object is read back from its spelling. -/
theorem object_spell {value : Object} (readable : IsReadable value) {budget : Nat}
    (enough : (spell value).length ≤ budget) : Reads (object budget) value := by
  -- By induction on the budget, for all objects: what an object holds is read with a smaller one.
  induction budget using Nat.strongRecOn generalizing value with
  | ind budget ih =>
  obtain ⟨budget, rfl⟩ : ∃ less, budget = less + 1 :=
    ⟨budget - 1, by have := length_spell_pos readable; omega⟩
  -- What an object holds is shorter by a byte at least, so the smaller budget is enough.
  have inner {value : Object} (readable : IsReadable value)
      (shorter : (spell value).length ≤ budget) : Reads (object budget) value :=
    ih budget (Nat.lt_succ_self budget) readable shorter
  cases readable with
  | null =>
    intro rest ends
    rw [spell_null]
    rfl
  | boolean value =>
    intro rest ends
    cases value
    · rw [spell_false]
      rfl
    · rw [spell_true]
      rfl
  | integer low high => exact reads_integer low high
  | reference number generation => exact reads_reference number generation
  | name plain => exact reads_name plain
  | string few => exact reads_string few
  | array readable =>
    rw [spell, List.length_cons] at enough
    obtain ⟨count, each⟩ := length_spellItems readable
    exact reads_array readable (fun item inside =>
      inner (readable item inside) (by have := each item inside; omega)) (by omega)
  | @dictionary entries distinct plain readable =>
    rw [spell_dictionary, List.length_cons, List.length_cons, List.length_append] at enough
    obtain ⟨count, each⟩ := length_spellEntries entries
    exact reads_dictionary distinct plain readable (fun entry inside =>
      inner (readable entry inside) (by have := each entry inside; omega)) (by omega)

end Direct

end PdfText

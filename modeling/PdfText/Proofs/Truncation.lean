import PdfText.Proofs.Saving
import PdfText.Proofs.Stored

/-!
# Dictionaries that are cut off

A file that is encrypted is cut up at the words `endobj`, and the word can stand in a string of its
encryption dictionary. What is left then ends in a string that is not closed. Such a string is not
read, nor is any object that ends with it, so that the file has no encryption dictionary.

## Main results

* `Token.stringBytes_take` — a string that is cut off is not read
* `Indirect.read?_cut_string` — nor is an object that is cut off in one of its strings
* `Layout.cutAt?_of_string` — what a file that was cut up shows of such an object
-/

namespace PdfText

/-! ## Strings that are cut off -/

/-- A mark without the byte that it marks is not read. -/
theorem Token.stringBytes_take_spelledAs {level next count : Nat} {b : UInt8} {rest spelled : Bytes}
    (step : Literal.SpelledAs rest level b spelled next) (short : count < spelled.length)
    (read : Bytes) : stringBytes level read 0 (spelled.take count) = none := by
  cases step with
  | marked =>
    rcases count with _ | _ | count
    · rfl
    · rfl
    · exact absurd short (by simp)
  | _ =>
    obtain rfl : count = 0 := by simpa using short
    rfl

/-- The part of a string in front of its last parenthesis is not read. -/
theorem Token.stringBytes_take (level : Nat) (bytes read : Bytes) (count : Nat) :
    stringBytes level read 0 ((Literal.spell level bytes).take count) = none := by
  -- By induction on the bytes. The end is reached before the last parenthesis, either in the spelling
  -- of the first byte or after it.
  induction bytes generalizing level read count with
  | nil => simp [Literal.spell, stringBytes]
  | cons b rest ih =>
    obtain ⟨spelled, next, step, same⟩ := Literal.spell_cons level b rest
    rw [same]
    rcases Nat.lt_or_ge count spelled.length with short | long
    · rw [List.take_append_of_le_length (Nat.le_of_lt short)]
      exact stringBytes_take_spelledAs step short read
    · obtain ⟨more, rfl⟩ := Nat.exists_eq_add_of_le long
      rw [List.take_length_add_append]
      rcases stringBytes_spelledAs step read ((Literal.spell next rest).take more) with
        taken | ⟨-, -, fails⟩
      · rw [taken]
        exact ih next (b :: read) more
      · exact fails

/-! ## Dictionaries that are cut off -/

namespace Direct

open Object

variable {entries : List (Bytes × Object)} {key rest : Bytes}

/-- Where a string is not read, no object is. -/
theorem object_unread (unread : Token.stringBytes 0 [] 0 rest = none) (budget : Nat) :
    object budget (0x28 :: rest) = none := by
  cases budget with
  | zero => rfl
  | succ budget =>
    have literal : Token.literalString (0x28 :: rest) = none := unread
    rw [object_of_mark (by decide), literal]
    rfl

/-- Where the string of an entry is not read, the entry is not. -/
theorem pair_unread (plain : ∀ b ∈ key, Token.isPlainInName b)
    (unread : Token.stringBytes 0 [] 0 rest = none) (budget : Nat) :
    pair (object budget) (0x2F :: key ++ 0x28 :: rest) = none := by
  have head : ∀ b ∈ (0x28 :: rest).head?, isStop b := by
    intro b inside
    obtain rfl : (0x28 : UInt8) = b := by simpa using inside
    decide
  rw [pair, Rule.bind_apply, Token.name_append plain head, Option.bind_some, Rule.bind_apply,
    Token.blank_of_solid (by decide), Option.bind_some, Rule.bind_apply, object_unread unread,
    Option.bind_none]

/-- Where the string of an entry is not read, the dictionary is not. -/
theorem dictionary_unread (plain : ∀ entry ∈ entries, ∀ b ∈ entry.1, Token.isPlainInName b)
    (readable : ∀ entry ∈ entries, IsReadable entry.2)
    (plainKey : ∀ b ∈ key, Token.isPlainInName b)
    (unread : Token.stringBytes 0 [] 0 rest = none) {budget : Nat}
    (enough : (spellEntries entries).length ≤ budget) :
    dictionary budget (ascii "<<" ++ (spellEntries entries ++ (0x2F :: key ++ 0x28 :: rest))) =
      none := by
  have closes : Closes (0x2F :: key ++ 0x28 :: rest) := ⟨0x2F, _, rfl, by decide, rfl⟩
  obtain ⟨count, each⟩ := length_spellEntries entries
  have reads : ∀ entry ∈ entries, Reads (object budget) entry.2 := by
    intro entry inside
    exact object_spell (readable entry inside) (by have := each entry inside; omega)
  have pairs : Rule.many (pair (object budget)) budget
      (spellEntries entries ++ (0x2F :: key ++ 0x28 :: rest)) =
      some (entries, 0x2F :: key ++ 0x28 :: rest) :=
    manyAfter_spellEntries plain readable reads closes (pair_unread plainKey unread budget)
      (by omega) []
  have read : entriesOf (object budget) budget
      (spellEntries entries ++ (0x2F :: key ++ 0x28 :: rest)) =
      some (Dictionary.ofEntries entries, 0x2F :: key ++ 0x28 :: rest) := by
    rw [entriesOf, Rule.bind_apply]
    change (Rule.many (pair (object budget)) budget _).bind _ = _
    rw [pairs, Option.bind_some]
    rfl
  rw [dictionary, dictionaryOf, Rule.bind_apply, Rule.literal_append, Option.bind_some,
    Rule.bind_apply, (closes_spellEntries closes).blank, Option.bind_some, Rule.bind_apply, read,
    Option.bind_some]
  rfl

/-- Where no dictionary is read after its opening, no object is. -/
theorem object_of_dictionary_unread {budget : Nat}
    (unread : dictionary budget (0x3C :: 0x3C :: rest) = none) :
    object (budget + 1) (0x3C :: 0x3C :: rest) = none := by
  have array : arrayOf (object budget) budget (0x3C :: 0x3C :: rest) = none := rfl
  rw [dictionary] at unread
  rw [object_of_mark (by decide), compoundOf, Rule.orElse_apply, Rule.map_apply, Rule.map_apply,
    array, unread]
  rfl

end Direct

/-! ## Objects that are cut off -/

section Cut

variable {entries : List (Bytes × Object)} {key bytes : Bytes} {id : ObjectId}
variable {lengthOf : ObjectId → Option Int}

/-- A dictionary up to the opening parenthesis of a string. -/
def Object.spellOpen (entries : List (Bytes × Object)) (key : Bytes) : Bytes :=
  ascii "<<" ++ (spellEntries entries ++ (0x2F :: key ++ [0x28]))

open Object

theorem Object.spellOpen_append (entries : List (Bytes × Object)) (key rest : Bytes) :
    spellOpen entries key ++ rest =
      ascii "<<" ++ (spellEntries entries ++ (0x2F :: key ++ 0x28 :: rest)) := by
  simp [spellOpen]

theorem Object.spellOpen_append_eq_cons (entries : List (Bytes × Object)) (key rest : Bytes) :
    ∃ others, spellOpen entries key ++ rest = 0x3C :: 0x3C :: others := by
  have word : ascii "<<" = [0x3C, 0x3C] := by decide
  rw [spellOpen_append, word]
  exact ⟨_, rfl⟩

theorem Indirect.body?_cut_string
    (plain : ∀ entry ∈ entries, ∀ b ∈ entry.1, Token.isPlainInName b)
    (readable : ∀ entry ∈ entries, IsReadable entry.2)
    (plainKey : ∀ b ∈ key, Token.isPlainInName b) (id : ObjectId) (bytes : Bytes) (count : Nat) :
    body? lengthOf id (spellOpen entries key ++ (Literal.spell 0 bytes).take count) = none := by
  have unread := Token.stringBytes_take 0 bytes [] count
  generalize (Literal.spell 0 bytes).take count = rest at unread
  have long : (spellEntries entries).length ≤ (spellOpen entries key ++ rest).length := by
    rw [spellOpen_append, List.length_append, List.length_append]
    omega
  -- Neither a dictionary nor any other object is read.
  have noDictionary {budget : Nat} (enough : (spellEntries entries).length ≤ budget) :
      Direct.dictionary budget (spellOpen entries key ++ rest) = none := by
    rw [spellOpen_append]
    exact Direct.dictionary_unread plain readable plainKey unread enough
  have noObject {budget : Nat} (enough : (spellEntries entries).length ≤ budget) :
      Direct.object (budget + 1) (spellOpen entries key ++ rest) = none := by
    have none := noDictionary enough
    obtain ⟨others, spelled⟩ := spellOpen_append_eq_cons entries key rest
    rw [spelled] at none ⊢
    exact Direct.object_of_dictionary_unread none
  simp only [body?, Rule.value?]
  rw [noDictionary (by omega), noObject long]
  rfl

/-- An object that is cut off in one of its strings is not read. -/
theorem Indirect.read?_cut_string
    (plain : ∀ entry ∈ entries, ∀ b ∈ entry.1, Token.isPlainInName b)
    (readable : ∀ entry ∈ entries, IsReadable entry.2)
    (plainKey : ∀ b ∈ key, Token.isPlainInName b) (number : id.number < sizeOfBits 32)
    (generation : id.generation < sizeOfBits 16) (bytes : Bytes) (count : Nat) :
    read? lengthOf (spellId id ++ (spellOpen entries key ++ (Literal.spell 0 bytes).take count)) =
      none := by
  have unread : body? lengthOf id (spellOpen entries key ++ (Literal.spell 0 bytes).take count) =
      none := body?_cut_string plain readable plainKey id bytes count
  obtain ⟨others, spelled⟩ :=
    spellOpen_append_eq_cons entries key ((Literal.spell 0 bytes).take count)
  rw [spelled] at unread ⊢
  rw [read?, header_spellId number generation (by decide)]
  exact unread

/-- Nothing is found where the word `endobj` stands in a string of a dictionary, but not before. -/
theorem Layout.cutAt?_of_string {layout : Layout} {offset : Nat} {rest : Bytes}
    (written : layout.bytesFrom offset =
      Indirect.spellId id ++ (spellOpen entries key ++ (Literal.spell 0 bytes ++ rest)))
    (plain : ∀ entry ∈ entries, ∀ b ∈ entry.1, Token.isPlainInName b)
    (readable : ∀ entry ∈ entries, IsReadable entry.2)
    (plainKey : ∀ b ∈ key, Token.isPlainInName b) (number : id.number < sizeOfBits 32)
    (generation : id.generation < sizeOfBits 16)
    (misses : Bytes.Misses RawObjects.ending (spellOpen entries key))
    (held : RawObjects.ending <:+: Literal.spell 0 bytes) : layout.cutAt? offset = none := by
  obtain ⟨place, inside, found⟩ := Bytes.exists_find?_of_inside (by decide) held rest
  have missed : Bytes.Misses RawObjects.ending (Indirect.spellId id ++ spellOpen entries key) :=
    (RawObjects.misses_spellId id).append misses
  have first : (Indirect.spellId id ++ (spellOpen entries key ++ (Literal.spell 0 bytes ++ rest))).find?
      RawObjects.ending = some ((Indirect.spellId id ++ spellOpen entries key).length + place) := by
    rw [← List.append_assoc, missed.find?_append, found]
    rfl
  have cut : RawObjects.cut (layout.bytesFrom offset) = some (id, Indirect.spellId id ++
      (spellOpen entries key ++ (Literal.spell 0 bytes).take (place + RawObjects.ending.length))) := by
    rw [written, RawObjects.cut, RawObjects.header_spellId number generation, Option.map_some, first]
    simp only
    rw [Nat.add_assoc, ← List.append_assoc, List.take_length_add_append,
      List.take_append_of_le_length inside, List.append_assoc]
  rw [cutAt?, cut, Option.bind_some, Indirect.read?_cut_string plain readable plainKey number
    generation]
  rfl

end Cut

end PdfText

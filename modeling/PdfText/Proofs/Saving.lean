import PdfText.Proofs.Spelling
import PdfText.Proofs.Words
import PdfText.Security.Opening

/-!
# Writing indirect objects

An object that stands on its own in a file is written with its id before it and the word `endobj`
after it. It is read back from where it was written, whatever comes after it.

A file that is encrypted is cut at the words `endobj` before its objects are read. An object is cut
as a whole unless that word stands in its own spelling. A stream in whose body the word stands
loses its body.

## Main definitions

* `Object.IsStorable` — objects that can be written on their own: dictionaries and streams
* `Indirect.spell` — an object with its id and its end

## Main results

* `Indirect.read?_spell` — an object is read back from where it was written
* `RawObjects.cut_spell`, `RawObjects.cut_of_inside` — what is cut out for it
-/

namespace PdfText

/-! ## Ids -/

namespace Indirect

/-- An id and the word `obj`. -/
def spellId (id : ObjectId) : Bytes :=
  Bytes.digits id.number ++ 0x20 :: (Bytes.digits id.generation ++ ascii " obj\n")

variable {id : ObjectId} {b : UInt8} {rest : Bytes}

/-- An id is read back, up to the object after it. -/
theorem header_spellId (number : id.number < sizeOfBits 32) (generation : id.generation < sizeOfBits 16)
    (solid : Token.isSolid b) :
    header (spellId id ++ b :: rest) = some (id, b :: rest) := by
  have word : ascii " obj\n" = 0x20 :: (ascii "obj" ++ [0x0A]) := by decide
  have solidWord : Token.blank (ascii "obj" ++ 0x0A :: b :: rest) =
      some ((), ascii "obj" ++ 0x0A :: b :: rest) := by
    have spelled : ascii "obj" = [0x6F, 0x62, 0x6A] := by decide
    rw [spelled]
    exact Token.blank_of_solid rfl _
  have space (rest : Bytes) : Rule.Stops isDigit (0x20 :: rest) := Rule.stops_cons rfl
  rw [spellId, word, List.append_assoc, List.cons_append, List.append_assoc, List.cons_append,
    List.append_assoc, List.singleton_append, header, Rule.bind_apply, Token.blank_digits,
    Option.bind_some, Rule.bind_apply, Token.objectNumber, Token.unsigned_digits number (space _),
    Option.bind_some, Rule.bind_apply, Token.blank_cons rfl, Token.blank_digits, Option.bind_some,
    Rule.bind_apply, Token.generation, Token.unsigned_digits generation (space _),
    Option.bind_some, Rule.bind_apply, Token.blank_cons rfl, solidWord, Option.bind_some,
    Rule.bind_apply, Rule.literal_append, Option.bind_some, Rule.bind_apply, Token.blank_cons rfl,
    Token.blank_of_solid solid, Option.bind_some]
  rfl

end Indirect

namespace RawObjects

variable {id : ObjectId}

theorem isGap_of_isDigit {b : UInt8} (digit : isDigit b) : isGap b = false := by
  have solid := Token.isSolid_of_isDigit digit
  have blank : isBlank b = false := by
    simp only [Token.isSolid, Bool.and_eq_true, Bool.not_eq_true'] at solid
    exact solid.1
  simp [isGap, blank]

/-- The id is found as well where objects are cut out unread. -/
theorem header_spellId (number : id.number < sizeOfBits 32) (generation : id.generation < sizeOfBits 16)
    (rest : Bytes) : header.value? (Indirect.spellId id ++ rest) = some id := by
  have word : ascii " obj\n" = [0x20] ++ (ascii "obj" ++ [0x0A]) := by decide
  have gap {rest : Bytes} (stop : Rule.Stops isGap rest) :
      Rule.run isGap ([0x20] ++ rest) = some ([0x20], rest) :=
    Rule.run_append (by decide +kernel) stop
  have solidWord : Rule.Stops isGap (ascii "obj" ++ ([0x0A] ++ rest)) := by
    have spelled : ascii "obj" = [0x6F, 0x62, 0x6A] := by decide
    rw [spelled]
    exact Rule.stops_cons rfl
  have solidDigits (value : Nat) (rest : Bytes) : Rule.Stops isGap (Bytes.digits value ++ rest) := by
    obtain ⟨first, others, spelled, digit⟩ := Token.digits_eq_cons value
    rw [spelled]
    exact Rule.stops_cons (isGap_of_isDigit digit)
  have space (rest : Bytes) : Rule.Stops isDigit ([0x20] ++ rest) := Rule.stops_cons rfl
  have apart : Indirect.spellId id ++ rest = Bytes.digits id.number ++ ([0x20] ++
      (Bytes.digits id.generation ++ ([0x20] ++ (ascii "obj" ++ ([0x0A] ++ rest))))) := by
    simp [Indirect.spellId, word]
  rw [Rule.value?, apart, header, Rule.bind_apply, Rule.run_of_stops (solidDigits _ _),
    Option.bind_some, Rule.bind_apply, Token.objectNumber, Token.unsigned_digits number (space _),
    Option.bind_some, Rule.bind_apply, gap (solidDigits _ _), Option.bind_some, Rule.bind_apply,
    Token.generation, Token.unsigned_digits generation (space _), Option.bind_some,
    Rule.bind_apply, gap solidWord, Option.bind_some, Rule.bind_apply, Rule.literal_append,
    Option.bind_some]
  rfl

end RawObjects

/-! ## Objects that can be written -/

/-- Objects that can be written on their own: dictionaries, and streams whose length is given with
them. -/
inductive Object.IsStorable : Object → Prop
  | dictionary {entries : Dict} (readable : IsReadable (.dictionary entries)) :
    IsStorable (.dictionary entries)
  | stream {entries : Dict} {body : Bytes} (readable : IsReadable (.dictionary entries))
    (length : entries.get? "Length" = some (.integer body.length)) :
    IsStorable (.stream entries body)

namespace Indirect

open Direct

variable {id : ObjectId} {entries : Dict} {body rest : Bytes}
variable {lengthOf : ObjectId → Option Int}

/-- An object with its id and its end. -/
def spell (id : ObjectId) (object : Object) : Bytes :=
  spellId id ++ object.spell ++ ascii "\nendobj"

theorem spell_stream (entries : Dict) (body : Bytes) : Object.spell (.stream entries body) =
    Object.spell (.dictionary entries) ++ (ascii "stream\n" ++ (body ++ ascii "\nendstream")) := by
  have word : ascii ">>stream\n" = ascii ">>" ++ ascii "stream\n" := by decide
  obtain ⟨entries⟩ := entries
  simp [Object.spell, word]

/-- A dictionary is read back, whatever comes after it. -/
theorem dictionary_spell (readable : Object.IsReadable (.dictionary entries)) {budget : Nat}
    (enough : (Object.spell (.dictionary entries)).length ≤ budget) (rest : Bytes) :
    Direct.dictionary budget (Object.spell (.dictionary entries) ++ rest) = some (entries, rest) := by
  cases readable with
  | @dictionary entries distinct plain readable =>
    rw [Object.spell_dictionary, List.length_cons, List.length_cons, List.length_append] at enough
    obtain ⟨count, each⟩ := length_spellEntries entries
    exact dictionaryOf_spell distinct plain readable
      (fun entry inside =>
        object_spell (readable entry inside) (by have := each entry inside; omega))
      (by omega) rest

theorem streamKeyword_append (rest : Bytes) :
    streamKeyword (ascii "stream\n" ++ rest) = some ((), rest) := by
  have word : ascii "stream\n" = ascii "stream" ++ [0x0A] := by decide
  have solid : Token.blank (ascii "stream" ++ 0x0A :: rest) = some ((), ascii "stream" ++ 0x0A :: rest) := by
    have spelled : ascii "stream" = [0x73, 0x74, 0x72, 0x65, 0x61, 0x6D] := by decide
    rw [spelled]
    exact Token.blank_of_solid rfl _
  have stop : Rule.Stops isInline (0x0A :: rest) := Rule.stops_cons rfl
  rw [word, List.append_assoc, List.singleton_append, streamKeyword, Rule.bind_apply, solid,
    Option.bind_some, Rule.bind_apply, Rule.literal_append, Option.bind_some, Rule.bind_apply,
    Rule.run_of_stops stop, Option.bind_some]
  rfl

theorem streamKeyword_end (rest : Bytes) : streamKeyword (ascii "\nendobj" ++ rest) = none := by
  have word : ascii "\nendobj" = [0x0A, 0x65, 0x6E, 0x64, 0x6F, 0x62, 0x6A] := by decide
  rw [word]
  rfl

theorem streamBody_append (body rest : Bytes) :
    streamBody body.length (body ++ (ascii "\nendstream" ++ rest)) = some (body, rest) := by
  have word : ascii "\nendstream" = 0x0A :: ascii "endstream" := by decide
  have taken : Rule.take body.length (body ++ (ascii "\nendstream" ++ rest)) =
      some (body, ascii "\nendstream" ++ rest) := by
    simp [Rule.take]
  have lineEnd : Rule.opt Token.lineEnd (ascii "\nendstream" ++ rest) =
      some (some (), ascii "endstream" ++ rest) := by
    rw [word]
    rfl
  rw [streamBody, Rule.bind_apply, taken, Option.bind_some, Rule.bind_apply, lineEnd,
    Option.bind_some, Rule.bind_apply, Rule.literal_append, Option.bind_some]
  rfl

/-- An object is read back from where it was written. -/
theorem body?_spell {object : Object} (storable : object.IsStorable) (id : ObjectId) (rest : Bytes) :
    body? lengthOf id (object.spell ++ (ascii "\nendobj" ++ rest)) = some { id, object } := by
  cases storable with
  | @dictionary entries readable =>
    simp only [body?]
    rw [dictionary_spell readable (by rw [List.length_append]; omega)]
    simp only [streamKeyword_end]
  | @stream entries body readable length =>
    rw [spell_stream, List.append_assoc, List.append_assoc, List.append_assoc]
    simp only [body?]
    rw [dictionary_spell readable (by rw [List.length_append]; omega)]
    have known : length? lengthOf entries = some (.ofNat body.length) := by
      rw [length?, length]
      rfl
    have same : streamOf entries body = .stream entries body := by
      rw [streamOf, Dictionary.set_eq_self length]
    simp only [streamKeyword_append, known, Rule.value?, streamBody_append, Option.map_some, same]

/-- Where a body is cut off, its dictionary is what is read. -/
theorem body?_cut (readable : Object.IsReadable (.dictionary entries))
    (length : entries.get? "Length" = some (.integer body.length)) (id : ObjectId) (count : Nat) :
    body? lengthOf id (Object.spell (.dictionary entries) ++
      (ascii "stream\n" ++ body.take count)) = some { id, object := .dictionary entries } := by
  have known : length? lengthOf entries = some (.ofNat body.length) := by
    rw [length?, length]
    rfl
  have unread : streamBody body.length (body.take count) = none := by
    rw [streamBody, Rule.bind_apply, Rule.take]
    split
    · next long =>
      -- All of the body is there, but nothing after it.
      have whole : (body.take count).splitAt body.length = (body.take count, []) := by
        rw [List.splitAt_eq, List.take_of_length_le (List.length_take_le' _ _),
          List.drop_of_length_le (List.length_take_le' _ _)]
      rw [whole]
      rfl
    · rfl
  simp only [body?]
  rw [dictionary_spell readable (by rw [List.length_append]; omega)]
  simp only [streamKeyword_append, known, Rule.value?, unread, Option.map_none]

end Indirect

/-! ## Reading where an object was written -/

/-- The spelling of an object that can be written begins with no white space. -/
theorem Object.IsStorable.spell_eq_cons {object : Object} (storable : object.IsStorable) :
    ∃ b others, object.spell = b :: others ∧ Token.isSolid b := by
  cases storable with
  | dictionary readable =>
    obtain ⟨b, others, spelled, solid, -⟩ := readable.spell_eq_cons
    exact ⟨b, others, spelled, solid⟩
  | @stream entries body readable =>
    obtain ⟨b, others, spelled, solid, -⟩ := readable.spell_eq_cons
    rw [Indirect.spell_stream, spelled]
    exact ⟨b, _, rfl, solid⟩

/-- An object with its id and its end is read back, whatever comes after it. -/
theorem Indirect.read?_spell {lengthOf : ObjectId → Option Int} {id : ObjectId} {object : Object}
    (storable : object.IsStorable) (number : id.number < sizeOfBits 32)
    (generation : id.generation < sizeOfBits 16) (rest : Bytes) :
    read? lengthOf (spell id object ++ rest) = some { id, object } := by
  obtain ⟨b, others, spelled, solid⟩ := storable.spell_eq_cons
  have body : body? lengthOf id (object.spell ++ (ascii "\nendobj" ++ rest)) = some { id, object } :=
    body?_spell storable id rest
  rw [spelled, List.cons_append] at body
  rw [read?, spell, List.append_assoc, List.append_assoc, spelled, List.cons_append,
    header_spellId number generation solid]
  exact body

namespace RawObjects

/-- The word at which objects are cut. -/
theorem ending_eq : ending = 0x65 :: ascii "ndobj" := by decide

theorem misses_spellId (id : ObjectId) : Bytes.Misses ending (Indirect.spellId id) := by
  rw [ending_eq]
  refine Bytes.Misses.of_not_mem fun inside => ?_
  have word : ascii " obj\n" = [0x20, 0x6F, 0x62, 0x6A, 0x0A] := by decide
  have notDigit (value : Nat) : (0x65 : UInt8) ∉ Bytes.digits value := fun inside => by
    have digit := Bytes.isDigit_of_mem_digits inside
    cases digit
  simp [Indirect.spellId, word, notDigit] at inside

variable {id : ObjectId} {object : Object}

/-- An object is cut out as a whole, unless the word stands in its own spelling. -/
theorem cut_spell (number : id.number < sizeOfBits 32) (generation : id.generation < sizeOfBits 16)
    (whole : ¬ ending <:+: object.spell) (rest : Bytes) :
    cut (Indirect.spell id object ++ rest) = some (id, Indirect.spell id object) := by
  have word : ascii "\nendobj" = [0x0A] ++ ending := by decide
  have misses : Bytes.Misses ending (Indirect.spellId id ++ (object.spell ++ [0x0A])) :=
    (misses_spellId id).append (.of_not_inside (by decide) whole)
  have apart : Indirect.spell id object =
      (Indirect.spellId id ++ (object.spell ++ [0x0A])) ++ ending := by
    simp [Indirect.spell, word]
  have first : (ending ++ rest).find? ending = some 0 :=
    Bytes.find?_of_present (List.prefix_append _ _)
  have found : (Indirect.spell id object ++ rest).find? ending =
      some (Indirect.spellId id ++ (object.spell ++ [0x0A])).length := by
    rw [apart, List.append_assoc, misses.find?_append, first]
    rfl
  have named : header.value? (Indirect.spell id object ++ rest) = some id := by
    rw [Indirect.spell, List.append_assoc, List.append_assoc]
    exact header_spellId number generation _
  rw [cut, named, Option.map_some, found]
  simp only
  rw [← List.length_append, ← apart, List.take_left']
  rfl

/-- A stream up to its body. -/
def upToBody (id : ObjectId) (entries : Dict) : Bytes :=
  Indirect.spellId id ++ ((Object.spell (.dictionary entries) ++ ascii "stream") ++ [0x0A])

/-- A stream in whose body the word stands is cut off in its body. -/
theorem cut_of_inside {entries : Dict} {body : Bytes} (number : id.number < sizeOfBits 32)
    (generation : id.generation < sizeOfBits 16)
    (plain : ¬ ending <:+: Object.spell (.dictionary entries) ++ ascii "stream")
    (held : ending <:+: body) (rest : Bytes) :
    ∃ count, cut (Indirect.spell id (.stream entries body) ++ rest) =
      some (id, Indirect.spellId id ++ (Object.spell (.dictionary entries) ++
        (ascii "stream\n" ++ body.take count))) := by
  have word : ascii "stream\n" = ascii "stream" ++ [0x0A] := by decide
  have misses : Bytes.Misses ending (upToBody id entries) :=
    (misses_spellId id).append (.of_not_inside (by decide) plain)
  obtain ⟨place, inside, found⟩ := Bytes.exists_find?_of_inside (by decide) held
    (ascii "\nendstream" ++ (ascii "\nendobj" ++ rest))
  have apart : Indirect.spell id (.stream entries body) ++ rest =
      upToBody id entries ++ (body ++ (ascii "\nendstream" ++ (ascii "\nendobj" ++ rest))) := by
    simp [upToBody, Indirect.spell, Indirect.spell_stream, word]
  have named : header.value? (Indirect.spell id (.stream entries body) ++ rest) = some id := by
    rw [Indirect.spell, List.append_assoc, List.append_assoc]
    exact header_spellId number generation _
  refine ⟨place + ending.length, ?_⟩
  rw [cut, named, Option.map_some, apart, misses.find?_append, found]
  simp only [Option.map_some]
  rw [Nat.add_assoc, List.take_length_add_append, List.take_append_of_le_length inside]
  simp [upToBody, word]

end RawObjects

end PdfText

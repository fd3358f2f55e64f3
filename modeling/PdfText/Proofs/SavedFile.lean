import PdfText.Proofs.Maps
import PdfText.Proofs.Outcome
import PdfText.Proofs.Saving

/-!
# Saving objects in a file

Objects are written one after the other, numbered from 1. A table of their offsets follows, then the
trailer, and last the offset of the table. Reading such a file finds every object where it was
written, as long as no offset takes more than 32 bits.

## Main definitions

* `SavedFile.save` — the file in which objects and a trailer are saved
* `Layout.Stores` — a file in which objects stand where its table says

## Main results

* `SavedFile.read_save` — a file that was saved is read, and stores its objects
-/

namespace PdfText

namespace SavedFile

/-! ## The file -/

/-- The first two lines of a file: its version, and a comment that no text file has. -/
def front : Bytes := ascii "%PDF-1.5\n%" ++ [0xBB, 0xAD, 0xC0, 0xDE, 0x0A]

/-- An object with a number, on lines of its own. -/
def written (number : Nat) (object : Object) : Bytes := Indirect.spell ⟨number, 0⟩ object ++ [0x0A]

/-- Objects one after the other, numbered upwards. -/
def spellObjects : (number : Nat) → List Object → Bytes
  | _, [] => []
  | number, object :: rest => written number object ++ spellObjects (number + 1) rest

/-- The offsets of these objects, of which the first has the one given. -/
def offsets : (number offset : Nat) → List Object → List Nat
  | _, _, [] => []
  | number, offset, object :: rest =>
    offset :: offsets (number + 1) (offset + (written number object).length) rest

/-- An offset as ten digits. -/
def tenDigits (offset : Nat) : Bytes :=
  List.replicate (10 - (Bytes.digits offset).length) 0x30 ++ Bytes.digits offset

/-- The line of the table for an object in use. -/
def entryLine (offset : Nat) : Bytes := tenDigits offset ++ ascii " 00000 n \n"

/-- The line of the table for the number 0, which no object has. -/
def freeLine : Bytes := ascii "0000000000 65535 f \n"

/-- The table of offsets. -/
def table (offsets : List Nat) : Bytes :=
  ascii "xref\n0 " ++ (Bytes.digits (offsets.length + 1) ++
    0x0A :: (freeLine ++ offsets.flatMap entryLine))

/-- The last lines, which name the offset of the table. -/
def ending (start : Nat) : Bytes :=
  ascii "startxref\n" ++ (Bytes.digits start ++ 0x0A :: ascii "%%EOF")

/-- The lines before the table. -/
def body (objects : List Object) : Bytes := front ++ spellObjects 1 objects

/-- The trailer with the number of lines in the table. -/
def sized (objects : List Object) (trailer : Dict) : Dict :=
  trailer.set "Size" (.integer (objects.length + 1))

/-- The file in which objects and a trailer are saved. -/
def save (objects : List Object) (trailer : Dict) : Bytes :=
  body objects ++ (table (offsets 1 front.length objects) ++ (ascii "trailer\n" ++
    (Object.spell (.dictionary (sized objects trailer)) ++ 0x0A :: ending (body objects).length)))

end SavedFile

/-- A file in which objects numbered from 1 stand where its table says, and no others. -/
structure Layout.Stores (layout : Layout) (objects : List Object) : Prop where
  place : ∀ (index : Nat) (object : Object), objects[index]? = some object →
    ∃ offset rest, layout.entries[index + 1]? = some (.normal offset 0) ∧
      layout.bytesFrom offset = Indirect.spell ⟨index + 1, 0⟩ object ++ rest
  only : ∀ (number : Nat) (entry : XrefEntry), layout.entries[number]? = some entry →
    ∃ index, number = index + 1 ∧ index < objects.length
  few : objects.length < sizeOfBits 32 - 1

namespace SavedFile

/-! ## Offsets -/

variable {objects : List Object} {trailer : Dict}

theorem length_offsets (number offset : Nat) (objects : List Object) :
    (offsets number offset objects).length = objects.length := by
  induction objects generalizing number offset with
  | nil => rfl
  | cons object rest ih => simp [offsets, ih]

/-- At its offset, an object is written. -/
theorem drop_offset {number offset index place : Nat} {object : Object} (before after : Bytes)
    (start : before.length = offset) (held : objects[index]? = some object)
    (known : (offsets number offset objects)[index]? = some place) :
    ∃ rest, (before ++ (spellObjects number objects ++ after)).drop place =
      Indirect.spell ⟨number + index, 0⟩ object ++ rest := by
  -- By induction on the objects, for all that is written before them: the first object belongs to
  -- it when the others are looked for.
  induction objects generalizing number offset index before with
  | nil => simp at held
  | cons first others ih =>
    cases index with
    | zero =>
      obtain rfl : first = object := by simpa using held
      obtain rfl : offset = place := by simpa [offsets] using known
      refine ⟨0x0A :: (spellObjects (number + 1) others ++ after), ?_⟩
      rw [← start, List.drop_left, spellObjects, written]
      simp
    | succ index =>
      have start' : (before ++ written number first).length =
          offset + (written number first).length := by rw [List.length_append, start]
      obtain ⟨rest, found⟩ := ih (before ++ written number first) start' (by simpa using held)
        (by simpa [offsets] using known)
      refine ⟨rest, ?_⟩
      have moved : number + 1 + index = number + (index + 1) := by omega
      rw [← moved, ← found]
      simp [spellObjects]

/-- No offset lies beyond the objects. -/
theorem offset_le {number offset place : Nat} (inside : place ∈ offsets number offset objects) :
    place ≤ offset + (spellObjects number objects).length := by
  induction objects generalizing number offset with
  | nil => cases inside
  | cons object rest ih =>
    rcases List.mem_cons.mp inside with rfl | inside
    · omega
    · have below := ih inside
      rw [spellObjects, List.length_append]
      omega

theorem length_le_spellObjects (number : Nat) (objects : List Object) :
    objects.length ≤ (spellObjects number objects).length := by
  induction objects generalizing number with
  | nil => exact Nat.zero_le _
  | cons object rest ih =>
    have below := ih (number + 1)
    rw [spellObjects, List.length_cons, List.length_append, written, List.length_append,
      List.length_singleton]
    omega

theorem length_spell_le_spellObjects (number : Nat) {object : Object} (held : object ∈ objects) :
    object.spell.length ≤ (spellObjects number objects).length := by
  induction objects generalizing number with
  | nil => cases held
  | cons first rest ih =>
    rw [spellObjects, List.length_append]
    rcases List.mem_cons.mp held with rfl | later
    · rw [written, Indirect.spell]
      simp only [List.length_append]
      omega
    · have below := ih (number + 1) later
      omega

/-- A file is longer than it has objects. -/
theorem length_lt_save (objects : List Object) (trailer : Dict) :
    objects.length + 1 < (save objects trailer).length := by
  have count := length_le_spellObjects 1 objects
  have frontSize : front.length = 15 := by decide
  rw [save, body, List.length_append, List.length_append]
  omega

/-- A file is no shorter than each of its objects. -/
theorem length_spell_le_save (trailer : Dict) {object : Object} (held : object ∈ objects) :
    object.spell.length ≤ (save objects trailer).length := by
  have below := length_spell_le_spellObjects 1 held
  rw [save, body, List.length_append, List.length_append]
  omega

/-! ## The table -/

section Table

open Rule

variable {rest : Bytes}

theorem decimal_tenDigits (offset : Nat) : Bytes.decimal (tenDigits offset) = offset := by
  rw [tenDigits, Bytes.decimal_replicate_append, Bytes.decimal_digits]

theorem isDigit_of_mem_tenDigits {offset : Nat} {b : UInt8} (inside : b ∈ tenDigits offset) :
    isDigit b := by
  rcases List.mem_append.mp inside with inside | inside
  · rw [List.eq_of_mem_replicate inside]
    rfl
  · exact Bytes.isDigit_of_mem_digits inside

theorem entry_entryLine {offset : Nat} (fits : offset < sizeOfBits 32) (rest : Bytes) :
    XrefSection.entry (entryLine offset ++ rest) = some (some (.normal offset 0), rest) := by
  have line : ascii " 00000 n \n" = 0x20 :: ascii "00000 n \n" := by decide
  have space : Stops isDigit (0x20 :: (ascii "00000 n \n" ++ rest)) := stops_cons rfl
  have nonempty : tenDigits offset ≠ [] := by
    simp [tenDigits, Bytes.digits_ne_nil]
  have number : Token.unsigned (sizeOfBits 32)
      (tenDigits offset ++ 0x20 :: (ascii "00000 n \n" ++ rest)) =
        some (offset, 0x20 :: (ascii "00000 n \n" ++ rest)) := by
    rw [Token.unsigned_append nonempty (fun _ => isDigit_of_mem_tenDigits) space,
      decimal_tenDigits, if_pos fits]
  have spelled : ascii "00000 n \n" = [0x30, 0x30, 0x30, 0x30, 0x30, 0x20, 0x6E, 0x20, 0x0A] := by
    decide
  rw [entryLine, line, List.append_assoc, List.cons_append, XrefSection.entry, bind_apply, number,
    spelled]
  rfl

theorem entry_freeLine (rest : Bytes) : XrefSection.entry (freeLine ++ rest) = some (none, rest) := by
  have spelled : freeLine = [0x30, 0x30, 0x30, 0x30, 0x30, 0x30, 0x30, 0x30, 0x30, 0x30, 0x20, 0x36,
    0x35, 0x35, 0x33, 0x35, 0x20, 0x66, 0x20, 0x0A] := by decide
  rw [spelled]
  rfl

/-- The lines of the table are read, up to the trailer. -/
theorem subsection_table {offsets : List Nat} (fits : ∀ offset ∈ offsets, offset < sizeOfBits 32)
    (few : offsets.length + 1 < sizeOfBits 32) {budget : Nat} (enough : offsets.length + 1 ≤ budget)
    (rest : Bytes) :
    XrefSection.subsection budget (ascii "0 " ++ (Bytes.digits (offsets.length + 1) ++
      0x0A :: (freeLine ++ offsets.flatMap entryLine ++ (ascii "trailer" ++ rest)))) =
        some ((0, none :: offsets.map fun offset => some (.normal offset 0)),
          ascii "trailer" ++ rest) := by
  have start : ascii "0 " = Bytes.digits 0 ++ ascii " " := by decide
  have spelled : ascii "trailer" = [0x74, 0x72, 0x61, 0x69, 0x6C, 0x65, 0x72] := by decide
  have stop : XrefSection.entry (ascii "trailer" ++ rest) = none := by
    rw [spelled]
    rfl
  have space (rest : Bytes) : Stops isDigit (ascii " " ++ rest) := stops_cons rfl
  have line (rest : Bytes) : Stops isDigit (0x0A :: rest) := stops_cons rfl
  obtain ⟨budget, rfl⟩ : ∃ less, budget = less + 1 := ⟨budget - 1, by omega⟩
  have lines : many XrefSection.entry (budget + 1)
      (freeLine ++ offsets.flatMap entryLine ++ (ascii "trailer" ++ rest)) =
        some (none :: offsets.map fun offset => some (.normal offset 0), ascii "trailer" ++ rest) := by
    rw [many, List.append_assoc]
    simp only [manyAfter, entry_freeLine]
    exact manyAfter_flatMap (fun offset inside => entry_entryLine (fits offset inside)) stop
      (by omega) [none]
  rw [XrefSection.subsection, bind_apply, start, List.append_assoc,
    Token.unsigned_digits (by decide) (space _), Option.bind_some, bind_apply, literal_append,
    Option.bind_some, bind_apply, Token.unsigned_digits few (line _), Option.bind_some, bind_apply]
  change ((Token.lineEnd >>= fun _ => many XrefSection.entry (budget + 1) >>= fun lines =>
    pure (0, lines)) (0x0A :: _)) = _
  rw [bind_apply]
  change ((many XrefSection.entry (budget + 1) >>= fun lines => pure (0, lines)) _) = _
  rw [bind_apply, lines]
  rfl

theorem blank_trailer (rest : Bytes) :
    Token.blank (ascii "trailer" ++ rest) = some ((), ascii "trailer" ++ rest) := by
  have spelled : ascii "trailer" = [0x74, 0x72, 0x61, 0x69, 0x6C, 0x65, 0x72] := by decide
  rw [spelled]
  exact Token.blank_of_solid rfl _

theorem subsection_trailer (budget : Nat) (rest : Bytes) :
    XrefSection.subsection budget (ascii "trailer" ++ rest) = none := by
  have spelled : ascii "trailer" = [0x74, 0x72, 0x61, 0x69, 0x6C, 0x65, 0x72] := by decide
  have stop : Stops isDigit (ascii "trailer" ++ rest) := by
    rw [spelled]
    exact stops_cons rfl
  rw [XrefSection.subsection, bind_apply, Token.unsigned_of_stops stop, Option.bind_none]

/-- The table has one subsection. -/
theorem subsections_table {offsets : List Nat} (fits : ∀ offset ∈ offsets, offset < sizeOfBits 32)
    (few : offsets.length + 1 < sizeOfBits 32) {budget : Nat} (enough : offsets.length + 1 ≤ budget)
    (rest : Bytes) :
    many1 (XrefSection.subsection budget) budget
      (ascii "0 " ++ (Bytes.digits (offsets.length + 1) ++
        0x0A :: (freeLine ++ offsets.flatMap entryLine ++ (ascii "trailer" ++ rest)))) =
      some ([(0, none :: offsets.map fun offset => some (.normal offset 0))],
        ascii "trailer" ++ rest) := by
  obtain ⟨less, rfl⟩ : ∃ less, budget = less + 1 := ⟨budget - 1, by omega⟩
  rw [many1, bind_apply, subsection_table fits few enough, Option.bind_some]
  simp only [manyAfter, subsection_trailer]
  rfl

/-- The table and the trailer are read. -/
theorem table_append {offsets : List Nat} (fits : ∀ offset ∈ offsets, offset < sizeOfBits 32)
    (few : offsets.length + 1 < sizeOfBits 32) {trailer : Dict}
    (readable : Object.IsReadable (.dictionary trailer)) {budget : Nat}
    (enough : offsets.length + 1 ≤ budget)
    (room : (Object.spell (.dictionary trailer)).length ≤ budget) (rest : Bytes) :
    XrefSection.table budget (table offsets ++ (ascii "trailer\n" ++
      (Object.spell (.dictionary trailer) ++ rest))) =
        some (⟨XrefSection.enterLines ∅ 0 (none :: offsets.map fun offset => some (.normal offset 0)),
          trailer⟩, rest) := by
  have word : ascii "xref\n0 " = ascii "xref" ++ 0x0A :: ascii "0 " := by decide
  have line : ascii "trailer\n" = ascii "trailer" ++ [0x0A] := by decide
  have apart : table offsets ++ (ascii "trailer\n" ++ (Object.spell (.dictionary trailer) ++ rest)) =
      ascii "xref" ++ 0x0A :: (ascii "0 " ++ (Bytes.digits (offsets.length + 1) ++
        0x0A :: (freeLine ++ offsets.flatMap entryLine ++ (ascii "trailer" ++
          0x0A :: (Object.spell (.dictionary trailer) ++ rest))))) := by
    simp [table, word, line]
  have newline (bytes : Bytes) : Token.lineEnd (0x0A :: bytes) = some ((), bytes) := rfl
  have skipped : Token.blank (0x0A :: (Object.spell (.dictionary trailer) ++ rest)) =
      some ((), Object.spell (.dictionary trailer) ++ rest) := by
    obtain ⟨b, others, begins, solid, -⟩ := readable.spell_eq_cons
    rw [Token.blank_cons rfl, begins]
    exact Token.blank_of_solid solid _
  rw [apart, XrefSection.table, bind_apply, literal_append, Option.bind_some, bind_apply, newline,
    Option.bind_some, bind_apply, subsections_table fits few enough, Option.bind_some, bind_apply,
    blank_trailer, Option.bind_some, bind_apply, literal_append, Option.bind_some, bind_apply,
    skipped, Option.bind_some, bind_apply, Indirect.dictionary_spell readable room,
    Option.bind_some]
  rfl

/-- What the lines of a table tell of a number. -/
theorem getElem?_enterLines {lines : List (Option XrefEntry)} {start : Nat}
    (few : start + lines.length ≤ sizeOfBits 32) (entries : Xref) (number : Nat) :
    (XrefSection.enterLines entries start lines)[number]? =
      if start ≤ number then (lines[number - start]?.join).or entries[number]?
      else entries[number]? := by
  unfold XrefSection.enterLines
  -- By induction on the lines. The line at the front may only be entered under the number that the
  -- others do not have.
  induction lines generalizing start entries with
  | nil => simp
  | cons line lines ih =>
    rw [List.length_cons] at few
    have small : start % sizeOfBits 32 = start := Nat.mod_eq_of_lt (by omega)
    rw [List.foldl_cons, ih (by omega)]
    simp only [small]
    by_cases here : number = start
    · subst here
      rw [if_neg (by omega)]
      cases line <;> simp
    by_cases later : start ≤ number
    · obtain ⟨distance, rfl⟩ : ∃ distance, number = start + (distance + 1) :=
        ⟨number - start - 1, by omega⟩
      have shifted : start + (distance + 1) - (start + 1) = distance := by omega
      rw [if_pos (by omega), if_pos later, shifted, Nat.add_sub_cancel_left, List.getElem?_cons_succ]
      cases line with
      | none => rfl
      | some entry => simp only [Std.TreeMap.getElem?_insert_of_ne here]
    · rw [if_neg (by omega), if_neg later]
      cases line with
      | none => rfl
      | some entry => exact Std.TreeMap.getElem?_insert_of_ne here

end Table

/-! ## The last lines -/

section Ending

variable {start : Nat} {before : Bytes}

theorem length_digits_le {value : Nat} (fits : value < sizeOfBits 32) :
    (Bytes.digits value).length ≤ 10 := by
  rw [Bytes.digits, List.length_map, Nat.length_toDigits_le_iff (by decide) (by decide)]
  have bound : sizeOfBits 32 ≤ 10 ^ 10 := by decide
  omega

theorem length_append_ending (before : Bytes) (start : Nat) :
    (before ++ ending start).length = before.length + 16 + (Bytes.digits start).length := by
  have word : (ascii "startxref\n").length = 10 := by decide
  have last : (ascii "%%EOF").length = 5 := by decide
  simp [ending, word, last]
  omega

/-- The last line is found, as it is shorter than the part that is searched for it. -/
theorem findLast?_lastLine (fits : start < sizeOfBits 32) :
    (before ++ ending start).findLast? (ascii "%%EOF")
      ((before ++ ending start).length - Layout.tailLength) =
        some (before.length + 11 + (Bytes.digits start).length) := by
  have digits := length_digits_le fits
  have size := length_append_ending before start
  have apart : before ++ ending start =
      (before ++ (ascii "startxref\n" ++ (Bytes.digits start ++ [0x0A]))) ++ ascii "%%EOF" := by
    simp [ending]
  have place : (before ++ (ascii "startxref\n" ++ (Bytes.digits start ++ [0x0A]))).length =
      before.length + 11 + (Bytes.digits start).length := by
    have word : (ascii "startxref\n").length = 10 := by decide
    simp [word]
    omega
  refine Bytes.findLast?_eq_some (by decide) (by rw [size, Layout.tailLength]; omega) ?_ ?_
  · rw [apart, ← place, List.drop_left]
  · -- Further on there are fewer bytes than the line has.
    intro other beyond found
    have last : (ascii "%%EOF").length = 5 := by decide
    have short := found.length_le
    rw [List.length_drop, size, last] at short
    omega

/-- The first letter of the word before the offset does not occur again. -/
theorem not_mem_ending :
    (0x73 : UInt8) ∉ ascii "tartxref\n" ++ (Bytes.digits start ++ 0x0A :: ascii "%%EOF") := by
  intro held
  rcases List.mem_append.mp held with word | held
  · exact absurd word (by decide)
  rcases List.mem_append.mp held with digits | last
  · cases Bytes.isDigit_of_mem_digits digits
  · exact absurd last (by decide)

/-- The word before the offset is found where the last lines begin. -/
theorem findLast?_startWord (fits : start < sizeOfBits 32) :
    (before ++ ending start).findLast? (ascii "startxref")
      (before.length + 11 + (Bytes.digits start).length - Layout.startDistance) =
        some before.length := by
  have digits := length_digits_le fits
  have spelled : ascii "startxref" = 0x73 :: ascii "tartxref" := by decide
  refine Bytes.findLast?_eq_some (by decide) (by rw [Layout.startDistance]; omega) ?_ ?_
  · rw [List.drop_left, ending]
    exact List.prefix_append_of_prefix (by decide)
  · intro other beyond found
    obtain ⟨distance, rfl⟩ : ∃ distance, other = before.length + (distance + 1) :=
      ⟨other - before.length - 1, by omega⟩
    have tail : (before ++ ending start).drop (before.length + (distance + 1)) =
        (ascii "tartxref\n" ++ (Bytes.digits start ++ 0x0A :: ascii "%%EOF")).drop distance := by
      rw [List.drop_length_add_append, ending]
      rfl
    rw [tail, spelled] at found
    exact not_mem_ending (List.drop_subset _ _ (found.subset List.mem_cons_self))

/-- The offset of the table is read from the last lines. -/
theorem startLines_ending (fits : start < sizeOfBits 32) :
    Layout.startLines.value? (ending start) = some (start : Int) := by
  have line (rest : Bytes) : Token.lineEnd (0x0A :: rest) = some ((), rest) := rfl
  have noSpace {rest : Bytes} (stop : Rule.Stops (· == 0x20) rest) :
      Rule.run (· == 0x20) rest = some ([], rest) := Rule.run_of_stops stop
  have stopDigits (rest : Bytes) : Rule.Stops (· == 0x20) (Bytes.digits start ++ rest) := by
    obtain ⟨b, others, spelled, digit⟩ := Token.digits_eq_cons start
    rw [spelled]
    exact Rule.stops_cons (by simpa using Token.ne_of_isDigit digit rfl)
  have ends : Direct.Ends (0x0A :: ascii "%%EOF") := by
    have spelled : ascii "%%EOF" = [0x25, 0x25, 0x45, 0x4F, 0x46] := by decide
    rw [spelled]
    exact ⟨by simp; decide, rfl⟩
  have number : Token.integer (Bytes.digits start ++ 0x0A :: ascii "%%EOF") =
      some ((start : Int), 0x0A :: ascii "%%EOF") := by
    have bound : sizeOfBits 32 ≤ sizeOfBits 63 := by decide
    have low : -(sizeOfBits 63 : Int) ≤ .ofNat start := by simp
    have high : Int.ofNat start < sizeOfBits 63 := by
      simp
      omega
    have read := Token.integer_spellInteger low high ends
    rwa [Object.spellInteger] at read
  have word : ascii "startxref\n" = ascii "startxref" ++ [0x0A] := by decide
  have finish : Rule.literal "%%EOF" (ascii "%%EOF") = some ((), []) := by decide
  rw [ending, word, List.append_assoc, List.singleton_append, Rule.value?, Layout.startLines,
    Rule.bind_apply, Rule.literal_append, Option.bind_some, Rule.bind_apply, line,
    Option.bind_some, Rule.bind_apply, noSpace (stopDigits _), Option.bind_some, Rule.bind_apply,
    number, Option.bind_some, Rule.bind_apply, noSpace (Rule.stops_cons rfl), Option.bind_some,
    Rule.bind_apply, line, Option.bind_some, Rule.bind_apply, finish]
  rfl

/-- The last lines are found, and name the offset of the table. -/
theorem start?_append_ending (fits : start < sizeOfBits 32) (long : 30 < before.length) :
    Layout.start? (before ++ ending start) = some start := by
  rw [Layout.start?, findLast?_lastLine fits]
  simp only [Option.bind_eq_bind, Option.bind_some]
  rw [if_neg (by rw [Layout.startDistance]; omega), findLast?_startWord fits, Option.bind_some,
    List.drop_left]
  exact startLines_ending fits

end Ending

/-! ## The section -/

/-- What is saved after the objects: the table and the trailer, before the last lines. -/
def section_ (objects : List Object) (trailer : Dict) : Bytes :=
  table (offsets 1 front.length objects) ++ (ascii "trailer\n" ++
    (Object.spell (.dictionary (sized objects trailer)) ++ [0x0A]))

theorem save_eq (objects : List Object) (trailer : Dict) :
    save objects trailer = (body objects ++ section_ objects trailer) ++ ending (body objects).length := by
  simp [save, section_]

/-- The entries that the table gives. -/
def entries (objects : List Object) : Xref :=
  XrefSection.enterLines ∅ 0
    (none :: (offsets 1 front.length objects).map fun offset => some (.normal offset 0))

/-- Offsets lie in the file, so they fit into ten digits. -/
theorem offset_lt (fits : (save objects trailer).length < sizeOfBits 32) {offset : Nat}
    (inside : offset ∈ offsets 1 front.length objects) : offset < sizeOfBits 32 := by
  have below := offset_le inside
  have size : (body objects).length ≤ (save objects trailer).length := by
    rw [save, List.length_append]
    omega
  rw [body, List.length_append] at size
  omega

/-- Each line of the table takes a byte at least. -/
theorem length_le_flatMap_entryLine (offsets : List Nat) :
    offsets.length ≤ (offsets.flatMap entryLine).length := by
  induction offsets with
  | nil => exact Nat.zero_le _
  | cons offset offsets ih =>
    have line : (ascii " 00000 n \n").length = 10 := by decide
    rw [List.flatMap_cons, List.length_append, List.length_cons, entryLine, List.length_append]
    omega

/-- The section that stands where the last lines say. -/
theorem read_section (readable : Object.IsReadable (.dictionary (sized objects trailer)))
    (fits : (save objects trailer).length < sizeOfBits 32)
    (few : objects.length + 1 < sizeOfBits 32) (rest : Bytes) :
    XrefSection.read (section_ objects trailer ++ rest) =
      .ok ⟨entries objects, sized objects trailer⟩ := by
  have length := length_offsets 1 front.length objects
  have read : (XrefSection.table ((section_ objects trailer ++ rest).length + 1)).value?
      (section_ objects trailer ++ rest) = some ⟨entries objects, sized objects trailer⟩ := by
    have apart : section_ objects trailer ++ rest = table (offsets 1 front.length objects) ++
        (ascii "trailer\n" ++ (Object.spell (.dictionary (sized objects trailer)) ++
          (0x0A :: rest))) := by
      simp [section_]
    rw [Rule.value?, apart,
      table_append (fun _ => offset_lt fits) (by rw [length]; exact few) readable]
    · rfl
    · -- The budget is enough for the lines, as it counts their bytes.
      have lines := length_le_flatMap_entryLine (offsets 1 front.length objects)
      simp only [table, List.length_append, List.length_cons]
      omega
    · simp only [List.length_append]
      omega
  have size : ((sized objects trailer).get? "Size").bind Object.integer? =
      some ((objects.length : Int) + 1) := by
    rw [sized, Dictionary.get?_set_self]
    rfl
  rw [XrefSection.read, read]
  simp only [size, Option.isSome_some, if_true]

theorem getElem?_entries (few : objects.length + 1 ≤ sizeOfBits 32) (number : Nat) :
    (entries objects)[number]? =
      match number with
      | 0 => none
      | index + 1 => ((offsets 1 front.length objects)[index]?).map fun offset => .normal offset 0 := by
  have count : 0 + (none :: (offsets 1 front.length objects).map fun offset =>
      some (XrefEntry.normal offset 0)).length ≤ sizeOfBits 32 := by
    simpa [length_offsets] using few
  rw [entries, getElem?_enterLines count, if_pos (Nat.zero_le _), Nat.sub_zero]
  cases number with
  | zero => rfl
  | succ index =>
    rw [List.getElem?_cons_succ, List.getElem?_map]
    cases found : (offsets 1 front.length objects)[index]? <;> simp [found]

/-- Each entry is that of an object. -/
theorem exists_of_getElem?_entries (few : objects.length + 1 ≤ sizeOfBits 32) {number : Nat}
    {entry : XrefEntry} (held : (entries objects)[number]? = some entry) :
    ∃ index, number = index + 1 ∧ index < objects.length := by
  rw [getElem?_entries few] at held
  cases number with
  | zero => cases held
  | succ index =>
    obtain ⟨offset, known, -⟩ := Option.map_eq_some_iff.mp held
    refine ⟨index, rfl, ?_⟩
    rw [← length_offsets 1 front.length objects]
    exact (List.getElem?_eq_some_iff.mp known).1

/-- No number is too high. -/
theorem keys_entries (few : objects.length + 1 < sizeOfBits 32) :
    (entries objects).keys.any (Layout.maxNumber < ·) = false := by
  rw [List.any_eq_false]
  intro number inside
  have held := Std.TreeMap.isSome_getElem?_iff_mem.mpr (Std.TreeMap.mem_keys.mp inside)
  obtain ⟨entry, held⟩ := Option.isSome_iff_exists.mp held
  obtain ⟨index, rfl, below⟩ := exists_of_getElem?_entries (Nat.le_of_lt few) held
  rw [decide_eq_true_iff, Layout.maxNumber]
  omega

/-! ## Reading the file -/

theorem save_eq_header (objects : List Object) (trailer : Dict) :
    save objects trailer = ascii "%PDF-1.5\n" ++ (([0x25, 0xBB, 0xAD, 0xC0, 0xDE, 0x0A] ++
      spellObjects 1 objects) ++ (section_ objects trailer ++ ending (body objects).length)) := by
  have word : front = ascii "%PDF-1.5\n" ++ [0x25, 0xBB, 0xAD, 0xC0, 0xDE, 0x0A] := by decide
  simp [save_eq, body, word]

/-- A file that was saved begins with its header. -/
theorem fromFirst_save (objects : List Object) (trailer : Dict) :
    (save objects trailer).fromFirst Layout.marker = save objects trailer := by
  have word : ascii "%PDF-1.5\n" = Layout.marker ++ ascii "1.5\n" := by decide
  have found : (save objects trailer).find? Layout.marker = some 0 := by
    rw [save_eq_header, word, List.append_assoc]
    exact Bytes.find?_of_present (List.prefix_append _ _)
  rw [Bytes.fromFirst, found]
  rfl

theorem version?_save (objects : List Object) (trailer : Dict) :
    Layout.version? (save objects trailer) = some (ascii "1.5") := by
  have read (rest : Bytes) : Layout.header (ascii "%PDF-1.5\n" ++ rest) =
      some (ascii "1.5", rest) := by
    have word : ascii "%PDF-1.5\n" = ascii "%PDF-" ++ (ascii "1.5" ++ [0x0A]) := by decide
    have taken : Rule.run (!isLineEnd ·) (ascii "1.5" ++ 0x0A :: rest) =
        some (ascii "1.5", 0x0A :: rest) :=
      Rule.run_append (by decide +kernel) (Rule.stops_cons rfl)
    rw [word, List.append_assoc, List.append_assoc, List.singleton_append, Layout.header,
      Rule.bind_apply, Rule.literal_append, Option.bind_some, Rule.bind_apply, taken]
    rfl
  have valid : Utf8.isValid (ascii "1.5") := by decide
  rw [save_eq_header, Layout.version?, Rule.value?, read]
  simp [Option.filter, valid]

theorem length_body_add_section_le (objects : List Object) (trailer : Dict) :
    (body objects).length + (section_ objects trailer).length ≤ (save objects trailer).length := by
  rw [save_eq, List.length_append, List.length_append]
  omega

theorem start?_save (fits : (save objects trailer).length < sizeOfBits 32) :
    Layout.start? (save objects trailer) = some ((body objects).length : Int) := by
  have inside := length_body_add_section_le objects trailer
  have frontSize : front.length = 15 := by decide
  have long : 15 < (section_ objects trailer).length := by
    have word : (ascii "xref\n0 ").length = 7 := by decide
    have line : (ascii "trailer\n").length = 8 := by decide
    simp only [section_, table, List.length_append, List.length_cons, word, line]
    omega
  rw [save_eq]
  refine start?_append_ending (by omega) ?_
  rw [body, List.length_append, List.length_append]
  omega

/-- The last lines lead to the table. -/
theorem sectionAt_save (readable : Object.IsReadable (.dictionary (sized objects trailer)))
    (fits : (save objects trailer).length < sizeOfBits 32) (outside : XrefError) :
    Layout.sectionAt (save objects trailer) outside (body objects).length =
      .ok ⟨entries objects, sized objects trailer⟩ := by
  have inside := length_body_add_section_le objects trailer
  have count := length_lt_save objects trailer
  have apart : (save objects trailer).drop (body objects).length =
      section_ objects trailer ++ ending (body objects).length := by
    rw [save_eq, List.append_assoc, List.drop_left]
  rw [Layout.sectionAt, if_pos (by omega), Int.toNat_natCast, apart]
  exact read_section readable fits (by omega) _

/-- Where the table says that an object stands, it is written. -/
theorem drop_save (trailer : Dict) {index place : Nat} {object : Object}
    (held : objects[index]? = some object)
    (known : (offsets 1 front.length objects)[index]? = some place) :
    ∃ rest, (save objects trailer).drop place = Indirect.spell ⟨index + 1, 0⟩ object ++ rest := by
  obtain ⟨rest, found⟩ := drop_offset front
    (section_ objects trailer ++ ending (body objects).length) rfl held known
  refine ⟨rest, ?_⟩
  rw [Nat.add_comm index 1, ← found, save_eq, body, List.append_assoc, List.append_assoc]

/-- The objects of a file that was saved stand where its table says. -/
theorem stores_save {layout : Layout} (few : objects.length + 1 < sizeOfBits 32)
    (bytes : layout.bytes = save objects trailer) (table : layout.entries = entries objects) :
    layout.Stores objects where
  place index object held := by
    have below : index < (offsets 1 front.length objects).length := by
      rw [length_offsets]
      exact (List.getElem?_eq_some_iff.mp held).1
    have known := List.getElem?_eq_getElem below
    obtain ⟨rest, found⟩ := drop_save trailer held known
    refine ⟨_, rest, ?_, by rw [Layout.bytesFrom, bytes, found]⟩
    rw [table, getElem?_entries (Nat.le_of_lt few)]
    simp only [known, Option.map_some]
  only number entry held := by
    rw [table] at held
    exact exists_of_getElem?_entries (Nat.le_of_lt few) held
  few := by omega

/-- A file that was saved is read, and stores its objects. -/
theorem read_save (readable : Object.IsReadable (.dictionary (sized objects trailer)))
    (older : (sized objects trailer).get? "Prev" = none)
    (fits : (save objects trailer).length < sizeOfBits 32) :
    ∃ layout, Layout.read (save objects trailer) = .ok layout ∧
      layout.trailer = (sized objects trailer).erase "Prev" ∧ layout.Stores objects := by
  have few : objects.length + 1 < sizeOfBits 32 := (length_lt_save objects trailer).trans fits
  refine ⟨{ bytes := save objects trailer, version := ascii "1.5", entries := entries objects,
            trailer := (sized objects trailer).erase "Prev" }, ?_, rfl, stores_save few rfl rfl⟩
  -- The trailer names no other table, so there is nothing to add to the entries.
  have alone : ∀ beside, Layout.addOlder (save objects trailer)
      ((save objects trailer).length + 2) (entries objects) none beside [] =
        .ok (entries objects) := fun _ => rfl
  rw [Layout.read]
  simp only [fromFirst_save, version?_save, start?_save fits, sectionAt_save readable fits,
    Except.ok_bind, older, alone, keys_entries few]
  rfl

end SavedFile

end PdfText

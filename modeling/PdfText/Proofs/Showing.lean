import PdfText.Proofs.LockedTexts

/-!
# Texts that are read back

A booklet of printable texts is read back as it was written: as many pages, in the same order, each
with its text and one line end. The texts may hold words of the file format. Objects are found by
their offsets and content streams are passed over by their lengths, so nothing is ever searched for
in a text, and inside a string only parentheses and backslashes have a meaning.

How a content stream is set out is left to its writer: the white space around the operations, and
what stands for a string between its parentheses. The string has to be read back, no more.

## Main definitions

* `Booklet.Writer` — how content streams are set out
* `Booklet.Writer.Restores` — a text is written so that its string is read back
* `Booklet.byLines` — the writer that begins a line with each operation

## Main results

* `Booklet.Writer.readAll_body` — the operations of a content stream
* `Booklet.Writer.plainFile_reads_back` — the texts of a booklet
* `Booklet.fromBytes_plainFile_operations` — those of a booklet with one operation to a line
-/

namespace PdfText

/-! ## Printable texts as bytes -/

namespace Booklet

theorem bounds_of_isPrintable {text : String} (printable : isPrintable text) {c : Char}
    (inside : c ∈ text.toList) : 0x20 ≤ c.toNat ∧ c.toNat ≤ 0x7E := by
  simpa using List.all_eq_true.mp printable c inside

/-- A printable character is one byte, with the same number. -/
theorem encode_of_isPrintable {text : String} (printable : isPrintable text) :
    Utf8.encode text = text.toList.map fun c => UInt8.ofNat c.toNat := by
  have single : ∀ c ∈ text.toList, String.utf8EncodeChar c = [UInt8.ofNat c.toNat] := by
    intro c inside
    have size : c.utf8Size = 1 := by
      rw [Char.utf8Size_eq_one_iff, UInt32.le_iff_toNat_le]
      exact (bounds_of_isPrintable printable inside).2.trans (by decide)
    rw [String.utf8EncodeChar_eq_singleton size]
    rfl
  rw [Utf8.encode_eq, ← String.ofList_toList (s := text), String.toByteArray_ofList,
    List.utf8Encode, List.data_toByteArray, String.toList_ofList, List.toList_toArray,
    List.map_eq_flatMap]
  exact List.flatMap_congr single

/-- The table of the font of a booklet leaves printable characters as they are. -/
theorem characters_encode {text : String} (printable : isPrintable text) :
    EncodingTable.winAnsi.characters (Utf8.encode text) = text.toList := by
  have table : ∀ code ∈ List.range 0x7F, 0x20 ≤ code →
      EncodingTable.winAnsi.codeOf? (UInt8.ofNat code) = some code := by decide +kernel
  rw [encode_of_isPrintable printable, EncodingTable.characters, List.filterMap_map]
  have kept : ∀ c ∈ text.toList,
      ((fun b => (EncodingTable.winAnsi.codeOf? b).map Char.ofNat) ∘
        fun c : Char => UInt8.ofNat c.toNat) c = some c := by
    intro c inside
    obtain ⟨low, high⟩ := bounds_of_isPrintable printable inside
    rw [Function.comp_apply, table c.toNat (List.mem_range.mpr (by omega)) low, Option.map_some,
      Char.ofNat_toNat]
  rw [List.filterMap_congr kept, List.filterMap_some]

/-- What a page of a booklet shows where its text is printable. -/
theorem textOf_of_readAll {text : String} (printable : isPrintable text) {data : Bytes}
    (read : Operation.readAll data = .ok (setup ++ showing (Utf8.encode text))) :
    textOf data = .ok (text ++ "\n") := by
  have fonts : setup.foldlM (PageText.run encodings) {} =
      .ok { encoding := some (.byTable .winAnsi) } := rfl
  have shown : (showing (Utf8.encode text)).foldlM (PageText.run encodings)
      { encoding := some (.byTable .winAnsi) } =
        .ok (PageText.endLine (PageText.State.show { encoding := some (.byTable .winAnsi) }
          (EncodingTable.winAnsi.characters (Utf8.encode text) ++ []))) := rfl
  have line : PageText.endLine (PageText.State.show { encoding := some (.byTable .winAnsi) }
      text.toList) = { encoding := some (.byTable .winAnsi), line := '\n' :: text.toList.reverse } := by
    have other : ((text.toList.reverse ++ []).head? == some '\n') = false := by
      rw [List.append_nil, List.head?_reverse, beq_eq_false_iff_ne]
      intro last
      have bounds := bounds_of_isPrintable printable (List.mem_of_getLast? last)
      exact absurd bounds.1 (by decide)
    rw [PageText.endLine, if_neg (by simpa [PageText.State.show] using other)]
    simp [PageText.State.show]
  rw [textOf, read, Except.mapError_ok, Except.ok_bind, List.foldlM_append, fonts, Except.ok_bind,
    shown, Except.ok_bind, List.append_nil, characters_encode printable, line]
  simp [String.ofList_append]

/-! ## Writers -/

/-- How content streams are set out. -/
structure Writer where
  /-- The white space between operations. -/
  gap : Bytes
  /-- The white space after the last operation. -/
  close : Bytes
  /-- What stands for a string between its parentheses. -/
  spell : Bytes → Bytes
  gap_ne_nil : gap ≠ []
  isSpace_gap : gap.all Content.isSpace
  isSpace_close : close.all Content.isSpace

namespace Writer

/-- The content stream that shows a text. -/
def body (writer : Writer) (text : String) : Bytes :=
  writer.gap.intercalate [ascii "BT", ascii "/F1 24 Tf", ascii "72 700 Td",
    ascii "(" ++ (writer.spell (Utf8.encode text) ++ ascii ") Tj"), ascii "ET"] ++ writer.close

/-- A text is written so that its string is read back, whatever follows it. -/
def Restores (writer : Writer) (text : String) : Prop :=
  ∀ rest, Token.literalString
    (ascii "(" ++ (writer.spell (Utf8.encode text) ++ (ascii ")" ++ rest))) =
      some (Utf8.encode text, rest)

/-- What follows the parenthesis in front of the string. -/
def fromString (writer : Writer) (text : String) : Bytes :=
  writer.spell (Utf8.encode text) ++ 0x29 :: 0x20 :: 0x54 :: 0x6A ::
    (writer.gap ++ 0x45 :: 0x54 :: writer.close)

theorem body_eq (writer : Writer) (text : String) :
    writer.body text = upToString writer.gap (writer.fromString text) := by
  have words : ascii "BT" = [0x42, 0x54] ∧
      ascii "/F1 24 Tf" = [0x2F, 0x46, 0x31, 0x20, 0x32, 0x34, 0x20, 0x54, 0x66] ∧
      ascii "72 700 Td" = [0x37, 0x32, 0x20, 0x37, 0x30, 0x30, 0x20, 0x54, 0x64] ∧
      ascii "(" = [0x28] ∧ ascii ") Tj" = [0x29, 0x20, 0x54, 0x6A] ∧
      ascii "ET" = [0x45, 0x54] := by decide
  obtain ⟨begin_, select, move, opens, shows, ends⟩ := words
  rw [body, begin_, select, move, opens, shows, ends]
  simp [List.intercalate, upToString, fromString]

end Writer

/-- The writer that begins a line with each operation. -/
def byLines : Writer where
  gap := [0x0A]
  close := []
  spell := Literal.spell 0
  gap_ne_nil := List.cons_ne_nil _ _
  isSpace_gap := rfl
  isSpace_close := rfl

theorem body_byLines (text : String) : byLines.body text = operations text := by
  have spelled : ascii "BT\n/F1 24 Tf\n72 700 Td\n(" = ascii "BT" ++ ([0x0A] ++
      (ascii "/F1 24 Tf" ++ ([0x0A] ++ (ascii "72 700 Td" ++ ([0x0A] ++ ascii "("))))) := by decide
  have ended : ascii ") Tj\nET" = ascii ") Tj" ++ ([0x0A] ++ ascii "ET") := by decide
  rw [operations, spelled, ended]
  simp [Writer.body, byLines, List.intercalate]

/-- Strings with few parentheses are read back. -/
theorem restores_byLines {text : String}
    (few : (Utf8.encode text).count 0x28 ≤ Token.maxNesting) : byLines.Restores text := by
  intro rest
  exact Token.literalString_spell few rest

/-- A string whose parentheses nest too deep is written as if it could be read back. -/
example : ¬ byLines.Restores (String.ofList (List.replicate 101 '(' ++ List.replicate 101 ')')) :=
  fun restores => absurd (restores []) (by decide +kernel)

/-! ### Reading what they write -/

namespace Writer

variable {writer : Writer}

/-- The operations of a content stream. -/
theorem readAll_body {text : String} (restores : writer.Restores text) :
    Operation.readAll (writer.body text) = .ok (setup ++ showing (Utf8.encode text)) := by
  have read : Token.stringBytes 0 [] 0 (writer.fromString text) = some (Utf8.encode text,
      0x20 :: 0x54 :: 0x6A :: (writer.gap ++ 0x45 :: 0x54 :: writer.close)) := restores _
  obtain ⟨budget, front⟩ :=
    readAll_upToString writer.isSpace_gap writer.gap_ne_nil (writer.fromString text)
  rw [body_eq, front, (stands_show writer.isSpace_gap writer.gap_ne_nil read).readFrom,
    (stands_close _ writer.isSpace_close).readFrom, readFrom_end rfl rfl]
  rfl

theorem body_ne_nil (writer : Writer) (text : String) : writer.body text ≠ [] := by
  have first : ascii "BT" ≠ [] := by decide
  simp [body, List.intercalate, first]

/-- What a page shows where its text is printable and read back. -/
theorem textOf_body (writer : Writer) {text : String} (printable : isPrintable text)
    (restores : writer.Restores text) : textOf (writer.body text) = .ok (text ++ "\n") :=
  textOf_of_readAll printable (readAll_body restores)

end Writer

/-- What a page of operations one to a line shows where its text is printable. -/
theorem shownText_of_isPrintable {text : String} (printable : isPrintable text)
    (few : (Utf8.encode text).count 0x28 ≤ Token.maxNesting) : shownText text = text ++ "\n" := by
  rw [shownText, ← body_byLines, byLines.textOf_body printable (restores_byLines few)]
  rfl

/-! ## The texts of a booklet -/

/-- A booklet of printable texts is read back as it was written. Whatever the password, it is loaded
as a document with a page for each text. A page has its own text and one line end, and the text of
the document is that of its pages in order, each with a blank line after it. -/
theorem Writer.plainFile_reads_back (writer : Writer) (texts : List String)
    (printable : ∀ text ∈ texts, isPrintable text)
    (restores : ∀ text ∈ texts, writer.Restores text)
    (fits : (plainFile (texts.map writer.body)).length < sizeOfBits 32) :
    (∃ document,
      (∀ password, Document.load (plainFile (texts.map writer.body)) password = .ok document) ∧
      document.pageCount = texts.length ∧
      ∀ (index : Nat) (text : String), texts[index]? = some text →
        document.pageText index = .ok (text ++ "\n")) ∧
    ∀ extractor : Extractor, extractor.fromBytes (plainFile (texts.map writer.body)) =
      .ok (String.join (texts.map fun text => text ++ "\n" ++ "\n\n")) := by
  obtain ⟨document, loaded, booklet⟩ :=
    load_plainFile (List.forall_mem_map.mpr fun text _ => writer.body_ne_nil text) fits
  have shown : (contents (texts.map writer.body)).map (fun object => textOf (dataOf object)) =
      (texts.map (· ++ "\n")).map .ok := by
    rw [contents, List.map_map, List.map_map, List.map_map]
    refine List.map_congr_left fun text listed => ?_
    exact writer.textOf_body (printable text listed) (restores text listed)
  refine ⟨⟨document, loaded, ?_, fun index text found => ?_⟩, fun extractor => ?_⟩
  · rw [booklet.pageCount, length_contents, List.length_map]
  · have listed := List.mem_of_getElem? found
    have held : (contents (texts.map writer.body))[index]? = some (content (writer.body text)) := by
      rw [contents, List.getElem?_map, List.getElem?_map, found]
      rfl
    rw [booklet.pageText held, dataOf_content,
      writer.textOf_body (printable text listed) (restores text listed)]
    rfl
  · rw [Extractor.fromBytes_of_isBooklet (loaded _) booklet shown, joinPages, List.map_map]
    rfl

/-- Texts that hold words of the file format are read back. -/
theorem plainFile_reads_back_keywords :
    let texts := ["endstream endobj", "", "(a)\\b) ((", "startxref 0 %%EOF", "(ET) Tj ET"]
    (∀ text ∈ texts, isPrintable text) ∧ (∀ text ∈ texts, byLines.Restores text) ∧
      (plainFile (texts.map byLines.body)).length < sizeOfBits 32 ∧
      ({} : Extractor).fromBytes (plainFile (texts.map byLines.body)) =
        .ok (String.join (texts.map fun text => text ++ "\n" ++ "\n\n")) := by
  intro texts
  have printable : ∀ text ∈ texts, isPrintable text := by decide +kernel
  have restores : ∀ text ∈ texts, byLines.Restores text := by
    have few : ∀ text ∈ texts, (Utf8.encode text).count 0x28 ≤ Token.maxNesting := by
      decide +kernel
    exact fun text listed => restores_byLines (few text listed)
  have fits : (plainFile (texts.map byLines.body)).length < sizeOfBits 32 := by decide +kernel
  exact ⟨printable, restores, fits,
    (Writer.plainFile_reads_back byLines texts printable restores fits).2 {}⟩

/-- A booklet with one operation to a line is read back if no text has more opening parentheses than
may be nested. -/
theorem fromBytes_plainFile_operations (extractor : Extractor) (texts : List String)
    (printable : ∀ text ∈ texts, isPrintable text)
    (few : ∀ text ∈ texts, (Utf8.encode text).count 0x28 ≤ Token.maxNesting)
    (fits : (plainFile (texts.map operations)).length < sizeOfBits 32) :
    extractor.fromBytes (plainFile (texts.map operations)) =
      .ok (String.join (texts.map fun text => text ++ "\n" ++ "\n\n")) := by
  have shown : texts.map shownText = texts.map (· ++ "\n") :=
    List.map_congr_left fun text listed =>
      shownText_of_isPrintable (printable text listed) (few text listed)
  rw [fromBytes_plainFile extractor fits, shown, joinPages, List.map_map]
  rfl

end Booklet

end PdfText

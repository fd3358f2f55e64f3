import PdfText.Proofs.Booklet
import PdfText.Proofs.Extraction
import PdfText.Proofs.Locking
import PdfText.Proofs.Recovery

/-!
# Booklets in files

A booklet is saved in a file like any other objects. Around its content streams it has dictionaries
without strings, in which the word `endobj` does not stand: to such objects encryption does nothing,
and a reader finds them in a file that was cut up too. Loading the file of a booklet gives the
booklet.

## Main definitions

* `Object.IsBare` — objects in which there is nothing to encrypt, and no place to be cut
* `SavedFile.rooted` — a trailer that knows of no encryption
* `Booklet.plainFile` — the file of a booklet that is not encrypted

## Main results

* `Booklet.parts_cases` — the objects of a booklet are content streams or bare
* `Document.IsBooklet.extract` — the text of a booklet
* `SavedFile.exists_load` — objects that are saved under such a trailer are loaded
* `Booklet.load_plainFile` — a booklet that is not encrypted is loaded
-/

namespace PdfText

/-! ## Objects without strings -/

namespace Object

/-- Objects that are read back, in which nothing is encrypted, and in whose spelling the word `endobj`
does not stand, since the letter `j` does not. -/
structure IsBare (object : Object) : Prop where
  readable : object.IsReadable
  noLetter : 0x6A ∉ object.spell
  stringless : ∀ change, object.mapData change = object

theorem not_mem_digits (value : Nat) : 0x6A ∉ Bytes.digits value := fun inside => by
  have digit := Bytes.isDigit_of_mem_digits inside
  cases digit

theorem not_mem_gap (object : Object) : 0x6A ∉ object.gap := by
  unfold gap
  split <;> decide

namespace IsBare

variable {object : Object}

/-- Letters of a name that are written as they are, without the letter `j`. -/
def isBareName (letters : Bytes) : Bool :=
  letters.all fun b => Token.isPlainInName b && b != 0x6A

theorem isPlain_of_isBareName {letters : Bytes} (bare : isBareName letters) :
    ∀ b ∈ letters, Token.isPlainInName b ∧ b ≠ 0x6A := by
  simpa [isBareName] using bare

theorem name {letters : Bytes} (bare : isBareName letters) : IsBare (.name letters) where
  readable := .name fun b inside => (isPlain_of_isBareName bare b inside).1
  noLetter := by
    have absent : 0x6A ∉ letters := fun inside => (isPlain_of_isBareName bare _ inside).2 rfl
    simp [spell, absent]
  stringless _ := rfl

theorem reference {number : Nat} (few : number < sizeOfBits 32) :
    IsBare (.reference ⟨number, 0⟩) where
  readable := .reference few (Nat.two_pow_pos 16)
  noLetter := by
    have word : 0x6A ∉ ascii " R" := by decide
    simp [spell, not_mem_digits, word]
  stringless _ := rfl

theorem integer {value : Int} (low : -(sizeOfBits 63 : Int) ≤ value) (high : value < sizeOfBits 63) :
    IsBare (.integer value) where
  readable := .integer low high
  noLetter := by
    cases value with
    | ofNat size => exact not_mem_digits size
    | negSucc less => simp [spell, spellInteger, not_mem_digits]
  stringless _ := rfl

section Held

variable {items : List Object} {entries : List (Bytes × Object)}

theorem not_mem_spellMore (bare : ∀ item ∈ items, item.IsBare) : 0x6A ∉ spellMore items := by
  induction items with
  | nil => decide
  | cons item rest ih =>
    obtain ⟨first, others⟩ := List.forall_mem_cons.mp bare
    simp [spellMore, not_mem_gap, first.noLetter, ih others]

theorem not_mem_spellEntries (named : ∀ entry ∈ entries, (0x6A : UInt8) ∉ entry.1)
    (bare : ∀ entry ∈ entries, entry.2.IsBare) : 0x6A ∉ spellEntries entries := by
  induction entries with
  | nil => decide
  | cons entry rest ih =>
    obtain ⟨first, others⟩ := List.forall_mem_cons.mp bare
    obtain ⟨key, keys⟩ := List.forall_mem_cons.mp named
    simp [spellEntries, not_mem_gap, key, first.noLetter, ih keys others]

theorem mapItems_eq_self (bare : ∀ item ∈ items, item.IsBare) (change : Bytes → Bytes) :
    mapItems change items = items := by
  induction items with
  | nil => rfl
  | cons item rest ih =>
    obtain ⟨first, others⟩ := List.forall_mem_cons.mp bare
    rw [mapItems, first.stringless, ih others]

theorem mapEntries_eq_self (bare : ∀ entry ∈ entries, entry.2.IsBare) (change : Bytes → Bytes) :
    mapEntries change entries = entries := by
  induction entries with
  | nil => rfl
  | cons entry rest ih =>
    obtain ⟨first, others⟩ := List.forall_mem_cons.mp bare
    rw [mapEntries, first.stringless, ih others]

end Held

theorem array {items : List Object} (bare : ∀ item ∈ items, item.IsBare) :
    IsBare (.array items) where
  readable := .array fun item inside => (bare item inside).readable
  noLetter := by
    cases items with
    | nil => decide
    | cons item rest =>
      obtain ⟨first, others⟩ := List.forall_mem_cons.mp bare
      simp [spell, spellItems, first.noLetter, not_mem_spellMore others]
  stringless change := by rw [mapData, mapItems_eq_self bare]

/-- A dictionary, given the names that it has. -/
theorem dictionary {entries : List (Bytes × Object)} (names : List Bytes)
    (keys : entries.map Prod.fst = names) (distinct : names.Nodup)
    (named : names.all isBareName) (bare : ∀ entry ∈ entries, entry.2.IsBare) :
    IsBare (.dictionary ⟨entries⟩) := by
  subst keys
  have plain : ∀ entry ∈ entries, ∀ b ∈ entry.1, Token.isPlainInName b ∧ b ≠ 0x6A :=
    fun entry inside => isPlain_of_isBareName
      (List.all_eq_true.mp named _ (List.mem_map_of_mem inside))
  have absent : ∀ entry ∈ entries, (0x6A : UInt8) ∉ entry.1 :=
    fun entry inside letter => (plain entry inside _ letter).2 rfl
  refine ⟨.dictionary distinct (fun entry inside b within => (plain entry inside b within).1)
    fun entry inside => (bare entry inside).readable, ?_, fun change => ?_⟩
  · have opening : 0x6A ∉ ascii "<<" := by decide
    have closing : 0x6A ∉ ascii ">>" := by decide
    simp [spell, opening, closing, not_mem_spellEntries absent bare]
  · rw [mapData, mapEntries_eq_self bare]

/-- The word `endobj` has a letter that does not occur. -/
theorem unbroken (bare : object.IsBare) : ¬ RawObjects.ending <:+: object.spell :=
  Bytes.not_inside_of_not_mem (by decide) bare.noLetter

theorem encrypt_eq (bare : object.IsBare) (key : Bytes) (id : ObjectId) :
    object.encrypt key id = object :=
  bare.stringless _

/-- Such an object is what it is decrypted to. -/
theorem decryptObject_eq (bare : object.IsBare) {cryptor : Cryptor} (classic : cryptor.IsClassic)
    (id : ObjectId) : cryptor.decryptObject id object = (object, none) := by
  have round : cryptor.decryptObject id (object.encrypt cryptor.key id) = (object, none) :=
    Cryptor.decryptObject_encrypt classic bare.readable
  rwa [bare.encrypt_eq] at round

end IsBare

end Object

/-! ## The objects of a booklet -/

namespace Booklet

open Object

theorem isBare_font : IsBare (.dictionary font) := by
  refine .dictionary [ascii "Type", ascii "Subtype", ascii "BaseFont", ascii "Encoding"] rfl
    (by decide) (by decide) ?_
  simp only [List.forall_mem_cons]
  exact ⟨.name (by decide), .name (by decide),
    .name (by decide), .name (by decide), nofun⟩

theorem isBare_resources : IsBare (.dictionary resources) := by
  refine .dictionary [ascii "Font"] rfl (by decide) (by decide) ?_
  rw [List.forall_mem_singleton]
  refine .dictionary [ascii "F1"] rfl (by decide) (by decide) ?_
  rw [List.forall_mem_singleton]
  exact .reference (by decide)

theorem isBare_catalog : IsBare (.dictionary catalog) := by
  refine .dictionary [ascii "Type", ascii "Pages"] rfl (by decide) (by decide) ?_
  simp only [List.forall_mem_cons]
  exact ⟨.name (by decide), .reference (by decide), nofun⟩

theorem isBare_page {index : Nat} (few : 4 + 2 * index < sizeOfBits 32) :
    IsBare (.dictionary (page index)) := by
  refine .dictionary [ascii "Type", ascii "Parent", ascii "Contents", ascii "Resources"] rfl
    (by decide) (by decide) ?_
  simp only [List.forall_mem_cons]
  exact ⟨.name (by decide), .reference (by decide), .reference few,
    .reference (by decide), nofun⟩

theorem isBare_tree {count : Nat} (few : 4 + 2 * count < sizeOfBits 32) :
    IsBare (.dictionary (tree count)) := by
  have wide : sizeOfBits 32 < sizeOfBits 63 := by decide
  refine .dictionary [ascii "Type", ascii "Kids", ascii "Count", ascii "Resources",
    ascii "MediaBox"] rfl (by decide) (by decide) ?_
  simp only [List.forall_mem_cons]
  refine ⟨.name (by decide), .array fun item inside => ?_, .integer (by omega) (by omega),
    .reference (by decide), .array ?_, nofun⟩
  · obtain ⟨index, below, rfl⟩ := List.mem_map.mp inside
    have := List.mem_range.mp below
    exact .reference (by omega)
  · simp only [List.forall_mem_cons]
    exact ⟨.integer (by decide) (by decide), .integer (by decide) (by decide),
      .integer (by decide) (by decide), .integer (by decide) (by decide), nofun⟩

/-- The dictionary of a stream of some length. -/
def lengthOnly (size : Nat) : Dict := ⟨[(ascii "Length", .integer size)]⟩

theorem isBare_lengthOnly {size : Nat} (few : size < sizeOfBits 63) :
    IsBare (.dictionary (lengthOnly size)) := by
  refine .dictionary [ascii "Length"] rfl (by decide) (by decide) ?_
  rw [List.forall_mem_singleton]
  exact .integer (by omega) (by omega)

theorem content_eq (body : Bytes) : content body = .stream (lengthOnly body.length) body := rfl

theorem isStorable_content {body : Bytes} (few : body.length < sizeOfBits 63) :
    (content body).IsStorable :=
  .stream (isBare_lengthOnly few).readable rfl

/-- Content streams. -/
def contents (bodies : List Bytes) : List Object := bodies.map content

/-- What stands at an index: a content stream, or an object that does not depend on them. -/
theorem parts_cases {contents : List Object} {index : Nat} {object : Object}
    (few : 4 + 2 * contents.length < sizeOfBits 32)
    (held : (parts contents)[index]? = some object) :
    (∃ place, index = 2 * place + 3 ∧ contents[place]? = some object) ∨
      object.IsBare ∧ (∃ entries, object = .dictionary entries) ∧
        ∀ others : List Object, others.length = contents.length →
          (parts others)[index]? = some object := by
  match index with
  | 0 =>
    obtain rfl : .dictionary (tree contents.length) = object := Option.some.inj held
    exact .inr ⟨isBare_tree few, ⟨_, rfl⟩, fun others same => by rw [← same]; rfl⟩
  | 1 =>
    obtain rfl : .dictionary font = object := Option.some.inj held
    exact .inr ⟨isBare_font, ⟨_, rfl⟩, fun _ _ => rfl⟩
  | 2 =>
    obtain rfl : .dictionary resources = object := Option.some.inj held
    exact .inr ⟨isBare_resources, ⟨_, rfl⟩, fun _ _ => rfl⟩
  | index + 3 =>
    -- Content streams and pages take turns, and the catalog is the last.
    have later (others : List Object) : (parts others)[index + 3]? = (sheets 0 others)[index]? := rfl
    rw [later] at held
    rcases Nat.even_or_odd' index with ⟨place, rfl | rfl⟩
    · rw [getElem?_sheets] at held
      split at held
      · exact .inl ⟨place, rfl, held⟩
      split at held
      · next last =>
        obtain rfl := Option.some.inj held
        refine .inr ⟨isBare_catalog, ⟨_, rfl⟩, fun others same => ?_⟩
        rw [later, getElem?_sheets, if_neg (by omega), if_pos (by omega)]
      · cases held
    · have inside : place < contents.length := by
        have below := (List.getElem?_eq_some_iff.mp held).1
        rw [length_sheets] at below
        omega
      rw [getElem?_sheets_page 0 inside, Nat.zero_add] at held
      obtain rfl := Option.some.inj held
      refine .inr ⟨isBare_page (by omega), ⟨_, rfl⟩, fun others same => ?_⟩
      rw [later, getElem?_sheets_page 0 (by omega), Nat.zero_add]

section Contents

variable {bodies : List Bytes}

theorem length_contents : (contents bodies).length = bodies.length := List.length_map ..

theorem length_parts_contents : (parts (contents bodies)).length = 2 * bodies.length + 4 := by
  rw [length_parts, length_contents]

theorem getElem?_parts_contents {place : Nat} {body : Bytes} (held : bodies[place]? = some body) :
    (parts (contents bodies))[2 * place + 3]? = some (content body) := by
  refine getElem?_parts_content ?_
  rw [contents, List.getElem?_map, held]
  rfl

/-- An object of a booklet of content streams is one of them, or it is bare. -/
theorem parts_contents_cases (few : 4 + 2 * bodies.length < sizeOfBits 32) {index : Nat}
    {object : Object} (held : (parts (contents bodies))[index]? = some object) :
    (∃ place body, index = 2 * place + 3 ∧ bodies[place]? = some body ∧ object = content body) ∨
      object.IsBare ∧ (∃ entries, object = .dictionary entries) ∧
        ∀ others : List Object, others.length = bodies.length →
          (parts others)[index]? = some object := by
  have size : (contents bodies).length = bodies.length := length_contents
  rw [← size] at few ⊢
  refine (parts_cases few held).imp_left fun ⟨place, numbered, found⟩ => ?_
  rw [contents, List.getElem?_map] at found
  obtain ⟨body, inside, rfl⟩ := Option.map_eq_some_iff.mp found
  exact ⟨place, body, numbered, inside, rfl⟩

theorem isStorable_of_mem_parts (few : 4 + 2 * bodies.length < sizeOfBits 32)
    (short : ∀ body ∈ bodies, body.length < sizeOfBits 63) :
    ∀ object ∈ parts (contents bodies), object.IsStorable := by
  intro object inside
  obtain ⟨index, held⟩ := List.getElem?_of_mem inside
  rcases parts_contents_cases few held with ⟨place, body, -, found, rfl⟩ |
    ⟨bare, ⟨entries, rfl⟩, -⟩
  · exact isStorable_content (short body (List.mem_of_getElem? found))
  · exact .dictionary bare.readable

theorem isPlain_of_mem_parts (few : 4 + 2 * bodies.length < sizeOfBits 32)
    (filled : ∀ body ∈ bodies, body ≠ []) :
    ∀ object ∈ parts (contents bodies), object.IsPlain := by
  intro object inside
  obtain ⟨index, held⟩ := List.getElem?_of_mem inside
  rcases parts_contents_cases few held with ⟨place, body, -, found, rfl⟩ |
    ⟨-, ⟨entries, rfl⟩, -⟩
  · refine ⟨rfl, fun entries same => ?_⟩
    rw [content, Object.stream.injEq] at same
    exact filled body (List.mem_of_getElem? found) same.2
  · exact ⟨rfl, nofun⟩

theorem isContent_of_mem_contents : ∀ object ∈ contents bodies, object.IsContent := by
  intro object inside
  obtain ⟨body, -, rfl⟩ := List.mem_map.mp inside
  trivial

end Contents

end Booklet

/-- The texts of the pages of a booklet, of which none fails. -/
theorem Document.IsBooklet.pageTexts {document : Document} {contents : List Object}
    (booklet : document.IsBooklet contents) {texts : List String}
    (shown : contents.map (fun object => Booklet.textOf (Booklet.dataOf object)) = texts.map .ok) :
    document.pageTexts = .ok texts := by
  rw [pageTexts_eq_ok_iff, booklet.pageCount]
  apply List.ext_getElem?
  intro index
  have same : (contents.map fun object => Booklet.textOf (Booklet.dataOf object))[index]? =
      (texts.map .ok)[index]? := by rw [shown]
  rw [List.getElem?_map, List.getElem?_map] at same
  rw [List.getElem?_map, List.getElem?_map]
  cases held : contents[index]? with
  | none =>
    have beyond : contents.length ≤ index := List.getElem?_eq_none_iff.mp held
    rw [held, Option.map_none, eq_comm, Option.map_eq_none_iff] at same
    rw [same, List.getElem?_eq_none (by simpa using beyond)]
    rfl
  | some object =>
    have inside : index < contents.length := (List.getElem?_eq_some_iff.mp held).1
    rw [held] at same
    obtain ⟨text, given, read⟩ := Option.map_eq_some_iff.mp same.symm
    rw [List.getElem?_range inside, Option.map_some, booklet.pageText held, given]
    dsimp only at read
    rw [← read]
    rfl

/-- The text of a booklet, of which no page fails. -/
theorem Document.IsBooklet.extract {document : Document} {contents : List Object}
    (booklet : document.IsBooklet contents) {texts : List String}
    (shown : contents.map (fun object => Booklet.textOf (Booklet.dataOf object)) = texts.map .ok) :
    document.extract = .ok (joinPages texts) := by
  rw [extract_eq, booklet.pageTexts shown]
  rfl

/-! ## Loading -/

namespace Document

variable {file : Bytes} {layout : Layout}

/-- A file whose trailer knows of no encryption is read at once. -/
theorem load_of_plain (read : Layout.read file = .ok layout)
    (plain : layout.trailer.get? "Encrypt" = none) (password : Option String) :
    load file password = .ok (ofLayout layout) := by
  have opening : Opening.ofLayout layout = .opened (ofLayout layout) := by
    rw [Opening.ofLayout, plain, if_neg (by decide)]
  simp [load, Opening.ofBytes, read, Except.map, opening, Opening.document]

end Document

namespace SavedFile

/-- A trailer that names nothing but the catalog. -/
def rooted (place : Nat) : Dict := ⟨[(ascii "Root", Booklet.referTo place)]⟩

/-- Objects that are saved under such a trailer are loaded. -/
theorem exists_load {objects : List Object} {place : Nat} (few : place < sizeOfBits 32)
    (fits : (save objects (rooted place)).length < sizeOfBits 32)
    (storable : ∀ object ∈ objects, object.IsStorable) (plain : ∀ object ∈ objects, object.IsPlain) :
    ∃ document, (∀ password, Document.load (save objects (rooted place)) password = .ok document) ∧
      (document.trailer.get? "Root").bind Object.reference? = some ⟨place, 0⟩ ∧
      ∀ id, document.objects[id]? = savedAt objects id := by
  have wide : sizeOfBits 32 < sizeOfBits 63 := by decide
  have below := length_lt_save objects (rooted place)
  have entries : sized objects (rooted place) =
      ⟨[(ascii "Root", Booklet.referTo place),
        (ascii "Size", .integer (objects.length + 1))]⟩ := rfl
  have readable : Object.IsReadable (.dictionary (sized objects (rooted place))) := by
    rw [entries]
    refine (Object.IsBare.dictionary [ascii "Root", ascii "Size"] rfl (by decide) (by decide)
      ?_).readable
    simp only [List.forall_mem_cons]
    exact ⟨.reference few, .integer (by omega) (by omega), nofun⟩
  obtain ⟨layout, read, trailed, stores⟩ := read_save readable rfl fits
  exact ⟨.ofLayout layout, Document.load_of_plain read (by rw [trailed]; rfl),
    by rw [Document.ofLayout, trailed]; rfl, stores.getElem?_ofLayout storable plain⟩

end SavedFile

/-! ## Booklets that are not encrypted -/

namespace Booklet

open Object

/-- The file of a booklet. -/
def plainFile (bodies : List Bytes) : Bytes :=
  SavedFile.save (parts (contents bodies)) (trailer bodies.length)

theorem length_body_le (body : Bytes) : body.length ≤ (content body).spell.length := by
  rw [content_eq, Indirect.spell_stream]
  simp only [List.length_append]
  omega

section Sizes

variable {bodies : List Bytes} {more : List Object} {entries : Dict}

/-- In a file that is not too long, there are not too many pages. -/
theorem few_of_fits
    (fits : (SavedFile.save (parts (contents bodies) ++ more) entries).length < sizeOfBits 32) :
    5 + 2 * bodies.length + more.length < sizeOfBits 32 := by
  have below := SavedFile.length_lt_save (parts (contents bodies) ++ more) entries
  rw [List.length_append, length_parts_contents] at below
  omega

/-- In a file that is not too long, no content stream is. -/
theorem short_of_fits
    (fits : (SavedFile.save (parts (contents bodies) ++ more) entries).length < sizeOfBits 32) :
    ∀ body ∈ bodies, body.length < sizeOfBits 63 := by
  intro body inside
  obtain ⟨place, held⟩ := List.getElem?_of_mem inside
  have within : content body ∈ parts (contents bodies) ++ more :=
    List.mem_append_left _ (List.mem_of_getElem? (getElem?_parts_contents held))
  have below := SavedFile.length_spell_le_save entries within
  have above := length_body_le body
  have wide : sizeOfBits 32 < sizeOfBits 63 := by decide
  omega

end Sizes

/-- A booklet that is not encrypted is loaded. -/
theorem load_plainFile {bodies : List Bytes} (filled : ∀ body ∈ bodies, body ≠ [])
    (fits : (plainFile bodies).length < sizeOfBits 32) :
    ∃ document, (∀ password, Document.load (plainFile bodies) password = .ok document) ∧
      document.IsBooklet (contents bodies) := by
  have fits' : (SavedFile.save (parts (contents bodies) ++ []) (trailer bodies.length)).length <
      sizeOfBits 32 := by
    rw [List.append_nil]
    exact fits
  have few := few_of_fits fits'
  obtain ⟨document, loaded, rooted, stored⟩ :=
    @SavedFile.exists_load _ (4 + 2 * bodies.length) (by omega) fits
      (isStorable_of_mem_parts (by omega) (short_of_fits fits'))
      (isPlain_of_mem_parts (by omega) filled)
  refine ⟨document, loaded, ?_, fun index object held => ?_, isContent_of_mem_contents⟩
  · rw [rooted, length_contents]
  · rw [stored]
    exact held

end Booklet

end PdfText

import Mathlib.Data.List.Nodup
import PdfText.Proofs.Leaves
import PdfText.Proofs.Spelling
import PdfText.Proofs.Unlocking

/-!
# Documents of pages with one text each

A booklet is a document of which each page shows one text, all in one font and below one node of
the page tree. Its objects are numbered from 1: the node, the font and the resources of all pages,
then the content stream and the dictionary of each page, and last the catalog.

What can be read of such a document depends on nothing but what it holds in the places of the
content streams. A page whose content stream is lost is empty. No page of a booklet fails, whatever
the texts are.

## Main definitions

* `Booklet.parts` — the objects of a booklet, given those in the places of the content streams
* `Booklet.operations` — the content stream that shows a text
* `Document.IsBooklet` — a document that holds the objects of a booklet

## Main results

* `Document.IsBooklet.pages` — the pages of a booklet
* `Document.IsBooklet.pageText` — and the texts on them
-/

namespace PdfText

/-! ## The objects of a booklet -/

namespace Booklet

/-- A reference to an object by its number. -/
def referTo (number : Nat) : Object := .reference ⟨number, 0⟩

/-- The id of the page at an index. -/
def pageId (index : Nat) : ObjectId := ⟨5 + 2 * index, 0⟩

/-- The dictionary of the node with the given number of pages. -/
def tree (count : Nat) : Dict :=
  ⟨[(ascii "Type", .name (ascii "Pages")),
    (ascii "Kids", .array ((List.range count).map fun index => .reference (pageId index))),
    (ascii "Count", .integer count), (ascii "Resources", referTo 3),
    (ascii "MediaBox", .array [.integer 0, .integer 0, .integer 612, .integer 792])]⟩

/-- The dictionary of the font. -/
def font : Dict :=
  ⟨[(ascii "Type", .name (ascii "Font")), (ascii "Subtype", .name (ascii "Type1")),
    (ascii "BaseFont", .name (ascii "Courier")),
    (ascii "Encoding", .name (ascii "WinAnsiEncoding"))]⟩

/-- The dictionary of the resources, which name the font. -/
def resources : Dict := ⟨[(ascii "Font", .dictionary ⟨[(ascii "F1", referTo 2)]⟩)]⟩

/-- The dictionary of the page at an index. -/
def page (index : Nat) : Dict :=
  ⟨[(ascii "Type", .name (ascii "Page")), (ascii "Parent", referTo 1),
    (ascii "Contents", referTo (4 + 2 * index)), (ascii "Resources", referTo 3)]⟩

/-- The dictionary of the catalog. -/
def catalog : Dict :=
  ⟨[(ascii "Type", .name (ascii "Catalog")), (ascii "Pages", referTo 1)]⟩

/-- The pages from an index on, each after its content stream, and the catalog. -/
def sheets (index : Nat) : List Object → List Object
  | [] => [.dictionary catalog]
  | content :: rest => content :: .dictionary (page index) :: sheets (index + 1) rest

/-- The objects of a booklet, given those in the places of the content streams. -/
def parts (contents : List Object) : List Object :=
  .dictionary (tree contents.length) :: .dictionary font :: .dictionary resources ::
    sheets 0 contents

/-- The trailer of a booklet, which names the catalog. -/
def trailer (count : Nat) : Dict := ⟨[(ascii "Root", referTo (4 + 2 * count))]⟩

/-- The operations that show a text. -/
def operations (text : String) : Bytes :=
  ascii "BT\n/F1 24 Tf\n72 700 Td\n(" ++ (Literal.spell 0 (Utf8.encode text) ++ ascii ") Tj\nET")

/-- A content stream. -/
def content (body : Bytes) : Object := .stream ⟨[(ascii "Length", .integer body.length)]⟩ body

/-! ### Where the objects are -/

variable {contents : List Object}

theorem getElem?_sheets (first index : Nat) :
    (sheets first contents)[2 * index]? =
      if index < contents.length then contents[index]?
      else if index = contents.length then some (.dictionary catalog) else none := by
  induction contents generalizing first index with
  | nil => cases index <;> simp [sheets, Nat.mul_add]
  | cons content rest ih =>
    cases index with
    | zero => simp [sheets]
    | succ index => simpa [sheets, Nat.mul_add] using ih (first + 1) index

theorem getElem?_sheets_page (first : Nat) {index : Nat} (inside : index < contents.length) :
    (sheets first contents)[2 * index + 1]? = some (.dictionary (page (first + index))) := by
  induction contents generalizing first index with
  | nil => cases inside
  | cons content rest ih =>
    cases index with
    | zero => rfl
    | succ index =>
      have moved : first + 1 + index = first + (index + 1) := by omega
      rw [← moved, ← ih (first + 1) (by simpa using inside)]
      rfl

theorem length_sheets (first : Nat) : (sheets first contents).length = 2 * contents.length + 1 := by
  induction contents generalizing first with
  | nil => rfl
  | cons content rest ih => rw [sheets, List.length_cons, List.length_cons, ih, List.length_cons]; omega

theorem length_parts : (parts contents).length = 2 * contents.length + 4 := by
  rw [parts, List.length_cons, List.length_cons, List.length_cons, length_sheets]

theorem getElem?_parts_content {index : Nat} {object : Object}
    (found : contents[index]? = some object) : (parts contents)[2 * index + 3]? = some object := by
  have inside : index < contents.length := (List.getElem?_eq_some_iff.mp found).1
  rw [parts, List.getElem?_cons_succ, List.getElem?_cons_succ, List.getElem?_cons_succ,
    getElem?_sheets, if_pos inside, found]

end Booklet

/-! ## Documents that hold a booklet -/

open Booklet

/-- Objects that a page takes for its content: streams, or dictionaries that show nothing. -/
def Object.IsContent : Object → Prop
  | .stream .. | .dictionary _ => True
  | _ => False

/-- A document that holds the objects of a booklet. -/
structure Document.IsBooklet (document : Document) (contents : List Object) : Prop where
  root : (document.trailer.get? "Root").bind Object.reference? = some ⟨4 + 2 * contents.length, 0⟩
  held : ∀ (index : Nat) (object : Object), (parts contents)[index]? = some object →
    document.objects[(⟨index + 1, 0⟩ : ObjectId)]? = some object
  readable : ∀ object ∈ contents, object.IsContent

namespace Booklet

/-- The data that an object shows as the content of a page. -/
def dataOf : Object → Bytes
  | .stream entries body => Page.shownData entries body
  | _ => []

/-- The encodings of a booklet: that of its font. -/
def encodings : PageText.Encodings := (∅ : PageText.Encodings).insert (ascii "F1") (.byTable .winAnsi)

/-- What data shows on a page of a booklet. -/
def textOf (data : Bytes) : Except (Halt PdfError) String := do
  let operations ← (Operation.readAll data).mapError InlineImage.Fault.halt
  let state ← operations.foldlM (PageText.run encodings) {}
  match state.failure with
  | some error => throw (.cause error)
  | none => return String.ofList (state.line ++ state.shown).reverse

end Booklet

namespace Document.IsBooklet

variable {document : Document} {contents : List Object}

theorem dictionaryAt (booklet : document.IsBooklet contents) {index : Nat} {entries : Dict}
    (found : (parts contents)[index]? = some (.dictionary entries)) :
    document.dictionaryAt ⟨index + 1, 0⟩ = .ok entries :=
  dictionaryAt_of_getElem? (booklet.held index _ found)

theorem dictionaryAt_tree (booklet : document.IsBooklet contents) :
    document.dictionaryAt ⟨1, 0⟩ = .ok (tree contents.length) :=
  booklet.dictionaryAt rfl

theorem dictionaryAt_font (booklet : document.IsBooklet contents) :
    document.dictionaryAt ⟨2, 0⟩ = .ok font :=
  booklet.dictionaryAt rfl

theorem dictionaryAt_resources (booklet : document.IsBooklet contents) :
    document.dictionaryAt ⟨3, 0⟩ = .ok resources :=
  booklet.dictionaryAt rfl

theorem getElem?_content (booklet : document.IsBooklet contents) {index : Nat} {object : Object}
    (found : contents[index]? = some object) :
    document.objects[(⟨4 + 2 * index, 0⟩ : ObjectId)]? = some object := by
  have number : 4 + 2 * index = 2 * index + 3 + 1 := by omega
  rw [number]
  exact booklet.held _ _ (getElem?_parts_content found)

theorem dictionaryAt_page (booklet : document.IsBooklet contents) {index : Nat}
    (inside : index < contents.length) : document.dictionaryAt (pageId index) = .ok (page index) := by
  have place : (parts contents)[2 * index + 1 + 3]? = some (.dictionary (page index)) := by
    rw [parts, List.getElem?_cons_succ, List.getElem?_cons_succ, List.getElem?_cons_succ,
      getElem?_sheets_page 0 inside, Nat.zero_add]
  have number : pageId index = ⟨2 * index + 1 + 3 + 1, 0⟩ := by
    rw [pageId, ObjectId.mk.injEq]
    omega
  rw [number]
  exact booklet.dictionaryAt place

theorem dictionaryAt_catalog (booklet : document.IsBooklet contents) :
    document.dictionaryAt ⟨4 + 2 * contents.length, 0⟩ = .ok catalog := by
  have place : (parts contents)[2 * contents.length + 3]? = some (.dictionary catalog) := by
    rw [parts, List.getElem?_cons_succ, List.getElem?_cons_succ, List.getElem?_cons_succ,
      getElem?_sheets, if_neg (Nat.lt_irrefl _), if_pos rfl]
  have number : 4 + 2 * contents.length = 2 * contents.length + 3 + 1 := by omega
  rw [number]
  exact booklet.dictionaryAt place

/-! ### The pages -/

theorem pageTreeRoot? (booklet : document.IsBooklet contents) :
    document.pageTreeRoot? = some ⟨1, 0⟩ :=
  pageTreeRoot?_eq booklet.root booklet.dictionaryAt_catalog

theorem kids (booklet : document.IsBooklet contents) :
    PageTree.kids document ⟨1, 0⟩ =
      ((List.range contents.length).map pageId).map Object.reference := by
  rw [List.map_map]
  exact PageTree.kids_of_listed booklet.dictionaryAt_tree rfl

/-- The page tree of a booklet is one row of pages. -/
theorem hasPageTree (booklet : document.IsBooklet contents) :
    document.HasPageTree (.ofPages ((List.range contents.length).map pageId)) where
  root := ⟨_, booklet.pageTreeRoot?, by rw [booklet.kids, PageTree.Forest.references_ofPages]⟩
  stands := PageTree.Forest.standsIn_ofPages fun id listed => by
    obtain ⟨index, inside, rfl⟩ := List.mem_map.mp listed
    exact ⟨page index, booklet.dictionaryAt_page (List.mem_range.mp inside), rfl⟩
  distinct := by
    rw [PageTree.Forest.ids_ofPages]
    refine List.Nodup.map (fun first second same => ?_) List.nodup_range
    have numbers : 5 + 2 * first = 5 + 2 * second := congrArg ObjectId.number same
    omega
  shallow := Nat.le_trans (PageTree.Forest.levels_ofPages_le _) (by decide)

/-- The pages of a booklet. -/
theorem pages (booklet : document.IsBooklet contents) :
    document.pages = (List.range contents.length).map pageId := by
  rw [booklet.hasPageTree.pages_eq, PageTree.Forest.leaves_ofPages]

theorem pageCount (booklet : document.IsBooklet contents) :
    document.pageCount = contents.length := by
  rw [Document.pageCount, booklet.pages, List.length_map, List.length_range]

/-! ### The texts -/

theorem content (booklet : document.IsBooklet contents) {index : Nat} {object : Object}
    (found : contents[index]? = some object) :
    Page.content document (pageId index) = dataOf object := by
  have inside : index < contents.length := (List.getElem?_eq_some_iff.mp found).1
  have held := booklet.getElem?_content found
  have listed : (page index).get? "Contents" = some (.reference ⟨4 + 2 * index, 0⟩) := rfl
  have readable := booklet.readable object (List.mem_of_getElem? found)
  rw [Page.content, Page.contentIdsOf, booklet.dictionaryAt_page inside]
  simp only [listed, Page.contentIds_reference, held]
  cases object with
  | stream entries body =>
    rw [List.flatMap_singleton, Page.contentData, objectAt_of_getElem? held rfl]
    rfl
  | dictionary entries => rfl
  | _ => cases readable

theorem resourceIds (booklet : document.IsBooklet contents) (index budget : Nat) :
    Page.resourceIds document (budget + 2) [] (page index) = .ok [⟨3, 0⟩, ⟨3, 0⟩] := by
  have own : ((page index).get? "Resources").bind Object.reference? = some ⟨3, 0⟩ := rfl
  have parent : ((page index).get? "Parent").bind Object.reference? = some ⟨1, 0⟩ := rfl
  simp only [Page.resourceIds, own, parent, booklet.dictionaryAt_tree]
  rfl

/-- Every page has the one font. -/
theorem fonts (booklet : document.IsBooklet contents) {index : Nat}
    (inside : index < contents.length) :
    Page.fonts document (pageId index) =
      .ok (((∅ : Page.Fonts).insertIfNew (ascii "F1") font).insertIfNew (ascii "F1") font) := by
  have direct : ((page index).get? "Resources").bind Object.dictionary? = none := rfl
  have named : (resources.get? "Font").bind (Page.dictionary? document) =
      some ⟨[(ascii "F1", referTo 2)]⟩ := rfl
  have meant : Page.dictionary? document (referTo 2) = some font := by
    rw [referTo, Page.dictionary?, booklet.dictionaryAt_font]
    rfl
  have added (fonts : Page.Fonts) : Page.addFonts document fonts resources =
      fonts.insertIfNew (ascii "F1") font := by
    simp only [Page.addFonts, named, List.foldl_cons, List.foldl_nil, meant]
  have reached : (document.dictionaryAt ⟨3, 0⟩).toOption = some resources := by
    rw [booklet.dictionaryAt_resources]
    rfl
  rw [Page.fonts, booklet.dictionaryAt_page inside]
  simp only [direct, booklet.resourceIds]
  simp only [Option.toList_none, Except.ok_bind, List.filterMap_cons, List.filterMap_nil, reached,
    List.nil_append, List.foldl_cons, List.foldl_nil, added]
  rfl

theorem start (document : Document) :
    PageText.start document
      (((∅ : Page.Fonts).insertIfNew (ascii "F1") font).insertIfNew (ascii "F1") font) =
      (encodings, {}) := rfl

/-- What stands in the place of its content stream decides what a page shows. -/
theorem ofPage (booklet : document.IsBooklet contents) {index : Nat} {object : Object}
    (found : contents[index]? = some object) :
    PageText.ofPage document (pageId index) = textOf (dataOf object) := by
  have inside : index < contents.length := (List.getElem?_eq_some_iff.mp found).1
  rw [PageText.ofPage, booklet.fonts inside, Except.mapError_ok, Except.ok_bind]
  simp only [start, booklet.content found]
  rfl

/-- The text of the page at an index. -/
theorem pageText (booklet : document.IsBooklet contents) {index : Nat} {object : Object}
    (found : contents[index]? = some object) :
    document.pageText index = (textOf (dataOf object)).mapError (·.map (.page (index + 1))) := by
  have inside : index < contents.length := (List.getElem?_eq_some_iff.mp found).1
  have numbered : document.page? (index + 1) = some (pageId index) := by
    rw [page?, if_neg (Nat.succ_ne_zero index), booklet.pages, Nat.add_sub_cancel,
      List.getElem?_map, List.getElem?_range inside]
    rfl
  rw [Document.pageText, booklet.pageCount, if_pos inside, PageText.ofNumber, numbered]
  simp only [booklet.ofPage found]

end Document.IsBooklet

/-! ## Texts that are shown -/

namespace Booklet

theorem textOf_nil : textOf [] = .ok "" := rfl

theorem dataOf_content (body : Bytes) : dataOf (content body) = body := rfl

/-- The operations before a text is shown. -/
def setup : List Operation :=
  [⟨ascii "BT", []⟩, ⟨ascii "Tf", [.name (ascii "F1"), .integer 24]⟩,
    ⟨ascii "Td", [.integer 72, .integer 700]⟩]

/-- The operations that show a text. -/
def showing (bytes : Bytes) : List Operation := [⟨ascii "Tj", [.string bytes]⟩, ⟨ascii "ET", []⟩]

/-- An operation stands at the front of some bytes, and no image does. -/
structure Stands (budget : Nat) (bytes : Bytes) (operation : Operation) (rest : Bytes) : Prop where
  noImage : (do Content.comments budget; Rule.literal "BI" : Rule Unit) bytes = none
  read : (do Content.comments budget; Content.operation budget : Rule Operation) bytes =
    some (operation, rest)

/-- One more operation is read. -/
theorem Stands.readFrom {budget left : Nat} {done : List Operation} {bytes rest : Bytes}
    {operation : Operation} (stands : Stands budget bytes operation rest) :
    Operation.readFrom budget (left + 1) done bytes =
      Operation.readFrom budget left (operation :: done) rest := by
  rw [Operation.readFrom]
  simp only [stands.noImage, stands.read]

/-- Reading ends where no operation stands. -/
theorem readFrom_end {budget left : Nat} {done : List Operation} {bytes : Bytes}
    (noImage : (do Content.comments budget; Rule.literal "BI" : Rule Unit) bytes = none)
    (unread : (do Content.comments budget; Content.operation budget : Rule Operation) bytes = none) :
    Operation.readFrom budget left done bytes = .ok done.reverse := by
  cases left with
  | zero => rfl
  | succ left =>
    rw [Operation.readFrom]
    simp only [noImage, unread]

section Words

variable {budget : Nat} {bytes word gap rest : Bytes} {values : List Object}

theorem isOperatorByte_of_isSpace {b : UInt8} (space : Content.isSpace b) :
    Content.isOperatorByte b = false := by
  have cases : ((b = 0x20 ∨ b = 0x09) ∨ b = 0x0A) ∨ b = 0x0D := by
    simpa [Content.isSpace, isInline, isLineEnd, or_assoc] using space
  obtain ((rfl | rfl) | rfl) | rfl := cases <;> rfl

theorem stops_of_isSpace (spaces : gap.all Content.isSpace) (some_ : gap ≠ []) :
    Rule.Stops Content.isOperatorByte (gap ++ rest) := by
  obtain ⟨b, others, rfl⟩ := List.exists_cons_of_ne_nil some_
  exact Rule.stops_cons
    (isOperatorByte_of_isSpace (List.all_eq_true.mp spaces b List.mem_cons_self))

/-- Operands, a word, and white space are an operation. -/
theorem Stands.of_operands
    (noImage : (do Content.comments budget; Rule.literal "BI" : Rule Unit) bytes = none)
    (uncommented : Content.comments budget bytes = some ((), bytes))
    (operands : Rule.many (Content.operand budget) budget bytes =
      some (values, word ++ (gap ++ rest)))
    (some_ : word ≠ []) (letters : word.all Content.isOperatorByte)
    (ends : Rule.Stops Content.isOperatorByte (gap ++ rest))
    (spaces : gap.all Content.isSpace) (stop : Rule.Stops Content.isSpace rest) :
    Stands budget bytes ⟨word, values⟩ rest := by
  refine ⟨noImage, ?_⟩
  rw [Rule.bind_apply, uncommented, Option.bind_some, Content.operation, Rule.bind_apply, operands,
    Option.bind_some, Rule.bind_apply, Rule.run1_append some_ (List.all_eq_true.mp letters) ends,
    Option.bind_some, Rule.bind_apply, Content.space, Rule.bind_apply,
    Rule.run_append (List.all_eq_true.mp spaces) stop]
  rfl

end Words

section Reading

variable (budget : Nat) (rest : Bytes)

/-- A parenthesis begins a string or nothing at all. -/
theorem operand_string : Content.operand budget (0x28 :: rest) =
    (Token.stringBytes 0 [] 0 rest).bind fun found =>
      some (.string found.1, (found.2.span Content.isSpace).2) := by
  have literal : Token.literalString (0x28 :: rest) = Token.stringBytes 0 [] 0 rest := rfl
  have hex : Token.hexString (0x28 :: rest) = none := rfl
  have name : Token.name (0x28 :: rest) = none := rfl
  have compound : Direct.compoundOf (Direct.object budget) budget (0x28 :: rest) = none := rfl
  rw [Content.operand, Rule.bind_apply, Rule.orElse_apply, Rule.orElse_apply,
    Token.keyword_eq_none (by decide), Direct.scalar_eq, Token.real_eq_none (by decide),
    Token.integer_eq_none (by decide), literal, hex, name, compound]
  cases Token.stringBytes 0 [] 0 rest <;> rfl

theorem comments_string : Content.comments budget (0x28 :: rest) = some ((), 0x28 :: rest) := by
  cases budget <;> rfl

/-- The last operation, and the white space after it. -/
theorem stands_close {close : Bytes} (spaces : close.all Content.isSpace) :
    Stands (budget + 3) (0x45 :: 0x54 :: close) ⟨ascii "ET", []⟩ [] := by
  have ends : Rule.Stops Content.isOperatorByte (close ++ []) := by
    by_cases none_ : close = []
    · rw [none_]
      exact nofun
    · exact stops_of_isSpace spaces none_
  have operands : Rule.many (Content.operand (budget + 3)) (budget + 3)
      (0x45 :: 0x54 :: close) = some ([], ascii "ET" ++ (close ++ [])) := by
    rw [List.append_nil]
    rfl
  exact .of_operands rfl rfl operands (by decide) rfl ends spaces nofun

variable {budget rest}

/-- Where a text is not read, no operation is. -/
theorem readFrom_unread {left : Nat} {done : List Operation}
    (unread : Token.stringBytes 0 [] 0 rest = none) :
    Operation.readFrom (budget + 3) left done (0x28 :: rest) = .ok done.reverse := by
  have operand : Content.operand (budget + 3) (0x28 :: rest) = none := by
    rw [operand_string, unread]
    rfl
  have operands : Rule.many (Content.operand (budget + 3)) (budget + 3) (0x28 :: rest) =
      some ([], 0x28 :: rest) := by
    rw [Rule.many, Rule.manyAfter]
    simp only [operand]
    rfl
  refine readFrom_end rfl ?_
  rw [Rule.bind_apply, comments_string, Option.bind_some, Content.operation, Rule.bind_apply,
    operands]
  rfl

section Gap

variable {gap : Bytes} (spaces : gap.all Content.isSpace) (some_ : gap ≠ [])
include spaces some_

theorem stands_begin : Stands (budget + 3) (0x42 :: 0x54 :: (gap ++ 0x2F :: rest))
    ⟨ascii "BT", []⟩ (0x2F :: rest) :=
  .of_operands rfl rfl rfl (by decide) rfl (stops_of_isSpace spaces some_) spaces
    (Rule.stops_cons rfl)

theorem stands_select : Stands (budget + 3)
    (0x2F :: 0x46 :: 0x31 :: 0x20 :: 0x32 :: 0x34 :: 0x20 :: 0x54 :: 0x66 :: (gap ++ 0x37 :: rest))
    ⟨ascii "Tf", [.name (ascii "F1"), .integer 24]⟩ (0x37 :: rest) :=
  .of_operands rfl rfl rfl (by decide) rfl (stops_of_isSpace spaces some_) spaces
    (Rule.stops_cons rfl)

theorem stands_move : Stands (budget + 3)
    (0x37 :: 0x32 :: 0x20 :: 0x37 :: 0x30 :: 0x30 :: 0x20 :: 0x54 :: 0x64 :: (gap ++ 0x28 :: rest))
    ⟨ascii "Td", [.integer 72, .integer 700]⟩ (0x28 :: rest) :=
  .of_operands rfl rfl rfl (by decide) rfl (stops_of_isSpace spaces some_) spaces
    (Rule.stops_cons rfl)

/-- A string that is read is shown. -/
theorem stands_show {inner string : Bytes}
    (read : Token.stringBytes 0 [] 0 inner =
      some (string, 0x20 :: 0x54 :: 0x6A :: (gap ++ 0x45 :: rest))) :
    Stands (budget + 3) (0x28 :: inner) ⟨ascii "Tj", [.string string]⟩ (0x45 :: rest) := by
  have operand : Content.operand (budget + 3) (0x28 :: inner) =
      some (.string string, 0x54 :: 0x6A :: (gap ++ 0x45 :: rest)) := by
    rw [operand_string, read]
    rfl
  have operands : Rule.many (Content.operand (budget + 3)) (budget + 3) (0x28 :: inner) =
      some ([.string string], ascii "Tj" ++ (gap ++ 0x45 :: rest)) := by
    rw [Rule.many, Rule.manyAfter]
    simp only [operand]
    rfl
  exact .of_operands rfl (comments_string _ _) operands (by decide) rfl
    (stops_of_isSpace spaces some_) spaces (Rule.stops_cons rfl)

end Gap

end Reading

/-- A content stream with the same white space between its operations, given what follows the
parenthesis in front of its string. -/
def upToString (gap inner : Bytes) : Bytes :=
  0x42 :: 0x54 :: (gap ++ 0x2F :: 0x46 :: 0x31 :: 0x20 :: 0x32 :: 0x34 :: 0x20 :: 0x54 :: 0x66 ::
    (gap ++ 0x37 :: 0x32 :: 0x20 :: 0x37 :: 0x30 :: 0x30 :: 0x20 :: 0x54 :: 0x64 ::
      (gap ++ 0x28 :: inner)))

/-- The operations in front of the string are read in any case. -/
theorem readAll_upToString {gap : Bytes} (spaces : gap.all Content.isSpace) (some_ : gap ≠ [])
    (inner : Bytes) :
    ∃ budget, Operation.readAll (upToString gap inner) =
      Operation.readFrom (budget + 5) (budget + 2) setup.reverse (0x28 :: inner) := by
  obtain ⟨budget, long⟩ : ∃ budget, (upToString gap inner).length + 1 = budget + 5 := by
    refine ⟨(upToString gap inner).length - 4, ?_⟩
    simp only [upToString, List.length_cons, List.length_append]
    omega
  refine ⟨budget, ?_⟩
  have trimmed : (upToString gap inner).dropWhile Content.isSpace = upToString gap inner := rfl
  rw [Operation.readAll, trimmed, long, upToString, (stands_begin spaces some_).readFrom,
    (stands_select spaces some_).readFrom, (stands_move spaces some_).readFrom]
  rfl

theorem operations_eq (text : String) : operations text = upToString [0x0A]
    (Literal.spell 0 (Utf8.encode text) ++ 0x29 :: [0x20, 0x54, 0x6A, 0x0A, 0x45, 0x54]) := by
  have front : ascii "BT\n/F1 24 Tf\n72 700 Td\n(" = [0x42, 0x54, 0x0A, 0x2F, 0x46, 0x31, 0x20,
    0x32, 0x34, 0x20, 0x54, 0x66, 0x0A, 0x37, 0x32, 0x20, 0x37, 0x30, 0x30, 0x20, 0x54, 0x64, 0x0A,
    0x28] := by decide
  have back : ascii ") Tj\nET" = 0x29 :: [0x20, 0x54, 0x6A, 0x0A, 0x45, 0x54] := by decide
  rw [operations, front, back]
  rfl

/-- The text is shown if it is read, and otherwise nothing is. -/
theorem readAll_operations (text : String) :
    Operation.readAll (operations text) = .ok (setup ++ showing (Utf8.encode text)) ∨
      Operation.readAll (operations text) = .ok setup := by
  have spaces : List.all [0x0A] Content.isSpace := rfl
  obtain ⟨budget, front⟩ := readAll_upToString spaces (List.cons_ne_nil _ _)
    (Literal.spell 0 (Utf8.encode text) ++ 0x29 :: [0x20, 0x54, 0x6A, 0x0A, 0x45, 0x54])
  rw [operations_eq, front]
  have closing : Literal.AllClose 0 (Utf8.encode text) := trivial
  rcases Token.stringBytes_spell closing [] [0x20, 0x54, 0x6A, 0x0A, 0x45, 0x54] with
    read | ⟨-, unread⟩
  · left
    rw [(stands_show spaces (List.cons_ne_nil _ _) read).readFrom, (stands_close _ rfl).readFrom,
      readFrom_end rfl rfl]
    rfl
  · right
    rw [readFrom_unread unread]
    rfl

/-- No page of a booklet fails, whatever its text is. -/
theorem textOf_operations (text : String) : ∃ shown, textOf (operations text) = .ok shown := by
  rcases readAll_operations text with read | read
  · have shown : setup.foldlM (PageText.run encodings) {} =
        .ok { encoding := some (.byTable .winAnsi) } := rfl
    -- The line ends after the text has been shown, without a failure.
    obtain ⟨state, ended, sound⟩ : ∃ state, (showing (Utf8.encode text)).foldlM
        (PageText.run encodings) { encoding := some (.byTable .winAnsi) } = .ok state ∧
          state.failure = none := by
      refine ⟨_, rfl, ?_⟩
      unfold PageText.endLine
      split <;> rfl
    rw [textOf, read, Except.mapError_ok, Except.ok_bind, List.foldlM_append, shown, Except.ok_bind,
      ended, Except.ok_bind, sound]
    exact ⟨_, rfl⟩
  · exact ⟨"", by rw [textOf, read]; rfl⟩

end Booklet

end PdfText

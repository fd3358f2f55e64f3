import PdfText.PageCursor
import PdfText.Proofs.Breakdown

/-!
# The order of pages

The pages of a document are the leaves of its page tree in order, so their texts follow one another
in this order too. The root of the tree is asked for its children only. If the catalog refers to a
page instead, the document has no pages.

## Main definitions

* `PageTree.fileOf` — a file of dictionaries such as page trees consist of

## Main results

* `Document.extract_eq_ok_iff` — an extraction gives the texts of the pages in order
* `Document.pages_in_order` — these are the leaves of the page tree, wherever there is one
* `PageTree.lonePage_is_missed` — the root itself does not count, even if it is a page
-/

namespace PdfText

namespace Document

/-- An extraction gives the texts of the pages in order, if all of them have one. -/
theorem extract_eq_ok_iff {document : Document} {text : String} : document.extract = .ok text ↔
    ∃ texts, document.pages.map (PageText.ofPage document) = texts.map .ok ∧
      text = joinPages texts := by
  have each (texts : List String) : document.pageTexts = .ok texts ↔
      document.pages.map (PageText.ofPage document) = texts.map .ok := by
    rw [pageTexts_eq_ok_iff, List.ext_getElem?_iff, List.ext_getElem?_iff]
    refine forall_congr' fun index => ?_
    simp only [List.getElem?_map]
    cases found : document.pages[index]? with
    | none =>
      have beyond : (List.range document.pageCount)[index]? = none := by
        rw [List.getElem?_eq_none_iff, List.length_range]
        exact List.getElem?_eq_none_iff.mp found
      cases texts[index]? <;> simp [beyond]
    | some page =>
      have inside : index < document.pageCount := (List.getElem?_eq_some_iff.mp found).1
      rw [List.getElem?_range inside, Option.map_some, Option.map_some, pageText_eq found]
      cases texts[index]? <;> simp [Except.mapError_eq_ok_iff]
  rw [extract_eq]
  cases read : document.pageTexts with
  | error halt => simp [Except.map, ← each, read]
  | ok texts => simp [Except.map, ← each, read, eq_comm]

/-- The pages of a document are the leaves of its page tree, each once, in the order in which one
goes down before one goes on. They are numbered in this order, and their texts follow one another in
it. Whatever the objects of a document are, it has no more pages than objects. -/
theorem pages_in_order (document : Document) :
    (∀ nodes, document.HasPageTree nodes →
      document.pages = nodes.leaves ∧ nodes.leaves.Nodup ∧
      document.pageCount = nodes.leaves.length ∧
      (∀ index page, nodes.leaves[index]? = some page → document.pageText index =
        (PageText.ofPage document page).mapError (·.map (.page (pageNumber index)))) ∧
      ∀ text, document.extract = .ok text ↔
        ∃ texts, nodes.leaves.map (PageText.ofPage document) = texts.map .ok ∧
          text = joinPages texts) ∧
    document.pageCount ≤ document.objects.size := by
  refine ⟨fun nodes tree => ⟨tree.pages_eq, ?_, ?_, fun index page found => ?_, fun text =>
    ?_⟩, document.pageCount_le_size⟩
  · exact nodes.leaves_sublist_ids.nodup tree.distinct
  · rw [pageCount, tree.pages_eq]
  · exact pageText_eq (tree.pages_eq ▸ found)
  · rw [extract_eq_ok_iff, tree.pages_eq]

end Document

/-! ## Files that hold page trees -/

namespace PageTree

open Booklet (referTo catalog)

/-- A page without anything on it. -/
def leaf : Dict := ⟨[(ascii "Type", .name (ascii "Page"))]⟩

/-- A node with children, which claims to have some number of pages. -/
def branch (children : List Nat) (count : Nat) : Dict :=
  ⟨[(ascii "Type", .name (ascii "Pages")), (ascii "Kids", .array (children.map referTo)),
    (ascii "Count", .integer count)]⟩

/-- A file of dictionaries numbered from 1, of which one is the catalog. -/
def fileOf (dictionaries : List Dict) (place : Nat) : Bytes :=
  SavedFile.save (dictionaries.map .dictionary) (SavedFile.rooted place)

theorem isBare_leaf : (Object.dictionary leaf).IsBare := by
  refine .dictionary [ascii "Type"] rfl (by decide) (by decide) ?_
  rw [List.forall_mem_singleton]
  exact .name (by decide)

theorem isBare_branch {children : List Nat} {count : Nat}
    (few : ∀ number ∈ children, number < sizeOfBits 32) (small : count < sizeOfBits 63) :
    (Object.dictionary (branch children count)).IsBare := by
  refine .dictionary [ascii "Type", ascii "Kids", ascii "Count"] rfl (by decide) (by decide) ?_
  simp only [List.forall_mem_cons]
  refine ⟨.name (by decide), .array fun kid inside => ?_, .integer (by omega) (by omega), nofun⟩
  obtain ⟨number, listed, rfl⟩ := List.mem_map.mp inside
  exact .reference (few number listed)

/-- What is written in such a file is found again. -/
theorem load_fileOf {dictionaries : List Dict} {place : Nat} (few : place < sizeOfBits 32)
    (bare : ∀ entries ∈ dictionaries, (Object.dictionary entries).IsBare)
    (fits : (fileOf dictionaries place).length < sizeOfBits 32) :
    ∃ document, Document.load (fileOf dictionaries place) none = .ok document ∧
      (document.trailer.get? "Root").bind Object.reference? = some ⟨place, 0⟩ ∧
      ∀ number entries, dictionaries[number]? = some entries →
        document.dictionaryAt ⟨number + 1, 0⟩ = .ok entries := by
  obtain ⟨document, loaded, placed, stored⟩ := SavedFile.exists_load few fits
    (List.forall_mem_map.mpr fun entries inside => .dictionary (bare entries inside).readable)
    (List.forall_mem_map.mpr fun entries inside => ⟨rfl, nofun⟩)
  refine ⟨document, loaded none, placed, fun number entries held => ?_⟩
  refine Document.dictionaryAt_of_getElem? ((stored _).trans ?_)
  rw [savedAt, List.getElem?_map, held, Option.map_some]

/-- A file with pages on two levels. One node has no children, and none has as many pages as it
claims. -/
def nestedFile : Bytes :=
  fileOf [branch [2, 3, 4] 7, leaf, branch [] 5, branch [5] 0, leaf, catalog] 6

/-- The pages of this file come in the order of its page tree. -/
theorem nestedFile_in_order : ∃ document, Document.load nestedFile none = .ok document ∧
    (∃ nodes, document.HasPageTree nodes ∧ nodes.leaves = [⟨2, 0⟩, ⟨5, 0⟩]) ∧
    document.pages = [⟨2, 0⟩, ⟨5, 0⟩] ∧ document.pageCount = 2 ∧
    document.pageCount ≤ document.objects.size := by
  have bare : ∀ entries ∈ [branch [2, 3, 4] 7, leaf, branch [] 5, branch [5] 0, leaf, catalog],
      (Object.dictionary entries).IsBare := by
    simp only [List.forall_mem_cons]
    exact ⟨isBare_branch (by decide) (by decide), isBare_leaf,
      isBare_branch (by decide) (by decide), isBare_branch (by decide) (by decide), isBare_leaf,
      Booklet.isBare_catalog, nofun⟩
  obtain ⟨document, loaded, placed, held⟩ :=
    @load_fileOf _ 6 (by decide) bare (by decide +kernel)
  have kids {number : Nat} {children : List Nat} {count : Nat}
      (found : document.dictionaryAt ⟨number, 0⟩ = .ok (branch children count)) :
      kids document ⟨number, 0⟩ = children.map referTo := kids_of_listed found rfl
  let nodes : Forest :=
    .page ⟨2, 0⟩ (.pages ⟨3, 0⟩ .nil (.pages ⟨4, 0⟩ (.page ⟨5, 0⟩ .nil) .nil))
  have tree : document.HasPageTree nodes := {
    root := ⟨⟨1, 0⟩, Document.pageTreeRoot?_eq placed (held 5 _ rfl), kids (held 0 _ rfl)⟩
    stands := ⟨⟨_, held 1 _ rfl, by decide⟩,
      ⟨_, held 2 _ rfl, by decide⟩, kids (held 2 _ rfl), trivial,
      ⟨_, held 3 _ rfl, by decide⟩, kids (held 3 _ rfl),
      ⟨⟨_, held 4 _ rfl, by decide⟩, trivial⟩, trivial⟩
    distinct := by decide
    shallow := by decide }
  obtain ⟨ordered, few⟩ := document.pages_in_order
  obtain ⟨pages, -, count, -⟩ := ordered nodes tree
  exact ⟨document, loaded, ⟨nodes, tree, rfl⟩, pages, count, few⟩

/-- A file whose catalog refers to a page. -/
def lonePageFile : Bytes := fileOf [leaf, catalog] 2

/-- The root of a page tree does not count, even if it is a page: what the catalog refers to is
asked for its children only. -/
theorem lonePage_is_missed : ∃ document, Document.load lonePageFile none = .ok document ∧
    (∃ id entries, document.pageTreeRoot? = some id ∧ document.dictionaryAt id = .ok entries ∧
      entries.hasType "Page" ∧ entries.get? "Kids" = none) ∧
    document.pageCount = 0 := by
  have bare : ∀ entries ∈ [leaf, catalog], (Object.dictionary entries).IsBare := by
    simp only [List.forall_mem_cons]
    exact ⟨isBare_leaf, Booklet.isBare_catalog, nofun⟩
  obtain ⟨document, loaded, placed, held⟩ :=
    @load_fileOf _ 2 (by decide) bare (by decide +kernel)
  have page := held 0 _ rfl
  have root : document.pageTreeRoot? = some ⟨1, 0⟩ :=
    Document.pageTreeRoot?_eq placed (held 1 _ rfl)
  have tree : document.HasPageTree .nil :=
    ⟨⟨_, root, kids_of_unlisted page rfl⟩, trivial, .nil, Nat.zero_le _⟩
  refine ⟨document, loaded, ⟨⟨1, 0⟩, leaf, root, page, by decide, rfl⟩, ?_⟩
  rw [Document.pageCount, tree.pages_eq]
  rfl

end PageTree

end PdfText

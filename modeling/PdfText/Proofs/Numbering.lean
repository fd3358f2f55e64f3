import Mathlib.Data.List.Sort
import PdfText.Proofs.Breakdown
import PdfText.Proofs.Complaints
import PdfText.Proofs.Cursors

/-!
# Page numbers

Pages are counted in three ways. A cursor counts their indices from 0. A document that has been
loaded keeps the list of their numbers, which are words of 32 bits. And whenever the text of a
page is asked for, the page tree is walked again, its pages are entered into a table by their
numbers, and the page is looked up there.

As long as the numbers fit into their words, the three ways agree: the numbers kept are those from 1
on, the one at an index is in the table, and it leads to the page at that index. So a page that is
there is found, one that is not there is out of range, and whatever goes wrong is said of the page
that it goes wrong on.

## Main definitions

* `Document.numberedPages`, `Document.pageNumbers` — the table and the numbers kept
* `Document.pageTextByNumber` — the text of a page by way of both
* `Document.IsNumbered` — the pages of a document are numbered consistently

## Main results

* `Document.pageTextByNumber_eq` — the way by numbers leads to the same page
* `Document.isNumbered` — the pages of every document are numbered consistently
* `secondFile_breaks_down` — a page that is there gives neither a text nor an error
-/

namespace PdfText

namespace Document

/-! ## Numbers -/

/-- The pages with their numbers, which are words of 32 bits, in order. -/
def numbered (document : Document) : List (Nat × ObjectId) :=
  document.pages.zipIdx.map fun (page, index) => (pageNumber index % sizeOfBits 32, page)

/-- The table of the pages by their numbers. -/
def numberedPages (document : Document) : Std.TreeMap Nat ObjectId := .ofList document.numbered

/-- The numbers of the pages, in ascending order. -/
def pageNumbers (document : Document) : List Nat := document.numberedPages.keys

/-- The text of the page that has a number in the table. -/
def textOfNumber (document : Document) (number : Nat) : Except (Halt PdfError) String :=
  match document.numberedPages[number]? with
  | none => .error (.cause .pageNumberNotFound)
  | some page => PageText.ofPage document page

/-- The text of the page whose number stands at an index among all numbers. -/
def pageTextByNumber (document : Document) (index : Nat) : Except (Halt ExtractError) String :=
  match document.pageNumbers[index]? with
  | none => .error (.cause (.pageOutOfRange index document.pageNumbers.length))
  | some number => (document.textOfNumber number).mapError (·.map (.page number))

variable {document : Document} {index : Nat} {page : ObjectId}

section Few

variable (few : document.pageCount < sizeOfBits 32)

include few

/-- As long as there are so few pages, no number leaves the words. -/
theorem numbered_eq :
    document.numbered = document.pages.zipIdx.map fun (page, index) => (pageNumber index, page) := by
  refine List.map_congr_left fun (page, index) inside => ?_
  have bound : index < document.pageCount :=
    (List.getElem?_eq_some_iff.mp (List.mem_zipIdx_iff_getElem?.mp inside)).1
  dsimp only
  rw [Nat.mod_eq_of_lt (by rw [pageNumber]; omega)]

theorem map_fst_numbered : document.numbered.map Prod.fst = List.range' 1 document.pageCount := by
  rw [numbered_eq few, List.map_map]
  change document.pages.zipIdx.map (pageNumber ∘ Prod.snd) = _
  rw [← List.map_map, List.zipIdx_map_snd]
  have shifted : pageNumber = (1 + ·) := funext fun index => Nat.add_comm index 1
  rw [shifted, List.map_add_range', pageCount]

/-- The numbers kept are those from 1 on. -/
theorem pageNumbers_eq : document.pageNumbers = List.range' 1 document.pageCount := by
  have ascending : document.pageNumbers.Pairwise (· < ·) := by
    simpa [pageNumbers, Nat.compare_eq_lt] using
      Std.TreeMap.ordered_keys (t := document.numberedPages)
  refine ascending.eq_of_mem_iff List.pairwise_lt_range' fun number => ?_
  rw [pageNumbers, Std.TreeMap.mem_keys, numberedPages, Std.TreeMap.mem_ofList,
    map_fst_numbered few, List.contains_iff_mem]

/-- The number of a page leads to it. -/
theorem getElem?_numberedPages (found : document.pages[index]? = some page) :
    document.numberedPages[pageNumber index]? = some page := by
  refine Std.TreeMap.getElem?_ofList_of_mem Std.ReflCmp.compare_self ?_ ?_
  · have distinct : (document.numbered.map Prod.fst).Nodup :=
      map_fst_numbered few ▸ List.nodup_range'
    simpa [List.Nodup, List.pairwise_map] using distinct
  · rw [numbered_eq few]
    exact List.mem_map.mpr ⟨(page, index), List.mem_zipIdx_iff_getElem?.mpr found, rfl⟩

/-- By way of the numbers, one comes to the same page. -/
theorem pageTextByNumber_eq (index : Nat) :
    document.pageTextByNumber index = document.pageText index := by
  rw [pageTextByNumber, pageNumbers_eq few, List.length_range']
  by_cases inside : index < document.pageCount
  · obtain ⟨page, found⟩ : ∃ page, document.pages[index]? = some page :=
      ⟨_, List.getElem?_eq_getElem inside⟩
    have number : (List.range' 1 document.pageCount)[index]? = some (pageNumber index) := by
      rw [List.getElem?_range' inside, pageNumber, Nat.one_mul, Nat.add_comm]
    rw [number, pageText_eq found]
    dsimp only
    rw [textOfNumber, getElem?_numberedPages few found, pageNumber]
  · rw [List.getElem?_eq_none (by rw [List.length_range']; omega), pageText, if_neg inside]

end Few

/-! ## Consistent numbering -/

/-- The pages of a document are numbered consistently. -/
structure IsNumbered (document : Document) : Prop where
  /-- The numbers kept are those from 1 on. -/
  numbers : document.pageNumbers = List.range' 1 document.pageCount
  /-- Each leads to the page at its index. -/
  byNumber : ∀ index, document.pageTextByNumber index = document.pageText index
  /-- An index is out of range where there is no page. -/
  outOfRange : ∀ index,
    document.pageText index = .error (.cause (.pageOutOfRange index document.pageCount)) ↔
      document.pageCount ≤ index
  /-- A page that is there gives its own text or an error with its number, unless it breaks down. -/
  inRange : ∀ index page, document.pages[index]? = some page →
    (∃ text, PageText.ofPage document page = .ok text ∧ document.pageText index = .ok text) ∨
    (∃ error, PageText.ofPage document page = .error (.cause error) ∧ error ≠ .pageNumberNotFound ∧
      document.pageText index = .error (.cause (.page (pageNumber index) error))) ∨
    ∃ reason, PageText.BreaksDown document page reason ∧
      document.pageText index = .error (.defect reason)
  /-- No cursor gives a page that is out of range, whatever it is asked for. -/
  handles : ∀ history last, (PageCursor.start document.pageCount).Leads history last →
    ∀ exchange ∈ history, ∀ index ∈ exchange.reply.indices, ∀ other count,
      document.pageText index ≠ .error (.cause (.pageOutOfRange other count))
  /-- No page is out of range in an extraction. -/
  extract_inRange : ∀ index count,
    document.extract ≠ .error (.cause (.pageOutOfRange index count))
  /-- The error of an extraction is that of the first page without a text, and has its number. -/
  extract_first : ∀ error, document.extract = .error (.cause error) ↔
    ∃ index cause, index < document.pageCount ∧ error = .page (pageNumber index) cause ∧
      document.pageText index = .error (.cause error) ∧
      ∀ earlier < index, ∃ text, document.pageText earlier = .ok text

/-- An error of the page at an index has its number, and is not that there is no such page. -/
theorem cause_of_pageText (found : document.pages[index]? = some page) {error : ExtractError}
    (given : document.pageText index = .error (.cause error)) :
    ∃ cause, PageText.ofPage document page = .error (.cause cause) ∧ cause ≠ .pageNumberNotFound ∧
      error = .page (pageNumber index) cause := by
  rw [pageText_eq found, Except.mapError_eq_error_iff] at given
  obtain ⟨halt, failed, restated⟩ := given
  cases halt with
  | defect reason => cases restated
  | cause cause =>
    cases restated
    refine ⟨cause, failed, ?_, rfl⟩
    rintro rfl
    exact PageText.ofPage_failsOnly document page _ failed

theorem exists_page (inside : index < document.pageCount) :
    ∃ page, document.pages[index]? = some page := ⟨_, List.getElem?_eq_getElem inside⟩

/-- No page that is there is out of range. -/
theorem pageText_ne_outOfRange (inside : index < document.pageCount) (other count : Nat) :
    document.pageText index ≠ .error (.cause (.pageOutOfRange other count)) := by
  intro failed
  obtain ⟨page, found⟩ := exists_page inside
  obtain ⟨cause, -, -, restated⟩ := cause_of_pageText found failed
  cases restated

/-- The pages of a document are numbered consistently, however it was loaded and whatever its page
tree looks like, as long as the numbers fit into their words. -/
theorem isNumbered (document : Document) (few : document.pageCount < sizeOfBits 32) :
    document.IsNumbered where
  numbers := pageNumbers_eq few
  byNumber := pageTextByNumber_eq few
  outOfRange index := by
    constructor
    · intro failed
      by_contra inside
      exact pageText_ne_outOfRange (not_le.mp inside) index document.pageCount failed
    · intro outside
      rw [pageText, if_neg (not_lt.mpr outside)]
  inRange index page found := by
    rcases pageText_cases (List.getElem?_eq_some_iff.mp found).1 with
      ⟨text, given⟩ | ⟨error, given⟩ | ⟨reason, ⟨page', found', down⟩, given⟩
    · refine .inl ⟨text, ?_, given⟩
      rwa [pageText_eq found, Except.mapError_eq_ok_iff] at given
    · obtain ⟨cause, failed, named, restated⟩ := cause_of_pageText found given
      cases restated
      exact .inr (.inl ⟨error, failed, named, given⟩)
    · obtain rfl := Option.some.inj (found.symm.trans found')
      exact .inr (.inr ⟨reason, down, given⟩)
  handles history last leads exchange inside index given := by
    have among : index ∈ (PageCursor.start document.pageCount).remaining :=
      leads.indices_sublist.subset
        (List.mem_append_left _ (List.mem_flatMap.mpr ⟨exchange, inside, given⟩))
    exact pageText_ne_outOfRange (PageCursor.lt_of_mem_remaining among)
  extract_inRange index count failed := by
    obtain ⟨place, inside, failed, -⟩ := extract_eq_error_iff.mp failed
    exact pageText_ne_outOfRange inside index count failed
  extract_first error := by
    rw [extract_eq_error_iff]
    constructor
    · rintro ⟨index, inside, failed, before⟩
      obtain ⟨page, found⟩ := exists_page inside
      obtain ⟨cause, -, -, restated⟩ := cause_of_pageText found failed
      exact ⟨index, cause, inside, restated, failed, before⟩
    · rintro ⟨index, cause, inside, -, failed, before⟩
      exact ⟨index, inside, failed, before⟩

end Document

/-! ## A file whose second page breaks down -/

/-- A file of two pages. The first shows a text, the second holds an image without a colour space. -/
def secondFile : Bytes := Booklet.plainFile [Booklet.operations "one", spacelessImage]

theorem load_secondFile : ∃ document, Document.load secondFile none = .ok document ∧
    document.pageCount = 2 ∧ (∃ text, document.pageText 0 = .ok text) ∧
    document.pageText 1 = .error (.defect .inlineImageColorSpace) := by
  obtain ⟨document, loaded, booklet⟩ :=
    @Booklet.load_plainFile [Booklet.operations "one", spacelessImage] (by decide +kernel)
      (by decide +kernel)
  have held (index : Nat) : (Booklet.contents [Booklet.operations "one", spacelessImage])[index]? =
      [Booklet.content (Booklet.operations "one"), Booklet.content spacelessImage][index]? := rfl
  refine ⟨document, loaded none, booklet.pageCount, ?_, ?_⟩
  · obtain ⟨shown, read⟩ := Booklet.textOf_operations "one"
    refine ⟨shown, ?_⟩
    rw [booklet.pageText (held 0), Booklet.dataOf_content, read]
    rfl
  · rw [booklet.pageText (held 1), Booklet.dataOf_content, textOf_spacelessImage]
    rfl

/-- The pages of this file are numbered consistently. -/
theorem secondFile_isNumbered : ∃ document, Document.load secondFile none = .ok document ∧
    document.pageCount = 2 ∧ document.pageCount < sizeOfBits 32 ∧ document.IsNumbered := by
  obtain ⟨document, loaded, count, -⟩ := load_secondFile
  have few : document.pageCount < sizeOfBits 32 := by
    rw [count]
    decide
  exact ⟨document, loaded, count, few, document.isNumbered few⟩

/-- Not every page that is there gives a text or an error with its number. -/
theorem secondFile_breaks_down : ∃ document, Document.load secondFile none = .ok document ∧
    1 < document.pageCount ∧ (∀ text, document.pageText 1 ≠ .ok text) ∧
    ∀ error, document.pageText 1 ≠ .error (.cause (.page (pageNumber 1) error)) := by
  obtain ⟨document, loaded, count, -, given⟩ := load_secondFile
  refine ⟨document, loaded, by rw [count]; decide, fun text => ?_, fun error => ?_⟩
  · rw [given]
    nofun
  · rw [given]
    nofun

end PdfText

import PdfText.Proofs.Defects
import PdfText.Proofs.Endings
import PdfText.Proofs.Entrances
import PdfText.Proofs.SavedBooklet

/-!
# Extractions that break down

Every failure of an extraction is meant to be reported: as an error that says what went wrong, with
the number of the page where a page is to blame, and on the command line as one message and an exit
code of failure. This holds but for pages that break down. Loading a document never does, and
neither does a page that fails, however malformed it is.

An extraction breaks down at the first page that gives no text, if that page breaks down. On the
command line, nothing is printed then, and the exit code is neither that of success nor that of
failure.

## Main definitions

* `Document.BreaksDownAt` — reading the page at an index breaks down
* `Extractor.BreaksDownOn` — extracting the text of some bytes breaks down

## Main results

* `Document.pageText_cases` — a page gives a text, an error with its number, or breaks down
* `Extractor.fromBytes_eq_defect_iff` — when an extraction breaks down
* `CommandLine.failures_are_reported` — all other failures are reported
-/

namespace Except

/-- Steps for numbers in a row fail with the first that does. -/
theorem mapM_range'_eq_error_iff {α ε : Type} {step : Nat → Except ε α} {start count : Nat}
    {reason : ε} :
    (List.range' start count).mapM step = .error reason ↔
      ∃ index, start ≤ index ∧ index < start + count ∧ step index = .error reason ∧
        ∀ earlier, start ≤ earlier → earlier < index → ∃ value, step earlier = .ok value := by
  -- By induction on how many numbers there are, for all to start from.
  induction count generalizing start with
  | zero =>
    refine ⟨nofun, ?_⟩
    rintro ⟨index, low, high, -⟩
    omega
  | succ count ih =>
    rw [List.range'_succ, List.mapM_cons]
    cases first : step start with
    | error reason' =>
      rw [error_bind]
      constructor
      · rintro ⟨⟩
        exact ⟨start, le_refl _, by omega, first, fun earlier low high => by omega⟩
      · rintro ⟨index, low, high, failed, before⟩
        -- The step for the start is the first of all.
        obtain rfl | later := Nat.eq_or_lt_of_le low
        · cases first.symm.trans failed
          rfl
        · obtain ⟨value, done⟩ := before start (le_refl _) later
          cases first.symm.trans done
    | ok value =>
      have rest : ((List.range' (start + 1) count).mapM step >>= fun values =>
          (.ok (value :: values) : Except ε (List α))) = .error reason ↔
            (List.range' (start + 1) count).mapM step = .error reason := by
        cases (List.range' (start + 1) count).mapM step <;> simp
      rw [ok_bind]
      refine rest.trans (ih.trans ⟨?_, ?_⟩)
      · rintro ⟨index, low, high, failed, before⟩
        refine ⟨index, by omega, by omega, failed, fun earlier low' high' => ?_⟩
        obtain rfl | later := Nat.eq_or_lt_of_le low'
        · exact ⟨value, first⟩
        · exact before earlier later high'
      · rintro ⟨index, low, high, failed, before⟩
        obtain rfl | later := Nat.eq_or_lt_of_le low
        · cases first.symm.trans failed
        · exact ⟨index, later, by omega, failed, fun earlier low' => before earlier (by omega)⟩

end Except

namespace PdfText

/-! ## Documents -/

namespace Document

variable {document : Document} {index : Nat} {reason : Defect}

/-- Reading the page at an index breaks down. -/
def BreaksDownAt (document : Document) (index : Nat) (reason : Defect) : Prop :=
  ∃ page, document.pages[index]? = some page ∧ PageText.BreaksDown document page reason

/-- What a page gives that is there. -/
theorem pageText_eq {page : ObjectId} (found : document.pages[index]? = some page) :
    document.pageText index =
      (PageText.ofPage document page).mapError (·.map (.page (index + 1))) := by
  have inside : index < document.pages.length := (List.getElem?_eq_some_iff.mp found).1
  have numbered : document.page? (index + 1) = some page := by
    rw [page?, if_neg (Nat.succ_ne_zero index), Nat.add_sub_cancel, found]
  rw [pageText, pageCount, if_pos inside, PageText.ofNumber, numbered]

/-- Asking for a page breaks down where reading it does, and never where there is none. -/
theorem pageText_eq_defect_iff :
    document.pageText index = .error (.defect reason) ↔ document.BreaksDownAt index reason := by
  cases found : document.pages[index]? with
  | none =>
    have outside : ¬ index < document.pageCount := by
      rw [pageCount, not_lt]
      exact List.getElem?_eq_none_iff.mp found
    rw [pageText, if_neg outside]
    constructor
    · intro failed
      cases failed
    · rintro ⟨page, found', -⟩
      cases found.symm.trans found'
  | some page =>
    have same (halt : Halt PdfError) :
        halt.map (ExtractError.page (index + 1)) = .defect reason ↔ halt = .defect reason := by
      cases halt <;> simp [Halt.map]
    rw [pageText_eq found, Except.mapError_eq_error_iff]
    simp only [same, exists_eq_right, PageText.ofPage_eq_defect_iff, BreaksDownAt, found,
      Option.some.injEq, exists_eq_left']

/-- A page that is there gives a text or an error with its number, unless it breaks down. -/
theorem pageText_cases (inside : index < document.pageCount) :
    (∃ text, document.pageText index = .ok text) ∨
      (∃ error, document.pageText index = .error (.cause (.page (index + 1) error))) ∨
      ∃ reason, document.BreaksDownAt index reason ∧
        document.pageText index = .error (.defect reason) := by
  obtain ⟨page, found⟩ : ∃ page, document.pages[index]? = some page :=
    ⟨_, List.getElem?_eq_getElem inside⟩
  cases given : document.pageText index with
  | ok text => exact .inl ⟨text, rfl⟩
  | error halt =>
    cases halt with
    | defect reason => exact .inr (.inr ⟨reason, pageText_eq_defect_iff.mp given, rfl⟩)
    | cause error =>
      rw [pageText_eq found, Except.mapError_eq_error_iff] at given
      obtain ⟨halt, -, restated⟩ := given
      cases halt with
      | defect reason => cases restated
      | cause error =>
        cases restated
        exact .inr (.inl ⟨error, rfl⟩)

theorem pageTexts_eq_error_iff {halt : Halt ExtractError} :
    document.pageTexts = .error halt ↔
      ∃ index < document.pageCount, document.pageText index = .error halt ∧
        ∀ earlier < index, ∃ text, document.pageText earlier = .ok text := by
  rw [pageTexts, List.range_eq_range', Except.mapM_range'_eq_error_iff]
  simp

/-- An extraction fails as the first page without a text does. -/
theorem extract_eq_error_iff {halt : Halt ExtractError} : document.extract = .error halt ↔
    ∃ index < document.pageCount, document.pageText index = .error halt ∧
      ∀ earlier < index, ∃ text, document.pageText earlier = .ok text := by
  rw [extract_eq, ← pageTexts_eq_error_iff]
  cases document.pageTexts <;> simp [Except.map]

end Document

/-! ## Extractions -/

namespace Extractor

variable {extractor : Extractor} {file : Bytes} {reason : Defect}

/-- Some page breaks down, and all pages before it give a text. -/
def BreaksDownOn (extractor : Extractor) (file : Bytes) (reason : Defect) : Prop :=
  ∃ (document : Document) (index : Nat),
    Document.load file extractor.password = .ok document ∧ document.BreaksDownAt index reason ∧
      ∀ earlier < index, ∃ text, document.pageText earlier = .ok text

/-- An extraction breaks down where a page does, and never when the document is loaded. -/
theorem fromBytes_eq_defect_iff :
    extractor.fromBytes file = .error (.defect reason) ↔ extractor.BreaksDownOn file reason := by
  rw [fromBytes]
  cases loaded : Document.load file extractor.password with
  | error error =>
    constructor
    · intro failed
      cases failed
    · rintro ⟨document, index, loaded', -⟩
      cases loaded.symm.trans loaded'
  | ok document =>
    rw [Except.mapError_ok, Except.ok_bind, Document.extract_eq_error_iff]
    constructor
    · rintro ⟨index, -, failed, before⟩
      exact ⟨document, index, loaded, Document.pageText_eq_defect_iff.mp failed, before⟩
    · rintro ⟨document', index, loaded', down, before⟩
      obtain rfl := Except.ok.inj (loaded.symm.trans loaded')
      obtain ⟨page, found, -⟩ := id down
      exact ⟨index, (List.getElem?_eq_some_iff.mp found).1,
        Document.pageText_eq_defect_iff.mpr down, before⟩

end Extractor

/-! ## The command line -/

theorem FileSystem.isPresent_of_read {files : FileSystem} {path : String} {file : Bytes}
    (found : files.read path = .ok file) : files.isPresent path := by
  rw [read] at found
  obtain ⟨place, walked, found⟩ := Except.bind_eq_ok_iff.mp found
  simp only [isPresent, walked]
  cases held : files.entryAt? place with
  | none =>
    rw [held] at found
    cases found
  | some entry => rfl

/-- The extraction that the words ask for breaks down where that of the bytes does. -/
theorem Arguments.carryOut_eq_defect_iff {arguments : Arguments} {files : FileSystem} {file : Bytes}
    {reason : Defect} (found : files.read arguments.input = .ok file) :
    (arguments.carryOut files).1 = .error (.defect reason) ↔
      ({ password := arguments.password } : Extractor).BreaksDownOn file reason := by
  rw [← Extractor.fromBytes_eq_defect_iff, Extractor.fromBytes_eq, carryOut,
    Extractor.run_extractToFile]
  simp only [found]
  cases made : ({ password := arguments.password } : Extractor).textsOf file with
  | error halt => simp [Except.map]
  | ok result =>
    obtain ⟨document, texts⟩ := result
    dsimp only
    split <;> simp [Except.map]

namespace CommandLine

/-- What a run prints that comes to a text. -/
def successMessage (arguments : Arguments) : String :=
  "Successfully extracted text from " ++ arguments.input ++ " to " ++ arguments.output ++ "\n"

/-- What a run prints that fails. -/
def failureMessage (arguments : Arguments) (error : ExtractError) : String :=
  "Error extracting text from " ++ arguments.input ++ ": " ++ error.message ++ "\n"

theorem outcome_of_read {words : List String} {arguments : Arguments} {files : FileSystem}
    {file : Bytes} (asked : Invocation.ofWords words = .extraction arguments)
    (found : files.read arguments.input = .ok file) (setting : Option String)
    (reports : List Event) :
    (observe setting words files reports).1 = outcomeOf arguments (arguments.carryOut files).1 := by
  rw [observe_eq, asked]
  simp only [FileSystem.isPresent_of_read found, if_true]

/-- Every failure is reported, but for pages that break down. The text of some bytes breaks down just
where a page does that comes after pages with a text. Any other page of a document that gives no
text gives an error with its number. A run of the command line on a file that can be read prints one
message, of success or of a failure, and exits with the code for it. Where the extraction breaks
down, it prints nothing and exits with another code. -/
theorem failures_are_reported (file : Bytes) :
    (∀ (extractor : Extractor) (reason : Defect),
      extractor.fromBytes file = .error (.defect reason) ↔ extractor.BreaksDownOn file reason) ∧
    (∀ (document : Document), ∀ index < document.pageCount,
      (∃ text, document.pageText index = .ok text) ∨
      (∃ error, document.pageText index = .error (.cause (.page (index + 1) error))) ∨
      ∃ reason, document.BreaksDownAt index reason ∧
        document.pageText index = .error (.defect reason)) ∧
    ∀ (setting : Option String) (words : List String) (files : FileSystem) (reports : List Event)
      (arguments : Arguments), Invocation.ofWords words = .extraction arguments →
      files.read arguments.input = .ok file →
      let seen := (observe setting words files reports).1
      let extractor : Extractor := { password := arguments.password }
      ((∀ reason, ¬ extractor.BreaksDownOn file reason) →
        (seen.exitCode = 0 ∧ seen.printed = successMessage arguments) ∨
        ∃ error, seen.exitCode = 1 ∧ seen.printed = failureMessage arguments error) ∧
      ((∃ reason, extractor.BreaksDownOn file reason) →
        seen.exitCode = 101 ∧ seen.printed = "") := by
  refine ⟨fun extractor reason => Extractor.fromBytes_eq_defect_iff,
    fun document index inside => Document.pageText_cases inside,
    fun setting words files reports arguments asked found => ?_⟩
  have down (reason : Defect) := @Arguments.carryOut_eq_defect_iff arguments files file reason found
  dsimp only
  rw [outcome_of_read asked found]
  match carried : (arguments.carryOut files).1 with
  | .ok summary =>
    refine ⟨fun _ => .inl ⟨rfl, rfl⟩, ?_⟩
    rintro ⟨reason, broken⟩
    cases carried.symm.trans ((down reason).mpr broken)
  | .error (.cause error) =>
    refine ⟨fun _ => .inr ⟨error, rfl, rfl⟩, ?_⟩
    rintro ⟨reason, broken⟩
    cases carried.symm.trans ((down reason).mpr broken)
  | .error (.defect reason) =>
    exact ⟨fun none_ => absurd ((down reason).mp carried) (none_ reason), fun _ => ⟨rfl, rfl⟩⟩

end CommandLine

/-! ## A file that breaks down -/

/-- The data of an image that names its sizes but no colour space. -/
def spacelessImage : Bytes := ascii "BI/W 1/H 1/BPC 8 ID x EI"

/-- A file of one page that holds this image. -/
def spacelessFile : Bytes := Booklet.plainFile [spacelessImage]

theorem textOf_spacelessImage :
    Booklet.textOf spacelessImage = .error (.defect .inlineImageColorSpace) := by
  have refused : (Operation.readAll spacelessImage).map (fun _ => ()) = .error .noColorSpace := by
    decide +kernel
  rw [Booklet.textOf]
  cases read : Operation.readAll spacelessImage with
  | ok operations =>
    rw [read] at refused
    cases refused
  | error fault =>
    rw [read] at refused
    obtain rfl : fault = .noColorSpace := by simpa [Except.map] using refused
    rfl

/-- Not every failure is reported. A page is there, and neither a text nor an error is given for it.
The command line reads the file, prints nothing, and exits with no code of its own. -/
theorem spacelessFile_breaks_down :
    (∃ document, Document.load spacelessFile none = .ok document ∧ document.pageCount = 1 ∧
      document.pageText 0 = .error (.defect .inlineImageColorSpace)) ∧
    ({} : Extractor).fromBytes spacelessFile = .error (.defect .inlineImageColorSpace) ∧
    let files := FileSystem.empty.put ["in.pdf"] spacelessFile
    let seen := (CommandLine.observe none ["in.pdf", "out.txt"] files []).1
    files.read "in.pdf" = .ok spacelessFile ∧ seen.exitCode = 101 ∧ seen.printed = "" := by
  obtain ⟨document, loaded, booklet⟩ :=
    @Booklet.load_plainFile [spacelessImage] (by decide +kernel) (by decide +kernel)
  have given : document.pageText 0 = .error (.defect .inlineImageColorSpace) := by
    have held : (Booklet.contents [spacelessImage])[0]? = some (Booklet.content spacelessImage) := rfl
    rw [booklet.pageText held, Booklet.dataOf_content, textOf_spacelessImage]
    rfl
  have broken : ({} : Extractor).BreaksDownOn spacelessFile .inlineImageColorSpace :=
    ⟨document, 0, loaded none, Document.pageText_eq_defect_iff.mp given,
      fun earlier early => absurd early (Nat.not_lt_zero earlier)⟩
  refine ⟨⟨document, loaded none, booklet.pageCount, given⟩,
    Extractor.fromBytes_eq_defect_iff.mpr broken, ?_⟩
  have found : (FileSystem.empty.put ["in.pdf"] spacelessFile).read "in.pdf" = .ok spacelessFile :=
    FileSystem.read_of_write (FileSystem.write_eq_ok_iff.mpr
      ⟨["in.pdf"], by decide +kernel, by decide +kernel, rfl⟩)
  let arguments : Arguments := ⟨"in.pdf", "out.txt", none, 0⟩
  have asked : Invocation.ofWords ["in.pdf", "out.txt"] = .extraction arguments := by decide +kernel
  have carried := (@Arguments.carryOut_eq_defect_iff arguments _ _ _ found).mpr broken
  have seen := CommandLine.outcome_of_read asked found none []
  rw [carried] at seen
  exact ⟨found, congrArg CommandLine.Outcome.exitCode seen,
    congrArg CommandLine.Outcome.printed seen⟩

end PdfText

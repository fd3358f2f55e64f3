import PdfText.Delivery
import PdfText.Diagnosis
import PdfText.PageSource
import PdfText.Surroundings

/-!
# Extractors

An extractor turns a PDF into text, with a password if one is set. The PDF comes as bytes, from a
delivery, or from a file, and the text is returned or written to a file.

A file is written only after every page has given its text. So a run that fails leaves all files as
they were, and a file may be overwritten by its own text.

## Main definitions

* `Document.source` — a document as a source of pages
* `Extractor` — what a run is set to, `ExtractorBuilder` — how it is set
* `Extractor.fromBytes`, `Extractor.fromDelivery`, `Extractor.fromPath` — the text of a PDF
* `Extractor.extractToFile` — writes the text of one file to another
* `fromBytes`, `fromDelivery`, `fromPath`, `extractToFile` — the same without settings
-/

namespace PdfText

/-! ## Documents as sources of pages -/

namespace Document

/-- How many pages a document has. -/
def pageCount (document : Document) : Nat := document.pages.length

/-- The text of the page at an index. -/
def pageText (document : Document) (index : Nat) : Except (Halt ExtractError) String :=
  if index < document.pageCount then
    (PageText.ofNumber document (index + 1)).mapError (·.map (.page (index + 1)))
  else .error (.cause (.pageOutOfRange index document.pageCount))

/-- A document as a source of pages. -/
def source {m : Type → Type} [Monad m] (document : Document) : PageSource m where
  pageCount := return document.pageCount
  pageText index := ExceptT.mk (return document.pageText index)

/-- The text of all pages of a document. -/
def extract (document : Document) : Except (Halt ExtractError) String :=
  (document.source (m := Id)).extract.run

/-- The document in a file that is delivered. -/
def ofDelivery (delivery : Delivery) (password : Option String) :
    Except ExtractError Document := do
  Document.load (← delivery.contents.mapError .io) password

end Document

/-! ## Extractors -/

/-- What a run is set to. -/
structure Extractor where
  /-- The password for documents that need one. -/
  password : Option String := none
  deriving DecidableEq, Repr

/-- How an extractor is set. -/
structure ExtractorBuilder where
  /-- The password that the extractor will have. -/
  password : Option String := none
  deriving DecidableEq, Repr

namespace ExtractorBuilder

/-- Sets the password, in place of one set before. -/
def withPassword (_ : ExtractorBuilder) (password : String) : ExtractorBuilder :=
  { password := some password }

/-- The extractor that is set so. -/
def build (builder : ExtractorBuilder) : Extractor := { password := builder.password }

/-- A builder on which passwords are set one after the other. -/
def ofPasswords (passwords : List String) : ExtractorBuilder :=
  passwords.foldl withPassword {}

end ExtractorBuilder

/-- What a run has written. -/
structure Summary where
  /-- How many pages the document has. -/
  pages : Nat
  /-- How many bytes their text takes up. -/
  bytesWritten : Nat
  deriving DecidableEq, Repr

namespace Extractor

variable {m : Type → Type} [Monad m]

/-- The text of a PDF. -/
def fromBytes (extractor : Extractor) (file : Bytes) : Except (Halt ExtractError) String := do
  (← (Document.load file extractor.password).mapError .cause).extract

/-- The text of a PDF that is delivered. -/
def fromDelivery (extractor : Extractor) (delivery : Delivery) :
    Except (Halt ExtractError) String := do
  (← (Document.ofDelivery delivery extractor.password).mapError .cause).extract

/-- Restates a failure to read or write a file as one of the run. -/
def ofIo {α : Type} (action : ExceptT IoError m α) : ExceptT (Halt ExtractError) m α :=
  ExceptT.adapt (fun error => .cause (.io error)) action

/-- The document in the file at a path. -/
def load (around : Surroundings m) (extractor : Extractor) (path : String) :
    ExceptT (Halt ExtractError) m Document := do
  let file ← ofIo (around.read path)
  ((Document.load file extractor.password).mapError Halt.cause : Except _ _)

/-- The text of the PDF at a path. -/
def fromPath (around : Surroundings m) (extractor : Extractor) (path : String) :
    ExceptT (Halt ExtractError) m String := do
  (← extractor.load around path).extract

/-- The document in a file, with reports on how it was opened. -/
def openReporting (around : Surroundings m) (extractor : Extractor) (file : Bytes) :
    ExceptT (Halt ExtractError) m Document := do
  around.reportAll (Diagnosis.ofFile file)
  let opening ← (((Opening.ofBytes file).mapError fun error => .cause (.pdf error)) :
    Except (Halt ExtractError) Opening)
  if opening.isLocked then around.report .documentLocked
  if opening.isUnlocked then around.report .documentUnlocked
  around.reportAll (Diagnosis.ofOpening opening extractor.password)
  let document ← ((opening.document extractor.password).mapError .cause :
    Except (Halt ExtractError) Document)
  around.report .documentOpened
  return document

/-- The pages of a document, with reports on each. -/
def reportingSource (around : Surroundings m) (document : Document) : PageSource m :=
  document.source.observed
    (fun index => around.reportAll (Diagnosis.ofPageNumber document (index + 1)))
    (fun _ => do
      around.report .pageRead
      around.report .pageDone)

/-- Writes the text of the PDF at one path to another path. -/
def extractToFile (around : Surroundings m) (extractor : Extractor)
    (source destination : String) : ExceptT (Halt ExtractError) m Summary := do
  let file ← ofIo (around.read source)
  let document ← extractor.openReporting around file
  let text := Utf8.encode (← (reportingSource around document).extract)
  ofIo (around.write destination text)
  around.report .textWritten
  return { pages := document.pageCount, bytesWritten := text.length }

end Extractor

/-! ## Without settings -/

/-- The text of a PDF that needs no password. -/
def fromBytes (file : Bytes) : Except (Halt ExtractError) String :=
  ({} : Extractor).fromBytes file

/-- The text of a PDF that is delivered and needs no password. -/
def fromDelivery (delivery : Delivery) : Except (Halt ExtractError) String :=
  ({} : Extractor).fromDelivery delivery

/-- The text of the PDF at a path, which needs no password. -/
def fromPath {m : Type → Type} [Monad m] (around : Surroundings m) (path : String) :
    ExceptT (Halt ExtractError) m String :=
  ({} : Extractor).fromPath around path

/-- Writes the text of the PDF at one path, which needs no password, to another path. -/
def extractToFile {m : Type → Type} [Monad m] (around : Surroundings m)
    (source destination : String) : ExceptT (Halt ExtractError) m Summary :=
  ({} : Extractor).extractToFile around source destination

end PdfText

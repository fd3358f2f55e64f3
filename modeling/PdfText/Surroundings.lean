import PdfText.Bytes
import PdfText.Error.Io
import PdfText.Finding

/-!
# The surroundings of a run

A run reads and writes files and reports what it has done. Which files these are, and what becomes
of the reports, is up to its surroundings: the real ones, or a file system that is a value.

## Main definitions

* `Event` — what a run reports
* `Surroundings` — what a run may do
-/

namespace PdfText

/-- What a run reports. -/
inductive Event where
  /-- Something is found in a document. -/
  | found (finding : Finding)
  /-- The empty password does not open an encrypted document. -/
  | documentLocked
  /-- The empty password opens an encrypted document. -/
  | documentUnlocked
  /-- A document is open, and its pages are counted. -/
  | documentOpened
  /-- The text of a page is read. -/
  | pageRead
  /-- The text of a page is joined to that of the pages before it. -/
  | pageDone
  /-- The text of all pages is written. -/
  | textWritten
  /-- The run has come to its end. -/
  | runDone
  deriving DecidableEq, Repr

/-- What a run may do. -/
structure Surroundings (m : Type → Type) where
  /-- Reads the file at a path. -/
  read : String → ExceptT IoError m Bytes
  /-- Puts bytes into the file at a path, in place of what it holds. A file that is not there is
  created. -/
  write : String → Bytes → ExceptT IoError m Unit
  /-- Whether anything is at a path. -/
  isPresent : String → m Bool
  /-- Reports an event. -/
  report : Event → m Unit

/-- Reports findings, one after the other. -/
def Surroundings.reportAll {m : Type → Type} [Monad m] (around : Surroundings m)
    (findings : List Finding) : m Unit :=
  findings.forM fun finding => around.report (.found finding)

end PdfText

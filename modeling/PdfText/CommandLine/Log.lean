import PdfText.Surroundings

/-!
# The log

Every event that is reported has a level, comes from some part of the program, and carries some
fields. A line of the log tells its level and says in words what has happened. Parts and fields have
names that settings of the log refer to, so the names are as fixed as the words of an error.

## Main definitions

* `LogLevel` — the levels
* `Event.level`, `Event.message` — the level of an event, and the event in words
* `Event.origin`, `Event.fields` — where an event comes from, and the names of what it carries
-/

namespace PdfText

/-- The levels of events, least detailed first. -/
inductive LogLevel where
  | error | warn | info | debug | trace
  deriving DecidableEq, Repr

namespace LogLevel

/-- How detailed a level is. -/
def detail : LogLevel → Nat
  | error => 1
  | warn => 2
  | info => 3
  | debug => 4
  | trace => 5

/-- The name of a level, in capital letters. -/
def label : LogLevel → String
  | error => "ERROR"
  | warn => "WARN"
  | info => "INFO"
  | debug => "DEBUG"
  | trace => "TRACE"

/-- All levels. -/
def all : List LogLevel := [error, warn, info, debug, trace]

end LogLevel

/-! ## Findings -/

/-- The level at which a finding is reported. -/
def Finding.level : Finding → LogLevel
  | unreadableObject => .error
  | shownString => .debug
  | _ => .warn

/-- A finding in words. -/
def Finding.message : Finding → String
  | tableSize => "the trailer tells another size than the cross-reference table has"
  | unreadableObject => "an object cannot be read"
  | lengthCycle => "the length of a stream refers back to itself"
  | damagedData => "the data behind a filter is damaged"
  | memberCount => "an object stream tells another number of objects than it lists"
  | skippedObject => "an object is left out since it cannot be read"
  | unnamedEncoding => "a font names no encoding"
  | unsuitableEncoding => "a font names an encoding that is not meant for fonts"
  | unreadableCMap => "a CMap cannot be read"
  | unsupportedImage => "the length of an image cannot be told"
  | unshownString => "a string is shown while no font is in force"
  | shownString => "a string is shown"

/-- The part of the program that makes a finding, by the name that settings know it by. -/
def Finding.origin : Finding → String
  | tableSize => "lopdf::reader"
  | unreadableObject => "lopdf::reader"
  | lengthCycle => "lopdf::reader"
  | damagedData => "lopdf::object"
  | memberCount => "lopdf::object_stream"
  | skippedObject => "pdf_text_extract::lopdf_backend"
  | unnamedEncoding => "lopdf::object"
  | unsuitableEncoding => "lopdf::object"
  | unreadableCMap => "lopdf::parser::cmap_parser"
  | unsupportedImage => "lopdf::parser"
  | unshownString => "lopdf::document"
  | shownString => "lopdf::document"

/-! ## Events -/

/-- The level of an event. -/
def Event.level : Event → LogLevel
  | found finding => finding.level
  | documentLocked => .warn
  | documentUnlocked => .debug
  | documentOpened => .debug
  | pageRead => .trace
  | pageDone => .debug
  | textWritten => .info
  | runDone => .debug

/-- An event in words. -/
def Event.message : Event → String
  | found finding => finding.message
  | documentLocked => "the document is encrypted and the empty password does not open it"
  | documentUnlocked => "the empty password opens the document"
  | documentOpened => "opened the document"
  | pageRead => "read the text of a page"
  | pageDone => "page done"
  | textWritten => "wrote the extracted text"
  | runDone => "done"

/-- The part of the program that an event comes from, by the name that settings know it by. -/
def Event.origin : Event → String
  | found finding => finding.origin
  | documentLocked => "lopdf::reader"
  | documentUnlocked => "pdf_text_extract::lopdf_backend"
  | documentOpened => "pdf_text_extract::lopdf_backend"
  | pageRead => "pdf_text_extract::lopdf_backend"
  | pageDone => "pdf_text_extract::extract"
  | textWritten => "pdf_text_extract::extract"
  | runDone => "extract_pdf"

/-- The fields of an event that is reported while a document is read. -/
def readingFields : List String :=
  ["message", "log.target", "log.module_path", "log.file", "log.line"]

/-- The names of the fields that an event carries. -/
def Event.fields : Event → List String
  | found .skippedObject => ["object", "message"]
  | found _ => readingFields
  | documentLocked => readingFields
  | documentUnlocked => ["message"]
  | documentOpened => ["pages", "version", "message"]
  | pageRead => ["page", "len", "message"]
  | pageDone => ["page", "len", "message"]
  | textWritten => ["source", "destination", "pages", "bytes", "message"]
  | runDone => ["pages", "bytes", "message"]

end PdfText

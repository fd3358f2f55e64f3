import PdfText.Extractor
import PdfText.PageCursor
import PdfText.Unicode.Printable

/-!
# Inspection

Values are shown to programmers in a form that names their type and their fields. Of a document
only the number of its pages is shown, and of a password its letters in quotation marks.

## Main definitions

* `Inspection.ofDocument`, `Inspection.ofCursor`, `Inspection.ofPage` — a document and its pages
* `Inspection.quoted` — a text in quotation marks
* `Inspection.ofSummary` — what a run has written
* `Inspection.ofBuilder`, `Inspection.ofExtractor` — what a run is set to
-/

namespace PdfText.Inspection

/-- A document with a number of pages. -/
def ofDocument (pageCount : Nat) : String :=
  "LopdfDocument \x7b page_count: " ++ toString pageCount ++ ", .. \x7d"

/-- A cursor over the pages of a document. -/
def ofCursor (pageCount : Nat) (cursor : PageCursor) : String :=
  "Pages \x7b doc: " ++ ofDocument pageCount ++ ", next: " ++ toString cursor.next ++ ", count: " ++
    toString cursor.count ++ " \x7d"

/-- The page of a document at an index. -/
def ofPage (pageCount index : Nat) : String :=
  "Page \x7b doc: " ++ ofDocument pageCount ++ ", index: " ++ toString index ++ " \x7d"

/-- What a run has written. -/
def ofSummary (summary : Summary) : String :=
  "ExtractSummary \x7b pages: " ++ toString summary.pages ++ ", bytes_written: " ++
    toString summary.bytesWritten ++ " \x7d"

/-- A character that does not show, by its code point. -/
def codePoint (c : Char) : List Char :=
  "\\u\x7b".toList ++ Nat.toDigits 16 c.toNat ++ ['\x7d']

/-- A character inside quotation marks. -/
def quotedCharacter (c : Char) : List Char :=
  match c with
  | '\x00' => ['\\', '0']
  | '\t' => ['\\', 't']
  | '\n' => ['\\', 'n']
  | '\r' => ['\\', 'r']
  | '"' => ['\\', '"']
  | '\\' => ['\\', '\\']
  | _ => if Printable.shows c then [c] else codePoint c

/-- A text in quotation marks. -/
def quoted (text : String) : String :=
  "\"" ++ String.ofList (text.toList.flatMap quotedCharacter) ++ "\""

/-- A password that may be missing. -/
def ofPassword : Option String → String
  | none => "None"
  | some password => "Some(" ++ quoted password ++ ")"

/-- A builder. -/
def ofBuilder (builder : ExtractorBuilder) : String :=
  "PdfExtractorBuilder \x7b password: " ++ ofPassword builder.password ++ " \x7d"

/-- An extractor. -/
def ofExtractor (extractor : Extractor) : String :=
  "PdfExtractor \x7b password: " ++ ofPassword extractor.password ++ " \x7d"

end PdfText.Inspection

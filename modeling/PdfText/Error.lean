import PdfText.Error.Pdf

/-!
# Why an extraction fails

Everything that can go wrong between a file and its text ends in an `ExtractError`. It says which
stage gave up — reading the bytes, reading the PDF, a page, the password — and carries the cause
where another part of the library or the operating system knows more.

## Main definitions

* `ExtractError` — why an extraction fails
* `ExtractError.message` — the failure in words
* `ExtractError.source` — the words of the wrapped cause, where there is one
-/

namespace PdfText

/-- Why an extraction fails. -/
inductive ExtractError where
  /-- The bytes could not be read, or the text not written. -/
  | io (error : IoError)
  /-- The bytes are no PDF that can be opened. -/
  | pdf (error : PdfError)
  /-- A page gives no text; pages are numbered from 1. -/
  | page (number : Nat) (error : PdfError)
  /-- There is no page at this index; indices start at 0. -/
  | pageOutOfRange (index count : Nat)
  /-- The document is encrypted and the empty password does not open it. -/
  | passwordRequired
  /-- The password does not open the document. -/
  | incorrectPassword
  deriving DecidableEq, Repr

namespace ExtractError

/-- A failure in words. -/
def message : ExtractError → String
  | io error => "IO error: " ++ error.message
  | pdf error => "PDF error: " ++ error.message
  | page number error => "PDF error on page " ++ toString number ++ ": " ++ error.message
  | pageOutOfRange index count =>
    "page index " ++ toString index ++ " out of range for document with " ++ toString count ++
      " pages"
  | passwordRequired => "document is encrypted, a password is required"
  | incorrectPassword => "incorrect password"

/-- The words of the wrapped cause, where there is one. -/
def source : ExtractError → Option String
  | io error => some error.message
  | pdf error => some error.message
  | page _ error => some error.message
  | pageOutOfRange .. => none
  | passwordRequired => none
  | incorrectPassword => none

end ExtractError

end PdfText

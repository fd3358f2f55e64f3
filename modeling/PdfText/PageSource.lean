import PdfText.Error

/-!
# Sources of pages

A source answers two questions: how many pages there are, and what the text of a page is. Its
answers may depend on a state of its own and change from one question to the next, so they are
given in a monad.

The text of a whole source is the text of its pages in order, each followed by a separator. The
number of pages is asked for once, and the first page that fails is the last one asked for.

## Main definitions

* `PageSource` — something that answers both questions
* `PageSource.texts` — the texts of pages in a row
* `PageSource.extract` — the text of the whole source
* `PageSource.observed` — a source that tells which pages it is asked for and has given
-/

namespace PdfText

/-- Something that can tell how many pages it has, and what the text of each page is. Pages are
counted from 0. -/
structure PageSource (m : Type → Type) where
  /-- How many pages there are. -/
  pageCount : m Nat
  /-- The text of the page at an index. -/
  pageText : (index : Nat) → ExceptT (Halt ExtractError) m String

/-- What stands after the text of each page, the last one included. -/
def pageSeparator : String := "\n\n"

/-- The texts of pages, one after the other, each with the separator after it. -/
def joinPages (texts : List String) : String :=
  String.join (texts.map (· ++ pageSeparator))

namespace PageSource

variable {m : Type → Type} [Monad m]

/-- The texts of `count` pages from an index on, asked for in order, up to the first failure. -/
def texts (source : PageSource m) :
    (count index : Nat) → ExceptT (Halt ExtractError) m (List String)
  | 0, _ => return []
  | count + 1, index => do
    let text ← source.pageText index
    return text :: (← texts source count (index + 1))

/-- The text of all pages. -/
def extract (source : PageSource m) : ExceptT (Halt ExtractError) m String := do
  let count ← source.pageCount
  return joinPages (← source.texts count 0)

/-- A source that calls `before` when it is asked for a page, and `after` when it has given it. -/
def observed (source : PageSource m) (before after : Nat → m Unit) : PageSource m where
  pageCount := source.pageCount
  pageText index := do
    before index
    let text ← source.pageText index
    after index
    return text

end PageSource

end PdfText

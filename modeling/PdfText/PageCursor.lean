/-!
# Cursors over pages

A cursor goes over the pages of a source once, in ascending order. It knows the index of the page
to come and how many pages there were when it was made, and asks the source for nothing.

## Main definitions

* `PageCursor` — a place among pages, `PageCursor.start` — the place before all of them
* `PageCursor.next?`, `PageCursor.nth?` — the next page, or one further on
* `PageCursor.remaining` — the pages to come, `PageCursor.length` — their number
* `pageNumber` — the number of a page as readers count
-/

namespace PdfText

/-- The number of the page at an index, counted from 1. -/
def pageNumber (index : Nat) : Nat := index + 1

/-- A place among pages. -/
structure PageCursor where
  /-- The index of the page to come. -/
  next : Nat
  /-- How many pages there are. -/
  count : Nat
  deriving DecidableEq, Repr

namespace PageCursor

/-- The place before all of `count` pages. -/
def start (count : Nat) : PageCursor := ⟨0, count⟩

/-- How many pages are to come. -/
def length (cursor : PageCursor) : Nat := cursor.count - cursor.next

/-- The indices of the pages to come. -/
def remaining (cursor : PageCursor) : List Nat := List.range' cursor.next cursor.length

/-- The place after all pages. -/
def exhausted (cursor : PageCursor) : PageCursor := { cursor with next := cursor.count }

/-- Leaves out pages, and gives the next one with the place after it. If there is none, the place
after all pages is reached. -/
def nth? (cursor : PageCursor) (skipped : Nat) : Option Nat × PageCursor :=
  if skipped < cursor.length then
    let index := cursor.next + skipped
    (some index, { cursor with next := index + 1 })
  else (none, cursor.exhausted)

/-- The next page, with the place after it. -/
def next? (cursor : PageCursor) : Option Nat × PageCursor :=
  if cursor.next < cursor.count then (some cursor.next, { cursor with next := cursor.next + 1 })
  else (none, cursor)

/-- The least and the greatest number of pages that may be to come. Both are exact. -/
def bounds (cursor : PageCursor) : Nat × Nat := (cursor.length, cursor.length)

/-- The last of the pages to come. -/
def last? (cursor : PageCursor) : Option Nat :=
  if cursor.next < cursor.count then some (cursor.count - 1) else none

end PageCursor

end PdfText

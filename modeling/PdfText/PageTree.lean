import PdfText.Document

/-!
# The page tree

The pages of a document are the leaves of a tree. Its root is named by the catalog; each inner
node lists its children, and the pages are numbered from 1 in the order of a walk that goes down
before it goes on.

Nothing guarantees that what a file holds is a tree. The walk remembers the siblings still to be
visited at no more than a fixed number of levels, and visits no more children than the document has
objects, so it ends on any document.

## Main definitions

* `PageTree.walk` — the pages below lists of children
* `Document.pages` — the ids of all pages, in order
-/

namespace PdfText

namespace PageTree

/-- At how many levels siblings are remembered. -/
def maxLevels : Nat := 256

/-- The children of a node, if it lists any. -/
def kids (document : Document) (node : ObjectId) : List Object :=
  match document.dictionaryAt node with
  | .error _ => []
  | .ok entries =>
    match document.resolveAt entries "Kids" with
    | .ok (.array items) => items
    | _ => []

/-- The next child to visit, with its later siblings and the lists that wait: those later than its
ancestors. -/
def next? : List Object → List (List Object) → Option (Object × List Object × List (List Object))
  | kid :: siblings, waiting => some (kid, siblings, waiting)
  | [], [] => none
  | [], siblings :: waiting => next? siblings waiting

/-- Remembers siblings, if there are any. -/
def remember (siblings : List Object) (waiting : List (List Object)) : List (List Object) :=
  if siblings.isEmpty then waiting else siblings :: waiting

/-- What a child is. -/
inductive Node where
  /-- A page. -/
  | page (id : ObjectId)
  /-- A node with children of its own. -/
  | pages (id : ObjectId)
  /-- Neither. -/
  | other

/-- What a child is, by the type of the dictionary it refers to. -/
def classify (document : Document) : Object → Node
  | .reference id =>
    match document.dictionaryAt id with
    | .error _ => .other
    | .ok entries =>
      if entries.hasType "Page" then .page id
      else if entries.hasType "Pages" then .pages id
      else .other
  | _ => .other

/-- The pages below the given children and then below the lists that wait, where at most `budget`
children are visited. -/
def walk (document : Document) : (budget : Nat) → List Object → List (List Object) → List ObjectId
  | 0, _, _ => []
  | budget + 1, children, waiting =>
    match next? children waiting with
    | none => []
    | some (kid, siblings, waiting) =>
      match classify document kid with
      | .page id => id :: walk document budget siblings waiting
      | .pages id =>
        if waiting.length < maxLevels then
          walk document budget (kids document id) (remember siblings waiting)
        else walk document budget siblings waiting
      | .other => walk document budget siblings waiting

end PageTree

namespace Document

/-- The root of the page tree, as the catalog names it. -/
def pageTreeRoot? (document : Document) : Option ObjectId := do
  let root ← (document.trailer.get? "Root").bind Object.reference?
  let catalog ← (document.dictionaryAt root).toOption
  (catalog.get? "Pages").bind Object.reference?

/-- The ids of all pages, in order. -/
def pages (document : Document) : List ObjectId :=
  match document.pageTreeRoot? with
  | none => []
  | some root => PageTree.walk document document.objects.size (PageTree.kids document root) []

/-- The id of the page with a number. Pages are numbered from 1. -/
def page? (document : Document) (number : Nat) : Option ObjectId :=
  if number = 0 then none else document.pages[number - 1]?

end Document

end PdfText

import PdfText.Encoding
import PdfText.PageTree

/-!
# Pages

A page names the streams that it shows, and the fonts that they use. Fonts are found in the
resources of the page and of its ancestors; the first definition of a name counts.

## Main definitions

* `Page.content` — the data of all content streams of a page
* `Page.fonts` — the fonts of a page by their names
-/

namespace PdfText.Page

/-! ## Contents -/

/-- How many references lead from a page to the list of its content streams at most. -/
def maxContentSteps : Nat := 127

/-- The ids that an entry for contents leads to: of one stream, or of those in a list. At most
`left` references to references or lists are followed. -/
def contentIds (objects : Objects) : (left : Nat) → Object → List ObjectId
  | left, .reference id =>
    match objects[id]? with
    | none => [id]
    | some (.stream ..) => [id]
    | some target =>
      match left with
      | 0 => []
      | left + 1 => contentIds objects left target
  | _, .array items => items.filterMap Object.reference?
  | _, _ => []

/-- The data of a content stream. One whose filters cannot be undone is taken as it stands. -/
def contentData (document : Document) (id : ObjectId) : Bytes :=
  match document.objectAt id with
  | .ok (.stream entries body) =>
    match Filter.decode entries body with
    | .ok data => data
    | .error _ => body
  | _ => []

/-- The ids of the content streams of a page. -/
def contentIdsOf (document : Document) (page : ObjectId) : List ObjectId :=
  match document.dictionaryAt page with
  | .error _ => []
  | .ok entries =>
    match entries.get? "Contents" with
    | none => []
    | some contents => contentIds document.objects maxContentSteps contents

/-- The data of all content streams of a page, with nothing between them. -/
def content (document : Document) (page : ObjectId) : Bytes :=
  (contentIdsOf document page).flatMap (contentData document)

/-! ## Fonts -/

/-- The ids of the resources of a node and its ancestors, nearest first. `seen` holds the ancestors
visited, which are never more than there are objects. -/
def resourceIds (document : Document) :
    (budget : Nat) → (seen : List ObjectId) → (node : Dict) → Except PdfError (List ObjectId)
  | 0, _, _ => .ok []
  | budget + 1, seen, node => do
    let own := ((node.get? "Resources").bind Object.reference?).toList
    match (node.get? "Parent").bind Object.reference? with
    | none => return own
    | some parent =>
      if seen.contains parent then throw (.referenceCycle parent)
      let entries ← document.dictionaryAt parent
      return own ++ (← resourceIds document budget (parent :: seen) entries)

/-- A dictionary that is written out or referred to. -/
def dictionary? (document : Document) : Object → Option Dict
  | .dictionary entries => some entries
  | .reference id => (document.dictionaryAt id).toOption
  | _ => none

/-- Fonts by their names, in the order of the names. -/
abbrev Fonts := Std.TreeMap Bytes Dict

/-- Adds the fonts of a resource dictionary. Names that are there already keep their fonts. -/
def addFonts (document : Document) (fonts : Fonts) (resources : Dict) : Fonts :=
  match (resources.get? "Font").bind (dictionary? document) with
  | none => fonts
  | some entries =>
    entries.entries.foldl (fun fonts (name, object) =>
      match dictionary? document object with
      | some font => fonts.insertIfNew name font
      | none => fonts) fonts

/-- The fonts of a page: those in its own resources first, if these are written out, and then those
in the resources that the page and its ancestors refer to. -/
def fonts (document : Document) (page : ObjectId) : Except PdfError Fonts :=
  match document.dictionaryAt page with
  | .error _ => .ok ∅
  | .ok node => do
    let direct := ((node.get? "Resources").bind Object.dictionary?).toList
    let ids ← resourceIds document (document.objects.size + 2) [] node
    let referred := ids.filterMap fun id => (document.dictionaryAt id).toOption
    return (direct ++ referred).foldl (addFonts document) ∅

end PdfText.Page

import PdfText.Finding
import PdfText.PageText
import PdfText.Security.Opening

/-!
# Diagnosis

What can be said about a file apart from its text. Each step that leads to the text has a diagnosis
of its own: it lists what is found on the way, in the order in which it is found, whether or not the
step succeeds. Nothing here has any bearing on the text.

## Main definitions

* `Diagnosis.ofFile` — what is found before a password is known
* `Diagnosis.ofUnlocking` — what is found when a locked document is opened by a password
* `Diagnosis.ofPage` — what is found when the text of a page is read
-/

namespace PdfText.Diagnosis

/-! ## Streams -/

/-- What is found behind the filters of a stream. -/
def ofStream (entries : Dict) (body : Bytes) : List Finding :=
  if Filter.isSound entries body then [] else [.damagedData]

/-- Whether an object stream lists as many objects as it tells. -/
def hasMemberCount (stream : ObjectStream) : Bool :=
  match (stream.entries.get? "First").bind Object.integer?,
    (stream.entries.get? "N").bind Object.integer? with
  | some first, some count =>
    (ObjectStream.numbers (stream.data.take first.toNat)).length = 2 * count
  | _, _ => true

/-- What is found in an object stream. One without data is not looked into. -/
def ofObjectStream (entries : Dict) (body : Bytes) : List Finding :=
  let stream := ObjectStream.ofStream entries body
  let isListed := stream.data.isEmpty || stream.members?.isNone || hasMemberCount stream
  ofStream entries body ++ if isListed then [] else [.memberCount]

/-- What is found in an object that may be an object stream. -/
def ofObject : Object → List Finding
  | .stream entries body => if entries.hasType "ObjStm" then ofObjectStream entries body else []
  | _ => []

/-! ## The cross-reference table -/

/-- What is found in the section at the front of some bytes. Only a stream with filters can be
damaged. -/
def ofSection (bytes : Bytes) : List Finding :=
  match (XrefSection.table (bytes.length + 1)).value? bytes with
  | some _ => []
  | none =>
    match Indirect.read? (fun _ => none) bytes with
    | some ⟨_, .stream entries body, _⟩ => ofStream entries body
    | _ => []

/-- What is found in the section at an offset, if that lies in the file. -/
def ofSectionAt (bytes : Bytes) (offset : Int) : List Finding :=
  if 0 ≤ offset ∧ offset ≤ bytes.length then ofSection (bytes.drop offset.toNat) else []

/-- What is found in the sections before the newest one, up to one that cannot be read. -/
def ofOlder (bytes : Bytes) :
    (budget : Nat) → (previous beside : Option Object) → (seen : List Int) → List Finding
  | budget + 1, some (.integer previous), beside, seen =>
    if seen.contains previous then []
    else
      ofSectionAt bytes previous ++
        match Layout.sectionAt bytes .previous previous, beside with
        | .error _, _ => []
        | .ok older, some (.integer offset) =>
          ofSectionAt bytes offset ++
            match Layout.sectionAt bytes .stream offset with
            | .error _ => []
            | .ok _ => ofOlder bytes budget (older.trailer.get? "Prev") none (previous :: seen)
        | .ok older, _ => ofOlder bytes budget (older.trailer.get? "Prev") none (previous :: seen)
  | _, _, _, _ => []

/-- What is found in the sections of a file. -/
def ofSections (file : Bytes) : List Finding :=
  let bytes := file.fromFirst Layout.marker
  match Layout.version? bytes, Layout.start? bytes with
  | some _, some start =>
    ofSectionAt bytes start ++
      match Layout.sectionAt bytes .start start with
      | .error _ => []
      | .ok newest =>
        ofOlder bytes (bytes.length + 2) (newest.trailer.get? "Prev")
          (newest.trailer.get? "XRefStm") []
  | _, _ => []

/-- How many numbers a cross-reference table has: one more than its highest. -/
def tableSize (entries : Xref) : Nat := (entries.maxKey?.getD 0) + 1

/-- Whether the trailer tells the size that the table has. It is told modulo 2^32. -/
def hasTableSize (layout : Layout) : Bool :=
  match (layout.trailer.get? "Size").bind Object.integer? with
  | some size => (size % sizeOfBits 32).toNat = tableSize layout.entries
  | none => true

/-! ## Objects -/

/-- The dictionary of the stream of unknown length that stands at the place of an id. -/
def hollowAt? (layout : Layout) (id : ObjectId) : Option Dict :=
  match layout.entries[id.number]? with
  | some (.normal offset generation) =>
    match layout.indirectAt? offset with
    | some ⟨found, .stream entries _, some _⟩ =>
      if generation = id.generation ∧ found = id then some entries else none
    | _ => none
  | _ => none

/-- Whether the search for the length of a stream comes back to a place where it has been. -/
def isCircular (layout : Layout) : (budget : Nat) → (seen : List ObjectId) → Dict → Bool
  | 0, _, _ => false
  | budget + 1, seen, entries =>
    match (entries.get? "Length").bind Object.reference? with
    | none => false
    | some id =>
      seen.contains id ||
        match hollowAt? layout id with
        | some entries => isCircular layout budget (id :: seen) entries
        | none => false

/-- What is found when the length of a stream is looked for. -/
def ofLength (layout : Layout) (found : Indirect) : List Finding :=
  match found with
  | ⟨_, .stream entries _, some _⟩ =>
    if isCircular layout (layout.entries.size + 1) [] entries then [.lengthCycle] else []
  | _ => []

/-- What is found when the objects of a file that is not encrypted are read. -/
def ofObjects (layout : Layout) : List Finding :=
  layout.normalEntries.flatMap fun (_, offset) =>
    match layout.indirectAt? offset with
    | some found => ofLength layout found ++ ofObject found.object
    | none => [.unreadableObject]

/-- What is found when the objects of an encrypted file are read. -/
def ofRawObjects (layout : Layout) : List Finding :=
  (RawObjects.ofLayout layout).values.flatMap fun bytes =>
    match Indirect.read? layout.lengthOf bytes with
    | some found => ofLength layout found
    | none => []

/-- What is found in the object streams that a cross-reference table names. -/
def ofContainers (layout : Layout) (objects : Objects) : List Finding :=
  layout.entries.values.flatMap fun entry =>
    match entry with
    | .compressed container _ =>
      match objects[(⟨container, 0⟩ : ObjectId)]? with
      | some (.stream entries body) => ofObjectStream entries body
      | _ => []
    | .normal .. => []

/-- What is found when a file with a known layout is opened. -/
def ofLayout (layout : Layout) : List Finding :=
  (if hasTableSize layout then [] else [.tableSize]) ++
    if (layout.trailer.get? "Encrypt").isSome then
      match Opening.ofEncrypted layout with
      | .opened document => ofRawObjects layout ++ ofContainers layout document.objects
      | .locked _ => []
    else ofObjects layout

/-- What is found before a password is known. -/
def ofFile (file : Bytes) : List Finding :=
  ofSections file ++
    match Layout.read file with
    | .ok layout => ofLayout layout
    | .error _ => []

/-! ## Unlocking -/

/-- What is found when the objects of a locked document are read again. -/
def ofReread (layout : Layout) (except : ObjectId) : List Finding :=
  layout.normalEntries.flatMap fun (id, offset) =>
    if id = except then []
    else
      match layout.indirectAt? offset with
      | none => [.skippedObject]
      | some found =>
        if found.id = id then ofLength layout found else [.skippedObject]

/-- What is found in the object streams of a document that a password opens. -/
def ofDecrypted (document : Document) (password : String) : List Finding :=
  match document.decryptedObjects password with
  | .ok (_, objects) => objects.values.flatMap ofObject
  | .error _ => []

/-- What is found when a locked document is opened by a password. -/
def ofUnlocking (locked : Locked) (password : String) : List Finding :=
  match locked.shell.authenticateUser password, locked.filled with
  | .ok (), .ok document =>
    let except := (locked.shell.trailer.get? "Encrypt").bind Object.reference?
    except.toList.flatMap (ofReread locked.layout) ++ ofDecrypted document password
  | _, _ => []

/-- What is found when a document is asked for with a password, or with none. -/
def ofOpening : Opening → Option String → List Finding
  | .locked locked, some password => ofUnlocking locked password
  | _, _ => []

/-! ## Pages -/

/-- What is found in a CMap. -/
def ofCMap (entries : Dict) (body : Bytes) : List Finding :=
  ofStream entries body ++
    match (Filter.plain entries body).map CMap.parse with
    | .ok (.error .unreadable) => [.unreadableCMap]
    | _ => []

/-- What is found in the CMap that a font comes with. -/
def ofToUnicode (document : Document) (font : Dict) : List Finding :=
  match Encoding.toUnicode document font with
  | .ok (entries, body) => ofCMap entries body
  | .error _ => []

/-- What is found when the encoding of a font is read. -/
def ofFont (document : Document) (font : Dict) : List Finding :=
  if !font.hasType "Font" then []
  else
    match (font.get? "Encoding").bind Object.name? with
    | none => .unnamedEncoding :: ofToUnicode document font
    | some name =>
      if name == ascii "PDFDocEncoding" then [.unsuitableEncoding]
      else if Encoding.isIdentity name then ofToUnicode document font
      else []

/-- What is found in the content streams of a page. -/
def ofContents (document : Document) (page : ObjectId) : List Finding :=
  (Page.contentIdsOf document page).flatMap fun id =>
    match document.objectAt id with
    | .ok (.stream entries body) => ofStream entries body
    | _ => []

mutual

/-- How many strings there are in an object. -/
def stringCount : Object → Nat
  | .string _ => 1
  | .array items => stringCountOfAll items
  | _ => 0

/-- How many strings there are in objects. -/
def stringCountOfAll : List Object → Nat
  | [] => 0
  | object :: rest => stringCount object + stringCountOfAll rest

end

/-- What is found when an operation is run. -/
def ofOperation (state : PageText.State) (operation : Operation) : List Finding :=
  if PageText.showsStrings operation then
    match state.encoding with
    | none => [.unshownString]
    | some _ => if stringCountOfAll operation.operands = 0 then [] else [.shownString]
  else []

/-- What is found when operations are run one after the other, up to one that ends the run. -/
def ofOperations (encodings : PageText.Encodings) : PageText.State → List Operation → List Finding
  | _, [] => []
  | state, operation :: rest =>
    ofOperation state operation ++
      match PageText.run encodings state operation with
      | .ok next => ofOperations encodings next rest
      | .error _ => []

/-- What is found when the text of a page is read. -/
def ofPage (document : Document) (page : ObjectId) : List Finding :=
  match Page.fonts document page with
  | .error _ => []
  | .ok fonts =>
    fonts.values.flatMap (ofFont document) ++ ofContents document page ++
      match Operation.readAll (Page.content document page) with
      | .error .unsupported => [.unsupportedImage]
      | .error _ => []
      | .ok operations =>
        let (encodings, start) := PageText.start document fonts
        ofOperations encodings start operations

/-- What is found when the text of the page with a number is read. -/
def ofPageNumber (document : Document) (number : Nat) : List Finding :=
  ((document.page? number).toList).flatMap (ofPage document)

end PdfText.Diagnosis

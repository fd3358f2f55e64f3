import PdfText.Unicode.Utf8
import PdfText.Xref

/-!
# The layout of a file

Before any object is read, the file is read as far as its cross-reference table. The table is
found from the end: the last lines name the offset of the newest section, and each section names
the one before it. Entries of a newer section count before those of an older one, and the trailer
of the newest section is the one that counts.

Everything before the first header is left out, and all offsets count from the header on.

## Main definitions

* `Layout` — a file with its cross-reference table and trailer
* `Layout.read` — finds them, or says why they cannot be found
* `Layout.lengthOf` — the integer that stands at the place of an id
-/

namespace PdfText

/-- A file with its cross-reference table and trailer. -/
structure Layout where
  /-- The bytes of the file from its header on. -/
  bytes : Bytes
  /-- The version that the header names. -/
  version : Bytes
  /-- Where objects stand. -/
  entries : Xref
  /-- What the newest section says about the document. -/
  trailer : Dict

namespace Layout

/-- The word that a file begins with. -/
def marker : Bytes := ascii "%PDF-"

/-- The first line of a file, which names a version. -/
def header : Rule Bytes := do
  Rule.literal "%PDF-"
  let version ← Rule.run (!isLineEnd ·)
  Token.lineEnd
  return version

/-- The version in the header. It has to be text. -/
def version? (bytes : Bytes) : Option Bytes :=
  (header.value? bytes).filter Utf8.isValid

/-- The lines that name the newest section. -/
def startLines : Rule Int := do
  Rule.literal "startxref"
  Token.lineEnd
  let _ ← Rule.run (· == 0x20)
  let start ← Token.integer
  let _ ← Rule.run (· == 0x20)
  Token.lineEnd
  Rule.literal "%%EOF"
  return start

/-- How many bytes at the end of a file are searched for its last line. -/
def tailLength : Nat := 512

/-- How far before the last line the word `startxref` may stand. -/
def startDistance : Nat := 25

/-- The offset of the newest section, as the last lines name it. -/
def start? (bytes : Bytes) : Option Int := do
  let last ← bytes.findLast? (ascii "%%EOF") (bytes.length - tailLength)
  if last ≤ startDistance then none
  let start ← bytes.findLast? (ascii "startxref") (last - startDistance)
  startLines.value? (bytes.drop start)

/-- The section at an offset, which has to lie in the file. -/
def sectionAt (bytes : Bytes) (outside : XrefError) (offset : Int) : Except PdfError XrefSection :=
  if 0 ≤ offset ∧ offset ≤ bytes.length then XrefSection.read (bytes.drop offset.toNat)
  else .error (.xref outside)

/-- Adds the sections before the newest one. `previous` is the offset of the next section, `seen`
holds the offsets followed so far, and `beside` is the offset of a stream beside the newest
section, which is read once, after the first older section. -/
def addOlder (bytes : Bytes) :
    (budget : Nat) → (entries : Xref) → (previous beside : Option Object) → (seen : List Int) →
      Except PdfError Xref
  | budget + 1, entries, some (.integer previous), beside, seen => do
    if seen.contains previous then return entries
    let older ← sectionAt bytes .previous previous
    let entries := entries.orElse older.entries
    let entries ← match beside with
      | some (.integer offset) =>
        let found ← sectionAt bytes .stream offset
        pure (entries.orElse found.entries)
      | _ => pure entries
    addOlder bytes budget entries (older.trailer.get? "Prev") none (previous :: seen)
  | _, entries, _, _, _ => return entries

/-- The highest number that an entry may have. -/
def maxNumber : Nat := sizeOfBits 32 - 2

/-- Reads a file as far as its cross-reference table. -/
def read (file : Bytes) : Except PdfError Layout := do
  let bytes := file.fromFirst marker
  let some version := version? bytes | throw (.parse .fileHeader)
  let some start := start? bytes | throw (.xref .start)
  let newest ← sectionAt bytes .start start
  let entries ← addOlder bytes (bytes.length + 2) newest.entries (newest.trailer.get? "Prev")
    (newest.trailer.get? "XRefStm") []
  if entries.keys.any (maxNumber < ·) then throw (.parse .crossReferenceTable)
  return { bytes, version, entries, trailer := newest.trailer.erase "Prev" }

/-- The bytes of the file from an offset on. -/
def bytesFrom (layout : Layout) (offset : Nat) : Bytes := layout.bytes.drop offset

/-- The integer that stands at the place of an id, if its entry has that generation and the object
there bears that id. -/
def lengthOf (layout : Layout) (id : ObjectId) : Option Int :=
  match layout.entries[id.number]? with
  | some (.normal offset generation) =>
    if generation = id.generation then Indirect.integer? id (layout.bytesFrom offset) else none
  | _ => none

/-- The indirect object at an offset. -/
def indirectAt? (layout : Layout) (offset : Nat) : Option Indirect :=
  Indirect.read? layout.lengthOf (layout.bytesFrom offset)

/-- The offsets and generations of the entries in use, in ascending order of their numbers. -/
def normalEntries (layout : Layout) : List (ObjectId × Nat) :=
  layout.entries.toList.filterMap fun (number, entry) =>
    match entry with
    | .normal offset generation => some (⟨number, generation⟩, offset)
    | .compressed .. => none

end Layout

end PdfText

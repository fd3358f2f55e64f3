import PdfText.Filter
import PdfText.Grammar.Indirect
import Std.Data.TreeMap

/-!
# Cross-reference sections

A cross-reference section tells at which offset of the file an object stands, or in which object
stream. It comes in two forms: as a table of text lines followed by the trailer, and as a stream
of fixed-width fields whose dictionary is the trailer.

## Main definitions

* `XrefEntry`, `Xref` — where objects stand
* `XrefSection` — the entries and the trailer of one section
* `XrefSection.read` — the section at the front of some bytes, in either form
-/

namespace PdfText

/-- Where an object stands. -/
inductive XrefEntry where
  /-- At an offset of the file, with a generation. -/
  | normal (offset generation : Nat)
  /-- At some place of an object stream. -/
  | compressed (container index : Nat)
  deriving DecidableEq, Repr

/-- Where objects stand, by their numbers. -/
abbrev Xref := Std.TreeMap Nat XrefEntry

/-- The entries and the trailer of one section. -/
structure XrefSection where
  /-- Where objects stand. -/
  entries : Xref
  /-- What the section says about the document. -/
  trailer : Dict

/-- The entries of two sections. Where both tell of a number, the first one counts. -/
def Xref.orElse (first second : Xref) : Xref :=
  second.foldl (fun entries number entry => entries.insertIfNew number entry) first

namespace XrefSection

/-! ## Tables -/

/-- What ends the line of an entry: two characters, of which at least one ends lines. -/
def entryEnd : Rule Unit := Rule.literal " \r" <|> Rule.literal " \n" <|> Rule.literal "\r\n"

/-- A line of the table. Only an entry in use tells of a place, and only with a generation of 16
bits. -/
def entry : Rule (Option XrefEntry) := do
  let offset ← Token.unsigned (sizeOfBits 32)
  Rule.literal " "
  let generation ← Token.unsigned (sizeOfBits 32)
  Rule.literal " "
  let inUse ← Rule.byteValue fun b =>
    if b == 0x6E then some true else if b == 0x66 then some false else none
  entryEnd
  return if inUse && generation < sizeOfBits 16 then some (.normal offset generation) else none

/-- A run of lines with the number of the first. How many lines are announced does not matter. -/
def subsection (budget : Nat) : Rule (Nat × List (Option XrefEntry)) := do
  let start ← Token.unsigned (sizeOfBits 64)
  Rule.literal " "
  let _ ← Token.unsigned (sizeOfBits 32)
  let _ ← Rule.opt (Rule.literal " ")
  Token.lineEnd
  let lines ← Rule.many entry budget
  return (start, lines)

/-- Enters the lines of a subsection, numbered upwards modulo 2^32. -/
def enterLines (entries : Xref) (start : Nat) (lines : List (Option XrefEntry)) : Xref :=
  (lines.foldl (fun (entries, number) line =>
    (match line with
      | some entry => entries.insert (number % sizeOfBits 32) entry
      | none => entries, number + 1)) (entries, start)).1

/-- A table and the trailer after it. -/
def table (budget : Nat) : Rule XrefSection := do
  Rule.literal "xref"
  Token.lineEnd
  let subsections ← Rule.many1 (subsection budget) budget
  Token.blank
  Rule.literal "trailer"
  Token.blank
  let trailer ← Direct.dictionary budget
  let entries := subsections.foldl (fun entries (start, lines) => enterLines entries start lines) ∅
  return ⟨entries, trailer⟩

/-! ## Streams -/

/-- The integers that a list of objects holds, if it holds nothing else. -/
def integers? (object : Object) : Option (List Int) := object.array? >>= (·.mapM Object.integer?)

/-- A field of fixed width as a number of 32 bits, and the bytes after it. -/
def field (width : Nat) (bytes : Bytes) : Except PdfError (Nat × Bytes) :=
  if width ≤ bytes.length then
    .ok (Bytes.bigEndian (bytes.take width) % sizeOfBits 32, bytes.drop width)
  else .error (.io .bufferNotFilled)

/-- The widths of the three fields of an entry. -/
structure Widths where
  kind : Nat
  second : Nat
  third : Nat
  deriving Repr

/-- One entry and the bytes after it. An entry of an unknown kind has no further fields. -/
def streamEntry (widths : Widths) (bytes : Bytes) : Except PdfError (Option XrefEntry × Bytes) := do
  let (kind, afterKind) ← if widths.kind = 0 then pure (1, bytes) else field widths.kind bytes
  match kind with
  | 0 =>
    let (_, afterSecond) ← field widths.second afterKind
    let (_, rest) ← field widths.third afterSecond
    return (none, rest)
  | 1 =>
    let (offset, afterSecond) ← field widths.second afterKind
    let (generation, rest) ← field widths.third afterSecond
    return (some (.normal offset (generation % sizeOfBits 16)), rest)
  | 2 =>
    let (container, afterSecond) ← field widths.second afterKind
    let (index, rest) ← field widths.third afterSecond
    return (some (.compressed container (index % sizeOfBits 16)), rest)
  | _ => return (none, afterKind)

/-- Enters `count` entries numbered upwards modulo 2^32. -/
def streamEntries (widths : Widths) (number : Int) :
    Nat → Xref × Bytes → Except PdfError (Xref × Bytes)
  | 0, state => .ok state
  | count + 1, (entries, bytes) => do
    let (found, rest) ← streamEntry widths bytes
    let entries := match found with
      | some entry => entries.insert (number % sizeOfBits 32).toNat entry
      | none => entries
    streamEntries widths (number + 1) count (entries, rest)

/-- Enters the entries of pairs of a first number and a count. An odd last number is left out. -/
def streamSections (widths : Widths) :
    List Int → Xref × Bytes → Except PdfError (Xref × Bytes)
  | start :: count :: sections, state => do
    let state ← streamEntries widths start count.toNat state
    streamSections widths sections state
  | _, state => .ok state

/-- The widths that a dictionary gives. -/
def widths? (entries : Dict) : Option Widths :=
  match (entries.get? "W").bind integers? with
  | some (.ofNat kind :: .ofNat second :: .ofNat third :: _) => some ⟨kind, second, third⟩
  | _ => none

/-- The section that a stream is. -/
def ofStream (entries : Dict) (body : Bytes) : Except PdfError XrefSection := do
  let data ← match entries.get? "Filter" with
    | some _ => Filter.decode entries body
    | none => pure body
  match (entries.get? "Size").bind Object.integer?, widths? entries with
  | some size, some widths =>
    let sections := ((entries.get? "Index").bind integers?).getD [0, size]
    let (found, _) ← streamSections widths sections (∅, data)
    return ⟨found, ((entries.erase "Length").erase "W").erase "Index"⟩
  | _, _ => throw (.parse .crossReferenceTable)

/-! ## Either form -/

/-- The section at the front of some bytes. -/
def read (bytes : Bytes) : Except PdfError XrefSection :=
  match (table (bytes.length + 1)).value? bytes with
  | some section_ =>
    if ((section_.trailer.get? "Size").bind Object.integer?).isSome then .ok section_
    else .error (.parse .trailer)
  | none =>
    match Indirect.read? (fun _ => none) bytes with
    | none => .error (.parse .trailer)
    | some found =>
      match found.object with
      | .stream entries body => ofStream entries body
      | _ => .error (.parse .crossReferenceTable)

end XrefSection

end PdfText

import PdfText.CMap
import PdfText.Document
import PdfText.Encoding.Table

/-!
# Encodings of fonts

The strings that a page shows are bytes, and the font in force says what text they are: by a table
that has a name of its own, by a CMap, or as UTF-16. A name that is none of these leaves the font
usable until a string is shown.

## Main definitions

* `Encoding` — how the strings of a font are read
* `Encoding.ofFont` — the encoding that the dictionary of a font describes
* `Encoding.decode` — the text of a string
-/

namespace PdfText

/-- How the strings of a font are read. -/
inductive Encoding where
  /-- By a table, byte by byte. -/
  | byTable (table : EncodingTable)
  /-- By a CMap. -/
  | byCMap (cmap : CMap)
  /-- By the rule of an encoding with this name. -/
  | byName (name : Bytes)
  deriving Repr

namespace Encoding

/-- The tables that fonts can name. -/
def tables : List (String × EncodingTable) :=
  [("StandardEncoding", .standard), ("MacRomanEncoding", .macRoman),
   ("MacExpertEncoding", .macExpert), ("WinAnsiEncoding", .winAnsi), ("PDFDocEncoding", .pdfDoc)]

/-- The table that a font names. -/
def tableOf? (name : Bytes) : Option EncodingTable :=
  (tables.find? fun entry => ascii entry.1 == name).map Prod.snd

/-- Whether a name says that codes are their own characters, which only a CMap can turn into
text. -/
def isIdentity (name : Bytes) : Bool := name == ascii "Identity-H" || name == ascii "Identity-V"

/-- Whether a name says that strings are UTF-16. -/
def isUtf16 (name : Bytes) : Bool := name == ascii "UniGB-UCS2-H" || name == ascii "UniGB-UTF16-H"

/-- The CMap in a stream. -/
def ofStream (entries : Dict) (body : Bytes) : Except PdfError Encoding := do
  let data ← Filter.plain entries body
  match CMap.parse data with
  | .ok cmap => return .byCMap cmap
  | .error error => throw (.cmap error)

/-- The stream at the key `ToUnicode` of a font. -/
def toUnicode (document : Document) (font : Dict) : Except PdfError (Dict × Bytes) :=
  document.resolveAt font "ToUnicode" >>= Document.streamOf

/-- The encoding of a font. One that names none has the CMap it comes with, or else the standard
table. -/
def ofFont (document : Document) (font : Dict) : Except PdfError Encoding :=
  if !font.hasType "Font" then .error .dictionaryType
  else
    match (font.get? "Encoding").bind Object.name? with
    | some name =>
      match tableOf? name with
      | some table => .ok (.byTable table)
      | none =>
        if isIdentity name then do
          let (entries, body) ← toUnicode document font
          ofStream entries body
        else .ok (.byName name)
    | none =>
      match toUnicode document font with
      | .ok (entries, body) => ofStream entries body
      | .error _ => .ok (.byTable .standard)

/-- The text of a string. -/
def decode (bytes : Bytes) : Encoding → Except (Halt PdfError) (List Char)
  | .byTable table => .ok (table.characters bytes)
  | .byCMap cmap => (cmap.decode bytes).mapError .defect
  | .byName name =>
    if isUtf16 name then .ok (Utf16.decode bytes) else .error (.cause .characterEncoding)

end Encoding

end PdfText

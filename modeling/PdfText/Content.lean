import PdfText.Error.Pdf
import PdfText.Grammar.Direct

/-!
# Content streams

What a page shows is a sequence of operations: operands, then an operator. Reading goes on to the
first place where no operation stands, and what follows from there on is left out.

An image inside the stream is the exception. Its data can be told from the rest by its length
alone, which follows from its dictionary; if that does not work out, the whole stream is refused.

## Main definitions

* `Operation` — operands and an operator
* `InlineImage.skip` — the bytes after an image
* `InlineImage.Fault` — why an image cannot be passed over
* `Operation.readAll` — the operations of a content stream
-/

namespace PdfText

/-- Operands and the operator that uses them. -/
structure Operation where
  operator : Bytes
  operands : List Object
  deriving Repr

namespace Content

/-- White space of content streams. -/
def isSpace (b : UInt8) : Bool := isInline b || isLineEnd b

/-- Any amount of white space. -/
def space : Rule Unit := do
  let _ ← Rule.run isSpace

/-- A byte that an operator is made of. -/
def isOperatorByte (b : UInt8) : Bool := isLetter b || b == 0x2A || b == 0x27 || b == 0x22

/-- An operand: a direct object, which is no reference. -/
def operand (budget : Nat) : Rule Object := do
  let object ← Token.keyword <|> Token.scalar <|>
    Direct.compoundOf (Direct.object budget) budget
  space
  return object

/-- Operands and their operator. -/
def operation (budget : Nat) : Rule Operation := do
  let operands ← Rule.many (operand budget) budget
  let operator ← Rule.run1 isOperatorByte
  space
  return { operator, operands }

/-- Comments, one directly after the other. -/
def comments (budget : Nat) : Rule Unit := do
  let _ ← Rule.many Token.comment budget

end Content

namespace InlineImage

/-- Why an image cannot be passed over. -/
inductive Fault where
  /-- Its dictionary or its data is not written as it should be. -/
  | unreadable
  /-- How long its data is does not follow from its dictionary. -/
  | unsupported
  /-- It names no colour space. -/
  | noColorSpace
  deriving DecidableEq, Repr

/-- How an image that cannot be passed over ends the reading of its stream. -/
def Fault.halt : Fault → Halt PdfError
  | unreadable => .cause (.parse .contentStream)
  | unsupported => .cause (.parse .contentStream)
  | noColorSpace => .defect .inlineImageColorSpace

/-- The object at the short or the full spelling of a key; the short one is preferred. -/
def find? (entries : Dict) (short full : String) : Option Object :=
  (entries.get? short).or (entries.get? full)

/-- The integer at a key, which has to be there. -/
def integerAt (entries : Dict) (short full : String) : Except Fault Int :=
  match (find? entries short full).bind Object.integer? with
  | some value => .ok value
  | none => .error .unreadable

/-- How many components the colours of a space have. -/
def components? (name : Bytes) : Option Nat :=
  if name == ascii "Gray" || name == ascii "DeviceGray" then some 1
  else if name == ascii "RGB" || name == ascii "DeviceRGB" then some 3
  else if name == ascii "RGBA" || name == ascii "DeviceRGBA" || name == ascii "CMYK" ||
    name == ascii "DeviceCMYK" then some 4
  else none

/-- How many components a pixel has. An image that is no mask is taken to name a colour space. -/
def componentsOf (entries : Dict) : Except Fault Nat :=
  if ((find? entries "IM" "ImageMask").bind Object.boolean?).getD false then .ok 1
  else
    match find? entries "CS" "ColorSpace" with
    | none => .error .noColorSpace
    | some space =>
      match space.name?.bind components? with
      | some count => .ok count
      | none => .error .unsupported

/-- A product of sizes, which are words of 64 bits. -/
def product (first second : Nat) : Nat := first * second % sizeOfBits 64

/-- An integer as a word of 64 bits. One below zero is a size that no image reaches. -/
def wordOf (value : Int) : Nat := (value % sizeOfBits 64).toNat

/-- How many bytes the data of an image has: whole bytes for each row. Data behind a filter has no
length to go by. -/
def dataLength (entries : Dict) : Except Fault Nat := do
  let width ← integerAt entries "W" "Width"
  let height ← integerAt entries "H" "Height"
  let bits ← integerAt entries "BPC" "BitsPerComponent"
  let components ← componentsOf entries
  if (find? entries "F" "Filter").isSome then throw .unsupported
  let rowBits := product (product (wordOf width) components) (wordOf bits)
  return product (wordOf height) ((rowBits + 7) / 8)

/-- The dictionary of an image and the word before its data. -/
def opening (budget : Nat) : Rule Dict := do
  Content.space
  let entries ← Direct.entries budget
  Rule.literal "ID"
  Content.space
  return entries

/-- The data of an image and the word after it. -/
def closing (length : Nat) : Rule Unit := do
  let _ ← Rule.take length
  Content.space
  Rule.literal "EI"
  Content.space

/-- The bytes after an image whose first word has been read. -/
def skip (budget : Nat) (bytes : Bytes) : Except Fault Bytes := do
  match opening budget bytes with
  | none => throw .unreadable
  | some (entries, data) =>
    let length ← dataLength entries
    match closing length data with
    | none => throw .unreadable
    | some (_, rest) => return rest

end InlineImage

namespace Operation

/-- The operations at the front of some bytes, at most `left` of them, after those already read,
which come last first. Images are passed over. -/
def readFrom (budget : Nat) : (left : Nat) → (done : List Operation) → Bytes →
    Except InlineImage.Fault (List Operation)
  | 0, done, _ => .ok done.reverse
  | left + 1, done, bytes =>
    match (do Content.comments budget; Rule.literal "BI" : Rule Unit) bytes with
    | some (_, image) => do
      let rest ← InlineImage.skip budget image
      readFrom budget left done rest
    | none =>
      match (do Content.comments budget; Content.operation budget : Rule Operation) bytes with
      | some (operation, rest) => readFrom budget left (operation :: done) rest
      | none => .ok done.reverse

/-- The operations of a content stream. -/
def readAll (bytes : Bytes) : Except InlineImage.Fault (List Operation) :=
  let budget := bytes.length + 1
  readFrom budget budget [] (bytes.dropWhile Content.isSpace)

end Operation

end PdfText

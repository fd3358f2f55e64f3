import PdfText.Grammar.Direct

/-!
# The text of a CMap

A CMap is written as a program of fixed shape: an opening, up to four lines of description,
sections of code ranges and of mappings, and a closing. The rules here read that shape and nothing
else. What follows the closing does not matter, and neither do the counts that sections announce.

## Main definitions

* `CMap.Code` — a code of one to four bytes, `CMap.Target` — what a range leads to
* `CMap.Section` — a section of a CMap
* `CMap.program` — the rule for a whole CMap
-/

namespace PdfText.CMap

/-- A code. Codes of different length are different codes. -/
structure Code where
  /-- How many bytes it has. -/
  length : Nat
  /-- The number that its bytes make. -/
  value : Nat
  deriving DecidableEq, Repr

/-- What a range of codes leads to. -/
inductive Target where
  /-- The text of the first code, from which the others count up. -/
  | start (units : List Nat)
  /-- The text of each code. -/
  | each (texts : List (List Nat))
  deriving Repr

/-- A section of a CMap. -/
inductive Section where
  /-- The codes there are. -/
  | codeSpace
  /-- Codes with their texts. -/
  | characters (pairs : List (Code × List Nat))
  /-- Ranges of codes, by the first and the last code, with their texts. -/
  | ranges (triples : List (Code × Code × Target))
  deriving Repr

/-! ## Spaces -/

/-- White space of a CMap. -/
def isSpace (b : UInt8) : Bool := isInline b || isLineEnd b

/-- Any amount of white space and comments. -/
def gap : Rule Unit := fun bytes => some ((), Token.skipGap isSpace none bytes)

/-- White space and comments, at least one of them. -/
def someGap : Rule Unit := do
  (do let _ ← Rule.byte isSpace) <|> Token.comment
  gap

/-- Spaces and tabs, at least one. -/
def spaces : Rule Unit := do
  let _ ← Rule.run1 isInline

/-- Any amount of spaces and tabs. -/
def maySpaces : Rule Unit := do
  let _ ← Rule.run isInline

/-- White space without comments, at least one byte of it. -/
def plainGap : Rule Unit := do
  let _ ← Rule.run1 isSpace

/-- A word with spaces or tabs after it. -/
def wordSpaces (word : String) : Rule Unit := do
  Rule.literal word
  spaces

/-- A word with white space or comments after it. -/
def wordGap (word : String) : Rule Unit := do
  Rule.literal word
  someGap

/-- A count with spaces or tabs after it. Its value does not matter. -/
def count : Rule Unit := do
  let _ ← Rule.run1 isDigit
  spaces

/-! ## Codes and texts -/

/-- Two hexadecimal digits as a number. -/
def hexPair : Rule Nat := do
  let high ← Rule.byteValue hexValue?
  let low ← Rule.byteValue hexValue?
  return 16 * high.toNat + low.toNat

/-- A code: one to four bytes in angle brackets. -/
def code : Rule Code := do
  Rule.literal "<"
  let bytes ← Rule.many1 hexPair 3
  Rule.literal ">"
  return ⟨bytes.length, bytes.foldl (fun value byte => 256 * value + byte) 0⟩

/-- A text: up to 256 units of four digits each in angle brackets, with white space and comments
after each. -/
def text : Rule (List Nat) := do
  Rule.literal "<"
  let units ← Rule.many1 (do
    let high ← hexPair
    let low ← hexPair
    gap
    return 256 * high + low) 255
  Rule.literal ">"
  return units

/-- Texts in square brackets. -/
def texts (budget : Nat) : Rule (List (List Nat)) := do
  Rule.literal "["
  maySpaces
  let first ← text
  let others ← Rule.many (do spaces; text) budget
  maySpaces
  Rule.literal "]"
  return first :: others

/-- Two codes of one length. -/
def codePair : Rule (Code × Code) := do
  maySpaces
  let first ← code
  maySpaces
  let last ← code
  if first.length = last.length then return (first, last) else failure

/-! ## Sections -/

/-- A section: a count, a word, at least one line, and another word. -/
def sectionOf {α : Type} (opening closing : String) (line : Rule α) (budget : Nat) :
    Rule (List α) := do
  count
  wordGap opening
  let lines ← Rule.many1 (line <* someGap) budget
  wordGap closing
  return lines

/-- A code with its text. -/
def characterLine : Rule (Code × List Nat) := do
  maySpaces
  let source ← code
  maySpaces
  let units ← text
  return (source, units)

/-- A range of codes with its texts. -/
def rangeLine (budget : Nat) : Rule (Code × Code × Target) := do
  let (first, last) ← codePair
  maySpaces
  let target ← (Target.start <$> text) <|> (Target.each <$> texts budget)
  return (first, last, target)

/-- A section of any kind. -/
def anySection (budget : Nat) : Rule Section :=
  (do
    let _ ← sectionOf "begincodespacerange" "endcodespacerange" codePair budget
    return .codeSpace) <|>
  (Section.characters <$> sectionOf "beginbfchar" "endbfchar" characterLine budget) <|>
  (Section.ranges <$> sectionOf "beginbfrange" "endbfrange" (rangeLine budget) budget)

/-! ## The whole program -/

/-- The dictionary of the character collection, in brackets or put together step by step. -/
def systemInfo (budget : Nat) : Rule Unit :=
  (do let _ ← Direct.dictionary budget) <|>
  (do
    count
    wordSpaces "dict"
    wordSpaces "dup"
    Rule.literal "begin"
    plainGap
    let _ ← Rule.many (do
      let _ ← Token.name
      Token.blank
      let _ ← Direct.object budget
      Token.blank
      Rule.literal "def"
      plainGap) budget
    Rule.literal "end")

/-- A line of description. -/
def description (budget : Nat) : Rule Unit := do
  (do
    Rule.literal "/CIDSystemInfo"
    gap
    systemInfo budget
    someGap) <|>
  (do
    Rule.literal "/CMapName"
    maySpaces
    let _ ← Token.name
    spaces) <|>
  (do
    wordSpaces "/CMapType"
    count)
  wordGap "def"

/-- The opening of a CMap. -/
def opening : Rule Unit := do
  gap
  Rule.literal "/CIDInit"
  maySpaces
  Rule.literal "/ProcSet" <|> Rule.literal "/Procset"
  spaces
  wordSpaces "findresource"
  wordGap "begin"
  count
  wordSpaces "dict"
  wordGap "begin"
  wordGap "begincmap"

/-- The closing of a CMap. -/
def closing : Rule Unit := do
  wordGap "endcmap"
  wordSpaces "CMapName"
  wordSpaces "currentdict"
  wordSpaces "/CMap"
  wordSpaces "defineresource"
  wordGap "pop"
  wordGap "end"
  Rule.literal "end"
  gap

/-- A whole CMap. -/
def program (budget : Nat) : Rule (List Section) := do
  opening
  let _ ← Rule.many1 (description budget) 3
  let sections ← Rule.many1 (anySection budget) budget
  closing
  return sections

end PdfText.CMap

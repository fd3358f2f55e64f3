import PdfText.Grammar.Rule
import PdfText.Object

/-!
# Tokens

The rules for what stands between objects and for the objects that hold no others: line ends,
comments and blanks; numbers; names with their `#` escapes; strings in parentheses with their
backslash escapes, and strings in hexadecimal digits.

## Main definitions

* `Token.lineEnd`, `Token.comment`, `Token.blank` — what separates objects
* `Token.unsigned`, `Token.integer`, `Token.real` — numbers
* `Token.name`, `Token.literalString`, `Token.hexString` — names and strings
* `Token.keyword`, `Token.scalar`, `Token.reference` — the same as objects
-/

namespace PdfText.Token

/-! ## Between objects -/

/-- The end of a line: carriage return and line feed together, or one of them. -/
def lineEnd : Rule Unit
  | 0x0D :: 0x0A :: rest => some ((), rest)
  | 0x0D :: rest => some ((), rest)
  | 0x0A :: rest => some ((), rest)
  | _ => none

/-- A comment: from a percent sign through the end of its line, which has to be there. -/
def comment : Rule Unit := do
  Rule.literal "%"
  let _ ← Rule.run (!isLineEnd ·)
  lineEnd

/-- The bytes after white space of a class and comments. Inside a comment, `resume` is what is left
if its line never ends, since it is then no comment. -/
def skipGap (isSpace : UInt8 → Bool) (resume : Option Bytes) : Bytes → Bytes
  | [] => resume.getD []
  | b :: rest =>
    match resume with
    | some _ =>
      if isLineEnd b then skipGap isSpace none rest else skipGap isSpace resume rest
    | none =>
      if isSpace b then skipGap isSpace none rest
      else if b == 0x25 then skipGap isSpace (some (b :: rest)) rest
      else b :: rest

/-- Any amount of white space and comments. -/
def blank : Rule Unit := fun bytes => some ((), skipGap isBlank none bytes)

/-! ## Numbers -/

/-- Decimal digits for a number below a bound. -/
def unsigned (bound : Nat) : Rule Nat :=
  (Rule.run1 isDigit).verify fun digits =>
    let value := Bytes.decimal digits
    if value < bound then some value else none

/-- A number of an object. -/
def objectNumber : Rule Nat := unsigned (sizeOfBits 32)

/-- A generation of an object. -/
def generation : Rule Nat := unsigned (sizeOfBits 16)

/-- The sign of a number, which may be left out. -/
def sign : Rule Bytes := do
  let mark ← Rule.opt (Rule.byte fun b => b == 0x2B || b == 0x2D)
  return mark.toList

/-- A whole number with an optional sign. One that does not fit into 64 bits is no number. -/
def integer : Rule Int := do
  let mark ← sign
  (Rule.run1 isDigit).verify fun digits =>
    let size : Int := Bytes.decimal digits
    let value := if mark == [0x2D] then -size else size
    if -(sizeOfBits 63 : Int) ≤ value ∧ value < sizeOfBits 63 then some value else none

/-- A number with a decimal point and a digit on at least one side of it, as written. -/
def real : Rule Bytes := do
  let mark ← sign
  let whole ← Rule.run isDigit
  Rule.literal "."
  let fraction ← Rule.run isDigit
  if whole.isEmpty && fraction.isEmpty then failure
  return mark ++ whole ++ ascii "." ++ fraction

/-! ## Names and strings -/

/-- A byte that stands for itself in a name. -/
def isPlainInName (b : UInt8) : Bool := !(isBlank b || isDelimiter b || b == 0x23)

/-- The letters of a name, up to the first byte that cannot belong to it, and the bytes from there
on. A number sign and two hexadecimal digits are one letter. -/
def nameLetters (letters : Bytes) : Bytes → Bytes × Bytes
  | 0x23 :: high :: low :: rest =>
    match hexValue? high, hexValue? low with
    | some h, some l => nameLetters ((16 * h + l) :: letters) rest
    | _, _ => (letters.reverse, 0x23 :: high :: low :: rest)
  | b :: rest =>
    if isPlainInName b then nameLetters (b :: letters) rest else (letters.reverse, b :: rest)
  | [] => (letters.reverse, [])

/-- A slash and the letters of a name, of which there may be none. -/
def name : Rule Bytes := do
  Rule.literal "/"
  fun bytes => some (nameLetters [] bytes)

/-- How many levels of parentheses a string may hold inside its own pair. -/
def maxNesting : Nat := 100

/-- The value of up to three octal digits, modulo 256. -/
def octal (digits : Bytes) : UInt8 :=
  digits.foldl (fun value digit => 8 * value + (digit - 0x30)) 0

/-- The byte that a letter stands for after a backslash. -/
def escaped (b : UInt8) : UInt8 :=
  match b with
  | 0x6E => 0x0A
  | 0x72 => 0x0D
  | 0x74 => 0x09
  | 0x62 => 0x08
  | 0x66 => 0x0C
  | _ => b

/-- What the bytes after a backslash stand for, and how many of them belong to the escape. Up to
three octal digits are one byte, the end of a line is nothing. -/
def escape (bytes : Bytes) : Option (Bytes × Nat) :=
  let digits := (bytes.take 3).takeWhile isOctal
  if digits.isEmpty then
    match bytes with
    | [] => none
    | 0x0D :: 0x0A :: _ => some ([], 2)
    | b :: _ => some (if isLineEnd b then [] else [escaped b], 1)
  else some ([octal digits], digits.length)

/-- The bytes of a string in parentheses: after those already read, which come last first, inside
`level` levels of parentheses of its own, and with `skip` bytes of an escape still to pass. -/
def stringBytes (level : Nat) (read : Bytes) (skip : Nat) : Rule Bytes
  | [] => none
  | b :: rest =>
    match skip with
    | left + 1 => stringBytes level read left rest
    | 0 =>
      if b == 0x29 then
        match level with
        | 0 => some (read.reverse, rest)
        | outer + 1 => stringBytes outer (b :: read) 0 rest
      else if b == 0x28 then
        if level < maxNesting then stringBytes (level + 1) (b :: read) 0 rest else none
      else if b == 0x5C then
        match escape rest with
        | none => none
        | some (value, length) => stringBytes level (value ++ read) length rest
      else stringBytes level (b :: read) 0 rest

/-- A string in balanced parentheses. -/
def literalString : Rule Bytes := do
  Rule.literal "("
  stringBytes 0 [] 0

/-- The bytes that hexadecimal digits stand for; a missing last digit is zero. -/
def hexBytes : List UInt8 → Bytes
  | high :: low :: rest => (16 * high + low) :: hexBytes rest
  | [high] => [16 * high]
  | [] => []

/-- A string of hexadecimal digits in angle brackets, with white space anywhere between. -/
def hexString : Rule Bytes := do
  Rule.literal "<"
  let body ← Rule.run fun b => isBlank b || (hexValue? b).isSome
  Rule.literal ">"
  return hexBytes (body.filterMap hexValue?)

/-! ## As objects -/

/-- The objects that are words. A word stands for its object even where letters follow it. -/
def keyword : Rule Object :=
  (do Rule.literal "null"; return .null) <|>
  (do Rule.literal "true"; return .boolean true) <|>
  (do Rule.literal "false"; return .boolean false)

/-- A reference: number, generation and the letter `R`. -/
def reference : Rule Object := do
  let number ← objectNumber
  blank
  let generation ← generation
  blank
  Rule.literal "R"
  return .reference ⟨number, generation⟩

/-- A number, a name or a string. -/
def scalar : Rule Object :=
  (Object.real <$> real) <|> (Object.integer <$> integer) <|> (Object.name <$> name) <|>
  (Object.string <$> literalString) <|> (Object.string <$> hexString)

end PdfText.Token

import PdfText.Bytes

/-!
# MD5

A digest of sixteen bytes. The data is padded to blocks of 64 bytes, and each block changes four
words of 32 bits in 64 steps.

## Main definitions

* `Md5.digest` — the digest of data
-/

namespace PdfText.Md5

/-- The four words that make the digest. -/
structure State where
  a : UInt32
  b : UInt32
  c : UInt32
  d : UInt32

/-- The words before the first block. -/
def initial : State := ⟨0x67452301, 0xEFCDAB89, 0x98BADCFE, 0x10325476⟩

/-- The constant of each step: the first 32 binary places of the sine of 1, 2, 3, … -/
def constants : Array UInt32 :=
  #[0xD76AA478, 0xE8C7B756, 0x242070DB, 0xC1BDCEEE, 0xF57C0FAF, 0x4787C62A,
   0xA8304613, 0xFD469501, 0x698098D8, 0x8B44F7AF, 0xFFFF5BB1, 0x895CD7BE,
   0x6B901122, 0xFD987193, 0xA679438E, 0x49B40821, 0xF61E2562, 0xC040B340,
   0x265E5A51, 0xE9B6C7AA, 0xD62F105D, 0x02441453, 0xD8A1E681, 0xE7D3FBC8,
   0x21E1CDE6, 0xC33707D6, 0xF4D50D87, 0x455A14ED, 0xA9E3E905, 0xFCEFA3F8,
   0x676F02D9, 0x8D2A4C8A, 0xFFFA3942, 0x8771F681, 0x6D9D6122, 0xFDE5380C,
   0xA4BEEA44, 0x4BDECFA9, 0xF6BB4B60, 0xBEBFBC70, 0x289B7EC6, 0xEAA127FA,
   0xD4EF3085, 0x04881D05, 0xD9D4D039, 0xE6DB99E5, 0x1FA27CF8, 0xC4AC5665,
   0xF4292244, 0x432AFF97, 0xAB9423A7, 0xFC93A039, 0x655B59C3, 0x8F0CCC92,
   0xFFEFF47D, 0x85845DD1, 0x6FA87E4F, 0xFE2CE6E0, 0xA3014314, 0x4E0811A1,
   0xF7537E82, 0xBD3AF235, 0x2AD7D2BB, 0xEB86D391]

/-- By how many bits each step rotates, in its round of sixteen steps. -/
def rotations : List (List UInt32) :=
  [[7, 12, 17, 22], [5, 9, 14, 20], [4, 11, 16, 23], [6, 10, 15, 21]]

/-- A step: its number, its rotation, its constant, and which word of the block it uses. -/
structure Step where
  number : Nat
  rotation : UInt32
  constant : UInt32
  word : Nat

/-- The word of the block that a step uses. -/
def wordOf (number : Nat) : Nat :=
  match number / 16 with
  | 0 => number
  | 1 => (5 * number + 1) % 16
  | 2 => (3 * number + 5) % 16
  | _ => (7 * number) % 16

/-- The 64 steps. -/
def steps : List Step :=
  (List.range 64).map fun number =>
    { number
      rotation := (rotations.getD (number / 16) []).getD (number % 4) 0
      constant := constants.getD number 0
      word := wordOf number }

/-- Rotates a word to the left. -/
def rotateLeft (word amount : UInt32) : UInt32 := (word <<< amount) ||| (word >>> (32 - amount))

/-- The function of the round that mixes three of the words. -/
def mix (number : Nat) (b c d : UInt32) : UInt32 :=
  match number / 16 with
  | 0 => (b &&& c) ||| (~~~b &&& d)
  | 1 => (d &&& b) ||| (~~~d &&& c)
  | 2 => b ^^^ c ^^^ d
  | _ => c ^^^ (b ||| ~~~d)

/-- Runs a step. -/
def State.step (words : Array UInt32) (state : State) (step : Step) : State :=
  let sum := state.a + mix step.number state.b state.c state.d + step.constant +
    words.getD step.word 0
  ⟨state.d, state.b + rotateLeft sum step.rotation, state.b, state.c⟩

/-- Words of four bytes, least significant byte first. -/
def wordsOf : Bytes → List UInt32
  | a :: b :: c :: d :: rest =>
    (a.toUInt32 ||| b.toUInt32 <<< 8 ||| c.toUInt32 <<< 16 ||| d.toUInt32 <<< 24) :: wordsOf rest
  | _ => []

/-- Changes the words by a block. -/
def State.block (state : State) (block : Bytes) : State :=
  let words := (wordsOf block).toArray
  let last := steps.foldl (State.step words) state
  ⟨state.a + last.a, state.b + last.b, state.c + last.c, state.d + last.d⟩

/-- The data with a one bit, zeros and its length in bits, to a multiple of 64 bytes. -/
def padded (data : Bytes) : Bytes :=
  let zeros := (119 - data.length % 64) % 64
  data ++ 0x80 :: List.replicate zeros 0 ++ Bytes.littleEndian 8 (8 * data.length)

/-- Changes the words by the first `count` blocks of data. -/
def blocks (state : State) : (count : Nat) → Bytes → State
  | 0, _ => state
  | count + 1, data => blocks (state.block (data.take 64)) count (data.drop 64)

/-- The digest of data. -/
def digest (data : Bytes) : Bytes :=
  let text := padded data
  let state := blocks initial (text.length / 64) text
  [state.a, state.b, state.c, state.d].flatMap fun word => Bytes.littleEndian 4 word.toNat

end PdfText.Md5

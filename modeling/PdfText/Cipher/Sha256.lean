import PdfText.Bytes

/-!
# SHA-256

A digest of 32 bytes. The data is padded to blocks of 64 bytes, and each block changes eight words
of 32 bits in 64 steps.

## Main definitions

* `Sha256.digest` — the digest of data
-/

namespace PdfText.Sha256

/-- The eight words that make the digest. -/
structure State where
  a : UInt32
  b : UInt32
  c : UInt32
  d : UInt32
  e : UInt32
  f : UInt32
  g : UInt32
  h : UInt32

/-- The constant of each step: the first 32 binary places of the cube roots of the primes. -/
def constants : List UInt32 :=
  [0x428A2F98, 0x71374491, 0xB5C0FBCF, 0xE9B5DBA5, 0x3956C25B, 0x59F111F1,
   0x923F82A4, 0xAB1C5ED5, 0xD807AA98, 0x12835B01, 0x243185BE, 0x550C7DC3,
   0x72BE5D74, 0x80DEB1FE, 0x9BDC06A7, 0xC19BF174, 0xE49B69C1, 0xEFBE4786,
   0x0FC19DC6, 0x240CA1CC, 0x2DE92C6F, 0x4A7484AA, 0x5CB0A9DC, 0x76F988DA,
   0x983E5152, 0xA831C66D, 0xB00327C8, 0xBF597FC7, 0xC6E00BF3, 0xD5A79147,
   0x06CA6351, 0x14292967, 0x27B70A85, 0x2E1B2138, 0x4D2C6DFC, 0x53380D13,
   0x650A7354, 0x766A0ABB, 0x81C2C92E, 0x92722C85, 0xA2BFE8A1, 0xA81A664B,
   0xC24B8B70, 0xC76C51A3, 0xD192E819, 0xD6990624, 0xF40E3585, 0x106AA070,
   0x19A4C116, 0x1E376C08, 0x2748774C, 0x34B0BCB5, 0x391C0CB3, 0x4ED8AA4A,
   0x5B9CCA4F, 0x682E6FF3, 0x748F82EE, 0x78A5636F, 0x84C87814, 0x8CC70208,
   0x90BEFFFA, 0xA4506CEB, 0xBEF9A3F7, 0xC67178F2]

/-- Rotates a word to the right. -/
def rotateRight (word amount : UInt32) : UInt32 := (word >>> amount) ||| (word <<< (32 - amount))

/-- Words of 4 bytes, most significant byte first. -/
def wordsOf (bytes : Bytes) : List UInt32 :=
  (List.range (bytes.length / 4)).map fun i =>
    ((bytes.drop (4 * i)).take 4).foldl (fun word b => word <<< 8 ||| b.toUInt32) 0

/-- Adds a word to the schedule of a block, made from four earlier ones. -/
def extend (words : Array UInt32) : Array UInt32 :=
  let size := words.size
  let far := words.getD (size - 15) 0
  let near := words.getD (size - 2) 0
  let first := rotateRight far 7 ^^^ rotateRight far 18 ^^^ far >>> 3
  let second := rotateRight near 17 ^^^ rotateRight near 19 ^^^ near >>> 10
  words.push (words.getD (size - 16) 0 + first + words.getD (size - 7) 0 + second)

/-- The schedule of a block: its sixteen words and those made from them, one for each step. -/
def schedule (block : Bytes) : Array UInt32 :=
  (List.range 48).foldl (fun words _ => extend words) (wordsOf block).toArray

/-- Runs a step with its constant and its word of the schedule. -/
def State.step (state : State) (input : UInt32 × UInt32) : State :=
  let first := rotateRight state.e 6 ^^^ rotateRight state.e 11 ^^^ rotateRight state.e 25
  let choice := (state.e &&& state.f) ^^^ (~~~state.e &&& state.g)
  let change := state.h + first + choice + input.1 + input.2
  let second := rotateRight state.a 2 ^^^ rotateRight state.a 13 ^^^ rotateRight state.a 22
  let majority := (state.a &&& state.b) ^^^ (state.a &&& state.c) ^^^ (state.b &&& state.c)
  ⟨change + second + majority, state.a, state.b, state.c,
    state.d + change, state.e, state.f, state.g⟩

/-- Changes the words by a block. -/
def State.block (state : State) (block : Bytes) : State :=
  let last := (constants.zip (schedule block).toList).foldl State.step state
  ⟨state.a + last.a, state.b + last.b, state.c + last.c, state.d + last.d,
    state.e + last.e, state.f + last.f, state.g + last.g, state.h + last.h⟩

/-- The data with a one bit, zeros and its length in bits, to a multiple of 64 bytes. -/
def padded (data : Bytes) : Bytes :=
  let zeros := (119 - data.length % 64) % 64
  data ++ 0x80 :: List.replicate zeros 0 ++ (Bytes.littleEndian 8 (8 * data.length)).reverse

/-- Changes the words by the first `count` blocks of data. -/
def blocks (state : State) : (count : Nat) → Bytes → State
  | 0, _ => state
  | count + 1, data => blocks (state.block (data.take 64)) count (data.drop 64)

/-- The bytes of the words after all blocks of data. -/
def digestFrom (initial : State) (data : Bytes) : Bytes :=
  let text := padded data
  let state := blocks initial (text.length / 64) text
  [state.a, state.b, state.c, state.d, state.e, state.f, state.g, state.h].flatMap fun word =>
    (Bytes.littleEndian 4 word.toNat).reverse

/-- The words before the first block: the first 32 binary places of the square roots of the
primes. -/
def initial : State :=
  ⟨0x6A09E667, 0xBB67AE85, 0x3C6EF372, 0xA54FF53A,
    0x510E527F, 0x9B05688C, 0x1F83D9AB, 0x5BE0CD19⟩

/-- The digest of data. -/
def digest (data : Bytes) : Bytes := digestFrom initial data

end PdfText.Sha256

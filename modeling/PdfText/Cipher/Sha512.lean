import PdfText.Bytes

/-!
# SHA-512 and SHA-384

A digest of 64 bytes, or its shorter sibling of 48 bytes. The data is padded to blocks of 128
bytes, and each block changes eight words of 64 bits in 80 steps.

## Main definitions

* `Sha512.digest` — the digest of 64 bytes, `Sha512.shortDigest` — the one of 48 bytes
-/

namespace PdfText.Sha512

/-- The eight words that make the digest. -/
structure State where
  a : UInt64
  b : UInt64
  c : UInt64
  d : UInt64
  e : UInt64
  f : UInt64
  g : UInt64
  h : UInt64

/-- The constant of each step: the first 64 binary places of the cube roots of the primes. -/
def constants : List UInt64 :=
  [0x428A2F98D728AE22, 0x7137449123EF65CD, 0xB5C0FBCFEC4D3B2F, 0xE9B5DBA58189DBBC,
   0x3956C25BF348B538, 0x59F111F1B605D019, 0x923F82A4AF194F9B, 0xAB1C5ED5DA6D8118,
   0xD807AA98A3030242, 0x12835B0145706FBE, 0x243185BE4EE4B28C, 0x550C7DC3D5FFB4E2,
   0x72BE5D74F27B896F, 0x80DEB1FE3B1696B1, 0x9BDC06A725C71235, 0xC19BF174CF692694,
   0xE49B69C19EF14AD2, 0xEFBE4786384F25E3, 0x0FC19DC68B8CD5B5, 0x240CA1CC77AC9C65,
   0x2DE92C6F592B0275, 0x4A7484AA6EA6E483, 0x5CB0A9DCBD41FBD4, 0x76F988DA831153B5,
   0x983E5152EE66DFAB, 0xA831C66D2DB43210, 0xB00327C898FB213F, 0xBF597FC7BEEF0EE4,
   0xC6E00BF33DA88FC2, 0xD5A79147930AA725, 0x06CA6351E003826F, 0x142929670A0E6E70,
   0x27B70A8546D22FFC, 0x2E1B21385C26C926, 0x4D2C6DFC5AC42AED, 0x53380D139D95B3DF,
   0x650A73548BAF63DE, 0x766A0ABB3C77B2A8, 0x81C2C92E47EDAEE6, 0x92722C851482353B,
   0xA2BFE8A14CF10364, 0xA81A664BBC423001, 0xC24B8B70D0F89791, 0xC76C51A30654BE30,
   0xD192E819D6EF5218, 0xD69906245565A910, 0xF40E35855771202A, 0x106AA07032BBD1B8,
   0x19A4C116B8D2D0C8, 0x1E376C085141AB53, 0x2748774CDF8EEB99, 0x34B0BCB5E19B48A8,
   0x391C0CB3C5C95A63, 0x4ED8AA4AE3418ACB, 0x5B9CCA4F7763E373, 0x682E6FF3D6B2B8A3,
   0x748F82EE5DEFB2FC, 0x78A5636F43172F60, 0x84C87814A1F0AB72, 0x8CC702081A6439EC,
   0x90BEFFFA23631E28, 0xA4506CEBDE82BDE9, 0xBEF9A3F7B2C67915, 0xC67178F2E372532B,
   0xCA273ECEEA26619C, 0xD186B8C721C0C207, 0xEADA7DD6CDE0EB1E, 0xF57D4F7FEE6ED178,
   0x06F067AA72176FBA, 0x0A637DC5A2C898A6, 0x113F9804BEF90DAE, 0x1B710B35131C471B,
   0x28DB77F523047D84, 0x32CAAB7B40C72493, 0x3C9EBE0A15C9BEBC, 0x431D67C49C100D4C,
   0x4CC5D4BECB3E42B6, 0x597F299CFC657E2A, 0x5FCB6FAB3AD6FAEC, 0x6C44198C4A475817]

/-- Rotates a word to the right. -/
def rotateRight (word amount : UInt64) : UInt64 := (word >>> amount) ||| (word <<< (64 - amount))

/-- Words of 8 bytes, most significant byte first. -/
def wordsOf (bytes : Bytes) : List UInt64 :=
  (List.range (bytes.length / 8)).map fun i =>
    ((bytes.drop (8 * i)).take 8).foldl (fun word b => word <<< 8 ||| b.toUInt64) 0

/-- Adds a word to the schedule of a block, made from four earlier ones. -/
def extend (words : Array UInt64) : Array UInt64 :=
  let size := words.size
  let far := words.getD (size - 15) 0
  let near := words.getD (size - 2) 0
  let first := rotateRight far 1 ^^^ rotateRight far 8 ^^^ far >>> 7
  let second := rotateRight near 19 ^^^ rotateRight near 61 ^^^ near >>> 6
  words.push (words.getD (size - 16) 0 + first + words.getD (size - 7) 0 + second)

/-- The schedule of a block: its sixteen words and those made from them, one for each step. -/
def schedule (block : Bytes) : Array UInt64 :=
  (List.range 64).foldl (fun words _ => extend words) (wordsOf block).toArray

/-- Runs a step with its constant and its word of the schedule. -/
def State.step (state : State) (input : UInt64 × UInt64) : State :=
  let first := rotateRight state.e 14 ^^^ rotateRight state.e 18 ^^^ rotateRight state.e 41
  let choice := (state.e &&& state.f) ^^^ (~~~state.e &&& state.g)
  let change := state.h + first + choice + input.1 + input.2
  let second := rotateRight state.a 28 ^^^ rotateRight state.a 34 ^^^ rotateRight state.a 39
  let majority := (state.a &&& state.b) ^^^ (state.a &&& state.c) ^^^ (state.b &&& state.c)
  ⟨change + second + majority, state.a, state.b, state.c,
    state.d + change, state.e, state.f, state.g⟩

/-- Changes the words by a block. -/
def State.block (state : State) (block : Bytes) : State :=
  let last := (constants.zip (schedule block).toList).foldl State.step state
  ⟨state.a + last.a, state.b + last.b, state.c + last.c, state.d + last.d,
    state.e + last.e, state.f + last.f, state.g + last.g, state.h + last.h⟩

/-- The data with a one bit, zeros and its length in bits, to a multiple of 128 bytes. -/
def padded (data : Bytes) : Bytes :=
  let zeros := (239 - data.length % 128) % 128
  data ++ 0x80 :: List.replicate zeros 0 ++ (Bytes.littleEndian 16 (8 * data.length)).reverse

/-- Changes the words by the first `count` blocks of data. -/
def blocks (state : State) : (count : Nat) → Bytes → State
  | 0, _ => state
  | count + 1, data => blocks (state.block (data.take 128)) count (data.drop 128)

/-- The bytes of the words after all blocks of data. -/
def digestFrom (initial : State) (data : Bytes) : Bytes :=
  let text := padded data
  let state := blocks initial (text.length / 128) text
  [state.a, state.b, state.c, state.d, state.e, state.f, state.g, state.h].flatMap fun word =>
    (Bytes.littleEndian 8 word.toNat).reverse

/-- The words before the first block: the first 64 binary places of the square roots of the first
eight primes. -/
def initial : State :=
  ⟨0x6A09E667F3BCC908, 0xBB67AE8584CAA73B, 0x3C6EF372FE94F82B, 0xA54FF53A5F1D36F1,
    0x510E527FADE682D1, 0x9B05688C2B3E6C1F, 0x1F83D9ABFB41BD6B, 0x5BE0CD19137E2179⟩

/-- The words before the first block of the shorter digest: those of the next eight primes. -/
def shortInitial : State :=
  ⟨0xCBBB9D5DC1059ED8, 0x629A292A367CD507, 0x9159015A3070DD17, 0x152FECD8F70E5939,
    0x67332667FFC00B31, 0x8EB44A8768581511, 0xDB0C2E0D64F98FA7, 0x47B5481DBEFA4FA4⟩

/-- The digest of data. -/
def digest (data : Bytes) : Bytes := digestFrom initial data

/-- The digest of 48 bytes. -/
def shortDigest (data : Bytes) : Bytes := (digestFrom shortInitial data).take 48

end PdfText.Sha512

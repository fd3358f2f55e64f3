import PdfText.Bytes

/-!
# AES

A block cipher on sixteen bytes, which are taken as four columns of four, most significant byte on
top. A round replaces each byte, shifts the rows, mixes each column, and adds a key of the round;
the last round does not mix. Longer data is encrypted block by block, each combined with the block
before it.

For encryption, replacing a byte and mixing its column are one look-up.

## Main definitions

* `Aes.Key` — the keys of all rounds, `Aes.Key.expand` — from a key of 16 or 32 bytes
* `Aes.encryptBlock`, `Aes.decryptBlock` — one block
* `Aes.encryptChain`, `Aes.decryptChain` — longer data
-/

namespace PdfText.Aes

/-- Four columns of four bytes. -/
structure Block where
  c0 : UInt32
  c1 : UInt32
  c2 : UInt32
  c3 : UInt32
  deriving Inhabited

/-- Combines two blocks. -/
def Block.add (block other : Block) : Block :=
  ⟨block.c0 ^^^ other.c0, block.c1 ^^^ other.c1, block.c2 ^^^ other.c2, block.c3 ^^^ other.c3⟩

/-- The block of zeros. -/
def Block.zero : Block := ⟨0, 0, 0, 0⟩

/-! ## Bytes and columns -/

/-- The column of four bytes. -/
def column (b0 b1 b2 b3 : UInt8) : UInt32 :=
  b0.toUInt32 <<< 24 ||| b1.toUInt32 <<< 16 ||| b2.toUInt32 <<< 8 ||| b3.toUInt32

/-- The bytes of a column. -/
def columnBytes (c : UInt32) : Bytes :=
  [(c >>> 24).toUInt8, (c >>> 16).toUInt8, (c >>> 8).toUInt8, c.toUInt8]

/-- The bytes of a block. -/
def Block.bytes (block : Block) : Bytes :=
  columnBytes block.c0 ++ columnBytes block.c1 ++ columnBytes block.c2 ++ columnBytes block.c3

/-- The blocks that bytes make. What is left over is not part of any. -/
def blocksOf : Bytes → List Block
  | a0 :: a1 :: a2 :: a3 :: b0 :: b1 :: b2 :: b3 :: c0 :: c1 :: c2 :: c3 :: d0 :: d1 :: d2 :: d3 ::
      rest =>
    ⟨column a0 a1 a2 a3, column b0 b1 b2 b3, column c0 c1 c2 c3, column d0 d1 d2 d3⟩ ::
      blocksOf rest
  | _ => []

/-! ## Replacing bytes -/

set_option maxRecDepth 4000 in
/-- What each byte is replaced by. -/
def substitution : Vector UInt8 256 :=
  #v[0x63, 0x7C, 0x77, 0x7B, 0xF2, 0x6B, 0x6F, 0xC5, 0x30, 0x01, 0x67, 0x2B,
   0xFE, 0xD7, 0xAB, 0x76, 0xCA, 0x82, 0xC9, 0x7D, 0xFA, 0x59, 0x47, 0xF0,
   0xAD, 0xD4, 0xA2, 0xAF, 0x9C, 0xA4, 0x72, 0xC0, 0xB7, 0xFD, 0x93, 0x26,
   0x36, 0x3F, 0xF7, 0xCC, 0x34, 0xA5, 0xE5, 0xF1, 0x71, 0xD8, 0x31, 0x15,
   0x04, 0xC7, 0x23, 0xC3, 0x18, 0x96, 0x05, 0x9A, 0x07, 0x12, 0x80, 0xE2,
   0xEB, 0x27, 0xB2, 0x75, 0x09, 0x83, 0x2C, 0x1A, 0x1B, 0x6E, 0x5A, 0xA0,
   0x52, 0x3B, 0xD6, 0xB3, 0x29, 0xE3, 0x2F, 0x84, 0x53, 0xD1, 0x00, 0xED,
   0x20, 0xFC, 0xB1, 0x5B, 0x6A, 0xCB, 0xBE, 0x39, 0x4A, 0x4C, 0x58, 0xCF,
   0xD0, 0xEF, 0xAA, 0xFB, 0x43, 0x4D, 0x33, 0x85, 0x45, 0xF9, 0x02, 0x7F,
   0x50, 0x3C, 0x9F, 0xA8, 0x51, 0xA3, 0x40, 0x8F, 0x92, 0x9D, 0x38, 0xF5,
   0xBC, 0xB6, 0xDA, 0x21, 0x10, 0xFF, 0xF3, 0xD2, 0xCD, 0x0C, 0x13, 0xEC,
   0x5F, 0x97, 0x44, 0x17, 0xC4, 0xA7, 0x7E, 0x3D, 0x64, 0x5D, 0x19, 0x73,
   0x60, 0x81, 0x4F, 0xDC, 0x22, 0x2A, 0x90, 0x88, 0x46, 0xEE, 0xB8, 0x14,
   0xDE, 0x5E, 0x0B, 0xDB, 0xE0, 0x32, 0x3A, 0x0A, 0x49, 0x06, 0x24, 0x5C,
   0xC2, 0xD3, 0xAC, 0x62, 0x91, 0x95, 0xE4, 0x79, 0xE7, 0xC8, 0x37, 0x6D,
   0x8D, 0xD5, 0x4E, 0xA9, 0x6C, 0x56, 0xF4, 0xEA, 0x65, 0x7A, 0xAE, 0x08,
   0xBA, 0x78, 0x25, 0x2E, 0x1C, 0xA6, 0xB4, 0xC6, 0xE8, 0xDD, 0x74, 0x1F,
   0x4B, 0xBD, 0x8B, 0x8A, 0x70, 0x3E, 0xB5, 0x66, 0x48, 0x03, 0xF6, 0x0E,
   0x61, 0x35, 0x57, 0xB9, 0x86, 0xC1, 0x1D, 0x9E, 0xE1, 0xF8, 0x98, 0x11,
   0x69, 0xD9, 0x8E, 0x94, 0x9B, 0x1E, 0x87, 0xE9, 0xCE, 0x55, 0x28, 0xDF,
   0x8C, 0xA1, 0x89, 0x0D, 0xBF, 0xE6, 0x42, 0x68, 0x41, 0x99, 0x2D, 0x0F,
   0xB0, 0x54, 0xBB, 0x16]

set_option maxRecDepth 4000 in
/-- What each byte has replaced. -/
def inverseSubstitution : Vector UInt8 256 :=
  #v[0x52, 0x09, 0x6A, 0xD5, 0x30, 0x36, 0xA5, 0x38, 0xBF, 0x40, 0xA3, 0x9E,
   0x81, 0xF3, 0xD7, 0xFB, 0x7C, 0xE3, 0x39, 0x82, 0x9B, 0x2F, 0xFF, 0x87,
   0x34, 0x8E, 0x43, 0x44, 0xC4, 0xDE, 0xE9, 0xCB, 0x54, 0x7B, 0x94, 0x32,
   0xA6, 0xC2, 0x23, 0x3D, 0xEE, 0x4C, 0x95, 0x0B, 0x42, 0xFA, 0xC3, 0x4E,
   0x08, 0x2E, 0xA1, 0x66, 0x28, 0xD9, 0x24, 0xB2, 0x76, 0x5B, 0xA2, 0x49,
   0x6D, 0x8B, 0xD1, 0x25, 0x72, 0xF8, 0xF6, 0x64, 0x86, 0x68, 0x98, 0x16,
   0xD4, 0xA4, 0x5C, 0xCC, 0x5D, 0x65, 0xB6, 0x92, 0x6C, 0x70, 0x48, 0x50,
   0xFD, 0xED, 0xB9, 0xDA, 0x5E, 0x15, 0x46, 0x57, 0xA7, 0x8D, 0x9D, 0x84,
   0x90, 0xD8, 0xAB, 0x00, 0x8C, 0xBC, 0xD3, 0x0A, 0xF7, 0xE4, 0x58, 0x05,
   0xB8, 0xB3, 0x45, 0x06, 0xD0, 0x2C, 0x1E, 0x8F, 0xCA, 0x3F, 0x0F, 0x02,
   0xC1, 0xAF, 0xBD, 0x03, 0x01, 0x13, 0x8A, 0x6B, 0x3A, 0x91, 0x11, 0x41,
   0x4F, 0x67, 0xDC, 0xEA, 0x97, 0xF2, 0xCF, 0xCE, 0xF0, 0xB4, 0xE6, 0x73,
   0x96, 0xAC, 0x74, 0x22, 0xE7, 0xAD, 0x35, 0x85, 0xE2, 0xF9, 0x37, 0xE8,
   0x1C, 0x75, 0xDF, 0x6E, 0x47, 0xF1, 0x1A, 0x71, 0x1D, 0x29, 0xC5, 0x89,
   0x6F, 0xB7, 0x62, 0x0E, 0xAA, 0x18, 0xBE, 0x1B, 0xFC, 0x56, 0x3E, 0x4B,
   0xC6, 0xD2, 0x79, 0x20, 0x9A, 0xDB, 0xC0, 0xFE, 0x78, 0xCD, 0x5A, 0xF4,
   0x1F, 0xDD, 0xA8, 0x33, 0x88, 0x07, 0xC7, 0x31, 0xB1, 0x12, 0x10, 0x59,
   0x27, 0x80, 0xEC, 0x5F, 0x60, 0x51, 0x7F, 0xA9, 0x19, 0xB5, 0x4A, 0x0D,
   0x2D, 0xE5, 0x7A, 0x9F, 0x93, 0xC9, 0x9C, 0xEF, 0xA0, 0xE0, 0x3B, 0x4D,
   0xAE, 0x2A, 0xF5, 0xB0, 0xC8, 0xEB, 0xBB, 0x3C, 0x83, 0x53, 0x99, 0x61,
   0x17, 0x2B, 0x04, 0x7E, 0xBA, 0x77, 0xD6, 0x26, 0xE1, 0x69, 0x14, 0x63,
   0x55, 0x21, 0x0C, 0x7D]

/-- The entry of a table for a byte. -/
def entry {α : Type} (table : Vector α 256) (b : UInt8) : α := table.get ⟨b.toNat, b.toNat_lt⟩

/-- What a byte is replaced by. -/
def replace (b : UInt8) : UInt8 := entry substitution b

/-- What a byte has replaced. -/
def restore (b : UInt8) : UInt8 := entry inverseSubstitution b

/-- Replaces the bytes of a column. -/
def replaceColumn (c : UInt32) : UInt32 :=
  column (replace (c >>> 24).toUInt8) (replace (c >>> 16).toUInt8) (replace (c >>> 8).toUInt8)
    (replace c.toUInt8)

/-! ## Mixing columns -/

/-- Twice a byte, in the field of 256 elements. -/
def double (b : UInt8) : UInt8 := if b < 0x80 then b <<< 1 else b <<< 1 ^^^ 0x1B

/-- The column that a byte in the top row contributes, replaced and mixed. -/
def contribution (b : UInt8) : UInt32 :=
  let value := replace b
  column (double value) value value (double value ^^^ value)

/-- The contributions of all bytes. -/
def contributions : Vector UInt32 256 := Vector.ofFn fun b => contribution (UInt8.ofNat b)

/-- Moves the bytes of a column down by one, and the last to the top. -/
def rollDown (c : UInt32) : UInt32 := c >>> 8 ||| c <<< 24

/-- A column after replacing and mixing, from the four columns that the shifted rows bring
together. -/
def mixedColumn (c0 c1 c2 c3 : UInt32) : UInt32 :=
  entry contributions (c0 >>> 24).toUInt8 ^^^
    rollDown (entry contributions (c1 >>> 16).toUInt8 ^^^
      rollDown (entry contributions (c2 >>> 8).toUInt8 ^^^
        rollDown (entry contributions c3.toUInt8)))

/-- The column that four columns give to the last round, where none is mixed. -/
def plainColumn (c0 c1 c2 c3 : UInt32) : UInt32 :=
  column (replace (c0 >>> 24).toUInt8) (replace (c1 >>> 16).toUInt8) (replace (c2 >>> 8).toUInt8)
    (replace c3.toUInt8)

/-- Undoes the mixing of a column. -/
def unmixColumn (c : UInt32) : UInt32 :=
  let times (b : UInt8) : UInt8 × UInt8 × UInt8 × UInt8 :=
    let b2 := double b
    let b4 := double b2
    let b8 := double b4
    (b8 ^^^ b4 ^^^ b2, b8 ^^^ b2 ^^^ b, b8 ^^^ b4 ^^^ b, b8 ^^^ b)
  let (x0e, x0b, x0d, x09) := times (c >>> 24).toUInt8
  let (x1e, x1b, x1d, x19) := times (c >>> 16).toUInt8
  let (x2e, x2b, x2d, x29) := times (c >>> 8).toUInt8
  let (x3e, x3b, x3d, x39) := times c.toUInt8
  column (x0e ^^^ x1b ^^^ x2d ^^^ x39) (x09 ^^^ x1e ^^^ x2b ^^^ x3d)
    (x0d ^^^ x19 ^^^ x2e ^^^ x3b) (x0b ^^^ x1d ^^^ x29 ^^^ x3e)

/-! ## Keys -/

/-- The keys of all rounds. -/
structure Key where
  /-- Added before the first round. -/
  first : Block
  /-- Those of the rounds that mix. -/
  middle : List Block
  /-- That of the last round. -/
  last : Block

/-- Adds words to the key schedule. `size` is the number of words of the key itself, `constant` the
next constant, and the words so far come last first. -/
def schedule (size : Nat) : (count : Nat) → (constant : UInt8) → List UInt32 → List UInt32
  | 0, _, words => words
  | count + 1, constant, words =>
    let previous := words.headD 0
    let position := words.length
    let (change, constant) :=
      if position % size = 0 then
        (replaceColumn (previous <<< 8 ||| previous >>> 24) ^^^ constant.toUInt32 <<< 24,
          double constant)
      else if size > 6 ∧ position % size = 4 then (replaceColumn previous, constant)
      else (previous, constant)
    schedule size count constant ((words.getD (size - 1) 0 ^^^ change) :: words)

/-- Groups words into blocks. -/
def blocksOfWords : List UInt32 → List Block
  | a :: b :: c :: d :: rest => ⟨a, b, c, d⟩ :: blocksOfWords rest
  | _ => []

/-- Words of four bytes. -/
def wordsOf : Bytes → List UInt32
  | a :: b :: c :: d :: rest => column a b c d :: wordsOf rest
  | _ => []

/-- The keys of all rounds, from a key of 16 or 32 bytes. -/
def Key.expand (key : Bytes) : Key :=
  let size := key.length / 4
  let total := 4 * (size + 7)
  let words := (schedule size (total - size) 1 (wordsOf key).reverse).reverse
  match blocksOfWords words with
  | first :: others => ⟨first, others.dropLast, others.getLastD .zero⟩
  | [] => ⟨.zero, [], .zero⟩

/-! ## Blocks -/

/-- A round of encryption. -/
def encryptRound (block roundKey : Block) : Block :=
  Block.add roundKey
    ⟨mixedColumn block.c0 block.c1 block.c2 block.c3,
      mixedColumn block.c1 block.c2 block.c3 block.c0,
      mixedColumn block.c2 block.c3 block.c0 block.c1,
      mixedColumn block.c3 block.c0 block.c1 block.c2⟩

/-- Encrypts a block. -/
def encryptBlock (key : Key) (block : Block) : Block :=
  let block := key.middle.foldl encryptRound (key.first.add block)
  Block.add key.last
    ⟨plainColumn block.c0 block.c1 block.c2 block.c3,
      plainColumn block.c1 block.c2 block.c3 block.c0,
      plainColumn block.c2 block.c3 block.c0 block.c1,
      plainColumn block.c3 block.c0 block.c1 block.c2⟩

/-- Undoes replacing bytes and shifting rows for the column that begins in `c0`. -/
def restoredColumn (c0 c3 c2 c1 : UInt32) : UInt32 :=
  column (restore (c0 >>> 24).toUInt8) (restore (c3 >>> 16).toUInt8) (restore (c2 >>> 8).toUInt8)
    (restore c1.toUInt8)

/-- Undoes replacing bytes and shifting rows. -/
def restoreBlock (block : Block) : Block :=
  ⟨restoredColumn block.c0 block.c3 block.c2 block.c1,
    restoredColumn block.c1 block.c0 block.c3 block.c2,
    restoredColumn block.c2 block.c1 block.c0 block.c3,
    restoredColumn block.c3 block.c2 block.c1 block.c0⟩

/-- Undoes a round of encryption, given its key. -/
def decryptRound (block roundKey : Block) : Block :=
  let block := block.add roundKey
  restoreBlock
    ⟨unmixColumn block.c0, unmixColumn block.c1, unmixColumn block.c2, unmixColumn block.c3⟩

/-- Decrypts a block. -/
def decryptBlock (key : Key) (block : Block) : Block :=
  (key.middle.reverse.foldl decryptRound (restoreBlock (block.add key.last))).add key.first

/-! ## Longer data -/

/-- Encrypts blocks, each combined with the encrypted block before it, after those already done,
which come last first. -/
def encryptBlocks (key : Key) (before : Block) (done : List Block) : List Block → List Block
  | [] => done.reverse
  | block :: rest =>
    let encrypted := encryptBlock key (block.add before)
    encryptBlocks key encrypted (encrypted :: done) rest

/-- Decrypts blocks, each combined with the encrypted block before it, after those already done,
which come last first. -/
def decryptBlocks (key : Key) (before : Block) (done : List Block) : List Block → List Block
  | [] => done.reverse
  | block :: rest => decryptBlocks key block ((decryptBlock key block).add before :: done) rest

/-- The block that bytes begin with. -/
def firstBlock (bytes : Bytes) : Block := (blocksOf bytes).headD .zero

/-- Encrypts data of whole blocks, starting from an initial block. -/
def encryptChain (key start data : Bytes) : Bytes :=
  (encryptBlocks (.expand key) (firstBlock start) [] (blocksOf data)).flatMap Block.bytes

/-- Decrypts data of whole blocks, starting from an initial block. -/
def decryptChain (key start data : Bytes) : Bytes :=
  (decryptBlocks (.expand key) (firstBlock start) [] (blocksOf data)).flatMap Block.bytes

end PdfText.Aes

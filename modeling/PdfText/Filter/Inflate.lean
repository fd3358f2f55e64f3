import PdfText.Filter.Restored

/-!
# Deflated data

Compressed data in the zlib format: two bytes of header, then blocks of Huffman-coded symbols. A
symbol is a literal byte, the end of a block, or a length that copies bytes written shortly
before. Codes are canonical: the lengths of the codewords determine the code.

Decoding goes on as far as it can. Data that ends early gives what was written up to there. A flaw,
of which a wrong checksum is one, stops it: what was written leaves the decoder a window at a time,
and the window that is not full by then is lost.

## Main definitions

* `BitReader` — the bits still to be read, lowest bit of each byte first
* `HuffmanTree`, `HuffmanTree.ofLengths` — a canonical code as a tree
* `checksum` — the checksum at the end
* `inflate` — the data behind a zlib header
-/

namespace PdfText

/-- The bits still to be read, lowest bit of each byte first. -/
structure BitReader where
  /-- The bytes of which some bit is left. -/
  bytes : Bytes
  /-- How many bits of the first byte have been read. -/
  used : Nat := 0

/-- How many bits are left. -/
def BitReader.remaining (reader : BitReader) : Nat := 8 * reader.bytes.length - reader.used

/-- The next bit and the bits after it. -/
def BitReader.next? (reader : BitReader) : Option (Bool × BitReader) :=
  match reader.bytes with
  | [] => none
  | byte :: rest =>
    some (byte.toNat.testBit reader.used,
      if reader.used < 7 then ⟨byte :: rest, reader.used + 1⟩ else ⟨rest, 0⟩)

/-- The bytes after the one whose bits are being read. -/
def BitReader.wholeBytes (reader : BitReader) : Bytes :=
  if reader.used = 0 then reader.bytes else reader.bytes.tail

/-! ## Huffman codes -/

/-- A code as a tree: the bits of a codeword lead from the root to its symbol. -/
inductive HuffmanTree where
  | vacant
  | symbol (value : Nat)
  | branch (zero one : HuffmanTree)

namespace HuffmanTree

/-- Puts a symbol at the end of a codeword. -/
def insert (value : Nat) : List Bool → HuffmanTree → HuffmanTree
  | [], _ => symbol value
  | false :: path, branch zero one => branch (insert value path zero) one
  | true :: path, branch zero one => branch zero (insert value path one)
  | false :: path, _ => branch (insert value path vacant) vacant
  | true :: path, _ => branch vacant (insert value path vacant)

/-- The codeword of a number: its lowest `length` bits, highest first. -/
def codeword (length code : Nat) : List Bool :=
  (List.range length).map fun i => code.testBit (length - 1 - i)

/-- The longest codeword there is. -/
def maxLength : Nat := 15

/-- The symbols with codewords of each length from 1 on, given the length of each symbol's
codeword, with 0 for a symbol that has none. -/
def symbolsByLength (lengths : List Nat) : List (Nat × List Nat) :=
  (List.range maxLength).map fun i =>
    (i + 1, (lengths.zipIdx.filter fun entry => entry.1 == i + 1).map Prod.snd)

/-- The code in which the codewords of one length are consecutive numbers, in the order of their
symbols, and follow on from those of the length below. -/
def ofLengths (lengths : List Nat) : HuffmanTree :=
  ((symbolsByLength lengths).foldl (fun (tree, code) (length, symbols) =>
      symbols.foldl (fun (tree, code) value =>
        (tree.insert value (codeword length code), code + 1)) (tree, 2 * code))
    (vacant, 0)).1

end HuffmanTree

/-- Whether the codewords with the given lengths are all there can be: their shares of the code
make up the whole. -/
def HuffmanTree.isFull (lengths : List Nat) : Bool :=
  lengths.foldl (fun share length =>
    if length = 0 then share else share + sizeOfBits (maxLength - length)) 0 == sizeOfBits maxLength

/-! ## The checksum -/

/-- The number to which both sums of the checksum are reduced. -/
def checksumModulus : Nat := 65521

/-- The checksum of bytes: the sum of them all, begun at one, and above it the sum of the sums that
arise on the way. -/
def checksum (bytes : Bytes) : Nat :=
  let (low, high) := bytes.foldl (fun (low, high) byte =>
    let low := (low + byte.toNat) % checksumModulus
    (low, (high + low) % checksumModulus)) (1, 0)
  high * sizeOfBits 16 + low

/-! ## Blocks -/

/-- How far decoding has come. -/
structure Inflation where
  /-- The bits still to be read. -/
  reader : BitReader
  /-- The bytes written. -/
  output : Array UInt8 := #[]

/-- Why decoding stops before its end. -/
inductive Inflate.Stop where
  /-- There are no more bytes. -/
  | shortage
  /-- The bytes mean nothing. -/
  | flaw
  deriving DecidableEq, Repr

/-- A step of decoding. -/
abbrev Inflate (α : Type) := EStateM Inflate.Stop Inflation α

namespace Inflate

/-- The next bit. -/
def bit : Inflate Bool := fun state =>
  match state.reader.next? with
  | none => .error .shortage state
  | some (value, reader) => .ok value { state with reader }

/-- The number in the next `count` bits, lowest bit first. -/
def bits : Nat → Inflate Nat
  | 0 => pure 0
  | count + 1 => do
    let low ← bit
    let high ← bits count
    return low.toNat + 2 * high

/-- The next symbol of a code. -/
def symbol : HuffmanTree → Inflate Nat
  | .vacant => throw .flaw
  | .symbol value => pure value
  | .branch zero one => do
    if ← bit then symbol one else symbol zero

/-- Writes a byte. -/
def put (byte : UInt8) : Inflate Unit :=
  modify fun state => { state with output := state.output.push byte }

/-- The byte `distance` places before the end of those written. Zeros are before the first one. -/
def byteBefore (output : Array UInt8) (distance : Nat) : UInt8 :=
  if distance ≤ output.size then output.getD (output.size - distance) 0 else 0

/-- Writes `count` bytes, each a copy of the byte written `distance` places before it. -/
def copy (distance : Nat) : Nat → Inflate Unit
  | 0 => pure ()
  | count + 1 => do
    put (byteBefore (← get).output distance)
    copy distance count

/-- The least length and the number of extra bits for each length symbol from 257 on. -/
def lengthBases : List (Nat × Nat) :=
  [(3, 0), (4, 0), (5, 0), (6, 0), (7, 0), (8, 0), (9, 0), (10, 0),
   (11, 1), (13, 1), (15, 1), (17, 1), (19, 2), (23, 2), (27, 2), (31, 2),
   (35, 3), (43, 3), (51, 3), (59, 3), (67, 4), (83, 4), (99, 4), (115, 4),
   (131, 5), (163, 5), (195, 5), (227, 5), (258, 0)]

/-- The least distance and the number of extra bits for each distance symbol. -/
def distanceBases : List (Nat × Nat) :=
  [(1, 0), (2, 0), (3, 0), (4, 0), (5, 1), (7, 1), (9, 2), (13, 2),
   (17, 3), (25, 3), (33, 4), (49, 4), (65, 5), (97, 5), (129, 6), (193, 6),
   (257, 7), (385, 7), (513, 8), (769, 8), (1025, 9), (1537, 9), (2049, 10), (3073, 10),
   (4097, 11), (6145, 11), (8193, 12), (12289, 12), (16385, 13), (24577, 13)]

/-- The number that a symbol and its extra bits stand for. -/
def extended (bases : List (Nat × Nat)) (index : Nat) : Inflate Nat := do
  match bases[index]? with
  | none => throw .flaw
  | some (least, extra) => return least + (← bits extra)

/-- Decodes symbols up to the end of the block, at most `budget` of them. -/
def symbols (literals distances : HuffmanTree) : Nat → Inflate Unit
  | 0 => throw .flaw
  | budget + 1 => do
    let value ← symbol literals
    if value < 256 then
      put (UInt8.ofNat value)
      symbols literals distances budget
    else if value = 256 then
      return
    else
      let length ← extended lengthBases (value - 257)
      let distance ← extended distanceBases (← symbol distances)
      copy distance length
      symbols literals distances budget

/-- The lengths of the codewords of the fixed code for literals and lengths. -/
def fixedLiterals : List Nat :=
  List.replicate 144 8 ++ List.replicate 112 9 ++ List.replicate 24 7 ++ List.replicate 8 8

/-- The order in which the lengths of the code for code lengths are given. -/
def lengthOrder : List Nat := [16, 17, 18, 0, 8, 7, 9, 6, 10, 5, 11, 4, 12, 3, 13, 2, 14, 1, 15]

/-- Reads `count` numbers of three bits. -/
def shortLengths : Nat → Inflate (List Nat)
  | 0 => pure []
  | count + 1 => do
    let length ← bits 3
    return length :: (← shortLengths count)

/-- Reads code lengths, with their abbreviations for repetition, until there are `count`. Those
already read come last first. -/
def codeLengths (code : HuffmanTree) (count : Nat) (lengths : List Nat) : Nat → Inflate (List Nat)
  | 0 => throw .flaw
  | budget + 1 => do
    if count < lengths.length then throw .flaw
    if count = lengths.length then return lengths.reverse
    let value ← symbol code
    if value < 16 then codeLengths code count (value :: lengths) budget
    else if value = 16 then
      match lengths with
      | [] => throw .flaw
      | last :: _ =>
        let times ← bits 2
        codeLengths code count (List.replicate (3 + times) last ++ lengths) budget
    else
      let times ← if value = 17 then (3 + ·) <$> bits 3 else (11 + ·) <$> bits 7
      codeLengths code count (List.replicate times 0 ++ lengths) budget

/-- A block of bytes as they are: their number, its complement, and the bytes. -/
def storedBlock : Inflate Unit := fun state =>
  match state.reader.wholeBytes with
  | low :: high :: notLow :: notHigh :: rest =>
    if low ^^^ notLow == 0xFF && high ^^^ notHigh == 0xFF then
      let count := low.toNat + 256 * high.toNat
      let written := { reader := ⟨rest.drop count, 0⟩, output := state.output ++ rest.take count }
      if count ≤ rest.length then .ok () written else .error .shortage written
    else .error .flaw state
  | _ => .error .shortage state

/-- The code with the given lengths of codewords. Unless it has at most one codeword, and that is
allowed, no codeword may be missing and none too many. -/
def codeOfLengths (mayBeScant : Bool) (lengths : List Nat) : Inflate HuffmanTree :=
  if HuffmanTree.isFull lengths || (mayBeScant && (lengths.filter (0 < ·)).length ≤ 1) then
    pure (.ofLengths lengths)
  else throw .flaw

/-- A block with a code of its own, which it describes first. -/
def dynamicBlock (budget : Nat) : Inflate Unit := do
  let literalCount ← (257 + ·) <$> bits 5
  let distanceCount ← (1 + ·) <$> bits 5
  let shortCount ← (4 + ·) <$> bits 4
  let short ← shortLengths shortCount
  let order := lengthOrder.zip short
  let code ← codeOfLengths false ((List.range 19).map fun i => (order.lookup i).getD 0)
  let total := literalCount + distanceCount
  let lengths ← codeLengths code total [] (total + 1)
  let literals ← codeOfLengths true (lengths.take literalCount)
  let distances ← codeOfLengths true (lengths.drop literalCount)
  symbols literals distances budget

/-- Decodes blocks through the last one, at most `budget` of them. -/
def blocks (budget : Nat) : Nat → Inflate Unit
  | 0 => throw .flaw
  | left + 1 => do
    let isLast ← bit
    match ← bits 2 with
    | 0 => storedBlock
    | 1 => symbols (.ofLengths fixedLiterals) (.ofLengths (List.replicate 30 5)) budget
    | 2 => dynamicBlock budget
    | _ => throw .flaw
    if isLast then return else blocks budget left

/-- Compares the checksum after the last block with that of the bytes written. -/
def verify : Inflate Unit := fun state =>
  match state.reader.wholeBytes with
  | first :: second :: third :: fourth :: _ =>
    if Bytes.bigEndian [first, second, third, fourth] = checksum state.output.toList then
      .ok () state
    else .error .flaw state
  | _ => .error .shortage state

/-- How many bytes leave the decoder together. -/
def windowSize : Nat := sizeOfBits 15

/-- What has left the decoder before the byte that it is about to write. A full window leaves only
when there is more to write. -/
def delivered (output : Array UInt8) : Bytes :=
  output.toList.take ((output.size - 1) / windowSize * windowSize)

/-- What a run of a step gives. -/
def restored (step : Inflate Unit) (bytes : Bytes) : Restored :=
  match step { reader := { bytes } } with
  | .ok _ state => ⟨state.output.toList, true⟩
  | .error .shortage state => ⟨state.output.toList, true⟩
  | .error .flaw state => ⟨delivered state.output, false⟩

end Inflate

/-- Whether two bytes are a zlib header: the method and the window size in the first, and in the
second no preset dictionary, with the two together a multiple of 31. -/
def isZlibHeader (method flags : UInt8) : Bool :=
  method &&& 0x0F == 8 && method >>> 4 ≤ 7 && flags &&& 0x20 == 0 &&
    (256 * method.toNat + flags.toNat) % 31 == 0

/-- The data behind a zlib header, as far as it can be decoded. Data that is too short to have a
header has no flaw. -/
def inflate : Bytes → Restored
  | method :: flags :: rest =>
    if isZlibHeader method flags then
      let budget := 8 * rest.length + 1
      Inflate.restored (do Inflate.blocks budget budget; Inflate.verify) rest
    else ⟨[], false⟩
  | _ => ⟨[], true⟩

end PdfText

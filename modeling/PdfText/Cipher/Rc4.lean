import PdfText.Bytes

/-!
# RC4

A stream cipher: the key sets up a permutation of the bytes, which then gives one byte after the
other to combine with the data. Encrypting and decrypting are the same.

## Main definitions

* `Rc4.start` — the generator that a key sets up
* `Rc4.next` — the next byte of a generator
* `Rc4.apply` — encrypts or decrypts data
-/

namespace PdfText

/-- A permutation of the bytes and two places in it. -/
structure Rc4 where
  /-- The permutation. -/
  table : Vector UInt8 256
  /-- The place that goes round. -/
  first : UInt8 := 0
  /-- The place that jumps. -/
  second : UInt8 := 0

namespace Rc4

/-- The entry at a place. -/
def entry (table : Vector UInt8 256) (place : UInt8) : UInt8 :=
  table.get ⟨place.toNat, place.toNat_lt⟩

/-- Exchanges two entries. -/
def exchange (table : Vector UInt8 256) (first second : UInt8) : Vector UInt8 256 :=
  table.swap first.toNat second.toNat first.toNat_lt second.toNat_lt

/-- The permutation that leaves all bytes in place. -/
def identity : Vector UInt8 256 := Vector.ofFn fun place => UInt8.ofNat place

/-- Mixes the byte of the key at each place into the permutation. -/
def mix (rc4 : Rc4) (keyByte : UInt8) : Rc4 :=
  let second := rc4.second + entry rc4.table rc4.first + keyByte
  { table := exchange rc4.table rc4.first second, first := rc4.first + 1, second }

/-- The generator that a key sets up. The key is repeated to 256 bytes. -/
def start (key : Bytes) : Rc4 :=
  let stretched := (List.replicate (256 / key.length + 1) key).flatten.take 256
  { table := (stretched.foldl mix { table := identity }).table }

/-- The next byte of a generator. -/
def next (rc4 : Rc4) : UInt8 × Rc4 :=
  let first := rc4.first + 1
  let second := rc4.second + entry rc4.table first
  let table := exchange rc4.table first second
  (entry table (entry table first + entry table second), { table, first, second })

/-- Combines data with the bytes of a generator, after what is already done, last byte first. -/
def combine (rc4 : Rc4) (done : Bytes) : Bytes → Bytes
  | [] => done.reverse
  | b :: rest =>
    let (mask, rc4) := rc4.next
    combine rc4 ((b ^^^ mask) :: done) rest

/-- Encrypts or decrypts data. -/
def apply (key data : Bytes) : Bytes := (start key).combine [] data

end Rc4

end PdfText

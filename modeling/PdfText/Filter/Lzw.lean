import PdfText.Filter.Restored

/-!
# LZW data

Data as a sequence of codes of 9 to 12 bits, highest bit first. The codes up to 255 are bytes, 256
clears the table and 257 ends the data; every other code stands for a string that the decoder puts
into its table as it goes: the string of the code before and the first byte of the code that
follows. The codes grow by a bit when the table is about to need it, by default one entry early.

Decoding goes on as far as it can. Where the codes run out before the end code, what they have
given stays. A code with no meaning takes with it all that came since the table was last cleared.

## Main definitions

* `Lzw.codeAt?` — the code at a position in bits
* `Lzw.decode` — the bytes behind a sequence of codes
-/

namespace PdfText.Lzw

/-- Clears the table. -/
def clearCode : Nat := 256

/-- Ends the data. -/
def endCode : Nat := 257

/-- The most strings that codes of 12 bits can name. -/
def tableLimit : Nat := 4096

/-- The first bits of bytes as a number, of which `skip` come before a code of `width` bits. -/
def codeAt? (skip width : Nat) (bytes : Bytes) : Option Nat :=
  let window := (skip + width + 7) / 8
  let head := bytes.take window
  if head.length < window then none
  else some (Bytes.bigEndian head / sizeOfBits (8 * window - skip - width) % sizeOfBits width)

/-- How far decoding has come. -/
structure State where
  /-- The strings of the codes from 258 on. -/
  table : Array Bytes := #[]
  /-- The string of the code before, unless the table has just been cleared. -/
  previous : Option Bytes := none
  /-- The bytes written, last first. -/
  output : Bytes := []
  /-- The bytes written before the table was last cleared, last first. -/
  settled : Bytes := []

/-- The number of the next entry of the table. -/
def State.next (state : State) : Nat := 258 + state.table.size

/-- How many bits the next code has. With an early change the width grows one entry sooner. -/
def State.width (early : Bool) (state : State) : Nat :=
  let reached := state.next + early.toNat
  if reached < 512 then 9 else if reached < 1024 then 10 else if reached < 2048 then 11 else 12

/-- The string of a code, which may be the very entry that the code completes. -/
def State.string? (state : State) (code : Nat) : Option Bytes :=
  if code < 256 then some [UInt8.ofNat code]
  else if code < state.next then state.table[code - 258]?
  else
    match state.previous with
    | some (first :: rest) =>
      if code = state.next ∧ state.next < tableLimit then some (first :: rest ++ [first]) else none
    | _ => none

/-- Enters the string that the code before and a first byte make, while there is room. -/
def State.enter (state : State) (first : Bytes) : State :=
  match state.previous with
  | some string =>
    if state.next < tableLimit then { state with table := state.table.push (string ++ first) }
    else state
  | none => state

/-- Writes the string of a code. -/
def State.write (state : State) (string : Bytes) : State :=
  let entered := state.enter (string.take 1)
  { entered with previous := some string, output := string.reverse ++ entered.output }

/-- The state after the code that clears the table. -/
def State.clear (state : State) : State := { output := state.output, settled := state.output }

/-- The bytes behind the codes in `bytes`, whose first `skip` bits have been read; at most `budget`
codes are read. -/
def run (early : Bool) : Nat → Nat → State → Bytes → Restored
  | 0, _, state, _ => ⟨state.output.reverse, false⟩
  | budget + 1, skip, state, bytes =>
    let width := state.width early
    match codeAt? skip width bytes with
    | none => ⟨state.output.reverse, false⟩
    | some code =>
      let after := bytes.drop ((skip + width) / 8)
      let skip := (skip + width) % 8
      if code = clearCode then run early budget skip state.clear after
      else if code = endCode then ⟨state.output.reverse, true⟩
      else
        match state.string? code with
        | none => ⟨state.settled.reverse, false⟩
        | some string => run early budget skip (state.write string) after

/-- The bytes behind a sequence of codes. They are sound if they end with the end code. -/
def decode (early : Bool) (bytes : Bytes) : Restored := run early (8 * bytes.length + 1) 0 {} bytes

end PdfText.Lzw

import PdfText.Bytes

/-!
# Rules

The file format is described by rules. A rule looks at the front of the bytes: either it applies,
and gives a value and the bytes after it, or it does not apply. Rules are put one after the other
with `do`, and tried one after the other with `<|>`. A rule takes the longest run it can and never
gives bytes back, so each text is read in one way only.

Repetition is bounded by a budget. A pass of a repeated rule takes at least one byte, so a budget
of the number of bytes left never runs out before the rule itself stops.

## Main definitions

* `Rule` — a rule for values of a type
* `Rule.run`, `Rule.run1`, `Rule.literal`, `Rule.byte` — the rules for single bytes and for words
* `Rule.many`, `Rule.many1`, `Rule.opt` — repetition and option
-/

namespace PdfText

/-- A rule reads a value off the front of the bytes, or does not apply. -/
abbrev Rule (α : Type) := StateT Bytes Option α

namespace Rule

variable {α β : Type}

/-- The longest run of bytes of a class. It may be empty. -/
def run (accept : UInt8 → Bool) : Rule Bytes := fun bytes => some (bytes.span accept)

/-- The longest run of bytes of a class, at least one of them. -/
def run1 (accept : UInt8 → Bool) : Rule Bytes := fun bytes =>
  match bytes.span accept with
  | ([], _) => none
  | (taken, rest) => some (taken, rest)

/-- One byte of a class. -/
def byte (accept : UInt8 → Bool) : Rule UInt8
  | [] => none
  | b :: rest => if accept b then some (b, rest) else none

/-- One byte that has a value. -/
def byteValue (value? : UInt8 → Option α) : Rule α
  | [] => none
  | b :: rest => (value? b).map (·, rest)

/-- A given word. -/
def literal (word : String) : Rule Unit := fun bytes =>
  ((ascii word).isPrefixOf? bytes).map ((), ·)

/-- A given number of bytes. -/
def take (count : Nat) : Rule Bytes := fun bytes =>
  if count ≤ bytes.length then some (bytes.splitAt count) else none

/-- A rule where it applies, and nothing otherwise. -/
def opt (rule : Rule α) : Rule (Option α) := fun bytes =>
  match rule bytes with
  | none => some (none, bytes)
  | some (value, rest) => some (some value, rest)

/-- A rule as often as it applies, at most `budget` times, after the values already read, which
come last first. -/
def manyAfter (rule : Rule α) : Nat → List α → Rule (List α)
  | 0, values => fun bytes => some (values.reverse, bytes)
  | budget + 1, values => fun bytes =>
    match rule bytes with
    | none => some (values.reverse, bytes)
    | some (value, rest) => manyAfter rule budget (value :: values) rest

/-- A rule as often as it applies, at most `budget` times. -/
def many (rule : Rule α) (budget : Nat) : Rule (List α) := manyAfter rule budget []

/-- A rule as often as it applies, at least once and at most `budget + 1` times. -/
def many1 (rule : Rule α) (budget : Nat) : Rule (List α) := do
  let first ← rule
  manyAfter rule budget [first]

/-- A rule whose value has to satisfy a test, and is replaced by what the test finds. -/
def verify (rule : Rule α) (test : α → Option β) : Rule β := fun bytes =>
  match rule bytes with
  | none => none
  | some (value, rest) => (test value).map (·, rest)

/-- The value of a rule at the front of the bytes, whatever follows it. -/
def value? (rule : Rule α) (bytes : Bytes) : Option α := (rule bytes).map Prod.fst

end Rule

end PdfText

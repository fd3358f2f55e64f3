import PdfText.Grammar.Direct

/-!
# Indirect objects

An object that other objects refer to stands at some offset of the file: its id, the word `obj`,
the object itself, and as a rule the word `endobj`, which nothing depends on.

A stream is such an object only. Its dictionary tells how long its body is, either as a number or
by reference to an object that holds one. Where the length turns out wrong, the dictionary alone
is the object. Where there is no length to go by, the stream is read without a body, and the place
where the body begins is kept, so that it can be filled in once all objects are known.

## Main definitions

* `Indirect` — an indirect object with its id
* `Indirect.read?` — the indirect object at the front of some bytes
* `Indirect.header` — the id and the word `obj`
-/

namespace PdfText

/-- An object as it stands in the file. -/
structure Indirect where
  /-- The id it bears. -/
  id : ObjectId
  /-- The object. -/
  object : Object
  /-- For a stream of unknown length, how many bytes are left from the start of its body on. -/
  pending : Option Nat := none
  deriving Repr

namespace Indirect

/-- An id and the word `obj`, with what may stand around them. -/
def header : Rule ObjectId := do
  Token.blank
  let number ← Token.objectNumber
  Token.blank
  let generation ← Token.generation
  Token.blank
  Rule.literal "obj"
  Token.blank
  return ⟨number, generation⟩

/-- The word `stream` and the rest of its line. -/
def streamKeyword : Rule Unit := do
  Token.blank
  Rule.literal "stream"
  let _ ← Rule.run isInline
  Token.lineEnd

/-- A body of a given length and the word `endstream` after it. -/
def streamBody (length : Nat) : Rule Bytes := do
  let body ← Rule.take length
  let _ ← Rule.opt Token.lineEnd
  Rule.literal "endstream"
  return body

/-- A stream with a body of known length. Its dictionary tells that length from then on. -/
def streamOf (entries : Dict) (body : Bytes) : Object :=
  .stream (entries.set "Length" (.integer body.length)) body

/-- The integer that a length is. A reference is followed by `lengthOf`. -/
def length? (lengthOf : ObjectId → Option Int) (entries : Dict) : Option Int :=
  match entries.get? "Length" with
  | some (.integer length) => some length
  | some (.reference id) => lengthOf id
  | _ => none

/-- The object after an id. A length below zero leaves no object at all. -/
def body? (lengthOf : ObjectId → Option Int) (id : ObjectId) (bytes : Bytes) : Option Indirect :=
  let budget := bytes.length + 1
  match Direct.dictionary budget bytes with
  | none => ((Direct.object budget).value? bytes).map ({ id, object := · })
  | some (entries, afterEntries) =>
    match streamKeyword afterEntries with
    | none => some { id, object := .dictionary entries }
    | some (_, afterKeyword) =>
      match length? lengthOf entries with
      | none => some { id, object := .stream entries [], pending := some afterKeyword.length }
      | some (.ofNat length) =>
        match (streamBody length).value? afterKeyword with
        | some body => some { id, object := streamOf entries body }
        | none => some { id, object := .dictionary entries }
      | some (.negSucc _) => none

/-- The indirect object at the front of some bytes. -/
def read? (lengthOf : ObjectId → Option Int) (bytes : Bytes) : Option Indirect := do
  let (id, afterHeader) ← header bytes
  body? lengthOf id afterHeader

/-- The integer that an indirect object at the front of some bytes is, if it bears the given
id. -/
def integer? (id : ObjectId) (bytes : Bytes) : Option Int := do
  let (found, afterHeader) ← header bytes
  if found = id then Direct.objectAt? afterHeader >>= Object.integer? else none

end Indirect

end PdfText

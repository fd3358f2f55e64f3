import PdfText.Bytes

/-!
# Objects

Everything a PDF says is an object: a number, a name, a string, a list or dictionary of objects,
a dictionary with a body of bytes (a stream), or a reference to a numbered object elsewhere in
the file.

A dictionary is a list of entries with distinct keys in the order of their first mention. The
order matters once: when a document is decrypted, the first entry that cannot be decrypted names
the error.

## Main definitions

* `ObjectId` — the number and generation that a reference names, ordered by number first
* `Dictionary` — values under names, with `Dictionary.get?`, `Dictionary.set`, `Dictionary.erase`
* `Object` — an object, `Dict` — a dictionary of objects
* `Object.Kind` — the kinds of object, which errors name
-/

namespace PdfText

/-- The number and generation by which a reference finds its object. -/
structure ObjectId where
  /-- Which object of the file is meant. -/
  number : Nat
  /-- How often the number has been used before. -/
  generation : Nat
  deriving DecidableEq, Repr, Inhabited

/-- Object ids are ordered by number, and by generation where the numbers agree. -/
instance : Ord ObjectId := ⟨compareLex (compareOn ObjectId.number) (compareOn ObjectId.generation)⟩

instance : Std.TransOrd ObjectId :=
  inferInstanceAs <| Std.TransCmp <|
    compareLex (compareOn ObjectId.number) (compareOn ObjectId.generation)

instance : Std.LawfulEqOrd ObjectId where
  eq_of_compare {a b} same := by
    obtain ⟨number, generation⟩ := Ordering.then_eq_eq.mp same
    obtain ⟨_, _⟩ := a
    obtain ⟨_, _⟩ := b
    exact congr (congrArg ObjectId.mk (Std.LawfulEqOrd.eq_of_compare number))
      (Std.LawfulEqOrd.eq_of_compare generation)

/-- Values under names: distinct keys, in the order of their first mention. -/
structure Dictionary (α : Type) where
  /-- The keys with their values. -/
  entries : List (Bytes × α)
  deriving Repr, Inhabited

namespace Dictionary

variable {α : Type}

/-- The dictionary without entries. -/
def empty : Dictionary α := ⟨[]⟩

/-- The value at a key given in bytes. -/
def find? (dictionary : Dictionary α) (key : Bytes) : Option α := dictionary.entries.lookup key

/-- The value at a key. -/
def get? (dictionary : Dictionary α) (key : String) : Option α := dictionary.find? (ascii key)

/-- Entries with a value put at a key. A key that is there already keeps its place. -/
def putEntry (key : Bytes) (value : α) : List (Bytes × α) → List (Bytes × α)
  | [] => [(key, value)]
  | (held, old) :: rest =>
    if held == key then (held, value) :: rest else (held, old) :: putEntry key value rest

/-- Puts a value at a key given in bytes. -/
def put (dictionary : Dictionary α) (key : Bytes) (value : α) : Dictionary α :=
  ⟨putEntry key value dictionary.entries⟩

/-- Puts a value at a key. -/
def set (dictionary : Dictionary α) (key : String) (value : α) : Dictionary α :=
  dictionary.put (ascii key) value

/-- Leaves out a key. -/
def erase (dictionary : Dictionary α) (key : String) : Dictionary α :=
  ⟨dictionary.entries.filter fun entry => entry.1 != ascii key⟩

/-- A dictionary from entries as they were written: a repeated key keeps its last value. -/
def ofEntries (entries : List (Bytes × α)) : Dictionary α :=
  entries.foldl (fun dictionary entry => dictionary.put entry.1 entry.2) empty

end Dictionary

/-- An object of a PDF. -/
inductive Object where
  /-- No value. -/
  | null
  /-- A truth value. -/
  | boolean (value : Bool)
  /-- A whole number of 64 bits. -/
  | integer (value : Int)
  /-- A number with a decimal point, kept as written: nothing computes with it. -/
  | real (spelling : Bytes)
  /-- A name, without its slash and with its escapes resolved. -/
  | name (letters : Bytes)
  /-- A string of bytes. -/
  | string (bytes : Bytes)
  /-- A list of objects. -/
  | array (items : List Object)
  /-- Objects under names. -/
  | dictionary (entries : Dictionary Object)
  /-- A dictionary that describes the bytes after it. -/
  | stream (entries : Dictionary Object) (body : Bytes)
  /-- The object that stands elsewhere under an id. -/
  | reference (target : ObjectId)
  deriving Repr, Inhabited

/-- A dictionary of objects. -/
abbrev Dict := Dictionary Object

namespace Object

/-- The kinds of object. -/
inductive Kind where
  | null | boolean | integer | real | name | string | array | dictionary | stream | reference
  deriving DecidableEq, Repr

/-- The word that error messages use for a kind of object. -/
def Kind.label : Kind → String
  | null => "Null"
  | boolean => "Boolean"
  | integer => "Integer"
  | real => "Real"
  | name => "Name"
  | string => "String"
  | array => "Array"
  | dictionary => "Dictionary"
  | stream => "Stream"
  | reference => "Reference"

/-- The kind of an object. -/
def kind : Object → Kind
  | null => .null
  | boolean _ => .boolean
  | integer _ => .integer
  | real _ => .real
  | name _ => .name
  | string _ => .string
  | array _ => .array
  | dictionary _ => .dictionary
  | stream .. => .stream
  | reference _ => .reference

/-- The truth value that an object is. -/
def boolean? : Object → Option Bool
  | boolean value => some value
  | _ => none

/-- The whole number that an object is. -/
def integer? : Object → Option Int
  | integer value => some value
  | _ => none

/-- The name that an object is. -/
def name? : Object → Option Bytes
  | name letters => some letters
  | _ => none

/-- The string that an object is. -/
def string? : Object → Option Bytes
  | string bytes => some bytes
  | _ => none

/-- The list that an object is. -/
def array? : Object → Option (List Object)
  | array items => some items
  | _ => none

/-- The dictionary that an object is. The dictionary of a stream does not count. -/
def dictionary? : Object → Option Dict
  | dictionary entries => some entries
  | _ => none

/-- The dictionary and the body of the stream that an object is. -/
def stream? : Object → Option (Dict × Bytes)
  | stream entries body => some (entries, body)
  | _ => none

/-- The id that an object refers to. -/
def reference? : Object → Option ObjectId
  | reference target => some target
  | _ => none

end Object

namespace Dictionary

/-- What a dictionary says it describes: its `Type`, or `Linearized` for a dictionary that only
has an entry of that name. -/
def type? (dictionary : Dict) : Option Bytes :=
  ((dictionary.get? "Type").bind Object.name?).or <|
    (dictionary.get? "Linearized").map fun _ => ascii "Linearized"

/-- Whether a dictionary says it describes the given thing. -/
def hasType (dictionary : Dict) (word : String) : Bool := dictionary.type? == some (ascii word)

end Dictionary

end PdfText

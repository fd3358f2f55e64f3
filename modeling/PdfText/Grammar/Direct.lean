import PdfText.Grammar.Token

/-!
# Direct objects

The rule for an object that is written out where it stands. Arrays and dictionaries hold objects
themselves, so the rule is given with a budget that bounds both how deep they nest and how many
objects one of them holds. Every level and every object takes a byte of its own, so a budget of
the number of bytes at hand excludes nothing.

## Main definitions

* `Direct.object` — a direct object, or a reference
* `Direct.dictionary`, `Direct.entries` — a dictionary, and its entries without the brackets
* `Direct.objectAt?` — the object at the front of some bytes
-/

namespace PdfText.Direct

/-- Objects in square brackets, of which the given rule reads one. -/
def arrayOf (element : Rule Object) (budget : Nat) : Rule (List Object) := do
  Rule.literal "["
  Token.blank
  let items ← Rule.many (element <* Token.blank) budget
  Rule.literal "]"
  return items

/-- Pairs of a name and an object, each followed by any amount of white space. -/
def entriesOf (element : Rule Object) (budget : Nat) : Rule Dict := do
  let pairs ← Rule.many (do
    let key ← Token.name
    Token.blank
    let value ← element
    Token.blank
    return (key, value)) budget
  return Dictionary.ofEntries pairs

/-- Entries in double angle brackets. -/
def dictionaryOf (element : Rule Object) (budget : Nat) : Rule Dict := do
  Rule.literal "<<"
  Token.blank
  let entries ← entriesOf element budget
  Rule.literal ">>"
  return entries

/-- An array or a dictionary, of whose objects the given rule reads one. -/
def compoundOf (element : Rule Object) (budget : Nat) : Rule Object :=
  (Object.array <$> arrayOf element budget) <|>
  (Object.dictionary <$> dictionaryOf element budget)

/-- A direct object, or a reference. A reference is tried before a number, since it begins with
one. -/
def object : Nat → Rule Object
  | 0 => failure
  | budget + 1 =>
    Token.keyword <|> Token.reference <|> Token.scalar <|> compoundOf (object budget) budget

/-- A dictionary. -/
def dictionary (budget : Nat) : Rule Dict := dictionaryOf (object budget) budget

/-- The entries of a dictionary that is written without brackets. -/
def entries (budget : Nat) : Rule Dict := entriesOf (object budget) budget

/-- The object at the front of some bytes, whatever follows it. -/
def objectAt? (bytes : Bytes) : Option Object := (object (bytes.length + 1)).value? bytes

end PdfText.Direct

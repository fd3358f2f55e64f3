import PdfText.Unicode.Normalization
import PdfText.Unicode.Prohibited

/-!
# Preparation of strings

Two people who type the same password should have typed the same characters. Preparation makes
them the same: uncommon spaces become spaces, what cannot be seen vanishes, and the text is
normalized. A text that then has a character it must not have, that mixes directions, or that has
a code point without a character in Unicode 3.2, cannot be a password.

## Main definitions

* `PreparationError` — why a text cannot be prepared
* `prepare` — the prepared text
-/

namespace PdfText

/-- Why a text cannot be prepared. -/
inductive PreparationError where
  /-- This character, the first of its kind, must not be in the text. -/
  | prohibited (character : Char)
  /-- The text mixes directions. -/
  | bidirectional
  deriving DecidableEq, Repr

namespace Preparation

/-- Whether a character is a control character of ASCII. -/
def isControl (c : Char) : Bool := c.toNat < 0x20 || c.toNat == 0x7F

/-- Whether a text needs no preparation. -/
def isPlain (text : List Char) : Bool := text.all fun c => c.toNat < 0x80 && !isControl c

/-- Replaces spaces, and leaves out what vanishes. -/
def replace (text : List Char) : List Char :=
  (text.map fun c => if Prohibited.spaces.has c then ' ' else c).filter
    fun c => !Prohibited.vanishing.has c

/-- Whether a text mixes directions: one with a character written from right to left has to begin
and end with such a character and have none of the other direction. -/
def mixesDirections (text : List Char) : Bool :=
  let isRight := Prohibited.rightToLeft.has
  text.any isRight &&
    (text.any (!Prohibited.notLeftToRight.has ·) ||
      !(text.head?.any isRight && text.getLast?.any isRight))

/-- Whether a prepared text must not have a character. -/
def isForbidden (c : Char) : Bool := Prohibited.spaces.has c || Prohibited.forbidden.has c

end Preparation

/-- The prepared text. -/
def prepare (text : List Char) : Except PreparationError (List Char) :=
  if Preparation.isPlain text then .ok text
  else
    let normal := Normalization.normalize (Preparation.replace text)
    match normal.find? Preparation.isForbidden with
    | some c => .error (.prohibited c)
    | none =>
      if Preparation.mixesDirections normal then .error .bidirectional
      else
        match normal.find? Prohibited.unassigned.has with
        | some c => .error (.prohibited c)
        | none => .ok normal

end PdfText

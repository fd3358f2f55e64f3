import PdfText.Content
import PdfText.Page

/-!
# The text of a page

The operations of a page are run one after the other. An operation `Tf` puts a font in force, `Tj`
and `TJ` show strings in it, `ET` ends a block and with it the line. All else shows no text.

What is wrong with a font or with a string does not stop the run, but the first such error is the
result in the end. Only an operation `Tf` without operands, and content that cannot be read, are
the result at once.

## Main definitions

* `PageText.State` — the text shown so far and the encoding in force
* `PageText.run` — one operation
* `PageText.ofPage` — the text of a page
-/

namespace PdfText.PageText

/-- Encodings of fonts by the names of the fonts. -/
abbrev Encodings := Std.TreeMap Bytes Encoding

/-- How far a page has been shown. -/
structure State where
  /-- The encoding in force. -/
  encoding : Option Encoding := none
  /-- The text shown before the last change of font, last character first. -/
  shown : List Char := []
  /-- The text shown since, last character first. -/
  line : List Char := []
  /-- The first error, if there was one. -/
  failure : Option PdfError := none

/-- Shows some text. -/
def State.show (state : State) (text : List Char) : State :=
  { state with line := text.reverse ++ state.line }

/-- Keeps an error, unless there was one before. -/
def State.fail (state : State) (error : PdfError) : State :=
  { state with failure := state.failure.or (some error) }

/-- A shift in a list of strings that leaves a gap between words. -/
def isWordGap (shift : Int) : Bool := shift < -100

mutual

/-- The text that an object shows, or what it shows up to the first string that cannot be decoded,
together with the error about it. A list is shown like its objects, with a space after it. -/
def textOf (encoding : Encoding) : Object → Except Defect (List Char × Option PdfError)
  | .string bytes =>
    match encoding.decode bytes with
    | .ok text => .ok (text, none)
    | .error (.cause error) => .ok ([], some error)
    | .error (.defect reason) => .error reason
  | .array items =>
    match textOfAll encoding items with
    | .ok (text, none) => .ok (text ++ [' '], none)
    | other => other
  | .integer shift => .ok (if isWordGap shift then [' '] else [], none)
  | _ => .ok ([], none)

/-- The text that objects show one after the other, up to the first error. -/
def textOfAll (encoding : Encoding) :
    List Object → Except Defect (List Char × Option PdfError)
  | [] => .ok ([], none)
  | object :: rest => do
    match ← textOf encoding object with
    | (text, some error) => return (text, some error)
    | (text, none) =>
      let (others, error) ← textOfAll encoding rest
      return (text ++ others, error)

end

/-- Puts a font in force. The text so far is thereby complete. -/
def setFont (encodings : Encodings) (state : State) (font : Object) : State :=
  let state := match font with
    | .name name => { state with encoding := encodings[name]? }
    | other => { state.fail (.objectType [.name] other.kind) with encoding := none }
  { state with shown := state.line ++ state.shown, line := [] }

/-- Ends a block, and the line with it. -/
def endLine (state : State) : State :=
  if state.line.head? == some '\n' then state else state.show ['\n']

/-- Whether an operation shows strings. -/
def showsStrings (operation : Operation) : Bool :=
  operation.operator == ascii "Tj" || operation.operator == ascii "TJ"

/-- Runs one operation. -/
def run (encodings : Encodings) (state : State) (operation : Operation) :
    Except (Halt PdfError) State :=
  if operation.operator == ascii "Tf" then
    match operation.operands with
    | [] => .error (.cause (.contentSyntax "missing font operand"))
    | font :: _ => .ok (setFont encodings state font)
  else if showsStrings operation then
    match state.encoding with
    | none => .ok state
    | some encoding =>
      match textOfAll encoding operation.operands with
      | .error defect => .error (.defect defect)
      | .ok (text, none) => .ok (state.show text)
      | .ok (text, some error) => .ok ((state.show text).fail error)
  else if operation.operator == ascii "ET" then .ok (endLine state)
  else .ok state

/-- Adds the encoding of a font, or the error about it. -/
def addEncoding (document : Document) (found : Encodings × State) (name : Bytes) (font : Dict) :
    Encodings × State :=
  match Encoding.ofFont document font with
  | .ok encoding => (found.1.insert name encoding, found.2)
  | .error error => (found.1, found.2.fail error)

/-- The encodings of fonts, and the state before the first operation. -/
def start (document : Document) (fonts : Page.Fonts) : Encodings × State :=
  fonts.foldl (addEncoding document) (∅, {})

/-- The text of a page. -/
def ofPage (document : Document) (page : ObjectId) : Except (Halt PdfError) String := do
  let fonts ← (Page.fonts document page).mapError .cause
  let (encodings, start) := start document fonts
  let operations ← (Operation.readAll (Page.content document page)).mapError InlineImage.Fault.halt
  let state ← operations.foldlM (run encodings) start
  match state.failure with
  | some error => throw (.cause error)
  | none => return String.ofList (state.line ++ state.shown).reverse

/-- The text of the page with a number. -/
def ofNumber (document : Document) (number : Nat) : Except (Halt PdfError) String :=
  match document.page? number with
  | none => .error (.cause .pageNumberNotFound)
  | some page => ofPage document page

end PdfText.PageText

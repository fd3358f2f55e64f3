/-!
# Arguments of the command line

The words after the command name two paths, and options may stand anywhere among them. The word
`--` ends the options. An option of one letter is written with one hyphen, and several of them may
share it; a value may follow its option in the same word or in the next one.

A value is checked when the next option or path is taken up. So a word that means nothing is
reported before a value that is missing in front of it, and help is given only if nothing is wrong
before it.

Words are Unicode text here, and so are the paths and the password that they give. A system may hand
over words that are not UTF-8; these are not described.

## Main definitions

* `Arguments` — what the words say
* `Rejection` — what can be wrong with them
* `Invocation` — what the words ask for, `Invocation.ofWords` — reads them
-/

namespace PdfText

/-- What the words of the command line say. -/
structure Arguments where
  /-- The path of the PDF. -/
  input : String
  /-- The path of the text. -/
  output : String
  /-- The password, if one is given. -/
  password : Option String
  /-- How often more detail is asked for, up to 255. -/
  verbosity : Nat
  deriving DecidableEq, Repr

/-- What can be wrong with the words of the command line. -/
inductive Rejection where
  /-- No option is spelt so. -/
  | unknownOption (spelling : String)
  /-- An option that takes no value has one. -/
  | unneededValue (option : String)
  /-- There is a password already. -/
  | repeatedPassword
  /-- There are two paths already. -/
  | surplusPath (path : String)
  /-- There are less than two paths. -/
  | missingPaths
  /-- An option for a password has none. -/
  | missingPassword
  /-- A path without letters. -/
  | emptyPath
  deriving DecidableEq, Repr

/-- What the words of the command line ask for. -/
inductive Invocation where
  /-- An extraction. -/
  | extraction (arguments : Arguments)
  /-- An explanation of the words. -/
  | help
  /-- The version of the program. -/
  | version
  /-- Nothing, as something is wrong with them. -/
  | rejected (reason : Rejection)
  deriving DecidableEq, Repr

namespace Arguments

/-! ## Words -/

/-- The kinds of words. -/
inductive Word where
  /-- Two hyphens alone. -/
  | endOfOptions
  /-- Two hyphens and a name, perhaps with an equals sign and a value. -/
  | long (name : List Char) (value : Option (List Char))
  /-- One hyphen and letters. -/
  | short (letters : List Char)
  /-- Anything else. A hyphen alone is such a word. -/
  | plain

/-- The name and the value in an option. -/
def splitValue (letters : List Char) : List Char × Option (List Char) :=
  match letters.span (· ≠ '=') with
  | (name, []) => (name, none)
  | (name, _ :: value) => (name, some value)

/-- The kind of a word. -/
def Word.ofLetters : List Char → Word
  | ['-', '-'] => .endOfOptions
  | '-' :: '-' :: letters =>
    let (name, value) := splitValue letters
    .long name value
  | ['-'] => .plain
  | '-' :: letters => .short letters
  | _ => .plain

/-! ## Values -/

/-- A value that is not checked yet. -/
inductive Pending where
  /-- A path. -/
  | path (path : String)
  /-- A password, which may still be to come. -/
  | password (value : Option String)
  deriving DecidableEq, Repr

/-- What the words up to some place say. -/
structure Draft where
  /-- The paths, in order. -/
  paths : List String := []
  /-- The password. -/
  password : Option String := none
  /-- How often more detail is asked for. -/
  verbosity : Nat := 0
  /-- The value that is not checked yet. -/
  pending : Option Pending := none
  deriving DecidableEq, Repr

/-- Why reading ends before the words do. -/
inductive Stop where
  | help
  | version
  | rejected (reason : Rejection)
  deriving DecidableEq, Repr

namespace Draft

/-- Checks the value that is not checked yet. -/
def settle (draft : Draft) : Except Stop Draft :=
  match draft.pending with
  | none => .ok draft
  | some (.path path) =>
    if path = "" then .error (.rejected .emptyPath)
    else .ok { draft with paths := draft.paths ++ [path], pending := none }
  | some (.password none) => .error (.rejected .missingPassword)
  | some (.password (some value)) =>
    if draft.password.isSome then .error (.rejected .repeatedPassword)
    else .ok { draft with password := some value, pending := none }

/-- How many paths there are, with the one that is not checked yet. -/
def pathCount (draft : Draft) : Nat :=
  match draft.pending with
  | some (.path _) => draft.paths.length + 1
  | _ => draft.paths.length

/-- Takes up a path. -/
def addPath (draft : Draft) (path : String) : Except Stop Draft := do
  if 2 ≤ draft.pathCount then throw (.rejected (.surplusPath path))
  return { ← draft.settle with pending := some (.path path) }

/-- How often more detail can be asked for. -/
def maxVerbosity : Nat := 255

/-- Takes up the option for more detail. -/
def raiseVerbosity (draft : Draft) : Except Stop Draft := do
  let draft ← draft.settle
  return { draft with verbosity := min (draft.verbosity + 1) maxVerbosity }

/-- Takes up the option for a password, with a value in the same word or without one. -/
def addPassword (draft : Draft) (value : Option (List Char)) : Except Stop Draft := do
  let draft := { ← draft.settle with pending := some (.password (value.map String.ofList)) }
  if value.isSome then draft.settle else return draft

/-- Ends reading, if nothing is wrong so far. -/
def stopWith (draft : Draft) (stop : Stop) : Except Stop Draft := do
  let _ ← draft.settle
  throw stop

/-! ## Options -/

/-- Takes up options of one letter. The letters after a password option are its value. -/
def addLetters (draft : Draft) : List Char → Except Stop Draft
  | [] => .ok draft
  | letter :: rest =>
    if letter = 'v' then do addLetters (← draft.raiseVerbosity) rest
    else if letter = 'p' then
      match rest with
      | [] => draft.addPassword none
      | '=' :: value => draft.addPassword (some value)
      | value => draft.addPassword (some value)
    else if letter = 'h' then draft.stopWith .help
    else if letter = 'V' then draft.stopWith .version
    else .error (.rejected (.unknownOption (String.ofList ['-', letter])))

/-- Takes up an option that takes no value. -/
def addFlag (name : List Char) (value : Option (List Char)) (take : Except Stop Draft) :
    Except Stop Draft :=
  if value.isSome then .error (.rejected (.unneededValue (String.ofList name))) else take

/-- Takes up an option that has a name. -/
def addNamed (draft : Draft) (name : List Char) (value : Option (List Char)) :
    Except Stop Draft :=
  if name = "password".toList then draft.addPassword value
  else if name = "verbose".toList then addFlag name value draft.raiseVerbosity
  else if name = "help".toList then addFlag name value (draft.stopWith .help)
  else if name = "version".toList then addFlag name value (draft.stopWith .version)
  else .error (.rejected (.unknownOption (String.ofList ('-' :: '-' :: name))))

/-- Takes up a word that is no option: the value of a password option before it, or a path. -/
def addPlain (draft : Draft) (word : String) : Except Stop Draft :=
  match draft.pending with
  | some (.password none) => .ok { draft with pending := some (.password (some word)) }
  | _ => draft.addPath word

/-- Takes up all words. -/
def addWords (draft : Draft) : List String → Except Stop Draft
  | [] => .ok draft
  | word :: rest =>
    match Word.ofLetters word.toList with
    | .endOfOptions => rest.foldlM addPath draft
    | .long name value => do addWords (← draft.addNamed name value) rest
    | .short letters => do addWords (← draft.addLetters letters) rest
    | .plain => do addWords (← draft.addPlain word) rest

/-- What all words say. There have to be two paths. -/
def finish (draft : Draft) : Except Stop Arguments := do
  let draft ← draft.settle
  match draft.paths with
  | [input, output] =>
    return { input, output, password := draft.password, verbosity := draft.verbosity }
  | _ => throw (.rejected .missingPaths)

end Draft

end Arguments

/-- What the words of the command line ask for. -/
def Invocation.ofWords (words : List String) : Invocation :=
  match ({} : Arguments.Draft).addWords words >>= Arguments.Draft.finish with
  | .ok arguments => .extraction arguments
  | .error .help => .help
  | .error .version => .version
  | .error (.rejected reason) => .rejected reason

/-- Whether a reminder of the words that are expected goes with a rejection. It does not where a
value is missing. -/
def Rejection.showsUsage : Rejection → Bool
  | missingPassword => false
  | emptyPath => false
  | _ => true

/-- A rejection in words. -/
def Rejection.message : Rejection → String
  | unknownOption spelling => "unexpected argument '" ++ spelling ++ "' found"
  | unneededValue option => "unexpected value for '--" ++ option ++ "' found; no more were expected"
  | repeatedPassword =>
    "the argument '--password <PASSWORD>' cannot be used multiple times"
  | surplusPath path => "unexpected argument '" ++ path ++ "' found"
  | missingPaths => "two arguments are required: <INPUT_PDF> and <OUTPUT_TXT>"
  | missingPassword => "a value is required for '--password <PASSWORD>' but none was supplied"
  | emptyPath => "a value is required for a path but none was supplied"

end PdfText

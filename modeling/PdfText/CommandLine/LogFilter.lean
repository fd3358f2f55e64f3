import PdfText.CommandLine.Log
import PdfText.Unicode.Alphanumeric

/-!
# What is logged

Rules say which events are written down. A rule speaks of the events that come from parts of the
program whose names begin in some way and that carry some field, or of all events, and it has a
threshold: the most detailed level that is written down. Of the rules that speak of an event, the
one that asks for most counts.

Rules are spelled in a setting, with commas between them. A rule is a threshold, or a name with a
threshold after an equals sign, and in brackets after the name it may ask for a field. Brackets may
also name a stretch of work, or a value for the field; such a rule speaks of nothing here, as no
stretches of work are marked. A setting with a rule that cannot be understood is passed over.

## Main definitions

* `LogThreshold` — a level or none, `LogRule` — which events a rule speaks of, with a threshold
* `LogRule.ofPiece?` — the rule that a piece of a setting spells
* `LogFilter.admits` — whether an event is written down
* `LogFilter.choose` — the rules of a run
-/

namespace PdfText

/-! ## Thresholds -/

/-- The most detailed level that is written down, if any level is. -/
abbrev LogThreshold := Option LogLevel

namespace LogThreshold

/-- Whether events of a level are written down. -/
def admits (threshold : LogThreshold) (level : LogLevel) : Bool :=
  threshold.any fun most => level.detail ≤ most.detail

/-- The threshold when more detail is asked for a number of times. -/
def ofVerbosity : Nat → LogThreshold
  | 0 => some .warn
  | 1 => some .info
  | 2 => some .debug
  | _ => some .trace

/-- The threshold that a word spells: the name of a level in small or capital letters, or its
number. Zero and `off` stand for none. -/
def ofWord? (word : List Char) : Option LogThreshold :=
  match Words.decimal? word with
  | some 0 => some none
  | some number => (LogLevel.all.find? (·.detail == number)).map some
  | none =>
    let letters := word.map Char.toUpper
    if letters == "OFF".toList then some none
    else (LogLevel.all.find? (·.label.toList == letters)).map some

end LogThreshold

/-! ## Rules -/

/-- Which events a rule speaks of, and its threshold. -/
structure LogRule where
  /-- How the name of the part begins that an event comes from. -/
  origin : Option String := none
  /-- The field that an event carries. -/
  field : Option String := none
  /-- Whether the rule holds within stretches of work only. -/
  isBound : Bool := false
  /-- The most detailed level that is written down. -/
  threshold : LogThreshold := some .trace
  deriving DecidableEq, Repr

namespace LogRule

/-- A piece of a setting. Blanks around it do not count when its parts are told apart, but they do
when the parts are cut out: places are counted in the text without them, and the text is cut with
them. -/
structure Piece where
  /-- The text in which parts are told apart. -/
  told : List Char
  /-- The text out of which parts are cut. -/
  cut : List Char

namespace Piece

/-- A piece as it is written. -/
def ofText (text : List Char) : Piece :=
  { told := ((text.dropWhile Words.isSpace).reverse.dropWhile Words.isSpace).reverse
    cut := text }

/-- The place of the first character of a class from a place on, and that character. -/
def find? (piece : Piece) (start : Nat) (isMark : Char → Bool) : Option (Nat × Char) := do
  let offset ← (piece.told.drop start).findIdx? isMark
  return (start + offset, ← piece.told[start + offset]?)

/-- What stands between two places. -/
def between (piece : Piece) (start stop : Nat) : List Char :=
  (piece.cut.drop start).take (stop - start)

end Piece

/-- Ends a rule with the threshold that stands from a place on. Nothing there sets no bounds. -/
def endAt (rule : LogRule) (piece : Piece) (start : Nat) : Option LogRule :=
  let word := piece.cut.drop start
  if word.isEmpty then some rule
  else (LogThreshold.ofWord? word).map fun threshold => { rule with threshold }

/-- Ends a rule after its brackets. -/
def afterBrackets (rule : LogRule) (piece : Piece) (place : Nat) : Option LogRule :=
  match piece.told[place]? with
  | none => some rule
  | some '=' => rule.endAt piece (place + 1)
  | some _ => none

/-- Goes on with a rule at the field in its brackets. -/
def fieldAt (rule : LogRule) (piece : Piece) (start : Nat) : Option LogRule := do
  let (stop, _) ← piece.find? start (· == '\x7d')
  let text := piece.between start stop
  if text.isEmpty || piece.told[stop + 1]? != some ']' then none
  let rule :=
    { rule with
      field := some (String.ofList (text.takeWhile (· != '=')))
      isBound := rule.isBound || text.contains '=' }
  rule.afterBrackets piece (stop + 2)

/-- Goes on with a rule inside its brackets. -/
def bracketsAt (rule : LogRule) (piece : Piece) (start : Nat) : Option LogRule := do
  let (stop, mark) ← piece.find? start fun c => c == ']' || c == '\x7b'
  let isBound := mark == ']' || !(piece.between start stop).isEmpty
  let rule := { rule with isBound }
  if mark == ']' then rule.afterBrackets piece (stop + 1) else rule.fieldAt piece (stop + 1)

/-- Whether a rule can begin with a character, unless it begins with a bracket. -/
def canBegin (c : Char) : Bool := c == '-' || c == ':' || c == '_' || Alphanumeric.has c

/-- The rule that a piece of a setting spells. A name without a threshold sets no bounds. -/
def ofPiece? (text : List Char) : Option LogRule := do
  let piece := Piece.ofText text
  let first ← piece.told.head?
  if first == '[' then bracketsAt {} piece 1
  else if !canBegin first then none
  else
    match piece.find? 0 fun c => c == '=' || c == '[' with
    | none =>
      match LogThreshold.ofWord? piece.cut with
      | some threshold => return { threshold }
      | none => return { origin := some (String.ofList piece.cut) }
    | some (stop, mark) =>
      let rule : LogRule := { origin := some (String.ofList (piece.between 0 stop)) }
      if mark == '=' then rule.endAt piece (stop + 1) else rule.bracketsAt piece (stop + 1)

/-- Whether a rule speaks of an event. -/
def speaksOf (rule : LogRule) (event : Event) : Bool :=
  !rule.isBound && rule.origin.all (fun start => start.toList.isPrefixOf event.origin.toList) &&
    rule.field.all event.fields.contains

/-- How much of a name a rule asks for. -/
def nameLength (rule : LogRule) : Nat := rule.origin.elim 0 fun start => start.length + 1

/-- Whether a field comes no later than another. To ask for none comes first, and then the names of
fields go in the order of dictionaries. -/
def isNoLater : Option String → Option String → Bool
  | none, _ => true
  | some _, none => false
  | some name, some other => name ≤ other

/-- Whether a rule asks for no more than another. The length of a name goes before a field. -/
def asksNoMore (first second : LogRule) : Bool :=
  first.nameLength < second.nameLength ||
    (first.nameLength == second.nameLength && isNoLater first.field second.field)

end LogRule

/-! ## Rules together -/

/-- The rules by which events are written down, in the order in which they are given. -/
abbrev LogFilter := List LogRule

namespace LogFilter

/-- The rule for an event. Of rules that ask for the same, the last one counts. -/
def ruleFor? (filter : LogFilter) (event : Event) : Option LogRule :=
  (filter.filter (·.speaksOf event)).foldl (fun best rule =>
    match best with
    | none => some rule
    | some held => if held.asksNoMore rule then some rule else best) none

/-- Whether an event is written down. -/
def admits (filter : LogFilter) (event : Event) : Bool :=
  (filter.ruleFor? event).any fun rule => rule.threshold.admits event.level

/-- The rules that a setting spells. A setting without any leaves errors. -/
def ofSetting? (setting : String) : Option LogFilter :=
  let pieces := (Words.pieces (· == ',') setting.toList).filter (!·.isEmpty)
  if pieces.isEmpty then some [{ threshold := some .error }] else pieces.mapM LogRule.ofPiece?

/-- The rules of a run: those of the setting, or else one that goes by how much detail is asked
for. -/
def choose (setting : Option String) (verbosity : Nat) : LogFilter :=
  (setting.bind ofSetting?).getD [{ threshold := .ofVerbosity verbosity }]

end LogFilter

/-- Surroundings that pass on only the reports that rules admit. -/
def Surroundings.logging {m : Type → Type} [Monad m] (around : Surroundings m)
    (filter : LogFilter) : Surroundings m :=
  { around with
    report := fun event => if filter.admits event then around.report event else pure () }

end PdfText

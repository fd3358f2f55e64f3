import PdfText.Proofs.Extraction

/-!
# All ways in

Bytes may be given at hand, by a delivery or in a file, the document may be loaded first and asked
for its text later, and the text may be returned or written to a file. All of this comes to the text
of the bytes, or to the same failure.

An extractor is its password. The last password set on a builder is the one of the extractor that
is built, and copies of an extractor act as it does, whatever has been asked before.

## Main definitions

* `Extractor.GivesAlways` — all ways in lead from some bytes to some outcome
* `Extractor.exchanges` — what comes of requests to one extractor, in order
* `Session` — an extractor with its copies, working on a file system, `Session.run` — what comes of
  requests to them

## Main results

* `Extractor.givesAlways` — all ways in lead to the same outcome
* `Session.run_ofCopies` — copies act as one extractor that is given all of their requests
* `Extractor.all_ways_in_agree` — both together, for all passwords set on a builder
-/

namespace PdfText

namespace Extractor

variable (extractor : Extractor) (file : Bytes)

/-! ## Ways in -/

/-- The document that is loaded from bytes gives their text. -/
theorem extract_load :
    ((Document.load file extractor.password).mapError .cause >>= Document.extract) =
      extractor.fromBytes file := rfl

theorem extract_ofDelivery (delivery : Delivery) :
    ((Document.ofDelivery delivery extractor.password).mapError .cause >>= Document.extract) =
      extractor.fromDelivery delivery := rfl

/-- The text of a delivery is that of its contents. -/
theorem fromDelivery_eq (delivery : Delivery) :
    extractor.fromDelivery delivery =
      delivery.contents.mapError (fun error => .cause (.io error)) >>= extractor.fromBytes := by
  rw [fromDelivery, Document.ofDelivery]
  cases delivery.contents with
  | error error => rfl
  | ok file =>
    simp only [Except.mapError_ok, Except.ok_bind]
    rfl

variable (files : FileSystem) (path : String)

/-- A document is loaded from a file by its content. -/
theorem run_load :
    (extractor.load FileSystem.surroundings path).run.run files =
      ((files.read path).mapError (fun error => .cause (.io error)) >>= fun file =>
        (Document.load file extractor.password).mapError .cause, files) := by
  cases found : files.read path <;>
    simp [load, ExceptT.run_bind, run_ofIo_read, found, ExceptT.liftM_eq_mk] <;> rfl

/-- The text of a file is that of its content. -/
theorem run_fromPath :
    (extractor.fromPath FileSystem.surroundings path).run.run files =
      ((files.read path).mapError (fun error => .cause (.io error)) >>= extractor.fromBytes,
        files) := by
  rw [fromPath, ExceptT.run_bind, StateT.run_bind, run_load]
  cases found : files.read path with
  | error error => rfl
  | ok file =>
    cases opened : Document.load file extractor.password <;>
      simp [fromBytes, opened, ExceptT.liftM_eq_mk] <;> rfl

/-- The text of some bytes is that of the pages of the document in them. -/
theorem fromBytes_eq :
    extractor.fromBytes file = (extractor.textsOf file).map fun result => joinPages result.2 := by
  rw [fromBytes, textsOf]
  cases Document.load file extractor.password with
  | error error => rfl
  | ok document =>
    simp only [Except.mapError_ok, Except.ok_bind, Document.extract_eq]
    cases document.pageTexts <;> rfl

/-- All ways in lead from some bytes to some outcome: the bytes at hand, a delivery, a file, a
document that is loaded by any of these and asked for its text later, and the text in the file that
is written. -/
structure GivesAlways (outcome : Except (Halt ExtractError) String) : Prop where
  fromBytes : extractor.fromBytes file = outcome
  load : ((Document.load file extractor.password).mapError .cause >>= Document.extract) = outcome
  fromDelivery : ∀ delivery : Delivery, delivery.contents = .ok file →
    extractor.fromDelivery delivery = outcome
  ofDelivery : ∀ delivery : Delivery, delivery.contents = .ok file →
    ((Document.ofDelivery delivery extractor.password).mapError .cause >>= Document.extract) = outcome
  fromPath : ∀ (files : FileSystem) (path : String), files.read path = .ok file →
    (extractor.fromPath FileSystem.surroundings path).run.run files = (outcome, files)
  loadPath : ∀ (files : FileSystem) (path : String), files.read path = .ok file →
    ∃ loaded, (extractor.load FileSystem.surroundings path).run.run files = (loaded, files) ∧
      (loaded >>= Document.extract) = outcome
  writes : ∀ (files written : FileSystem) (source destination text : String),
    files.read source = .ok file → outcome = .ok text →
    files.write destination (Utf8.encode text) = .ok written →
    written.read destination = .ok (Utf8.encode text) ∧
      ∃ summary, (extractor.extractToFile FileSystem.surroundings source destination).run.run files =
        (.ok summary, written)
  fails : ∀ (files : FileSystem) (source destination : String) (reason : Halt ExtractError),
    files.read source = .ok file → outcome = .error reason →
    (extractor.extractToFile FileSystem.surroundings source destination).run.run files =
      (.error reason, files)

/-- All ways in lead to the same outcome. -/
theorem givesAlways : extractor.GivesAlways file (extractor.fromBytes file) where
  fromBytes := rfl
  load := rfl
  fromDelivery delivery delivered := by
    rw [fromDelivery_eq, delivered, Except.mapError_ok, Except.ok_bind]
  ofDelivery delivery delivered := by
    rw [extract_ofDelivery, fromDelivery_eq, delivered, Except.mapError_ok, Except.ok_bind]
  fromPath files path found := by
    rw [run_fromPath, found, Except.mapError_ok, Except.ok_bind]
  loadPath files path found := by
    refine ⟨_, run_load .., ?_⟩
    rw [found, Except.mapError_ok, Except.ok_bind, extract_load]
  writes files written source destination text found given wrote := by
    refine ⟨FileSystem.read_of_write wrote, ?_⟩
    rw [fromBytes_eq] at given
    rw [run_extractToFile, found]
    cases made : extractor.textsOf file with
    | error reason => simp [made, Except.map] at given
    | ok result =>
      obtain rfl : joinPages result.2 = text := by simpa [made, Except.map] using given
      simp only [made, wrote]
      exact ⟨_, rfl⟩
  fails files source destination reason found given := by
    rw [fromBytes_eq] at given
    rw [run_extractToFile, found]
    cases made : extractor.textsOf file with
    | error reason' =>
      obtain rfl : reason' = reason := by simpa [made, Except.map] using given
      simp only [made]
    | ok result => simp [made, Except.map] at given

end Extractor

/-! ## Copies -/

/-- What an extractor can be asked for. -/
inductive Extractor.Request where
  /-- The text of bytes at hand. -/
  | bytes (file : Bytes)
  /-- The text of a delivery. -/
  | delivery (delivery : Delivery)
  /-- The text of a file. -/
  | path (path : String)
  /-- The text of one file in another. -/
  | toFile (source destination : String)

/-- What it answers. -/
inductive Extractor.Answer where
  /-- A text. -/
  | text (outcome : Except (Halt ExtractError) String)
  /-- What is written. -/
  | summary (outcome : Except (Halt ExtractError) Summary)

/-- What an extractor answers to a request, and the files after it. -/
def Extractor.answer (extractor : Extractor) (request : Request) (files : FileSystem) :
    Answer × FileSystem :=
  match request with
  | .bytes file => (.text (extractor.fromBytes file), files)
  | .delivery delivery => (.text (extractor.fromDelivery delivery), files)
  | .path path =>
    let (outcome, after) := (extractor.fromPath FileSystem.surroundings path).run.run files
    (.text outcome, after)
  | .toFile source destination =>
    let (outcome, after) :=
      (extractor.extractToFile FileSystem.surroundings source destination).run.run files
    (.summary outcome, after)

/-- A request, the answer to it, and the files before and after. -/
structure Extractor.Exchange where
  request : Request
  before : FileSystem
  answer : Answer
  after : FileSystem

/-- The exchanges that come of requests to one extractor, in order. -/
def Extractor.exchanges (extractor : Extractor) (files : FileSystem) :
    List Request → List Exchange
  | [] => []
  | request :: rest =>
    let result := extractor.answer request files
    { request, before := files, answer := result.1, after := result.2 } ::
      extractor.exchanges result.2 rest

/-- An extractor with its copies, working on a file system. -/
structure Session where
  /-- The extractors, first one first. -/
  extractors : List Extractor
  /-- The files that they work on. -/
  files : FileSystem

namespace Session

/-- What may happen next. -/
inductive Action where
  /-- One of the extractors is copied. -/
  | copy (index : Nat)
  /-- One of the extractors is asked for something. -/
  | ask (index : Nat) (request : Extractor.Request)

/-- What comes of an action. Where no extractor is, nothing happens. -/
def step (session : Session) (action : Action) : Session × Option Extractor.Exchange :=
  match action with
  | .copy index =>
    match session.extractors[index]? with
    | none => (session, none)
    | some extractor => ({ session with extractors := session.extractors ++ [extractor] }, none)
  | .ask index request =>
    match session.extractors[index]? with
    | none => (session, none)
    | some extractor =>
      let result := extractor.answer request session.files
      ({ session with files := result.2 },
        some { request, before := session.files, answer := result.1, after := result.2 })

/-- The exchanges that come of actions, in order. -/
def run (session : Session) : List Action → List Extractor.Exchange
  | [] => []
  | action :: rest =>
    let result := session.step action
    result.2.toList ++ result.1.run rest

/-- The requests among actions that reach an extractor, where there are `count` of them at first. -/
def requests (count : Nat) : List Action → List Extractor.Request
  | [] => []
  | .copy index :: rest => requests (if index < count then count + 1 else count) rest
  | .ask index request :: rest =>
    if index < count then request :: requests count rest else requests count rest

/-- A session with copies of one extractor. -/
def ofCopies (one : Extractor) (count : Nat) (files : FileSystem) : Session :=
  { extractors := List.replicate count one, files }

variable (one : Extractor) (count : Nat) (files : FileSystem)

/-- A copy is one extractor more of the same kind. -/
theorem step_copy (index : Nat) :
    (ofCopies one count files).step (.copy index) =
      (ofCopies one (if index < count then count + 1 else count) files, none) := by
  by_cases present : index < count
  · simp [step, ofCopies, present, List.replicate_succ']
  · simp [step, ofCopies, present]

/-- A request that reaches an extractor is answered by one of the same kind. -/
theorem step_ask (index : Nat) (request : Extractor.Request) :
    (ofCopies one count files).step (.ask index request) =
      if index < count then
        let result := one.answer request files
        (ofCopies one count result.2,
          some { request, before := files, answer := result.1, after := result.2 })
      else (ofCopies one count files, none) := by
  by_cases present : index < count <;>
    simp [step, ofCopies, present]

/-- Copies act as one extractor does that is given all of their requests. -/
theorem run_ofCopies (actions : List Action) :
    (ofCopies one count files).run actions = one.exchanges files (requests count actions) := by
  -- All extractors are copies of one to begin with, and every action leaves it so.
  induction actions generalizing count files with
  | nil => rfl
  | cons action rest ih =>
    cases action with
    | copy index =>
      rw [run, step_copy, requests]
      exact ih _ files
    | ask index request =>
      rw [run, step_ask, requests]
      split
      · exact congrArg _ (ih count _)
      · exact ih count files

end Session

/-! ## Builders -/

namespace ExtractorBuilder

theorem password_foldl (builder : ExtractorBuilder) (passwords : List String) :
    (passwords.foldl withPassword builder).password =
      passwords.getLast?.or builder.password := by
  induction passwords generalizing builder with
  | nil => rfl
  | cons password rest ih =>
    rw [List.foldl_cons, ih, List.getLast?_cons]
    cases rest.getLast? <;> rfl

/-- The last password counts. -/
theorem build_ofPasswords (passwords : List String) :
    (ofPasswords passwords).build = { password := passwords.getLast? } := by
  rw [build, ofPasswords, password_foldl]
  simp

end ExtractorBuilder

/-- All ways in lead from the same bytes to the same outcome, with any password or none. Those
without settings are the ones without a password. An extractor that is built with passwords set one
after the other acts together with its copies as the one with the last password, whatever is asked
of which of them. -/
theorem Extractor.all_ways_in_agree (file : Bytes) (password : Option String) :
    (∃ outcome, ({ password } : Extractor).GivesAlways file outcome) ∧
    PdfText.fromBytes = ({ password := none } : Extractor).fromBytes ∧
    PdfText.fromDelivery = ({ password := none } : Extractor).fromDelivery ∧
    PdfText.fromPath FileSystem.surroundings =
      ({ password := none } : Extractor).fromPath FileSystem.surroundings ∧
    PdfText.extractToFile FileSystem.surroundings =
      ({ password := none } : Extractor).extractToFile FileSystem.surroundings ∧
    ∀ (passwords : List String) (files : FileSystem) (actions : List Session.Action),
      passwords.getLast? = password →
      let built := (ExtractorBuilder.ofPasswords passwords).build
      ({ extractors := [built], files } : Session).run actions =
        ({ password } : Extractor).exchanges files (Session.requests 1 actions) := by
  refine ⟨⟨_, givesAlways _ file⟩, rfl, rfl, rfl, rfl, fun passwords files actions last => ?_⟩
  rw [ExtractorBuilder.build_ofPasswords, last]
  exact Session.run_ofCopies { password } 1 files actions

end PdfText

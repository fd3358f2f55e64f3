import Mathlib.Logic.ExistsUnique
import PdfText.Proofs.Notes
import PdfText.Proofs.Verbosity

/-!
# How a run of the command line ends

A run ends in one of a few ways, which the words and the files decide. It informs about itself, it
rejects the words, it misses the file to read, or it does what the extraction from one file to
another does and says what came of that. An extraction that breaks down is told from one that fails.

Only a run with the exit code of success can have changed a file, and then either nothing was to be
extracted or the whole text is in the file it was meant for. How much is logged has no bearing on
any of this, be it by a setting or by how often more detail is asked for.

## Main definitions

* `Arguments.carryOut` — the extraction that the words ask for
* `CommandLine.observe` — what can be seen of a run on a file system
* `CommandLine.Ending` — the ways in which a run ends, `CommandLine.Ending.Describes` — what each
  means

## Main results

* `CommandLine.observe_eq` — a run as a function of what the words ask for and of the files
* `CommandLine.run_ends_in_one_way` — one ending describes a run, whatever is logged
-/

namespace PdfText

/-! ## Silent surroundings -/

theorem Surroundings.IsSilent.logging_eq {m : Type → Type} [Monad m] {around : Surroundings m}
    (silent : around.IsSilent) (filter : LogFilter) : around.logging filter = around := by
  have quiet : (around.logging filter).report = around.report := by
    funext event
    simp only [Surroundings.logging, silent event, ite_self]
  calc around.logging filter = { around with report := (around.logging filter).report } := rfl
    _ = around := by rw [quiet]

/-- The extraction that the words ask for, on a file system: what came of it, and the files after
it. -/
def Arguments.carryOut (arguments : Arguments) (files : FileSystem) :
    Except (Halt ExtractError) Summary × FileSystem :=
  let extractor : Extractor := { password := arguments.password }
  (extractor.extractToFile FileSystem.surroundings arguments.input arguments.output).run.run files

/-- An extraction that fails, or breaks down, leaves all files as they were. -/
theorem Arguments.files_of_carryOut_error {arguments : Arguments} {files after : FileSystem}
    {reason : Halt ExtractError} (failed : arguments.carryOut files = (.error reason, after)) :
    after = files := by
  rw [carryOut, Extractor.run_extractToFile] at failed
  split at failed
  · exact (congrArg Prod.snd failed).symm
  split at failed
  · exact (congrArg Prod.snd failed).symm
  dsimp only at failed
  split at failed
  · exact (congrArg Prod.snd failed).symm
  · cases congrArg Prod.fst failed

/-- An extraction that succeeds has put the texts of all pages of what was read into the file they
are meant for. -/
theorem Arguments.read_of_carryOut_ok {arguments : Arguments} {files after : FileSystem}
    {summary : Summary} (done : arguments.carryOut files = (.ok summary, after)) :
    ∃ (file : Bytes) (document : Document) (texts : List String),
      files.read arguments.input = .ok file ∧
      Document.load file arguments.password = .ok document ∧
      (List.range document.pageCount).map document.pageText = texts.map .ok ∧
      after.read arguments.output =
        .ok (texts.flatMap fun text => Utf8.encode text ++ [0x0A, 0x0A]) := by
  rw [carryOut, Extractor.run_extractToFile] at done
  split at done
  · cases congrArg Prod.fst done
  next file found =>
  split at done
  · cases congrArg Prod.fst done
  next document texts made =>
  dsimp only at done
  split at done
  · cases congrArg Prod.fst done
  next written wrote =>
  obtain rfl : written = after := congrArg Prod.snd done
  obtain ⟨opened, read⟩ := Extractor.textsOf_eq_ok_iff.mp made
  refine ⟨file, document, texts, found, opened, Document.pageTexts_eq_ok_iff.mp read, ?_⟩
  rw [FileSystem.read_of_write wrote, encode_joinPages]

namespace CommandLine

/-! ## Runs -/

/-- What can be seen of a run on a file system, after some reports: its outcome, and the files after
it. -/
def observe (setting : Option String) (words : List String) (files : FileSystem)
    (reports : List Event) : Outcome × FileSystem :=
  let ((outcome, _), after) :=
    ((run FileSystem.surroundings.recording setting words).run reports).run files
  (outcome, after)

theorem run_extract (setting : Option String) (arguments : Arguments) (files : FileSystem) :
    (extract FileSystem.surroundings setting arguments).run files =
      if files.isPresent arguments.input then
        (outcomeOf arguments (arguments.carryOut files).1, (arguments.carryOut files).2)
      else
        ({ exitCode := failure, printed := "PDF file not found: " ++ arguments.input ++ "\n" },
          files) := by
  have silent := FileSystem.surroundings_isSilent
  simp only [extract, silent.logging_eq, silent .runDone, pure_bind, ite_self]
  change (if files.isPresent arguments.input then _ else _ : StateM FileSystem Outcome).run files = _
  split
  · simp only [StateT.run_bind]
    rfl
  · rfl

/-- What is seen of a run is a matter of what the words ask for and of the files. -/
theorem observe_eq (setting : Option String) (words : List String) (files : FileSystem)
    (reports : List Event) :
    observe setting words files reports =
      match Invocation.ofWords words with
      | .help => ({ exitCode := success, printed := helpText }, files)
      | .version => ({ exitCode := success, printed := versionText }, files)
      | .rejected reason => ({ exitCode := failure, complaint := complaintAbout reason }, files)
      | .extraction arguments =>
        if files.isPresent arguments.input then
          (outcomeOf arguments (arguments.carryOut files).1, (arguments.carryOut files).2)
        else
          ({ exitCode := failure, printed := "PDF file not found: " ++ arguments.input ++ "\n" },
            files) := by
  -- The log and its setting are forgotten, which leaves a run in silent surroundings.
  have forgets := (Surroundings.forgets_recording FileSystem.surroundings_isSilent).run setting none
    words reports
  have seen : observe setting words files reports =
      (run FileSystem.surroundings none words).run files := by
    rw [← forgets]
    rfl
  rw [seen, run]
  cases Invocation.ofWords words with
  | extraction arguments => exact run_extract none arguments files
  | help => rfl
  | version => rfl
  | rejected reason => rfl

/-! ## Endings -/

/-- The ways in which a run ends. -/
inductive Ending where
  /-- Help or the version is printed. -/
  | informed
  /-- The words are rejected. -/
  | rejected
  /-- There is nothing at the path to read from. -/
  | missing
  /-- The text is extracted, or a failure to do so is reported. -/
  | extracted
  /-- The extraction breaks down. -/
  | brokenDown
  deriving DecidableEq, Repr

/-- What an ending means for the words, for the files before a run, and for what is seen of it. -/
def Ending.Describes (words : List String) (files : FileSystem) (seen : Outcome × FileSystem) :
    Ending → Prop
  | informed =>
    (Invocation.ofWords words = .help ∨ Invocation.ofWords words = .version) ∧
      seen.1.exitCode = 0 ∧ seen.2 = files
  | rejected =>
    (∃ reason, Invocation.ofWords words = .rejected reason) ∧
      seen.1.exitCode = 1 ∧ seen.1.printed = "" ∧ seen.2 = files
  | missing =>
    ∃ arguments, Invocation.ofWords words = .extraction arguments ∧
      files.isPresent arguments.input = false ∧
      seen.1.exitCode = 1 ∧ seen.1.printed = "PDF file not found: " ++ arguments.input ++ "\n" ∧
      seen.2 = files
  | extracted =>
    ∃ arguments, Invocation.ofWords words = .extraction arguments ∧
      files.isPresent arguments.input = true ∧
      seen.2 = (arguments.carryOut files).2 ∧
      match (arguments.carryOut files).1 with
      | .ok _ =>
        seen.1.exitCode = 0 ∧
          seen.1.printed = "Successfully extracted text from " ++ arguments.input ++ " to " ++
            arguments.output ++ "\n"
      | .error (.cause error) =>
        seen.1.exitCode = 1 ∧
          seen.1.printed = "Error extracting text from " ++ arguments.input ++ ": " ++
            error.message ++ "\n" ∧
          seen.2 = files
      | .error (.defect _) => False
  | brokenDown =>
    ∃ arguments, Invocation.ofWords words = .extraction arguments ∧
      files.isPresent arguments.input = true ∧
      (∃ defect, (arguments.carryOut files).1 = .error (.defect defect)) ∧
      seen.1.exitCode = 101 ∧ seen.2 = files

/-- The ending that the words and the files decide on. -/
def endingOf (words : List String) (files : FileSystem) : Ending :=
  match Invocation.ofWords words with
  | .help => .informed
  | .version => .informed
  | .rejected _ => .rejected
  | .extraction arguments =>
    if files.isPresent arguments.input then
      match (arguments.carryOut files).1 with
      | .error (.defect _) => .brokenDown
      | _ => .extracted
    else .missing

/-- No other ending describes a run. -/
theorem Ending.eq_endingOf {words : List String} {files : FileSystem} {seen : Outcome × FileSystem}
    {ending : Ending} (describes : ending.Describes words files seen) :
    ending = endingOf words files := by
  rw [endingOf]
  -- Each ending says what the words ask for, and whether the file is there. This determines it.
  cases ending with
  | informed => obtain ⟨asked | asked, -⟩ := describes <;> rw [asked]
  | rejected =>
    obtain ⟨⟨reason, asked⟩, -⟩ := describes
    rw [asked]
  | missing =>
    obtain ⟨arguments, asked, absent, -⟩ := describes
    simp [asked, absent]
  | extracted =>
    obtain ⟨arguments, asked, present, -, said⟩ := describes
    simp only [asked, present, if_true]
    split
    · next defect brokeDown => simp [brokeDown] at said
    · rfl
  | brokenDown =>
    obtain ⟨arguments, asked, present, ⟨defect, brokeDown⟩, -⟩ := describes
    simp [asked, present, brokeDown]

theorem describes_observe (setting : Option String) (words : List String) (files : FileSystem)
    (reports : List Event) :
    (endingOf words files).Describes words files (observe setting words files reports) := by
  rw [observe_eq, endingOf]
  -- The ending is decided in the order of the run: by the words, by the input, and by the extraction.
  cases asked : Invocation.ofWords words with
  | help => exact ⟨.inl asked, rfl, rfl⟩
  | version => exact ⟨.inr asked, rfl, rfl⟩
  | rejected reason => exact ⟨⟨reason, asked⟩, rfl, rfl, rfl⟩
  | extraction arguments =>
    cases present : files.isPresent arguments.input with
    | false =>
      simp only [present, Bool.false_eq_true, if_false]
      exact ⟨arguments, asked, present, rfl, rfl, rfl⟩
    | true =>
      simp only [present, if_true]
      rcases carried : arguments.carryOut files with ⟨error | summary, after⟩
      · have kept := Arguments.files_of_carryOut_error carried
        cases error with
        | defect defect => exact ⟨arguments, asked, present, ⟨defect, by rw [carried]⟩, rfl, kept⟩
        | cause error =>
          refine ⟨arguments, asked, present, by rw [carried], ?_⟩
          rw [carried]
          exact ⟨rfl, rfl, kept⟩
      · refine ⟨arguments, asked, present, by rw [carried], ?_⟩
        rw [carried]
        exact ⟨rfl, rfl⟩

/-- A run that has not succeeded has changed no file. -/
theorem files_of_exitCode_ne (setting : Option String) (words : List String) (files : FileSystem)
    (reports : List Event)
    (notDone : (observe setting words files reports).1.exitCode ≠ success) :
    (observe setting words files reports).2 = files := by
  have described := describes_observe setting words files reports
  generalize observe setting words files reports = seen at described notDone ⊢
  cases ending : endingOf words files with
  | informed => exact (ending ▸ described).2.2
  | rejected => exact (ending ▸ described).2.2.2
  | missing =>
    obtain ⟨arguments, -, -, -, -, kept⟩ := ending ▸ described
    exact kept
  | extracted =>
    obtain ⟨arguments, -, -, -, said⟩ := ending ▸ described
    split at said
    · exact absurd said.1 notDone
    · exact said.2.2
    · exact said.elim
  | brokenDown =>
    obtain ⟨arguments, -, -, -, -, kept⟩ := ending ▸ described
    exact kept

/-- A run that has succeeded has printed help or the version, or has put the whole text into the
file it is meant for. -/
theorem text_of_exitCode_eq (setting : Option String) (words : List String) (files : FileSystem)
    (reports : List Event)
    (done : (observe setting words files reports).1.exitCode = success) :
    (Invocation.ofWords words = .help ∨ Invocation.ofWords words = .version) ∨
      ∃ (arguments : Arguments) (file : Bytes) (document : Document) (texts : List String),
        Invocation.ofWords words = .extraction arguments ∧
        files.read arguments.input = .ok file ∧
        Document.load file arguments.password = .ok document ∧
        (List.range document.pageCount).map document.pageText = texts.map .ok ∧
        (observe setting words files reports).2.read arguments.output =
          .ok (texts.flatMap fun text => Utf8.encode text ++ [0x0A, 0x0A]) := by
  have described := describes_observe setting words files reports
  generalize observe setting words files reports = seen at described done ⊢
  cases ending : endingOf words files with
  | informed => exact .inl (ending ▸ described).1
  | rejected =>
    have failed := (ending ▸ described).2.1
    simp [done, success] at failed
  | missing =>
    obtain ⟨arguments, -, -, failed, -⟩ := ending ▸ described
    simp [done, success] at failed
  | extracted =>
    obtain ⟨arguments, asked, -, after, said⟩ := ending ▸ described
    split at said
    · next summary carried =>
      obtain ⟨file, document, texts, found, opened, read, written⟩ :=
        Arguments.read_of_carryOut_ok (Prod.ext carried after.symm)
      exact .inr ⟨arguments, file, document, texts, asked, found, opened, read, written⟩
    · simp [done, success] at said
    · exact said.elim
  | brokenDown =>
    obtain ⟨arguments, -, -, -, failed, -⟩ := ending ▸ described
    simp [done, success] at failed

/-! ## Detail -/

/-- How often more detail is asked for is not seen of a run, be the words right or wrong. -/
theorem observe_of_withoutDetail {words words' : List String}
    (same : (Invocation.ofWords words).withoutDetail = (Invocation.ofWords words').withoutDetail)
    (setting setting' : Option String) (files : FileSystem) (reports reports' : List Event) :
    let seen := observe setting words files reports
    let seen' := observe setting' words' files reports'
    seen'.1.exitCode = seen.1.exitCode ∧ seen'.1.printed = seen.1.printed ∧ seen'.2 = seen.2 := by
  rw [observe_eq, observe_eq]
  generalize Invocation.ofWords words = asked at same ⊢
  generalize Invocation.ofWords words' = asked' at same ⊢
  cases asked with
  | help =>
    cases asked' <;> cases same
    exact ⟨rfl, rfl, rfl⟩
  | version =>
    cases asked' <;> cases same
    exact ⟨rfl, rfl, rfl⟩
  | rejected reason =>
    cases asked' <;> cases same
    exact ⟨rfl, rfl, rfl⟩
  | extraction arguments =>
    cases asked' with
    | extraction arguments' =>
      obtain ⟨input, output, password, verbosity⟩ := arguments
      obtain ⟨input', output', password', verbosity'⟩ := arguments'
      cases same
      -- Both extractions are the same, and the outcome does not mention the verbosity.
      have carried : Arguments.carryOut ⟨input, output, password, verbosity⟩ files =
          Arguments.carryOut ⟨input, output, password, verbosity'⟩ files := rfl
      dsimp only
      split
      · rw [carried]
        generalize (Arguments.carryOut ⟨input, output, password, verbosity'⟩ files).1 = result
        match result with
        | .ok _ => exact ⟨rfl, rfl, rfl⟩
        | .error (.cause _) => exact ⟨rfl, rfl, rfl⟩
        | .error (.defect _) => exact ⟨rfl, rfl, rfl⟩
      · exact ⟨rfl, rfl, rfl⟩
    | help | version | rejected => cases same

/-- A run ends in just one way. If it has succeeded, the whole text is in the file it is meant for,
unless help or the version was asked for; if it has not, no file has changed. Neither a setting for
the log nor asking for more detail makes a difference to what is seen of it. -/
theorem run_ends_in_one_way (setting : Option String) (words : List String) (files : FileSystem)
    (reports : List Event) :
    let seen := observe setting words files reports
    (∃! ending : Ending, ending.Describes words files seen) ∧
    (seen.1.exitCode = 0 →
      (Invocation.ofWords words = .help ∨ Invocation.ofWords words = .version) ∨
      ∃ (arguments : Arguments) (file : Bytes) (document : Document) (texts : List String),
        Invocation.ofWords words = .extraction arguments ∧
        files.read arguments.input = .ok file ∧
        Document.load file arguments.password = .ok document ∧
        (List.range document.pageCount).map document.pageText = texts.map .ok ∧
        seen.2.read arguments.output =
          .ok (texts.flatMap fun text => Utf8.encode text ++ [0x0A, 0x0A])) ∧
    (seen.1.exitCode ≠ 0 → seen.2 = files) ∧
    ∀ (setting' : Option String) (words' : List String) (reports' : List Event),
      Relation.EqvGen Louder words words' →
      let seen' := observe setting' words' files reports'
      seen'.1.exitCode = seen.1.exitCode ∧ seen'.1.printed = seen.1.printed ∧
        seen'.2 = seen.2 := by
  refine ⟨⟨endingOf words files, describes_observe setting words files reports, fun ending =>
    Ending.eq_endingOf⟩, text_of_exitCode_eq setting words files reports,
    files_of_exitCode_ne setting words files reports, fun setting' words' reports' louder => ?_⟩
  refine observe_of_withoutDetail ?_ setting setting' files reports reports'
  -- Words may differ by several such steps, forwards and backwards.
  induction louder with
  | rel words words' louder => exact louder.withoutDetail
  | refl words => rfl
  | symm words words' _ same => exact same.symm
  | trans words between words' _ _ first second => exact first.trans second

end CommandLine

end PdfText

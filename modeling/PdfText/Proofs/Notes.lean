import PdfText.CommandLine
import PdfText.Proofs.Extraction

/-!
# Notes

A computation may take notes while it runs: of what it asks a source, or of what it reports. If it
never looks at them, it does what it would do without. This holds of a sequence if it holds of each
step, and so of a whole run of the command line.

Notes may be taken by any rules. Two runs that differ only in what they note have the same outcome.

## Main definitions

* `Forgets` — a computation with notes that does what another one does without
* `PageSource.Forgets`, `Surroundings.Forgets` — the same for all that can be asked

## Main results

* `PageSource.Forgets.extract` — the text of a source does not depend on notes
* `Surroundings.Forgets.run` — nor does what the command line does, nor by which rules they are taken
-/

namespace PdfText

variable {m : Type → Type} [Monad m] {ν ε α β : Type}

/-- A computation with notes does what another one does without, whatever is noted. -/
def Forgets (noting : StateT ν m α) (plain : m α) : Prop :=
  ∀ notes, Prod.fst <$> noting.run notes = plain

/-- The same for computations that may fail. -/
def ForgetsOrFails (noting : ExceptT ε (StateT ν m) α) (plain : ExceptT ε m α) : Prop :=
  Forgets noting.run plain.run

theorem ForgetsOrFails.ite {condition : Prop} [Decidable condition]
    {noting noting' : ExceptT ε (StateT ν m) α} {plain plain' : ExceptT ε m α}
    (first : ForgetsOrFails noting plain) (second : ForgetsOrFails noting' plain') :
    ForgetsOrFails (if condition then noting else noting') (if condition then plain else plain') := by
  split
  · exact first
  · exact second

section Steps

variable [LawfulMonad m]

namespace Forgets

variable {noting : StateT ν m α} {plain : m α} {notingNext : α → StateT ν m β} {plainNext : α → m β}

theorem pure (value : α) : Forgets (pure value : StateT ν m α) (pure value : m α) := fun notes => by
  simp

theorem lift (plain : m α) : Forgets (StateT.lift plain : StateT ν m α) plain := fun notes => by
  simp

theorem modify (change : ν → ν) : Forgets (modify change : StateT ν m Unit) (Pure.pure () : m Unit) :=
  fun notes => by simp

theorem bind (first : Forgets noting plain) (second : ∀ value, Forgets (notingNext value) (plainNext value)) :
    Forgets (noting >>= notingNext) (plain >>= plainNext) := fun notes => by
  rw [StateT.run_bind, map_bind, ← first notes, bind_map_left]
  congr 1
  funext result
  exact second result.1 result.2

end Forgets

namespace ForgetsOrFails

variable {noting : ExceptT ε (StateT ν m) α} {plain : ExceptT ε m α}
variable {notingNext : α → ExceptT ε (StateT ν m) β} {plainNext : α → ExceptT ε m β}

theorem pure (value : α) :
    ForgetsOrFails (pure value : ExceptT ε (StateT ν m) α) (pure value : ExceptT ε m α) :=
  Forgets.pure (Except.ok value)

theorem liftM (outcome : Except ε α) :
    ForgetsOrFails (liftM outcome : ExceptT ε (StateT ν m) α) (liftM outcome : ExceptT ε m α) :=
  Forgets.pure outcome

theorem bind (first : ForgetsOrFails noting plain)
    (second : ∀ value, ForgetsOrFails (notingNext value) (plainNext value)) :
    ForgetsOrFails (noting >>= notingNext) (plain >>= plainNext) := by
  rw [ForgetsOrFails, ExceptT.run_bind, ExceptT.run_bind]
  refine Forgets.bind first fun outcome => ?_
  cases outcome with
  | ok value => exact second value
  | error reason => exact Forgets.pure _

theorem lift {noting : StateT ν m α} {plain : m α} (forgets : Forgets noting plain) :
    ForgetsOrFails (ExceptT.lift noting : ExceptT ε (StateT ν m) α) (ExceptT.lift plain : ExceptT ε m α) := by
  rw [ForgetsOrFails, ExceptT.run_lift, ExceptT.run_lift, map_eq_pure_bind, map_eq_pure_bind]
  exact forgets.bind fun value => Forgets.pure _

end ForgetsOrFails

end Steps

/-! ## Sources -/

namespace PageSource

/-- A source with notes that answers as another one does without. -/
structure Forgets (noting : PageSource (StateT ν m)) (plain : PageSource m) : Prop where
  pageCount : PdfText.Forgets noting.pageCount plain.pageCount
  pageText : ∀ index, ForgetsOrFails (noting.pageText index) (plain.pageText index)

variable [LawfulMonad m] {noting : PageSource (StateT ν m)} {plain : PageSource m}

theorem Forgets.texts (forgets : noting.Forgets plain) (count index : Nat) :
    ForgetsOrFails (noting.texts count index) (plain.texts count index) := by
  induction count generalizing index with
  | zero => exact .pure []
  | succ count ih =>
    exact (forgets.pageText index).bind fun _ => (ih (index + 1)).bind fun _ => .pure _

/-- The text of a source does not depend on notes. -/
theorem Forgets.extract (forgets : noting.Forgets plain) :
    ForgetsOrFails noting.extract plain.extract :=
  (ForgetsOrFails.lift forgets.pageCount).bind fun count =>
    (forgets.texts count 0).bind fun _ => .pure _

end PageSource

/-! ## Surroundings -/

namespace Surroundings

/-- Surroundings with notes that do what others do without, in which reports have no effect. -/
structure Forgets (noting : Surroundings (StateT ν m)) (plain : Surroundings m) : Prop where
  read : ∀ path, ForgetsOrFails (noting.read path) (plain.read path)
  write : ∀ path content, ForgetsOrFails (noting.write path content) (plain.write path content)
  isPresent : ∀ path, PdfText.Forgets (noting.isPresent path) (plain.isPresent path)
  report : ∀ event, PdfText.Forgets (noting.report event) (plain.report event)
  silent : plain.IsSilent

variable [LawfulMonad m] {noting : Surroundings (StateT ν m)} {plain : Surroundings m}

theorem forgets_recording (silent : plain.IsSilent) : plain.recording.Forgets plain where
  read path := PdfText.Forgets.lift (plain.read path).run
  write path content := PdfText.Forgets.lift (plain.write path content).run
  isPresent path := PdfText.Forgets.lift (plain.isPresent path)
  report event := fun notes => by
    rw [silent]
    exact map_pure Prod.fst ((), event :: notes)
  silent := silent

namespace Forgets

/-- It does not matter by which rules notes are taken. -/
theorem logging (forgets : noting.Forgets plain) (first second : LogFilter) :
    (noting.logging first).Forgets (plain.logging second) where
  read := forgets.read
  write := forgets.write
  isPresent := forgets.isPresent
  report event := by
    -- Surroundings in which reports have no effect may as well not be told of any, so the rules on
    -- the side without notes do not matter.
    have quiet : (plain.logging second).report event = pure () := by
      simp only [Surroundings.logging, forgets.silent event, ite_self]
    rw [quiet, ← forgets.silent event]
    simp only [Surroundings.logging]
    split
    · exact forgets.report event
    · rw [forgets.silent event]
      exact .pure ()
  silent event := by
    simp only [Surroundings.logging, forgets.silent event, ite_self]

theorem reportAll (forgets : noting.Forgets plain) (findings : List Finding) :
    PdfText.Forgets (noting.reportAll findings) (plain.reportAll findings) := by
  induction findings with
  | nil => exact .pure ()
  | cons finding findings ih => exact (forgets.report (.found finding)).bind fun _ => ih

theorem ofIo {noting : ExceptT IoError (StateT ν m) α} {plain : ExceptT IoError m α}
    (forgets : ForgetsOrFails noting plain) :
    ForgetsOrFails (Extractor.ofIo noting) (Extractor.ofIo plain) := by
  rw [ForgetsOrFails, Extractor.ofIo, Extractor.ofIo, ExceptT.run_adapt, ExceptT.run_adapt,
    map_eq_pure_bind, map_eq_pure_bind]
  exact Forgets.bind forgets fun outcome => .pure _

/-- How a document is opened does not depend on reports. -/
theorem openReporting (forgets : noting.Forgets plain) (extractor : Extractor) (file : Bytes) :
    ForgetsOrFails (extractor.openReporting noting file) (extractor.openReporting plain file) := by
  rw [Extractor.openReporting, Extractor.openReporting]
  refine .bind (.lift (forgets.reportAll _)) fun _ => .bind (.liftM _) fun opening => ?_
  refine .ite (.bind (.lift (forgets.report _)) fun _ => ?_) ?_
  all_goals refine .ite (.bind (.lift (forgets.report _)) fun _ => ?_) ?_
  all_goals
    exact .bind (.lift (forgets.reportAll _)) fun _ => .bind (.liftM _) fun document =>
      .bind (.lift (forgets.report _)) fun _ => .pure document

/-- The pages of a document are the same with reports on each. -/
theorem reportingSource (forgets : noting.Forgets plain) (document : Document) :
    (Extractor.reportingSource noting document).Forgets (Extractor.reportingSource plain document) where
  pageCount := PdfText.Forgets.pure document.pageCount
  pageText index := by
    refine .bind (.lift (forgets.reportAll _)) fun _ => .bind (.liftM _) fun text => ?_
    refine .bind (.lift ?_) fun _ => .pure text
    exact (forgets.report .pageRead).bind fun _ => forgets.report .pageDone

/-- Writing the text of a file does not depend on reports. -/
theorem extractToFile (forgets : noting.Forgets plain) (extractor : Extractor)
    (source destination : String) :
    ForgetsOrFails (extractor.extractToFile noting source destination)
      (extractor.extractToFile plain source destination) := by
  refine .bind (ofIo (forgets.read source)) fun file => ?_
  refine .bind (forgets.openReporting extractor file) fun document => ?_
  refine .bind (forgets.reportingSource document).extract fun text => ?_
  refine .bind (ofIo (forgets.write destination _)) fun _ => ?_
  exact .bind (.lift (forgets.report _)) fun _ => .pure _

/-- What the command line does depends neither on what is noted nor on the rules for that. -/
theorem run (forgets : noting.Forgets plain) (first second : Option String) (words : List String) :
    PdfText.Forgets (CommandLine.run noting first words) (CommandLine.run plain second words) := by
  rw [CommandLine.run, CommandLine.run]
  split
  · exact .pure _
  · exact .pure _
  · exact .pure _
  · next arguments _ =>
    refine (forgets.isPresent arguments.input).bind fun present => ?_
    split
    · have logging := forgets.logging (LogFilter.choose first arguments.verbosity)
        (LogFilter.choose second arguments.verbosity)
      let extractor : Extractor := { password := arguments.password }
      refine PdfText.Forgets.bind (logging.extractToFile extractor _ _) fun result => ?_
      cases result with
      | ok summary => exact (logging.report .runDone).bind fun _ => .pure _
      | error reason => exact .pure _
    · exact .pure _

end Forgets

end Surroundings

end PdfText

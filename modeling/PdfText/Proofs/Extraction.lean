import Mathlib.Algebra.GroupWithZero.Nat
import PdfText.Extractor
import PdfText.Proofs.FileSystem

/-!
# Writing the text of a file

Extraction to a file reads the source, opens the document, asks for every page, and only then
writes. Reports apart, all that happens before is a function of the bytes that were read, so a run
that fails has changed nothing, and a run that succeeds has put the text of the old bytes in one
place, also where that place is the source itself.

## Main definitions

* `Surroundings.IsSilent` — reports have no effect
* `Document.pageTexts` — the texts of all pages, or the first failure
* `Extractor.textsOf` — the document in some bytes with the texts of its pages

## Main results

* `Extractor.run_extractToFile` — a run on a file system as a function of what it reads
* `Extractor.extractToFile_all_or_nothing` — a run that fails changes nothing, and one that succeeds
  changes one file
-/

namespace PdfText

/-! ## Text as bytes -/

namespace Utf8

private theorem toList_loop (array : ByteArray) (place : Nat) (done : List UInt8) :
    ByteArray.toList.loop array place done = done.reverse ++ array.data.toList.drop place := by
  fun_induction ByteArray.toList.loop array place done with
  | case1 place done more ih =>
    have inside : place < array.data.toList.length := by simpa using more
    have byte : array.get! place = array.data.toList[place] := by
      simp only [ByteArray.get!]
      rw [getElem!_pos array.data place (by simpa using more), Array.getElem_toList]
    rw [ih, List.drop_eq_getElem_cons inside, byte, List.reverse_cons, List.append_assoc,
      List.singleton_append]
  | case2 place done finished =>
    have outside : array.data.toList.length ≤ place := by simpa using finished
    rw [List.drop_eq_nil_of_le outside, List.append_nil]

theorem encode_eq (text : String) : encode text = text.toByteArray.data.toList := by
  simp [encode, ByteArray.toList, toList_loop]

@[simp] theorem encode_append (first second : String) :
    encode (first ++ second) = encode first ++ encode second := by
  simp [encode_eq]

@[simp] theorem length_encode (text : String) : (encode text).length = text.utf8ByteSize := by
  simp [encode_eq]

end Utf8

theorem encode_pageSeparator : Utf8.encode pageSeparator = [0x0A, 0x0A] := by decide +kernel

theorem joinPages_cons (text : String) (texts : List String) :
    joinPages (text :: texts) = text ++ pageSeparator ++ joinPages texts := by
  simp [joinPages]

/-- The text of a document is that of its pages, each with two line ends after it. -/
theorem encode_joinPages (texts : List String) :
    Utf8.encode (joinPages texts) = texts.flatMap fun text => Utf8.encode text ++ [0x0A, 0x0A] := by
  induction texts with
  | nil => decide +kernel
  | cons text texts ih =>
    rw [joinPages_cons, Utf8.encode_append, Utf8.encode_append, encode_pageSeparator, ih,
      List.flatMap_cons]

theorem length_encode_joinPages (texts : List String) :
    (Utf8.encode (joinPages texts)).length =
      (texts.map fun text => text.utf8ByteSize + 2).sum := by
  simp [encode_joinPages, List.length_flatMap]

/-! ## Reports -/

section Silent

variable {m : Type → Type} [Monad m] {around : Surroundings m}

/-- Surroundings in which reports have no effect. -/
def Surroundings.IsSilent (around : Surroundings m) : Prop :=
  ∀ event, around.report event = pure ()

theorem FileSystem.surroundings_isSilent : FileSystem.surroundings.IsSilent := fun _ => rfl

variable [LawfulMonad m]

theorem Surroundings.IsSilent.reportAll (silent : around.IsSilent) (findings : List Finding) :
    around.reportAll findings = pure () := by
  induction findings with
  | nil => rfl
  | cons finding findings ih =>
    change (around.report (.found finding) >>= fun _ => around.reportAll findings) = pure ()
    rw [silent, pure_bind, ih]

/-! ## The pages of a document -/

/-- The texts of all pages of a document, or the first failure. -/
def Document.pageTexts (document : Document) : Except (Halt ExtractError) (List String) :=
  (List.range document.pageCount).mapM document.pageText

theorem Document.pageTexts_eq_ok_iff {document : Document} {texts : List String} :
    document.pageTexts = .ok texts ↔
      (List.range document.pageCount).map document.pageText = texts.map .ok :=
  Except.mapM_eq_ok_iff

theorem Document.length_of_pageTexts {document : Document} {texts : List String}
    (read : document.pageTexts = .ok texts) : texts.length = document.pageCount := by
  simpa using (congrArg List.length (pageTexts_eq_ok_iff.mp read)).symm

namespace PageSource

/-- A source that gives pages without any effect gives those of a document in a row. -/
theorem texts_eq {source : PageSource m} {document : Document}
    (asked : ∀ index, source.pageText index = ExceptT.mk (pure (document.pageText index)))
    (count index : Nat) :
    source.texts count index = ExceptT.mk (pure ((List.range' index count).mapM document.pageText)) := by
  induction count generalizing index with
  | zero => rfl
  | succ count ih =>
    rw [texts, ih, asked, List.range'_succ, List.mapM_cons]
    cases document.pageText index with
    | error reason => rw [ExceptT.mk_pure_error_bind, Except.error_bind]
    | ok text =>
      rw [ExceptT.mk_pure_ok_bind, Except.ok_bind]
      cases (List.range' (index + 1) count).mapM document.pageText with
      | error reason => rw [ExceptT.mk_pure_error_bind, Except.error_bind]
      | ok texts =>
        rw [ExceptT.mk_pure_ok_bind, Except.ok_bind]
        rfl

theorem extract_eq {source : PageSource m} {document : Document}
    (counted : source.pageCount = pure document.pageCount)
    (asked : ∀ index, source.pageText index = ExceptT.mk (pure (document.pageText index))) :
    source.extract = ExceptT.mk (pure (document.pageTexts.map joinPages)) := by
  rw [extract, counted]
  simp only [texts_eq asked, ← List.range_eq_range']
  change (ExceptT.lift (pure document.pageCount) >>= fun count => _) = _
  rw [ExceptT.lift_pure, pure_bind]
  change (ExceptT.mk (pure document.pageTexts) >>= _) = _
  cases document.pageTexts with
  | error reason =>
    rw [ExceptT.mk_pure_error_bind]
    rfl
  | ok texts =>
    rw [ExceptT.mk_pure_ok_bind]
    rfl

end PageSource

/-- The text of a document is that of its pages in a row. -/
theorem Document.extract_eq (document : Document) :
    document.extract = document.pageTexts.map joinPages := by
  rw [extract, PageSource.extract_eq rfl fun _ => rfl]
  rfl

namespace Extractor

/-- Where reports have no effect, the text of all pages is a matter of the document alone. -/
theorem extract_reportingSource (silent : around.IsSilent) (document : Document) :
    (reportingSource around document).extract =
      ExceptT.mk (pure (document.pageTexts.map joinPages)) := by
  refine PageSource.extract_eq rfl fun index => ExceptT.ext ?_
  simp [reportingSource, PageSource.observed, Document.source, silent.reportAll, silent _]

/-- Where reports have no effect, a document is opened as it is without them. -/
theorem openReporting_eq (silent : around.IsSilent) (extractor : Extractor) (file : Bytes) :
    extractor.openReporting around file =
      ExceptT.mk (pure ((Document.load file extractor.password).mapError .cause)) := by
  rw [openReporting, Document.load]
  simp only [silent.reportAll, silent _, ExceptT.liftM_eq_mk]
  cases Opening.ofBytes file with
  | error reason => simp
  | ok opening =>
    cases opening.document extractor.password with
    | error reason => simp
    | ok document => simp

end Extractor

end Silent

/-! ## A run on a file system -/

namespace Extractor

/-- The document in some bytes, with the texts of its pages. -/
def textsOf (extractor : Extractor) (file : Bytes) :
    Except (Halt ExtractError) (Document × List String) := do
  let document ← (Document.load file extractor.password).mapError .cause
  return (document, ← document.pageTexts)

theorem textsOf_eq_ok_iff {extractor : Extractor} {file : Bytes} {document : Document}
    {texts : List String} :
    extractor.textsOf file = .ok (document, texts) ↔
      Document.load file extractor.password = .ok document ∧ document.pageTexts = .ok texts := by
  simp [textsOf, Except.bind_eq_ok_iff, Except.mapError_eq_ok_iff]

theorem run_ofIo_read (files : FileSystem) (path : String) :
    (ofIo (FileSystem.surroundings.read path)).run.run files =
      pure ((files.read path).mapError fun error => .cause (.io error), files) := by
  cases read : files.read path <;>
    simp [ofIo, FileSystem.surroundings, ExceptT.run_adapt, StateT.run, read, Functor.map,
      StateT.map] <;>
    rfl

theorem run_ofIo_write (files : FileSystem) (path : String) (content : Bytes) :
    (ofIo (FileSystem.surroundings.write path content)).run.run files =
      match files.write path content with
      | .ok written => pure (.ok (), written)
      | .error error => pure (.error (.cause (.io error)), files) := by
  cases wrote : files.write path content <;>
    simp [ofIo, FileSystem.surroundings, ExceptT.run_adapt, StateT.run, wrote, Functor.map,
      StateT.map] <;>
    rfl

/-- A run reads the source, makes its texts of what it has read, and only then writes. -/
theorem run_extractToFile (extractor : Extractor) (files : FileSystem)
    (source destination : String) :
    (extractor.extractToFile FileSystem.surroundings source destination).run.run files =
      match files.read source with
      | .error error => (.error (.cause (.io error)), files)
      | .ok file =>
        match extractor.textsOf file with
        | .error reason => (.error reason, files)
        | .ok (document, texts) =>
          let text := Utf8.encode (joinPages texts)
          match files.write destination text with
          | .error error => (.error (.cause (.io error)), files)
          | .ok written =>
            (.ok { pages := document.pageCount, bytesWritten := text.length }, written) := by
  have silent := FileSystem.surroundings_isSilent
  cases found : files.read source with
  | error error => simp [extractToFile, ExceptT.run_bind, run_ofIo_read, found]; rfl
  | ok file =>
    cases opened : Document.load file extractor.password with
    | error error =>
      simp [extractToFile, ExceptT.run_bind, run_ofIo_read, found, openReporting_eq silent, textsOf,
        opened]; rfl
    | ok document =>
      cases read : document.pageTexts with
      | error reason =>
        simp [extractToFile, ExceptT.run_bind, run_ofIo_read, found, openReporting_eq silent,
          extract_reportingSource silent, textsOf, opened, read, Except.map]; rfl
      | ok texts =>
        cases wrote : files.write destination (Utf8.encode (joinPages texts)) <;>
          simp [extractToFile, ExceptT.run_bind, run_ofIo_read, found, openReporting_eq silent,
            extract_reportingSource silent, textsOf, opened, read, Except.map, run_ofIo_write, wrote,
            silent _] <;> rfl

/-- A run that fails, for whatever reason, leaves all files as they were. A run that succeeds has
put one file in place: at the destination, with the texts of the pages of what the source held
before, each with two line ends after it. The summary tells how many pages and bytes these are. -/
theorem extractToFile_all_or_nothing (extractor : Extractor) (files : FileSystem)
    (source destination : String) :
    match (extractor.extractToFile FileSystem.surroundings source destination).run.run files with
    | (.error _, after) => after = files
    | (.ok summary, after) =>
      ∃ (file : Bytes) (document : Document) (texts : List String) (place : Place),
        files.read source = .ok file ∧
        Document.load file extractor.password = .ok document ∧
        (List.range document.pageCount).map document.pageText = texts.map .ok ∧
        let content := texts.flatMap fun text => Utf8.encode text ++ [0x0A, 0x0A]
        files.target destination = .ok place ∧
        after.entryAt? place = some (.file content) ∧
        after.read destination = .ok content ∧
        (∀ other, other ≠ place → after.entryAt? other = files.entryAt? other) ∧
        summary.pages = texts.length ∧
        summary.bytesWritten = (texts.map fun text => text.utf8ByteSize + 2).sum ∧
        summary.bytesWritten = content.length := by
  rw [run_extractToFile]
  cases found : files.read source with
  | error error => rfl
  | ok file =>
    cases made : extractor.textsOf file with
    | error reason => simp only [made]
    | ok result =>
      obtain ⟨document, texts⟩ := result
      obtain ⟨opened, read⟩ := textsOf_eq_ok_iff.mp made
      cases wrote : files.write destination (Utf8.encode (joinPages texts)) with
      | error error => simp only [made, wrote]
      | ok written =>
        obtain ⟨place, resolved, free, rfl⟩ := FileSystem.write_eq_ok_iff.mp wrote
        have readBack := FileSystem.read_of_write wrote
        have kept : (files.put place (Utf8.encode (joinPages texts))).entryAt? place =
            some (.file (Utf8.encode (joinPages texts))) :=
          FileSystem.entryAt?_put_self (FileSystem.ne_root_of_entryAt? free)
        simp only [made, wrote]
        rw [encode_joinPages] at readBack kept ⊢
        refine ⟨file, document, texts, place, rfl, opened,
          Document.pageTexts_eq_ok_iff.mp read, resolved, kept, readBack,
          fun other ne => FileSystem.entryAt?_put_of_ne ne,
          (Document.length_of_pageTexts read).symm, ?_, rfl⟩
        rw [← encode_joinPages, length_encode_joinPages]

end Extractor

end PdfText

import PdfText.Layout
import PdfText.Proofs.Outcome

/-!
# Where reading a file can fail

A file is read as far as its cross-reference table without any key. So whatever is wrong with it on
the way, the complaint is never one about its encryption.

## Main definitions

* `PdfError.IsPlain` — a complaint that has nothing to do with encryption
* `PdfError.IsOfFilter` — a complaint about the filters of a stream

## Main results

* `Layout.read_failsOnly` — reading a file fails with such complaints only
-/

namespace PdfText

open Except (FailsOnly)

/-- A complaint that has nothing to do with encryption. -/
def PdfError.IsPlain : PdfError → Prop
  | .decryption _ => False
  | _ => True

/-! ## Filters -/

/-- A complaint about the filters of a stream or about the data behind them. -/
def PdfError.IsOfFilter : PdfError → Prop
  | .missingKey _ | .objectType .. | .unimplemented _ | .ascii85 _ | .io _ => True
  | _ => False

theorem PdfError.IsOfFilter.isPlain {error : PdfError} (complaint : error.IsOfFilter) :
    error.IsPlain := by
  cases error <;> trivial

namespace Filter

theorem names_failsOnly (entries : Dict) : FailsOnly PdfError.IsOfFilter (names entries) := by
  have named (object : Object) : FailsOnly PdfError.IsOfFilter (nameOf object) := by
    cases object <;> first | exact .ok _ | exact .error trivial
  unfold names
  split
  · exact .error trivial
  · exact .ok _
  · exact .mapM named _
  · exact .error trivial

theorem unpredict_failsOnly (parameters : Dict) (bytes : Bytes) :
    FailsOnly PdfError.IsOfFilter (unpredict parameters bytes) := by
  unfold unpredict
  split
  · exact .ok _
  · exact .mapError fun _ => trivial

theorem apply_failsOnly (parameters : Dict) (name bytes : Bytes) :
    FailsOnly PdfError.IsOfFilter (apply parameters name bytes) := by
  unfold apply
  split
  · exact unpredict_failsOnly _ _
  split
  · exact unpredict_failsOnly _ _
  split
  · exact .mapError fun _ => trivial
  · exact .error trivial

theorem decode_failsOnly (entries : Dict) (body : Bytes) :
    FailsOnly PdfError.IsOfFilter (decode entries body) := by
  refine .bind (names_failsOnly entries) fun names => ?_
  cases names with
  | nil => exact .ok _
  | cons first others =>
    exact .bind (apply_failsOnly _ _ _) fun start =>
      .foldlM (fun bytes name => apply_failsOnly _ name bytes) _ _

theorem plain_failsOnly (entries : Dict) (body : Bytes) :
    FailsOnly PdfError.IsOfFilter (plain entries body) := by
  unfold plain
  split
  · exact decode_failsOnly _ _
  · exact .ok _

end Filter

/-! ## Cross-reference sections -/

namespace XrefSection

theorem field_failsOnly (width : Nat) (bytes : Bytes) :
    FailsOnly PdfError.IsPlain (field width bytes) := by
  unfold field
  split
  · exact .ok _
  · exact .error trivial

theorem streamEntry_failsOnly (widths : Widths) (bytes : Bytes) :
    FailsOnly PdfError.IsPlain (streamEntry widths bytes) := by
  unfold streamEntry
  split
  all_goals
    refine .bind (by first | exact .ok _ | exact field_failsOnly _ _) fun kind => ?_
    dsimp only
    split
    all_goals first
      | exact .bind (field_failsOnly _ _) fun _ => .bind (field_failsOnly _ _) fun _ => .ok _
      | exact .ok _

theorem streamEntries_failsOnly (widths : Widths) (number : Int) (count : Nat)
    (state : Xref × Bytes) : FailsOnly PdfError.IsPlain (streamEntries widths number count state) := by
  induction count generalizing number state with
  | zero => exact .ok _
  | succ count ih => exact .bind (streamEntry_failsOnly _ _) fun _ => ih _ _

theorem streamSections_failsOnly (widths : Widths) (sections : List Int) (state : Xref × Bytes) :
    FailsOnly PdfError.IsPlain (streamSections widths sections state) := by
  fun_induction streamSections widths sections state with
  | case1 state start count sections ih =>
    exact .bind (streamEntries_failsOnly _ _ _ _) ih
  | case2 => exact .ok _

theorem ofStream_failsOnly (entries : Dict) (body : Bytes) :
    FailsOnly PdfError.IsPlain (ofStream entries body) := by
  unfold ofStream
  cases entries.get? "Filter"
  all_goals
    refine .bind (by first
      | exact .mono (Filter.decode_failsOnly _ _) (fun _ => PdfError.IsOfFilter.isPlain)
      | exact .ok _) fun data => ?_
    split
    · exact .bind (streamSections_failsOnly _ _ _) fun _ => .ok _
    · exact .error trivial

theorem read_failsOnly (bytes : Bytes) : FailsOnly PdfError.IsPlain (read bytes) := by
  unfold read
  split
  · split
    · exact .ok _
    · exact .error trivial
  · split
    · exact .error trivial
    · split
      · exact ofStream_failsOnly _ _
      · exact .error trivial

end XrefSection

/-! ## The layout of a file -/

namespace Layout

theorem sectionAt_failsOnly (bytes : Bytes) (outside : XrefError) (offset : Int) :
    FailsOnly PdfError.IsPlain (sectionAt bytes outside offset) := by
  unfold sectionAt
  split
  · exact XrefSection.read_failsOnly _
  · exact .error trivial

theorem addOlder_failsOnly (bytes : Bytes) (budget : Nat) (entries : Xref)
    (previous beside : Option Object) (seen : List Int) :
    FailsOnly PdfError.IsPlain (addOlder bytes budget entries previous beside seen) := by
  fun_induction addOlder bytes budget entries previous beside seen with
  | case1 => exact .ok _
  | case2 budget entries beside seen previous unseen ih =>
    refine .bind (sectionAt_failsOnly _ _ _) fun older => ?_
    dsimp only
    split
    · exact .bind (sectionAt_failsOnly _ _ _) fun found => ih older _
    · exact ih older _
  | case3 => exact .ok _

/-- Whatever keeps a file from being read, it is not its encryption. -/
theorem read_failsOnly (file : Bytes) : FailsOnly PdfError.IsPlain (read file) := by
  simp only [read]
  split
  · split
    · refine .bind (sectionAt_failsOnly _ _ _) fun newest => ?_
      refine .bind (addOlder_failsOnly _ _ _ _ _ _) fun entries => ?_
      split
      · exact .error trivial
      · exact .ok _
    · exact .error trivial
  · exact .error trivial

end Layout

end PdfText

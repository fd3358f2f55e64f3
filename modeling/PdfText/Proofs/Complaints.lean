import PdfText.Proofs.Defects
import PdfText.Proofs.Reading

/-!
# Where reading a page can fail

A page is found before it is read. So whatever is wrong with it, the complaint is about what it
shows or refers to, and never that there is no such page.

## Main definitions

* `PdfError.IsOfPage` — a complaint about what a page shows or refers to
* `PageText.State.IsOfPage` — what has been shown so far failed for such complaints only

## Main results

* `PageText.ofPage_failsOnly` — reading a page fails with such complaints only
-/

namespace PdfText

open Except (FailsOnly)

/-- A complaint about what a page shows or refers to. -/
def PdfError.IsOfPage : PdfError → Prop
  | .objectNotFound _ | .objectType .. | .dictionaryType | .missingKey _ | .referenceLimit
  | .referenceCycle _ | .unimplemented _ | .ascii85 _ | .io _ | .cmap _ | .characterEncoding
  | .contentSyntax _ | .parse _ => True
  | _ => False

theorem PdfError.IsOfFilter.isOfPage {error : PdfError} (complaint : error.IsOfFilter) :
    error.IsOfPage := by
  cases error <;> trivial

/-- An early end, if not in a defect then with a complaint about what a page shows or refers to. -/
def Halt.IsOfPage : Halt PdfError → Prop
  | .cause error => error.IsOfPage
  | .defect _ => True

/-! ## References -/

namespace Document

variable (document : Document)

theorem follow_failsOnly (objects : Objects) (left : Nat) (object : Object) :
    FailsOnly PdfError.IsOfPage (follow objects left object) := by
  fun_induction follow objects left object with
  | case1 => exact .error trivial
  | case2 => exact .error trivial
  | case3 _ _ _ _ ih => exact ih
  | case4 => exact .ok _

theorem objectAt_failsOnly (id : ObjectId) :
    FailsOnly PdfError.IsOfPage (document.objectAt id) := by
  unfold objectAt
  split
  · exact .error trivial
  · exact follow_failsOnly _ _ _

theorem dictionaryOf_failsOnly (object : Object) :
    FailsOnly PdfError.IsOfPage (dictionaryOf object) := by
  unfold dictionaryOf
  split
  · exact .ok _
  · exact .error trivial

theorem dictionaryAt_failsOnly (id : ObjectId) :
    FailsOnly PdfError.IsOfPage (document.dictionaryAt id) :=
  .bind (objectAt_failsOnly document id) dictionaryOf_failsOnly

theorem streamOf_failsOnly (object : Object) : FailsOnly PdfError.IsOfPage (streamOf object) := by
  unfold streamOf
  split
  · exact .ok _
  · exact .error trivial

theorem resolveAt_failsOnly (entries : Dict) (key : String) :
    FailsOnly PdfError.IsOfPage (document.resolveAt entries key) := by
  unfold resolveAt
  split
  · exact .error trivial
  · exact follow_failsOnly _ _ _

end Document

/-! ## Fonts -/

theorem Page.resourceIds_failsOnly (document : Document) (budget : Nat) (seen : List ObjectId)
    (node : Dict) : FailsOnly PdfError.IsOfPage (resourceIds document budget seen node) := by
  induction budget generalizing seen node with
  | zero => exact .ok _
  | succ budget ih =>
    simp only [resourceIds]
    split
    · exact .ok _
    split
    · exact .error trivial
    · exact .bind (document.dictionaryAt_failsOnly _) fun entries =>
        .bind (ih _ entries) fun _ => .ok _

theorem Page.fonts_failsOnly (document : Document) (page : ObjectId) :
    FailsOnly PdfError.IsOfPage (fonts document page) := by
  unfold fonts
  split
  · exact .ok _
  · exact .bind (resourceIds_failsOnly _ _ _ _) fun _ => .ok _

namespace Encoding

variable (document : Document)

theorem ofStream_failsOnly (entries : Dict) (body : Bytes) :
    FailsOnly PdfError.IsOfPage (ofStream entries body) := by
  refine .bind (.mono (Filter.plain_failsOnly _ _) fun _ => PdfError.IsOfFilter.isOfPage)
    fun data => ?_
  split
  · exact .ok _
  · exact .error trivial

theorem toUnicode_failsOnly (font : Dict) :
    FailsOnly PdfError.IsOfPage (toUnicode document font) :=
  .bind (document.resolveAt_failsOnly _ _) Document.streamOf_failsOnly

theorem ofFont_failsOnly (font : Dict) : FailsOnly PdfError.IsOfPage (ofFont document font) := by
  unfold ofFont
  split
  · exact .error trivial
  split
  · split
    · exact .ok _
    split
    · exact .bind (toUnicode_failsOnly document font) fun _ => ofStream_failsOnly _ _
    · exact .ok _
  · split
    · exact ofStream_failsOnly _ _
    · exact .ok _

/-- A string that is not decoded is in a font whose encoding is unknown. -/
theorem isOfPage_of_decode {encoding : Encoding} (bytes : Bytes) (error : PdfError)
    (failed : encoding.decode bytes = .error (.cause error)) : error.IsOfPage := by
  cases encoding with
  | byTable table => cases failed
  | byCMap cmap => exact absurd failed decode_ne_cause
  | byName name =>
    rw [decode] at failed
    split at failed
    · cases failed
    · cases failed
      trivial

end Encoding

/-! ## Pages -/

namespace PageText

variable {encodings : Encodings} {state next : State} {operation : Operation}

/-- What has been shown so far failed, if at all, for a complaint about what the page shows or refers
to. -/
def State.IsOfPage (state : State) : Prop := ∀ error, state.failure = some error → error.IsOfPage

theorem State.isOfPage_initial : ({} : State).IsOfPage := nofun

theorem State.IsOfPage.fail (fits : state.IsOfPage) {error : PdfError} (complaint : error.IsOfPage) :
    (state.fail error).IsOfPage := by
  intro first kept
  rcases Option.or_eq_some_iff.mp kept with earlier | ⟨-, added⟩
  · exact fits first earlier
  · exact Option.some.inj added ▸ complaint

theorem State.IsOfPage.setFont (fits : state.IsOfPage) (encodings : Encodings) (font : Object) :
    (setFont encodings state font).IsOfPage := by
  cases font <;> first | exact fits | exact fits.fail trivial

theorem State.IsOfPage.endLine (fits : state.IsOfPage) : (endLine state).IsOfPage := by
  unfold PageText.endLine
  split <;> exact fits

theorem run_failsOnly (encodings : Encodings) (state : State) (operation : Operation) :
    FailsOnly Halt.IsOfPage (run encodings state operation) := by
  unfold run
  split
  · split
    · exact .error trivial
    · exact .ok _
  split
  · split
    · exact .ok _
    split
    · exact .error trivial
    · exact .ok _
    · exact .ok _
  split <;> exact .ok _

/-- No operation brings in a failure of another kind. -/
theorem State.IsOfPage.run (fits : state.IsOfPage)
    (done : run encodings state operation = .ok next) : next.IsOfPage := by
  unfold PageText.run at done
  -- A failure comes in with a font, with a string or not at all.
  split at done
  · split at done
    · cases done
    · cases done
      exact fits.setFont encodings _
  split at done
  · split at done
    · cases done
      exact fits
    split at done
    · cases done
    · cases done
      exact fits
    · next error stopped =>
      cases done
      exact State.IsOfPage.fail fits
        (textOfAll_complaint Encoding.isOfPage_of_decode _ _ error stopped)
  split at done
  · cases done
    exact fits.endLine
  · cases done
    exact fits

theorem State.IsOfPage.foldlM_run {operations : List Operation} {last : State}
    (fits : state.IsOfPage) (done : operations.foldlM (PageText.run encodings) state = .ok last) :
    last.IsOfPage := by
  induction operations generalizing state with
  | nil =>
    cases done
    exact fits
  | cons operation rest ih =>
    rw [List.foldlM_cons, Except.bind_eq_ok_iff] at done
    obtain ⟨next, first, later⟩ := done
    exact ih (fits.run first) later

theorem State.IsOfPage.addEncoding {found : Encodings × State} (fits : found.2.IsOfPage)
    (document : Document) (name : Bytes) (font : Dict) :
    (addEncoding document found name font).2.IsOfPage := by
  unfold PageText.addEncoding
  split
  · exact fits
  · next error failed => exact fits.fail (Encoding.ofFont_failsOnly document font error failed)

/-- Fonts that cannot be used leave such complaints only. -/
theorem start_isOfPage (document : Document) (fonts : Page.Fonts) :
    (start document fonts).2.IsOfPage := by
  rw [start, Std.TreeMap.foldl_eq_foldl_toList]
  exact List.foldlRecOn (motive := fun found : Encodings × State => found.2.IsOfPage) _ _
    State.isOfPage_initial fun found fits entry _ => fits.addEncoding document entry.1 entry.2

/-- Whatever keeps a page from being read, it is not that there is no such page. -/
theorem ofPage_failsOnly (document : Document) (page : ObjectId) :
    FailsOnly Halt.IsOfPage (ofPage document page) := by
  unfold ofPage
  refine .bind (.restate (Page.fonts_failsOnly document page) fun _ => id) fun fonts => ?_
  dsimp only
  refine .bind (.mapError fun fault => by cases fault <;> trivial) fun operations => ?_
  refine .bind_of_ok (.foldlM (run_failsOnly _) _ _) fun last done => ?_
  split
  · next error failed => exact .error ((start_isOfPage document fonts).foldlM_run done error failed)
  · exact .ok _

end PageText

end PdfText

import PdfText.PageText
import PdfText.Proofs.Consuming

/-!
# Pages that break down

Reading a page takes two things for granted. An image inside a content stream is taken to name a
colour space, unless it is a mask, and a list of texts in a CMap is taken to have one for each code
on its interval. Where one of them is not so, reading breaks down instead of failing.

Both can be seen from the page itself: from the bytes of its content, which lead up to an image of
that kind, or from its operations, of which one shows a string in a font in force whose CMap runs
out of texts. Nothing else breaks down.

## Main definitions

* `InlineImage.IsSpaceless` — an image that names its sizes but no colour space
* `CMap.lookups` — the codes that are looked up to decode a string, `CMap.RunsOutOn` — the texts for
  one of them run out
* `PageText.BreaksIn` — some operations come to a string on which a CMap runs out
* `PageText.BreaksDown` — why reading a page breaks down

## Main results

* `CMap.decode_eq_error_iff` — when a string is not decoded
* `PageText.ofPage_eq_defect_iff` — when reading a page breaks down
-/

namespace PdfText

/-! ## Images -/

namespace InlineImage

variable {entries : Dict} {budget : Nat} {bytes : Bytes}

/-- The dictionary of an image that is no mask and names its sizes, but no colour space. -/
structure LacksSpace (entries : Dict) : Prop where
  width : ((find? entries "W" "Width").bind Object.integer?).isSome
  height : ((find? entries "H" "Height").bind Object.integer?).isSome
  bits : ((find? entries "BPC" "BitsPerComponent").bind Object.integer?).isSome
  noMask : (find? entries "IM" "ImageMask").bind Object.boolean? ≠ some true
  noSpace : find? entries "CS" "ColorSpace" = none

theorem integerAt_eq_ok_iff {short full : String} {value : Int} :
    integerAt entries short full = .ok value ↔
      (find? entries short full).bind Object.integer? = some value := by
  rw [integerAt]
  cases (find? entries short full).bind Object.integer? <;> simp

theorem integerAt_ne_noColorSpace (short full : String) :
    integerAt entries short full ≠ .error .noColorSpace := by
  rw [integerAt]
  cases (find? entries short full).bind Object.integer? <;> simp

theorem componentsOf_eq_error_iff : componentsOf entries = .error .noColorSpace ↔
    (find? entries "IM" "ImageMask").bind Object.boolean? ≠ some true ∧
      find? entries "CS" "ColorSpace" = none := by
  rw [componentsOf]
  have mask : ((find? entries "IM" "ImageMask").bind Object.boolean?).getD false = true ↔
      (find? entries "IM" "ImageMask").bind Object.boolean? = some true := by
    cases (find? entries "IM" "ImageMask").bind Object.boolean? <;> simp
  split
  · next masked => simp [mask.mp masked]
  · next unmasked =>
    rw [mask] at unmasked
    split
    · next absent => simp [unmasked, absent]
    · next found =>
      rw [found]
      split <;> simp

/-- The sizes of an image are asked for before its colour space. -/
theorem dataLength_eq_error_iff : dataLength entries = .error .noColorSpace ↔ LacksSpace entries := by
  constructor
  · -- None of the steps before fails in this way.
    intro failed
    rw [dataLength] at failed
    obtain failed | ⟨width, hasWidth, failed⟩ := Except.bind_eq_error_iff.mp failed
    · exact absurd failed (integerAt_ne_noColorSpace _ _)
    obtain failed | ⟨height, hasHeight, failed⟩ := Except.bind_eq_error_iff.mp failed
    · exact absurd failed (integerAt_ne_noColorSpace _ _)
    obtain failed | ⟨bits, hasBits, failed⟩ := Except.bind_eq_error_iff.mp failed
    · exact absurd failed (integerAt_ne_noColorSpace _ _)
    obtain failed | ⟨components, -, failed⟩ := Except.bind_eq_error_iff.mp failed
    · obtain ⟨noMask, noSpace⟩ := componentsOf_eq_error_iff.mp failed
      exact ⟨by rw [integerAt_eq_ok_iff.mp hasWidth]; rfl, by rw [integerAt_eq_ok_iff.mp hasHeight]; rfl,
        by rw [integerAt_eq_ok_iff.mp hasBits]; rfl, noMask, noSpace⟩
    · split at failed <;> cases failed
  · rintro ⟨width, height, bits, noMask, noSpace⟩
    obtain ⟨width, hasWidth⟩ := Option.isSome_iff_exists.mp width
    obtain ⟨height, hasHeight⟩ := Option.isSome_iff_exists.mp height
    obtain ⟨bits, hasBits⟩ := Option.isSome_iff_exists.mp bits
    rw [dataLength, integerAt_eq_ok_iff.mpr hasWidth, Except.ok_bind,
      integerAt_eq_ok_iff.mpr hasHeight, Except.ok_bind, integerAt_eq_ok_iff.mpr hasBits,
      Except.ok_bind, componentsOf_eq_error_iff.mpr ⟨noMask, noSpace⟩, Except.error_bind]

/-- The bytes after the first word of an image that names its sizes but no colour space. -/
def IsSpaceless (budget : Nat) (bytes : Bytes) : Prop :=
  ∃ entries data, opening budget bytes = some (entries, data) ∧ LacksSpace entries

theorem skip_eq_error_iff : skip budget bytes = .error .noColorSpace ↔ IsSpaceless budget bytes := by
  rw [skip, IsSpaceless]
  split
  · next unread => simp [unread]
  · next entries data opened =>
    rw [opened, Except.bind_eq_error_iff]
    constructor
    · rintro (failed | ⟨length, -, failed⟩)
      · exact ⟨entries, data, rfl, dataLength_eq_error_iff.mp failed⟩
      · split at failed <;> cases failed
    · rintro ⟨_, _, ⟨⟩, lacks⟩
      exact .inl (dataLength_eq_error_iff.mpr lacks)

end InlineImage

/-- A content stream leads up to an image that names its sizes but no colour space. -/
def Content.HoldsSpaceless (data : Bytes) : Prop :=
  Operation.ReachesImage (data.length + 1) (InlineImage.IsSpaceless (data.length + 1))
    (data.dropWhile Content.isSpace)

theorem Operation.readAll_eq_defect_iff {data : Bytes} {reason : Defect} :
    (readAll data).mapError InlineImage.Fault.halt = .error (.defect reason) ↔
      reason = .inlineImageColorSpace ∧ Content.HoldsSpaceless data := by
  have kinds : (fun inner => InlineImage.skip (data.length + 1) inner = .error .noColorSpace) =
      InlineImage.IsSpaceless (data.length + 1) :=
    funext fun inner => propext InlineImage.skip_eq_error_iff
  rw [Content.HoldsSpaceless, ← kinds, ← readAll_eq_error_iff, Except.mapError_eq_error_iff]
  constructor
  · rintro ⟨fault, failed, halted⟩
    cases fault <;> cases halted
    exact ⟨rfl, failed⟩
  · rintro ⟨rfl, failed⟩
    exact ⟨.noColorSpace, failed, rfl⟩

/-! ## CMaps -/

namespace CMap

variable {cmap : CMap} {defect : Defect}

/-- The interval that a code of some length lies on. -/
def interval? (cmap : CMap) (lookup : Nat × Nat) : Option (Interval Value) :=
  IntervalMap.find? lookup.2 (cmap.maps.getD (lookup.1 - 1) [])

/-- The list of texts on the interval of a code ends before the code. -/
def RunsOut (cmap : CMap) (lookup : Nat × Nat) : Prop :=
  ∃ interval texts, cmap.interval? lookup = some interval ∧ interval.value = .listed texts ∧
    texts.length ≤ lookup.2 - interval.first

theorem unitsOn_eq_error_iff {interval : Interval Value} {code : Nat} :
    unitsOn interval code = .error defect ↔ defect = .rangeTargets ∧
      ∃ texts, interval.value = .listed texts ∧ texts.length ≤ code - interval.first := by
  rw [unitsOn]
  split
  · next shifted => simp [shifted]
  · next counted => simp [counted]
  · next texts listed =>
    have short : texts[code - interval.first]? = none ↔ texts.length ≤ code - interval.first :=
      List.getElem?_eq_none_iff
    cases found : texts[code - interval.first]? <;> simp_all [eq_comm]

theorem units?_eq (cmap : CMap) (lookup : Nat × Nat) : cmap.units? lookup.1 lookup.2 =
    match cmap.interval? lookup with
    | none => .ok none
    | some interval => (unitsOn interval lookup.2).map some := rfl

theorem units?_eq_error_iff {lookup : Nat × Nat} : cmap.units? lookup.1 lookup.2 = .error defect ↔
    defect = .rangeTargets ∧ cmap.RunsOut lookup := by
  rw [units?_eq, RunsOut]
  cases cmap.interval? lookup with
  | none => simp
  | some interval =>
    have same : (unitsOn interval lookup.2).map some = .error defect ↔
        unitsOn interval lookup.2 = .error defect := by
      cases unitsOn interval lookup.2 <;> simp [Except.map]
    simp [same, unitsOn_eq_error_iff]

/-- A code has a text where it lies on an interval. -/
theorem isSome_of_units? {lookup : Nat × Nat} {found : Option (List Nat)}
    (read : cmap.units? lookup.1 lookup.2 = .ok found) :
    (cmap.interval? lookup).isSome = found.isSome := by
  rw [units?_eq] at read
  cases held : cmap.interval? lookup with
  | none =>
    rw [held] at read
    cases read
    rfl
  | some interval =>
    simp only [held] at read
    cases units : unitsOn interval lookup.2 with
    | error reason => simp [units, Except.map] at read
    | ok found =>
      obtain rfl := by simpa [units, Except.map] using read
      rfl

/-- The code begun, with its length, after one more byte. -/
def nextCode (length code : Nat) (b : UInt8) : Nat × Nat :=
  if length = 4 then (1, b.toNat) else (length + 1, 256 * code + b.toNat)

/-- The codes that are looked up one after the other to decode a string, each with its length, given
the code begun. -/
def lookups (cmap : CMap) (length code : Nat) : Bytes → List (Nat × Nat)
  | [] => []
  | b :: rest =>
    let next := nextCode length code b
    next :: if (cmap.interval? next).isSome then cmap.lookups 0 0 rest
      else cmap.lookups next.1 next.2 rest

/-- To decode a string, a code is looked up for which the texts run out. -/
def RunsOutOn (cmap : CMap) (bytes : Bytes) : Prop :=
  ∃ lookup ∈ cmap.lookups 0 0 bytes, cmap.RunsOut lookup

/-- A code is looked up, and then it is begun anew or gone on with. -/
theorem unitsOfString_cons (units : List Nat) (length code : Nat) (b : UInt8) (rest : Bytes) :
    ∃ sofar, cmap.unitsOfString units length code (b :: rest) =
      cmap.units? (nextCode length code b).1 (nextCode length code b).2 >>= fun found =>
        found.elim (cmap.unitsOfString sofar (nextCode length code b).1 (nextCode length code b).2 rest)
          fun units => cmap.unitsOfString (units.reverse ++ sofar) 0 0 rest := by
  by_cases full : length = 4
  · refine ⟨replacementUnit :: units, ?_⟩
    simp only [unitsOfString, nextCode, full, if_true]
    exact bind_congr fun found => by cases found <;> rfl
  · refine ⟨units, ?_⟩
    simp only [unitsOfString, nextCode, full, if_false]
    exact bind_congr fun found => by cases found <;> rfl

theorem unitsOfString_eq_error_iff {units : List Nat} {length code : Nat} {bytes : Bytes} :
    cmap.unitsOfString units length code bytes = .error defect ↔
      defect = .rangeTargets ∧ ∃ lookup ∈ cmap.lookups length code bytes, cmap.RunsOut lookup := by
  induction bytes generalizing units length code with
  | nil => simp [unitsOfString, lookups]
  | cons b rest ih =>
    -- The units so far do not matter, only the code that is looked up next.
    obtain ⟨sofar, step⟩ := cmap.unitsOfString_cons units length code b rest
    rw [step, lookups]
    generalize nextCode length code b = next
    cases read : cmap.units? next.1 next.2 with
    | error reason =>
      obtain ⟨rfl, out⟩ := units?_eq_error_iff.mp read
      rw [Except.error_bind]
      constructor
      · rintro ⟨⟩
        exact ⟨rfl, next, List.mem_cons_self, out⟩
      · rintro ⟨rfl, -⟩
        rfl
    | ok found =>
      -- The texts do not run out here, so if they do it is later on.
      have enough : ¬ cmap.RunsOut next := fun out => by
        simp [units?_eq_error_iff.mpr ⟨rfl, out⟩] at read
      rw [Except.ok_bind, isSome_of_units? read]
      simp only [List.mem_cons, exists_eq_or_imp, enough, false_or]
      cases found with
      | none => exact ih
      | some found => exact ih

/-- Decoding a string breaks down where texts run out. -/
theorem decode_eq_error_iff {bytes : Bytes} : cmap.decode bytes = .error defect ↔
    defect = .rangeTargets ∧ cmap.RunsOutOn bytes := by
  have outcome := @unitsOfString_eq_error_iff cmap defect [] 0 0 bytes
  rw [RunsOutOn, ← outcome, decode]
  cases cmap.unitsOfString [] 0 0 bytes <;> simp [Except.map]

/-- Two texts are not enough for five codes, but the first two codes can be decoded. -/
example :
    let cmap : CMap := ⟨[[⟨0x41, 0x45, .listed [[0x78], [0x79]]⟩]]⟩
    cmap.decode [0x41, 0x42] = .ok ['x', 'y'] ∧
      cmap.decode [0x41, 0x43] = .error .rangeTargets := by
  decide +kernel

end CMap

/-! ## Strings that are shown -/

mutual

/-- The strings in an object, those in lists included. -/
def Object.strings : Object → List Bytes
  | .string bytes => [bytes]
  | .array items => stringsOfAll items
  | _ => []

/-- The strings in some objects. -/
def Object.stringsOfAll : List Object → List Bytes
  | [] => []
  | object :: rest => object.strings ++ stringsOfAll rest

end

/-- A string is in a font whose CMap runs out of texts on it. -/
def Encoding.RunsOutOn (encoding : Encoding) (bytes : Bytes) : Prop :=
  ∃ cmap, encoding = .byCMap cmap ∧ cmap.RunsOutOn bytes

theorem Encoding.decode_eq_defect_iff {encoding : Encoding} {bytes : Bytes} {reason : Defect} :
    encoding.decode bytes = .error (.defect reason) ↔
      reason = .rangeTargets ∧ encoding.RunsOutOn bytes := by
  rw [Encoding.RunsOutOn]
  cases encoding with
  | byTable table => simp [decode]
  | byCMap cmap => simp [decode, Except.mapError_eq_error_iff, CMap.decode_eq_error_iff]
  | byName name =>
    rw [decode]
    split <;> simp

/-- With a CMap, a string is decoded unless the texts run out. -/
theorem Encoding.decode_ne_cause {cmap : CMap} {bytes : Bytes} {error : PdfError} :
    (Encoding.byCMap cmap).decode bytes ≠ .error (.cause error) := by
  simp [decode, Except.mapError_eq_error_iff]

namespace PageText

variable {encoding : Encoding} {cmap : CMap} {reason : Defect}

theorem textOfAll_cons (encoding : Encoding) (object : Object) (rest : List Object) :
    textOfAll encoding (object :: rest) = textOf encoding object >>= fun found =>
      match found.2 with
      | some error => .ok (found.1, some error)
      | none => (textOfAll encoding rest).map fun others => (found.1 ++ others.1, others.2) := by
  rw [textOfAll]
  refine bind_congr fun found => ?_
  obtain ⟨text, error⟩ := found
  cases error with
  | some error => rfl
  | none => cases textOfAll encoding rest <;> rfl

mutual

/-- What stops before the rest of an object is what keeps a string from being decoded. -/
theorem textOf_complaint {allowed : PdfError → Prop}
    (decoded : ∀ bytes error, encoding.decode bytes = .error (.cause error) → allowed error)
    (object : Object) (text : List Char) (error : PdfError)
    (shown : textOf encoding object = .ok (text, some error)) : allowed error := by
  cases object with
  | string bytes =>
    rw [textOf] at shown
    split at shown
    · cases shown
    · next failed =>
      cases shown
      exact decoded bytes error failed
    · cases shown
  | array items =>
    rw [textOf] at shown
    split at shown
    · cases shown
    · exact textOfAll_complaint decoded items text error shown
  | _ => simp [textOf] at shown

theorem textOfAll_complaint {allowed : PdfError → Prop}
    (decoded : ∀ bytes error, encoding.decode bytes = .error (.cause error) → allowed error)
    (objects : List Object) (text : List Char) (error : PdfError)
    (shown : textOfAll encoding objects = .ok (text, some error)) : allowed error := by
  cases objects with
  | nil => simp [textOfAll] at shown
  | cons object rest =>
    rw [textOfAll_cons, Except.bind_eq_ok_iff] at shown
    obtain ⟨⟨begun, failed⟩, first, shown⟩ := shown
    cases failed with
    | some failed =>
      cases shown
      exact textOf_complaint decoded object begun error first
    | none =>
      cases later : textOfAll encoding rest with
      | error reason => simp [later, Except.map] at shown
      | ok others =>
        obtain ⟨-, stopped⟩ : _ ∧ others.2 = some error := by simpa [later, Except.map] using shown
        exact textOfAll_complaint decoded rest others.1 error (later.trans (by rw [← stopped]))

end

/-- With a CMap, nothing stops at a string before others. -/
theorem textOf_byCMap (object : Object) (text : List Char) (error : PdfError) :
    textOf (.byCMap cmap) object ≠ .ok (text, some error) :=
  @textOf_complaint _ (fun _ => False) (fun _ _ => Encoding.decode_ne_cause) object text error

mutual

/-- An object is shown unless the texts run out on a string in it. -/
theorem textOf_eq_error_iff (object : Object) (reason : Defect) :
    textOf encoding object = .error reason ↔
      reason = .rangeTargets ∧ ∃ bytes ∈ object.strings, encoding.RunsOutOn bytes := by
  cases object with
  | string bytes =>
    rw [Object.strings, textOf]
    have decoded := @Encoding.decode_eq_defect_iff encoding bytes
    split
    · next text read => simpa [read] using @decoded reason
    · next error read => simpa [read] using @decoded reason
    · next found read => simpa [read, eq_comm] using @decoded reason
  | array items =>
    rw [Object.strings, ← textOfAll_eq_error_iff items reason, textOf]
    split
    · next text read => simp [read]
    · rfl
  | _ => simp [textOf, Object.strings]

theorem textOfAll_eq_error_iff (objects : List Object) (reason : Defect) :
    textOfAll encoding objects = .error reason ↔
      reason = .rangeTargets ∧ ∃ bytes ∈ Object.stringsOfAll objects, encoding.RunsOutOn bytes := by
  cases objects with
  | nil => simp [textOfAll, Object.stringsOfAll]
  | cons object rest =>
    have first := textOf_eq_error_iff object
    have later := textOfAll_eq_error_iff rest reason
    simp only [textOfAll_cons, Object.stringsOfAll, List.mem_append, or_and_right, exists_or]
    cases read : textOf encoding object with
    | error found =>
      obtain ⟨rfl, out⟩ := (first found).mp read
      simp [out, eq_comm]
    | ok found =>
      obtain ⟨text, failed⟩ := found
      have passed : ¬ ∃ bytes ∈ object.strings, encoding.RunsOutOn bytes := fun out => by
        simp [(first .rangeTargets).mpr ⟨rfl, out⟩] at read
      cases failed with
      | none =>
        rw [or_iff_right passed, ← later, Except.ok_bind]
        cases textOfAll encoding rest <;> simp [Except.map]
      | some failed =>
        -- An error stops before the other objects, but with a CMap there is none.
        have tabled : ¬ ∃ bytes ∈ Object.stringsOfAll rest, encoding.RunsOutOn bytes := by
          rintro ⟨bytes, -, cmap, rfl, -⟩
          exact textOf_byCMap object text failed read
        simp [passed, tabled]

end

/-! ## Operations -/

/-- The encoding in force after an operation. -/
def encodingAfter (encodings : Encodings) (current : Option Encoding) (operation : Operation) :
    Option Encoding :=
  if operation.operator == ascii "Tf" then
    match operation.operands with
    | [] => current
    | .name name :: _ => encodings[name]?
    | _ :: _ => none
  else current

/-- An operation that selects a font without naming it. -/
def IsBareSelection (operation : Operation) : Prop :=
  operation.operator == ascii "Tf" ∧ operation.operands = []

/-- An operation shows a string on which the encoding in force runs out of texts. -/
def RunsOutAt (current : Option Encoding) (operation : Operation) : Prop :=
  showsStrings operation ∧ ∃ encoding, current = some encoding ∧
    ∃ bytes ∈ Object.stringsOfAll operation.operands, encoding.RunsOutOn bytes

variable {encodings : Encodings} {state : State} {operation : Operation}

theorem not_runsOutAt_of_selects {current : Option Encoding}
    (selects : operation.operator == ascii "Tf") : ¬ RunsOutAt current operation := by
  rintro ⟨shows, -⟩
  rw [showsStrings, eq_of_beq selects] at shows
  revert shows
  decide

theorem endLine_encoding (state : State) : (endLine state).encoding = state.encoding := by
  unfold endLine
  split <;> rfl

theorem setFont_encoding (encodings : Encodings) (state : State) (font : Object) :
    (setFont encodings state font).encoding =
      match font with
      | .name name => encodings[name]?
      | _ => none := by
  cases font <;> rfl

/-- An operation fails as a selection of no font, breaks down where texts run out, or leads to a state
with the encoding that is in force after it. -/
theorem run_cases (encodings : Encodings) (state : State) (operation : Operation) :
    (IsBareSelection operation ∧ ∃ error, run encodings state operation = .error (.cause error)) ∨
    (RunsOutAt state.encoding operation ∧
      run encodings state operation = .error (.defect .rangeTargets)) ∨
    (¬ IsBareSelection operation ∧ ¬ RunsOutAt state.encoding operation ∧
      ∃ next, run encodings state operation = .ok next ∧
        next.encoding = encodingAfter encodings state.encoding operation) := by
  by_cases selects : operation.operator == ascii "Tf"
  -- A font is selected, if one is named: the encoding is that of the font from now on.
  · simp only [run, encodingAfter, selects, if_true]
    cases operands : operation.operands with
    | nil => exact .inl ⟨⟨selects, operands⟩, _, rfl⟩
    | cons font others =>
      refine .inr (.inr ⟨fun bare => ?_, not_runsOutAt_of_selects selects, _, rfl, ?_⟩)
      · cases operands.symm.trans bare.2
      · rw [setFont_encoding]
        cases font <;> rfl
  have named : ¬ IsBareSelection operation := fun bare => selects bare.1
  by_cases shows : showsStrings operation
  -- Strings are shown in the encoding that is in force, which stays as it is.
  · simp only [run, encodingAfter, selects, shows, if_true]
    cases inForce : state.encoding with
    | none =>
      refine .inr (.inr ⟨named, ?_, _, rfl, inForce⟩)
      rintro ⟨-, encoding, ⟨⟩, -⟩
    | some encoding =>
      have out : RunsOutAt (some encoding) operation ↔
          ∃ bytes ∈ Object.stringsOfAll operation.operands, encoding.RunsOutOn bytes := by
        simp [RunsOutAt, shows]
      have outcome := @textOfAll_eq_error_iff encoding operation.operands
      dsimp only
      cases shown : textOfAll encoding operation.operands with
      | error reason =>
        obtain ⟨rfl, held⟩ := (outcome reason).mp shown
        exact .inr (.inl ⟨out.mpr held, rfl⟩)
      | ok found =>
        have passed : ¬ RunsOutAt (some encoding) operation := fun held => by
          rw [(outcome .rangeTargets).mpr ⟨rfl, out.mp held⟩] at shown
          cases shown
        obtain ⟨text, error⟩ := found
        cases error <;> exact .inr (.inr ⟨named, passed, _, rfl, inForce⟩)
  · have passed : ¬ RunsOutAt state.encoding operation := fun held => shows held.1
    simp only [run, encodingAfter, selects, shows]
    by_cases ends : operation.operator == ascii "ET"
    · refine .inr (.inr ⟨named, passed, _, by simp only [ends, if_true]; rfl, endLine_encoding state⟩)
    · exact .inr (.inr ⟨named, passed, state, by simp only [ends]; rfl, rfl⟩)

/-- Some operations come to one that shows a string on which texts run out, before any selects no
font. -/
def BreaksIn (encodings : Encodings) (current : Option Encoding) (operations : List Operation) :
    Prop :=
  ∃ before operation after, operations = before ++ operation :: after ∧
    (∀ earlier ∈ before, ¬ IsBareSelection earlier) ∧
    RunsOutAt (before.foldl (encodingAfter encodings) current) operation

theorem breaksIn_cons {current : Option Encoding} {rest : List Operation} :
    BreaksIn encodings current (operation :: rest) ↔ RunsOutAt current operation ∨
      ¬ IsBareSelection operation ∧
        BreaksIn encodings (encodingAfter encodings current operation) rest := by
  constructor
  · rintro ⟨before, shown, after, parts, named, out⟩
    cases before with
    | nil =>
      obtain ⟨rfl, rfl⟩ := List.cons.inj parts
      exact .inl out
    | cons first before =>
      obtain ⟨rfl, rfl⟩ := List.cons.inj parts
      obtain ⟨first_, named⟩ := List.forall_mem_cons.mp named
      exact .inr ⟨first_, before, shown, after, rfl, named, out⟩
  · rintro (out | ⟨named, before, shown, after, rfl, others, out⟩)
    · exact ⟨[], operation, rest, rfl, nofun, out⟩
    · exact ⟨operation :: before, shown, after, rfl, List.forall_mem_cons.mpr ⟨named, others⟩, out⟩

/-- Running operations breaks down where texts run out. -/
theorem foldlM_run_eq_defect_iff (operations : List Operation) (state : State) :
    operations.foldlM (run encodings) state = .error (.defect reason) ↔
      reason = .rangeTargets ∧ BreaksIn encodings state.encoding operations := by
  induction operations generalizing state with
  | nil =>
    refine ⟨nofun, ?_⟩
    rintro ⟨-, before, shown, after, parts, -⟩
    simp at parts
  | cons operation rest ih =>
    rw [List.foldlM_cons, breaksIn_cons]
    rcases run_cases encodings state operation with
      ⟨bare, error, failed⟩ | ⟨out, failed⟩ | ⟨named, passed, next, done, kept⟩
    · simp [failed, bare, not_runsOutAt_of_selects bare.1]
    · simp [failed, out, eq_comm]
    · simp [done, ih, named, passed, kept]

/-! ## Pages -/

theorem addEncoding_encoding (document : Document) (found : Encodings × State) (name : Bytes)
    (font : Dict) : (addEncoding document found name font).2.encoding = found.2.encoding := by
  unfold addEncoding
  split <;> rfl

theorem foldl_addEncoding_encoding (document : Document) (listed : List (Bytes × Dict))
    (found : Encodings × State) :
    (listed.foldl (fun found entry => addEncoding document found entry.1 entry.2)
      found).2.encoding = found.2.encoding := by
  induction listed generalizing found with
  | nil => rfl
  | cons entry listed ih =>
    rw [List.foldl_cons, ih, addEncoding_encoding]

/-- Fonts that cannot be used leave no encoding in force. -/
theorem start_encoding (document : Document) (fonts : Page.Fonts) :
    (start document fonts).2.encoding = none := by
  rw [start, Std.TreeMap.foldl_eq_foldl_toList, foldl_addEncoding_encoding]

/-- Why reading a page breaks down. -/
inductive BreaksDown (document : Document) (page : ObjectId) : Defect → Prop
  /-- Its content leads up to an image that names its sizes but no colour space. -/
  | image {fonts : Page.Fonts} (listed : Page.fonts document page = .ok fonts)
    (held : Content.HoldsSpaceless (Page.content document page)) :
    BreaksDown document page .inlineImageColorSpace
  /-- One of its operations shows a string on which texts run out. -/
  | string {fonts : Page.Fonts} {operations : List Operation}
    (listed : Page.fonts document page = .ok fonts)
    (read : Operation.readAll (Page.content document page) = .ok operations)
    (shown : BreaksIn (start document fonts).1 none operations) :
    BreaksDown document page .rangeTargets

/-- Reading a page breaks down for one of two reasons, and for no other. -/
theorem ofPage_eq_defect_iff {document : Document} {page : ObjectId} :
    ofPage document page = .error (.defect reason) ↔ BreaksDown document page reason := by
  rw [ofPage]
  cases listed : Page.fonts document page with
  | error error =>
    refine ⟨nofun, fun broken => ?_⟩
    cases broken <;> simp_all
  | ok fonts =>
    -- Reading the operations breaks down at an image only, and running them at a string only.
    have image (reason : Defect) :=
      @Operation.readAll_eq_defect_iff (Page.content document page) reason
    have none_ := start_encoding document fonts
    rw [Except.mapError_ok, Except.ok_bind]
    rcases prepared : start document fonts with ⟨encodings, first⟩
    rw [prepared] at none_
    dsimp only
    cases read : Operation.readAll (Page.content document page) with
    | error fault =>
      rw [read] at image
      have halted : fault.halt = .defect reason ↔ reason = .inlineImageColorSpace ∧
          Content.HoldsSpaceless (Page.content document page) := by simpa using image reason
      rw [Except.mapError_error, Except.error_bind, Except.error.injEq, halted]
      constructor
      · rintro ⟨rfl, held⟩
        exact .image listed held
      · rintro (⟨-, held⟩ | ⟨-, read', -⟩)
        · exact ⟨rfl, held⟩
        · simp_all
    | ok operations =>
      rw [read] at image
      rw [Except.mapError_ok, Except.ok_bind, Except.bind_eq_error_iff, foldlM_run_eq_defect_iff,
        none_]
      constructor
      · rintro (⟨rfl, shown⟩ | ⟨state, -, ended⟩)
        · exact .string listed read (by rwa [prepared])
        · split at ended <;> cases ended
      · rintro (⟨-, held⟩ | ⟨listed', read', shown⟩)
        · cases (image _).mpr ⟨rfl, held⟩
        · obtain rfl : fonts = _ := Except.ok.inj (listed.symm.trans listed')
          obtain rfl : operations = _ := Except.ok.inj (read.symm.trans read')
          rw [prepared] at shown
          exact .inl ⟨rfl, shown⟩

end PageText

end PdfText

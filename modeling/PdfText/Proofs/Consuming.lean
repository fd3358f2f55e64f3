import Mathlib.Data.List.Infix
import PdfText.Content
import PdfText.Proofs.Outcome
import PdfText.Proofs.Rules

/-!
# What rules take

A rule never leaves more bytes than there were, whatever parts it is put together from. An operation
of a content stream takes at least one byte, and so does an image that is passed over. So a budget
of the number of bytes is enough to read a content stream, and one is refused only for an image that
reading comes to.

## Main definitions

* `Rule.Takes` — a rule that takes at least a given number of bytes
* `Operation.ReachesImage` — reading a content stream comes to an image of some kind

## Main results

* `Operation.readAll_eq_error_iff` — a content stream is refused for an image that is reached
-/

namespace PdfText

/-! ## Parts of rules -/

namespace Rule

variable {α β : Type} {least : Nat} {rule other : Rule α} {next : α → Rule β}

/-- A rule that takes at least a given number of bytes where it applies. -/
def Takes (least : Nat) (rule : Rule α) : Prop :=
  ∀ bytes value rest, rule bytes = some (value, rest) → rest.length + least ≤ bytes.length

namespace Takes

theorem pure (value : α) : Takes 0 (Pure.pure value : Rule α) := by
  intro bytes value' rest read
  cases read
  exact Nat.le_refl _

theorem failure : Takes least (Alternative.failure : Rule α) := by
  intro bytes value rest read
  cases read

theorem le {fewer : Nat} (takes : Takes least rule) (few : fewer ≤ least) : Takes fewer rule := by
  intro bytes value rest read
  have := takes bytes value rest read
  omega

theorem bind (first : Takes 0 rule) (later : ∀ value, Takes least (next value)) :
    Takes least (rule >>= next) := by
  intro bytes value rest read
  obtain ⟨⟨between, left⟩, read, read'⟩ := Option.bind_eq_some_iff.mp read
  have := first bytes between left read
  have := later between left value rest read'
  omega

/-- What a rule takes first is enough. -/
theorem bind_first (first : Takes least rule) (later : ∀ value, Takes 0 (next value)) :
    Takes least (rule >>= next) := by
  intro bytes value rest read
  obtain ⟨⟨between, left⟩, read, read'⟩ := Option.bind_eq_some_iff.mp read
  have := first bytes between left read
  have := later between left value rest read'
  omega

theorem map (change : α → β) (takes : Takes least rule) : Takes least (change <$> rule) := by
  intro bytes value rest read
  rw [map_apply, Option.map_eq_some_iff] at read
  obtain ⟨found, read, same⟩ := read
  cases same
  exact takes bytes found.1 found.2 read

theorem orElse (first : Takes least rule) (second : Takes least other) :
    Takes least (rule <|> other) := by
  intro bytes value rest read
  rw [orElse_apply, Option.or_eq_some_iff] at read
  rcases read with read | ⟨-, read⟩
  · exact first bytes value rest read
  · exact second bytes value rest read

theorem seqLeft {after : Rule β} (first : Takes 0 rule) (second : Takes 0 after) :
    Takes 0 (rule <* after) := by
  intro bytes value rest read
  rw [seqLeft_apply] at read
  obtain ⟨found, inner, later⟩ := Option.bind_eq_some_iff.mp read
  obtain ⟨ended, last, same⟩ := Option.map_eq_some_iff.mp later
  cases same
  have := first bytes found.1 found.2 inner
  have := second found.2 ended.1 ended.2 last
  omega

theorem literal (word : String) : Takes (ascii word).length (Rule.literal word) := by
  intro bytes value rest read
  obtain ⟨left, found, same⟩ := Option.map_eq_some_iff.mp read
  cases same
  rw [← List.append_eq_of_isPrefixOf?_eq_some found, List.length_append]
  omega

variable (accept : UInt8 → Bool)

theorem span_eq (bytes : Bytes) :
    (bytes.span accept).1.length + (bytes.span accept).2.length = bytes.length := by
  rw [List.span_eq_takeWhile_dropWhile, ← List.length_append, List.takeWhile_append_dropWhile]

theorem run : Takes 0 (Rule.run accept) := by
  intro bytes value rest read
  have whole := span_eq accept bytes
  rw [Option.some.inj read] at whole
  dsimp only at whole
  omega

theorem run1 : Takes 1 (Rule.run1 accept) := by
  intro bytes value rest read
  have whole := span_eq accept bytes
  rw [Rule.run1] at read
  split at read
  · cases read
  · next taken left some_ spanned =>
    cases read
    have := List.length_pos_iff.mpr some_
    rw [spanned] at whole
    dsimp only at whole
    omega

theorem byte : Takes 1 (Rule.byte accept) := by
  intro bytes value rest read
  cases bytes with
  | nil => cases read
  | cons b bytes =>
    rw [Rule.byte] at read
    split at read <;> cases read
    exact Nat.le_refl _

theorem take (count : Nat) : Takes 0 (Rule.take count) := by
  intro bytes value rest read
  rw [Rule.take, List.splitAt_eq] at read
  split at read <;> cases read
  rw [List.length_drop]
  omega

theorem opt (takes : Takes 0 rule) : Takes 0 (Rule.opt rule) := by
  intro bytes value rest read
  rw [Rule.opt] at read
  split at read
  · cases read
    exact Nat.le_refl _
  · next found rest' inner =>
    cases read
    exact takes bytes found rest inner

theorem verify {test : α → Option β} (takes : Takes least rule) :
    Takes least (rule.verify test) := by
  intro bytes value rest read
  rw [Rule.verify] at read
  split at read
  · cases read
  · next found left inner =>
    obtain ⟨tested, -, same⟩ := Option.map_eq_some_iff.mp read
    cases same
    exact takes bytes found rest inner

theorem manyAfter (takes : Takes 0 rule) (budget : Nat) (values : List α) :
    Takes 0 (Rule.manyAfter rule budget values) := by
  induction budget generalizing values with
  | zero => exact pure values.reverse
  | succ budget ih =>
    intro bytes value rest read
    simp only [Rule.manyAfter] at read
    split at read
    · cases read
      exact Nat.le_refl _
    · next found left inner =>
      have := takes bytes found left inner
      have := ih (found :: values) left value rest read
      omega

theorem many (takes : Takes 0 rule) (budget : Nat) : Takes 0 (Rule.many rule budget) :=
  takes.manyAfter budget []

end Takes

end Rule

open Rule

/-! ## Objects -/

namespace Token

theorem takes_word (word : String) : Takes 0 (Rule.literal word) := (Takes.literal word).le (Nat.zero_le _)

theorem takes_lineEnd : Takes 0 lineEnd := by
  intro bytes value rest read
  unfold lineEnd at read
  split at read <;> cases read <;> simp only [List.length_cons] <;> omega

theorem takes_comment : Takes 0 comment :=
  .bind (takes_word _) fun _ => .bind (.run _) fun _ => takes_lineEnd

theorem length_skipGap_le (isSpace : UInt8 → Bool) (resume : Option Bytes) (bytes : Bytes) :
    (skipGap isSpace resume bytes).length ≤ max bytes.length (resume.getD []).length := by
  fun_induction skipGap isSpace resume bytes <;> simp_all <;> omega

theorem takes_blank : Takes 0 blank := by
  intro bytes value rest read
  cases read
  simpa using length_skipGap_le isBlank none bytes

theorem takes_unsigned (bound : Nat) : Takes 0 (unsigned bound) :=
  ((Takes.run1 _).le (Nat.zero_le 1)).verify

theorem takes_sign : Takes 0 sign :=
  .bind (.opt ((Takes.byte _).le (Nat.zero_le 1))) fun _ => .pure _

theorem takes_integer : Takes 0 integer :=
  .bind takes_sign fun _ => ((Takes.run1 _).le (Nat.zero_le 1)).verify

theorem takes_real : Takes 0 real := by
  refine .bind takes_sign fun _ => .bind (.run _) fun _ => .bind (takes_word _) fun _ =>
    .bind (.run _) fun _ => ?_
  split
  · exact .bind .failure fun _ => .pure _
  · exact .pure _

theorem length_nameLetters_le (letters bytes : Bytes) :
    (nameLetters letters bytes).2.length ≤ bytes.length := by
  fun_induction nameLetters letters bytes <;> simp_all <;> omega

theorem takes_name : Takes 0 name := by
  refine .bind (takes_word _) fun _ => ?_
  intro bytes value rest read
  have whole := length_nameLetters_le [] bytes
  rw [Option.some.inj read] at whole
  exact whole

theorem takes_stringBytes (level : Nat) (read : Bytes) (skip : Nat) :
    Takes 0 (stringBytes level read skip) := by
  intro bytes value rest found
  rw [Nat.add_zero]
  induction bytes generalizing level read skip with
  | nil => cases found
  | cons b bytes ih =>
    rw [List.length_cons]
    -- Whatever the first byte is, the string ends with it or is read on from the next one.
    have onwards {level' skip' : Nat} {read' : Bytes}
        (found : stringBytes level' read' skip' bytes = some (value, rest)) :
        rest.length ≤ bytes.length + 1 := Nat.le_succ_of_le (ih _ _ _ found)
    cases skip with
    | succ left => exact onwards found
    | zero =>
      simp only [stringBytes] at found
      split at found
      · cases level with
        | zero =>
          cases found
          exact Nat.le_succ _
        | succ outer => exact onwards found
      split at found
      · split at found
        · exact onwards found
        · cases found
      split at found
      · split at found
        · cases found
        · exact onwards found
      · exact onwards found

theorem takes_literalString : Takes 0 literalString :=
  .bind (takes_word _) fun _ => takes_stringBytes 0 [] 0

theorem takes_hexString : Takes 0 hexString :=
  .bind (takes_word _) fun _ => .bind (.run _) fun _ => .bind (takes_word _) fun _ => .pure _

theorem takes_keyword : Takes 0 keyword :=
  .orElse (.bind (takes_word _) fun _ => .pure _) (.orElse (.bind (takes_word _) fun _ => .pure _)
    (.bind (takes_word _) fun _ => .pure _))

theorem takes_reference : Takes 0 reference :=
  .bind (takes_unsigned _) fun _ => .bind takes_blank fun _ => .bind (takes_unsigned _) fun _ =>
    .bind takes_blank fun _ => .bind (takes_word _) fun _ => .pure _

theorem takes_scalar : Takes 0 scalar :=
  .orElse (.map _ takes_real) (.orElse (.map _ takes_integer) (.orElse (.map _ takes_name)
    (.orElse (.map _ takes_literalString) (.map _ takes_hexString))))

end Token

namespace Direct

open Token

variable {element : Rule Object}

theorem takes_entriesOf (takes : Takes 0 element) (budget : Nat) :
    Takes 0 (entriesOf element budget) := by
  refine .bind (.many (.bind takes_name fun _ => .bind takes_blank fun _ => .bind takes fun _ =>
    .bind takes_blank fun _ => .pure _) _) fun _ => .pure _

theorem takes_compoundOf (takes : Takes 0 element) (budget : Nat) :
    Takes 0 (compoundOf element budget) := by
  have array : Takes 0 (arrayOf element budget) :=
    .bind (takes_word _) fun _ => .bind takes_blank fun _ =>
      .bind (.many (.seqLeft takes takes_blank) _) fun _ => .bind (takes_word _) fun _ => .pure _
  have dictionary : Takes 0 (dictionaryOf element budget) :=
    .bind (takes_word _) fun _ => .bind takes_blank fun _ =>
      .bind (takes_entriesOf takes budget) fun _ => .bind (takes_word _) fun _ => .pure _
  exact .orElse (.map _ array) (.map _ dictionary)

theorem takes_object (budget : Nat) : Takes 0 (object budget) := by
  induction budget with
  | zero => exact .failure
  | succ budget ih =>
    exact .orElse takes_keyword (.orElse takes_reference (.orElse takes_scalar
      (takes_compoundOf ih budget)))

end Direct

/-! ## Content streams -/

namespace Content

open Token

theorem takes_space : Takes 0 space := .bind (.run _) fun _ => .pure _

theorem takes_comments (budget : Nat) : Takes 0 (comments budget) :=
  .bind (.many takes_comment _) fun _ => .pure _

theorem takes_operand (budget : Nat) : Takes 0 (operand budget) :=
  .bind (.orElse takes_keyword (.orElse takes_scalar
    (Direct.takes_compoundOf (Direct.takes_object budget) budget))) fun _ =>
      .bind takes_space fun _ => .pure _

theorem takes_operation (budget : Nat) : Takes 1 (operation budget) :=
  .bind (.many (takes_operand budget) budget) fun _ => .bind_first (.run1 _) fun _ =>
    .bind takes_space fun _ => .pure _

/-- The word that begins an image, after comments. -/
def imageWord (budget : Nat) : Rule Unit := do
  comments budget
  Rule.literal "BI"

/-- An operation after comments. -/
def commented (budget : Nat) : Rule Operation := do
  comments budget
  operation budget

theorem takes_imageWord (budget : Nat) : Takes 1 (imageWord budget) :=
  .bind (takes_comments budget) fun _ => (Takes.literal "BI").le (by decide)

theorem takes_commented (budget : Nat) : Takes 1 (commented budget) :=
  .bind (takes_comments budget) fun _ => takes_operation budget

end Content

namespace InlineImage

open Token

theorem takes_opening (budget : Nat) : Takes 0 (opening budget) :=
  .bind Content.takes_space fun _ =>
    .bind (Direct.takes_entriesOf (Direct.takes_object budget) budget) fun _ =>
      .bind (takes_word _) fun _ => .bind Content.takes_space fun _ => .pure _

theorem takes_closing (length : Nat) : Takes 0 (closing length) :=
  .bind (.take length) fun _ => .bind Content.takes_space fun _ => .bind (takes_word _) fun _ =>
    Content.takes_space

theorem length_skip_le {budget : Nat} {bytes rest : Bytes} (passed : skip budget bytes = .ok rest) :
    rest.length ≤ bytes.length := by
  rw [skip] at passed
  split at passed
  · cases passed
  · next entries data opened =>
    obtain ⟨length, -, passed⟩ := Except.bind_eq_ok_iff.mp passed
    split at passed
    · cases passed
    · next rest' closed =>
      cases passed
      have := takes_opening budget bytes entries data opened
      have := takes_closing length data _ rest closed
      omega

end InlineImage

namespace Operation

variable {budget left : Nat} {done : List Operation} {bytes : Bytes} {fault : InlineImage.Fault}

/-- Reading a content stream comes to an image of some kind, after operations that are read and images
that are passed over. The kind is a matter of the bytes after the first word of the image. -/
inductive ReachesImage (budget : Nat) (kind : Bytes → Prop) : Bytes → Prop
  | here {bytes inner : Bytes} (begins : Content.imageWord budget bytes = some ((), inner))
    (fits : kind inner) : ReachesImage budget kind bytes
  | image {bytes inner rest : Bytes} (begins : Content.imageWord budget bytes = some ((), inner))
    (passed : InlineImage.skip budget inner = .ok rest) (later : ReachesImage budget kind rest) :
    ReachesImage budget kind bytes
  | operation {bytes rest : Bytes} {operation : Operation}
    (noImage : Content.imageWord budget bytes = none)
    (read : Content.commented budget bytes = some (operation, rest))
    (later : ReachesImage budget kind rest) : ReachesImage budget kind bytes

theorem readFrom_succ : readFrom budget (left + 1) done bytes =
    match Content.imageWord budget bytes with
    | some (_, image) => InlineImage.skip budget image >>= readFrom budget left done
    | none =>
      match Content.commented budget bytes with
      | some (operation, rest) => readFrom budget left (operation :: done) rest
      | none => .ok done.reverse := rfl

/-- With a step for each byte left and one more, reading ends early only at an image that cannot be
passed over. -/
theorem readFrom_eq_error_iff (enough : bytes.length < left) :
    readFrom budget left done bytes = .error fault ↔
      ReachesImage budget (fun inner => InlineImage.skip budget inner = .error fault) bytes := by
  -- By induction on the steps. Each takes a byte at least, so there are still enough of them after it.
  induction left generalizing bytes done with
  | zero => cases enough
  | succ left ih =>
    rw [readFrom_succ]
    cases begins : Content.imageWord budget bytes with
    | some found =>
      obtain ⟨⟨⟩, inner⟩ := found
      have shorter := Content.takes_imageWord budget _ _ _ begins
      cases passed : InlineImage.skip budget inner with
      | error fault' =>
        simp only [passed, Except.error_bind]
        constructor
        · rintro ⟨⟩
          exact .here begins passed
        · intro reached
          cases reached <;> simp_all
      | ok rest =>
        have := InlineImage.length_skip_le passed
        simp only [passed, Except.ok_bind]
        rw [ih (by omega)]
        refine ⟨.image begins passed, fun reached => ?_⟩
        cases reached <;> simp_all
    | none =>
      cases read : Content.commented budget bytes with
      | some found =>
        obtain ⟨operation, rest⟩ := found
        have shorter := Content.takes_commented budget _ _ _ read
        dsimp only
        rw [ih (by omega)]
        refine ⟨.operation begins read, fun reached => ?_⟩
        cases reached <;> simp_all
      | none =>
        refine ⟨nofun, fun reached => ?_⟩
        cases reached <;> simp_all

/-- A content stream is refused for an image that is reached and cannot be passed over, and for
nothing else. -/
theorem readAll_eq_error_iff : readAll bytes = .error fault ↔
    ReachesImage (bytes.length + 1)
      (fun inner => InlineImage.skip (bytes.length + 1) inner = .error fault)
      (bytes.dropWhile Content.isSpace) := by
  have shorter := (List.dropWhile_sublist Content.isSpace (l := bytes)).length_le
  exact readFrom_eq_error_iff (by omega)

end Operation

end PdfText

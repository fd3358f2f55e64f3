import PdfText.CommandLine

/-!
# Messages tell failures apart

The message of a failure is a heading, and after it all words of the cause that the failure wraps,
if it wraps one. The heading says what the failure is about, numbers included. Two headings part
where neither of them has ended, or at the first character that is no digit after a number, so the
words behind a heading can hold anything, headings among them, without being taken for a part of it.

What a run of the command line prints of a failure is its message. So whoever reads it knows what
the failure is about, and what its cause says.

## Main definitions

* `ExtractError.Subject` — what a failure is about, apart from its cause
* `ExtractError.Subject.heading` — the words before those of the cause

## Main results

* `ExtractError.Subject.heading_append_inj` — a heading is read back, whatever comes after it
* `ExtractError.message_identifies` — equal messages come from failures that are about the same and
  whose causes say the same
-/

namespace PdfText

/-- A number in front of a character that is no digit is read back. -/
theorem toDigits_append_inj {value value' : Nat} {mark : Char} {rest rest' : List Char}
    (noDigit : mark.isDigit = false)
    (same : Nat.toDigits 10 value ++ mark :: rest = Nat.toDigits 10 value' ++ mark :: rest') :
    value = value' ∧ rest = rest' := by
  have digits (value : Nat) (rest : List Char) :
      (Nat.toDigits 10 value ++ mark :: rest).takeWhile Char.isDigit = Nat.toDigits 10 value := by
    rw [List.takeWhile_append_of_pos fun c inside =>
      Nat.isDigit_of_mem_toDigits (by decide) (by decide) inside]
    simp [noDigit]
  have sameDigits : Nat.toDigits 10 value = Nat.toDigits 10 value' := by
    rw [← digits value rest, same, digits]
  have sameValue : value = value' := by
    have read := congrArg (fun digits => Nat.ofDigitChars 10 digits 0) sameDigits
    simpa using read
  rw [sameDigits] at same
  exact ⟨sameValue, (List.cons.inj (List.append_cancel_left same)).2⟩

namespace ExtractError

/-! ## Subjects -/

/-- What a failure is about, apart from its cause. -/
inductive Subject where
  | io
  | pdf
  | page (number : Nat)
  | pageOutOfRange (index count : Nat)
  | passwordRequired
  | incorrectPassword
  deriving DecidableEq, Repr

/-- What a failure is about. -/
def subject : ExtractError → Subject
  | io _ => .io
  | pdf _ => .pdf
  | page number _ => .page number
  | pageOutOfRange index count => .pageOutOfRange index count
  | passwordRequired => .passwordRequired
  | incorrectPassword => .incorrectPassword

/-- The cause that a failure wraps. -/
def cause? : ExtractError → Option (IoError ⊕ PdfError)
  | io error => some (.inl error)
  | pdf error => some (.inr error)
  | page _ error => some (.inr error)
  | _ => none

namespace Subject

/-- Whether a failure that is about this wraps a cause. -/
def IsWrapping (subject : Subject) : Prop :=
  subject = io ∨ subject = pdf ∨ ∃ number, subject = page number

/-- The words before those of the cause, or all words where there is none. -/
def heading : Subject → String
  | io => "IO error: "
  | pdf => "PDF error: "
  | page number => "PDF error on page " ++ toString number ++ ": "
  | pageOutOfRange index count =>
    "page index " ++ toString index ++ " out of range for document with " ++ toString count ++
      " pages"
  | passwordRequired => "document is encrypted, a password is required"
  | incorrectPassword => "incorrect password"

theorem toList_page (number : Nat) (words : String) :
    ((page number).heading ++ words).toList =
      "PDF error on page ".toList ++ (Nat.toDigits 10 number ++ ':' :: ' ' :: words.toList) := by
  change ("PDF error on page " ++ toString number ++ ": " ++ words).toList = _
  simp only [String.toList_append, List.append_assoc, Nat.toString_eq_repr, Nat.toList_repr]
  rfl

theorem toList_pageOutOfRange (index count : Nat) (words : String) :
    ((pageOutOfRange index count).heading ++ words).toList =
      "page index ".toList ++ (Nat.toDigits 10 index ++ ' ' ::
        ("out of range for document with ".toList ++ (Nat.toDigits 10 count ++ ' ' ::
          ("pages".toList ++ words.toList)))) := by
  change ("page index " ++ toString index ++ " out of range for document with " ++
    toString count ++ " pages" ++ words).toList = _
  simp only [String.toList_append, List.append_assoc, Nat.toString_eq_repr, Nat.toList_repr]
  rfl

/-- The first letters of a heading, as many of them as it takes to tell what kind it is of. -/
def opening : Subject → String
  | io => "IO error: "
  | pdf => "PDF error:"
  | page _ => "PDF error "
  | pageOutOfRange .. => "page index"
  | passwordRequired => "document i"
  | incorrectPassword => "incorrect "

theorem take_heading_append (subject : Subject) (words : String) :
    (subject.heading ++ words).toList.take 10 = subject.opening.toList := by
  cases subject with
  | page number =>
    rw [toList_page, List.take_append_of_le_length (by decide)]
    simp [opening]
  | pageOutOfRange index count =>
    rw [toList_pageOutOfRange, List.take_append_of_le_length (by decide)]
    simp [opening]
  | io | pdf | passwordRequired | incorrectPassword =>
    rw [String.toList_append, List.take_append_of_le_length (by decide)]
    rfl

/-- A heading is read back, whatever comes after it. -/
theorem heading_append_inj {first second : Subject} {words words' : String}
    (same : first.heading ++ words = second.heading ++ words') :
    first = second ∧ words = words' := by
  have opened : first.opening = second.opening := by
    apply String.toList_injective
    rw [← take_heading_append first words, same, take_heading_append]
  have letters := congrArg String.toList same
  -- Only headings of one kind open alike, and then their numbers remain to be compared.
  cases first with
  | io =>
    cases second with
    | io => exact ⟨rfl, (String.append_right_inj _).mp same⟩
    | _ => simp [opening] at opened
  | pdf =>
    cases second with
    | pdf => exact ⟨rfl, (String.append_right_inj _).mp same⟩
    | _ => simp [opening] at opened
  | page number =>
    cases second with
    | page number' =>
      rw [toList_page, toList_page] at letters
      obtain ⟨rfl, behind⟩ := toDigits_append_inj rfl (List.append_cancel_left letters)
      exact ⟨rfl, String.toList_injective (List.cons.inj behind).2⟩
    | _ => simp [opening] at opened
  | pageOutOfRange index count =>
    cases second with
    | pageOutOfRange index' count' =>
      rw [toList_pageOutOfRange, toList_pageOutOfRange] at letters
      obtain ⟨rfl, behindIndex⟩ := toDigits_append_inj rfl (List.append_cancel_left letters)
      obtain ⟨rfl, behindCount⟩ := toDigits_append_inj rfl (List.append_cancel_left behindIndex)
      exact ⟨rfl, String.toList_injective (List.append_cancel_left behindCount)⟩
    | _ => simp [opening] at opened
  | passwordRequired =>
    cases second with
    | passwordRequired => exact ⟨rfl, (String.append_right_inj _).mp same⟩
    | _ => simp [opening] at opened
  | incorrectPassword =>
    cases second with
    | incorrectPassword => exact ⟨rfl, (String.append_right_inj _).mp same⟩
    | _ => simp [opening] at opened

end Subject

/-! ## Messages -/

/-- The message of a failure is its heading, and after it the words of its cause. -/
theorem message_eq (error : ExtractError) :
    error.message = error.subject.heading ++ error.source.getD "" := by
  cases error with
  | io | pdf | page => rfl
  | pageOutOfRange | passwordRequired | incorrectPassword => exact String.append_empty.symm

/-- A failure tells the words of the cause that it wraps. -/
theorem source_eq (error : ExtractError) :
    error.source = error.cause?.map (Sum.elim IoError.message PdfError.message) := by
  cases error <;> rfl

theorem isSome_source_iff (error : ExtractError) :
    error.source.isSome ↔ error.subject.IsWrapping := by
  cases error <;> simp [source, subject, Subject.IsWrapping]

/-- Failures have the same message just where they are about the same and their causes say the
same. -/
theorem message_eq_iff {first second : ExtractError} :
    first.message = second.message ↔
      first.subject = second.subject ∧ first.source = second.source := by
  constructor
  · intro same
    rw [message_eq, message_eq] at same
    obtain ⟨sameSubject, sameWords⟩ := Subject.heading_append_inj same
    refine ⟨sameSubject, ?_⟩
    -- Whether there is a cause at all can be told from the subject.
    have sameSome : first.source.isSome ↔ second.source.isSome := by
      rw [isSome_source_iff, isSome_source_iff, sameSubject]
    cases source : first.source with
    | none =>
      cases source' : second.source with
      | none => rfl
      | some words' => simp [source, source'] at sameSome
    | some words =>
      cases source' : second.source with
      | none => simp [source, source'] at sameSome
      | some words' => simpa [source, source'] using sameWords
  · rintro ⟨sameSubject, sameSource⟩
    rw [message_eq, message_eq, sameSubject, sameSource]

/-- A failure is identified by its message, which is all that a run of the command line shows of it:
equal messages come from failures that are about the same, down to page numbers, indices and counts,
and whose causes say the same, whatever they say. A cause is told of just where one is wrapped, and
then the message is a heading, which depends on no more than the subject, with all words of the
cause after it. -/
theorem message_identifies (first second : ExtractError) :
    (first.message = second.message ↔
      first.subject = second.subject ∧ first.source = second.source) ∧
    (∀ arguments : Arguments,
      CommandLine.outcomeOf arguments (.error (.cause first)) =
        CommandLine.outcomeOf arguments (.error (.cause second)) ↔
      first.subject = second.subject ∧ first.source = second.source) ∧
    first.source = first.cause?.map (Sum.elim IoError.message PdfError.message) ∧
    (first.source.isSome ↔ first.subject.IsWrapping) ∧
    ∀ words, first.source = some words → first.message = first.subject.heading ++ words := by
  refine ⟨message_eq_iff, fun arguments => ?_, source_eq first, isSome_source_iff first,
    fun words told => ?_⟩
  · rw [← message_eq_iff]
    simp [CommandLine.outcomeOf]
  · rw [message_eq, told, Option.getD_some]

end ExtractError

end PdfText

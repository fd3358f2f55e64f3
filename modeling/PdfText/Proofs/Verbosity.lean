import Mathlib.Logic.Relation
import PdfText.CommandLine.Arguments
import PdfText.Proofs.Outcome

/-!
# How often more detail is asked for

More detail is asked for by a word of its own, or by a letter among others behind one hyphen. How
often this is done has no bearing on anything else that the words ask for: neither on the paths and
the password, nor on whether help is asked for or something is wrong. Of what is wrong, another
thing may be reported first, since a value is checked when the next option is taken up.

A word counts as an option only before the word `--`, and not where a password is still to come.

## Main definitions

* `Invocation.withoutDetail` — what is asked for, apart from how often more detail is
* `Louder` — the same words, with more detail asked for once more

## Main results

* `Arguments.Draft.run_settle` — a value may as well be checked at once
* `Louder.withoutDetail` — asking for more detail changes nothing else
-/

namespace PdfText

open Arguments

/-- One hyphen and no letter are no option. -/
theorem Arguments.Word.ne_nil_of_short {word letters : List Char}
    (short : Word.ofLetters word = .short letters) : letters ≠ [] := by
  unfold Word.ofLetters at short
  split at short
  · cases short
  · cases short
  · cases short
  · next noHyphen =>
    rintro rfl
    cases short
    exact noHyphen rfl
  · cases short

/-- Options end with one word only. -/
theorem Arguments.Word.eq_of_endOfOptions {word : String}
    (ended : Word.ofLetters word.toList = .endOfOptions) : word = "--" := by
  apply String.toList_injective
  revert ended
  generalize word.toList = letters
  intro ended
  unfold Word.ofLetters at ended
  split at ended
  · decide
  all_goals cases ended

namespace Arguments.Draft

variable {draft first second : Draft} {verbosity : Nat}

/-! ## Drafts that differ in verbosity -/

/-- A draft apart from its verbosity. -/
def quiet (draft : Draft) : Draft := { draft with verbosity := 0 }

theorem paths_eq (same : first.quiet = second.quiet) : first.paths = second.paths :=
  show first.quiet.paths = second.quiet.paths from congrArg _ same

theorem password_eq (same : first.quiet = second.quiet) : first.password = second.password :=
  show first.quiet.password = second.quiet.password from congrArg _ same

theorem pending_eq (same : first.quiet = second.quiet) : first.pending = second.pending :=
  show first.quiet.pending = second.quiet.pending from congrArg _ same

theorem pathCount_eq (same : first.quiet = second.quiet) : first.pathCount = second.pathCount := by
  simp only [pathCount, pending_eq same, paths_eq same]

theorem settle_congr (same : first.quiet = second.quiet) :
    first.settle.map quiet = second.settle.map quiet := by
  simp only [settle, pending_eq same, paths_eq same, password_eq same]
  split
  · simp [Except.map, same]
  · split <;> simp [Except.map, quiet]
  · rfl
  · split <;> simp [Except.map, quiet]

theorem addPath_congr (same : first.quiet = second.quiet) (path : String) :
    (first.addPath path).map quiet = (second.addPath path).map quiet := by
  simp only [addPath, pathCount_eq same]
  split
  · rfl
  · refine Except.map_bind_congr (settle_congr same) fun a b alike => ?_
    simp [Except.map, quiet, paths_eq alike, password_eq alike]

theorem raiseVerbosity_congr (same : first.quiet = second.quiet) :
    first.raiseVerbosity.map quiet = second.raiseVerbosity.map quiet := by
  refine Except.map_bind_congr (settle_congr same) fun a b alike => ?_
  simp [Except.map, quiet, paths_eq alike, password_eq alike, pending_eq alike]

theorem addPassword_congr (same : first.quiet = second.quiet) (value : Option (List Char)) :
    (first.addPassword value).map quiet = (second.addPassword value).map quiet := by
  refine Except.map_bind_congr (settle_congr same) fun a b alike => ?_
  have held : ({ a with pending := some (.password (value.map String.ofList)) } : Draft).quiet =
      ({ b with pending := some (.password (value.map String.ofList)) } : Draft).quiet := by
    simp [quiet, paths_eq alike, password_eq alike]
  split
  · exact settle_congr held
  · simp [Except.map, held]

theorem stopWith_congr (same : first.quiet = second.quiet) (stop : Stop) :
    (first.stopWith stop).map quiet = (second.stopWith stop).map quiet :=
  Except.map_bind_congr (settle_congr same) fun _ _ _ => rfl

theorem addLetters_congr (same : first.quiet = second.quiet) (letters : List Char) :
    (first.addLetters letters).map quiet = (second.addLetters letters).map quiet := by
  -- By induction on the letters, for all pairs of drafts: after each letter there are two new ones
  -- that differ in verbosity.
  induction letters generalizing first second with
  | nil => simp [addLetters, Except.map, same]
  | cons letter rest ih =>
    simp only [addLetters]
    split
    · exact Except.map_bind_congr (raiseVerbosity_congr same) fun _ _ alike => ih alike
    split
    · split <;> exact addPassword_congr same _
    split
    · exact stopWith_congr same _
    split
    · exact stopWith_congr same _
    · rfl

theorem addNamed_congr (same : first.quiet = second.quiet) (name : List Char)
    (value : Option (List Char)) :
    (first.addNamed name value).map quiet = (second.addNamed name value).map quiet := by
  have flag {take take' : Except Stop Draft} (alike : take.map quiet = take'.map quiet) :
      (addFlag name value take).map quiet = (addFlag name value take').map quiet := by
    unfold addFlag
    split
    · rfl
    · exact alike
  unfold addNamed
  split
  · exact addPassword_congr same _
  split
  · exact flag (raiseVerbosity_congr same)
  split
  · exact flag (stopWith_congr same _)
  split
  · exact flag (stopWith_congr same _)
  · rfl

theorem addPlain_congr (same : first.quiet = second.quiet) (word : String) :
    (first.addPlain word).map quiet = (second.addPlain word).map quiet := by
  simp only [addPlain, pending_eq same]
  split
  · simp [Except.map, quiet, paths_eq same, password_eq same]
  · exact addPath_congr same _

theorem foldlM_addPath_congr (same : first.quiet = second.quiet) (words : List String) :
    (words.foldlM addPath first).map quiet = (words.foldlM addPath second).map quiet := by
  induction words generalizing first second with
  | nil => simp [Except.map, same]
  | cons word rest ih =>
    rw [List.foldlM_cons, List.foldlM_cons]
    exact Except.map_bind_congr (addPath_congr same word) fun _ _ alike => ih alike

/-- What the words say apart from verbosity does not depend on the verbosity before them. -/
theorem addWords_congr (same : first.quiet = second.quiet) (words : List String) :
    (first.addWords words).map quiet = (second.addWords words).map quiet := by
  induction words generalizing first second with
  | nil => simp [addWords, Except.map, same]
  | cons word rest ih =>
    simp only [addWords]
    split
    · exact foldlM_addPath_congr same rest
    · exact Except.map_bind_congr (addNamed_congr same _ _) fun _ _ alike => ih alike
    · exact Except.map_bind_congr (addLetters_congr same _) fun _ _ alike => ih alike
    · exact Except.map_bind_congr (addPlain_congr same _) fun _ _ alike => ih alike

theorem finish_congr (same : first.quiet = second.quiet) :
    first.finish.map (fun arguments => { arguments with verbosity := 0 }) =
      second.finish.map fun arguments => { arguments with verbosity := 0 } := by
  refine Except.map_bind_congr (settle_congr same) fun a b alike => ?_
  rw [paths_eq alike]
  split
  · simp [Except.map, password_eq alike]
  · rfl

/-! ## Drafts without a value to check -/

/-- A draft that waits for a password. -/
def Awaits (draft : Draft) : Prop := draft.pending = some (.password none)

/-- What all words after some place ask for. -/
def run (draft : Draft) (words : List String) : Except Stop Arguments :=
  draft.addWords words >>= finish

variable {settled : Draft}

theorem pending_of_settle (checked : draft.settle = .ok settled) : settled.pending = none := by
  unfold settle at checked
  split at checked
  · next none =>
    cases checked
    exact none
  · split at checked
    · cases checked
    · cases checked
      rfl
  · cases checked
  · split at checked
    · cases checked
    · cases checked
      rfl

theorem settle_of_settle (checked : draft.settle = .ok settled) : settled.settle = .ok settled := by
  rw [settle, pending_of_settle checked]

theorem pathCount_of_settle (checked : draft.settle = .ok settled) :
    settled.pathCount = draft.pathCount := by
  rw [pathCount, pending_of_settle checked]
  unfold settle at checked
  unfold pathCount
  split at checked
  · next none =>
    cases checked
    rw [none]
  · next path held =>
    split at checked
    · cases checked
    · cases checked
      simp [held]
  · cases checked
  · next value held =>
    split at checked
    · cases checked
    · cases checked
      simp [held]

section Settle

variable (checked : draft.settle = .ok settled)
include checked

theorem addPath_settle (path : String) : draft.addPath path = settled.addPath path := by
  rw [addPath, addPath, pathCount_of_settle checked, checked, settle_of_settle checked]

theorem raiseVerbosity_settle : draft.raiseVerbosity = settled.raiseVerbosity := by
  rw [raiseVerbosity, raiseVerbosity, checked, settle_of_settle checked]

theorem addPassword_settle (value : Option (List Char)) :
    draft.addPassword value = settled.addPassword value := by
  rw [addPassword, addPassword, checked, settle_of_settle checked]

theorem stopWith_settle (stop : Stop) : draft.stopWith stop = settled.stopWith stop := by
  rw [stopWith, stopWith, checked, settle_of_settle checked]

theorem addLetters_settle {letters : List Char} (nonempty : letters ≠ []) :
    draft.addLetters letters = settled.addLetters letters := by
  cases letters with
  | nil => exact absurd rfl nonempty
  | cons letter rest =>
    simp only [addLetters, raiseVerbosity_settle checked, addPassword_settle checked,
      stopWith_settle checked]

theorem addNamed_settle (name : List Char) (value : Option (List Char)) :
    draft.addNamed name value = settled.addNamed name value := by
  simp only [addNamed, raiseVerbosity_settle checked, addPassword_settle checked,
    stopWith_settle checked]

theorem addPlain_settle (word : String) : draft.addPlain word = settled.addPlain word := by
  have filled : draft.pending ≠ some (.password none) := by
    intro awaits
    rw [settle, awaits] at checked
    cases checked
  rw [addPlain, addPlain, pending_of_settle checked, addPath_settle checked]
  split
  · next awaits => exact absurd awaits filled
  · rfl

theorem finish_settle : draft.finish = settled.finish := by
  rw [finish, finish, checked, settle_of_settle checked]

/-- A value may as well be checked at once. -/
theorem run_settle (words : List String) : draft.run words = settled.run words := by
  -- It is enough to look at the first word, which checks the value before anything else.
  cases words with
  | nil => exact finish_settle checked
  | cons word rest =>
    simp only [run, addWords]
    split
    · cases rest with
      | nil => exact finish_settle checked
      | cons path rest => rw [List.foldlM_cons, List.foldlM_cons, addPath_settle checked]
    · rw [addNamed_settle checked]
    · next letters short => rw [addLetters_settle checked (Word.ne_nil_of_short short)]
    · rw [addPlain_settle checked]

end Settle

/-! ## Values that are refused -/

/-- Reading has ended because something is wrong. -/
def IsRejected {α : Type} (outcome : Except Stop α) : Prop :=
  ∃ reason, outcome = .error (.rejected reason)

theorem IsRejected.bind {α β : Type} {outcome : Except Stop α} (rejected : IsRejected outcome)
    (next : α → Except Stop β) : IsRejected (outcome >>= next) := by
  obtain ⟨reason, rfl⟩ := rejected
  exact ⟨reason, rfl⟩

/-- A value that is not accepted is a reason to reject the words. -/
theorem isRejected_of_settle {stop : Stop} (refused : draft.settle = .error stop) :
    IsRejected draft.settle := by
  unfold settle at refused ⊢
  split at refused
  · cases refused
  · split at refused
    · next path => simp [path, IsRejected]
    · cases refused
  · simp [IsRejected]
  · split at refused
    · next given => simp [given, IsRejected]
    · cases refused

section Refused

variable (refused : IsRejected draft.settle)
include refused

theorem isRejected_addPath (path : String) : IsRejected (draft.addPath path) := by
  rw [addPath]
  split
  · exact ⟨_, rfl⟩
  · exact refused.bind _

theorem isRejected_addLetters {letters : List Char} (nonempty : letters ≠ []) :
    IsRejected (draft.addLetters letters) := by
  cases letters with
  | nil => exact absurd rfl nonempty
  | cons letter rest =>
    simp only [addLetters]
    split
    · exact IsRejected.bind (refused.bind _) _
    split
    · split <;> exact refused.bind _
    split
    · exact refused.bind _
    split
    · exact refused.bind _
    · exact ⟨_, rfl⟩

theorem isRejected_addNamed (name : List Char) (value : Option (List Char)) :
    IsRejected (draft.addNamed name value) := by
  have flag {take : Except Stop Draft} (rejected : IsRejected take) :
      IsRejected (addFlag name value take) := by
    unfold addFlag
    split
    · exact ⟨_, rfl⟩
    · exact rejected
  unfold addNamed
  split
  · exact refused.bind _
  split
  · exact flag (refused.bind _)
  split
  · exact flag (refused.bind _)
  split
  · exact flag (refused.bind _)
  · exact ⟨_, rfl⟩

/-- A value that will not be accepted is a reason to reject the words, whatever comes after it. A
password that is still to come may be accepted. -/
theorem isRejected_run (filled : ¬ draft.Awaits) (words : List String) :
    IsRejected (draft.run words) := by
  cases words with
  | nil => exact refused.bind _
  | cons word rest =>
    simp only [run, addWords]
    split
    · cases rest with
      | nil => exact refused.bind _
      | cons path rest =>
        rw [List.foldlM_cons]
        exact IsRejected.bind ((isRejected_addPath refused path).bind _) _
    · exact IsRejected.bind ((isRejected_addNamed refused _ _).bind _) _
    · next letters short =>
      have nonempty := Word.ne_nil_of_short short
      exact IsRejected.bind ((isRejected_addLetters refused nonempty).bind _) _
    · refine IsRejected.bind (IsRejected.bind ?_ _) _
      rw [addPlain]
      split
      · next awaits => exact absurd awaits filled
      · exact isRejected_addPath refused word

end Refused

/-! ## Asking for more detail once more -/

/-- Two ways in which reading can end that differ in verbosity at most, or both in a rejection. -/
def Agree (first second : Except Stop Arguments) : Prop :=
  first.map (fun arguments => { arguments with verbosity := 0 }) =
      second.map (fun arguments => { arguments with verbosity := 0 }) ∨
    IsRejected first ∧ IsRejected second

theorem run_congr (same : first.quiet = second.quiet) (words : List String) :
    (first.run words).map (fun arguments => { arguments with verbosity := 0 }) =
      (second.run words).map fun arguments => { arguments with verbosity := 0 } :=
  Except.map_bind_congr (addWords_congr same words) fun _ _ alike => finish_congr alike

theorem raiseVerbosity_of_settle {settled : Draft} (checked : draft.settle = .ok settled) :
    ∃ raised, draft.raiseVerbosity = .ok raised ∧ raised.quiet = settled.quiet ∧
      raised.pending = none := by
  refine ⟨{ settled with verbosity := min (settled.verbosity + 1) maxVerbosity }, ?_, rfl,
    show settled.pending = none from pending_of_settle checked⟩
  rw [raiseVerbosity, checked]
  rfl

/-- An option for more detail changes nothing else, unless a password is still to come. -/
theorem agree_raiseVerbosity (filled : ¬ draft.Awaits) (words : List String) :
    Agree (draft.run words) (draft.raiseVerbosity >>= (·.run words)) := by
  cases checked : draft.settle with
  | error stop =>
    have refused := isRejected_of_settle checked
    exact .inr ⟨isRejected_run refused filled words, IsRejected.bind (refused.bind _) _⟩
  | ok settled =>
    obtain ⟨raised, raise, same, -⟩ := raiseVerbosity_of_settle checked
    rw [run_settle checked, raise]
    exact .inl (run_congr same.symm words)

/-- The same where it is a letter in front of others, the first of which checks the value as well. -/
theorem agree_addLetters_cons {letters : List Char} (nonempty : letters ≠ []) (words : List String) :
    Agree (draft.addLetters letters >>= (·.run words))
      (draft.addLetters ('v' :: letters) >>= (·.run words)) := by
  have first : draft.addLetters ('v' :: letters) =
      draft.raiseVerbosity >>= (·.addLetters letters) := rfl
  rw [first]
  cases checked : draft.settle with
  | error stop =>
    have refused := isRejected_of_settle checked
    exact .inr ⟨(isRejected_addLetters refused nonempty).bind _,
      IsRejected.bind (IsRejected.bind (refused.bind _) _) _⟩
  | ok settled =>
    obtain ⟨raised, raise, same, -⟩ := raiseVerbosity_of_settle checked
    rw [addLetters_settle checked nonempty, raise]
    exact .inl (Except.map_bind_congr (addLetters_congr same.symm letters) fun _ _ alike =>
      run_congr alike words)

/-- A letter for more detail changes nothing else, where it stands before the letter for a
password. -/
theorem agree_addLetters {letters more : List Char} (noPassword : 'p' ∉ letters)
    (nonempty : letters ++ more ≠ [] ∨ draft.pending = none) (words : List String) :
    Agree (draft.addLetters (letters ++ more) >>= (·.run words))
      (draft.addLetters (letters ++ 'v' :: more) >>= (·.run words)) := by
  induction letters generalizing draft with
  | nil =>
    by_cases none : more = []
    · subst none
      have filled : ¬ draft.Awaits := by
        simp only [List.nil_append, ne_eq, not_true, false_or] at nonempty
        simp [Awaits, nonempty]
      have last : draft.addLetters ['v'] = draft.raiseVerbosity := bind_pure draft.raiseVerbosity
      rw [List.nil_append, List.nil_append, last]
      exact agree_raiseVerbosity filled words
    · exact agree_addLetters_cons none words
  | cons letter rest ih =>
    rw [List.mem_cons, not_or] at noPassword
    simp only [List.cons_append, addLetters]
    split
    · cases checked : draft.settle with
      | error stop =>
        have refused := isRejected_of_settle checked
        exact .inr ⟨IsRejected.bind (IsRejected.bind (refused.bind _) _) _,
          IsRejected.bind (IsRejected.bind (refused.bind _) _) _⟩
      | ok settled =>
        obtain ⟨raised, raise, -, checkedAll⟩ := raiseVerbosity_of_settle checked
        rw [raise]
        exact ih noPassword.2 (.inr checkedAll)
    split
    · next password => exact absurd password.symm noPassword.1
    split
    · exact .inl rfl
    split
    · exact .inl rfl
    · exact .inl rfl

theorem addWords_append {before : List String} (options : ∀ word ∈ before, word ≠ "--")
    (after : List String) :
    draft.addWords (before ++ after) = draft.addWords before >>= (·.addWords after) := by
  induction before generalizing draft with
  | nil => rfl
  | cons word rest ih =>
    obtain ⟨first, others⟩ := List.forall_mem_cons.mp options
    simp only [List.cons_append, addWords]
    split
    · next ended => exact absurd (Word.eq_of_endOfOptions ended) first
    all_goals
      rw [bind_assoc]
      congr 1
      funext draft
      exact ih others

end Arguments.Draft

/-! ## Words that ask for more detail once more -/

/-- What is asked for, apart from how often more detail is and from what is wrong. -/
def Invocation.withoutDetail : Invocation → Invocation
  | extraction arguments => extraction { arguments with verbosity := 0 }
  | help => help
  | version => version
  | rejected _ => rejected .missingPaths

/-- Words after which an option may follow: they do not end the options, and no password is still
to come. -/
structure AllowsOption (words : List String) : Prop where
  options : ∀ word ∈ words, word ≠ "--"
  filled : ∀ draft, ({} : Draft).addWords words = .ok draft → ¬ draft.Awaits

/-- The same words, with more detail asked for once more: by a word of its own, or by a letter
among others, before the letter for a password. -/
inductive Louder : List String → List String → Prop
  | word {before after : List String} {option : String} (allowed : AllowsOption before)
      (detail : option = "-v" ∨ option = "--verbose") :
      Louder (before ++ after) (before ++ option :: after)
  | letter {before after : List String} {letters more : List Char}
      (options : ∀ word ∈ before, word ≠ "--") (nonempty : letters ++ more ≠ [])
      (oneHyphen : (letters ++ more).head? ≠ some '-') (noPassword : 'p' ∉ letters) :
      Louder (before ++ String.ofList ('-' :: (letters ++ more)) :: after)
        (before ++ String.ofList ('-' :: (letters ++ 'v' :: more)) :: after)

theorem Arguments.Word.ofLetters_short {letters : List Char} (nonempty : letters ≠ [])
    (oneHyphen : letters.head? ≠ some '-') : Word.ofLetters ('-' :: letters) = .short letters := by
  cases letters with
  | nil => exact absurd rfl nonempty
  | cons letter rest =>
    have other : letter ≠ '-' := by simpa using oneHyphen
    unfold Word.ofLetters
    split <;> simp_all

theorem Invocation.withoutDetail_of_agree {words words' : List String}
    (agree : Draft.Agree (({} : Draft).run words) (({} : Draft).run words')) :
    (ofWords words).withoutDetail = (ofWords words').withoutDetail := by
  rw [ofWords, ofWords]
  change Draft.Agree (({} : Draft).addWords words >>= Draft.finish)
    (({} : Draft).addWords words' >>= Draft.finish) at agree
  generalize ({} : Draft).addWords words >>= Draft.finish = first at agree ⊢
  generalize ({} : Draft).addWords words' >>= Draft.finish = second at agree ⊢
  obtain same | ⟨⟨reason, rfl⟩, reason', rfl⟩ := agree
  · cases first with
    | error stop =>
      cases second with
      | error stop' =>
        cases Except.error.inj same
        rfl
      | ok arguments' => cases same
    | ok arguments =>
      cases second with
      | error stop' => cases same
      | ok arguments' => exact congrArg extraction (Except.ok.inj same)
  · rfl

/-- Asking for more detail changes nothing else. -/
theorem Louder.withoutDetail {words words' : List String} (louder : Louder words words') :
    (Invocation.ofWords words).withoutDetail = (Invocation.ofWords words').withoutDetail := by
  apply Invocation.withoutDetail_of_agree
  cases louder with
  | @word before after option allowed detail =>
    rw [Draft.run, Draft.run, Draft.addWords_append allowed.options,
      Draft.addWords_append allowed.options, bind_assoc, bind_assoc]
    cases taken : ({} : Draft).addWords before with
    | error stop => exact .inl rfl
    | ok draft =>
      have raised : draft.addWords (option :: after) =
          draft.raiseVerbosity >>= (·.addWords after) := by
        obtain rfl | rfl := detail
        · simp [Draft.addWords, Word.ofLetters, Draft.addLetters]
        · rfl
      have agree := Draft.agree_raiseVerbosity (allowed.filled draft taken) after
      simpa [Draft.run, raised, bind_assoc] using agree
  | @letter before after letters more options nonempty oneHyphen noPassword =>
    rw [Draft.run, Draft.run, Draft.addWords_append options, Draft.addWords_append options,
      bind_assoc, bind_assoc]
    cases taken : ({} : Draft).addWords before with
    | error stop => exact .inl rfl
    | ok draft =>
      have first : Word.ofLetters ('-' :: (letters ++ more)) = .short (letters ++ more) :=
        Word.ofLetters_short nonempty oneHyphen
      have second : Word.ofLetters ('-' :: (letters ++ 'v' :: more)) =
          .short (letters ++ 'v' :: more) := by
        refine Word.ofLetters_short (by simp) ?_
        cases letters with
        | nil => simp
        | cons letter rest => simpa using oneHyphen
      have agree := @Draft.agree_addLetters draft letters more noPassword (.inl nonempty) after
      simpa [Draft.run, Draft.addWords, first, second, bind_assoc] using agree

end PdfText

import PdfText.Proofs.Endings

/-!
# Lines of the command line

A line of the command line is made of items in any order: paths, options for more detail, and
options for a password, which is written in one of several forms. After them, the options may end
with the word `--`, and then only paths follow, which may begin with a hyphen. What a line spells is
read back from its words, if there are two paths and no more than one password. Otherwise the line
is rejected with a reminder of the words that are expected.

A password in a word of its own is checked only when the next item is taken up. So one that is given
twice can be noticed late, and a path too many may be reported in its place.

## Main definitions

* `Arguments.Item` — what stands in a line before the options end
* `Arguments.PasswordForm` — how a password is written
* `Arguments.Line` — a whole line, with its paths, its passwords, and how much detail it asks for
* `Arguments.draftOf` — what a part of a line amounts to
* `Arguments.Refused` — a rejection with a reminder

## Main results

* `Arguments.run_item` — an item is read back, if there is room for it
* `Arguments.refused_item` — an item for which there is no room is refused, whatever items follow
* `Arguments.Line.read_back` — lines are read back from their words, or rejected
-/

namespace PdfText

namespace Arguments

/-! ## Spellings -/

/-- A word that is no option: it does not begin with a hyphen, or is one alone. -/
def IsPlain (word : String) : Prop := word.toList.head? ≠ some '-' ∨ word = "-"

instance (word : String) : Decidable (IsPlain word) :=
  inferInstanceAs (Decidable (word.toList.head? ≠ some '-' ∨ word = "-"))

/-- One hyphen and letters, of which the first ones ask for more detail. -/
def cluster (detail : Nat) (rest : List Char) : String :=
  String.ofList ('-' :: (List.replicate detail 'v' ++ rest))

/-- The forms in which a password is written. The short ones may stand behind letters that ask for
more detail. -/
inductive PasswordForm (password : String) where
  /-- The option by its name, and the password as a word of its own. -/
  | long (plain : IsPlain password)
  /-- The option by its name, an equals sign and the password. -/
  | longSign
  /-- The option by its letter, and the password as a word of its own. -/
  | short (detail : Nat) (plain : IsPlain password)
  /-- The option by its letter, and the password right behind it. -/
  | shortJoined (detail : Nat) (nonempty : password ≠ "")
      (noSign : password.toList.head? ≠ some '=')
  /-- The option by its letter, an equals sign and the password. -/
  | shortSign (detail : Nat)

namespace PasswordForm

variable {password : String}

/-- The words of a password. -/
def words : PasswordForm password → List String
  | long _ => ["--password", password]
  | longSign => ["--password=" ++ password]
  | short detail _ => [cluster detail ['p'], password]
  | shortJoined detail _ _ => [cluster detail ('p' :: password.toList)]
  | shortSign detail => [cluster detail ('p' :: '=' :: password.toList)]

/-- How often these words ask for more detail. -/
def detail : PasswordForm password → Nat
  | long _ => 0
  | longSign => 0
  | short detail _ => detail
  | shortJoined detail _ _ => detail
  | shortSign detail => detail

end PasswordForm

/-- What stands in a line before the options end. -/
inductive Item where
  /-- A path. -/
  | path (path : String) (plain : IsPlain path) (nonempty : path ≠ "")
  /-- The option for more detail by its name. -/
  | verbose
  /-- The option for more detail by its letter, once and any number of times more. -/
  | letters (more : Nat)
  /-- A password. -/
  | password (password : String) (form : PasswordForm password)

namespace Item

/-- The words of an item. -/
def words : Item → List String
  | .path word _ _ => [word]
  | .verbose => ["--verbose"]
  | .letters more => [cluster (more + 1) []]
  | .password _ form => form.words

/-- The path in an item. -/
def paths : Item → List String
  | .path word _ _ => [word]
  | _ => []

/-- The password in an item. -/
def passwords : Item → List String
  | .password value _ => [value]
  | _ => []

/-- How often an item asks for more detail. -/
def detail : Item → Nat
  | .path _ _ _ => 0
  | .verbose => 1
  | .letters more => more + 1
  | .password _ form => form.detail

end Item

/-- The words that end the options, with the paths after them. -/
def endingWords : Option (List String) → List String
  | none => []
  | some paths => "--" :: paths

/-- The words of items and of what comes after them. -/
def lineWords (items : List Item) (ending : Option (List String)) : List String :=
  items.flatMap Item.words ++ endingWords ending

/-- A line of the command line. -/
structure Line where
  /-- What stands before the options end. -/
  items : List Item
  /-- The paths after the end of the options, if they end before the line does. -/
  ending : Option (List String)
  /-- No path is empty. -/
  nonempty : ∀ path ∈ ending.getD [], path ≠ ""

namespace Line

variable (line : Line)

/-- The words of a line. -/
def words : List String := lineWords line.items line.ending

/-- The paths in a line, in order. -/
def paths : List String := line.items.flatMap Item.paths ++ line.ending.getD []

/-- The passwords in a line, in order. -/
def passwords : List String := line.items.flatMap Item.passwords

/-- How often a line asks for more detail. -/
def detail : Nat := (line.items.map Item.detail).sum

end Line

/-! ## Words of each kind -/

theorem Word.ofLetters_plain {word : String} (plain : IsPlain word) :
    Word.ofLetters word.toList = .plain := by
  obtain noHyphen | rfl := plain
  · unfold Word.ofLetters
    split <;> simp_all
  · rfl

section Words

variable (draft : Draft) (rest : List String)

theorem addWords_plain {word : String} (plain : IsPlain word) :
    draft.addWords (word :: rest) = draft.addPlain word >>= (·.addWords rest) := by
  rw [Draft.addWords, Word.ofLetters_plain plain]

theorem addWords_long :
    draft.addWords ("--password" :: rest) = draft.addPassword none >>= (·.addWords rest) := rfl

theorem addWords_verbose :
    draft.addWords ("--verbose" :: rest) = draft.raiseVerbosity >>= (·.addWords rest) := rfl

theorem addWords_longSign (password : String) :
    draft.addWords (("--password=" ++ password) :: rest) =
      draft.addPassword (some password.toList) >>= (·.addWords rest) := by
  have kind : Word.ofLetters ("--password=" ++ password).toList =
      .long "password".toList (some password.toList) := by
    rw [String.toList_append]
    rfl
  rw [Draft.addWords, kind]
  rfl

theorem addWords_cluster {detail : Nat} {letters : List Char}
    (nonempty : List.replicate detail 'v' ++ letters ≠ []) (oneHyphen : letters.head? ≠ some '-') :
    draft.addWords (cluster detail letters :: rest) =
      draft.addLetters (List.replicate detail 'v' ++ letters) >>= (·.addWords rest) := by
  have oneHyphen : (List.replicate detail 'v' ++ letters).head? ≠ some '-' := by
    cases detail with
    | zero => exact oneHyphen
    | succ detail => simp [List.replicate_succ]
  rw [Draft.addWords, cluster, String.toList_ofList, Word.ofLetters_short nonempty oneHyphen]

theorem addLetters_detail (letters : List Char) :
    draft.addLetters ('v' :: letters) = draft.raiseVerbosity >>= (·.addLetters letters) := rfl

/-- Letters that ask for more detail are taken up before the others. -/
theorem addLetters_replicate (more : Nat) (letters : List Char) :
    draft.addLetters (List.replicate more 'v' ++ letters) =
      draft.addLetters (List.replicate more 'v') >>= (·.addLetters letters) := by
  induction more generalizing draft with
  | zero => rfl
  | succ more ih =>
    rw [List.replicate_succ, List.cons_append, addLetters_detail, addLetters_detail, bind_assoc]
    congr 1
    funext raised
    exact ih raised

theorem addLetters_joined {password : String} (nonempty : password ≠ "")
    (noSign : password.toList.head? ≠ some '=') :
    draft.addLetters ('p' :: password.toList) = draft.addPassword (some password.toList) := by
  cases letters : password.toList with
  | nil => exact absurd (String.toList_eq_nil_iff.mp letters) nonempty
  | cons letter letters' =>
    have other : letter ≠ '=' := by simpa [letters] using noSign
    simp [Draft.addLetters, other]

/-- The words of a password ask for more detail first, and then for the password, which is the next
word or comes with the option. -/
theorem addWords_form {password : String} (form : PasswordForm password) :
    IsPlain password ∧ draft.addWords (form.words ++ rest) =
        (draft.addLetters (List.replicate form.detail 'v') >>= fun raised =>
          raised.addPassword none >>= (·.addWords (password :: rest))) ∨
      draft.addWords (form.words ++ rest) =
        draft.addLetters (List.replicate form.detail 'v') >>= fun raised =>
          raised.addPassword (some password.toList) >>= (·.addWords rest) := by
  cases form with
  | long plain => exact .inl ⟨plain, addWords_long draft (password :: rest)⟩
  | longSign => exact .inr (addWords_longSign draft rest password)
  | short detail plain =>
    refine .inl ⟨plain, ?_⟩
    rw [PasswordForm.words, List.cons_append, addWords_cluster _ _ (by simp) (by simp),
      addLetters_replicate, bind_assoc]
    rfl
  | shortJoined detail nonempty noSign =>
    refine .inr ?_
    rw [PasswordForm.words, List.cons_append, addWords_cluster _ _ (by simp) (by simp),
      addLetters_replicate, bind_assoc]
    simp only [addLetters_joined _ nonempty noSign]
    rfl
  | shortSign detail =>
    refine .inr ?_
    rw [PasswordForm.words, List.cons_append, addWords_cluster _ _ (by simp) (by simp),
      addLetters_replicate, bind_assoc]
    rfl

end Words

/-! ## What a part of a line amounts to -/

section Drafts

variable {paths passwords : List String} {detail : Nat} {draft : Draft}

/-- What some paths, passwords and requests for more detail amount to. Only the first password
counts. -/
def draftOf (paths passwords : List String) (detail : Nat) : Draft where
  paths := paths
  password := passwords.head?
  verbosity := min detail Draft.maxVerbosity

@[simp] theorem settle_draftOf : (draftOf paths passwords detail).settle =
    .ok (draftOf paths passwords detail) := rfl

@[simp] theorem pathCount_draftOf : (draftOf paths passwords detail).pathCount = paths.length := rfl

theorem raiseVerbosity_draftOf : (draftOf paths passwords detail).raiseVerbosity =
    .ok (draftOf paths passwords (detail + 1)) := by
  have capped : min (min detail Draft.maxVerbosity + 1) Draft.maxVerbosity =
      min (detail + 1) Draft.maxVerbosity := by omega
  simp only [Draft.raiseVerbosity, settle_draftOf, Except.ok_bind]
  simp only [draftOf, capped]
  rfl

/-- Each letter for more detail counts. -/
theorem addLetters_draftOf (more : Nat) :
    (draftOf paths passwords detail).addLetters (List.replicate more 'v') =
      .ok (draftOf paths passwords (detail + more)) := by
  induction more generalizing detail with
  | zero => rfl
  | succ more ih =>
    rw [List.replicate_succ, addLetters_detail, raiseVerbosity_draftOf, Except.ok_bind, ih,
      Nat.add_assoc, Nat.add_comm 1]

/-- A draft with a path that is not checked yet. -/
def Draft.withPath (draft : Draft) (path : String) : Draft :=
  { draft with pending := some (.path path) }

/-- A draft with a password that is not checked yet. -/
def Draft.withPassword (draft : Draft) (password : String) : Draft :=
  { draft with pending := some (.password (some password)) }

theorem settle_withPath {path : String} (nonempty : path ≠ "") :
    ((draftOf paths passwords detail).withPath path).settle =
      .ok (draftOf (paths ++ [path]) passwords detail) := by
  simp only [Draft.settle, Draft.withPath, if_neg nonempty]
  rfl

theorem addPath_draftOf (path : String) :
    (draftOf paths passwords detail).addPath path =
      if 2 ≤ paths.length then .error (.rejected (.surplusPath path))
      else .ok ((draftOf paths passwords detail).withPath path) := by
  rw [Draft.addPath, pathCount_draftOf]
  split <;> rfl

theorem addPassword_draftOf (password : String) :
    (draftOf paths passwords detail).addPassword (some password.toList) =
      ((draftOf paths passwords detail).withPassword password).settle := by
  rw [Draft.addPassword, settle_draftOf, Except.ok_bind, Option.map_some, String.ofList_toList]
  rfl

/-- A password may follow its option as a word of its own. -/
theorem addWords_password {password : String} (plain : IsPlain password) (rest : List String) :
    (draftOf paths passwords detail).addPassword none >>= (·.addWords (password :: rest)) =
      ((draftOf paths passwords detail).withPassword password).addWords rest := by
  rw [Draft.addPassword, settle_draftOf, Except.ok_bind]
  exact addWords_plain _ rest plain

/-- A password is taken up, and it is checked at once or later. -/
theorem run_password {password : String} (form : PasswordForm password) (rest : List String) :
    let taken := (draftOf paths passwords (detail + form.detail)).withPassword password
    (draftOf paths passwords detail).run (form.words ++ rest) = taken.run rest ∨
      (draftOf paths passwords detail).run (form.words ++ rest) =
        taken.settle >>= (·.run rest) := by
  obtain ⟨plain, words⟩ | words := addWords_form (draftOf paths passwords detail) rest form
  · left
    rw [Draft.run, words, addLetters_draftOf, Except.ok_bind, addWords_password plain]
    rfl
  · right
    rw [Draft.run, words, addLetters_draftOf, Except.ok_bind, addPassword_draftOf, bind_assoc]
    rfl

theorem settle_withPassword {password : String} (first : passwords = []) :
    ((draftOf paths passwords detail).withPassword password).settle =
      .ok (draftOf paths [password] detail) := by
  subst first
  rfl

theorem settle_withPassword_of_ne {password : String} (given : passwords ≠ []) :
    ((draftOf paths passwords detail).withPassword password).settle =
      .error (.rejected .repeatedPassword) := by
  cases passwords with
  | nil => exact absurd rfl given
  | cons first others => rfl

/-! ## Reading items -/

/-- An item is read back, if there is room for it. -/
theorem run_item {item : Item} (room : (paths ++ item.paths).length ≤ 2)
    (room' : (passwords ++ item.passwords).length ≤ 1) (rest : List String) :
    (draftOf paths passwords detail).run (item.words ++ rest) =
      (draftOf (paths ++ item.paths) (passwords ++ item.passwords) (detail + item.detail)).run
        rest := by
  cases item with
  | path word plain nonempty =>
    have few : ¬ 2 ≤ paths.length := by
      rw [Item.paths, List.length_append, List.length_singleton] at room
      omega
    simp only [Item.words, Item.paths, Item.passwords, Item.detail, List.singleton_append,
      List.append_nil, Nat.add_zero]
    rw [← Draft.run_settle (settle_withPath nonempty), Draft.run, addWords_plain _ _ plain]
    change (Draft.addPath _ word >>= _) >>= _ = _
    rw [addPath_draftOf, if_neg few]
    rfl
  | verbose =>
    simp only [Item.words, Item.paths, Item.passwords, Item.detail, List.singleton_append,
      List.append_nil]
    rw [Draft.run, addWords_verbose, raiseVerbosity_draftOf]
    rfl
  | letters more =>
    simp only [Item.words, Item.paths, Item.passwords, Item.detail, List.singleton_append,
      List.append_nil]
    rw [Draft.run, addWords_cluster _ _ (by simp) (by simp), List.append_nil, addLetters_draftOf]
    rfl
  | password value form =>
    have first : passwords = [] := by
      rw [Item.passwords, List.length_append, List.length_singleton] at room'
      exact List.eq_nil_of_length_eq_zero (by omega)
    have checked : ((draftOf paths passwords (detail + form.detail)).withPassword value).settle =
        .ok (draftOf paths [value] (detail + form.detail)) := settle_withPassword first
    -- Where the password is checked does not matter, as it is accepted.
    simp only [Item.words, Item.paths, Item.passwords, Item.detail, List.append_nil]
    obtain later | now := run_password form rest
    · rw [later, Draft.run_settle checked, first]
      rfl
    · rw [now, checked, Except.ok_bind, first]
      rfl

/-! ## Reading what is too much -/

/-- Reading has ended because something is wrong of which a reminder of the words helps. -/
def Refused {α : Type} (outcome : Except Stop α) : Prop :=
  ∃ reason : Rejection, outcome = .error (.rejected reason) ∧ reason.showsUsage = true

theorem Refused.bind {α β : Type} {outcome : Except Stop α} (refused : Refused outcome)
    (next : α → Except Stop β) : Refused (outcome >>= next) := by
  obtain ⟨reason, rfl, shown⟩ := refused
  exact ⟨reason, rfl, shown⟩

section Repeated

variable (repeated : draft.settle = .error (.rejected .repeatedPassword))
include repeated

theorem refused_settle : Refused draft.settle := ⟨_, repeated, rfl⟩

theorem refused_addPath (path : String) : Refused (draft.addPath path) := by
  rw [Draft.addPath]
  -- Paths are counted before the password is checked, so that a path too many comes first.
  split
  · exact ⟨_, rfl, rfl⟩
  · exact (refused_settle repeated).bind _

theorem refused_addPlain (word : String) : Refused (draft.addPlain word) := by
  rw [Draft.addPlain]
  split
  -- The password is there already, so the word is none.
  · next awaits =>
    rw [Draft.settle, awaits] at repeated
    cases repeated
  · exact refused_addPath repeated word

theorem refused_raiseVerbosity : Refused draft.raiseVerbosity := (refused_settle repeated).bind _

theorem refused_form {password : String} (form : PasswordForm password) (rest : List String) :
    Refused (draft.addWords (form.words ++ rest)) := by
  -- The first letter checks the password before it, be it one for more detail or the option.
  have refused (value : Option (List Char)) (next : Draft → Except Stop Draft) :
      Refused (draft.addLetters (List.replicate form.detail 'v') >>= fun raised =>
        raised.addPassword value >>= next) := by
    cases form.detail with
    | zero => exact ((refused_settle repeated).bind _).bind _
    | succ more => exact ((refused_raiseVerbosity repeated).bind _).bind _
  obtain ⟨-, words⟩ | words := addWords_form draft rest form
  · rw [words]
    exact refused _ _
  · rw [words]
    exact refused _ _

/-- A password that is given again is noticed with the next item at the latest. -/
theorem refused_of_repeated (items : List Item) (ending : Option (List String)) :
    Refused (draft.run (lineWords items ending)) := by
  cases items with
  | nil =>
    cases ending with
    | none => exact (refused_settle repeated).bind _
    | some paths =>
      cases paths with
      | nil => exact (refused_settle repeated).bind _
      | cons path paths => exact ((refused_addPath repeated path).bind _).bind _
  | cons item items =>
    rw [lineWords, List.flatMap_cons, List.append_assoc, Draft.run]
    refine Refused.bind ?_ _
    generalize items.flatMap Item.words ++ endingWords ending = rest
    cases item with
    | path word plain nonempty =>
      rw [Item.words, List.singleton_append, addWords_plain _ _ plain]
      exact (refused_addPlain repeated word).bind _
    | verbose => exact (refused_raiseVerbosity repeated).bind _
    | letters more =>
      rw [Item.words, List.singleton_append, addWords_cluster _ _ (by simp) (by simp)]
      exact ((refused_raiseVerbosity repeated).bind _).bind _
    | password value form => exact refused_form repeated form rest

end Repeated

/-- An item for which there is no room is refused, whatever items follow. -/
theorem refused_item {item : Item}
    (full : 2 < (paths ++ item.paths).length ∨ 1 < (passwords ++ item.passwords).length)
    (room : paths.length ≤ 2) (room' : passwords.length ≤ 1)
    (items : List Item) (ending : Option (List String)) :
    Refused ((draftOf paths passwords detail).run (item.words ++ lineWords items ending)) := by
  cases item with
  | path word plain nonempty =>
    have many : 2 ≤ paths.length := by
      simp only [Item.paths, Item.passwords, List.length_append, List.length_singleton,
        List.append_nil] at full
      omega
    rw [Draft.run, Item.words, List.singleton_append, addWords_plain _ _ plain]
    refine Refused.bind (Refused.bind ?_ _) _
    change Refused (Draft.addPath _ word)
    rw [addPath_draftOf, if_pos many]
    exact ⟨_, rfl, rfl⟩
  | verbose =>
    simp only [Item.paths, Item.passwords, List.append_nil] at full
    omega
  | letters more =>
    simp only [Item.paths, Item.passwords, List.append_nil] at full
    omega
  | password value form =>
    have given : passwords ≠ [] := by
      rintro rfl
      simp only [Item.paths, Item.passwords, List.append_nil, List.nil_append,
        List.length_singleton] at full
      omega
    have repeated : ((draftOf paths passwords (detail + form.detail)).withPassword value).settle =
        .error (.rejected .repeatedPassword) := settle_withPassword_of_ne given
    rw [Item.words]
    -- In the same word, the password is refused at once, and otherwise with the next item.
    obtain later | now := run_password form (lineWords items ending)
    · rw [later]
      exact refused_of_repeated repeated items ending
    · rw [now, repeated]
      exact ⟨_, rfl, rfl⟩

/-! ## The end of a line -/

/-- Paths after the end of the options are read back, if there is room for them. -/
theorem foldlM_addPath {more : List String} (nonempty : ∀ path ∈ more, path ≠ "")
    (checked : draft.settle = .ok (draftOf paths passwords detail))
    (room : (paths ++ more).length ≤ 2) :
    more.foldlM Draft.addPath draft >>= Draft.finish =
      (draftOf (paths ++ more) passwords detail).finish := by
  induction more generalizing draft paths with
  | nil =>
    rw [List.append_nil]
    exact Draft.finish_settle checked
  | cons path more ih =>
    obtain ⟨first, others⟩ := List.forall_mem_cons.mp nonempty
    have few : ¬ 2 ≤ paths.length := by
      rw [List.length_append, List.length_cons] at room
      omega
    rw [List.foldlM_cons, Draft.addPath_settle checked, addPath_draftOf, if_neg few, Except.ok_bind]
    rw [List.append_cons] at room ⊢
    exact ih others (settle_withPath first) room

/-- Of more paths than there is room for, one is refused. -/
theorem refused_foldlM_addPath {more : List String} (nonempty : ∀ path ∈ more, path ≠ "")
    (checked : draft.settle = .ok (draftOf paths passwords detail)) (room : paths.length ≤ 2)
    (full : 2 < (paths ++ more).length) :
    Refused (more.foldlM Draft.addPath draft) := by
  -- After each path there is one more that is not checked yet, so the draft is known by what it is
  -- after the check.
  induction more generalizing draft paths with
  | nil =>
    rw [List.append_nil] at full
    omega
  | cons path more ih =>
    obtain ⟨first, others⟩ := List.forall_mem_cons.mp nonempty
    rw [List.foldlM_cons, Draft.addPath_settle checked, addPath_draftOf]
    split
    · exact ⟨_, rfl, rfl⟩
    · next few =>
      rw [Except.ok_bind]
      rw [List.append_cons] at full
      refine ih others (settle_withPath first) ?_ full
      rw [List.length_append, List.length_singleton]
      omega

/-- A line without two paths is refused at its end. -/
theorem refused_finish (missing : paths.length ≠ 2) :
    Refused (draftOf paths passwords detail).finish := by
  rw [Draft.finish, settle_draftOf, Except.ok_bind]
  split
  · next two =>
    obtain rfl : paths = _ := two
    exact absurd rfl missing
  · exact ⟨_, rfl, rfl⟩

/-! ## Whole lines -/

/-- The items of a line are read back, if there is room for all of them. -/
theorem run_items {items : List Item} (room : (paths ++ items.flatMap Item.paths).length ≤ 2)
    (room' : (passwords ++ items.flatMap Item.passwords).length ≤ 1) (rest : List String) :
    (draftOf paths passwords detail).run (items.flatMap Item.words ++ rest) =
      (draftOf (paths ++ items.flatMap Item.paths) (passwords ++ items.flatMap Item.passwords)
        (detail + (items.map Item.detail).sum)).run rest := by
  -- By induction on the items, for all that comes before them.
  induction items generalizing paths passwords detail with
  | nil => simp
  | cons item items ih =>
    simp only [List.flatMap_cons, List.map_cons, List.sum_cons, ← List.append_assoc,
      ← Nat.add_assoc] at room room' ⊢
    rw [List.append_assoc, run_item (by simp at room ⊢; omega) (by simp at room' ⊢; omega),
      ih room room']

/-- A line is refused if there is no room for one of its items or for a path after them. -/
theorem refused_lineWords {items : List Item} {ending : Option (List String)}
    (nonempty : ∀ path ∈ ending.getD [], path ≠ "")
    (full : 2 < (paths ++ (items.flatMap Item.paths ++ ending.getD [])).length ∨
      1 < (passwords ++ items.flatMap Item.passwords).length)
    (room : paths.length ≤ 2) (room' : passwords.length ≤ 1) :
    Refused ((draftOf paths passwords detail).run (lineWords items ending)) := by
  -- By induction on the items. The first one for which there is no room is the one that is refused.
  induction items generalizing paths passwords detail with
  | nil =>
    simp only [List.flatMap_nil, List.append_nil, List.nil_append] at full
    cases ending with
    | none =>
      simp only [Option.getD_none, List.append_nil] at full
      omega
    | some more =>
      have many : 2 < (paths ++ more).length := full.resolve_right (by omega)
      exact (refused_foldlM_addPath nonempty settle_draftOf room many).bind _
  | cons item items ih =>
    rw [lineWords, List.flatMap_cons, List.append_assoc]
    by_cases fits : (paths ++ item.paths).length ≤ 2 ∧ (passwords ++ item.passwords).length ≤ 1
    · rw [run_item fits.1 fits.2]
      refine ih ?_ fits.1 fits.2
      simpa only [List.flatMap_cons, List.append_assoc] using full
    · refine refused_item ?_ room room' items ending
      omega

namespace Line

variable (line : Line)

/-- What the words of a line ask for, if there is room for all that it spells. -/
theorem run_words (room : line.paths.length ≤ 2) (room' : line.passwords.length ≤ 1) :
    ({} : Draft).run line.words =
      (draftOf line.paths line.passwords line.detail).finish := by
  have fits : (line.items.flatMap Item.paths).length ≤ 2 := by
    rw [paths, List.length_append] at room
    omega
  have start : ({} : Draft) = draftOf [] [] 0 := rfl
  rw [start, words, lineWords, run_items fits room', List.nil_append, List.nil_append, Nat.zero_add]
  change Draft.run (draftOf _ line.passwords line.detail) _ = _
  rw [paths] at room ⊢
  have nonempty := line.nonempty
  generalize line.ending = ending at room nonempty ⊢
  cases ending with
  | none =>
    rw [Option.getD_none, List.append_nil]
    rfl
  | some more => exact foldlM_addPath nonempty settle_draftOf room

/-- A line with another number of paths than two, or with more than one password, is refused. -/
theorem refused_words (wrong : line.paths.length ≠ 2 ∨ 1 < line.passwords.length) :
    Refused (({} : Draft).run line.words) := by
  by_cases fits : line.paths.length ≤ 2 ∧ line.passwords.length ≤ 1
  · rw [run_words line fits.1 fits.2]
    exact refused_finish (wrong.resolve_right (by omega))
  · have full : 2 < line.paths.length ∨ 1 < line.passwords.length := by omega
    have start : ({} : Draft) = draftOf [] [] 0 := rfl
    rw [start]
    exact refused_lineWords line.nonempty full (Nat.zero_le _) (Nat.zero_le _)

end Line

end Drafts

end Arguments

/-! ## The log -/

namespace LogLevel

/-- The most detailed level that is written down when more detail is asked for a number of times. -/
def ofDetail : Nat → LogLevel
  | 0 => warn
  | 1 => info
  | 2 => debug
  | _ => trace

theorem detail_ofDetail (times : Nat) : (ofDetail times).detail = min (times + 2) 5 := by
  match times with
  | 0 | 1 | 2 => rfl
  | times + 3 =>
    change 5 = min (times + 3 + 2) 5
    omega

end LogLevel

theorem LogFilter.admits_choose_none (verbosity : Nat) (event : Event) :
    (choose none verbosity).admits event =
      decide (event.level.detail ≤ (LogLevel.ofDetail verbosity).detail) := by
  match verbosity with
  | 0 | 1 | 2 | _ + 3 => rfl

/-! ## Lines read back -/

namespace Arguments.Line

variable (line : Line)

/-- A line with two paths and no more than one password asks for an extraction. -/
theorem ofWords_words {input output : String} {password : Option String}
    (two : line.paths = [input, output]) (given : line.passwords = password.toList) :
    Invocation.ofWords line.words =
      .extraction { input, output, password, verbosity := min line.detail 255 } := by
  have read : ({} : Draft).run line.words =
      .ok { input, output, password, verbosity := min line.detail 255 } := by
    rw [run_words line (by simp [two]) (by cases password <;> simp [given]), two, given]
    cases password <;> rfl
  rw [Invocation.ofWords, show ({} : Draft).addWords line.words >>= Draft.finish = _ from read]

/-- Any other line is rejected with a reminder of the words that are expected. -/
theorem rejected_words (wrong : line.paths.length ≠ 2 ∨ 1 < line.passwords.length) :
    ∃ reason, Invocation.ofWords line.words = .rejected reason ∧ reason.showsUsage = true := by
  obtain ⟨reason, refused, shown⟩ := refused_words line wrong
  refine ⟨reason, ?_, shown⟩
  rw [Invocation.ofWords, show ({} : Draft).addWords line.words >>= Draft.finish = _ from refused]

end Arguments.Line

/-- A rejection with a reminder ends a run before it does anything. -/
theorem CommandLine.observe_of_rejected {words : List String} {reason : Rejection}
    (rejected : Invocation.ofWords words = .rejected reason) (shown : reason.showsUsage = true)
    (setting : Option String) (files : FileSystem) (reports : List Event) :
    let seen := observe setting words files reports
    seen.1.exitCode = 1 ∧ seen.1.printed = "" ∧
      (∃ front back, seen.1.complaint = front ++ usage ++ back) ∧ seen.2 = files := by
  rw [observe_eq, rejected]
  refine ⟨rfl, rfl, ⟨"error: " ++ reason.message ++ "\n\n", "\n" ++
    "For more information, try '--help'.\n", ?_⟩, rfl⟩
  change complaintAbout reason = _
  rw [complaintAbout, if_pos shown]
  simp only [String.append_assoc]

/-- A line that spells two paths and no more than one password, in whatever order and form, asks for
just that, with as much detail as it asks for, up to a limit that lies beyond all levels of the log.
Asking for more detail never takes any away. A line with another number of paths, or with more than
one password, is rejected, and a run on it changes nothing. -/
theorem Arguments.Line.read_back (line : Line) :
    (∀ (input output : String) (password : Option String),
      line.paths = [input, output] → line.passwords = password.toList →
      Invocation.ofWords line.words =
        .extraction { input, output, password, verbosity := min line.detail 255 } ∧
      ∀ event, (LogFilter.choose none (min line.detail 255)).admits event =
        decide (event.level.detail ≤ (LogLevel.ofDetail line.detail).detail)) ∧
    (∀ times times', times ≤ times' →
      (LogLevel.ofDetail times).detail ≤ (LogLevel.ofDetail times').detail) ∧
    (line.paths.length ≠ 2 ∨ 1 < line.passwords.length →
      (∃ reason, Invocation.ofWords line.words = .rejected reason) ∧
      ∀ (setting : Option String) (files : FileSystem) (reports : List Event),
        let seen := CommandLine.observe setting line.words files reports
        seen.1.exitCode = 1 ∧ seen.1.printed = "" ∧
          (∃ front back, seen.1.complaint = front ++ CommandLine.usage ++ back) ∧
          seen.2 = files) := by
  refine ⟨fun input output password two given => ⟨ofWords_words line two given, fun event => ?_⟩,
    fun times times' more => ?_, fun wrong => ?_⟩
  · rw [LogFilter.admits_choose_none, LogLevel.detail_ofDetail, LogLevel.detail_ofDetail]
    congr 2
    omega
  · rw [LogLevel.detail_ofDetail, LogLevel.detail_ofDetail]
    omega
  · obtain ⟨reason, rejected, shown⟩ := rejected_words line wrong
    exact ⟨⟨reason, rejected⟩, CommandLine.observe_of_rejected rejected shown⟩

/-- A line in which letters share a hyphen and a path begins with one, and a line with a password
too many. -/
theorem Arguments.Line.read_back_secret :
    (Invocation.ofWords ["-vvp", "secret", "in.pdf", "--", "-out.txt"] =
      .extraction
        { input := "in.pdf", output := "-out.txt", password := "secret", verbosity := 2 } ∧
      ∀ event, (LogFilter.choose none 2).admits event =
        decide (event.level.detail ≤ LogLevel.debug.detail)) ∧
    ∃ reason,
      Invocation.ofWords ["-px", "in.pdf", "--password=", "out.txt"] = .rejected reason := by
  let read : Line :=
    { items := [.password "secret" (.short 2 (by decide)), .path "in.pdf" (by decide) (by decide)]
      ending := some ["-out.txt"]
      nonempty := by decide }
  let rejected : Line :=
    { items := [.password "x" (.shortJoined 0 (by decide) (by decide)),
        .path "in.pdf" (by decide) (by decide), .password "" .longSign,
        .path "out.txt" (by decide) (by decide)]
      ending := none
      nonempty := by decide }
  exact ⟨(read_back read).1 "in.pdf" "-out.txt" "secret" rfl rfl,
    ((read_back rejected).2.2 (.inr (by decide))).1⟩

end PdfText

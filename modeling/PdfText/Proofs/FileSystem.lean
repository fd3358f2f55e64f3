import PdfText.FileSystem
import PdfText.Proofs.Outcome

/-!
# Writing and reading files

A path leads to the same place whether it is walked for reading or resolved for writing, and
writing a file changes what is at that one place. So what has been written at a path is what is
read at it, and every other place keeps what it had.

## Main definitions

* `FileSystem.put` — a file system with a file put at a place

## Main results

* `FileSystem.write_eq_ok_iff` — when writing succeeds, and what it leads to
* `FileSystem.read_of_write` — what has been written at a path is read at it
* `FileSystem.entryAt?_put_of_ne` — all other places are left alone
-/

namespace PdfText.FileSystem

variable {files written : FileSystem} {place other : Place} {path : String} {content : Bytes}

/-! ## Putting a file at a place -/

/-- A file system with a file put at a place, whatever was there. -/
def put (files : FileSystem) (place : Place) (content : Bytes) : FileSystem :=
  ⟨files.entries.insert place (.file content)⟩

theorem entryAt?_root : files.entryAt? [] = some .directory := rfl

theorem entryAt?_put_self (below : place ≠ []) :
    (files.put place content).entryAt? place = some (.file content) := by
  simp [entryAt?, put, below]

theorem entryAt?_put_of_ne (ne : other ≠ place) :
    (files.put place content).entryAt? other = files.entryAt? other := by
  simp [entryAt?, put, Std.ExtTreeMap.getElem?_insert, ne.symm]

/-- A place that is no directory lies below the root. -/
theorem ne_root_of_entryAt? (free : files.entryAt? place ≠ some .directory) : place ≠ [] := by
  rintro rfl
  exact free entryAt?_root

/-! ## Walking -/

/-- A walk that goes on at all starts in a directory. -/
theorem entryAt?_of_walkFrom {last : Place} {names : List String} (more : names ≠ [])
    (walked : files.walkFrom place names = .ok last) :
    files.entryAt? place = some .directory := by
  obtain ⟨name, rest, rfl⟩ := List.exists_cons_of_ne_nil more
  rw [walkFrom] at walked
  split at walked
  · cases walked
  · cases walked
  · assumption

theorem walkFrom_cons (inDirectory : files.entryAt? place = some .directory) (name : String)
    (names : List String) :
    files.walkFrom place (name :: names) =
      (step place name).bind fun next => files.walkFrom next names := by
  rw [walkFrom, inDirectory]
  simp only [Except.bind]
  split <;> simp_all

/-- Empty names between slashes do not matter: a path walked up to its last name and then resolved
leads to where the whole path leads. -/
theorem walkFrom_of_walkFrom_filter {parent : Place} (names : List String) (ending : String)
    (walked : files.walkFrom place (names.filter (· ≠ "") ++ ["."]) = .ok parent) :
    files.walkFrom place (names ++ [ending]) = step parent ending := by
  -- By induction on the names, for all places to start from. The last dot makes sure that the walk
  -- ends in a directory.
  induction names generalizing place with
  | nil =>
    have inDirectory := entryAt?_of_walkFrom (by simp) walked
    rw [List.nil_append, walkFrom_cons inDirectory]
    have same : place = parent := by
      simpa [walkFrom_cons inDirectory, step, Except.bind, walkFrom] using walked
    subst same
    cases step place ending <;> rfl
  | cons name names ih =>
    by_cases empty : name = ""
    · subst empty
      have walkedOn : files.walkFrom place (names.filter (· ≠ "") ++ ["."]) = .ok parent := by
        simpa using walked
      have inDirectory := entryAt?_of_walkFrom (by simp) walkedOn
      rw [List.cons_append, walkFrom_cons inDirectory]
      simpa [step, Except.bind] using ih walkedOn
    · have walkedOn :
          files.walkFrom place (name :: (names.filter (· ≠ "") ++ ["."])) = .ok parent := by
        simpa [empty] using walked
      have inDirectory := entryAt?_of_walkFrom (by simp) walkedOn
      rw [walkFrom_cons inDirectory] at walkedOn
      rw [List.cons_append, walkFrom_cons inDirectory]
      cases stepped : step place name with
      | error error => simp [stepped, Except.bind] at walkedOn
      | ok next =>
        rw [stepped] at walkedOn
        exact ih walkedOn

/-- A walk only passes directories, so it leads to the same place wherever these are. -/
theorem walkFrom_of_directories {other : FileSystem}
    (kept : ∀ place, files.entryAt? place = some .directory → other.entryAt? place = some .directory)
    {start last : Place} {names : List String} (walked : files.walkFrom start names = .ok last) :
    other.walkFrom start names = .ok last := by
  induction names generalizing start with
  | nil => exact walked
  | cons name names ih =>
    have inDirectory := entryAt?_of_walkFrom (by simp) walked
    rw [walkFrom_cons inDirectory] at walked
    rw [walkFrom_cons (kept start inDirectory)]
    cases stepped : step start name with
    | error error => simp [stepped, Except.bind] at walked
    | ok next =>
      rw [stepped] at walked
      exact ih walked

/-- A file put where no directory is stands in the way of no walk. -/
theorem walkFrom_put (free : files.entryAt? place ≠ some .directory) {start last : Place}
    {names : List String} (walked : files.walkFrom start names = .ok last) :
    (files.put place content).walkFrom start names = .ok last := by
  refine walkFrom_of_directories (fun directory held => ?_) walked
  have elsewhere : directory ≠ place := by
    rintro rfl
    exact free held
  rw [entryAt?_put_of_ne elsewhere, held]

/-! ## Writing -/

/-- The place that a path is resolved to for writing is the one that it leads to for reading. -/
theorem walk_of_target (resolved : files.target path = .ok place) :
    files.walk path = .ok place := by
  simp only [target, Except.bind_eq_ok_iff] at resolved
  obtain ⟨_, accepted, parent, walked, rest⟩ := resolved
  have named : namesDirectory ((pieces path).getLastD "") = false := by
    refine Bool.eq_false_iff.mpr fun dots => ?_
    rw [if_pos dots] at rest
    cases rest
  have present : pieces path ≠ [] := by
    intro none
    simp [none, namesDirectory] at named
  obtain ⟨names, ending, pieced⟩ : ∃ names ending, pieces path = names ++ [ending] :=
    ⟨_, _, (List.dropLast_concat_getLast present).symm⟩
  rw [pieced] at walked rest named
  have nonempty : ending ≠ "" := by
    rintro rfl
    simp [namesDirectory] at named
  rw [named, if_neg Bool.false_ne_true, List.getLastD_concat] at rest
  have walkedUp : files.walkFrom [] (names.filter (· ≠ "") ++ ["."]) = .ok parent := by
    simpa [nonempty] using walked
  rw [walk, accepted, pieced, Except.ok_bind, walkFrom_of_walkFrom_filter names ending walkedUp,
    rest]

/-- Writing succeeds just where a path is resolved to a place that is no directory, and puts the
file there. -/
theorem write_eq_ok_iff :
    files.write path content = .ok written ↔
      ∃ place, files.target path = .ok place ∧ files.entryAt? place ≠ some .directory ∧
        written = files.put place content := by
  rw [write, Except.bind_eq_ok_iff]
  refine exists_congr fun place => and_congr_right fun _ => ?_
  split
  next isDirectory => simp [isDirectory]
  next free => simpa [put, eq_comm] using fun _ => free

/-- What has been written at a path is read at it. -/
theorem read_of_write (wrote : files.write path content = .ok written) :
    written.read path = .ok content := by
  obtain ⟨place, resolved, free, rfl⟩ := write_eq_ok_iff.mp wrote
  have before := walk_of_target resolved
  rw [walk, Except.bind_eq_ok_iff] at before
  obtain ⟨_, accepted, walked⟩ := before
  have walkedAfter : (files.put place content).walk path = .ok place := by
    rw [walk, accepted, Except.ok_bind, walkFrom_put free walked]
  simp [read, walkedAfter, entryAt?_put_self (ne_root_of_entryAt? free)]

end PdfText.FileSystem

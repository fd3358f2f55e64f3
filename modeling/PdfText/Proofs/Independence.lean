import PdfText.Proofs.Entrances
import PdfText.Proofs.LockedTexts

/-!
# Extractions one after the other

What an extraction from one file to another does depends on the places that its two paths pass, and
on no others, and it changes no place but the one that it writes to. So two extractions have no
bearing on each other if neither writes to a place that a path of the other passes. A path passes
the place that it leads to and those on its way there, also where it goes up again with two dots.

An extraction that has succeeded may be repeated. It does not matter what was in the file that it
writes to, as long as that is not the file that it reads from.

## Main definitions

* `FileSystem.Passes` — the places on the way of a path
* `Extraction` — an extraction from one file to another, `Extraction.runAll` — several in a row
* `Extraction.effect` — what an extraction comes to, without doing it
* `Extraction.KeepsClearOf` — an extraction that writes to no place that another one looks at

## Main results

* `FileSystem.passes_iff` — without two dots, a path passes its place and those above
* `Extraction.effect_congr` — what an extraction comes to depends on the places that it passes
* `Extraction.run_of_agreesOff` — it does not depend on the file that is written to
* `Extraction.runAll_perm` — extractions that keep clear of each other in another order
* `Extraction.runs_compose` — repeated and independent extractions
-/

namespace PdfText

namespace FileSystem

variable {files other : FileSystem} {place start : Place} {path name : String} {names : List String}
variable {content : Bytes}

/-! ## The places on the way of a path -/

/-- Some of the names, from the first one on, lead from one place to another. -/
def PassesFrom (start : Place) (names : List String) (place : Place) : Prop :=
  ∃ first, first <+: names ∧ first.foldlM step start = .ok place

/-- A path passes the places to which its names lead, up to any one of them, if nothing is in the
way. These are the places of all paths above it, and the one of the path itself. -/
def Passes (path : String) (place : Place) : Prop := PassesFrom [] (pieces path) place

/-- The place that a path names, if nothing is in the way. -/
def named (path : String) : Except IoError Place := (pieces path).foldlM step []

theorem passesFrom_start : PassesFrom start names start := ⟨[], List.nil_prefix, rfl⟩

theorem passesFrom_nil : PassesFrom start [] place ↔ place = start := by
  constructor
  · rintro ⟨first, begins, led⟩
    obtain rfl := List.prefix_nil.mp begins
    exact (Except.ok.inj led).symm
  · rintro rfl
    exact passesFrom_start

/-- The names pass where they start, and what they pass from the next place on. -/
theorem passesFrom_cons {next : Place} (stepped : step start name = .ok next) :
    PassesFrom start (name :: names) place ↔ place = start ∨ PassesFrom next names place := by
  constructor
  · rintro ⟨first, begins, led⟩
    cases first with
    | nil => exact .inl (Except.ok.inj led).symm
    | cons other first =>
      obtain ⟨rfl, rest⟩ := List.cons_prefix_cons.mp begins
      rw [List.foldlM_cons, stepped] at led
      exact .inr ⟨first, rest, led⟩
  · rintro (rfl | ⟨first, begins, led⟩)
    · exact passesFrom_start
    · exact ⟨name :: first, List.cons_prefix_cons.mpr ⟨rfl, begins⟩, by
        rw [List.foldlM_cons, stepped]
        exact led⟩

theorem passes_of_named (names : named path = .ok place) : Passes path place :=
  ⟨_, List.prefix_rfl, names⟩

/-- Without two dots, a step leads to the same place, or to one right below it. -/
theorem eq_of_step {next : Place} (plain : name ≠ "..") (stepped : step start name = .ok next) :
    next = start ∨ next = start ++ [name] := by
  rw [step, if_neg plain] at stepped
  split at stepped
  · exact .inl (Except.ok.inj stepped).symm
  · split at stepped
    · cases stepped
    · exact .inr (Except.ok.inj stepped).symm

/-- Names without two dots pass the place that they lead to, and all places above it. -/
theorem passesFrom_iff {whole : Place} (plain : ".." ∉ names)
    (led : names.foldlM step start = .ok whole) :
    PassesFrom start names place ↔ start <+: place ∧ place <+: whole := by
  -- By induction on the names, for all places to start from: each of them leads one place down, or
  -- stays where it is.
  induction names generalizing start place with
  | nil =>
    obtain rfl : start = whole := Except.ok.inj led
    rw [passesFrom_nil]
    constructor
    · rintro rfl
      exact ⟨List.prefix_rfl, List.prefix_rfl⟩
    · rintro ⟨below, above⟩
      exact above.eq_of_length_le below.length_le
  | cons name names ih =>
    obtain ⟨here, plain⟩ := not_or.mp (List.mem_cons.not.mp plain)
    rw [List.foldlM_cons, Except.bind_eq_ok_iff] at led
    obtain ⟨next, stepped, led⟩ := led
    have reached : next <+: whole := ((ih plain led).mp passesFrom_start).2
    rw [passesFrom_cons stepped, ih plain led]
    obtain rfl | rfl := eq_of_step (Ne.symm here) stepped
    · constructor
      · rintro (rfl | between)
        · exact ⟨List.prefix_rfl, reached⟩
        · exact between
      · exact .inr
    · have begins := List.prefix_append start [name]
      constructor
      · rintro (rfl | ⟨below, above⟩)
        · exact ⟨List.prefix_rfl, begins.trans reached⟩
        · exact ⟨begins.trans below, above⟩
      · rintro ⟨⟨rest, rfl⟩, above⟩
        cases rest with
        | nil => exact .inl (List.append_nil start)
        | cons other rest =>
          exact .inr ⟨List.prefix_of_prefix_length_le reached above (by simp), above⟩

/-- A path without two dots passes the place that it names, and all places above it. -/
theorem passes_iff {whole : Place} (plain : ".." ∉ pieces path) (names : named path = .ok whole) :
    Passes path place ↔ place <+: whole := by
  rw [Passes, passesFrom_iff plain names, and_iff_right List.nil_prefix]

/-- Where a walk leads is a matter of the names. -/
theorem foldlM_of_walkFrom (walked : files.walkFrom start names = .ok place) :
    names.foldlM step start = .ok place := by
  induction names generalizing start with
  | nil => exact walked
  | cons name names ih =>
    rw [walkFrom_cons (entryAt?_of_walkFrom (List.cons_ne_nil _ _) walked)] at walked
    rw [List.foldlM_cons]
    cases stepped : step start name with
    | error error => simp [stepped, Except.bind] at walked
    | ok next =>
      rw [stepped] at walked
      exact ih walked

theorem named_of_walk (walked : files.walk path = .ok place) : named path = .ok place := by
  rw [walk, Except.bind_eq_ok_iff] at walked
  obtain ⟨_, -, walked⟩ := walked
  exact foldlM_of_walkFrom walked

theorem named_of_target (resolved : files.target path = .ok place) : named path = .ok place :=
  named_of_walk (walk_of_target resolved)

/-! ## File systems that agree on the way -/

/-- A walk comes to the same where the places on its way hold the same. -/
theorem walkFrom_congr
    (agree : ∀ place, PassesFrom start names place → other.entryAt? place = files.entryAt? place) :
    other.walkFrom start names = files.walkFrom start names := by
  induction names generalizing start with
  | nil => rfl
  | cons name names ih =>
    rw [walkFrom, walkFrom, agree start passesFrom_start]
    cases files.entryAt? start with
    | none => rfl
    | some entry =>
      cases entry with
      | file content => rfl
      | directory =>
        cases stepped : step start name with
        | error error => rfl
        | ok next =>
          exact ih fun place passes => agree place ((passesFrom_cons stepped).mpr (.inr passes))

theorem walk_congr
    (agree : ∀ place, Passes path place → other.entryAt? place = files.entryAt? place) :
    other.walk path = files.walk path := by
  rw [walk, walk, walkFrom_congr agree]

theorem read_congr
    (agree : ∀ place, Passes path place → other.entryAt? place = files.entryAt? place) :
    other.read path = files.read path := by
  rw [read, read, walk_congr agree]
  cases walked : files.walk path with
  | error error => rfl
  | ok place =>
    rw [Except.ok_bind, Except.ok_bind, agree place (passes_of_named (named_of_walk walked))]

/-- Empty names lead nowhere else. -/
theorem foldlM_filter (start : Place) (names : List String) :
    (names.filter (· ≠ "")).foldlM step start = names.foldlM step start := by
  induction names generalizing start with
  | nil => rfl
  | cons name names ih =>
    by_cases empty : name = ""
    · subst empty
      have stays : step start "" = .ok start := rfl
      rw [List.filter_cons_of_neg (by simp), List.foldlM_cons, stays, Except.ok_bind, ih]
    · rw [List.filter_cons_of_pos (by simpa using empty), List.foldlM_cons, List.foldlM_cons]
      congr 1
      funext next
      exact ih next

/-- On the way to the directory of a file there are only places on the way to the file. -/
theorem passes_of_parent
    (passes : PassesFrom [] (((pieces path).filter (· ≠ "")).dropLast ++ ["."]) place) :
    Passes path place := by
  obtain ⟨first, begins, led⟩ := passes
  -- The name `.` at the end stands for the place that is reached before it.
  obtain ⟨first, begins, led⟩ : ∃ first, first <+: ((pieces path).filter (· ≠ "")).dropLast ∧
      first.foldlM step [] = .ok place := by
    obtain rfl | begins := List.prefix_concat_iff.mp begins
    · refine ⟨_, List.prefix_rfl, ?_⟩
      rw [List.foldlM_append, Except.bind_eq_ok_iff] at led
      obtain ⟨parent, led, stays⟩ := led
      cases stays
      exact led
    · exact ⟨first, begins, led⟩
  obtain ⟨others, together⟩ := begins.trans (List.dropLast_prefix _)
  obtain ⟨front, rest, apart, rfl, -⟩ := List.filter_eq_append_iff.mp together.symm
  exact ⟨front, ⟨rest, apart.symm⟩, by rw [← foldlM_filter, led]⟩

theorem target_congr
    (agree : ∀ place, Passes path place → other.entryAt? place = files.entryAt? place) :
    other.target path = files.target path := by
  simp only [target]
  rw [walkFrom_congr fun place passes => agree place (passes_of_parent passes)]

/-! ## Where a file can be written -/

/-- The place of the file that is written at a path, which may not be a directory. -/
def writable (files : FileSystem) (path : String) : Except IoError Place := do
  let place ← files.target path
  if files.entryAt? place = some .directory then throw .isADirectory
  return place

theorem writable_eq_ok_iff : files.writable path = .ok place ↔
    files.target path = .ok place ∧ files.entryAt? place ≠ some .directory := by
  rw [writable, Except.bind_eq_ok_iff]
  constructor
  · rintro ⟨reached, resolved, free⟩
    split at free
    · cases free
    · next vacant =>
      cases free
      exact ⟨resolved, vacant⟩
  · rintro ⟨resolved, vacant⟩
    exact ⟨place, resolved, by rw [if_neg vacant]; rfl⟩

/-- Writing puts a file at that place. -/
theorem write_eq (files : FileSystem) (path : String) (content : Bytes) :
    files.write path content = (files.writable path).map (files.put · content) := by
  rw [write, writable]
  cases files.target path with
  | error error => rfl
  | ok place =>
    simp only [Except.ok_bind]
    split
    · next isDirectory => rw [if_pos isDirectory]; rfl
    · next free => rw [if_neg free]; rfl

theorem writable_congr
    (agree : ∀ place, Passes path place → other.entryAt? place = files.entryAt? place) :
    other.writable path = files.writable path := by
  rw [writable, writable, target_congr agree]
  cases resolved : files.target path with
  | error error => rfl
  | ok place =>
    rw [Except.ok_bind, Except.ok_bind, agree place (passes_of_named (named_of_target resolved))]

/-! ## File systems that agree off a place -/

/-- Two file systems have the same entries everywhere but at a place. -/
def AgreesOff (place : Place) (other files : FileSystem) : Prop :=
  ∀ elsewhere, elsewhere ≠ place → other.entries[elsewhere]? = files.entries[elsewhere]?

theorem agreesOff_put : (files.put place content).AgreesOff place files := by
  intro elsewhere ne
  simp [put, Std.ExtTreeMap.getElem?_insert, ne.symm]

namespace AgreesOff

variable (agrees : other.AgreesOff place files)
include agrees

theorem entryAt?_eq {elsewhere : Place} (ne : elsewhere ≠ place) :
    other.entryAt? elsewhere = files.entryAt? elsewhere := by
  rw [entryAt?, entryAt?, agrees elsewhere ne]

/-- What is put at the place makes up for all differences. -/
theorem put_eq (content : Bytes) : other.put place content = files.put place content := by
  have same : other.entries.insert place (.file content) =
      files.entries.insert place (.file content) := by
    apply Std.ExtTreeMap.ext_getElem?
    intro elsewhere
    by_cases here : elsewhere = place
    · simp [here]
    · simp [Std.ExtTreeMap.getElem?_insert, Ne.symm here, agrees elsewhere here]
  rw [put, put, same]

/-- What is a directory stays one, if there is none at the place. -/
theorem directory_of_directory (free : files.entryAt? place ≠ some .directory)
    {elsewhere : Place} (directory : files.entryAt? elsewhere = some .directory) :
    other.entryAt? elsewhere = some .directory := by
  rw [agrees.entryAt?_eq, directory]
  rintro rfl
  exact free directory

/-- A walk that succeeds passes directories only, so the place is not in its way. -/
theorem walkFrom_eq (free : files.entryAt? place ≠ some .directory) {last : Place}
    (walked : files.walkFrom start names = .ok last) : other.walkFrom start names = .ok last :=
  walkFrom_of_directories (fun _ => agrees.directory_of_directory free) walked

theorem read_eq (free : files.entryAt? place ≠ some .directory)
    (apart : files.walk path ≠ .ok place) (found : files.read path = .ok content) :
    other.read path = .ok content := by
  rw [read, Except.bind_eq_ok_iff] at found
  obtain ⟨last, walked, held⟩ := found
  have elsewhere : last ≠ place := by
    rintro rfl
    exact apart walked
  rw [walk, Except.bind_eq_ok_iff] at walked
  obtain ⟨_, accepted, walked⟩ := walked
  rw [read, walk, accepted, Except.ok_bind, agrees.walkFrom_eq free walked, Except.ok_bind,
    agrees.entryAt?_eq elsewhere]
  exact held

theorem target_eq (free : files.entryAt? place ≠ some .directory) {last : Place}
    (resolved : files.target path = .ok last) : other.target path = .ok last := by
  simp only [target, Except.bind_eq_ok_iff] at resolved ⊢
  obtain ⟨_, accepted, parent, walked, rest⟩ := resolved
  exact ⟨_, accepted, parent, agrees.walkFrom_eq free walked, rest⟩

end AgreesOff

/-- Files at two places are put there in any order. -/
theorem put_comm {elsewhere : Place} (ne : place ≠ elsewhere) (content content' : Bytes) :
    (files.put place content).put elsewhere content' =
      (files.put elsewhere content').put place content := by
  have same : (files.entries.insert place (.file content)).insert elsewhere (.file content') =
      (files.entries.insert elsewhere (.file content')).insert place (.file content) := by
    apply Std.ExtTreeMap.ext_getElem?
    intro third
    simp only [Std.ExtTreeMap.getElem?_insert, Std.LawfulEqCmp.compare_eq_iff_eq]
    split
    · next here =>
      subst here
      rw [if_neg ne]
    · rfl
  rw [put, put, put, put, same]

end FileSystem

/-! ## Extractions -/

/-- An extraction from one file to another. -/
structure Extraction where
  /-- The password, if one is set. -/
  password : Option String
  /-- The path of the PDF. -/
  source : String
  /-- The path of the text. -/
  destination : String
  deriving DecidableEq, Repr

namespace Extraction

open FileSystem

variable {job other first second : Extraction} {files before after : FileSystem} {summary : Summary}

/-- What comes of an extraction, and the files after it. -/
def run (job : Extraction) (files : FileSystem) : Except (Halt ExtractError) Summary × FileSystem :=
  let extractor : Extractor := { password := job.password }
  (extractor.extractToFile FileSystem.surroundings job.source job.destination).run.run files

/-- What comes of extractions one after the other, and the files after all of them. -/
def runAll : List Extraction → FileSystem → List (Except (Halt ExtractError) Summary) × FileSystem
  | [], files => ([], files)
  | job :: rest, files =>
    let (result, between) := job.run files
    let (results, after) := runAll rest between
    (result :: results, after)

/-- What an extraction comes to: a failure, or a summary with the place and the content of the file
that is written. -/
abbrev Effect := Except (Halt ExtractError) (Summary × Place × Bytes)

/-- What comes of doing so, and the files after it. -/
def Effect.on (effect : Effect) (files : FileSystem) :
    Except (Halt ExtractError) Summary × FileSystem :=
  match effect with
  | .error reason => (.error reason, files)
  | .ok (summary, place, content) => (.ok summary, files.put place content)

/-- What an extraction comes to on a file system. -/
def effect (job : Extraction) (files : FileSystem) : Effect := do
  let file ← (files.read job.source).mapError fun error => .cause (.io error)
  let (document, texts) ← ({ password := job.password } : Extractor).textsOf file
  let text := Utf8.encode (joinPages texts)
  let place ← (files.writable job.destination).mapError fun error => .cause (.io error)
  return ({ pages := document.pageCount, bytesWritten := text.length }, place, text)

/-- An extraction finds out what it comes to before it changes anything. -/
theorem run_eq (job : Extraction) (files : FileSystem) :
    job.run files = (job.effect files).on files := by
  rw [run, Extractor.run_extractToFile, effect]
  cases found : files.read job.source with
  | error error => rfl
  | ok file =>
    cases made : ({ password := job.password } : Extractor).textsOf file with
    | error reason => simp [made, Effect.on]
    | ok result =>
      cases free : files.writable job.destination <;>
        simp [made, write_eq, free, Except.map, Effect.on]

/-- An extraction that comes to writing a file writes it to the place that its path names, where no
directory is. -/
theorem writable_of_effect {place : Place} {content : Bytes}
    (comes : job.effect files = .ok (summary, place, content)) :
    files.writable job.destination = .ok place := by
  simp only [effect, Except.bind_eq_ok_iff, Except.mapError_eq_ok_iff] at comes
  obtain ⟨file, -, result, -, reached, free, same⟩ := comes
  cases same
  exact free

/-- An extraction that succeeds has come to writing a file. -/
theorem effect_of_run (done : job.run files = (.ok summary, after)) :
    ∃ place content, job.effect files = .ok (summary, place, content) ∧
      after = files.put place content := by
  rw [run_eq] at done
  cases comes : job.effect files with
  | error reason => simp [comes, Effect.on] at done
  | ok result =>
    obtain ⟨summary', place, content⟩ := result
    obtain ⟨rfl, rfl⟩ : summary' = summary ∧ files.put place content = after := by
      simpa [comes, Effect.on] using done
    exact ⟨place, content, rfl, rfl⟩

/-- What an extraction comes to depends on the places that its paths pass. -/
theorem effect_congr
    (agree : ∀ place, Passes job.source place ∨ Passes job.destination place →
      before.entryAt? place = files.entryAt? place) :
    job.effect before = job.effect files := by
  rw [effect, effect, read_congr fun place passes => agree place (.inl passes),
    writable_congr fun place passes => agree place (.inr passes)]

/-! ## Repeated extractions -/

/-- An extraction that succeeds does so as well, with the same files after it, whatever was in the
file that it writes to, as long as that is not the file that it reads from. -/
theorem run_of_agreesOff {place : Place} (done : job.run files = (.ok summary, after))
    (apart : files.walk job.source ≠ .ok place) (resolved : files.walk job.destination = .ok place)
    (agrees : before.AgreesOff place files) (free : before.entryAt? place ≠ some .directory) :
    job.run before = (.ok summary, after) := by
  obtain ⟨reached, content, comes, rfl⟩ := effect_of_run done
  obtain ⟨targeted, vacant⟩ := writable_eq_ok_iff.mp (writable_of_effect comes)
  obtain rfl : reached = place := by
    simpa [walk_of_target targeted] using resolved
  -- Both paths lead to where they lead on the other file system, and the source holds the same.
  have again : job.effect before = .ok (summary, reached, content) := by
    simp only [effect, Except.bind_eq_ok_iff, Except.mapError_eq_ok_iff] at comes ⊢
    obtain ⟨file, found, result, made, _, -, same⟩ := comes
    cases same
    exact ⟨file, agrees.read_eq vacant apart found, result, made, _,
      writable_eq_ok_iff.mpr ⟨agrees.target_eq vacant targeted, free⟩, rfl⟩
  rw [run_eq, again, Effect.on, agrees.put_eq]

/-- An extraction that has succeeded is repeated without any change. -/
theorem run_of_run (done : job.run files = (.ok summary, after))
    (apart : files.walk job.source ≠ files.walk job.destination) :
    job.run after = (.ok summary, after) := by
  obtain ⟨place, content, comes, rfl⟩ := effect_of_run done
  obtain ⟨targeted, vacant⟩ := writable_eq_ok_iff.mp (writable_of_effect comes)
  have resolved := walk_of_target targeted
  refine run_of_agreesOff done (resolved ▸ apart) resolved agreesOff_put ?_
  simp [entryAt?_put_self (ne_root_of_entryAt? vacant)]

theorem runAll_replicate (stays : job.run files = (.ok summary, files)) (times : Nat) :
    runAll (List.replicate times job) files = (List.replicate times (.ok summary), files) := by
  induction times with
  | zero => rfl
  | succ times ih => simp only [List.replicate_succ, runAll, stays, ih]

/-! ## Independent extractions -/

/-- An extraction writes to no place that a path of another one passes: neither to a file that the
other one reads or writes, nor to anything above it. -/
def KeepsClearOf (job other : Extraction) : Prop :=
  ∀ place, named job.destination = .ok place →
    ¬ Passes other.source place ∧ ¬ Passes other.destination place

/-- On paths without two dots, it is enough to compare the places that they name. -/
theorem keepsClearOf_of_named {place source destination : Place}
    (written : named job.destination = .ok place)
    (plain : ".." ∉ pieces other.source) (plain' : ".." ∉ pieces other.destination)
    (reads : named other.source = .ok source) (writes : named other.destination = .ok destination)
    (off : ¬ place <+: source) (off' : ¬ place <+: destination) : job.KeepsClearOf other := by
  intro elsewhere written'
  obtain rfl : elsewhere = place := Except.ok.inj (written'.symm.trans written)
  exact ⟨fun passes => off ((passes_iff plain reads).mp passes),
    fun passes => off' ((passes_iff plain' writes).mp passes)⟩

/-- After an extraction that keeps clear of another one, the other one comes to the same. -/
theorem KeepsClearOf.effect_eq (clear : first.KeepsClearOf second) (files : FileSystem) :
    second.effect (first.run files).2 = second.effect files := by
  rw [run_eq]
  cases comes : first.effect files with
  | error reason => rfl
  | ok result =>
    obtain ⟨summary, place, content⟩ := result
    obtain ⟨targeted, -⟩ := writable_eq_ok_iff.mp (writable_of_effect comes)
    obtain ⟨offSource, offDestination⟩ := clear place (named_of_target targeted)
    refine effect_congr fun elsewhere passes => entryAt?_put_of_ne ?_
    rintro rfl
    exact passes.elim offSource offDestination

/-- The result is part of what an extraction comes to. -/
theorem Effect.on_fst (effect : Effect) (files : FileSystem) :
    (effect.on files).1 = effect.map Prod.fst := by
  cases effect <;> rfl

/-- What two extractions come to is done in any order, if they write to two places. -/
theorem Effect.on_comm {effect effect' : Effect}
    (apart : ∀ summary place content summary' place' content',
      effect = .ok (summary, place, content) → effect' = .ok (summary', place', content') →
      place ≠ place') (files : FileSystem) :
    (effect.on (effect'.on files).2).2 = (effect'.on (effect.on files).2).2 := by
  cases effect with
  | error reason => rfl
  | ok result =>
    cases effect' with
    | error reason => rfl
    | ok result' => exact (put_comm (apart _ _ _ _ _ _ rfl rfl) _ _).symm

/-- An extraction has the same result after another one that keeps clear of it. -/
theorem KeepsClearOf.result_eq (clear : first.KeepsClearOf second) (files : FileSystem) :
    (second.run (first.run files).2).1 = (second.run files).1 := by
  rw [run_eq second, clear.effect_eq, run_eq second, Effect.on_fst, Effect.on_fst]

/-- Two extractions that keep clear of each other lead to the same files in any order. -/
theorem KeepsClearOf.files_eq (clear : first.KeepsClearOf second)
    (clear' : second.KeepsClearOf first) (files : FileSystem) :
    (second.run (first.run files).2).2 = (first.run (second.run files).2).2 := by
  have apart : ∀ summary place content summary' place' content',
      second.effect files = .ok (summary, place, content) →
      first.effect files = .ok (summary', place', content') → place ≠ place' := by
    intro summary place content summary' place' content' comes comes'
    obtain ⟨targeted, -⟩ := writable_eq_ok_iff.mp (writable_of_effect comes)
    obtain ⟨targeted', -⟩ := writable_eq_ok_iff.mp (writable_of_effect comes')
    rintro rfl
    exact (clear place (named_of_target targeted')).2 (passes_of_named (named_of_target targeted))
  rw [run_eq second, clear.effect_eq, run_eq first (second.run files).2, clear'.effect_eq,
    run_eq first, run_eq second, Effect.on_comm apart]

/-- Extractions that all keep clear of each other may be done in any order: each of them has the
same result, and the files after all of them are the same. -/
theorem runAll_perm {jobs jobs' : List Extraction} (reordered : jobs.Perm jobs')
    (clear : jobs.Pairwise fun job other => job.KeepsClearOf other ∧ other.KeepsClearOf job)
    (files : FileSystem) :
    (runAll jobs files).2 = (runAll jobs' files).2 ∧
      (jobs.zip (runAll jobs files).1).Perm (jobs'.zip (runAll jobs' files).1) := by
  -- By induction on the reordering. Only where two jobs change places is there something to show.
  induction reordered generalizing files with
  | nil => exact ⟨rfl, .nil⟩
  | cons job _ ih =>
    obtain ⟨after, results⟩ := ih (List.Pairwise.of_cons clear) (job.run files).2
    exact ⟨after, results.cons _⟩
  | swap first second rest =>
    obtain ⟨clear', clear⟩ := (List.pairwise_cons.mp clear).1 first List.mem_cons_self
    simp only [runAll, List.zip_cons_cons]
    rw [clear.result_eq, clear'.result_eq, clear.files_eq clear']
    exact ⟨rfl, .swap _ _ _⟩
  | trans reordered _ ih ih' =>
    obtain ⟨after, results⟩ := ih clear files
    have clear := (reordered.pairwise_iff fun {_ _} => And.symm).mp clear
    obtain ⟨after', results'⟩ := ih' clear files
    exact ⟨after.trans after', results.trans results'⟩

/-- Two extractions that keep clear of each other have the same results, and lead to the same files,
in any order. -/
theorem runAll_swap (clear : first.KeepsClearOf second) (clear' : second.KeepsClearOf first)
    (files : FileSystem) :
    runAll [second, first] files =
      ((runAll [first, second] files).1.reverse, (runAll [first, second] files).2) := by
  simp only [runAll, List.reverse_cons, List.reverse_nil, List.nil_append, List.singleton_append]
  rw [clear.result_eq, clear'.result_eq, clear.files_eq clear']

/-- An extraction that succeeds, from one file to another, may be repeated: it has the same summary
every time and changes nothing any more, and what was in the file that it writes to does not matter.
Two extractions neither of which writes to a place that a path of the other one passes may be done
in any order, whether they succeed or fail. -/
theorem runs_compose (first second : Extraction) (files : FileSystem) :
    (∀ summary after, first.run files = (.ok summary, after) →
      files.walk first.source ≠ files.walk first.destination →
      (∀ times, runAll (List.replicate times first) after =
        (List.replicate times (.ok summary), after)) ∧
      ∃ place, files.walk first.destination = .ok place ∧
        ∀ before : FileSystem, before.AgreesOff place files →
          before.entryAt? place ≠ some .directory → first.run before = (.ok summary, after)) ∧
    (first.KeepsClearOf second → second.KeepsClearOf first →
      runAll [second, first] files =
        ((runAll [first, second] files).1.reverse, (runAll [first, second] files).2)) := by
  refine ⟨fun summary after done apart => ⟨runAll_replicate (run_of_run done apart), ?_⟩,
    fun clear clear' => runAll_swap clear clear' files⟩
  obtain ⟨place, _, comes, -⟩ := effect_of_run done
  have resolved := walk_of_target (writable_eq_ok_iff.mp (writable_of_effect comes)).1
  exact ⟨place, resolved, fun before agrees free =>
    run_of_agreesOff done (resolved ▸ apart) resolved agrees free⟩

/-- Two extractions from a booklet: the first is repeated, and both are done in any order. -/
theorem runs_compose_hi :
    let first : Extraction := ⟨none, "in.pdf", "one.txt"⟩
    let second : Extraction := ⟨"x", "in.pdf", "two.txt"⟩
    let files := FileSystem.empty.put ["in.pdf"] (Booklet.plainFile (["Hi"].map Booklet.operations))
    (∃ summary after, first.run files = (.ok summary, after) ∧
      files.walk first.source ≠ files.walk first.destination ∧
      ∀ times, runAll (List.replicate times first) after =
        (List.replicate times (.ok summary), after)) ∧
    first.KeepsClearOf second ∧ second.KeepsClearOf first ∧
    runAll [second, first] files =
      ((runAll [first, second] files).1.reverse, (runAll [first, second] files).2) := by
  intro first second files
  have source : named "in.pdf" = .ok ["in.pdf"] := rfl
  have one : named "one.txt" = .ok ["one.txt"] := rfl
  have two : named "two.txt" = .ok ["two.txt"] := rfl
  have clear : first.KeepsClearOf second :=
    keepsClearOf_of_named one (by decide +kernel) (by decide +kernel) source two (by decide)
      (by decide)
  have clear' : second.KeepsClearOf first :=
    keepsClearOf_of_named two (by decide +kernel) (by decide +kernel) source one (by decide)
      (by decide)
  have apart : files.walk first.source ≠ files.walk first.destination := by
    have walked : files.walk "in.pdf" = .ok ["in.pdf"] := by rfl
    have walked' : files.walk "one.txt" = .ok ["one.txt"] := by rfl
    rw [walked, walked']
    exact nofun
  have found : files.read "in.pdf" = .ok (Booklet.plainFile (["Hi"].map Booklet.operations)) := by
    rfl
  have wrote (text : Bytes) :
      files.write "one.txt" text = .ok (files.put ["one.txt"] text) := by rfl
  obtain ⟨-, summary, done⟩ := (Extractor.givesAlways {} _).writes files _ _ _ _ found
    (Booklet.fromBytes_plainFile {} Booklet.fits_hi) (wrote _)
  obtain ⟨composes, swaps⟩ := runs_compose first second files
  exact ⟨⟨summary, _, done, apart, (composes _ _ done apart).1⟩, clear, clear', swaps clear clear'⟩

end Extraction

end PdfText

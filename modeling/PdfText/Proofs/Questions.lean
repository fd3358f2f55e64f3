import PdfText.PageCursor
import PdfText.Proofs.Notes

/-!
# What a source is asked

Whoever extracts the text of a source asks it how many pages it has, and then goes over them with a
cursor. The source may answer as it likes: its answers may depend on a state that every question
changes, and it need not have as many pages as it says.

The questions are kept in a log. There is one for the number of pages, and then one for each page in
ascending order, until all pages are there or one of them fails. So the text is that of all pages,
or there is none.

## Main definitions

* `PageSource.walk` — the text of a source, page by page, with a cursor
* `PageSource.logged` — a source that keeps a log of what it is asked
* `PageSource.Gives` — pages in a row that give their texts

## Main results

* `PageSource.extract_eq_walk` — the text of a source is put together page by page
* `PageSource.runCollect_cases` — what a cursor leads to, and what is asked on the way
* `PageSource.extract_asks_in_order` — what a whole run asks for, and its result
-/

namespace PdfText

/-! ## Going over pages with a cursor -/

namespace PageCursor

variable {cursor later : PageCursor} {index : Nat}

/-- A cursor that gives no page has none to come. -/
theorem length_of_next?_eq_none (ended : cursor.next? = (none, later)) : cursor.length = 0 := by
  unfold next? at ended
  split at ended
  · cases ended
  · next done =>
    rw [length]
    omega

/-- A cursor gives the page at its place, and goes on by one. -/
theorem eq_of_next?_eq_some (given : cursor.next? = (some index, later)) :
    index = cursor.next ∧ later = { cursor with next := cursor.next + 1 } ∧
      cursor.length = later.length + 1 := by
  unfold next? at given
  split at given
  · next more =>
    cases given
    refine ⟨rfl, rfl, ?_⟩
    simp only [length]
    omega
  · cases given

end PageCursor

namespace PageSource

section Walk

variable {m : Type → Type} [Monad m]

/-- Adds the pages that a cursor has to come to a text, each with the separator after it. -/
def collect (source : PageSource m) (cursor : PageCursor) (text : String) :
    ExceptT (Halt ExtractError) m String :=
  match _given : cursor.next? with
  | (none, _) => return text
  | (some index, later) => do
    let page ← source.pageText index
    collect source later (text ++ page ++ pageSeparator)
termination_by cursor.length
decreasing_by
  have shorter := (PageCursor.eq_of_next?_eq_some _given).2.2
  omega

/-- The text of all pages, put together with a cursor. -/
def walk (source : PageSource m) : ExceptT (Halt ExtractError) m String := do
  let count ← source.pageCount
  source.collect (.start count) ""

theorem collect_of_none (source : PageSource m) {cursor later : PageCursor} (text : String)
    (ended : cursor.next? = (none, later)) : source.collect cursor text = pure text := by
  rw [collect]
  split
  · rfl
  · next given =>
    rw [given] at ended
    cases ended

theorem collect_of_some (source : PageSource m) {cursor later : PageCursor} {index : Nat}
    (text : String) (given : cursor.next? = (some index, later)) :
    source.collect cursor text =
      source.pageText index >>= fun page => source.collect later (text ++ page ++ pageSeparator) := by
  rw [collect]
  split
  · next ended =>
    rw [given] at ended
    cases ended
  · next given' =>
    rw [given] at given'
    cases given'
    rfl

variable [LawfulMonad m]

theorem collect_eq (source : PageSource m) (cursor : PageCursor) (text : String) :
    source.collect cursor text = do
      let texts ← source.texts cursor.length cursor.next
      return text ++ joinPages texts := by
  -- By induction on the number of pages to come. It is zero exactly when the cursor has ended, so
  -- two of the four cases contradict themselves.
  induction length : cursor.length generalizing cursor text with
  | zero =>
    rcases given : cursor.next? with ⟨_ | index, later⟩
    · rw [collect_of_none source text given, texts, pure_bind]
      simp [joinPages]
    · have := (PageCursor.eq_of_next?_eq_some given).2.2
      omega
  | succ count ih =>
    rcases given : cursor.next? with ⟨_ | index, later⟩
    · have := PageCursor.length_of_next?_eq_none given
      omega
    · obtain ⟨rfl, rfl, shorter⟩ := PageCursor.eq_of_next?_eq_some given
      rw [collect_of_some source text given, texts, bind_assoc]
      congr 1
      funext page
      rw [ih _ _ (by omega), bind_assoc]
      congr 1
      funext pages
      rw [pure_bind, joinPages_cons]
      simp [String.append_assoc]

/-- The text of a source is put together page by page. -/
theorem extract_eq_walk (source : PageSource m) : source.extract = source.walk := by
  simp only [extract, walk, collect_eq]
  congr 1

end Walk

end PageSource

/-! ## The log -/

/-- What a source is asked. -/
inductive Question where
  /-- How many pages there are. -/
  | pageCount
  /-- What the text of the page at an index is. -/
  | pageText (index : Nat)
  deriving DecidableEq, Repr

namespace PageSource

/-- A source that keeps a log of what it is asked. -/
def logged {m : Type → Type} [Monad m] (source : PageSource m) :
    PageSource (StateT (List Question) m) where
  pageCount := do
    modify (· ++ [.pageCount])
    source.pageCount
  pageText index := ExceptT.mk do
    modify (· ++ [.pageText index])
    (source.pageText index).run

/-- The log has no bearing on the answers. -/
theorem forgets_logged {m : Type → Type} [Monad m] [LawfulMonad m] (source : PageSource m) :
    source.logged.Forgets source where
  pageCount := fun log => by simp [logged]
  pageText index := fun log => by simp [logged]

/-! ## Sources with a state -/

variable {σ : Type} {source : PageSource (StateM σ)}

/-- Pages in a row, from an index on, give their texts, where each question may change the state of
the source. -/
inductive Gives (source : PageSource (StateM σ)) : Nat → σ → List String → σ → Prop
  /-- No page is asked for. -/
  | nil {index : Nat} {state : σ} : Gives source index state [] state
  /-- One more page is asked for before the others. -/
  | cons {index : Nat} {state next last : σ} {text : String} {texts : List String} :
    (source.pageText index).run.run state = (.ok text, next) →
    Gives source (index + 1) next texts last → Gives source index state (text :: texts) last

/-- Going over pages with a cursor, from a log and a state. -/
def runCollect (source : PageSource (StateM σ)) (cursor : PageCursor) (text : String)
    (log : List Question) (state : σ) :
    (Except (Halt ExtractError) String × List Question) × σ :=
  ((source.logged.collect cursor text).run.run log).run state

theorem runCollect_of_none {cursor later : PageCursor} (ended : cursor.next? = (none, later))
    (text : String) (log : List Question) (state : σ) :
    source.runCollect cursor text log state = ((.ok text, log), state) := by
  rw [runCollect, collect_of_none _ _ ended]
  rfl

/-- A cursor asks for the page at its place. It goes on only if that page is given. -/
theorem runCollect_of_some {cursor later : PageCursor} {index : Nat}
    (given : cursor.next? = (some index, later)) (text : String) (log : List Question) (state : σ) :
    source.runCollect cursor text log state =
      match (source.pageText index).run.run state with
      | (.error reason, next) => ((.error reason, log ++ [.pageText index]), next)
      | (.ok page, next) =>
        source.runCollect later (text ++ page ++ pageSeparator) (log ++ [.pageText index]) next := by
  rw [runCollect, collect_of_some _ _ given]
  have asked : ((source.logged.pageText index).run.run log).run state =
      let (answer, next) := (source.pageText index).run.run state
      ((answer, log ++ [.pageText index]), next) := rfl
  rw [ExceptT.run_bind, StateT.run_bind, StateT.run_bind, asked]
  rcases (source.pageText index).run.run state with ⟨_ | page, next⟩
  · rfl
  · rfl

/-- What a cursor leads to, and what is asked on the way. Either all pages that are to come give
their texts, or one of them fails, and that is the last one asked for. -/
theorem runCollect_cases (cursor : PageCursor) (text : String) (log : List Question) (state : σ) :
    (∃ texts last, texts.length = cursor.length ∧ source.Gives cursor.next state texts last ∧
      source.runCollect cursor text log state =
        ((.ok (text ++ joinPages texts),
          log ++ (List.range' cursor.next texts.length).map .pageText), last)) ∨
    ∃ texts next reason last, texts.length < cursor.length ∧
      source.Gives cursor.next state texts next ∧
      (source.pageText (cursor.next + texts.length)).run.run next = (.error reason, last) ∧
      source.runCollect cursor text log state =
        ((.error reason,
          log ++ (List.range' cursor.next (texts.length + 1)).map .pageText), last) := by
  -- By induction on the number of pages to come, for all logs and states, since both have changed
  -- when the next page is asked for.
  induction length : cursor.length generalizing cursor text log state with
  | zero =>
    rcases given : cursor.next? with ⟨_ | index, later⟩
    · refine .inl ⟨[], state, rfl, .nil, ?_⟩
      rw [runCollect_of_none given]
      simp [joinPages]
    · have := (PageCursor.eq_of_next?_eq_some given).2.2
      omega
  | succ count ih =>
    rcases given : cursor.next? with ⟨_ | index, later⟩
    · have := PageCursor.length_of_next?_eq_none given
      omega
    obtain ⟨rfl, rfl, shorter⟩ := PageCursor.eq_of_next?_eq_some given
    rw [runCollect_of_some given]
    rcases asked : (source.pageText cursor.next).run.run state with ⟨reason | page, next⟩
    -- The page fails, and no other is asked for.
    · exact .inr ⟨[], state, reason, next, by simp, .nil, asked, rfl⟩
    simp only
    rcases ih { cursor with next := cursor.next + 1 } (text ++ page ++ pageSeparator)
        (log ++ [.pageText cursor.next]) next (by omega) with
      ⟨texts, last, all, gives, ran⟩ | ⟨texts, middle, reason, last, few, gives, failed, ran⟩
    · refine .inl ⟨page :: texts, last, by simp [all], .cons asked gives, ?_⟩
      rw [ran, joinPages_cons, List.length_cons, List.range'_succ]
      simp [String.append_assoc]
    · refine .inr ⟨page :: texts, middle, reason, last, by simpa using few, .cons asked gives, ?_, ?_⟩
      · rw [← failed, List.length_cons, Nat.add_right_comm, Nat.add_assoc]
      · have listed : List.range' cursor.next (texts.length + 1 + 1) =
            cursor.next :: List.range' (cursor.next + 1) (texts.length + 1) := List.range'_succ
        rw [ran, List.length_cons, listed, List.map_cons, List.append_assoc, List.singleton_append]

/-- A source is asked for the number of its pages once, before all else, and then for its pages in
ascending order. If one of them fails, it is the last one asked for, and its failure is the result.
Otherwise all pages are asked for, as many as the source has said, and the result is their texts,
unchanged, each with two line ends after it. The state of the source may change with every question,
and a log of the questions makes no difference to the result. -/
theorem extract_asks_in_order (source : PageSource (StateM σ)) (state : σ) :
    let ((result, log), last) := (source.logged.extract.run.run []).run state
    source.extract.run.run state = (result, last) ∧
    ∃ count first, source.pageCount.run state = (count, first) ∧
      ((∃ texts, texts.length = count ∧ source.Gives 0 first texts last ∧
          result = .ok (String.join (texts.map (· ++ "\n\n"))) ∧
          log = .pageCount :: (List.range count).map .pageText) ∨
        ∃ texts next reason, texts.length < count ∧ source.Gives 0 first texts next ∧
          (source.pageText texts.length).run.run next = (.error reason, last) ∧
          result = .error reason ∧
          log = .pageCount :: (List.range (texts.length + 1)).map .pageText) := by
  have same := source.forgets_logged.extract []
  have walked : (source.logged.extract.run.run []).run state =
      source.runCollect (.start (source.pageCount.run state).1) "" [.pageCount]
        (source.pageCount.run state).2 := by
    rw [extract_eq_walk]
    rfl
  rcases ran : (source.logged.extract.run.run []).run state with ⟨⟨result, log⟩, last⟩
  have unlogged : source.extract.run.run state = (result, last) := by
    rw [← same]
    change ((source.logged.extract.run.run []).run state).map Prod.fst id = _
    rw [ran]
    rfl
  refine ⟨unlogged, _, _, rfl, ?_⟩
  rw [walked] at ran
  have start : (PageCursor.start (source.pageCount.run state).1).next = 0 := rfl
  have length : (PageCursor.start (source.pageCount.run state).1).length =
    (source.pageCount.run state).1 := rfl
  rcases source.runCollect_cases (.start (source.pageCount.run state).1) "" [.pageCount]
    (source.pageCount.run state).2 with
    ⟨texts, last', all, gives, found⟩ | ⟨texts, next, reason, last', few, gives, failed, found⟩
  all_goals
    rw [found, start] at ran
    cases ran
  · rw [length] at all
    refine .inl ⟨texts, all, gives, ?_, ?_⟩
    · rw [String.empty_append]
      rfl
    · rw [all, List.range_eq_range']
      rfl
  · rw [start, Nat.zero_add] at failed
    refine .inr ⟨texts, next, reason, few, gives, failed, rfl, ?_⟩
    rw [List.range_eq_range']
    rfl

end PageSource

end PdfText

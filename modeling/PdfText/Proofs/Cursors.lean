import Mathlib.Data.List.Basic
import PdfText.Proofs.Questions

/-!
# Cursors at work

A cursor is asked for the next page, for one further on, for the pages that are to come, for their
number or for the last of them. To whoever asks it is the list of the pages to come: each answer is
what this list would give, and what is left of the cursor is what is left of the list.

All answers can be had from the next page alone, taken again and again, together with the difference
of the two numbers that a cursor consists of. This is how an iterator gets them that only knows its
next page. Its numbers are words of 64 bits, so it has to be shown that none of the sums and
differences leaves the words. They do not, since the place of a cursor is never beyond its end.

Any number of cursors may be at work on the same source. Each of them is made with one question for
the number of pages, and none of them asks anything after that or changes another one.

## Main definitions

* `PageCursor.Request`, `PageCursor.Reply` — what a cursor is asked and what it answers
* `PageCursor.answer` — the answer of a cursor, `PageCursor.answerOf` — that of a list of pages
* `PageCursor.answerInWords?` — the answer from the next page alone, in words
* `PageCursor.Leads` — what happens to one cursor, `PageCursor.Exchange.IsFaithful` — what should
* `PageSource.runCursors` — cursors at work on a source

## Main results

* `PageCursor.answer_remaining` — a cursor answers as the list of its pages to come
* `PageCursor.answerInWords?_eq` — the next page alone leads to the same answers, within the words
* `PageSource.runCursors_cases` — what happens to each of several cursors, and what is asked
* `PageSource.cursors_follow_lists` — both together
-/

namespace PdfText

namespace PageCursor

/-! ## Requests and answers -/

/-- What a cursor can be asked for. -/
inductive Request where
  /-- The next page. -/
  | next
  /-- The page after some that are left out. -/
  | nth (skipped : Nat)
  /-- How many pages are to come. -/
  | length
  /-- The least and the greatest number of pages that may be to come. -/
  | bounds
  /-- All pages to come. -/
  | collect
  /-- How many pages are to come, all of which are gone then. -/
  | count
  /-- The last of the pages to come, all of which are gone then. -/
  | last
  deriving DecidableEq, Repr

/-- What a cursor answers. -/
inductive Reply where
  /-- A page, if there is one. -/
  | page (index : Option Nat)
  /-- A number of pages. -/
  | number (count : Nat)
  /-- The least and the greatest number of pages. -/
  | bounds (least greatest : Nat)
  /-- Pages in a row. -/
  | pages (indices : List Nat)
  deriving DecidableEq, Repr

/-- The pages that an answer gives. -/
def Reply.indices : Reply → List Nat
  | page index => index.toList
  | number _ => []
  | bounds .. => []
  | pages indices => indices

/-- The answer of a cursor, with the cursor after it. -/
def answer (cursor : PageCursor) : Request → Reply × PageCursor
  | .next => cursor.next?.map .page id
  | .nth skipped => (cursor.nth? skipped).map .page id
  | .length => (.number cursor.length, cursor)
  | .bounds => (.bounds cursor.bounds.1 cursor.bounds.2, cursor)
  | .collect => (.pages cursor.remaining, cursor.exhausted)
  | .count => (.number cursor.length, cursor.exhausted)
  | .last => (.page cursor.last?, cursor.exhausted)

/-- The answer of a list of pages to come, with the list after it. -/
def answerOf (pages : List Nat) : Request → Reply × List Nat
  | .next => (.page pages.head?, pages.tail)
  | .nth skipped => (.page pages[skipped]?, pages.drop (skipped + 1))
  | .length => (.number pages.length, pages)
  | .bounds => (.bounds pages.length pages.length, pages)
  | .collect => (.pages pages, [])
  | .count => (.number pages.length, [])
  | .last => (.page pages.getLast?, [])

/-- The answers of a list of pages to requests one after the other, with the list after them. -/
def answersOf (pages : List Nat) : List Request → List Reply × List Nat
  | [] => ([], pages)
  | request :: rest =>
    let (reply, later) := answerOf pages request
    let (replies, last) := answersOf later rest
    (reply :: replies, last)

variable {cursor later first last : PageCursor} {request : Request} {index skipped : Nat}

/-! ## Cursors as lists -/

theorem length_remaining : cursor.remaining.length = cursor.length := by
  rw [remaining, List.length_range']

theorem remaining_start (count : Nat) : (start count).remaining = List.range count := by
  rw [remaining, List.range_eq_range']
  rfl

theorem remaining_exhausted : cursor.exhausted.remaining = [] := by
  rw [remaining, length, exhausted, Nat.sub_self, List.range'_zero]

theorem remaining_of_le (beyond : cursor.count ≤ cursor.next) : cursor.remaining = [] := by
  rw [remaining, length, Nat.sub_eq_zero_of_le beyond, List.range'_zero]

/-- As long as there are pages to come, the one at the place is the first of them. -/
theorem remaining_of_lt (more : cursor.next < cursor.count) :
    cursor.remaining = cursor.next :: remaining { cursor with next := cursor.next + 1 } := by
  have left : cursor.length = length { cursor with next := cursor.next + 1 } + 1 := by
    simp only [length]
    omega
  rw [remaining, left, List.range'_succ]
  rfl

theorem next?_of_lt (more : cursor.next < cursor.count) :
    cursor.next? = (some cursor.next, { cursor with next := cursor.next + 1 }) := if_pos more

theorem next?_of_le (beyond : cursor.count ≤ cursor.next) : cursor.next? = (none, cursor) :=
  if_neg (Nat.not_lt.mpr beyond)

theorem next?_remaining (cursor : PageCursor) :
    (cursor.next?.1, cursor.next?.2.remaining) =
      (cursor.remaining.head?, cursor.remaining.tail) := by
  rcases Nat.lt_or_ge cursor.next cursor.count with more | beyond
  · rw [next?_of_lt more, remaining_of_lt more]
    rfl
  · rw [next?_of_le beyond, remaining_of_le beyond]
    rfl

theorem nth?_of_lt (inside : skipped < cursor.length) :
    cursor.nth? skipped =
      (some (cursor.next + skipped), { cursor with next := cursor.next + skipped + 1 }) :=
  if_pos inside

theorem nth?_of_le (beyond : cursor.length ≤ skipped) :
    cursor.nth? skipped = (none, cursor.exhausted) := if_neg (Nat.not_lt.mpr beyond)

theorem nth?_remaining (cursor : PageCursor) (skipped : Nat) :
    ((cursor.nth? skipped).1, (cursor.nth? skipped).2.remaining) =
      (cursor.remaining[skipped]?, cursor.remaining.drop (skipped + 1)) := by
  rcases Nat.lt_or_ge skipped cursor.length with inside | beyond
  · have there : cursor.remaining[skipped]? = some (cursor.next + skipped) := by
      rw [remaining, List.getElem?_range' inside, Nat.one_mul]
    have rest : cursor.remaining.drop (skipped + 1) =
        remaining { cursor with next := cursor.next + skipped + 1 } := by
      rw [remaining, remaining, List.drop_range', length, length, Nat.mul_one, ← Nat.add_assoc,
        Nat.sub_sub, Nat.add_assoc]
    rw [nth?_of_lt inside, there, rest]
  · have outside : cursor.remaining.length ≤ skipped := by rwa [length_remaining]
    rw [nth?_of_le beyond, remaining_exhausted, List.getElem?_eq_none outside,
      List.drop_eq_nil_of_le (by omega)]

theorem last?_eq (cursor : PageCursor) : cursor.last? = cursor.remaining.getLast? := by
  rcases Nat.lt_or_ge cursor.next cursor.count with more | beyond
  · have left : cursor.length = cursor.length - 1 + 1 := by
      rw [length]
      omega
    have last : cursor.next + 1 * (cursor.length - 1) = cursor.count - 1 := by
      rw [length]
      omega
    rw [last?, if_pos more, remaining, left, List.range'_concat, List.getLast?_concat, last]
  · rw [last?, if_neg (Nat.not_lt.mpr beyond), remaining_of_le beyond]
    rfl

/-- A cursor answers as the list of its pages to come would, and what is left of it is what is left
of the list. -/
theorem answer_remaining (cursor : PageCursor) (request : Request) :
    ((cursor.answer request).1, (cursor.answer request).2.remaining) =
      answerOf cursor.remaining request := by
  cases request with
  | next =>
    obtain ⟨head, tail⟩ := Prod.mk.inj cursor.next?_remaining
    simp [answer, answerOf, head, tail]
  | nth skipped =>
    obtain ⟨head, tail⟩ := Prod.mk.inj (cursor.nth?_remaining skipped)
    simp [answer, answerOf, head, tail]
  | length => simp [answer, answerOf, length_remaining]
  | bounds => simp [answer, answerOf, length_remaining, bounds]
  | collect => simp [answer, answerOf, remaining_exhausted]
  | count => simp [answer, answerOf, length_remaining, remaining_exhausted]
  | last => simp [answer, answerOf, last?_eq, remaining_exhausted]

/-! ## Places -/

/-- A cursor over `total` pages whose place is not beyond its end. -/
structure IsWithin (cursor : PageCursor) (total : Nat) : Prop where
  count : cursor.count = total
  next : cursor.next ≤ total

variable {total : Nat}

theorem isWithin_start (total : Nat) : (start total).IsWithin total := ⟨rfl, Nat.zero_le total⟩

theorem IsWithin.exhausted (within : cursor.IsWithin total) : cursor.exhausted.IsWithin total :=
  ⟨within.count, Nat.le_of_eq within.count⟩

/-- No answer moves a cursor beyond its end. -/
theorem IsWithin.answer (within : cursor.IsWithin total) (request : Request) :
    (cursor.answer request).2.IsWithin total := by
  cases request with
  | next =>
    rcases Nat.lt_or_ge cursor.next cursor.count with more | beyond
    · rw [PageCursor.answer, next?_of_lt more]
      exact ⟨within.count, within.count ▸ more⟩
    · rw [PageCursor.answer, next?_of_le beyond]
      exact within
  | nth skipped =>
    rcases Nat.lt_or_ge skipped cursor.length with inside | beyond
    · rw [PageCursor.answer, nth?_of_lt inside]
      have bound : cursor.next + skipped + 1 ≤ cursor.count := by
        rw [PageCursor.length] at inside
        omega
      exact ⟨within.count, within.count ▸ bound⟩
    · rw [PageCursor.answer, nth?_of_le beyond]
      exact within.exhausted
  | length => exact within
  | bounds => exact within
  | collect => exact within.exhausted
  | count => exact within.exhausted
  | last => exact within.exhausted

end PageCursor

/-! ## Words -/

/-- The number after a number, if a word of 64 bits holds it. -/
def Word.succ? (number : Nat) : Option Nat :=
  if number + 1 < sizeOfBits 64 then some (number + 1) else none

/-- The difference of two words, if it is a word. -/
def Word.difference? (number less : Nat) : Option Nat :=
  if less ≤ number then some (number - less) else none

theorem Word.succ?_of_lt {number size : Nat} (fits : size < sizeOfBits 64) (less : number < size) :
    succ? number = some (number + 1) := if_pos (by omega)

theorem Word.difference?_of_le {number less : Nat} (bound : less ≤ number) :
    difference? number less = some (number - less) := if_pos bound

namespace PageCursor

/-! ## Answers from the next page alone -/

/-- The next page, with the place after it. There is no outcome if that place is no word. -/
def nextInWords? (cursor : PageCursor) : Option (Option Nat × PageCursor) :=
  if cursor.next < cursor.count then
    (Word.succ? cursor.next).map fun after => (some cursor.next, { cursor with next := after })
  else some (none, cursor)

/-- The number of pages to come as the difference of two words, twice over. -/
def boundsInWords? (cursor : PageCursor) : Option (Nat × Nat) :=
  (Word.difference? cursor.count cursor.next).map fun left => (left, left)

/-- Takes the next page some times, and tells whether there was one each time. -/
def skipInWords? : (skipped : Nat) → PageCursor → Option (Bool × PageCursor)
  | 0, cursor => some (true, cursor)
  | skipped + 1, cursor => do
    match ← cursor.nextInWords? with
    | (none, later) => return (false, later)
    | (some _, later) => skipInWords? skipped later

theorem length_of_nextInWords? {cursor later : PageCursor} {index : Nat}
    (given : cursor.nextInWords? = some (some index, later)) : later.length < cursor.length := by
  unfold nextInWords? at given
  split at given
  · obtain ⟨after, follows, same⟩ := Option.map_eq_some_iff.mp given
    cases same
    unfold Word.succ? at follows
    split at follows
    · cases follows
      simp only [length]
      omega
    · cases follows
  · cases given

/-- Takes the next page until there is none, and does a step with each. -/
def foldInWords? {α : Type} (step : α → Nat → Option α) (held : α) (cursor : PageCursor) :
    Option (α × PageCursor) :=
  match _given : cursor.nextInWords? with
  | none => none
  | some (none, later) => some (held, later)
  | some (some index, later) => (step held index).bind fun held => foldInWords? step held later
termination_by cursor.length
decreasing_by exact length_of_nextInWords? _given

/-- The answer of a cursor that only knows its next page and its bounds. There is none if one of the
numbers on the way is no word, or if the bounds differ where an exact number is asked for. -/
def answerInWords? (cursor : PageCursor) : Request → Option (Reply × PageCursor)
  | .next => cursor.nextInWords?.map (Prod.map .page id)
  | .nth skipped => do
    let (all, later) ← cursor.skipInWords? skipped
    if all then later.nextInWords?.map (Prod.map .page id) else some (.page none, later)
  | .length => do
    let (least, greatest) ← cursor.boundsInWords?
    if greatest = least then some (.number least, cursor) else none
  | .bounds => do
    let (least, greatest) ← cursor.boundsInWords?
    return (.bounds least greatest, cursor)
  | .collect =>
    (cursor.foldInWords? (fun pages index => some (pages ++ [index])) []).map (Prod.map .pages id)
  | .count => (cursor.foldInWords? (fun number _ => Word.succ? number) 0).map (Prod.map .number id)
  | .last => (cursor.foldInWords? (fun _ index => some (some index)) none).map (Prod.map .page id)

section Words

variable {cursor : PageCursor} {total skipped : Nat} {α : Type} {step : α → Nat → Option α}

theorem nextInWords?_eq (within : cursor.IsWithin total) (fits : total < sizeOfBits 64) :
    cursor.nextInWords? = some cursor.next? := by
  unfold nextInWords? next?
  split
  · next more =>
    rw [Word.succ?_of_lt (within.count ▸ fits) more]
    rfl
  · rfl

theorem boundsInWords?_eq (within : cursor.IsWithin total) :
    cursor.boundsInWords? = some cursor.bounds := by
  rw [boundsInWords?, Word.difference?_of_le (within.count ▸ within.next)]
  rfl

/-- A cursor at its end is exhausted. -/
theorem IsWithin.exhausted_eq (within : cursor.IsWithin total)
    (beyond : cursor.count ≤ cursor.next) : cursor.exhausted = cursor := by
  have ended : cursor.count = cursor.next := Nat.le_antisymm beyond (within.count ▸ within.next)
  obtain ⟨place, count⟩ := cursor
  obtain rfl : count = place := ended
  rfl

theorem skipInWords?_of_le (within : cursor.IsWithin total) (fits : total < sizeOfBits 64)
    (inside : skipped ≤ cursor.length) :
    cursor.skipInWords? skipped =
      some (true, { cursor with next := cursor.next + skipped }) := by
  induction skipped generalizing cursor with
  | zero => rfl
  | succ skipped ih =>
    have more : cursor.next < cursor.count := by
      rw [length] at inside
      omega
    have later : IsWithin { cursor with next := cursor.next + 1 } total :=
      ⟨within.count, within.count ▸ more⟩
    have left : skipped ≤ length { cursor with next := cursor.next + 1 } := by
      simp only [length] at inside ⊢
      omega
    have rest := ih later left
    simp only [skipInWords?, nextInWords?_eq within fits, next?_of_lt more, Option.bind_eq_bind,
      Option.bind_some, rest]
    rw [Nat.add_assoc, Nat.add_comm 1 skipped]

theorem skipInWords?_of_lt (within : cursor.IsWithin total) (fits : total < sizeOfBits 64)
    (beyond : cursor.length < skipped) :
    cursor.skipInWords? skipped = some (false, cursor.exhausted) := by
  induction skipped generalizing cursor with
  | zero => exact absurd beyond (Nat.not_lt_zero _)
  | succ skipped ih =>
    rcases Nat.lt_or_ge cursor.next cursor.count with more | beyond
    · have later : IsWithin { cursor with next := cursor.next + 1 } total :=
        ⟨within.count, within.count ▸ more⟩
      have left : length { cursor with next := cursor.next + 1 } < skipped := by
        simp only [length] at beyond ⊢
        omega
      have rest := ih later left
      simp only [skipInWords?, nextInWords?_eq within fits, next?_of_lt more, Option.bind_eq_bind,
        Option.bind_some, rest]
      rfl
    · simp only [skipInWords?, nextInWords?_eq within fits, next?_of_le beyond, Option.bind_eq_bind,
        Option.bind_some, within.exhausted_eq beyond]
      rfl

theorem foldInWords?_of_lt (within : cursor.IsWithin total) (fits : total < sizeOfBits 64)
    (more : cursor.next < cursor.count) (held : α) :
    cursor.foldInWords? step held = (step held cursor.next).bind fun held =>
      foldInWords? step held { cursor with next := cursor.next + 1 } := by
  have given :
      cursor.nextInWords? = some (some cursor.next, { cursor with next := cursor.next + 1 }) :=
    by rw [nextInWords?_eq within fits, next?_of_lt more]
  rw [foldInWords?]
  split
  · next failed => cases failed.symm.trans given
  · next ended => cases ended.symm.trans given
  · next taken =>
    cases taken.symm.trans given
    rfl

theorem foldInWords?_of_le (within : cursor.IsWithin total) (fits : total < sizeOfBits 64)
    (beyond : cursor.count ≤ cursor.next) (held : α) :
    cursor.foldInWords? step held = some (held, cursor) := by
  have given : cursor.nextInWords? = some (none, cursor) := by
    rw [nextInWords?_eq within fits, next?_of_le beyond]
  rw [foldInWords?]
  split
  · next failed => cases failed.symm.trans given
  · next ended =>
    cases ended.symm.trans given
    rfl
  · next taken => cases taken.symm.trans given

/-- Taking the next page until there is none goes over the pages to come. -/
theorem foldInWords?_eq (within : cursor.IsWithin total) (fits : total < sizeOfBits 64) (held : α) :
    cursor.foldInWords? step held =
      (cursor.remaining.foldlM step held).map fun held => (held, cursor.exhausted) := by
  -- By induction on how many pages are left, for all cursors with so many.
  induction left : cursor.length generalizing cursor held with
  | zero =>
    have beyond : cursor.count ≤ cursor.next := by
      rw [length] at left
      omega
    rw [foldInWords?_of_le within fits beyond, remaining_of_le beyond, within.exhausted_eq beyond]
    rfl
  | succ count ih =>
    have more : cursor.next < cursor.count := by
      rw [length] at left
      omega
    have later : IsWithin { cursor with next := cursor.next + 1 } total :=
      ⟨within.count, within.count ▸ more⟩
    rw [foldInWords?_of_lt within fits more, remaining_of_lt more, List.foldlM_cons]
    cases step held cursor.next with
    | none => rfl
    | some held =>
      have rest := ih later held (by simp only [length] at left ⊢; omega)
      rw [Option.bind_some, rest]
      rfl

theorem foldlM_append (pages held : List Nat) :
    pages.foldlM (fun pages index => some (pages ++ [index])) held = some (held ++ pages) := by
  induction pages generalizing held with
  | nil => simp
  | cons index pages ih => simp [List.foldlM_cons, ih]

theorem foldlM_last (pages : List Nat) (held : Option Nat) :
    pages.foldlM (fun _ index => some (some index)) held = some (pages.getLast?.or held) := by
  induction pages generalizing held with
  | nil => simp
  | cons index pages ih =>
    rw [List.foldlM_cons, Option.bind_eq_bind, Option.bind_some, ih, List.getLast?_cons]
    cases pages.getLast? <;> rfl

theorem foldlM_succ? {size : Nat} (fits : size < sizeOfBits 64) (pages : List Nat) (held : Nat)
    (bound : held + pages.length ≤ size) :
    pages.foldlM (fun number _ => Word.succ? number) held = some (held + pages.length) := by
  induction pages generalizing held with
  | nil => rfl
  | cons index pages ih =>
    rw [List.length_cons] at bound ⊢
    rw [List.foldlM_cons, Word.succ?_of_lt fits (by omega), Option.bind_eq_bind, Option.bind_some,
      ih _ (by omega)]
    congr 1
    omega

theorem answerInWords?_nth (within : cursor.IsWithin total) (fits : total < sizeOfBits 64)
    (skipped : Nat) : cursor.answerInWords? (.nth skipped) = some (cursor.answer (.nth skipped)) := by
  rcases Nat.lt_or_ge cursor.length skipped with beyond | inside
  · simp only [answerInWords?, skipInWords?_of_lt within fits beyond, Option.bind_eq_bind,
      Option.bind_some, answer, nth?_of_le (Nat.le_of_lt beyond)]
    rfl
  · -- The pages that are left out are there, and the next one may be there or not.
    have bound : cursor.next + skipped ≤ cursor.count := by
      have := within.count ▸ within.next
      rw [length] at inside
      omega
    have later : IsWithin { cursor with next := cursor.next + skipped } total :=
      ⟨within.count, within.count ▸ bound⟩
    simp only [answerInWords?, skipInWords?_of_le within fits inside, Option.bind_eq_bind,
      Option.bind_some, nextInWords?_eq later fits, if_true]
    rcases Nat.lt_or_ge skipped cursor.length with more | beyond
    · have there : cursor.next + skipped < cursor.count := by
        rw [length] at more
        omega
      rw [answer, nth?_of_lt more, next?_of_lt there]
      rfl
    · have there : cursor.count ≤ cursor.next + skipped := by
        rw [length] at beyond
        omega
      rw [answer, nth?_of_le beyond, next?_of_le there, ← later.exhausted_eq there]
      rfl

/-- A cursor that only knows its next page and its bounds answers as it should. No number on the way
leaves the words if the number of pages is one. -/
theorem answerInWords?_eq (within : cursor.IsWithin total) (fits : total < sizeOfBits 64)
    (request : Request) : cursor.answerInWords? request = some (cursor.answer request) := by
  cases request with
  | next =>
    rw [answerInWords?, nextInWords?_eq within fits]
    rfl
  | nth skipped => exact answerInWords?_nth within fits skipped
  | length =>
    simp [answerInWords?, boundsInWords?_eq within, answer, bounds]
  | bounds =>
    simp [answerInWords?, boundsInWords?_eq within, answer]
  | collect =>
    rw [answerInWords?, foldInWords?_eq within fits, foldlM_append]
    rfl
  | count =>
    have bound : 0 + cursor.remaining.length ≤ total := by
      rw [length_remaining, length, within.count]
      omega
    rw [answerInWords?, foldInWords?_eq within fits, foldlM_succ? fits _ _ bound, length_remaining,
      Nat.zero_add]
    rfl
  | last =>
    rw [answerInWords?, foldInWords?_eq within fits, foldlM_last, answer, last?_eq, Option.or_none]
    rfl

end Words

/-! ## What happens to one cursor -/

/-- A request, the answer to it, and the cursor before and after. -/
structure Exchange where
  before : PageCursor
  request : Request
  reply : Reply
  after : PageCursor
  deriving DecidableEq, Repr

/-- The exchange that comes of a request to a cursor. -/
def exchange (cursor : PageCursor) (request : Request) : Exchange :=
  { before := cursor, request, reply := (cursor.answer request).1,
    after := (cursor.answer request).2 }

/-- A cursor comes to another one by exchanges, in order. -/
inductive Leads : PageCursor → List Exchange → PageCursor → Prop
  /-- It is asked for nothing. -/
  | nil {cursor : PageCursor} : Leads cursor [] cursor
  /-- It is asked for something before the rest. -/
  | cons {cursor last : PageCursor} {request : Request} {history : List Exchange} :
    Leads (cursor.answer request).2 history last →
    Leads cursor (cursor.exchange request :: history) last

variable {first last : PageCursor} {history : List Exchange}

/-- The answers of a cursor are those of the list of its pages to come, and what is left of it in the
end is what is left of the list. -/
theorem Leads.answersOf (leads : Leads first history last) :
    PageCursor.answersOf first.remaining (history.map Exchange.request) =
      (history.map Exchange.reply, last.remaining) := by
  induction leads with
  | nil => rfl
  | cons _ ih =>
    simp only [List.map_cons, exchange, PageCursor.answersOf, ← answer_remaining, ih]

/-- Beyond the last page, a cursor is exhausted. -/
example : answersOf [0, 1, 2, 3] [.nth 1, .bounds, .next, .nth 7, .next] =
    ([.page (some 1), .bounds 2 2, .page (some 2), .page none, .page none], []) := by
  decide

theorem Leads.isWithin {total : Nat} (leads : Leads first history last)
    (within : first.IsWithin total) :
    last.IsWithin total ∧ ∀ exchange ∈ history,
      exchange.before.IsWithin total ∧ exchange.after.IsWithin total := by
  induction leads with
  | nil => exact ⟨within, fun _ => nofun⟩
  | cons _ ih =>
    obtain ⟨ends, others⟩ := ih (within.answer _)
    exact ⟨ends, List.forall_mem_cons.mpr ⟨⟨within, within.answer _⟩, others⟩⟩

theorem Leads.answer_eq (leads : Leads first history last) {exchange : Exchange}
    (inside : exchange ∈ history) :
    exchange.before.answer exchange.request = (exchange.reply, exchange.after) := by
  induction leads with
  | nil => cases inside
  | cons _ ih =>
    rcases List.mem_cons.mp inside with rfl | inside
    · rfl
    · exact ih inside

/-- The pages that are given and those that are left are among those to come, in their order. -/
theorem indices_append_sublist (pages : List Nat) (request : Request) :
    ((answerOf pages request).1.indices ++ (answerOf pages request).2).Sublist pages := by
  cases request with
  | next =>
    cases pages with
    | nil => exact .slnil
    | cons index pages => exact .refl _
  | nth skipped =>
    rcases Nat.lt_or_ge skipped pages.length with inside | beyond
    · simp only [answerOf, List.getElem?_eq_getElem inside, Reply.indices, Option.toList_some,
        List.singleton_append]
      rw [← List.drop_eq_getElem_cons inside]
      exact List.drop_sublist _ _
    · simp only [answerOf, List.getElem?_eq_none beyond, Reply.indices, Option.toList_none,
        List.nil_append]
      exact List.drop_sublist _ _
  | length => exact .refl _
  | bounds => exact .refl _
  | collect => simp [answerOf, Reply.indices]
  | count => exact List.nil_sublist _
  | last =>
    cases ends : pages.getLast? with
    | none => simp [answerOf, Reply.indices, ends]
    | some index =>
      simpa [answerOf, Reply.indices, ends] using List.mem_of_getLast? ends

/-- All pages that a cursor gives, and then those that it has left, are among those it had to come,
in their order. -/
theorem Leads.indices_sublist (leads : Leads first history last) :
    ((history.flatMap fun exchange => exchange.reply.indices) ++ last.remaining).Sublist
      first.remaining := by
  induction leads with
  | nil => exact .refl _
  | @cons cursor last request history _ ih =>
    have given := indices_append_sublist cursor.remaining request
    rw [← answer_remaining] at given
    rw [List.flatMap_cons, List.append_assoc]
    exact (ih.append_left _).trans given

/-- A request to a cursor over `total` pages, as it should be answered. The place of the cursor is
not beyond its end, neither before nor after. A cursor that is exhausted gives no page and stays so.
In words, the next page alone leads to the same answer, and each page that is given has a number. -/
structure Exchange.IsFaithful (exchange : Exchange) (total : Nat) : Prop where
  before : exchange.before.IsWithin total
  after : exchange.after.IsWithin total
  exhausted : exchange.before.remaining = [] →
    exchange.reply.indices = [] ∧ exchange.after.remaining = []
  given : ∀ index ∈ exchange.reply.indices, index < total
  inWords : total < sizeOfBits 64 →
    exchange.before.answerInWords? exchange.request = some (exchange.reply, exchange.after) ∧
      ∀ index ∈ exchange.reply.indices, Word.succ? index = some (pageNumber index)

theorem lt_of_mem_remaining {cursor : PageCursor} {index : Nat} (inside : index ∈ cursor.remaining) :
    index < cursor.count := by
  rw [remaining, List.mem_range'_1, length] at inside
  omega

/-- Answers within the end of a cursor are as they should be. -/
theorem Exchange.IsFaithful.of_answer {exchange : Exchange} {total : Nat}
    (answered : exchange.before.answer exchange.request = (exchange.reply, exchange.after))
    (before : exchange.before.IsWithin total) (after : exchange.after.IsWithin total) :
    exchange.IsFaithful total := by
  have listed := answer_remaining exchange.before exchange.request
  have among := indices_append_sublist exchange.before.remaining exchange.request
  rw [answered] at listed
  rw [← listed] at among
  have given : ∀ index ∈ exchange.reply.indices, index < total := fun index inside =>
    before.count ▸ lt_of_mem_remaining (among.subset (List.mem_append_left _ inside))
  refine ⟨before, after, fun none_left => ?_, given, fun fits => ⟨?_, fun index inside => ?_⟩⟩
  · rw [none_left] at among
    exact List.append_eq_nil_iff.mp (List.sublist_nil.mp among)
  · rw [answerInWords?_eq before fits, answered]
  · exact Word.succ?_of_lt fits (given index inside)

end PageCursor

/-! ## Cursors at work on a source -/

/-- What may happen next to the cursors on a source. -/
inductive CursorAction where
  /-- Another cursor is made. -/
  | start
  /-- One of the cursors is asked for something. -/
  | ask (place : Nat) (request : PageCursor.Request)
  deriving DecidableEq, Repr

namespace PageSource

section Sessions

variable {m : Type → Type} [Monad m]

/-- What comes of an action: the cursors after it, and the exchange with one of them. Where no cursor
is, nothing happens. -/
def act (source : PageSource m) (cursors : List PageCursor) :
    CursorAction → m (List PageCursor × List (Nat × PageCursor.Exchange))
  | .start => do
    let count ← source.pageCount
    return (cursors ++ [.start count], [])
  | .ask place request =>
    match cursors[place]? with
    | none => return (cursors, [])
    | some cursor =>
      return (cursors.set place (cursor.answer request).2, [(place, cursor.exchange request)])

/-- What comes of actions, in order. Each exchange is told with the place of its cursor. -/
def runCursors (source : PageSource m) (cursors : List PageCursor) :
    List CursorAction → m (List PageCursor × List (Nat × PageCursor.Exchange))
  | [] => return (cursors, [])
  | action :: rest => do
    let (cursors, exchanges) ← source.act cursors action
    let (cursors, others) ← source.runCursors cursors rest
    return (cursors, exchanges ++ others)

/-- The answers of a source that is asked some times for the number of its pages. -/
def counts (source : PageSource m) : (times : Nat) → m (List Nat)
  | 0 => return []
  | times + 1 => do
    let count ← source.pageCount
    return count :: (← source.counts times)

end Sessions

/-- The exchanges with the cursor at a place. -/
def historyAt (place : Nat) (exchanges : List (Nat × PageCursor.Exchange)) :
    List PageCursor.Exchange :=
  exchanges.filterMap fun entry => if entry.1 = place then some entry.2 else none

variable {σ : Type} {source : PageSource (StateM σ)}

/-- Actions one after the other, each from the log and the state that the one before has left. -/
theorem run_runCursors_cons (action : CursorAction) (rest : List CursorAction)
    (cursors : List PageCursor) (log : List Question) (state : σ) :
    ((source.logged.runCursors cursors (action :: rest)).run log).run state =
      let (((met, exchanges), log), next) := ((source.logged.act cursors action).run log).run state
      let (((later, others), log), last) := ((source.logged.runCursors met rest).run log).run next
      (((later, exchanges ++ others), log), last) := rfl

/-- A cursor is made with one question. -/
theorem run_act_start (cursors : List PageCursor) (log : List Question) (state : σ) :
    ((source.logged.act cursors .start).run log).run state =
      let (count, next) := source.pageCount.run state
      (((cursors ++ [.start count], []), log ++ [.pageCount]), next) := rfl

/-- A cursor answers without a question. -/
theorem run_act_ask {place : Nat} {cursors : List PageCursor} {cursor : PageCursor}
    (held : cursors[place]? = some cursor) (request : PageCursor.Request) (log : List Question)
    (state : σ) :
    ((source.logged.act cursors (.ask place request)).run log).run state =
      (((cursors.set place (cursor.answer request).2, [(place, cursor.exchange request)]), log),
        state) := by
  simp only [act, held]
  rfl

theorem run_act_ask_of_none {place : Nat} {cursors : List PageCursor}
    (absent : cursors[place]? = none) (request : PageCursor.Request) (log : List Question)
    (state : σ) :
    ((source.logged.act cursors (.ask place request)).run log).run state =
      (((cursors, []), log), state) := by
  simp only [act, absent]
  rfl

theorem run_counts_succ (times : Nat) (state : σ) :
    (source.counts (times + 1)).run state =
      let (count, next) := source.pageCount.run state
      let (counts, last) := (source.counts times).run next
      (count :: counts, last) := rfl

theorem historyAt_cons {place other : Nat} {exchange : PageCursor.Exchange}
    {exchanges : List (Nat × PageCursor.Exchange)} :
    historyAt place ((other, exchange) :: exchanges) =
      if other = place then exchange :: historyAt place exchanges
      else historyAt place exchanges := by
  unfold historyAt
  rw [List.filterMap_cons]
  by_cases same : other = place <;> simp [same]

/-- An exchange goes on with the cursor at its place, and leaves all others as they are. -/
theorem leads_of_ask {place : Nat} {cursors made later : List PageCursor} {cursor : PageCursor}
    {request : PageCursor.Request} {exchanges : List (Nat × PageCursor.Exchange)}
    (held : cursors[place]? = some cursor)
    (leads : ∀ (other : Nat) (first : PageCursor),
      (cursors.set place (cursor.answer request).2 ++ made)[other]? = some first →
        ∃ last, later[other]? = some last ∧ first.Leads (historyAt other exchanges) last)
    {other : Nat} {first : PageCursor} (there : (cursors ++ made)[other]? = some first) :
    ∃ last, later[other]? = some last ∧
      first.Leads (historyAt other ((place, cursor.exchange request) :: exchanges)) last := by
  have inside : place < cursors.length := (List.getElem?_eq_some_iff.mp held).1
  rw [historyAt_cons]
  by_cases same : other = place
  · subst same
    rw [List.getElem?_append_left inside, held, Option.some.injEq] at there
    subst there
    have answered : (cursors.set other (cursor.answer request).2 ++ made)[other]? =
        some (cursor.answer request).2 := by
      rw [List.getElem?_append_left (by rwa [List.length_set]), List.getElem?_set_self inside]
    obtain ⟨last, found, after⟩ := leads other _ answered
    rw [if_pos rfl]
    exact ⟨last, found, .cons after⟩
  · rw [if_neg (Ne.symm same)]
    refine leads other first ?_
    rw [← there, List.getElem?_append, List.getElem?_append, List.length_set,
      List.getElem?_set_ne (Ne.symm same)]

/-- Several cursors at work, from a log and a state: the source is asked for the number of its pages
once for each cursor that is made, and for nothing else. Each cursor, those made on the way included,
comes to the one at its place in the end by the exchanges at this place, whatever happens at
others. -/
theorem runCursors_cases (source : PageSource (StateM σ)) (actions : List CursorAction)
    (cursors : List PageCursor) (log : List Question) (state : σ) :
    ∃ counts later exchanges last,
      ((source.logged.runCursors cursors actions).run log).run state =
        (((later, exchanges), log ++ List.replicate counts.length .pageCount), last) ∧
      (source.counts (actions.count .start)).run state = (counts, last) ∧
      counts.length = actions.count .start ∧
      later.length = cursors.length + counts.length ∧
      ∀ (place : Nat) (first : PageCursor), (cursors ++ counts.map .start)[place]? = some first →
        ∃ cursor, later[place]? = some cursor ∧ first.Leads (historyAt place exchanges) cursor := by
  -- By induction on the actions, for all cursors that are there before them. A cursor that is made
  -- on the way counts among those there from then on, and its place has seen no exchange yet.
  induction actions generalizing cursors log state with
  | nil =>
    refine ⟨[], cursors, [], state, ?_, rfl, rfl, rfl, fun place first held => ?_⟩
    · rw [List.length_nil, List.replicate_zero, List.append_nil]
      rfl
    · rw [List.map_nil, List.append_nil] at held
      exact ⟨first, held, .nil⟩
  | cons action rest ih =>
    cases action with
    | start =>
      rcases asked : source.pageCount.run state with ⟨count, next⟩
      obtain ⟨counts, later, exchanges, last, ran, counted, few, length, leads⟩ :=
        ih (cursors ++ [.start count]) (log ++ [.pageCount]) next
      refine ⟨count :: counts, later, exchanges, last, ?_, ?_, ?_, ?_, ?_⟩
      · rw [run_runCursors_cons, run_act_start, asked]
        simp only [ran, List.nil_append, List.length_cons, List.replicate_succ, List.append_assoc,
          List.singleton_append]
      · rw [List.count_cons_self, run_counts_succ, asked]
        simp only [counted]
      · rw [List.count_cons_self, List.length_cons, few]
      · rw [length, List.length_append, List.length_singleton, List.length_cons]
        omega
      · rwa [List.append_assoc] at leads
    | ask place request =>
      have uncounted : (CursorAction.ask place request :: rest).count .start = rest.count .start :=
        List.count_cons_of_ne (by simp)
      rw [uncounted]
      cases held : cursors[place]? with
      | none =>
        obtain ⟨counts, later, exchanges, last, ran, others⟩ := ih cursors log state
        refine ⟨counts, later, exchanges, last, ?_, others⟩
        rw [run_runCursors_cons, run_act_ask_of_none held]
        simp only [ran, List.nil_append]
      | some cursor =>
        obtain ⟨counts, later, exchanges, last, ran, counted, few, length, leads⟩ :=
          ih (cursors.set place (cursor.answer request).2) log state
        refine ⟨counts, later, (place, cursor.exchange request) :: exchanges, last, ?_, counted, few,
          by rw [length, List.length_set], fun _ _ there => leads_of_ask held leads there⟩
        rw [run_runCursors_cons, run_act_ask held]
        simp only [ran, List.singleton_append]

open PageCursor in
/-- Cursors answer as lists of pages do, whatever else is going on. The source is asked for the
number of its pages once for each cursor, and for nothing more. The cursor that is made with the
answer `total` gives to its own requests, in order, what the list of the indices below `total` would
give, and keeps what is left of that list; so no page is given twice, and none after a later one. At
no time is a cursor beyond its end, and one that is exhausted stays so. If `total` is a word, the
same answers come of taking the next page again and again, and neither that nor the numbers of the
pages leave the words. -/
theorem cursors_follow_lists (source : PageSource (StateM σ)) (actions : List CursorAction)
    (state : σ) :
    let (((cursors, exchanges), log), last) :=
      ((source.logged.runCursors [] actions).run []).run state
    log = List.replicate (actions.count .start) .pageCount ∧
    cursors.length = actions.count .start ∧
    ∃ counts, (source.counts (actions.count .start)).run state = (counts, last) ∧
      counts.length = actions.count .start ∧
      ∀ place total, counts[place]? = some total →
        ∃ cursor, cursors[place]? = some cursor ∧ cursor.IsWithin total ∧
          let history := historyAt place exchanges
          answersOf (List.range total) (history.map Exchange.request) =
            (history.map Exchange.reply, cursor.remaining) ∧
          (history.flatMap fun exchange => exchange.reply.indices).Pairwise (· < ·) ∧
          ∀ exchange ∈ history, exchange.IsFaithful total := by
  obtain ⟨counts, cursors, exchanges, last, ran, counted, few, length, leads⟩ :=
    source.runCursors_cases actions [] [] state
  rw [ran]
  refine ⟨by rw [few, List.nil_append], by rw [length, few, List.length_nil, Nat.zero_add], counts,
    counted, few, fun place total told => ?_⟩
  obtain ⟨cursor, found, leads⟩ := leads place (.start total) (by
    rw [List.nil_append, List.getElem?_map, told, Option.map_some])
  obtain ⟨ends, between⟩ := leads.isWithin (isWithin_start total)
  refine ⟨cursor, found, ends, ?_, ?_, fun exchange inside => ?_⟩
  · rw [← leads.answersOf, remaining_start]
  · have ascending := List.Pairwise.sublist leads.indices_sublist
      (remaining_start total ▸ List.pairwise_lt_range)
    exact (List.pairwise_append.mp ascending).1
  · obtain ⟨before, after⟩ := between exchange inside
    exact .of_answer (leads.answer_eq inside) before after

end PageSource

end PdfText

import Mathlib.Data.List.Basic
import PdfText.Extractor
import PdfText.Proofs.Dictionaries
import PdfText.Proofs.Maps
import PdfText.Proofs.Objects
import PdfText.Proofs.Outcome

/-!
# Documents that read the same

Two documents can hold different objects and still have the same pages with the same texts. One may
keep a stream with its filters undone where the other keeps it as it was, and both may hold objects
that no reference leads to. The pages are found by following references from the catalog on, so
every step to the text of a page meets objects that are alike.

The walk of the page tree visits no more children than the document has objects. That is the one
place where objects that nothing refers to can make a difference.

## Main definitions

* `Object.Alike` — objects that no reader of pages tells apart
* `Document.Reaches` — the ids that references lead to from the catalog on
* `Document.Mirrors` — documents with alike objects wherever references lead
* `Document.WalksWhole` — the walk of the page tree finds the same with another bound on its visits

## Main results

* `Document.Mirrors.pageCount_eq_iff` — documents that mirror each other have as many pages if both
  bounds are enough, and only then
* `Document.Mirrors.pageText` — and then the same texts on them
-/

namespace PdfText

/-! ## References in objects -/

namespace Object

/-- All references in an object lead to ids of a kind. -/
def LeadsTo (object : Object) (reached : ObjectId → Prop) : Prop :=
  ∀ id, object.Mentions id → reached id

variable {reached : ObjectId → Prop}

theorem LeadsTo.target {id : ObjectId} (leads : (reference id).LeadsTo reached) : reached id :=
  leads id .reference

theorem LeadsTo.item {items : List Object} {item : Object} (leads : (array items).LeadsTo reached)
    (inside : item ∈ items) : item.LeadsTo reached :=
  fun id mentioned => leads id (.array inside mentioned)

theorem LeadsTo.entry {entries : Dict} {entry : Bytes × Object}
    (leads : (dictionary entries).LeadsTo reached) (inside : entry ∈ entries.entries) :
    entry.2.LeadsTo reached :=
  fun id mentioned => leads id (.dictionary inside mentioned)

end Object

namespace Dictionary

variable {entries : Dict} {reached : ObjectId → Prop}
  (leads : (Object.dictionary entries).LeadsTo reached) {key : String}
include leads

theorem leadsTo_get? {object : Object} (found : entries.get? key = some object) :
    object.LeadsTo reached :=
  leads.entry (mem_of_find? found)

theorem reached_of_reference? {id : ObjectId}
    (found : (entries.get? key).bind Object.reference? = some id) : reached id := by
  obtain ⟨object, held, target⟩ := Option.bind_eq_some_iff.mp found
  cases object <;> cases target
  exact (leadsTo_get? leads held).target

theorem leadsTo_dictionary? {inner : Dict}
    (found : (entries.get? key).bind Object.dictionary? = some inner) :
    (Object.dictionary inner).LeadsTo reached := by
  obtain ⟨object, held, isDictionary⟩ := Option.bind_eq_some_iff.mp found
  cases object <;> cases isDictionary
  exact leadsTo_get? leads held

end Dictionary

/-! ## Objects that are alike -/

/-- The data of a stream as a page shows it. -/
def Page.shownData (entries : Dict) (body : Bytes) : Bytes :=
  match Filter.decode entries body with
  | .ok data => data
  | .error _ => body

/-- Objects that no reader of pages tells apart: they are equal, or streams with the same data. -/
inductive Object.Alike : Object → Object → Prop
  | same (object : Object) : Alike object object
  | stream {entries other : Dict} {body rest : Bytes}
    (shown : Page.shownData entries body = Page.shownData other rest)
    (plain : Filter.plain entries body = Filter.plain other rest) :
    Alike (.stream entries body) (.stream other rest)

namespace Object.Alike

variable {first second : Object}

theorem mentions_iff (alike : first.Alike second) {id : ObjectId} :
    first.Mentions id ↔ second.Mentions id := by
  cases alike with
  | same => rfl
  | stream => constructor <;> rintro ⟨⟩

theorem dictionaryOf (alike : first.Alike second) :
    Document.dictionaryOf first = Document.dictionaryOf second := by
  cases alike <;> rfl

/-- Objects that are alike refer to the same, or both are no references. -/
theorem reference_cases (alike : first.Alike second) :
    (∃ id, first = .reference id ∧ second = .reference id) ∨
      first.reference? = none ∧ second.reference? = none := by
  cases alike with
  | stream => exact .inr ⟨rfl, rfl⟩
  | same => cases first <;> first | exact .inl ⟨_, rfl, rfl⟩ | exact .inr ⟨rfl, rfl⟩

end Object.Alike

/-! ## Children that are visited -/

namespace PageTree

/-- Children that lead to ids of a kind. -/
def LeadTo (children : List Object) (reached : ObjectId → Prop) : Prop :=
  ∀ kid ∈ children, kid.LeadsTo reached

variable {reached : ObjectId → Prop}

theorem leadsTo_of_next? {children siblings : List Object} {waiting rest : List (List Object)}
    {kid : Object} (leads : LeadTo children reached) (later : ∀ kids ∈ waiting, LeadTo kids reached)
    (met : next? children waiting = some (kid, siblings, rest)) :
    kid.LeadsTo reached ∧ LeadTo siblings reached ∧ ∀ kids ∈ rest, LeadTo kids reached := by
  fun_induction next? children waiting with
  | case1 first others waiting =>
    cases met
    obtain ⟨first, others⟩ := List.forall_mem_cons.mp leads
    exact ⟨first, others, later⟩
  | case2 => cases met
  | case3 siblings waiting ih =>
    obtain ⟨next, later⟩ := List.forall_mem_cons.mp later
    exact ih next later met

theorem leadTo_of_mem_remember {siblings : List Object} {waiting : List (List Object)}
    (leads : LeadTo siblings reached) (later : ∀ kids ∈ waiting, LeadTo kids reached) :
    ∀ kids ∈ remember siblings waiting, LeadTo kids reached := by
  unfold remember
  split
  · exact later
  · exact List.forall_mem_cons.mpr ⟨leads, later⟩

/-- A child leads to the node that it refers to. -/
theorem eq_reference_of_classify {document : Document} {kid : Object} {id : ObjectId}
    (found : classify document kid = .page id ∨ classify document kid = .pages id) :
    kid = .reference id := by
  cases kid with
  | reference target =>
    simp only [classify] at found
    split at found
    · simp at found
    · split at found
      · simpa using found
      split at found
      · simpa using found
      · simp at found
  | _ => simp [classify] at found

/-- With more visits the walk finds the same pages first. -/
theorem walk_isPrefix_walk_add (document : Document) (budget more : Nat) (children : List Object)
    (waiting : List (List Object)) :
    walk document budget children waiting <+: walk document (budget + more) children waiting := by
  induction budget generalizing children waiting with
  | zero => exact List.nil_prefix
  | succ budget ih =>
    rw [Nat.succ_add]
    simp only [walk]
    split
    · exact List.nil_prefix
    · split
      · exact (List.prefix_cons_inj _).mpr (ih _ _)
      · split
        · exact ih _ _
        · exact ih _ _
      · exact ih _ _

/-- Two walks that find as many pages find the same. -/
theorem walk_eq_of_length_eq {document : Document} {budget other : Nat} {children : List Object}
    {waiting : List (List Object)}
    (same : (walk document budget children waiting).length =
      (walk document other children waiting).length) :
    walk document budget children waiting = walk document other children waiting := by
  rcases Nat.le_total budget other with le | le
  · obtain ⟨more, rfl⟩ := Nat.exists_eq_add_of_le le
    exact (walk_isPrefix_walk_add document budget more children waiting).eq_of_length same
  · obtain ⟨more, rfl⟩ := Nat.exists_eq_add_of_le le
    exact ((walk_isPrefix_walk_add document other more children waiting).eq_of_length same.symm).symm

end PageTree

/-! ## Ancestors that are visited -/

theorem Document.mem_of_dictionaryAt {document : Document} {id : ObjectId} {entries : Dict}
    (found : document.dictionaryAt id = .ok entries) : id ∈ document.objects := by
  rw [dictionaryAt, objectAt] at found
  rw [← Std.TreeMap.isSome_getElem?_iff_mem]
  cases held : document.objects[id]? with
  | none => simp [held] at found
  | some object => rfl

/-- Ancestors are visited once each, so as many visits as there are objects are enough. -/
theorem Page.resourceIds_congr {document : Document} {budget other : Nat} {seen : List ObjectId}
    {node : Dict} (distinct : seen.Nodup) (held : ∀ id ∈ seen, id ∈ document.objects)
    (enough : document.objects.size < budget + seen.length)
    (enough' : document.objects.size < other + seen.length) :
    resourceIds document budget seen node = resourceIds document other seen node := by
  have bound := Std.TreeMap.length_le_size distinct held
  -- No node is visited again, so at each visit there are fewer objects left to see.
  induction budget generalizing other seen node with
  | zero => omega
  | succ budget ih =>
    obtain ⟨other, rfl⟩ : ∃ less, other = less + 1 := ⟨other - 1, by omega⟩
    simp only [resourceIds]
    split
    · rfl
    · next parent up =>
      split
      · rfl
      next unseen =>
      cases reached : document.dictionaryAt parent with
      | error reason => rfl
      | ok entries =>
        have distinct' : (parent :: seen).Nodup :=
          List.nodup_cons.mpr ⟨by simpa using unseen, distinct⟩
        have held' : ∀ id ∈ parent :: seen, id ∈ document.objects :=
          List.forall_mem_cons.mpr ⟨Document.mem_of_dictionaryAt reached, held⟩
        have later : resourceIds document budget (parent :: seen) entries =
            resourceIds document other (parent :: seen) entries :=
          ih distinct' held' (by rw [List.length_cons]; omega) (by rw [List.length_cons]; omega)
            (Std.TreeMap.length_le_size distinct' held')
        simp only [Except.ok_bind, later]

/-! ## Fonts that are collected -/

namespace Page.Fonts

/-- Fonts that lead to ids of a kind. -/
def LeadTo (fonts : Fonts) (reached : ObjectId → Prop) : Prop :=
  ∀ (name : Bytes) (font : Dict), fonts[name]? = some font → (Object.dictionary font).LeadsTo reached

variable {reached : ObjectId → Prop} {fonts : Fonts}

theorem leadTo_empty : LeadTo ∅ reached := by
  intro name font held
  simp at held

theorem LeadTo.insertIfNew (leads : fonts.LeadTo reached) {name : Bytes} {font : Dict}
    (fontLeads : (Object.dictionary font).LeadsTo reached) :
    LeadTo (fonts.insertIfNew name font) reached := by
  intro other found held
  rw [Std.TreeMap.getElem?_insertIfNew_eq_ite] at held
  split at held
  · cases known : fonts[name]? with
    | none =>
      obtain rfl : font = found := by simpa [known] using held
      exact fontLeads
    | some font' =>
      obtain rfl : font' = found := by simpa [known] using held
      exact leads name font' known
  · exact leads other found held

end Page.Fonts

/-! ## Documents that mirror each other -/

namespace Document

/-- Outcomes that are alike, where references lead to ids of a kind. -/
inductive Outcome (reached : ObjectId → Prop) : Except PdfError Object → Except PdfError Object → Prop
  | ok {first second : Object} (alike : first.Alike second) (leads : second.LeadsTo reached) :
    Outcome reached (.ok first) (.ok second)
  | error (reason : PdfError) : Outcome reached (.error reason) (.error reason)

namespace Outcome

variable {reached : ObjectId → Prop} {one two : Except PdfError Object}

theorem dictionary (alike : Outcome reached one two) :
    (one >>= dictionaryOf) = (two >>= dictionaryOf) := by
  cases alike with
  | ok alike => exact alike.dictionaryOf
  | error => rfl

theorem leadsTo (alike : Outcome reached one two) {object : Object} (found : two = .ok object) :
    object.LeadsTo reached := by
  cases alike <;> cases found
  assumption

end Outcome

theorem follow_of_direct {objects : Objects} {object : Object} (direct : object.reference? = none)
    (left : Nat) : follow objects left object = .ok object := by
  unfold follow
  split
  · cases direct
  · rfl

end Document

theorem Page.contentIds_reference (objects : Objects) (left : Nat) (id : ObjectId) :
    contentIds objects left (.reference id) =
      match objects[id]?, left with
      | none, _ => [id]
      | some (.stream ..), _ => [id]
      | some _, 0 => []
      | some target, left + 1 => contentIds objects left target := by
  rw [contentIds]
  split <;> simp_all
  split <;> simp_all

theorem Page.contentIds_of_direct {objects : Objects} {object : Object}
    (direct : object.reference? = none) (left : Nat) :
    contentIds objects left object = (object.array?.getD []).filterMap Object.reference? := by
  cases object <;> first | cases direct; done | simp [contentIds, Object.array?]

/-- Contents that are alike and no references list the same references. -/
theorem Page.contentIds_of_alike {objects others : Objects} {object other : Object}
    (alike : object.Alike other) (direct : object.reference? = none)
    (direct' : other.reference? = none) (left : Nat) :
    contentIds objects left object = contentIds others left other := by
  rw [contentIds_of_direct direct, contentIds_of_direct direct']
  cases alike <;> rfl

/-- The references in a list of contents lead where the list leads. -/
theorem Page.reached_of_mem_contentIds {objects : Objects} {object : Object}
    {reached : ObjectId → Prop} (direct : object.reference? = none) (leads : object.LeadsTo reached)
    (left : Nat) : ∀ id ∈ contentIds objects left object, reached id := by
  rw [contentIds_of_direct direct]
  intro id inside
  cases object with
  | array items =>
    obtain ⟨item, inside, target⟩ := List.mem_filterMap.mp inside
    cases item <;> cases target
    exact (leads.item inside).target
  | _ => simp [Object.array?] at inside

namespace Document

/-- The ids that references lead to from the catalog of a document on. -/
inductive Reaches (document : Document) : ObjectId → Prop
  | root {id : ObjectId} (named : (document.trailer.get? "Root").bind Object.reference? = some id) :
    document.Reaches id
  | step {id target : ObjectId} {object : Object} (reached : document.Reaches id)
    (held : document.objects[id]? = some object) (mentioned : object.Mentions target) :
    document.Reaches target

/-- An id that is not the catalog and that no object refers to is not reached. -/
theorem not_reaches {document : Document} {id : ObjectId}
    (root : (document.trailer.get? "Root").bind Object.reference? ≠ some id)
    (omitted : ∀ (other : ObjectId) (object : Object), document.objects[other]? = some object →
      ¬ object.Mentions id) : ¬ document.Reaches id := by
  rintro (named | ⟨-, held, mentioned⟩)
  · exact root named
  · exact omitted _ _ held mentioned

/-- Documents with the same catalog and with objects that are alike wherever references lead. -/
structure Mirrors (first second : Document) : Prop where
  root : (first.trailer.get? "Root").bind Object.reference? =
    (second.trailer.get? "Root").bind Object.reference?
  alike : ∀ id, second.Reaches id → Option.Rel Object.Alike first.objects[id]? second.objects[id]?

/-- The walk of the page tree finds the same pages where it may visit as many children as given. -/
def WalksWhole (document : Document) (budget : Nat) : Prop :=
  ∀ root, document.pageTreeRoot? = some root →
    PageTree.walk document budget (PageTree.kids document root) [] =
      PageTree.walk document document.objects.size (PageTree.kids document root) []

namespace Mirrors

variable {first second : Document}

/-- An id that is reached is looked up with the same result in both. -/
theorem getElem?_cases (mirrors : first.Mirrors second) {id : ObjectId} (reached : second.Reaches id) :
    (first.objects[id]? = none ∧ second.objects[id]? = none) ∨
      ∃ object other, first.objects[id]? = some object ∧ second.objects[id]? = some other ∧
        object.Alike other ∧ other.LeadsTo second.Reaches := by
  have alike := mirrors.alike id reached
  cases found : second.objects[id]? with
  | none =>
    rw [found] at alike
    generalize first.objects[id]? = held at alike
    cases alike
    exact .inl ⟨rfl, rfl⟩
  | some other =>
    rw [found] at alike
    generalize first.objects[id]? = held at alike
    cases alike with
    | some alike => exact .inr ⟨_, other, rfl, rfl, alike, fun target => reached.step found⟩

/-- Following references leads to objects that are alike. -/
theorem follow (mirrors : first.Mirrors second) {left : Nat} {object other : Object}
    (alike : object.Alike other) (leads : other.LeadsTo second.Reaches) :
    Outcome second.Reaches (Document.follow first.objects left object)
      (Document.follow second.objects left other) := by
  induction left generalizing object other with
  | zero =>
    rcases alike.reference_cases with ⟨id, rfl, rfl⟩ | ⟨direct, direct'⟩
    · rcases mirrors.getElem?_cases leads.target with ⟨found, found'⟩ | ⟨_, _, found, found', -⟩ <;>
        simp only [Document.follow, found, found'] <;> exact .error _
    · rw [follow_of_direct direct, follow_of_direct direct']
      exact .ok alike leads
  | succ left ih =>
    rcases alike.reference_cases with ⟨id, rfl, rfl⟩ | ⟨direct, direct'⟩
    · rcases mirrors.getElem?_cases leads.target with
        ⟨found, found'⟩ | ⟨_, _, found, found', beyond, leads'⟩ <;>
        simp only [Document.follow, found, found']
      · exact .error _
      · exact ih beyond leads'
    · rw [follow_of_direct direct, follow_of_direct direct']
      exact .ok alike leads

theorem objectAt (mirrors : first.Mirrors second) {id : ObjectId} (reached : second.Reaches id) :
    Outcome second.Reaches (first.objectAt id) (second.objectAt id) := by
  rcases mirrors.getElem?_cases reached with
    ⟨found, found'⟩ | ⟨_, _, found, found', alike, leads⟩ <;>
    simp only [Document.objectAt, found, found']
  · exact .error _
  · exact mirrors.follow alike leads

/-- A dictionary is found under the same ids, and is the same. -/
theorem dictionaryAt (mirrors : first.Mirrors second) {id : ObjectId} (reached : second.Reaches id) :
    first.dictionaryAt id = second.dictionaryAt id :=
  (mirrors.objectAt reached).dictionary

/-- What a dictionary refers to is reached. -/
theorem leadsTo_of_dictionaryAt (mirrors : first.Mirrors second) {id : ObjectId}
    (reached : second.Reaches id) {entries : Dict} (found : second.dictionaryAt id = .ok entries) :
    (Object.dictionary entries).LeadsTo second.Reaches := by
  obtain ⟨object, held, isDictionary⟩ := Except.bind_eq_ok_iff.mp found
  cases object <;> cases isDictionary
  exact (mirrors.objectAt reached).leadsTo held

theorem resolveAt (mirrors : first.Mirrors second) {entries : Dict}
    (leads : (Object.dictionary entries).LeadsTo second.Reaches) (key : String) :
    Outcome second.Reaches (first.resolveAt entries key) (second.resolveAt entries key) := by
  unfold Document.resolveAt
  cases found : entries.get? key with
  | none => exact .error _
  | some object => exact mirrors.follow (.same object) (Dictionary.leadsTo_get? leads found)

/-! ## The page tree -/

section Pages

open PageTree

variable (mirrors : first.Mirrors second)
include mirrors

/-- A node has the same children, all of which are reached. -/
theorem kids {node : ObjectId} (reached : second.Reaches node) :
    PageTree.kids first node = PageTree.kids second node ∧
      LeadTo (PageTree.kids second node) second.Reaches := by
  unfold PageTree.kids LeadTo
  rw [mirrors.dictionaryAt reached]
  cases found : second.dictionaryAt node with
  | error reason => simp
  | ok entries =>
    have outcome := mirrors.resolveAt (mirrors.leadsTo_of_dictionaryAt reached found) "Kids"
    dsimp only
    generalize first.resolveAt entries "Kids" = one, second.resolveAt entries "Kids" = two
      at outcome ⊢
    cases outcome with
    | error => simp
    | ok alike leads =>
      cases alike with
      | stream => simp
      | same =>
        next object =>
        cases object with
        | array items => exact ⟨rfl, fun kid inside => leads.item inside⟩
        | _ => simp

theorem classify {kid : Object} (leads : kid.LeadsTo second.Reaches) :
    PageTree.classify first kid = PageTree.classify second kid := by
  cases kid with
  | reference id => simp only [PageTree.classify, mirrors.dictionaryAt leads.target]
  | _ => rfl

/-- The walk goes the same way from children that are reached, and all pages that it finds are
reached. -/
theorem walk {budget : Nat} {children : List Object} {waiting : List (List Object)}
    (leads : LeadTo children second.Reaches) (later : ∀ kids ∈ waiting, LeadTo kids second.Reaches) :
    PageTree.walk first budget children waiting = PageTree.walk second budget children waiting ∧
      ∀ page ∈ PageTree.walk second budget children waiting, second.Reaches page := by
  induction budget generalizing children waiting with
  | zero => simp [PageTree.walk]
  | succ budget ih =>
    simp only [PageTree.walk]
    split
    · simp
    · next kid siblings rest met =>
      obtain ⟨kidLeads, siblingsLead, restLead⟩ := leadsTo_of_next? leads later met
      rw [mirrors.classify kidLeads]
      split
      · next page isPage =>
        obtain ⟨same, reached⟩ := ih siblingsLead restLead
        obtain rfl := eq_reference_of_classify (.inl isPage)
        exact ⟨by rw [same], List.forall_mem_cons.mpr ⟨kidLeads.target, reached⟩⟩
      · next node isNode =>
        obtain rfl := eq_reference_of_classify (.inr isNode)
        obtain ⟨same, below⟩ := mirrors.kids kidLeads.target
        split
        · rw [same]
          exact ih below (leadTo_of_mem_remember siblingsLead restLead)
        · exact ih siblingsLead restLead
      · exact ih siblingsLead restLead

theorem pageTreeRoot? :
    first.pageTreeRoot? = second.pageTreeRoot? ∧
      ∀ root, second.pageTreeRoot? = some root → second.Reaches root := by
  unfold Document.pageTreeRoot?
  rw [mirrors.root]
  cases named : (second.trailer.get? "Root").bind Object.reference? with
  | none => simp
  | some id =>
    have reached : second.Reaches id := .root named
    simp only [Option.bind_eq_bind, Option.bind_some, mirrors.dictionaryAt reached, true_and]
    cases found : second.dictionaryAt id with
    | error reason => simp [Except.toOption]
    | ok catalog =>
      exact fun root =>
        Dictionary.reached_of_reference? (mirrors.leadsTo_of_dictionaryAt reached found)

/-- The pages of one document are those that the walk finds in the other with the same bound. -/
theorem pages :
    (first.pages = match second.pageTreeRoot? with
      | none => []
      | some root =>
        PageTree.walk second first.objects.size (PageTree.kids second root) []) ∧
      ∀ page ∈ first.pages, second.Reaches page := by
  obtain ⟨same, reached⟩ := mirrors.pageTreeRoot?
  unfold Document.pages
  rw [same]
  cases found : second.pageTreeRoot? with
  | none => simp
  | some root =>
    obtain ⟨kids, leads⟩ := mirrors.kids (reached root found)
    have none : ∀ kids ∈ ([] : List (List Object)), LeadTo kids second.Reaches := by simp
    dsimp only
    rw [kids, (mirrors.walk leads none).1]
    exact ⟨rfl, (mirrors.walk leads none).2⟩

theorem pages_eq (whole : second.WalksWhole first.objects.size) : first.pages = second.pages := by
  rw [mirrors.pages.1, Document.pages]
  cases found : second.pageTreeRoot? with
  | none => rfl
  | some root => exact whole root found

/-- Documents that mirror each other have as many pages if the walk of the page tree finds the same
with either bound, and only then. -/
theorem pageCount_eq_iff :
    first.pageCount = second.pageCount ↔ second.WalksWhole first.objects.size := by
  constructor
  · intro same root found
    rw [Document.pageCount, Document.pageCount, mirrors.pages.1, Document.pages, found] at same
    exact walk_eq_of_length_eq same
  · intro whole
    rw [Document.pageCount, Document.pageCount, mirrors.pages_eq whole]

end Pages

/-! ## The content of a page -/

section Content

variable (mirrors : first.Mirrors second)
include mirrors

theorem contentIds {left : Nat} {object other : Object} (alike : object.Alike other)
    (leads : other.LeadsTo second.Reaches) :
    Page.contentIds first.objects left object = Page.contentIds second.objects left other ∧
      ∀ id ∈ Page.contentIds second.objects left other, second.Reaches id := by
  -- A stream ends the search, and is counted under the id that led to it.
  induction left generalizing object other with
  | zero =>
    rcases alike.reference_cases with ⟨id, rfl, rfl⟩ | ⟨direct, direct'⟩
    · have reached := leads.target
      rcases mirrors.getElem?_cases reached with ⟨found, found'⟩ | ⟨_, _, found, found', beyond, -⟩
      · simp [Page.contentIds_reference, found, found', reached]
      · rw [Page.contentIds_reference, Page.contentIds_reference, found, found']
        cases beyond with
        | stream => simp [reached]
        | same => split <;> simp_all
    · exact ⟨Page.contentIds_of_alike alike direct direct' _,
        Page.reached_of_mem_contentIds direct' leads _⟩
  | succ left ih =>
    rcases alike.reference_cases with ⟨id, rfl, rfl⟩ | ⟨direct, direct'⟩
    · have reached := leads.target
      rcases mirrors.getElem?_cases reached with
        ⟨found, found'⟩ | ⟨_, _, found, found', beyond, leads'⟩
      · simp [Page.contentIds_reference, found, found', reached]
      · have later := ih beyond leads'
        rw [Page.contentIds_reference, Page.contentIds_reference, found, found']
        cases beyond with
        | stream => simp [reached]
        | same => split <;> simp_all
    · exact ⟨Page.contentIds_of_alike alike direct direct' _,
        Page.reached_of_mem_contentIds direct' leads _⟩

theorem contentData {id : ObjectId} (reached : second.Reaches id) :
    Page.contentData first id = Page.contentData second id := by
  have outcome := mirrors.objectAt reached
  unfold Page.contentData
  generalize first.objectAt id = one, second.objectAt id = two at outcome ⊢
  cases outcome with
  | error => rfl
  | ok alike =>
    cases alike with
    | same => rfl
    | stream shown => exact shown

theorem contentIdsOf {page : ObjectId} (reached : second.Reaches page) :
    Page.contentIdsOf first page = Page.contentIdsOf second page ∧
      ∀ id ∈ Page.contentIdsOf second page, second.Reaches id := by
  unfold Page.contentIdsOf
  rw [mirrors.dictionaryAt reached]
  cases found : second.dictionaryAt page with
  | error reason => simp
  | ok entries =>
    cases held : entries.get? "Contents" with
    | none => simp [held]
    | some contents =>
      simp only [held]
      exact mirrors.contentIds (.same contents)
        (Dictionary.leadsTo_get? (mirrors.leadsTo_of_dictionaryAt reached found) held)

/-- A page shows the same data. -/
theorem content {page : ObjectId} (reached : second.Reaches page) :
    Page.content first page = Page.content second page := by
  obtain ⟨same, below⟩ := mirrors.contentIdsOf reached
  unfold Page.content
  rw [same]
  exact congrArg List.flatten
    (List.map_congr_left fun id inside => mirrors.contentData (below id inside))

end Content

/-! ## Fonts -/

section Fonts

variable (mirrors : first.Mirrors second)
include mirrors

/-- The resources of a node and its ancestors are the same, as long as as many ancestors may be
visited. -/
theorem resourceIds {budget : Nat} {seen : List ObjectId} {node : Dict}
    (leads : (Object.dictionary node).LeadsTo second.Reaches) :
    Page.resourceIds first budget seen node = Page.resourceIds second budget seen node ∧
      ∀ ids, Page.resourceIds second budget seen node = .ok ids → ∀ id ∈ ids, second.Reaches id := by
  induction budget generalizing seen node with
  | zero => simp [Page.resourceIds]
  | succ budget ih =>
    have own : ∀ id ∈ ((node.get? "Resources").bind Object.reference?).toList, second.Reaches id :=
      fun id inside => Dictionary.reached_of_reference? leads (Option.mem_toList.mp inside)
    simp only [Page.resourceIds]
    cases up : (node.get? "Parent").bind Object.reference? with
    | none =>
      refine ⟨rfl, ?_⟩
      rintro ids ⟨⟩
      exact own
    | some parent =>
      have reached : second.Reaches parent := Dictionary.reached_of_reference? leads up
      dsimp only
      rw [mirrors.dictionaryAt reached]
      split
      · simp
      cases found : second.dictionaryAt parent with
      | error reason => simp
      | ok entries =>
        obtain ⟨same, below⟩ :=
          @ih (parent :: seen) _ (mirrors.leadsTo_of_dictionaryAt reached found)
        simp only [Except.ok_bind, same]
        refine ⟨trivial, fun ids gathered => ?_⟩
        obtain ⟨others, listed, gathered⟩ := Except.bind_eq_ok_iff.mp gathered
        cases gathered
        exact List.forall_mem_append.mpr ⟨own, below others listed⟩

theorem dictionary? {object : Object} (leads : object.LeadsTo second.Reaches) :
    Page.dictionary? first object = Page.dictionary? second object ∧
      ∀ entries, Page.dictionary? second object = some entries →
        (Object.dictionary entries).LeadsTo second.Reaches := by
  cases object with
  | dictionary entries =>
    refine ⟨rfl, fun found same => ?_⟩
    cases same
    exact leads
  | reference id =>
    have reached := leads.target
    refine ⟨by rw [Page.dictionary?, Page.dictionary?, mirrors.dictionaryAt reached], ?_⟩
    intro entries found
    exact mirrors.leadsTo_of_dictionaryAt reached (Except.toOption_eq_some_iff.mp found)
  | _ => simp [Page.dictionary?]

theorem addFonts {fonts : Page.Fonts} {resources : Dict} (fontsLead : fonts.LeadTo second.Reaches)
    (leads : (Object.dictionary resources).LeadsTo second.Reaches) :
    Page.addFonts first fonts resources = Page.addFonts second fonts resources ∧
      (Page.addFonts second fonts resources).LeadTo second.Reaches := by
  unfold Page.addFonts
  cases held : resources.get? "Font" with
  | none => exact ⟨rfl, fontsLead⟩
  | some object =>
    obtain ⟨same, leads'⟩ := mirrors.dictionary? (Dictionary.leadsTo_get? leads held)
    simp only [Option.bind_some, same]
    cases listed : Page.dictionary? second object with
    | none => exact ⟨rfl, fontsLead⟩
    | some entries =>
      refine List.foldl_eq_of_invariant (Page.Fonts.LeadTo · second.Reaches) ?_ fontsLead
      intro fonts fontsLead entry inside
      obtain ⟨same, fontLeads⟩ := mirrors.dictionary? ((leads' entries listed).entry inside)
      rw [same]
      cases found : Page.dictionary? second entry.2 with
      | none => exact ⟨rfl, fontsLead⟩
      | some font => exact ⟨rfl, fontsLead.insertIfNew (fontLeads font found)⟩

/-- The dictionaries that are referred to are the same. -/
theorem filterMap_dictionaryAt {ids : List ObjectId} (reached : ∀ id ∈ ids, second.Reaches id) :
    (ids.filterMap fun id => (first.dictionaryAt id).toOption) =
        ids.filterMap (fun id => (second.dictionaryAt id).toOption) ∧
      ∀ entries ∈ ids.filterMap (fun id => (second.dictionaryAt id).toOption),
        (Object.dictionary entries).LeadsTo second.Reaches := by
  refine ⟨List.filterMap_congr fun id inside => by rw [mirrors.dictionaryAt (reached id inside)], ?_⟩
  intro entries inside
  obtain ⟨id, inside, found⟩ := List.mem_filterMap.mp inside
  exact mirrors.leadsTo_of_dictionaryAt (reached id inside) (Except.toOption_eq_some_iff.mp found)

theorem foldl_addFonts {resources : List Dict}
    (lead : ∀ entries ∈ resources, (Object.dictionary entries).LeadsTo second.Reaches) :
    resources.foldl (Page.addFonts first) ∅ = resources.foldl (Page.addFonts second) ∅ ∧
      Page.Fonts.LeadTo (resources.foldl (Page.addFonts second) ∅) second.Reaches :=
  List.foldl_eq_of_invariant (Page.Fonts.LeadTo · second.Reaches)
    (fun _ fontsLead entries inside => mirrors.addFonts fontsLead (lead entries inside))
    Page.Fonts.leadTo_empty

/-- The ancestors of a page are never more than the objects of either document, so the different
bounds on the visits do not matter. -/
theorem resourceIds_size {node : Dict} (leads : (Object.dictionary node).LeadsTo second.Reaches) :
    Page.resourceIds first (first.objects.size + 2) [] node =
      Page.resourceIds second (second.objects.size + 2) [] node := by
  have widen (document : Document) (budget : Nat) (enough : document.objects.size < budget) :
      Page.resourceIds document (document.objects.size + 2) [] node =
        Page.resourceIds document budget [] node :=
    Page.resourceIds_congr List.nodup_nil (by simp) (by simp) (by simpa using enough)
  rw [widen first (first.objects.size + second.objects.size + 1) (by omega),
    widen second (first.objects.size + second.objects.size + 1) (by omega),
    (mirrors.resourceIds leads).1]

/-- A page has the same fonts. -/
theorem fonts {page : ObjectId} (reached : second.Reaches page) :
    Page.fonts first page = Page.fonts second page ∧
      ∀ fonts, Page.fonts second page = .ok fonts → fonts.LeadTo second.Reaches := by
  unfold Page.fonts
  rw [mirrors.dictionaryAt reached]
  cases found : second.dictionaryAt page with
  | error reason =>
    refine ⟨rfl, ?_⟩
    rintro fonts ⟨⟩
    exact Page.Fonts.leadTo_empty
  | ok node =>
    have leads := mirrors.leadsTo_of_dictionaryAt reached found
    simp only [mirrors.resourceIds_size leads]
    cases listed : Page.resourceIds second (second.objects.size + 2) [] node with
    | error reason => simp
    | ok ids =>
      obtain ⟨referred, referredLead⟩ :=
        mirrors.filterMap_dictionaryAt ((mirrors.resourceIds leads).2 ids listed)
      have ownLead : ∀ entries ∈ ((node.get? "Resources").bind Object.dictionary?).toList,
          (Object.dictionary entries).LeadsTo second.Reaches := fun entries inside =>
        Dictionary.leadsTo_dictionary? leads (Option.mem_toList.mp inside)
      obtain ⟨same, kept⟩ :=
        mirrors.foldl_addFonts (List.forall_mem_append.mpr ⟨ownLead, referredLead⟩)
      simp only [Except.ok_bind, referred, same]
      refine ⟨trivial, ?_⟩
      rintro fonts ⟨⟩
      exact kept

end Fonts

/-! ## The text of a page -/

section Text

variable (mirrors : first.Mirrors second)
include mirrors

theorem encoding {font : Dict} (leads : (Object.dictionary font).LeadsTo second.Reaches) :
    Encoding.ofFont first font = Encoding.ofFont second font := by
  have outcome := mirrors.resolveAt leads "ToUnicode"
  unfold Encoding.ofFont Encoding.toUnicode
  generalize first.resolveAt font "ToUnicode" = one, second.resolveAt font "ToUnicode" = two
    at outcome ⊢
  cases outcome with
  | error => rfl
  | ok alike =>
    cases alike with
    | same => rfl
    | stream _ plain => simp only [Document.streamOf, Encoding.ofStream, Except.ok_bind, plain]

theorem start {fonts : Page.Fonts} (lead : fonts.LeadTo second.Reaches) :
    PageText.start first fonts = PageText.start second fonts := by
  unfold PageText.start
  rw [Std.TreeMap.foldl_eq_foldl_toList, Std.TreeMap.foldl_eq_foldl_toList]
  refine (List.foldl_eq_of_invariant (fun _ => True) ?_ trivial).1
  rintro found - ⟨name, font⟩ inside
  have fontLeads := lead name font (Std.TreeMap.mem_toList_iff_getElem?_eq_some.mp inside)
  simp only [PageText.addEncoding, mirrors.encoding fontLeads, and_self]

/-- A page has the same text. -/
theorem ofPage {page : ObjectId} (reached : second.Reaches page) :
    PageText.ofPage first page = PageText.ofPage second page := by
  obtain ⟨fonts, lead⟩ := mirrors.fonts reached
  unfold PageText.ofPage
  rw [fonts, mirrors.content reached]
  cases found : Page.fonts second page with
  | error reason => rfl
  | ok fonts => simp only [Except.mapError_ok, Except.ok_bind, mirrors.start (lead fonts found)]

/-- Where both walks find the same pages, these have the same texts, or fail in the same way. -/
theorem pageText (whole : second.WalksWhole first.objects.size) (index : Nat) :
    first.pageText index = second.pageText index := by
  unfold Document.pageText PageText.ofNumber Document.page?
  rw [mirrors.pageCount_eq_iff.mpr whole, ← mirrors.pages_eq whole]
  split
  · simp only [Nat.succ_ne_zero, if_false]
    cases found : first.pages[index + 1 - 1]? with
    | none => rfl
    | some page =>
      simp only [mirrors.ofPage (mirrors.pages.2 page (List.mem_of_getElem? found))]
  · rfl

end Text

end Mirrors

end Document

end PdfText

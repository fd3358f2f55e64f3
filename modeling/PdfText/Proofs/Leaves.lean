import PdfText.Proofs.Mirroring

/-!
# Leaves of page trees

The root of a page tree lists its children, they list theirs, and so on down to the pages. If every
node below the root is met once and they are not too many levels deep, the walk gives the pages as
they come when one goes down before one goes on. Nodes without children and the numbers of pages that
nodes claim to have make no difference.

The walk remembers the siblings of a node while it is below that node. What it gives there does not
depend on what waits, so it gives the pages below a row of nodes first, and goes on as if there had
been no such row.

What a document holds need not be a tree. The walk ends all the same, and gives no more pages than
the document has objects.

## Main definitions

* `PageTree.Forest` — nodes in a row, each with the nodes below it; `PageTree.Forest.leaves` — their
  pages in order
* `PageTree.Forest.StandsIn` — the objects of a document describe such nodes
* `Document.HasPageTree` — they are the nodes below the root of its page tree

## Main results

* `PageTree.walk_forest` — the walk gives the pages of a row, and then those that wait
* `Document.HasPageTree.unique` — a document has one page tree at most
* `Document.HasPageTree.pages_eq` — the pages of a document are the leaves of its page tree
* `Document.pageCount_le_size` — no document has more pages than objects
-/

namespace PdfText

namespace PageTree

/-! ## Types -/

/-- An id is that of a dictionary with a type. -/
def HasType (document : Document) (id : ObjectId) (word : String) : Prop :=
  ∃ entries, document.dictionaryAt id = .ok entries ∧ entries.hasType word

section Types

variable {document : Document} {id : ObjectId}

theorem HasType.mem {word : String} (typed : HasType document id word) : id ∈ document.objects := by
  obtain ⟨entries, found, -⟩ := typed
  exact Document.mem_of_dictionaryAt found

/-- A dictionary has one type at most. -/
theorem HasType.unique {word other : String} (typed : HasType document id word)
    (typed' : HasType document id other) : ascii word = ascii other := by
  obtain ⟨entries, found, typed⟩ := typed
  obtain ⟨entries', found', typed'⟩ := typed'
  obtain rfl := Except.ok.inj (found.symm.trans found')
  exact Option.some.inj ((eq_of_beq typed).symm.trans (eq_of_beq typed'))

theorem HasType.classify_page (typed : HasType document id "Page") :
    classify document (.reference id) = .page id := by
  obtain ⟨entries, found, typed⟩ := typed
  simp only [classify, found, typed, if_true]

theorem HasType.classify_pages (typed : HasType document id "Pages") :
    classify document (.reference id) = .pages id := by
  obtain ⟨entries, found, typed⟩ := typed
  have other : entries.hasType "Page" = false := by
    rw [Dictionary.hasType, eq_of_beq typed]
    decide
  simp [classify, found, typed, other]

end Types

/-! ## Nodes -/

/-- Nodes of a page tree that have the same parent, in order, each with the nodes below it. -/
inductive Forest where
  /-- No node. -/
  | nil
  /-- A page, and the nodes after it. -/
  | page (id : ObjectId) (rest : Forest)
  /-- A node with children, and the nodes after it. -/
  | pages (id : ObjectId) (children rest : Forest)
  deriving DecidableEq, Repr

namespace Forest

/-- The references to the nodes of a row. -/
def references : Forest → List Object
  | nil => []
  | page id rest => .reference id :: rest.references
  | pages id _ rest => .reference id :: rest.references

/-- The pages, where one goes down before one goes on. -/
def leaves : Forest → List ObjectId
  | nil => []
  | page id rest => id :: rest.leaves
  | pages _ children rest => children.leaves ++ rest.leaves

/-- All nodes, where one goes down before one goes on. -/
def ids : Forest → List ObjectId
  | nil => []
  | page id rest => id :: rest.ids
  | pages id children rest => id :: (children.ids ++ rest.ids)

/-- On how many levels there are nodes. -/
def levels : Forest → Nat
  | nil => 0
  | page _ rest => max 1 rest.levels
  | pages _ children rest => max (children.levels + 1) rest.levels

/-- The objects of a document describe some nodes: pages, and others that list their children, all of
them by references. -/
def StandsIn (document : Document) : Forest → Prop
  | nil => True
  | page id rest => HasType document id "Page" ∧ rest.StandsIn document
  | pages id children rest =>
    HasType document id "Pages" ∧ kids document id = children.references ∧
      children.StandsIn document ∧ rest.StandsIn document

variable {document : Document}

theorem leaves_sublist_ids (nodes : Forest) : nodes.leaves.Sublist nodes.ids := by
  induction nodes with
  | nil => exact .slnil
  | page id rest ih => exact ih.cons_cons id
  | pages id children rest below after => exact (below.append after).cons id

/-- A node that stands in a document is an object of it. -/
theorem StandsIn.mem {nodes : Forest} (stands : nodes.StandsIn document) :
    ∀ id ∈ nodes.ids, id ∈ document.objects := by
  induction nodes with
  | nil => exact fun _ => nofun
  | page id rest ih => exact List.forall_mem_cons.mpr ⟨stands.1.mem, ih stands.2⟩
  | pages id children rest below after =>
    obtain ⟨typed, -, children_, rest_⟩ := stands
    exact List.forall_mem_cons.mpr ⟨typed.mem,
      List.forall_mem_append.mpr ⟨below children_, after rest_⟩⟩

/-- Nodes that stand in a document, each once, are no more than it has objects. -/
theorem StandsIn.length_ids_le {nodes : Forest} (stands : nodes.StandsIn document)
    (distinct : nodes.ids.Nodup) : nodes.ids.length ≤ document.objects.size :=
  Std.TreeMap.length_le_size distinct stands.mem

/-- The references to the nodes of a row lead to no other nodes. -/
theorem StandsIn.unique {nodes other : Forest} (stands : nodes.StandsIn document)
    (stands' : other.StandsIn document) (same : nodes.references = other.references) :
    nodes = other := by
  have apart : ascii "Page" ≠ ascii "Pages" := by decide
  -- By induction on the nodes. References that are the same lead to nodes of the same type, and to
  -- the same lists of children.
  induction nodes generalizing other with
  | nil =>
    cases other with
    | nil => rfl
    | page | pages => cases same
  | page id rest ih =>
    cases other with
    | nil => cases same
    | page other_ rest' =>
      obtain ⟨⟨⟩, later⟩ := List.cons.inj same
      rw [ih stands.2 stands'.2 later]
    | pages other_ children' rest' =>
      obtain ⟨⟨⟩, -⟩ := List.cons.inj same
      exact absurd (stands.1.unique stands'.1) apart
  | pages id children rest below after =>
    obtain ⟨typed, listed, children_, rest_⟩ := stands
    cases other with
    | nil => cases same
    | page other_ rest' =>
      obtain ⟨⟨⟩, -⟩ := List.cons.inj same
      exact absurd (stands'.1.unique typed) apart
    | pages other_ children' rest' =>
      obtain ⟨⟨⟩, later⟩ := List.cons.inj same
      obtain ⟨-, listed', children_', rest_'⟩ := stands'
      rw [below children_ children_' (listed.symm.trans listed'), after rest_ rest_' later]

/-! ### Pages in a row -/

/-- Pages in a row, and no other nodes. -/
def ofPages : List ObjectId → Forest
  | [] => nil
  | id :: ids => page id (ofPages ids)

theorem references_ofPages (ids : List ObjectId) :
    (ofPages ids).references = ids.map Object.reference := by
  induction ids with
  | nil => rfl
  | cons id ids ih => rw [ofPages, references, ih, List.map_cons]

theorem leaves_ofPages (ids : List ObjectId) : (ofPages ids).leaves = ids := by
  induction ids with
  | nil => rfl
  | cons id ids ih => rw [ofPages, leaves, ih]

theorem ids_ofPages (ids : List ObjectId) : (ofPages ids).ids = ids := by
  induction ids with
  | nil => rfl
  | cons id ids ih => rw [ofPages, Forest.ids, ih]

theorem levels_ofPages_le (ids : List ObjectId) : (ofPages ids).levels ≤ 1 := by
  induction ids with
  | nil => exact Nat.zero_le 1
  | cons id ids ih =>
    rw [ofPages, levels]
    exact Nat.max_le.mpr ⟨Nat.le_refl 1, ih⟩

theorem standsIn_ofPages {ids : List ObjectId} (typed : ∀ id ∈ ids, HasType document id "Page") :
    (ofPages ids).StandsIn document := by
  induction ids with
  | nil => trivial
  | cons id ids ih =>
    obtain ⟨first, others⟩ := List.forall_mem_cons.mp typed
    exact ⟨first, ih others⟩

end Forest

/-! ## The walk -/

section Kids

variable {document : Document} {id : ObjectId} {entries : Dict}

theorem kids_of_listed {items : List Object} (found : document.dictionaryAt id = .ok entries)
    (listed : entries.get? "Kids" = some (.array items)) : kids document id = items := by
  simp only [kids, found, Document.resolveAt, listed, Document.resolve, Document.follow]

theorem kids_of_unlisted (found : document.dictionaryAt id = .ok entries)
    (unlisted : entries.get? "Kids" = none) : kids document id = [] := by
  simp only [kids, found, Document.resolveAt, unlisted]

end Kids

section Walk

variable {document : Document} {budget : Nat} {siblings : List Object} {waiting : List (List Object)}
  {id : ObjectId}

/-- Where a row has no more nodes, the walk goes on with the row that waits. -/
theorem walk_nil_cons : walk document budget [] (siblings :: waiting) =
    walk document budget siblings waiting := by
  cases budget with
  | zero => rfl
  | succ budget => rw [walk, walk, next?]

theorem walk_nil_nil : walk document budget [] [] = [] := by
  cases budget <;> rfl

theorem walk_remember : walk document budget [] (remember siblings waiting) =
    walk document budget siblings waiting := by
  cases siblings with
  | nil => rfl
  | cons kid siblings => exact walk_nil_cons

theorem length_remember_le : (remember siblings waiting).length ≤ waiting.length + 1 := by
  unfold remember
  split
  · exact Nat.le_succ _
  · exact Nat.le_refl _

/-- A page is given, and the walk goes on after it. -/
theorem walk_page (found : classify document (.reference id) = .page id) :
    walk document (budget + 1) (.reference id :: siblings) waiting =
      id :: walk document budget siblings waiting := by
  simp only [walk, next?, found]

/-- Where not too much waits, the walk goes down to the children of a node. -/
theorem walk_pages (found : classify document (.reference id) = .pages id)
    (few : waiting.length < maxLevels) :
    walk document (budget + 1) (.reference id :: siblings) waiting =
      walk document budget (kids document id) (remember siblings waiting) := by
  simp only [walk, next?, found, if_pos few]

/-- The walk gives the pages of a row, whatever waits, and goes on as if the row had been empty. It
visits each node once. -/
theorem walk_forest {nodes : Forest} (stands : nodes.StandsIn document)
    (few : nodes.levels + waiting.length ≤ maxLevels) :
    walk document (nodes.ids.length + budget) nodes.references waiting =
      nodes.leaves ++ walk document budget [] waiting := by
  -- By induction on the nodes, for all lists that wait: below a node, the rest of its row waits too.
  induction nodes generalizing waiting budget with
  | nil => rw [Forest.ids, List.length_nil, Nat.zero_add, Forest.references, Forest.leaves,
      List.nil_append]
  | page id rest ih =>
    obtain ⟨typed, rest_⟩ := stands
    have within : rest.levels + waiting.length ≤ maxLevels := by
      rw [Forest.levels] at few
      omega
    calc walk document ((id :: rest.ids).length + budget) (.reference id :: rest.references) waiting
      _ = walk document (rest.ids.length + budget + 1) (.reference id :: rest.references)
          waiting := by
        rw [List.length_cons, Nat.add_right_comm]
      _ = id :: walk document (rest.ids.length + budget) rest.references waiting :=
        walk_page typed.classify_page
      _ = id :: (rest.leaves ++ walk document budget [] waiting) := by rw [ih rest_ within]
  | pages id children rest below after =>
    obtain ⟨typed, listed, children_, rest_⟩ := stands
    rw [Forest.levels] at few
    have room : waiting.length < maxLevels := by omega
    have within : rest.levels + waiting.length ≤ maxLevels := by omega
    have deeper : children.levels + (remember rest.references waiting).length ≤ maxLevels := by
      have longer := @length_remember_le rest.references waiting
      omega
    calc walk document ((id :: (children.ids ++ rest.ids)).length + budget)
          (.reference id :: rest.references) waiting
      _ = walk document (children.ids.length + (rest.ids.length + budget) + 1)
          (.reference id :: rest.references) waiting := by
        rw [List.length_cons, List.length_append]
        congr 1
        omega
      _ = walk document (children.ids.length + (rest.ids.length + budget)) children.references
          (remember rest.references waiting) := by
        rw [walk_pages typed.classify_pages room, listed]
      _ = children.leaves ++ walk document (rest.ids.length + budget) rest.references waiting := by
        rw [below children_ deeper, walk_remember]
      _ = children.leaves ++ rest.leaves ++ walk document budget [] waiting := by
        rw [after rest_ within, List.append_assoc]

/-- Whatever is walked over, each page that is given is one of the children visited. -/
theorem length_walk_le (document : Document) (budget : Nat) (children : List Object)
    (waiting : List (List Object)) : (walk document budget children waiting).length ≤ budget := by
  induction budget generalizing children waiting with
  | zero => exact Nat.le_refl 0
  | succ budget ih =>
    have later := fun children waiting => Nat.le_succ_of_le (ih children waiting)
    rw [walk]
    split
    · exact Nat.zero_le _
    split
    · exact Nat.succ_le_succ (ih _ _)
    · split
      · exact later _ _
      · exact later _ _
    · exact later _ _

end Walk

end PageTree

/-! ## The pages of a document -/

namespace Document

/-- Some nodes are those below the root of the page tree of a document. Each of them is met once, and
there are no more levels of them than the walk goes down. -/
structure HasPageTree (document : Document) (nodes : PageTree.Forest) : Prop where
  /-- They are the children that the root lists, with what is below them. What type the root itself
  has makes no difference. -/
  root : ∃ id, document.pageTreeRoot? = some id ∧ PageTree.kids document id = nodes.references
  /-- They are objects of the document. -/
  stands : nodes.StandsIn document
  /-- None of them is met twice. -/
  distinct : nodes.ids.Nodup
  /-- They are not too many levels deep. -/
  shallow : nodes.levels ≤ PageTree.maxLevels

variable {document : Document} {nodes : PageTree.Forest}

/-- A document has one page tree at most. -/
theorem HasPageTree.unique {other : PageTree.Forest} (tree : document.HasPageTree nodes)
    (tree' : document.HasPageTree other) : nodes = other := by
  obtain ⟨id, rooted, listed⟩ := tree.root
  obtain ⟨id', rooted', listed'⟩ := tree'.root
  obtain rfl := Option.some.inj (rooted.symm.trans rooted')
  exact tree.stands.unique tree'.stands (listed.symm.trans listed')

/-- The root is the one that the catalog refers to. -/
theorem pageTreeRoot?_eq {place : ObjectId} {catalog : Dict}
    (placed : (document.trailer.get? "Root").bind Object.reference? = some place)
    (found : document.dictionaryAt place = .ok catalog) :
    document.pageTreeRoot? = (catalog.get? "Pages").bind Object.reference? := by
  rw [pageTreeRoot?, placed]
  simp only [Option.bind_eq_bind, Option.bind_some, found, Except.toOption]

/-- The pages of a document are the leaves of its page tree. -/
theorem HasPageTree.pages_eq (tree : document.HasPageTree nodes) :
    document.pages = nodes.leaves := by
  obtain ⟨id, rooted, listed⟩ := tree.root
  obtain ⟨left, size⟩ := Nat.exists_eq_add_of_le (tree.stands.length_ids_le tree.distinct)
  rw [pages, rooted]
  dsimp only
  rw [listed, size, PageTree.walk_forest tree.stands (by simpa using tree.shallow),
    PageTree.walk_nil_nil, List.append_nil]

/-- A document has no more pages than objects. -/
theorem pageCount_le_size (document : Document) : document.pageCount ≤ document.objects.size := by
  rw [pageCount, pages]
  split
  · exact Nat.zero_le _
  · exact PageTree.length_walk_le _ _ _ _

end Document

end PdfText

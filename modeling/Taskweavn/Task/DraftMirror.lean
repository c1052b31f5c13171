import Taskweavn.Task.DraftAtomic
import Taskweavn.Task.DraftForest

/-!
# The two draft stores, table by dictionary

`DraftMirrors` relates the draft store in memory to the SQLite store: each table has the rows
of the entries of a dictionary, in the order of the dictionary.  A store in memory keeps
a tree with its roots, while SQLite reads the roots anew; the two find the same tree,
because the nodes of a tree are sorted by the same key.

* `sortOn_treeOrder`: a text column of times sorts as the times do, for the nodes of one
  place.
* `DraftMirrors.bumpTree`: a tree that is built again is the same in both stores.
-/

namespace Taskweavn

open Lib Py

/-! ### The order of nodes -/

/-- Two nodes in one place are the same node, or the store has dated both. -/
def Tidy (a b : DraftTaskNode) : Prop :=
  a.1.parentDraftTaskId.getD "" = b.1.parentDraftTaskId.getD "" →
    a.1.orderIndex = b.1.orderIndex →
      a = b ∨ (∃ d, a.1.createdAt = Moment.utc d) ∧ ∃ d, b.1.createdAt = Moment.utc d

theorem Tidy.not_mixed {a b : DraftTaskNode} (h : Tidy a b) : ¬Mixed a b := by
  rintro ⟨hparent, horder, hcomp⟩
  rcases h hparent horder with rfl | ⟨⟨d, hd⟩, d', hd'⟩
  · exact hcomp rfl
  · exact hcomp (by rw [hd, hd']; rfl)

theorem lex_le_congr {α β γ : Type} [LinearOrder α] [LinearOrder β] [LinearOrder γ] {a b : α}
    {x y : β} {x' y' : γ} (h : a = b → (x ≤ y ↔ x' ≤ y')) :
    toLex (a, x) ≤ toLex (b, y) ↔ toLex (a, x') ≤ toLex (b, y') := by
  rw [Prod.Lex.toLex_le_toLex, Prod.Lex.toLex_le_toLex]
  exact or_congr_right (and_congr_right h)

theorem time_le_iff {a b : DraftTaskNode} (ha : ∃ d, a.1.createdAt = Moment.utc d)
    (hb : ∃ d, b.1.createdAt = Moment.utc d) :
    toLex (a.1.createdAt.isoformat, a.1.draftTaskId) ≤
        toLex (b.1.createdAt.isoformat, b.1.draftTaskId) ↔
      toLex (a.1.createdAt.instant, a.1.draftTaskId) ≤
        toLex (b.1.createdAt.instant, b.1.draftTaskId) := by
  obtain ⟨d, hd⟩ := ha
  obtain ⟨d', hd'⟩ := hb
  rw [hd, hd', Prod.Lex.toLex_le_toLex, Prod.Lex.toLex_le_toLex]
  simp only [Moment.isoformat_utc, Moment.instant_utc, Nat.cast_lt, Nat.cast_inj,
    DateTime.isoformat_lt_iff, DateTime.isoformat_inj, DateTime.microseconds_lt_iff]
  have hinj : d.microseconds = d'.microseconds ↔ d = d' := by
    rw [le_antisymm_iff, le_antisymm_iff, DateTime.microseconds_le_iff,
      DateTime.microseconds_le_iff]
  rw [hinj]

/-- **The table sorts nodes as the dictionary does.** -/
theorem treeOrder_le_iff {a b : DraftTaskNode} (h : Tidy a b) :
    (DraftNodeRow.ofNode a).treeOrder ≤ (DraftNodeRow.ofNode b).treeOrder ↔
      nodeKey a ≤ nodeKey b := by
  show toLex (a.1.parentDraftTaskId.getD "", toLex (a.1.orderIndex,
      toLex (a.1.createdAt.isoformat, a.1.draftTaskId))) ≤
    toLex (b.1.parentDraftTaskId.getD "", toLex (b.1.orderIndex,
      toLex (b.1.createdAt.isoformat, b.1.draftTaskId))) ↔ _
  refine lex_le_congr fun hparent => lex_le_congr fun horder => ?_
  rcases h hparent horder with rfl | ⟨ha, hb⟩
  · exact iff_of_true le_rfl le_rfl
  · exact time_le_iff ha hb

theorem sortOn_treeOrder {nodes : List DraftTaskNode} (h : ∀ a ∈ nodes, ∀ b ∈ nodes, Tidy a b) :
    sortOn (fun node => (DraftNodeRow.ofNode node).treeOrder) nodes = sortOn nodeKey nodes :=
  sortOn_congr fun a ha b hb => treeOrder_le_iff (h a ha b hb)

theorem sortOn_childOrder {nodes : List DraftTaskNode} {parent : Option String}
    (hparent : ∀ node ∈ nodes, node.1.parentDraftTaskId = parent)
    (h : ∀ a ∈ nodes, ∀ b ∈ nodes, Tidy a b) :
    sortOn (fun node => (DraftNodeRow.ofNode node).childOrder) nodes = sortOn nodeKey nodes := by
  rw [← sortOn_treeOrder h]
  refine sortOn_congr fun a ha b hb => ?_
  show _ ↔ toLex (a.1.parentDraftTaskId.getD "", (DraftNodeRow.ofNode a).childOrder) ≤
    toLex (b.1.parentDraftTaskId.getD "", (DraftNodeRow.ofNode b).childOrder)
  rw [hparent a ha, hparent b hb, Prod.Lex.toLex_le_toLex]
  simp

theorem sortNodes_tidy {nodes : List DraftTaskNode} (h : ∀ a ∈ nodes, ∀ b ∈ nodes, Tidy a b) :
    sortNodes nodes = .ok (sortOn nodeKey nodes) := by
  rw [sortNodes, if_neg]
  rintro ⟨a, ha, b, hb, hmixed⟩
  exact (h a ha b hb).not_mixed hmixed

theorem sortNodes_perm {nodes nodes' : List DraftTaskNode} (h : nodes.Perm nodes')
    (hnodup : (nodes.map fun node => node.1.draftTaskId).Nodup) :
    sortNodes nodes = sortNodes nodes' := by
  have hkeys : (nodes.map nodeKey).Nodup := by
    refine List.Nodup.of_map (fun key => key.2.2.2) ?_
    rw [List.map_map]
    exact hnodup
  simp only [sortNodes, h.mem_iff, sortOn_eq_of_perm h hkeys]

/-! ### Tables and dictionaries -/

/-- Each table has the rows of the entries of a dictionary, and the rows of nodes can be
read. -/
structure DraftMirrors (s : InMemoryDraftTaskStore) (t : SqliteDraftTaskStore) : Prop where
  keyed : s.WellKeyed
  trees : t.trees = s.trees.map .ofTree
  nodes : t.nodes = s.nodes.map .ofNode
  readable : ∀ node ∈ s.nodes.values, ReadsBack node

theorem InMemoryDraftTaskStore.WellKeyed.nodup_ids {s : InMemoryDraftTaskStore} (hs : s.WellKeyed)
    {sessionId : String} {nodes : List DraftTaskNode} (hsub : nodes.Sublist s.nodes.values)
    (hsession : ∀ node ∈ nodes, node.1.sessionId = sessionId) :
    (nodes.map fun node => node.1.draftTaskId).Nodup := by
  have hkeys := hs.nodup_keys.sublist (hsub.map _)
  refine List.Nodup.map_on (fun a ha b hb hab => ?_) (List.Nodup.of_map _ hkeys)
  refine List.inj_on_of_nodup_map hkeys ha hb ?_
  rw [hsession a ha, hsession b hb, hab]

namespace DraftMirrors

variable {s : InMemoryDraftTaskStore} {t : SqliteDraftTaskStore} {sessionId draftTreeId : String}

theorem values (h : DraftMirrors s t) : t.nodes.values = s.nodes.values.map .ofNode := by
  rw [h.nodes, Dict.values_map]

theorem childRows (h : DraftMirrors s t) (parent : Option String) :
    t.childRows sessionId draftTreeId parent =
      (s.childrenOf sessionId draftTreeId parent).map .ofNode := by
  rw [SqliteDraftTaskStore.childRows, h.values, List.filter_map]
  rfl

theorem rowsOf (h : DraftMirrors s t) :
    t.rowsOf sessionId draftTreeId = (s.nodesOf sessionId draftTreeId).map .ofNode := by
  rw [SqliteDraftTaskStore.rowsOf, h.values, List.filter_map]
  rfl

theorem children (h : DraftMirrors s t) (parent : Option String) :
    t.children sessionId draftTreeId parent = .ok (sortOn
      (fun node => (DraftNodeRow.ofNode node).childOrder)
      (s.childrenOf sessionId draftTreeId parent)) := by
  rw [SqliteDraftTaskStore.children, h.childRows, mapM_sortOn_ofNode, if_pos]
  exact fun node hn => h.readable node (List.mem_of_mem_filter hn)

theorem getNode (h : DraftMirrors s t) (draftTaskId : String) :
    t.getNode sessionId draftTaskId = .ok (s.getNode sessionId draftTaskId) := by
  rw [SqliteDraftTaskStore.getNode, InMemoryDraftTaskStore.getNode, h.nodes, Dict.get?_map]
  cases hget : s.nodes.get? (sessionId, draftTaskId) with
  | none => rfl
  | some node =>
    have hsession : node.1.sessionId = sessionId :=
      (Prod.mk.inj (h.keyed.nodes _ node hget)).1
    have hread := h.readable node (Dict.mem_values.mpr ⟨_, hget⟩)
    rw [Option.map_some, Option.filter_some, if_pos (decide_eq_true hsession)]
    show (nodeFromRow (.ofNode node)).map some = _
    rw [nodeFromRow_ofNode, if_pos hread]
    rfl

theorem requireTree (h : DraftMirrors s t) :
    t.requireTree sessionId draftTreeId = (s.getTree sessionId draftTreeId).map .ofTree := by
  rw [SqliteDraftTaskStore.requireTree, InMemoryDraftTaskStore.getTree, h.trees, Dict.get?_map]
  cases s.trees.get? (sessionId, draftTreeId) <;> rfl

theorem checkParent (h : DraftMirrors s t) (missing : String → DraftStoreError)
    (parent : Option String) : t.checkParent sessionId draftTreeId missing parent =
      s.checkParent sessionId draftTreeId missing parent := by
  cases parent with
  | none => rfl
  | some id =>
    rw [SqliteDraftTaskStore.checkParent, InMemoryDraftTaskStore.checkParent, h.getNode]
    cases s.getNode sessionId id <;> rfl

/-! ### Building a tree again -/

def rebuilt (tree : DraftTaskTree) (roots : List DraftTaskNode) (version : ℕ) (now : DateTime) :
    DraftTreeFields :=
  { tree.1 with rootNodes := roots, version := version, updatedAt := now }

theorem readTree (h : DraftMirrors s t) (tree : DraftTaskTree) (version : ℕ) (now : DateTime) :
    t.readTree { DraftTreeRow.ofTree tree with version := version, updatedAt := now.isoformat } =
      match sortNodes (s.childrenOf tree.1.sessionId tree.1.draftTreeId none) with
      | .ok roots => (copyTree (rebuilt tree roots version now)).mapError fun _ => .invalidRow
      | .error _ => .error .invalidRow := by
  have hchildren : t.children tree.1.sessionId tree.1.draftTreeId none = _ := h.children none
  have hnodup : ((s.childrenOf tree.1.sessionId tree.1.draftTreeId none).map
      fun node => node.1.draftTaskId).Nodup :=
    h.keyed.nodup_ids List.filter_sublist
      fun node hn => (InMemoryDraftTaskStore.mem_childrenOf.mp hn).2.1
  have hsort := sortNodes_perm (sortOn_perm (fun node => (DraftNodeRow.ofNode node).childOrder)
    (s.childrenOf tree.1.sessionId tree.1.draftTreeId none)).symm hnodup
  rw [SqliteDraftTaskStore.readTree]
  show (t.children tree.1.sessionId tree.1.draftTreeId none >>= _) = _
  rw [hchildren, hsort]
  show treeFromRow _ _ = _
  rw [treeFromRow]
  simp only [DraftTreeRow.ofTree, DateTime.fromisoformat_isoformat]
  cases sortNodes _ <;> rfl

def bumpedRow (tree : DraftTaskTree) (now : DateTime) : DraftTreeRow :=
  { DraftTreeRow.ofTree tree with version := tree.1.version + 1, updatedAt := now.isoformat }

theorem bumpTree_eq (h : DraftMirrors s t) {tree : DraftTaskTree}
    (htree : s.trees.get? (sessionId, draftTreeId) = some tree) (now : DateTime) :
    t.bumpTree sessionId draftTreeId now = (do
      SqliteDraftTaskStore.checkInteger (tree.1.version + 1)
      let updated ← t.readTree (bumpedRow tree now)
      return (updated, t.putTree (bumpedRow tree now))) := by
  have hrequire : t.requireTree sessionId draftTreeId = _ := h.requireTree
  rw [InMemoryDraftTaskStore.getTree, htree] at hrequire
  rw [SqliteDraftTaskStore.bumpTree, hrequire]
  rfl

/-- **A tree that is built again** is the same tree in both stores. -/
theorem bumpTree (h : DraftMirrors s t) (sessionId draftTreeId : String) (now : DateTime) :
    ((∃ e, s.bumpTree sessionId draftTreeId now = (.error e, s)) ∧
        ∃ e, t.bumpTree sessionId draftTreeId now = .error e) ∨
      ∃ tree updated, s.trees.get? (sessionId, draftTreeId) = some tree ∧
        updated.1 = rebuilt tree (sortOn nodeKey (s.childrenOf sessionId draftTreeId none))
          (tree.1.version + 1) now ∧
        s.bumpTree sessionId draftTreeId now =
          (.ok updated, { s with trees := s.trees.set (sessionId, draftTreeId) updated }) ∧
        (tree.1.version + 1 < 2 ^ 63 → ∃ t', t.bumpTree sessionId draftTreeId now =
          .ok (updated, t') ∧ t'.trees = t.trees.set (sessionId, draftTreeId) (.ofTree updated) ∧
          t'.nodes = t.nodes ∧ t'.mappings = t.mappings) := by
  cases htree : s.trees.get? (sessionId, draftTreeId) with
  | none =>
    have hrequire : t.requireTree sessionId draftTreeId = _ := h.requireTree
    rw [InMemoryDraftTaskStore.getTree, htree] at hrequire
    rw [InMemoryDraftTaskStore.bumpTree, InMemoryDraftTaskStore.getTree, htree,
      SqliteDraftTaskStore.bumpTree, hrequire]
    exact .inl ⟨⟨_, rfl⟩, _, rfl⟩
  | some tree =>
    obtain ⟨hsession, hid⟩ := Prod.mk.inj (h.keyed.trees _ tree htree)
    have hread : t.readTree (bumpedRow tree now) = _ := h.readTree tree (tree.1.version + 1) now
    rw [hsession, hid] at hread
    have hbump := h.bumpTree_eq htree now
    -- What cannot be read cannot be written either.
    have hraise : ∀ {e : DraftStoreError}, t.readTree (bumpedRow tree now) = .error e →
        ∃ e', t.bumpTree sessionId draftTreeId now = .error e' := by
      intro e he
      rw [hbump, he]
      cases SqliteDraftTaskStore.checkInteger (tree.1.version + 1) <;> exact ⟨_, rfl⟩
    rw [InMemoryDraftTaskStore.bumpTree, InMemoryDraftTaskStore.getTree, htree]
    dsimp only
    cases hsort : sortNodes (s.childrenOf sessionId draftTreeId none) with
    | error e =>
      rw [hsort] at hread
      exact .inl ⟨⟨e, rfl⟩, hraise hread⟩
    | ok roots =>
      rw [hsort] at hread
      dsimp only at hread ⊢
      cases hcopy : copyTree (rebuilt tree roots (tree.1.version + 1) now) with
      | error e =>
        rw [hcopy] at hread
        rw [rebuilt] at hcopy
        rw [hcopy]
        exact .inl ⟨⟨e, rfl⟩, hraise hread⟩
      | ok updated =>
        rw [hcopy] at hread
        have hfields := copyTree_eq_ok.mp hcopy
        rw [rebuilt] at hcopy
        rw [hcopy]
        refine .inr ⟨tree, updated, rfl, sortNodes_eq_ok hsort ▸ hfields, rfl, fun hfits => ?_⟩
        have hcheck : SqliteDraftTaskStore.checkInteger (tree.1.version + 1) = .ok () :=
          if_neg (Nat.not_le.mpr hfits)
        have hrow : bumpedRow tree now = DraftTreeRow.ofTree updated := by
          rw [DraftTreeRow.ofTree, hfields]
          rfl
        have hkey : (DraftTreeRow.ofTree updated).key = (sessionId, draftTreeId) := by
          rw [DraftTreeRow.ofTree, hfields]
          exact Prod.ext hsession hid
        refine ⟨t.putTree (bumpedRow tree now), by rw [hbump, hcheck, hread]; rfl, ?_, rfl, rfl⟩
        rw [SqliteDraftTaskStore.putTree_trees, hrow, hkey]

/-! ### Writing nodes -/

theorem congr {s' : InMemoryDraftTaskStore} {t' : SqliteDraftTaskStore} (h : DraftMirrors s t)
    (htrees : s'.trees = s.trees) (hnodes : s'.nodes = s.nodes) (htrees' : t'.trees = t.trees)
    (hnodes' : t'.nodes = t.nodes) : DraftMirrors s' t' where
  keyed := ⟨htrees ▸ h.keyed.trees, hnodes ▸ h.keyed.nodes⟩
  trees := by rw [htrees', htrees, h.trees]
  nodes := by rw [hnodes', hnodes, h.nodes]
  readable := hnodes ▸ h.readable

/-- A node whose numbers SQLite can bind. -/
def Fits (node : DraftTaskNode) : Prop := node.1.orderIndex < 2 ^ 63 ∧ node.1.version < 2 ^ 63

instance (node : DraftTaskNode) : Decidable (Fits node) := inferInstanceAs (Decidable (_ ∧ _))

theorem checkInteger_ok {n : ℕ} (h : n < 2 ^ 63) : SqliteDraftTaskStore.checkInteger n = .ok () :=
  if_neg (Nat.not_le.mpr h)

theorem putNode (h : DraftMirrors s t) {k : String × String} {node : DraftTaskNode}
    (hk : (node.1.sessionId, node.1.draftTaskId) = k) (hread : ReadsBack node) :
    DraftMirrors { s with nodes := s.nodes.set k node } (t.putNode node) where
  keyed := h.keyed.setNode hk
  trees := h.trees
  nodes := by
    rw [SqliteDraftTaskStore.putNode_nodes, h.nodes, hk]
    exact (Dict.map_set _ _ _ _).symm
  readable n hn := by
    rcases Dict.mem_values_set hn with rfl | hn
    · exact hread
    · exact h.readable n hn

theorem updateRow (h : DraftMirrors s t) {k : String × String} {node node' : DraftTaskNode}
    (hstored : s.nodes.get? k = some node')
    (hk : (node.1.sessionId, node.1.draftTaskId) = k) (hfits : Fits node) :
    t.updateRow node = .ok (t.putNode node) := by
  have hrow : (t.nodes.get? (node.1.sessionId, node.1.draftTaskId)).isSome = true := by
    rw [h.nodes, Dict.get?_map, hk, hstored]
    rfl
  rw [SqliteDraftTaskStore.updateRow, checkInteger_ok hfits.1, checkInteger_ok hfits.2, if_pos hrow]
  rfl

theorem insertNode (h : DraftMirrors s t) {k : String × String} {node : DraftTaskNode}
    (hfree : s.nodes.get? k = none) (hk : (node.1.sessionId, node.1.draftTaskId) = k)
    (hfits : Fits node) (taken : DraftStoreError) :
    t.insertNode taken node = .ok (t.putNode node) := by
  have hrow : ¬(t.nodes.get? (node.1.sessionId, node.1.draftTaskId)).isSome = true := by
    rw [h.nodes, Dict.get?_map, hk, hfree]
    exact Bool.false_ne_true
  rw [SqliteDraftTaskStore.insertNode, checkInteger_ok hfits.1, checkInteger_ok hfits.2, raiseIf,
    if_neg hrow]
  rfl

theorem markNodes_of_markRows {status : DraftTaskStatus} {clock : Clock} :
    ∀ {nodes : List DraftTaskNode} {i : ℕ} {s : InMemoryDraftTaskStore}
      {t t' : SqliteDraftTaskStore},
      SqliteDraftTaskStore.markRows status clock i nodes t = .ok t' →
        ∃ s', InMemoryDraftTaskStore.markNodes status clock sessionId i nodes s = (.ok (), s') := by
  intro nodes
  induction nodes with
  | nil => intro i s t t' _; exact ⟨s, rfl⟩
  | cons node nodes ih =>
    intro i s t t' h
    obtain ⟨marked, hmark, h⟩ := bind_eq_ok.mp h
    obtain ⟨t₁, -, h⟩ := bind_eq_ok.mp h
    rw [InMemoryDraftTaskStore.markNodes, hmark]
    exact ih h

/-- **The loops over the marks** leave stores that mirror each other. -/
theorem markNodes {status : DraftTaskStatus} {clock : Clock} :
    ∀ {nodes : List DraftTaskNode} {i : ℕ} {s s' : InMemoryDraftTaskStore}
      {t : SqliteDraftTaskStore}, DraftMirrors s t → s.Listed sessionId nodes →
      (∀ node ∈ nodes, node.1.orderIndex < 2 ^ 63 ∧ node.1.version + 1 < 2 ^ 63) →
      InMemoryDraftTaskStore.markNodes status clock sessionId i nodes s = (.ok (), s') →
        ∃ t', SqliteDraftTaskStore.markRows status clock i nodes t = .ok t' ∧ DraftMirrors s' t' ∧
          t'.mappings = t.mappings := by
  intro nodes
  induction nodes with
  | nil =>
    intro i s s' t h _ _ hmark
    rw [InMemoryDraftTaskStore.markNodes] at hmark
    obtain rfl : s = s' := congrArg Prod.snd hmark
    exact ⟨t, rfl, h, rfl⟩
  | cons node nodes ih =>
    intro i s s' t h hlisted hfits hmark
    rw [InMemoryDraftTaskStore.markNodes] at hmark
    cases hmarked : markedNode status node (clock i) with
    | error e =>
      rw [hmarked] at hmark
      cases hmark
    | ok marked =>
      rw [hmarked] at hmark
      have hstored := hlisted.stored node List.mem_cons_self
      have hfields := copyNode_eq_ok.mp hmarked
      have hkey : (marked.1.sessionId, marked.1.draftTaskId) = (sessionId, node.1.draftTaskId) := by
        rw [hfields]
        exact Prod.ext (Prod.mk.inj (h.keyed.nodes _ node hstored)).1 rfl
      have hread : ReadsBack marked := by
        rw [ReadsBack, hfields]
        exact ⟨(h.readable node (Dict.mem_values.mpr ⟨_, hstored⟩)).1, Moment.wholeMinutes_utc _⟩
      have hmarkedFits : Fits marked := by
        rw [Fits, hfields]
        exact hfits node List.mem_cons_self
      obtain ⟨t', hrows, hmirrors, hmappings⟩ := ih (h.putNode hkey hread) (hlisted.tail marked)
        (fun n hn => hfits n (List.mem_cons_of_mem node hn)) hmark
      refine ⟨t', ?_, hmirrors, hmappings⟩
      rw [SqliteDraftTaskStore.markRows, hmarked, bind_eq_ok]
      exact ⟨marked, rfl, bind_eq_ok.mpr ⟨_, h.updateRow hstored hkey hmarkedFits, hrows⟩⟩

theorem loadRoots (draftTreeId : String) : ∀ {nodes : List DraftTaskNode}
    {s : InMemoryDraftTaskStore} {t : SqliteDraftTaskStore}, DraftMirrors s t →
    (∀ node ∈ nodes, node.1.sessionId = sessionId) →
      s.RootsFree sessionId nodes → (∀ node ∈ nodes, ReadsBack node ∧ Fits node) →
        ∃ s' t', InMemoryDraftTaskStore.loadRoots draftTreeId nodes s = (.ok (), s') ∧
          t.insertRoots nodes = .ok t' ∧ DraftMirrors s' t' ∧ t'.mappings = t.mappings ∧
          s'.trees = s.trees ∧ s'.nodes.values = s.nodes.values ++ nodes ∧
          s'.mappingsByDraft = s.mappingsByDraft ∧ s'.mappingsByTask = s.mappingsByTask := by
  intro nodes
  induction nodes with
  | nil =>
    intro s t h _ _ _
    exact ⟨s, t, rfl, rfl, h, rfl, rfl, (List.append_nil _).symm, rfl, rfl⟩
  | cons node nodes ih =>
    intro s t h hsession hfree hnodes
    obtain ⟨hread, hfits⟩ := hnodes node List.mem_cons_self
    have hnone := hfree.2 node List.mem_cons_self
    have hkey : (node.1.sessionId, node.1.draftTaskId) = (sessionId, node.1.draftTaskId) := by
      rw [hsession node List.mem_cons_self]
    have hnodup := hfree.1
    rw [List.map_cons, List.nodup_cons] at hnodup
    let s₁ : InMemoryDraftTaskStore := { s with
      nodes := s.nodes.set (sessionId, node.1.draftTaskId) node
      nodeTree := s.nodeTree.set (sessionId, node.1.draftTaskId) draftTreeId }
    have hmirrors : DraftMirrors s₁ (t.putNode node) := (h.putNode hkey hread).congr rfl rfl rfl rfl
    have hfree₁ : s₁.RootsFree sessionId nodes := by
      refine ⟨hnodup.2, fun n hn => ?_⟩
      have hne : (sessionId, node.1.draftTaskId) ≠ (sessionId, n.1.draftTaskId) := fun heq =>
        hnodup.1 ((Prod.mk.inj heq).2 ▸ List.mem_map_of_mem hn)
      exact (Dict.get?_set_ne _ _ hne).trans (hfree.2 n (List.mem_cons_of_mem node hn))
    obtain ⟨s', t', hload, hinsert, hmirrors', hmappings, htrees, hvalues, hdraft, htask⟩ :=
      ih hmirrors (fun n hn => hsession n (List.mem_cons_of_mem node hn)) hfree₁
        fun n hn => hnodes n (List.mem_cons_of_mem node hn)
    refine ⟨s', t', ?_, ?_, hmirrors', hmappings, htrees, ?_, hdraft, htask⟩
    · rw [InMemoryDraftTaskStore.loadRoots, hkey, hnone]
      exact hload
    · rw [SqliteDraftTaskStore.insertRoots, bind_eq_ok]
      exact ⟨_, h.insertNode hnone hkey hfits _, hinsert⟩
    · have hset : s₁.nodes.values = s.nodes.values ++ [node] := Dict.values_set_of_none hnone
      rw [hvalues, hset, List.append_assoc]
      rfl

end DraftMirrors

end Taskweavn

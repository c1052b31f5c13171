import Taskweavn.Task.DraftMirror

/-!
# Where the two draft stores agree

`StoresAgree` is what a run of both draft stores keeps, as long as every call can be carried
out by both: the tables mirror the dictionaries, each tree in memory has the roots that
SQLite reads, and the mappings were recorded in the order in which SQLite sorts them.

* `reads_agree`: stores that agree answer every read alike.
* `StoresAgree.bumped`: they agree after a change within a tree, once the tree is built again.
* `MappingsRecorded.record`: mappings that are recorded in both stores are listed alike.
-/

namespace Taskweavn

open Lib Py

/-! ### Mappings in the order of the tables -/

/-- In each of the two listings that have both, `a` comes before `b`, and `b` is another
row. -/
def Precedes (a b : DraftToPublishedMapping) : Prop :=
  a.sessionId = b.sessionId →
    (a.draftTaskId = b.draftTaskId → a.taskId ≠ b.taskId ∧
      (DraftMappingRow.ofMapping a).draftOrder ≤ (DraftMappingRow.ofMapping b).draftOrder) ∧
    (a.taskId = b.taskId →
      (DraftMappingRow.ofMapping a).taskOrder ≤ (DraftMappingRow.ofMapping b).taskOrder)

instance (a b : DraftToPublishedMapping) : Decidable (Precedes a b) :=
  inferInstanceAs (Decidable (_ → _ ∧ _))

/-- The mappings were recorded one after the other, in both stores. -/
structure MappingsRecorded (s : InMemoryDraftTaskStore) (t : SqliteDraftTaskStore)
    (recorded : List DraftToPublishedMapping) : Prop where
  rows : t.mappings.values = recorded.map .ofMapping
  readable : ∀ mapping ∈ recorded, mapping.publishedAt.WholeMinutes
  order : recorded.Pairwise Precedes
  byDraft : ∀ sessionId draftTaskId, s.listForDraft sessionId draftTaskId =
    recorded.filter fun m => m.sessionId = sessionId ∧ m.draftTaskId = draftTaskId
  byTask : ∀ sessionId taskId, s.listForTask sessionId taskId =
    recorded.filter fun m => m.sessionId = sessionId ∧ m.taskId = taskId

theorem mapM_mappingFromRow {mappings : List DraftToPublishedMapping}
    (h : ∀ mapping ∈ mappings, mapping.publishedAt.WholeMinutes) :
    (mappings.map DraftMappingRow.ofMapping).mapM mappingFromRow = .ok mappings := by
  induction mappings with
  | nil => rfl
  | cons mapping mappings ih =>
    rw [List.map_cons, List.mapM_cons, mappingFromRow_ofMapping,
      if_pos (h mapping List.mem_cons_self), ih fun m hm => h m (List.mem_cons_of_mem mapping hm)]
    rfl

theorem read_ordered {κ : Type} [LinearOrder κ] {key : DraftMappingRow → κ}
    {mappings : List DraftToPublishedMapping}
    (hread : ∀ mapping ∈ mappings, mapping.publishedAt.WholeMinutes)
    (horder : mappings.Pairwise fun a b => key (.ofMapping a) ≤ key (.ofMapping b)) :
    (sortOn key (mappings.map DraftMappingRow.ofMapping)).mapM mappingFromRow = .ok mappings := by
  have hsorted : sortOn key (mappings.map DraftMappingRow.ofMapping) =
      mappings.map DraftMappingRow.ofMapping :=
    List.Pairwise.insertionSort_eq (List.pairwise_map.mpr horder)
  rw [hsorted, mapM_mappingFromRow hread]

namespace MappingsRecorded

variable {s : InMemoryDraftTaskStore} {t : SqliteDraftTaskStore}
  {recorded : List DraftToPublishedMapping} (h : MappingsRecorded s t recorded)

include h

theorem listForDraft (sessionId draftTaskId : String) :
    t.listForDraft sessionId draftTaskId = .ok (s.listForDraft sessionId draftTaskId) := by
  rw [SqliteDraftTaskStore.listForDraft, h.rows, List.filter_map, h.byDraft]
  refine read_ordered (fun m hm => h.readable m (List.mem_of_mem_filter hm)) ?_
  refine (h.order.filter _).imp_of_mem fun {a b} ha hb hab => ?_
  obtain ⟨hsa, hda⟩ := of_decide_eq_true (List.mem_filter.mp ha).2
  obtain ⟨hsb, hdb⟩ := of_decide_eq_true (List.mem_filter.mp hb).2
  exact ((hab (hsa.trans hsb.symm)).1 (hda.trans hdb.symm)).2

theorem listForTask (sessionId taskId : String) :
    t.listForTask sessionId taskId = .ok (s.listForTask sessionId taskId) := by
  rw [SqliteDraftTaskStore.listForTask, h.rows, List.filter_map, h.byTask]
  refine read_ordered (fun m hm => h.readable m (List.mem_of_mem_filter hm)) ?_
  refine (h.order.filter _).imp_of_mem fun {a b} ha hb hab => ?_
  obtain ⟨hsa, hta⟩ := of_decide_eq_true (List.mem_filter.mp ha).2
  obtain ⟨hsb, htb⟩ := of_decide_eq_true (List.mem_filter.mp hb).2
  exact (hab (hsa.trans hsb.symm)).2 (hta.trans htb.symm)

omit h in
theorem nil : MappingsRecorded .empty .empty [] where
  rows := rfl
  readable := by simp
  order := .nil
  byDraft _ _ := rfl
  byTask _ _ := rfl

theorem congr {s' : InMemoryDraftTaskStore} {t' : SqliteDraftTaskStore}
    (hdraft : s'.mappingsByDraft = s.mappingsByDraft) (htask : s'.mappingsByTask = s.mappingsByTask)
    (hrows : t'.mappings = t.mappings) : MappingsRecorded s' t' recorded where
  rows := by rw [hrows]; exact h.rows
  readable := h.readable
  order := h.order
  byDraft sessionId draftTaskId := by
    rw [← h.byDraft, InMemoryDraftTaskStore.listForDraft, hdraft]
    rfl
  byTask sessionId taskId := by
    rw [← h.byTask, InMemoryDraftTaskStore.listForTask, htask]
    rfl

theorem free {mapping : DraftToPublishedMapping} (hlast : ∀ m ∈ recorded, Precedes m mapping) :
    t.mappings.get? (DraftMappingRow.ofMapping mapping).key = none := by
  cases hget : t.mappings.get? (DraftMappingRow.ofMapping mapping).key with
  | none => rfl
  | some row =>
    obtain ⟨hkey, -⟩ := t.mappings_ok _ row hget
    have hmem : row ∈ t.mappings.values := Dict.mem_values.mpr ⟨_, hget⟩
    rw [h.rows, List.mem_map] at hmem
    obtain ⟨m, hm, rfl⟩ := hmem
    obtain ⟨hsession, hids⟩ := Prod.mk.inj hkey
    obtain ⟨hdraft, htask⟩ := Prod.mk.inj hids
    exact absurd htask ((hlast m hm hsession).1 hdraft).1

theorem recordOne {sessionId : String} {mapping : DraftToPublishedMapping}
    (hsession : mapping.sessionId = sessionId) (hread : mapping.publishedAt.WholeMinutes)
    (hlast : ∀ m ∈ recorded, Precedes m mapping) :
    MappingsRecorded (InMemoryDraftTaskStore.recordMappings sessionId [mapping] s)
    (t.insertMapping mapping) (recorded ++ [mapping]) := by
  have hfree := h.free hlast
  have hinsert : t.insertMapping mapping = t.putMapping mapping :=
    if_neg (by rw [hfree]; exact Bool.false_ne_true)
  refine ⟨?_, ?_, ?_, fun sid draftTaskId => ?_, fun sid taskId => ?_⟩
  · rw [hinsert]
    show (t.mappings.set _ _).values = _
    rw [Dict.values_set_of_none hfree, h.rows, List.map_append]
    rfl
  · intro m hm
    rcases List.mem_append.mp hm with hm | hm
    · exact h.readable m hm
    · rw [List.mem_singleton.mp hm]
      exact hread
  · refine List.pairwise_append.mpr ⟨h.order, List.pairwise_singleton _ _, fun a ha b hb => ?_⟩
    rw [List.mem_singleton.mp hb]
    exact hlast a ha
  · rw [List.filter_append, ← h.byDraft]
    show ((InMemoryDraftTaskStore.appendMapping s.mappingsByDraft
      (sessionId, mapping.draftTaskId) mapping).get? (sid, draftTaskId)).getD [] = _
    rw [InMemoryDraftTaskStore.appendMapping, Dict.get?_set]
    split
    · next heq =>
      obtain ⟨hs, hd⟩ := Prod.mk.inj heq
      rw [List.filter_cons_of_pos (by simp [hsession, hs, hd]), ← hs, ← hd]
      rfl
    · next hne =>
      rw [List.filter_cons_of_neg, List.filter_nil, List.append_nil]
      · rfl
      · intro hm
        obtain ⟨hs, hd⟩ := of_decide_eq_true hm
        exact hne (Prod.ext (hsession ▸ hs) hd)
  · rw [List.filter_append, ← h.byTask]
    show ((InMemoryDraftTaskStore.appendMapping s.mappingsByTask
      (sessionId, mapping.taskId) mapping).get? (sid, taskId)).getD [] = _
    rw [InMemoryDraftTaskStore.appendMapping, Dict.get?_set]
    split
    · next heq =>
      obtain ⟨hs, ht⟩ := Prod.mk.inj heq
      rw [List.filter_cons_of_pos (by simp [hsession, hs, ht]), ← hs, ← ht]
      rfl
    · next hne =>
      rw [List.filter_cons_of_neg, List.filter_nil, List.append_nil]
      · rfl
      · intro hm
        obtain ⟨hs, ht⟩ := of_decide_eq_true hm
        exact hne (Prod.ext (hsession ▸ hs) ht)

omit h in
/-- **Mappings are recorded** in both stores, one after the other. -/
theorem record {sessionId : String} {mappings : List DraftToPublishedMapping} :
    ∀ {s : InMemoryDraftTaskStore} {t : SqliteDraftTaskStore} {recorded},
      MappingsRecorded s t recorded →
      (∀ m ∈ mappings, m.sessionId = sessionId ∧ m.publishedAt.WholeMinutes) →
      (recorded ++ mappings).Pairwise Precedes →
        MappingsRecorded (InMemoryDraftTaskStore.recordMappings sessionId mappings s)
          (mappings.foldl SqliteDraftTaskStore.insertMapping t) (recorded ++ mappings) := by
  induction mappings with
  | nil =>
    intro s t recorded h _ _
    rw [List.append_nil]
    exact h
  | cons mapping mappings ih =>
    intro s t recorded h hall horder
    obtain ⟨hsession, hread⟩ := hall mapping List.mem_cons_self
    have hlast : ∀ m ∈ recorded, Precedes m mapping := fun m hm =>
      (List.pairwise_append.mp horder).2.2 m hm mapping List.mem_cons_self
    rw [List.append_cons] at horder ⊢
    exact ih (h.recordOne hsession hread hlast)
      (fun m hm => hall m (List.mem_cons_of_mem mapping hm))
      horder

end MappingsRecorded

/-! ### Stores that agree -/

/-- A node of a tree that is there, with numbers and times that the tables take. -/
structure Placed (s : InMemoryDraftTaskStore) (node : DraftTaskNode) : Prop where
  tree : (s.trees.get? (node.1.sessionId, node.1.draftTreeId)).isSome = true
  utc : node.1.parentDraftTaskId ≠ none → ∃ d, node.1.createdAt = Moment.utc d
  fits : node.1.orderIndex < 2 ^ 63

/-- **The relation that runs keep.** -/
structure StoresAgree (s : InMemoryDraftTaskStore) (t : SqliteDraftTaskStore) : Prop extends
    DraftMirrors s t where
  roots : ∀ k tree, s.trees.get? k = some tree →
    tree.1.rootNodes = sortOn nodeKey (s.childrenOf k.1 k.2 none)
  placed : ∀ node ∈ s.nodes.values, Placed s node
  mappings : ∃ recorded, MappingsRecorded s t recorded

namespace StoresAgree

variable {s : InMemoryDraftTaskStore} {t : SqliteDraftTaskStore} {sessionId draftTreeId : String}

theorem tidy (h : StoresAgree s t) : ∀ a ∈ s.nodesOf sessionId draftTreeId,
    ∀ b ∈ s.nodesOf sessionId draftTreeId, Tidy a b := by
  intro a ha b hb hparent horder
  obtain ⟨ha, hsa, hta⟩ := (by simpa [InMemoryDraftTaskStore.nodesOf] using ha :
    a ∈ s.nodes.values ∧ a.1.sessionId = sessionId ∧ a.1.draftTreeId = draftTreeId)
  obtain ⟨hb, hsb, htb⟩ := (by simpa [InMemoryDraftTaskStore.nodesOf] using hb :
    b ∈ s.nodes.values ∧ b.1.sessionId = sessionId ∧ b.1.draftTreeId = draftTreeId)
  cases hpa : a.1.parentDraftTaskId with
  | some p =>
    refine .inr ⟨(h.placed a ha).utc (by rw [hpa]; exact Option.some_ne_none p),
      (h.placed b hb).utc fun hpb => ?_⟩
    rw [hpa, hpb] at hparent
    exact a.2.parentDraftTaskId (by rw [hpa]; exact congrArg some hparent)
  | none =>
    cases hpb : b.1.parentDraftTaskId with
    | some p =>
      rw [hpa, hpb] at hparent
      exact absurd (by rw [hpb]; exact congrArg some hparent.symm) b.2.parentDraftTaskId
    | none =>
      -- Two roots in one place are the same node, since the tree is valid.
      obtain ⟨tree, htree⟩ := Option.isSome_iff_exists.mp (h.placed a ha).tree
      have horders := tree.2.orders
      rw [h.roots _ tree htree] at horders
      have hmem : ∀ c ∈ s.nodes.values, c.1.sessionId = sessionId → c.1.draftTreeId = draftTreeId →
          c.1.parentDraftTaskId = none → c ∈ sortOn nodeKey
            (s.childrenOf a.1.sessionId a.1.draftTreeId none) := by
        intro c hc hs ht hp
        rw [mem_sortOn, InMemoryDraftTaskStore.mem_childrenOf, hsa, hta]
        exact ⟨hc, hs, ht, hp⟩
      exact .inl (List.inj_on_of_nodup_map horders (hmem a ha hsa hta hpa) (hmem b hb hsb htb hpb)
        horder)

theorem mem_nodesOf_of_childrenOf {parent : Option String} {node : DraftTaskNode}
    (h : node ∈ s.childrenOf sessionId draftTreeId parent) :
    node ∈ s.nodesOf sessionId draftTreeId := by
  obtain ⟨hmem, hsession, htree, -⟩ := InMemoryDraftTaskStore.mem_childrenOf.mp h
  exact List.mem_filter.mpr ⟨hmem, decide_eq_true ⟨hsession, htree⟩⟩

theorem readTree_ofTree (h : StoresAgree s t) {tree : DraftTaskTree}
    (htree : s.trees.get? (sessionId, draftTreeId) = some tree) :
    t.readTree (.ofTree tree) = .ok tree := by
  have hread : t.readTree (.ofTree tree) = _ := h.readTree tree tree.1.version tree.1.updatedAt
  obtain ⟨hsession, hid⟩ := Prod.mk.inj (h.keyed.trees _ tree htree)
  have hroots := h.roots _ tree htree
  rw [hread, hsession, hid, sortNodes_tidy fun a ha b hb =>
    h.tidy a (mem_nodesOf_of_childrenOf ha) b (mem_nodesOf_of_childrenOf hb), ← hroots]
  have hcopy :
      copyTree (DraftMirrors.rebuilt tree tree.1.rootNodes tree.1.version tree.1.updatedAt) =
        .ok tree := copyTree_eq_ok.mpr rfl
  dsimp only
  rw [hcopy]
  rfl

theorem getTree (h : StoresAgree s t) :
    t.getTree sessionId draftTreeId = s.getTree sessionId draftTreeId := by
  have hrequire : t.requireTree sessionId draftTreeId = _ := h.requireTree
  rw [SqliteDraftTaskStore.getTree, hrequire, InMemoryDraftTaskStore.getTree]
  cases htree : s.trees.get? (sessionId, draftTreeId) with
  | none => rfl
  | some tree => exact h.readTree_ofTree htree

theorem listTrees (h : StoresAgree s t) : t.listTrees sessionId = .ok (s.listTrees sessionId) := by
  have hvalues : t.trees.values = s.trees.values.map .ofTree := by rw [h.trees, Dict.values_map]
  -- Trees are in the order of the texts of their times.
  have hsort : sortOn (fun row : DraftTreeRow =>
        (toLex (row.createdAt, row.draftTreeId) : String ×ₗ String))
      (t.trees.values.filter fun row => row.sessionId = sessionId) =
        (s.listTrees sessionId).map .ofTree := by
    rw [hvalues, List.filter_map, InMemoryDraftTaskStore.listTrees]
    refine (map_sortOn fun a _ b _ => ?_).symm
    show _ ↔ toLex (a.1.createdAt.isoformat, a.1.draftTreeId) ≤
      toLex (b.1.createdAt.isoformat, b.1.draftTreeId)
    rw [Prod.Lex.toLex_le_toLex, Prod.Lex.toLex_le_toLex]
    simp only [DateTime.isoformat_lt_iff, DateTime.isoformat_inj]
  have hall : ∀ tree ∈ s.listTrees sessionId, t.readTree (.ofTree tree) = .ok tree := by
    intro tree htree
    obtain ⟨k, hk⟩ := Dict.mem_values.mp (List.mem_of_mem_filter (mem_sortOn.mp htree))
    exact h.readTree_ofTree hk
  rw [SqliteDraftTaskStore.listTrees, hsort]
  generalize s.listTrees sessionId = trees at hall ⊢
  induction trees with
  | nil => rfl
  | cons tree trees ih =>
    rw [List.map_cons, List.mapM_cons, hall tree List.mem_cons_self,
      ih fun tree' htree' => hall tree' (List.mem_cons_of_mem tree htree')]
    rfl

theorem listNodes (h : StoresAgree s t) :
    t.listNodes sessionId draftTreeId = s.listNodes sessionId draftTreeId := by
  have hrequire : t.requireTree sessionId draftTreeId = _ := h.requireTree
  rw [SqliteDraftTaskStore.listNodes, hrequire, InMemoryDraftTaskStore.listNodes]
  cases s.getTree sessionId draftTreeId with
  | error e => rfl
  | ok tree =>
    show List.mapM _ _ = sortNodes _
    have hread : ∀ node ∈ s.nodesOf sessionId draftTreeId, ReadsBack node :=
      fun node hn => h.readable node (List.mem_of_mem_filter hn)
    rw [h.rowsOf, mapM_sortOn_ofNode, if_pos hread, sortOn_treeOrder h.tidy, sortNodes_tidy h.tidy]

theorem listChildren (h : StoresAgree s t) (parent : Option String) :
    t.listChildren sessionId draftTreeId parent = s.listChildren sessionId draftTreeId parent := by
  have hrequire : t.requireTree sessionId draftTreeId = _ := h.requireTree
  rw [SqliteDraftTaskStore.listChildren, hrequire, h.checkParent, h.children,
    InMemoryDraftTaskStore.listChildren]
  have htidy : ∀ a ∈ s.childrenOf sessionId draftTreeId parent,
      ∀ b ∈ s.childrenOf sessionId draftTreeId parent, Tidy a b := fun a ha b hb =>
    h.tidy a (mem_nodesOf_of_childrenOf ha) b (mem_nodesOf_of_childrenOf hb)
  rw [sortOn_childOrder (fun node hn => (InMemoryDraftTaskStore.mem_childrenOf.mp hn).2.2.2) htidy,
    sortNodes_tidy htidy]
  cases s.getTree sessionId draftTreeId <;> rfl

end StoresAgree

def DraftCall.Reads : DraftCall → Prop
  | .createTree .. | .addNode .. | .updateNode .. | .markAccepted .. | .markPublished .. => False
  | _ => True

/-- **Stores that agree answer every read alike.** -/
theorem reads_agree {s : InMemoryDraftTaskStore} {t : SqliteDraftTaskStore} (h : StoresAgree s t)
    {call : DraftCall} (hcall : call.Reads) : (t.step call).1 = (s.step call).1 := by
  obtain ⟨recorded, hrec⟩ := h.mappings
  cases call with
  | createTree => exact hcall.elim
  | addNode => exact hcall.elim
  | updateNode => exact hcall.elim
  | markAccepted => exact hcall.elim
  | markPublished => exact hcall.elim
  | getTree sessionId draftTreeId => exact congrArg (Except.map _) h.getTree
  | listTrees sessionId => exact congrArg (Except.map _) h.listTrees
  | listNodes sessionId draftTreeId => exact congrArg (Except.map _) h.listNodes
  | listChildren sessionId draftTreeId parent =>
    exact congrArg (Except.map _) (h.listChildren parent)
  | getNode sessionId draftTaskId => exact congrArg (Except.map _) (h.getNode draftTaskId)
  | listForDraft sessionId draftTaskId =>
    exact congrArg (Except.map _) (hrec.listForDraft sessionId draftTaskId)
  | listForTask sessionId taskId =>
    exact congrArg (Except.map _) (hrec.listForTask sessionId taskId)

/-! ### Changes within a tree -/

namespace InMemoryDraftTaskStore

/-- The version of a tree can be counted up. -/
def TreeFits (s : InMemoryDraftTaskStore) (sessionId draftTreeId : String) : Prop :=
  ∀ tree, s.trees.get? (sessionId, draftTreeId) = some tree → tree.1.version + 1 < 2 ^ 63

/-- Only nodes of one tree have changed, in their places, or are new. -/
structure Within (k : String × String) (s s' : InMemoryDraftTaskStore) : Prop where
  trees : s'.trees = s.trees
  others : ∀ k', k' ≠ k → s'.childrenOf k'.1 k'.2 none = s.childrenOf k'.1 k'.2 none
  placed : (∀ node ∈ s.nodes.values, Placed s node) → ∀ node ∈ s'.nodes.values, Placed s node

variable {s s' s'' : InMemoryDraftTaskStore} {k : String × String}

theorem Within.refl (k : String × String) (s : InMemoryDraftTaskStore) : Within k s s :=
  ⟨rfl, fun _ _ => rfl, id⟩

theorem Placed.congr {node : DraftTaskNode} (h : Placed s node) (htrees : s'.trees = s.trees) :
    Placed s' node :=
  ⟨htrees ▸ h.tree, h.utc, h.fits⟩

theorem Within.trans (h : Within k s s') (h' : Within k s' s'') : Within k s s'' where
  trees := h'.trees.trans h.trees
  others k' hk := (h'.others k' hk).trans (h.others k' hk)
  placed hs node hn :=
    Placed.congr (h'.placed (fun n hn => Placed.congr (h.placed hs n hn) h.trees) node hn)
      h.trees.symm

theorem Within.congr (h : Within k s s') (htrees : s''.trees = s'.trees)
    (hnodes : s''.nodes = s'.nodes) : Within k s s'' where
  trees := htrees.trans h.trees
  others k' hk := by
    rw [← h.others k' hk, childrenOf, childrenOf, hnodes]
  placed hs node hn := h.placed hs node (hnodes ▸ hn)

theorem Within.set {k' : String × String} {node node' : DraftTaskNode}
    (hstored : s.nodes.get? k' = some node) (hplace : place node' = place node)
    (hcreated : node'.1.createdAt = node.1.createdAt)
    (hk : (node.1.sessionId, node.1.draftTreeId) = k) :
    Within k s { s with nodes := s.nodes.set k' node' } := by
  obtain ⟨hsession, htree, hparent, horder⟩ : node'.1.sessionId = node.1.sessionId ∧
      node'.1.draftTreeId = node.1.draftTreeId ∧
      node'.1.parentDraftTaskId = node.1.parentDraftTaskId ∧
      node'.1.orderIndex = node.1.orderIndex := by
    simpa [place] using hplace
  refine ⟨rfl, fun k'' hne => ?_, fun hs n hn => ?_⟩
  · have hout : ∀ n : DraftTaskNode, (n.1.sessionId, n.1.draftTreeId) = k →
        decide (n.1.sessionId = k''.1 ∧ n.1.draftTreeId = k''.2 ∧ n.1.parentDraftTaskId = none) =
          false := by
      intro n hn
      refine decide_eq_false fun h => hne ?_
      rw [← hn, h.1, h.2.1]
    refine Dict.filter_values_set hstored (hout node' ?_) (hout node hk)
    rw [hsession, htree, hk]
  · rcases Dict.mem_values_set hn with rfl | hn
    · have hold := hs node (Dict.mem_values.mpr ⟨_, hstored⟩)
      refine ⟨?_, ?_, ?_⟩
      · rw [hsession, htree]
        exact hold.tree
      · rw [hparent, hcreated]
        exact hold.utc
      · rw [horder]
        exact hold.fits
    · exact hs n hn

theorem Within.withNode {sessionId draftTreeId : String} {node : DraftTaskNode}
    (hnew : s.nodes.get? (sessionId, node.1.draftTaskId) = none)
    (hsession : node.1.sessionId = sessionId) (htree : node.1.draftTreeId = draftTreeId)
    (hplaced : Placed s node) :
    Within (sessionId, draftTreeId) s (s.withNode sessionId draftTreeId node) := by
  refine ⟨rfl, fun k' hne => ?_, fun hs n hn => ?_⟩
  · have hout : ¬(node.1.sessionId = k'.1 ∧ node.1.draftTreeId = k'.2 ∧
        node.1.parentDraftTaskId = none) := by
      intro h
      refine hne ?_
      rw [← hsession, ← htree, h.1, h.2.1]
    rw [childrenOf, childrenOf, InMemoryDraftTaskStore.withNode, Dict.values_set_of_none hnew,
      List.filter_append, List.filter_cons_of_neg (by simpa using hout), List.filter_nil,
      List.append_nil]
  · rcases Dict.mem_values_set hn with rfl | hn
    · exact hplaced
    · exact hs n hn

theorem Within.markNodes {status : DraftTaskStatus} {clock : Clock} {sessionId : String} :
    ∀ {nodes : List DraftTaskNode} {i : ℕ} {s s' : InMemoryDraftTaskStore},
      s.Listed sessionId nodes →
      (∀ node ∈ nodes, (node.1.sessionId, node.1.draftTreeId) = k) →
      InMemoryDraftTaskStore.markNodes status clock sessionId i nodes s = (.ok (), s') →
        Within k s s' := by
  intro nodes
  induction nodes with
  | nil =>
    intro i s s' _ _ h
    rw [InMemoryDraftTaskStore.markNodes] at h
    obtain rfl : s = s' := congrArg Prod.snd h
    exact Within.refl k s
  | cons node nodes ih =>
    intro i s s' hlisted hk h
    rw [InMemoryDraftTaskStore.markNodes] at h
    cases hmarked : markedNode status node (clock i) with
    | error e =>
      rw [hmarked] at h
      cases h
    | ok marked =>
      rw [hmarked] at h
      have hfields := copyNode_eq_ok.mp hmarked
      have hset : Within k s { s with
          nodes := s.nodes.set (sessionId, node.1.draftTaskId) marked } :=
        Within.set (hlisted.stored node List.mem_cons_self) (by simp [place, hfields])
          (by rw [hfields]) (hk node List.mem_cons_self)
      exact hset.trans (ih (hlisted.tail marked)
        (fun n hn => hk n (List.mem_cons_of_mem node hn)) h)

end InMemoryDraftTaskStore

namespace StoresAgree

open InMemoryDraftTaskStore

variable {s s' : InMemoryDraftTaskStore} {t t' : SqliteDraftTaskStore}
  {sessionId draftTreeId : String}

/-- **After a change within a tree**, the tree that is built again is the same in both
stores, and they agree. -/
theorem bumped (h : StoresAgree s t) (hw : Within (sessionId, draftTreeId) s s')
    (hm : DraftMirrors s' t')
    (now : DateTime) :
    ((∃ e, (s'.bumpTree sessionId draftTreeId now).1 = .error e) ∧
        ∃ e, t'.bumpTree sessionId draftTreeId now = .error e) ∨
      ∃ updated, (s'.bumpTree sessionId draftTreeId now).1 = .ok updated ∧
        (s.TreeFits sessionId draftTreeId → (∃ recorded, MappingsRecorded s' t' recorded) →
          ∃ t'', t'.bumpTree sessionId draftTreeId now = .ok (updated, t'') ∧
            StoresAgree (s'.bumpTree sessionId draftTreeId now).2 t'') := by
  rcases hm.bumpTree sessionId draftTreeId now with
    ⟨⟨e, herror⟩, hraise⟩ | ⟨tree, updated, htree, hfields, hok, hsql⟩
  · exact .inl ⟨⟨e, congrArg Prod.fst herror⟩, hraise⟩
  rw [hok]
  refine .inr ⟨updated, rfl, fun hfits hrec => ?_⟩
  rw [hw.trees] at htree
  obtain ⟨t'', hbump, htrees, hnodes, hmappings⟩ := hsql (hfits tree htree)
  have hkeyed := hm.keyed.bumpTree sessionId draftTreeId now
  rw [hok] at hkeyed
  obtain ⟨recorded, hrec⟩ := hrec
  refine ⟨t'', hbump, ⟨⟨hkeyed, ?_, ?_, hm.readable⟩, fun k tree' hk => ?_, fun node hn => ?_,
    recorded, ?_⟩⟩
  · rw [htrees, hm.trees]
    exact (Dict.map_set _ _ _ _).symm
  · rw [hnodes, hm.nodes]
  · rw [Dict.get?_set] at hk
    split at hk
    · next heq =>
      subst heq
      rw [← Option.some.inj hk, hfields]
      rfl
    · next hne =>
      rw [hw.trees] at hk
      rw [h.roots k tree' hk]
      exact congrArg _ (hw.others k fun heq => hne heq.symm).symm
  · have hold := hw.placed h.placed node hn
    refine ⟨?_, hold.utc, hold.fits⟩
    rw [Dict.get?_set, hw.trees]
    split
    · rfl
    · exact hold.tree
  · exact { hrec with rows := by rw [hmappings]; exact hrec.rows }

end StoresAgree

end Taskweavn

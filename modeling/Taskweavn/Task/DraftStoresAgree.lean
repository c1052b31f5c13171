import Taskweavn.Task.DraftPublished
import Taskweavn.Task.DraftAgreement

/-!
# The two draft stores, over whole runs

A call that both stores can carry out (`Agreeable`) is answered alike by stores that
agree, and they agree again: one lemma for each operation, on top of `StoresAgree.bumped`.

* `agrees_step`: a call that is `Agreeable` keeps the stores in agreement.
* `draft_stores_agree`: so does a run of such calls, and its answers are the same.
* `published_twice`: the same mapping twice is listed twice by one store, once by the
  other.
-/

namespace Taskweavn

open Lib Py InMemoryDraftTaskStore

/-! ### Calls that both stores can carry out -/

namespace InMemoryDraftTaskStore

/-- The mapping comes after those that are listed for its node or for its task. -/
def Follows (s : InMemoryDraftTaskStore) (mapping : DraftToPublishedMapping) : Prop :=
  ∀ m ∈ s.listForDraft mapping.sessionId mapping.draftTaskId ++
    s.listForTask mapping.sessionId mapping.taskId, Precedes m mapping

/-- The versions of the nodes and of the tree can be counted up. -/
def MarkedFit (s : InMemoryDraftTaskStore) (sessionId draftTreeId : String)
    (nodes : List DraftTaskNode) : Prop :=
  (∀ node ∈ nodes, node.1.version + 1 < 2 ^ 63) ∧ s.TreeFits sessionId draftTreeId

/-- The mappings are of nodes of the tree, and are recorded in the order of the tables. -/
structure Mappable (s : InMemoryDraftTaskStore) (nodes : List DraftTaskNode)
    (mappings : List DraftToPublishedMapping) : Prop where
  known : ∀ mapping ∈ mappings, mapping.draftTaskId ∈ nodes.map fun node => node.1.draftTaskId
  readable : ∀ mapping ∈ mappings, mapping.publishedAt.WholeMinutes
  order : mappings.Pairwise Precedes
  follows : ∀ mapping ∈ mappings, s.Follows mapping

/-- **What the tables take**: numbers that SQLite can bind, times that can be read back,
one time for a new node, and mappings to nodes of the tree that are new and in order. -/
def Storable (s : InMemoryDraftTaskStore) : DraftCall → Prop
  | .createTree draftTreeId clock sessionId roots title summary =>
    (∃ tree, createdTree draftTreeId clock sessionId roots title summary = .ok tree) →
      s.trees.get? (sessionId, draftTreeId) = none →
        ∀ root ∈ roots, ReadsBack root ∧ DraftMirrors.Fits root
  | .addNode clock sessionId draftTreeId node expected =>
    (∃ added, s.addedNode (fun _ => clock 0) sessionId draftTreeId node expected = .ok added) →
      clock 1 = clock 0 ∧ clock 2 = clock 0 ∧ DraftMirrors.Fits node ∧
        s.TreeFits sessionId draftTreeId
  | .updateNode clock sessionId draftTaskId patch expected =>
    ∀ node updated, s.getNode sessionId draftTaskId = some node →
      editedNode node draftTaskId patch expected (clock 0) = .ok updated →
        node.1.version + 1 < 2 ^ 63 ∧ s.TreeFits sessionId node.1.draftTreeId
  | .markAccepted clock sessionId draftTreeId expected =>
    ∀ nodes, s.acceptableNodes sessionId draftTreeId expected = .ok nodes →
      AllMarkable clock 0 (toAccept nodes) → s.MarkedFit sessionId draftTreeId (toAccept nodes)
  | .markPublished clock sessionId draftTreeId mappings expected =>
    ∀ nodes, s.publishableNodes sessionId draftTreeId mappings expected = .ok nodes →
      AllMarkable clock 0 (toPublish nodes) →
        s.MarkedFit sessionId draftTreeId (toPublish nodes) ∧ s.Mappable nodes mappings
  | _ => True

/-- A call that both stores can carry out, or both refuse without a trace. -/
def Agreeable (s : InMemoryDraftTaskStore) (call : DraftCall) : Prop :=
  s.Atomic call ∧ s.Storable call

end InMemoryDraftTaskStore

/-- Both calls raise, or both return the same value and leave stores that agree. -/
def Alike {α : Type} (r : Except DraftStoreError α × InMemoryDraftTaskStore)
    (r' : Except DraftStoreError (α × SqliteDraftTaskStore)) : Prop :=
  ((∃ e, r.1 = .error e) ∧ ∃ e, r' = .error e) ∨
    ∃ a t, r.1 = .ok a ∧ r' = .ok (a, t) ∧ StoresAgree r.2 t

variable {s : InMemoryDraftTaskStore} {t : SqliteDraftTaskStore} {sessionId draftTreeId : String}
  {tree : DraftTaskTree} {nodes : List DraftTaskNode} {mappings : List DraftToPublishedMapping}
  {clock : Clock} {expected : ℤ}

theorem Alike.bumped {s' : InMemoryDraftTaskStore} {t' : SqliteDraftTaskStore}
    (h : StoresAgree s t) (hw : Within (sessionId, draftTreeId) s s') (hm : DraftMirrors s' t')
    (hfits : s.TreeFits sessionId draftTreeId) (hrec : ∃ recorded, MappingsRecorded s' t' recorded)
    (now : DateTime) : Alike (s'.bumpTree sessionId draftTreeId now)
      (t'.bumpTree sessionId draftTreeId now) := by
  rcases h.bumped hw hm now with herror | ⟨updated, hok, hsql⟩
  · exact .inl herror
  · obtain ⟨t'', hbump, hagree⟩ := hsql hfits hrec
    exact .inr ⟨updated, t'', hok, hbump, hagree⟩

theorem Alike.answer {α β : Type} {f : α → β}
    {r : Except DraftStoreError α × InMemoryDraftTaskStore}
    {r' : Except DraftStoreError (α × SqliteDraftTaskStore)} (h : Alike r r') :
    Alike (answer f r) (r'.map fun p => (f p.1, p.2)) := by
  obtain ⟨r, s'⟩ := r
  rcases h with ⟨⟨e, rfl⟩, e', rfl⟩ | ⟨a, t, rfl, rfl, hagree⟩
  · exact .inl ⟨⟨e, rfl⟩, e', rfl⟩
  · exact .inr ⟨f a, t, rfl, rfl, hagree⟩

/-! ### Creating a tree -/

theorem rootNodes_createdTree {roots : List DraftTaskNode} {title summary : Option String}
    (h : createdTree draftTreeId clock sessionId roots title summary = .ok tree) :
    tree.1.version = 1 ∧ sortOn nodeKey tree.1.rootNodes = tree.1.rootNodes ∧
      ∀ node ∈ tree.1.rootNodes, ∃ root ∈ roots,
        node.1 = rootFields sessionId draftTreeId root := by
  obtain ⟨normalized, hnormalized, h⟩ := bind_eq_ok.mp h
  cases normalized with
  | nil => cases h
  | cons first rest =>
    obtain ⟨sorted, hsorted, h⟩ := bind_eq_ok.mp h
    have hfields := copyTree_eq_ok.mp h
    rw [hfields]
    refine ⟨rfl, ?_, fun node hnode => ?_⟩
    · have hroots := sortNodes_eq_ok hsorted
      rw [hroots]
      exact List.Pairwise.insertionSort_eq (sortOn_pairwise nodeKey _)
    · rw [sortNodes_eq_ok hsorted, mem_sortOn] at hnode
      obtain ⟨root, hroot, hcopy⟩ := exists_of_mem_mapM hnormalized node hnode
      exact ⟨root, hroot, copyNode_eq_ok.mp hcopy⟩

theorem StoresAgree.withTree {s' : InMemoryDraftTaskStore} {t' : SqliteDraftTaskStore}
    (h : StoresAgree s t) (hmirrors : DraftMirrors s' t')
    (hget : s.trees.get? (sessionId, draftTreeId) = none)
    (htrees : s'.trees = s.trees.set (sessionId, draftTreeId) tree)
    (hvalues : s'.nodes.values = s.nodes.values ++ tree.1.rootNodes)
    (hdraft : s'.mappingsByDraft = s.mappingsByDraft) (htask : s'.mappingsByTask = s.mappingsByTask)
    (hrows : t'.mappings = t.mappings)
    (hkey : tree.1.sessionId = sessionId ∧ tree.1.draftTreeId = draftTreeId)
    (hsorted : sortOn nodeKey tree.1.rootNodes = tree.1.rootNodes)
    (hfits : ∀ node ∈ tree.1.rootNodes, node.1.orderIndex < 2 ^ 63) : StoresAgree s' t' := by
  have hroots : ∀ node ∈ tree.1.rootNodes, node.1.sessionId = sessionId ∧
      node.1.draftTreeId = draftTreeId ∧ node.1.parentDraftTaskId = none := by
    intro node hnode
    rw [← hkey.1, ← hkey.2]
    exact tree.2.roots node hnode
  have hchildren : ∀ k : String × String, s'.childrenOf k.1 k.2 none =
      s.childrenOf k.1 k.2 none ++
        if (sessionId, draftTreeId) = k then tree.1.rootNodes else [] := by
    intro k
    rw [childrenOf, childrenOf, hvalues, List.filter_append]
    congr 1
    split
    · next heq =>
      subst heq
      exact List.filter_eq_self.mpr fun node hnode => decide_eq_true (hroots node hnode)
    · next hne =>
      refine List.filter_eq_nil_iff.mpr fun node hnode hk => hne ?_
      obtain ⟨hs, ht, -⟩ := of_decide_eq_true hk
      rw [← (hroots node hnode).1, ← (hroots node hnode).2.1, hs, ht]
  have hempty : s.childrenOf sessionId draftTreeId none = [] := by
    refine List.eq_nil_iff_forall_not_mem.mpr fun node hnode => ?_
    obtain ⟨hmem, hs, ht, -⟩ := mem_childrenOf.mp hnode
    have htree := (h.placed node hmem).tree
    rw [hs, ht, hget] at htree
    cases htree
  obtain ⟨recorded, hrec⟩ := h.mappings
  refine ⟨hmirrors, fun k tree' hk => ?_, fun node hnode => ?_,
    recorded, hrec.congr hdraft htask hrows⟩
  · rw [htrees, Dict.get?_set] at hk
    rw [hchildren]
    split at hk
    · next heq =>
      subst heq
      rw [if_pos rfl, hempty, List.nil_append, ← Option.some.inj hk, hsorted]
    · next hne =>
      rw [if_neg hne, List.append_nil]
      exact h.roots k tree' hk
  · rw [hvalues, List.mem_append] at hnode
    rcases hnode with hold | hnew
    · refine ⟨?_, (h.placed node hold).utc, (h.placed node hold).fits⟩
      rw [htrees, Dict.get?_set]
      split
      · rfl
      · exact (h.placed node hold).tree
    · obtain ⟨hs, ht, hparent⟩ := hroots node hnew
      refine ⟨?_, fun hne => absurd hparent hne, hfits node hnew⟩
      rw [hs, ht, htrees, Dict.get?_set_self]
      rfl

theorem alike_createTree (h : StoresAgree s t) {roots : List DraftTaskNode}
    {title summary : Option String}
    (hatomic : s.Atomic (.createTree draftTreeId clock sessionId roots title summary))
    (hstorable : s.Storable (.createTree draftTreeId clock sessionId roots title summary)) :
    Alike (s.createTree draftTreeId clock sessionId roots title summary)
      (t.createTree draftTreeId clock sessionId roots title summary) := by
  rw [InMemoryDraftTaskStore.createTree, SqliteDraftTaskStore.createTree]
  cases hcreated : createdTree draftTreeId clock sessionId roots title summary with
  | error e => exact .inl ⟨⟨e, rfl⟩, e, rfl⟩
  | ok tree =>
    obtain ⟨hsession, hid, hsessions, hperm⟩ := createdTree_ok hcreated
    obtain ⟨hversion, hsorted, hcopies⟩ := rootNodes_createdTree hcreated
    have hinsert : t.insertTree tree = if (s.trees.get? (sessionId, draftTreeId)).isSome = true then
        .error .rowExists else .ok (t.putTree (.ofTree tree)) := by
      have hone : SqliteDraftTaskStore.checkInteger tree.1.version = .ok () := by
        rw [hversion]
        rfl
      rw [SqliteDraftTaskStore.insertTree, hone, hsession, hid, h.trees, Dict.get?_map,
        Option.isSome_map, raiseIf]
      split <;> rfl
    show Alike (answer _ (s.loadTree tree)) (t.insertTree tree >>= _)
    rw [hinsert, loadTree, hsession, hid]
    cases hget : s.trees.get? (sessionId, draftTreeId) with
    | some other => exact .inl ⟨⟨_, rfl⟩, _, rfl⟩
    | none =>
      have hfree := (rootsFree_congr hperm).mpr (hatomic ⟨tree, hcreated⟩ hget)
      have hwritable : ∀ node ∈ tree.1.rootNodes, ReadsBack node ∧ DraftMirrors.Fits node := by
        intro node hnode
        obtain ⟨root, hroot, hfields⟩ := hcopies node hnode
        rw [ReadsBack, DraftMirrors.Fits, hfields]
        exact hstorable ⟨tree, hcreated⟩ hget root hroot
      have htable : DraftMirrors { s with trees := s.trees.set (sessionId, draftTreeId) tree }
          (t.putTree (.ofTree tree)) := by
        have hkey : (DraftTreeRow.ofTree tree).key = (sessionId, draftTreeId) :=
          Prod.ext hsession hid
        refine ⟨⟨fun k tree' hk => ?_, h.keyed.nodes⟩, ?_, h.nodes, h.readable⟩
        · rw [Dict.get?_set] at hk
          split at hk
          · next heq => rw [← Option.some.inj hk, hsession, hid, heq]
          · exact h.keyed.trees k tree' hk
        · rw [SqliteDraftTaskStore.putTree_trees, h.trees, hkey]
          exact (Dict.map_set _ _ _ _).symm
      obtain ⟨s', t', hload, hinsertRoots, hmirrors, hrows, htrees, hvalues, hdraft, htask⟩ :=
        htable.loadRoots draftTreeId hsessions hfree hwritable
      refine .inr ⟨tree, t', ?_, ?_, ?_⟩
      · dsimp only
        rw [hload]
        rfl
      · rw [if_neg (by simp)]
        show (SqliteDraftTaskStore.insertRoots _ _ >>= _) = _
        rw [hinsertRoots]
        rfl
      · dsimp only
        rw [hload]
        exact h.withTree hmirrors hget htrees hvalues hdraft htask hrows ⟨hsession, hid⟩ hsorted
          fun node hnode => (hwritable node hnode).2.1

/-! ### Adding a node -/

theorem InMemoryDraftTaskStore.WellKeyed.getNode (hs : s.WellKeyed) (draftTaskId : String) :
    s.getNode sessionId draftTaskId = s.nodes.get? (sessionId, draftTaskId) := by
  rw [InMemoryDraftTaskStore.getNode]
  cases hget : s.nodes.get? (sessionId, draftTaskId) with
  | none => rfl
  | some node =>
    have hsession : node.1.sessionId = sessionId := (Prod.mk.inj (hs.nodes _ node hget)).1
    rw [Option.filter_some, if_pos (decide_eq_true hsession)]

theorem DraftMirrors.addedNode (h : DraftMirrors s t) (clock : Clock) (node : DraftTaskNode)
    (expected : ℤ) : t.addedNode clock sessionId draftTreeId node expected =
      s.addedNode (fun _ => clock 0) sessionId draftTreeId node expected := by
  have hrequire : t.requireTree sessionId draftTreeId = _ := h.requireTree
  rw [SqliteDraftTaskStore.addedNode, InMemoryDraftTaskStore.addedNode, hrequire, h.getNode,
    h.keyed.getNode, h.checkParent]
  cases s.getTree sessionId draftTreeId <;> rfl

theorem addedNode_const {node added : DraftTaskNode}
    (h : s.addedNode clock sessionId draftTreeId node expected = .ok added) :
    ∃ added, s.addedNode (fun _ => clock 0) sessionId draftTreeId node expected = .ok added := by
  obtain ⟨tree, htree, h⟩ := bind_eq_ok.mp h
  obtain ⟨_, hversion, h⟩ := bind_eq_ok.mp h
  obtain ⟨_, hfree, h⟩ := bind_eq_ok.mp h
  obtain ⟨_, hparent, h⟩ := bind_eq_ok.mp h
  have hvalid := added.2
  rw [copyNode_eq_ok.mp h] at hvalid
  have hconst : DraftTaskFields.Valid { node.1 with
      sessionId := sessionId
      draftTreeId := draftTreeId
      createdAt := Moment.utc (clock 0)
      updatedAt := Moment.utc (clock 0) } :=
    { hvalid with timestamps := ⟨rfl, le_rfl⟩ }
  obtain ⟨added', hcopy⟩ := copyNode_isOk.mpr hconst
  refine ⟨added', bind_eq_ok.mpr ⟨tree, htree, bind_eq_ok.mpr ⟨_, hversion, ?_⟩⟩⟩
  exact bind_eq_ok.mpr ⟨_, hfree, bind_eq_ok.mpr ⟨_, hparent, hcopy⟩⟩

theorem addedNode_still (h : clock 1 = clock 0) (node : DraftTaskNode) (expected : ℤ) :
    s.addedNode clock sessionId draftTreeId node expected =
      s.addedNode (fun _ => clock 0) sessionId draftTreeId node expected := by
  rw [InMemoryDraftTaskStore.addedNode, InMemoryDraftTaskStore.addedNode, h]

theorem getTree_isSome (h : s.getTree sessionId draftTreeId = .ok tree) :
    (s.trees.get? (sessionId, draftTreeId)).isSome = true := by
  rw [InMemoryDraftTaskStore.getTree] at h
  split at h
  · next hget => rw [hget]; rfl
  · cases h

theorem alike_addNode (h : StoresAgree s t) {node : DraftTaskNode}
    (hstorable : s.Storable (.addNode clock sessionId draftTreeId node expected)) :
    Alike (s.addNode clock sessionId draftTreeId node expected)
      (t.addNode clock sessionId draftTreeId node expected) := by
  have hadded : t.addedNode clock sessionId draftTreeId node expected = _ :=
    h.addedNode clock node expected
  rw [InMemoryDraftTaskStore.addNode, SqliteDraftTaskStore.addNode, hadded]
  cases hconst : s.addedNode (fun _ => clock 0) sessionId draftTreeId node expected with
  | error e =>
    refine .inl ⟨?_, e, rfl⟩
    cases hmem : s.addedNode clock sessionId draftTreeId node expected with
    | error e' => exact ⟨e', rfl⟩
    | ok added =>
      obtain ⟨added', hok⟩ := addedNode_const hmem
      rw [hconst] at hok
      cases hok
  | ok added =>
    obtain ⟨h1, h2, hfits, htreeFits⟩ := hstorable ⟨added, hconst⟩
    obtain ⟨hfree, hfields⟩ := addedNode_ok hconst
    have hmem := (addedNode_still h1 node expected).trans hconst
    have hkey : (added.1.sessionId, added.1.draftTaskId) = (sessionId, added.1.draftTaskId) := by
      rw [hfields]
    have hread : ReadsBack added := by
      rw [ReadsBack, hfields]
      exact ⟨Moment.wholeMinutes_utc _, Moment.wholeMinutes_utc _⟩
    have haddedFits : DraftMirrors.Fits added := by
      rw [DraftMirrors.Fits, hfields]
      exact hfits
    have hplaced : Placed s added := by
      refine ⟨?_, fun _ => ⟨clock 0, by rw [hfields]⟩, haddedFits.1⟩
      obtain ⟨tree, htree, -⟩ := bind_eq_ok.mp hconst
      rw [hfields]
      exact getTree_isSome htree
    have hinsert := h.insertNode hfree hkey haddedFits (.nodeExists node.1.draftTaskId)
    have hmirrors : DraftMirrors (s.withNode sessionId draftTreeId added) (t.putNode added) :=
      (h.putNode hkey hread).congr rfl rfl rfl rfl
    obtain ⟨recorded, hrec⟩ := h.mappings
    have hwithin := Within.withNode hfree (by rw [hfields]) (by rw [hfields]) hplaced
    have halike := Alike.bumped h hwithin hmirrors htreeFits
      ⟨recorded, hrec.congr rfl rfl rfl⟩ (clock 0)
    rw [hmem, h2]
    show Alike (answer (fun _ => added) _) (t.insertNode _ added >>= _)
    rw [hinsert]
    show Alike _ ((t.putNode added).bumpTree sessionId draftTreeId (clock 1) >>= _)
    rw [h1]
    exact halike.answer

/-! ### Changing nodes -/

theorem alike_updateNode (h : StoresAgree s t) {draftTaskId : String} {patch : TaskNodePatch}
    (hstorable : s.Storable (.updateNode clock sessionId draftTaskId patch expected)) :
    Alike (s.updateNode clock sessionId draftTaskId patch expected)
      (t.updateNode clock sessionId draftTaskId patch expected) := by
  have hnode : t.getNode sessionId draftTaskId = _ := h.getNode draftTaskId
  rw [InMemoryDraftTaskStore.updateNode, SqliteDraftTaskStore.updateNode,
    SqliteDraftTaskStore.requireNode, hnode]
  cases hget : s.getNode sessionId draftTaskId with
  | none => exact .inl ⟨⟨_, rfl⟩, _, rfl⟩
  | some node =>
    obtain ⟨hstored, hsession⟩ := getNode_eq_some.mp hget
    have hmem : node ∈ s.nodes.values := Dict.mem_values.mpr ⟨_, hstored⟩
    show Alike _ (editedNode node draftTaskId patch expected (clock 0) >>= _)
    cases hedit : editedNode node draftTaskId patch expected (clock 0) with
    | error e =>
      simp only [hedit]
      exact .inl ⟨⟨_, rfl⟩, _, rfl⟩
    | ok updated =>
      obtain ⟨hplace, hid, hversion⟩ := editedNode_ok hedit
      obtain ⟨hcreated, hupdated⟩ := SqliteDraftTaskStore.createdAt_editedNode hedit
      obtain ⟨hsessionId, -, -, horder⟩ : updated.1.sessionId = node.1.sessionId ∧
          updated.1.draftTreeId = node.1.draftTreeId ∧
          updated.1.parentDraftTaskId = node.1.parentDraftTaskId ∧
          updated.1.orderIndex = node.1.orderIndex := by
        simpa [InMemoryDraftTaskStore.place] using hplace
      obtain ⟨hversionFits, htreeFits⟩ := hstorable node updated hget hedit
      have hkey : (updated.1.sessionId, updated.1.draftTaskId) = (sessionId, draftTaskId) := by
        rw [hsessionId, hid]
        exact h.keyed.nodes _ node hstored
      have hread : ReadsBack updated := by
        rw [ReadsBack, hcreated, hupdated]
        exact ⟨(h.readable node hmem).1, Moment.wholeMinutes_utc _⟩
      have hfits : DraftMirrors.Fits updated := by
        rw [DraftMirrors.Fits, horder, hversion]
        exact ⟨(h.placed node hmem).fits, hversionFits⟩
      have hwrite := h.updateRow hstored hkey hfits
      have hwithin : Within (sessionId, node.1.draftTreeId) s
          { s with nodes := s.nodes.set (sessionId, draftTaskId) updated } :=
        Within.set hstored hplace hcreated (by rw [hsession])
      obtain ⟨recorded, hrec⟩ := h.mappings
      have halike := Alike.bumped h hwithin (h.putNode hkey hread) htreeFits
        ⟨recorded, hrec.congr rfl rfl rfl⟩ (clock 1)
      simp only [hedit]
      show Alike _ (t.updateRow updated >>= _)
      rw [hwrite]
      exact halike.answer

/-! ### Marking nodes -/

theorem andThen_error {α β : Type} {r : Except DraftStoreError α × InMemoryDraftTaskStore}
    {next : InMemoryDraftTaskStore → Except DraftStoreError β × InMemoryDraftTaskStore}
    {e : DraftStoreError} (h : r.1 = .error e) : (andThen r next).1 = .error e := by
  obtain ⟨r, s'⟩ := r
  cases h
  rfl

theorem StoresAgree.acceptableNodes (h : StoresAgree s t) (expected : ℤ) :
    t.acceptableNodes sessionId draftTreeId expected =
      s.acceptableNodes sessionId draftTreeId expected := by
  have hrequire : t.requireTree sessionId draftTreeId = _ := h.requireTree
  rw [SqliteDraftTaskStore.acceptableNodes, InMemoryDraftTaskStore.acceptableNodes, hrequire,
    h.listNodes]
  cases s.getTree sessionId draftTreeId <;> rfl

theorem marked_alike (h : StoresAgree s t) (status : DraftTaskStatus) {marks : List DraftTaskNode}
    (hnodes : s.listNodes sessionId draftTreeId = .ok nodes) {p : DraftTaskNode → Bool}
    (hmarks : marks = nodes.filter p)
    (hfits : AllMarkable clock 0 marks → s.MarkedFit sessionId draftTreeId marks) :
    (∃ e, (markNodes status clock sessionId 0 marks s).1 = .error e) ∧
        (∃ e, SqliteDraftTaskStore.markRows status clock 0 marks t = .error e) ∨
      ∃ s' t', AllMarkable clock 0 marks ∧
        markNodes status clock sessionId 0 marks s = (.ok (), s') ∧
        SqliteDraftTaskStore.markRows status clock 0 marks t = .ok t' ∧ DraftMirrors s' t' ∧
        Within (sessionId, draftTreeId) s s' ∧ MarkFrame s s' ∧ t'.mappings = t.mappings := by
  obtain ⟨hlisted, hsessions⟩ := h.keyed.listed hnodes p
  rw [← hmarks] at hlisted hsessions
  obtain ⟨hframe, hraises, -⟩ := markNodes_spec status clock sessionId marks 0 s hlisted hsessions
  by_cases hall : AllMarkable clock 0 marks
  · obtain ⟨hversions, -⟩ := hfits hall
    cases hmark : markNodes status clock sessionId 0 marks s with
    | mk r s' =>
      cases r with
      | error e => exact absurd hall (hraises.mp ⟨e, by rw [hmark]⟩)
      | ok u =>
        have hin : ∀ node ∈ marks, node ∈ s.nodesOf sessionId draftTreeId := by
          intro node hnode
          obtain ⟨_, -, hsort⟩ := bind_eq_ok.mp hnodes
          rw [hmarks] at hnode
          have hmem := List.mem_of_mem_filter hnode
          rw [sortNodes_eq_ok hsort] at hmem
          exact mem_sortOn.mp hmem
        have hplaces : ∀ node ∈ marks,
            (node.1.sessionId, node.1.draftTreeId) = (sessionId, draftTreeId) := by
          intro node hnode
          obtain ⟨hs, ht⟩ := of_decide_eq_true (List.mem_filter.mp (hin node hnode)).2
          exact Prod.ext hs ht
        have horders : ∀ node ∈ marks,
            node.1.orderIndex < 2 ^ 63 ∧ node.1.version + 1 < 2 ^ 63 := fun node hnode =>
          ⟨(h.placed node (List.mem_of_mem_filter (hin node hnode))).fits, hversions node hnode⟩
        obtain ⟨t', hrows, hmirrors, hmappings⟩ :=
          h.toDraftMirrors.markNodes hlisted horders hmark
        rw [hmark] at hframe
        exact .inr ⟨s', t', hall, rfl, hrows, hmirrors, Within.markNodes hlisted hplaces hmark,
          hframe, hmappings⟩
  · obtain ⟨e, he⟩ := hraises.mpr hall
    refine .inl ⟨⟨e, he⟩, ?_⟩
    cases hrows : SqliteDraftTaskStore.markRows status clock 0 marks t with
    | error e' => exact ⟨e', rfl⟩
    | ok t' =>
      have hok : ∃ s', markNodes status clock sessionId 0 marks s = (.ok (), s') :=
        DraftMirrors.markNodes_of_markRows hrows
      obtain ⟨s', hok⟩ := hok
      rw [hok] at he
      cases he

theorem alike_markAccepted (h : StoresAgree s t)
    (hstorable : s.Storable (.markAccepted clock sessionId draftTreeId expected)) :
    Alike (s.markAccepted clock sessionId draftTreeId expected)
      (t.markAccepted clock sessionId draftTreeId expected) := by
  rw [InMemoryDraftTaskStore.markAccepted, SqliteDraftTaskStore.markAccepted, h.acceptableNodes]
  cases hnodes : s.acceptableNodes sessionId draftTreeId expected with
  | error e => exact .inl ⟨⟨e, rfl⟩, e, rfl⟩
  | ok nodes =>
    show Alike (andThen _ _) (SqliteDraftTaskStore.markRows _ _ _ _ _ >>= _)
    have hfits := hstorable nodes hnodes
    rcases marked_alike h .accepted (acceptableNodes_listed hnodes) (rfl : toAccept nodes = _) hfits
      with ⟨⟨e, he⟩, e', he'⟩ | ⟨s', t', hall, hmark, hrows, hmirrors, hwithin, hframe, hmappings⟩
    · rw [he']
      exact .inl ⟨⟨e, andThen_error he⟩, e', rfl⟩
    · obtain ⟨recorded, hrec⟩ := h.mappings
      rw [hmark, hrows]
      exact Alike.bumped h hwithin hmirrors (hfits hall).2
        ⟨recorded, hrec.congr hframe.mappingsByDraft hframe.mappingsByTask hmappings⟩ _

/-! ### Publishing -/

theorem checkMappings_mono {known known' : String → Bool}
    (hknown : ∀ mapping ∈ mappings, known mapping.draftTaskId = true →
      known' mapping.draftTaskId = true)
    (h : checkMappings known sessionId draftTreeId mappings = .ok ()) :
    checkMappings known' sessionId draftTreeId mappings = .ok () := by
  induction mappings with
  | nil => rfl
  | cons mapping mappings ih =>
    rw [checkMappings] at h ⊢
    split at h
    · cases h
    · next hmatch =>
      rw [if_neg hmatch]
      split at h
      · next hmem =>
        rw [if_pos (hknown mapping List.mem_cons_self hmem)]
        exact ih (fun m hm => hknown m (List.mem_cons_of_mem mapping hm)) h
      · cases h

theorem checkMappings_session {known : String → Bool}
    (h : checkMappings known sessionId draftTreeId mappings = .ok ()) :
    ∀ mapping ∈ mappings, mapping.sessionId = sessionId ∧ known mapping.draftTaskId = true := by
  induction mappings with
  | nil => simp
  | cons mapping mappings ih =>
    rw [checkMappings] at h
    split at h
    · cases h
    · next hmatch =>
      split at h
      · next hmem =>
        intro m hm
        rcases List.mem_cons.mp hm with rfl | hm
        · exact ⟨not_not.mp fun hne => hmatch (.inl hne), hmem⟩
        · exact ih h m hm
      · cases h

theorem session_of_publishable {expected : Option ℤ}
    (h : s.publishableNodes sessionId draftTreeId mappings expected = .ok nodes) :
    ∀ mapping ∈ mappings, mapping.sessionId = sessionId := by
  obtain ⟨tree, -, h⟩ := bind_eq_ok.mp h
  obtain ⟨_, -, h⟩ := bind_eq_ok.mp h
  obtain ⟨listed, -, h⟩ := bind_eq_ok.mp h
  obtain ⟨_, -, h⟩ := bind_eq_ok.mp h
  obtain ⟨_, hcheck, -⟩ := bind_eq_ok.mp h
  exact fun mapping hm => (checkMappings_session hcheck mapping hm).1

/-- What passes the checks of SQLite passes those in memory, and the other way round where
the mapped nodes are nodes of the tree. -/
theorem StoresAgree.publishableNodes (h : StoresAgree s t) (expected : Option ℤ) :
    t.publishableNodes sessionId draftTreeId mappings expected = .ok nodes ↔
      s.publishableNodes sessionId draftTreeId mappings expected = .ok nodes ∧
        ∀ mapping ∈ mappings, mapping.draftTaskId ∈ nodes.map fun node => node.1.draftTaskId := by
  have hrequire : t.requireTree sessionId draftTreeId = _ := h.requireTree
  rw [SqliteDraftTaskStore.publishableNodes, InMemoryDraftTaskStore.publishableNodes, hrequire,
    h.listNodes]
  cases hget : s.getTree sessionId draftTreeId with
  | error e => exact ⟨fun hok => (by cases hok), fun hok => (by cases hok.1)⟩
  | ok tree =>
    show (checkExpected tree.1.version expected draftTreeId >>= _) = _ ↔
      (checkExpected tree.1.version expected draftTreeId >>= _) = _ ∧ _
    constructor
    · intro hok
      obtain ⟨_, hversion, hok⟩ := bind_eq_ok.mp hok
      obtain ⟨listed, hlist, hok⟩ := bind_eq_ok.mp hok
      obtain ⟨_, hcancelled, hok⟩ := bind_eq_ok.mp hok
      obtain ⟨_, hcheck, hok⟩ := bind_eq_ok.mp hok
      cases hok
      have hin : ∀ mapping ∈ mappings,
          mapping.draftTaskId ∈ nodes.map fun node => node.1.draftTaskId := fun mapping hm =>
        of_decide_eq_true (checkMappings_session hcheck mapping hm).2
      refine ⟨bind_eq_ok.mpr ⟨_, hversion, bind_eq_ok.mpr ⟨nodes, hlist, bind_eq_ok.mpr
        ⟨_, hcancelled, bind_eq_ok.mpr ⟨(), checkMappings_mono (fun mapping hm _ => ?_) hcheck,
          rfl⟩⟩⟩⟩, hin⟩
      obtain ⟨node, hnode, hid⟩ := List.mem_map.mp (hin mapping hm)
      have hstored := (h.keyed.listed hlist fun _ => true).1.stored node (by simpa using hnode)
      rw [← hid, h.keyed.getNode, hstored]
      rfl
    · rintro ⟨hok, hin⟩
      obtain ⟨_, hversion, hok⟩ := bind_eq_ok.mp hok
      obtain ⟨listed, hlist, hok⟩ := bind_eq_ok.mp hok
      obtain ⟨_, hcancelled, hok⟩ := bind_eq_ok.mp hok
      obtain ⟨_, hcheck, hok⟩ := bind_eq_ok.mp hok
      cases hok
      exact bind_eq_ok.mpr ⟨_, hversion, bind_eq_ok.mpr ⟨nodes, hlist, bind_eq_ok.mpr
        ⟨_, hcancelled, bind_eq_ok.mpr ⟨(), checkMappings_mono
          (fun mapping hm _ => decide_eq_true (hin mapping hm)) hcheck, rfl⟩⟩⟩⟩

theorem MappingsRecorded.follows {recorded : List DraftToPublishedMapping}
    (h : MappingsRecorded s t recorded) (horder : mappings.Pairwise Precedes)
    (hfollows : ∀ mapping ∈ mappings, s.Follows mapping) :
    (recorded ++ mappings).Pairwise Precedes := by
  refine List.pairwise_append.mpr ⟨h.order, horder, fun a ha b hb hsession => ?_⟩
  have hlisted : ∀ m ∈ s.listForDraft b.sessionId b.draftTaskId ++
      s.listForTask b.sessionId b.taskId, Precedes m b := hfollows b hb
  rw [h.byDraft, h.byTask] at hlisted
  constructor
  · intro hdraft
    have hmem : a ∈ recorded.filter fun m =>
        m.sessionId = b.sessionId ∧ m.draftTaskId = b.draftTaskId :=
      List.mem_filter.mpr ⟨ha, decide_eq_true ⟨hsession, hdraft⟩⟩
    exact (hlisted a (List.mem_append_left _ hmem) hsession).1 hdraft
  · intro htask
    have hmem : a ∈ recorded.filter fun m => m.sessionId = b.sessionId ∧ m.taskId = b.taskId :=
      List.mem_filter.mpr ⟨ha, decide_eq_true ⟨hsession, htask⟩⟩
    exact (hlisted a (List.mem_append_right _ hmem) hsession).2 htask

theorem alike_markPublished (h : StoresAgree s t) {expected : Option ℤ}
    (hstorable : s.Storable (.markPublished clock sessionId draftTreeId mappings expected)) :
    Alike (s.markPublished clock sessionId draftTreeId mappings expected)
      (t.markPublished clock sessionId draftTreeId mappings expected) := by
  rw [InMemoryDraftTaskStore.markPublished, SqliteDraftTaskStore.markPublished]
  cases hnodes : s.publishableNodes sessionId draftTreeId mappings expected with
  | error e =>
    cases hsql : t.publishableNodes sessionId draftTreeId mappings expected with
    | error e' => exact .inl ⟨⟨e, rfl⟩, e', rfl⟩
    | ok nodes =>
      have hmem := ((h.publishableNodes expected).mp hsql).1
      rw [hnodes] at hmem
      cases hmem
  | ok nodes =>
    have hstored := hstorable nodes hnodes
    rcases marked_alike h .published (publishableNodes_listed hnodes) (rfl : toPublish nodes = _)
        fun hall => (hstored hall).1
      with ⟨⟨e, he⟩, e', he'⟩ | ⟨s', t', hall, hmark, hrows, hmirrors, hwithin, hframe, hmappings⟩
    · refine .inl ⟨⟨e, andThen_error he⟩, ?_⟩
      cases hsql : t.publishableNodes sessionId draftTreeId mappings expected with
      | error e'' => exact ⟨e'', rfl⟩
      | ok nodes' =>
        have hmem := ((h.publishableNodes expected).mp hsql).1
        rw [hnodes] at hmem
        cases hmem
        exact ⟨e', by show (SqliteDraftTaskStore.markRows _ _ _ _ _ >>= _) = _; rw [he']; rfl⟩
    · obtain ⟨hfits, hmappable⟩ := hstored hall
      have hsql := (h.publishableNodes expected).mpr ⟨hnodes, hmappable.known⟩
      obtain ⟨recorded, hrec⟩ := h.mappings
      have hsessions := session_of_publishable hnodes
      have hrec' := MappingsRecorded.record
        (hrec.congr hframe.mappingsByDraft hframe.mappingsByTask hmappings)
        (fun m hm => ⟨hsessions m hm, hmappable.readable m hm⟩)
        (hrec.follows hmappable.order hmappable.follows)
      obtain ⟨hmemTrees, hmemNodes, -⟩ := recordMappings_frame sessionId mappings s'
      obtain ⟨hsqlTrees, hsqlNodes⟩ := SqliteDraftTaskStore.foldl_insertMapping mappings t'
      rw [hsql]
      show Alike (andThen _ _) (SqliteDraftTaskStore.markRows _ _ _ _ _ >>= _)
      rw [hmark, hrows]
      exact Alike.bumped h (hwithin.congr hmemTrees hmemNodes)
        (hmirrors.congr hmemTrees hmemNodes hsqlTrees hsqlNodes) hfits.2 ⟨_, hrec'⟩ _

/-! ### Calls and runs -/

theorem Alike.step {α : Type} {wrap : α → DraftAnswer}
    {r : Except DraftStoreError α × InMemoryDraftTaskStore}
    {r' : Except DraftStoreError (α × SqliteDraftTaskStore)} (halike : Alike r r')
    (h : StoresAgree s t) (hunchanged : Unchanged s (InMemoryDraftTaskStore.answer wrap r)) :
    (InMemoryDraftTaskStore.answer wrap r).1.toOption = (t.transacted wrap r').1.toOption ∧
      StoresAgree (InMemoryDraftTaskStore.answer wrap r).2 (t.transacted wrap r').2 := by
  obtain ⟨r, s'⟩ := r
  rcases halike with ⟨⟨e, rfl⟩, e', rfl⟩ | ⟨a, t', rfl, rfl, hagree⟩
  · have hsame : s' = s := hunchanged e rfl
    rw [hsame]
    exact ⟨rfl, h⟩
  · exact ⟨rfl, hagree⟩

/-- **A call that both stores can carry out** is answered alike, and they agree again. -/
theorem agrees_step (h : StoresAgree s t) {call : DraftCall} (hcall : s.Agreeable call) :
    (s.step call).1.toOption = (t.step call).1.toOption ∧
      StoresAgree (s.step call).2 (t.step call).2 := by
  obtain ⟨hatomic, hstorable⟩ := hcall
  have hunchanged := (unchanged_step_iff h.keyed call).mpr hatomic
  have hreads : call.Reads → (s.step call).1.toOption = (t.step call).1.toOption := fun hcall =>
    congrArg Except.toOption (reads_agree h hcall).symm
  cases call with
  | createTree => exact (alike_createTree h hatomic hstorable).step h hunchanged
  | addNode => exact (alike_addNode h hstorable).step h hunchanged
  | updateNode => exact (alike_updateNode h hstorable).step h hunchanged
  | markAccepted => exact (alike_markAccepted h hstorable).step h hunchanged
  | markPublished => exact (alike_markPublished h hstorable).step h hunchanged
  | _ => exact ⟨hreads trivial, h⟩

theorem storesAgree_empty : StoresAgree .empty .empty where
  keyed := wellKeyed_empty
  trees := rfl
  nodes := rfl
  readable node hnode := by cases hnode
  roots k tree hk := by cases hk
  placed node hnode := by cases hnode
  mappings := ⟨[], .nil⟩

/-- **The draft stores agree**: over a run of calls that both can carry out, they raise on
the same calls and return the same values otherwise. -/
theorem draft_stores_agree (calls : List DraftCall)
    (h : Throughout InMemoryDraftTaskStore.step Agreeable .empty calls) :
    (outputs InMemoryDraftTaskStore.step .empty calls).map Except.toOption =
      (outputs SqliteDraftTaskStore.step .empty calls).map Except.toOption :=
  (simulation_view Except.toOption (g := SqliteDraftTaskStore.step) (R := StoresAgree)
    (fun _ _ _ hagree hcall => agrees_step hagree hcall) calls .empty .empty storesAgree_empty h).1

theorem agreeable_addNested {s : InMemoryDraftTaskStore} {draftTaskId parent : String}
    {version : ℤ} {valid : (nodeFields draftTaskId (some parent) 0).Valid} {n : ℕ}
    (horders : s.rootOrders "s1" "t1" = [0, 1])
    (htree : (s.trees.get? ("s1", "t1")).map (fun tree => (tree.1.createdAt, tree.1.version)) =
      some (DateTime.noon, n)) (hn : n + 1 < 2 ^ 63) :
    Agreeable s (addNested draftTaskId parent version valid) := by
  obtain ⟨tree, hget, hfields⟩ := Option.map_eq_some_iff.mp htree
  obtain ⟨hcreated, rfl⟩ := Prod.mk.inj hfields
  refine ⟨fun _ => ⟨.inr ?_, fun hroot => (by cases hroot), ?_, tree, hget, hcreated.le⟩,
    fun _ => ⟨rfl, rfl, ?_, fun tree' htree' => ?_⟩⟩
  · rw [horders]
    exact List.cons_ne_nil _ _
  · rw [horders]
    decide
  · exact ⟨(by decide : 0 < 2 ^ 63), (by decide : 1 < 2 ^ 63)⟩
  · rw [hget] at htree'
    exact Option.some.inj htree' ▸ hn

/-- A tree of five nodes is created and listed. -/
theorem draft_stores_agree_created :
    Throughout InMemoryDraftTaskStore.step Agreeable .empty
        (nestedCalls ++ [.listNodes "s1" "t1"]) ∧
      (outputs InMemoryDraftTaskStore.step .empty (nestedCalls ++ [.listNodes "s1" "t1"])).map
          Except.toOption =
        (outputs SqliteDraftTaskStore.step .empty (nestedCalls ++ [.listNodes "s1" "t1"])).map
          Except.toOption := by
  have hcreate : ∀ roots, (∀ root ∈ roots, ReadsBack root ∧ DraftMirrors.Fits root) →
      RootsFree .empty "s1" roots → Agreeable .empty
        (.createTree "t1" (fun _ => DateTime.noon) "s1" roots none none) :=
    fun roots hroots hfree => ⟨fun _ _ => hfree, fun _ _ => hroots⟩
  have hcalls : Throughout InMemoryDraftTaskStore.step Agreeable .empty
      (nestedCalls ++ [.listNodes "s1" "t1"]) :=
    ⟨hcreate _ (by decide) ⟨by decide, by decide⟩,
      agreeable_addNested (n := 1) (by decide +kernel) (by decide +kernel) (by decide),
      agreeable_addNested (n := 2) (by decide +kernel) (by decide +kernel) (by decide),
      agreeable_addNested (n := 3) (by decide +kernel) (by decide +kernel) (by decide),
      ⟨trivial, trivial⟩, trivial⟩
  exact ⟨hcalls, draft_stores_agree _ hcalls⟩

/-- The root of the sample tree was published as a task. -/
def publishedSample : DraftToPublishedMapping where
  sessionId := "s1"
  draftTreeId := "t1"
  draftTaskId := "n1"
  taskId := "task-1"
  publishedAt := Moment.utc DateTime.noon
  publishCommandId := "c1"
  texts_ok := by decide

/-- Record the mapping of the sample tree. -/
def publishSample : DraftCall :=
  .markPublished (fun _ => DateTime.noon) "s1" "t1" [publishedSample] none

/-- **A mapping that is recorded twice** is listed twice in memory and once by SQLite. -/
theorem published_twice :
    (outputs InMemoryDraftTaskStore.step .empty
        [createSample "t1", publishSample, publishSample, .listForDraft "s1" "n1"]).map
          Except.toOption ≠
      (outputs SqliteDraftTaskStore.step .empty
        [createSample "t1", publishSample, publishSample, .listForDraft "s1" "n1"]).map
          Except.toOption := by
  decide

end Taskweavn

import Taskweavn.Task.DraftAtomic
import Taskweavn.Task.DraftPublisher

/-!
# Every node of a draft tree is published

A tree that calls can reach in the draft store is a forest, so the walk of
`publish_draft_tree` comes to each of its nodes once, and the publisher gives each a task
id.  The tasks are stored parents first, under ids that are drawn at random, so that the
bus refuses none of them.

* `publishAll_fresh`: a bus takes new tasks, parents first.
* `publishDraftTree_ne_missingKey`: no node is without an id, whatever the bus does.
* `mapsRows_iff`: every node gets a mapping, exactly if the store can read back
  the times of its nodes.
-/

namespace Taskweavn

open Lib Py Relation

/-! ### New tasks on a bus -/

/-- A bus that takes a new task with its parent there, if it can write its place among
its siblings. -/
class AcceptingBus (B : Type) extends ShadowedBus B where
  FitsOrder : ℕ → Prop
  publish_ok : ∀ {m b t}, Shadow m b → t.status = .pending → m.get t.sessionId t.taskId = none →
    (∀ p, t.parentId = some p →
      ∃ u, m.get t.sessionId p = some u ∧ Readable u ∧ u.rootId = t.rootId) →
    FitsOrder t.orderIndex → (TaskBus.publish b t).1 = .ok t

theorem publishCheck_ok {get : String → String → Except BusError (Option TaskDomain)}
    {task : TaskDomain} (hs : task.status = .pending)
    (hget : get task.sessionId task.taskId = .ok none)
    (hparent : ∀ p, task.parentId = some p →
      ∃ parent, get task.sessionId p = .ok (some parent) ∧ parent.rootId = task.rootId) :
    publishCheck get task = .ok () := by
  unfold publishCheck
  cases hp : task.parentId with
  | none => simp [hs, hget, bind, Except.bind, pure, Except.pure]
  | some p =>
    obtain ⟨parent, hfound, hroot⟩ := hparent p hp
    simp [hs, hget, hfound, hroot, bind, Except.bind, pure, Except.pure]

instance : AcceptingBus InMemoryTaskBus where
  FitsOrder _ := True
  publish_ok := by
    rintro m b t ⟨rfl, -⟩ hs hget hparent -
    have hcheck : publishCheck (fun s i => .ok (m.get s i)) t = .ok () := by
      refine publishCheck_ok hs (congrArg Except.ok hget) fun p hp => ?_
      obtain ⟨u, hu, -, hroot⟩ := hparent p hp
      exact ⟨u, congrArg Except.ok hu, hroot⟩
    show (InMemoryTaskBus.publish m t).1 = .ok t
    rw [InMemoryTaskBus.publish, hcheck]

instance : AcceptingBus SqliteTaskBus where
  FitsOrder n := n < 2 ^ 63
  publish_ok := by
    intro m b t h hs hget hparent hfits
    have hcheck : publishCheck b.get t = .ok () := by
      refine publishCheck_ok hs (ShadowedBus.get_none h hget) fun p hp => ?_
      obtain ⟨u, hu, hread, hroot⟩ := hparent p hp
      exact ⟨_, ShadowedBus.get_readable h hu hread, hroot⟩
    show (SqliteTaskBus.publish b t).1 = .ok t
    rw [SqliteTaskBus.publish, hcheck]
    dsimp only
    rw [if_neg (Nat.not_le.mpr hfits)]

namespace DefaultTaskPublisher

section

open ShadowedBus AcceptingBus PublishRequest

variable {B : Type} [AcceptingBus B]

def taskLink (t : TaskDomain) : String × String := (t.taskId, t.rootId)

def taskParent (t : TaskDomain) : Option (String × String) :=
  t.parentId.map fun p => (p, t.rootId)

structure NewTask (B : Type) [AcceptingBus B] (m : InMemoryTaskBus) (sessionId : String)
    (t : TaskDomain) : Prop where
  valid : t.Valid
  pending : t.status = .pending
  session : t.sessionId = sessionId
  fits : FitsOrder B t.orderIndex
  absent : m.get sessionId t.taskId = none

/-- **A bus takes new tasks, parents first.** -/
theorem publishAll_fresh (sessionId : String) : ∀ (tasks : List TaskDomain) {b : B}
    {m : InMemoryTaskBus} {known : Set (String × String)}, Shadow m b →
    (∀ t ∈ tasks, NewTask B m sessionId t) → (tasks.map TaskDomain.taskId).Nodup →
    ParentsFirst known (links taskLink taskParent tasks) →
    (∀ k ∈ known, ∃ u, m.get sessionId k.1 = some u ∧ Readable B u ∧ u.rootId = k.2) →
    (publishAll b tasks).1 = .ok tasks := by
  intro tasks
  induction tasks with
  | nil => intro b m known _ _ _ _ _; rfl
  | cons t rest ih =>
    intro b m known h hnew hnodup hfirst hknown
    have ht := hnew t List.mem_cons_self
    have hok : (TaskBus.publish b t).1 = .ok t := by
      refine publish_ok h ht.pending (by rw [ht.session]; exact ht.absent) ?_ ht.fits
      intro p hp
      rw [ht.session]
      have hlink : taskParent t = some (p, t.rootId) := by simp [taskParent, hp]
      exact hknown (p, t.rootId) (hfirst.1 _ hlink)
    obtain ⟨-, hshadow, -, hstored⟩ := publish_shadow h ht.valid hok
    rw [ht.session] at hstored
    rw [List.map_cons, List.nodup_cons] at hnodup
    -- The shadow changes under the key of the task alone.
    have hother : ∀ i, i ≠ t.taskId → (m.publish t).2.get sessionId i = m.get sessionId i := by
      intro i hi
      unfold InMemoryTaskBus.publish
      split
      · rfl
      · refine Dict.get?_set_ne _ _ fun heq => hi ?_
        exact (congrArg Prod.snd heq).symm
    have hrest : (publishAll (TaskBus.publish b t).2 rest).1 = .ok rest := by
      refine ih hshadow (fun t' ht' => ?_) hnodup.2 hfirst.2 (fun k hk => ?_)
      · have hnew' := hnew t' (List.mem_cons_of_mem t ht')
        have hne : t'.taskId ≠ t.taskId := fun heq =>
          hnodup.1 (heq ▸ List.mem_map_of_mem ht')
        exact { hnew' with absent := by rw [hother _ hne]; exact hnew'.absent }
      · rcases Set.mem_insert_iff.mp hk with rfl | hk
        · exact ⟨t, hstored, readable_valid ht.valid, rfl⟩
        · obtain ⟨u, hu, hread, hroot⟩ := hknown k hk
          exact ⟨u, get_publish (keyed h) t ht.valid hu, hread, hroot⟩
    rcases hp : TaskBus.publish b t with ⟨r, b'⟩
    rw [hp] at hok hrest
    obtain rfl : r = .ok t := hok
    rcases hq : publishAll b' rest with ⟨r', b''⟩
    rw [hq] at hrest
    obtain rfl : r' = .ok rest := hrest
    simp only [publishAll, hp, hq]

end

/-! ### A request without a key -/

section

open PublishRequest

variable {B : Type} [TaskBus B]

variable {U : Uuid5} {request : PublishRequest} {tree : NormalizedTaskTree} {env : PublishEnv}

theorem parentsFirst_wanted (tree : NormalizedTaskTree) :
    ParentsFirst ∅ (links taskLink taskParent (wanted U request tree env).1) := by
  have hnodes : ParentsFirst ∅ (links NormalizedTaskNode.nodeId NormalizedTaskNode.parentId
      tree.iterNodes) :=
    NormalizedTaskNode.parentsFirst_all (fun p h => by cases h) tree.rootNodes tree.walk_ok.2
  let task : String → String := fun i => ((request.taskIdsForRequest U tree env).get? i).getD ""
  let root : String → String := fun i => task ((tree.rootByNode.get? i).getD "")
  have hmap := hnodes.map fun i => (task i, root i)
  rw [Set.image_empty] at hmap
  have hlinks : links taskLink taskParent (wanted U request tree env).1 =
      (links NormalizedTaskNode.nodeId NormalizedTaskNode.parentId tree.iterNodes).map
        fun e => ((task e.1, root e.1), e.2.map fun i => (task i, root i)) := by
    rw [links, links, wanted, tasksForRequest, List.map_map, List.map_map]
    conv_rhs => rw [← List.zipIdx_map_fst 0 tree.iterNodes, List.map_map]
    refine List.map_congr_left fun e he => ?_
    obtain ⟨node, n⟩ := e
    have hnode : node ∈ tree.iterNodes :=
      List.mem_of_getElem? (List.mem_zipIdx_iff_getElem?.mp he)
    refine Prod.ext rfl ?_
    show (node.parentId.map task).map _ = node.parentId.map _
    cases hp : node.parentId with
    | none => rfl
    | some p =>
      refine congrArg some (Prod.ext rfl ?_)
      show root node.nodeId = root p
      simp only [root, tree.rootByNode_parent hnode hp]
  rw [hlinks]
  exact hmap

theorem ids_fresh (hkey : request.idempotencyKey = none) :
    (wanted U request tree env).1.map TaskDomain.taskId =
      (List.range tree.iterNodes.length).map env.newId := by
  have hrange : List.range tree.iterNodes.length = tree.iterNodes.zipIdx.map Prod.snd := by
    rw [List.zipIdx_map_snd, List.range_eq_range']
  rw [hrange, wanted, tasksForRequest, List.map_map, List.map_map]
  refine List.map_congr_left fun e he => ?_
  have hid : (request.taskIdsForRequest U tree env).get? e.1.nodeId = some (env.newId e.2) :=
    get?_freshTaskIds U hkey (List.mem_zipIdx_iff_getElem?.mp he)
  show (Dict.get? _ _).getD "" = env.newId e.2
  rw [hid, Option.getD_some]

theorem publish_unkeyed {b : B} (htree : request.taskTree = some tree)
    (hkey : request.idempotencyKey = none) (hdry : request.options.dryRun = false)
    (env : PublishEnv) (hpreview : preview request = []) :
    publish U b request env =
      match publishAll b (wanted U request tree env).1 with
      | (.error e, b') => (.error e, b')
      | (.ok published, b') =>
        (.ok (publishedResult request published (request.taskIdsForRequest U tree env)
          (wanted U request tree env).2.2 env), b') := by
  rw [publish, if_neg (not_not.mpr hpreview), hdry, if_neg Bool.false_ne_true]
  simp only [htree, hkey, Option.isSome_none]
  rfl

theorem nodeTaskIds_published {published : List TaskDomain} {ids : Dict String String}
    {roots : List String} :
    nodeTaskIds (publishedResult request published ids roots env) = .ok ids := by
  refine nodeTaskIds_of_textDict ?_
  simp [publishedResult, Dict.get?_ofList]

theorem result_unkeyed {b b' : B} {result : PublishResult} (htree : request.taskTree = some tree)
    (hkey : request.idempotencyKey = none) (h : publish U b request env = (.ok result, b')) :
    result.skipped = true ∨
      (nodeTaskIds result = .ok (request.taskIdsForRequest U tree env) ∧
        result.requestId = request.requestId) := by
  by_cases hpreview : preview request = []
  · by_cases hdry : request.options.dryRun = true
    · rw [publish, if_neg (not_not.mpr hpreview), if_pos hdry] at h
      cases h
      exact .inl rfl
    · rw [publish_unkeyed htree hkey (Bool.eq_false_of_not_eq_true hdry) env hpreview] at h
      split at h
      · cases h
      · cases h
        exact .inr ⟨nodeTaskIds_published, rfl⟩
  · rw [publish, if_pos hpreview] at h
    cases h
    exact .inl rfl

end

end DefaultTaskPublisher

/-! ### The request of a draft tree -/

open TaskDomain in
theorem accepts_optText {o : Option String} (h : o ≠ some "") : optText.accepts o = true := by
  cases o with
  | none => exact accepts_optText_none
  | some text => exact accepts_optText_some.mpr fun htext => h (congrArg some htext)

theorem fieldsOk_normalizedNode (node : DraftTaskNode) (children : List NormalizedTaskNode) :
    (normalizedNode node children).fieldsOk = true := by
  have htext : ∀ {text : String}, text ≠ "" → Codec.text.accepts text = true := decide_eq_true
  simp only [NormalizedTaskNode.fieldsOk, Bool.and_eq_true]
  exact ⟨⟨⟨⟨⟨⟨⟨htext node.2.draftTaskId, accepts_optText node.2.parentDraftTaskId⟩,
    htext node.2.title⟩, htext node.2.intent⟩, accepts_optText node.2.summary⟩,
    accepts_optText node.2.instructions⟩, htext node.2.requiredCapability⟩, rfl⟩

section

variable {nodes walk : List DraftTaskNode} {roots : List NormalizedTaskNode}
  {sessionId draftTreeId requestId : String}

theorem DraftNodes.nodup (h : DraftNodes nodes) : (nodes.map draftId).Nodup := by
  obtain ⟨l, hperm, hl⟩ := h.forest
  exact (hperm.map draftId).nodup_iff.mpr hl.nodup

theorem DraftRequestOk.of_renders (hnodup : (nodes.map draftId).Nodup) (hne : nodes ≠ [])
    (hwalk : Renders walk none roots) (hperm : walk.Perm nodes) (hsession : sessionId ≠ "")
    (htree : draftTreeId ≠ "") (hrequest : requestId ≠ "") :
    DraftRequestOk sessionId draftTreeId requestId roots := by
  have hids : ((NormalizedTaskNode.collectAll roots).map NormalizedTaskNode.nodeId).Nodup := by
    rw [hwalk.ids]
    exact (hperm.map draftId).nodup_iff.mpr hnodup
  refine ⟨?_, ?_, ?_, hsession, htree, hrequest⟩
  · rintro rfl
    have hnil := hwalk.ids
    rw [NormalizedTaskNode.collectAll, List.map_nil] at hnil
    have hempty : walk = [] := List.map_eq_nil_iff.mp hnil.symm
    rw [hempty] at hperm
    exact hne hperm.symm.eq_nil
  · rw [List.all_eq_true]
    intro m hm
    obtain ⟨node, -, children, rfl⟩ := hwalk.nodes m hm
    exact fieldsOk_normalizedNode node children
  · refine NormalizedTaskNode.validateTree_of_linked roots hwalk.linked ?_
    rw [List.append_nil]
    exact hids

theorem preview_draftRequest (hwalk : Renders walk none roots) (hperm : walk.Perm nodes)
    (h : DraftRequestOk sessionId draftTreeId requestId roots)
    (hfilled : ∀ node ∈ nodes, isBlank node.1.intent = false ∧
      isBlank node.1.requiredCapability = false) :
    DefaultTaskPublisher.preview (draftRequest sessionId draftTreeId requestId roots h) = [] := by
  show DefaultTaskPublisher.validateRequestTree _
    (draftTree sessionId draftTreeId requestId roots h) = []
  have hsource : (draftTree sessionId draftTreeId requestId roots h).source =
      (draftRequest sessionId draftTreeId requestId roots h).publisher := rfl
  rw [DefaultTaskPublisher.validateRequestTree, if_neg (not_not.mpr hsource), List.nil_append,
    List.flatMap_eq_nil_iff]
  intro m hm
  obtain ⟨node, hnode, children, rfl⟩ := hwalk.nodes m hm
  obtain ⟨hintent, hcapability⟩ := hfilled node (hperm.mem_iff.mp hnode)
  show (if isBlank node.1.intent = true then _ else []) ++
    (if isBlank node.1.requiredCapability = true then _ else []) = []
  rw [hintent, hcapability]
  rfl

end

/-! ### Mappings -/

section

variable {sessionId draftTreeId publishCommandId : String} {ids : Dict String String}
  {clock : ℕ → DateTime}

theorem draftMappings_ne_missingKey {key : String} : ∀ {nodes : List DraftTaskNode} {i : ℕ},
    (∀ node ∈ nodes, (ids.get? node.1.draftTaskId).isSome = true) →
      draftMappings sessionId draftTreeId publishCommandId ids clock i nodes ≠
        .error (.missingKey key) := by
  intro nodes
  induction nodes with
  | nil => intro i _ h; cases h
  | cons node nodes ih =>
    intro i hall h
    obtain ⟨taskId, htask⟩ := Option.isSome_iff_exists.mp (hall node List.mem_cons_self)
    have hrest := ih (i := i + 1) fun n hn => hall n (List.mem_cons_of_mem node hn)
    rw [draftMappings, htask] at h
    dsimp only at h
    rw [draftMapping] at h
    split at h
    · generalize hmore : draftMappings _ _ _ _ _ _ _ = more at h hrest
      cases more with
      | error e =>
        cases h
        exact hrest rfl
      | ok mappings => cases h
    · cases h

theorem draftMapping_ok {draftTaskId taskId : String} (now : DateTime) (hsession : sessionId ≠ "")
    (htree : draftTreeId ≠ "") (hdraft : draftTaskId ≠ "") (htask : taskId ≠ "")
    (hcommand : publishCommandId ≠ "") :
    ∃ mapping, draftMapping sessionId draftTreeId draftTaskId taskId publishCommandId now =
        .ok mapping ∧ mapping.draftTaskId = draftTaskId ∧ mapping.taskId = taskId :=
  ⟨_, dif_pos ⟨hsession, htree, hdraft, htask, hcommand⟩, rfl, rfl⟩

theorem draftMappings_ok (clock : ℕ → DateTime) (f : String → String) (hsession : sessionId ≠ "")
    (htree : draftTreeId ≠ "") (hcommand : publishCommandId ≠ "") :
    ∀ (nodes : List DraftTaskNode) (i : ℕ),
      (∀ node ∈ nodes, ids.get? (draftId node) = some (f (draftId node)) ∧ f (draftId node) ≠ "") →
        ∃ mappings,
          draftMappings sessionId draftTreeId publishCommandId ids clock i nodes = .ok mappings ∧
          mappings.map DraftToPublishedMapping.draftTaskId = nodes.map draftId ∧
          mappings.map DraftToPublishedMapping.taskId = (nodes.map draftId).map f := by
  intro nodes
  induction nodes with
  | nil => intro i _; exact ⟨[], rfl, rfl, rfl⟩
  | cons node nodes ih =>
    intro i hall
    obtain ⟨htask, hne⟩ := hall node List.mem_cons_self
    obtain ⟨mappings, hmappings, hdrafts, htasks⟩ :=
      ih (i + 1) fun n hn => hall n (List.mem_cons_of_mem node hn)
    obtain ⟨mapping, hmapping, hdraft, hid⟩ := draftMapping_ok (clock i) hsession htree
      node.2.draftTaskId hne hcommand
    refine ⟨mapping :: mappings, ?_, ?_, ?_⟩
    · rw [draftMappings, htask]
      dsimp only
      rw [hmapping, hmappings]
      rfl
    · rw [List.map_cons, List.map_cons, hdraft, hdrafts]
    · rw [List.map_cons, List.map_cons, List.map_cons, hid, htasks]

end

/-! ### The nodes of a tree that the store has -/

namespace SqliteDraftTaskStore

variable {s : SqliteDraftTaskStore} {sessionId draftTreeId : String}

theorem mem_rowsOf {row : DraftNodeRow} : row ∈ s.rowsOf sessionId draftTreeId ↔
    row ∈ s.nodes.values ∧ row.sessionId = sessionId ∧ row.draftTreeId = draftTreeId := by
  rw [rowsOf, List.mem_filter, decide_eq_true_iff]

theorem exists_rowsOf (s : SqliteDraftTaskStore) (sessionId draftTreeId : String) :
    ∃ l : List DraftTaskNode, s.rowsOf sessionId draftTreeId = l.map .ofNode :=
  exists_map_ofNode fun _ hrow => exists_ofNode (mem_rowsOf.mp hrow).1

theorem listNodes_eq {l : List DraftTaskNode}
    (hrows : s.rowsOf sessionId draftTreeId = l.map .ofNode)
    (htree : (s.trees.get? (sessionId, draftTreeId)).isSome = true) :
    s.listNodes sessionId draftTreeId = if ∀ node ∈ l, ReadsBack node then
      .ok (sortOn (fun node => (DraftNodeRow.ofNode node).treeOrder) l)
      else .error .invalidRow := by
  obtain ⟨row, hrow⟩ := Option.isSome_iff_exists.mp htree
  have hrequire : s.requireTree sessionId draftTreeId = .ok row := by rw [requireTree, hrow]
  rw [listNodes, hrequire, hrows]
  exact mapM_sortOn_ofNode DraftNodeRow.treeOrder l

/-- **The nodes of a tree are a forest.** -/
theorem Forested.forest_tree (hs : s.Forested) {l : List DraftTaskNode}
    (hrows : s.rowsOf sessionId draftTreeId = l.map .ofNode) : Forest draftId draftParent l := by
  have hkeys : ∀ row ∈ s.rowsOf sessionId draftTreeId,
      rowKey row = (sessionId, draftTreeId, row.draftTaskId) := by
    intro row hrow
    obtain ⟨-, hsession, htree⟩ := mem_rowsOf.mp hrow
    exact Prod.ext hsession (Prod.ext htree rfl)
  refine ⟨?_, ?_⟩
  · have hnodup : ((s.rowsOf sessionId draftTreeId).map rowKey).Nodup :=
      s.nodup_rowKey.sublist (List.filter_sublist.map _)
    rw [List.map_congr_left hkeys, hrows, List.map_map] at hnodup
    refine List.Nodup.of_map (fun i => (sessionId, draftTreeId, i)) ?_
    rw [List.map_map]
    exact hnodup
  · let inTree : String × String × String → Bool := fun k => k.1 = sessionId ∧ k.2.1 = draftTreeId
    have hfirst := hs.forest.parentsFirst.filter inTree fun e he hin q hq => by
      obtain ⟨row, -, rfl⟩ := List.mem_map.mp he
      obtain ⟨parent, -, rfl⟩ := Option.map_eq_some_iff.mp hq
      exact hin
    have hempty : {x : String × String × String | x ∈ (∅ : Set _) ∧ inTree x = true} ⊆ ∅ :=
      fun x hx => hx.1
    have hmap := (hfirst.mono hempty).map fun k => k.2.2
    rw [Set.image_empty] at hmap
    have hlinks : (links rowKey rowParent s.nodes.values).filter (fun e => inTree e.1) =
        links rowKey rowParent (l.map .ofNode) := by
      rw [← hrows, rowsOf, links, links, List.filter_map]
      rfl
    rw [hlinks, links, List.map_map, List.map_map] at hmap
    have hsame : links draftId draftParent l = l.map fun node =>
        ((rowKey (.ofNode node)).2.2, (rowParent (.ofNode node)).map fun k => k.2.2) := by
      refine List.map_congr_left fun node _ => Prod.ext rfl ?_
      show draftParent node = ((draftParent node).map _).map _
      rw [Option.map_map]
      exact Option.map_id.symm ▸ rfl
    rw [hsame]
    exact hmap

theorem Forested.createdAt_utc (hs : s.Forested) {node : DraftTaskNode} (hstands : s.Stands node)
    (hread : ReadsBack node) (hparent : draftParent node ≠ none) :
    ∃ d, node.1.createdAt = Moment.utc d := by
  obtain ⟨d, hd⟩ := hs.utc _ (stands_iff.mp hstands) hparent
  refine ⟨d, ?_⟩
  have hleft := Moment.parse_isoformat hread.1
  have hright := Moment.parse_isoformat (Moment.wholeMinutes_utc d)
  rw [show node.1.createdAt.isoformat = (Moment.utc d).isoformat from hd, hright] at hleft
  exact (Option.some.inj hleft).symm

/-- **The nodes that the store lists** are the nodes of a forest. -/
theorem Forested.draftNodes (hs : s.Forested) {nodes : List DraftTaskNode}
    (hlist : s.listNodes sessionId draftTreeId = .ok nodes) :
    DraftNodes nodes ∧ (nodes.map .ofNode).Perm (s.rowsOf sessionId draftTreeId) := by
  obtain ⟨hnodes, hread⟩ := listNodes_ok hlist
  have hperm : (nodes.map DraftNodeRow.ofNode).Perm (s.rowsOf sessionId draftTreeId) := by
    rw [hnodes]
    exact sortOn_perm _ _
  obtain ⟨row, htree, -⟩ := bind_eq_ok.mp hlist
  obtain ⟨l, hrows⟩ := s.exists_rowsOf sessionId draftTreeId
  have hl := listNodes_eq hrows (by rw [requireTree_ok htree]; rfl)
  rw [hlist] at hl
  refine ⟨⟨⟨l, ?_, hs.forest_tree hrows⟩, fun node hn hparent => ?_⟩, hperm⟩
  · split at hl
    · cases hl
      exact sortOn_perm _ _
    · cases hl
  · exact hs.createdAt_utc (stands_of_listNodes hlist hn) (hread node hn) hparent

end SqliteDraftTaskStore

/-! ### Times that read back -/

def DraftNodeRow.TimesRead (row : DraftNodeRow) : Prop :=
  (Moment.parse row.createdAt).isSome = true ∧ (Moment.parse row.updatedAt).isSome = true

theorem isSome_parse {m : Moment} : (Moment.parse m.isoformat).isSome = true ↔ m.WholeMinutes := by
  rw [Moment.parse_text]
  split <;> simp [*]

theorem timesRead_ofNode {node : DraftTaskNode} :
    (DraftNodeRow.ofNode node).TimesRead ↔ ReadsBack node :=
  and_congr isSome_parse isSome_parse

/-- A root that a call brings carries times that can be read back. -/
def DraftCall.BringsReadable : DraftCall → Prop
  | .createTree _ _ _ roots _ _ => ∀ root ∈ roots, ReadsBack root
  | _ => True

instance : DecidablePred DraftCall.BringsReadable
  | .createTree _ _ _ roots _ _ => inferInstanceAs (Decidable (∀ root ∈ roots, ReadsBack root))
  | .addNode .. | .updateNode .. | .markAccepted .. | .markPublished .. | .getTree .. |
    .listTrees .. | .listNodes .. | .listChildren .. | .getNode .. | .listForDraft .. |
    .listForTask .. => inferInstanceAs (Decidable True)

namespace SqliteDraftTaskStore

def AllRead (s : SqliteDraftTaskStore) : Prop := ∀ row ∈ s.nodes.values, row.TimesRead

variable {s s' : SqliteDraftTaskStore}

theorem AllRead.putNode (hs : s.AllRead) {node : DraftTaskNode} (h : ReadsBack node) :
    (s.putNode node).AllRead := by
  intro row hrow
  rcases Dict.mem_values_set hrow with rfl | hrow
  · exact timesRead_ofNode.mpr h
  · exact hs row hrow

theorem AllRead.insertRoots : ∀ {nodes : List DraftTaskNode} {s s' : SqliteDraftTaskStore},
    s.AllRead → (∀ node ∈ nodes, ReadsBack node) → s.insertRoots nodes = .ok s' → s'.AllRead := by
  intro nodes
  induction nodes with
  | nil =>
    intro s s' hs _ h
    cases h
    exact hs
  | cons node nodes ih =>
    intro s s' hs hall h
    obtain ⟨s₁, hinsert, h⟩ := bind_eq_ok.mp h
    obtain ⟨rfl, -⟩ := insertNode_ok hinsert
    exact ih (hs.putNode (hall node List.mem_cons_self))
      (fun n hn => hall n (List.mem_cons_of_mem node hn)) h

theorem readsBack_createdTree {draftTreeId : String} {clock : Clock} {sessionId : String}
    {roots : List DraftTaskNode} {title summary : Option String} {tree : DraftTaskTree}
    (hroots : ∀ root ∈ roots, ReadsBack root)
    (h : createdTree draftTreeId clock sessionId roots title summary = .ok tree) :
    ∀ root ∈ tree.1.rootNodes, ReadsBack root := by
  obtain ⟨normalized, hnormalized, h⟩ := bind_eq_ok.mp h
  have hcopies : ∀ node ∈ normalized, ReadsBack node := by
    intro node hnode
    obtain ⟨root, hroot, hcopy⟩ := exists_of_mem_mapM hnormalized node hnode
    have hfields := copyNode_eq_ok.mp hcopy
    rw [ReadsBack, hfields]
    exact hroots root hroot
  cases normalized with
  | nil => cases h
  | cons first rest =>
    obtain ⟨sorted, hsorted, h⟩ := bind_eq_ok.mp h
    rw [copyTree_eq_ok.mp h]
    intro root hroot
    rw [sortNodes_eq_ok hsorted] at hroot
    exact hcopies root (mem_sortOn.mp hroot)

theorem readsBack_requireNode {sessionId draftTaskId : String} {node : DraftTaskNode}
    (h : s.requireNode sessionId draftTaskId = .ok node) : ReadsBack node := by
  rw [requireNode] at h
  split at h
  · cases h
  · cases h
  · next node' hget =>
    cases h
    exact (getNode_ok hget).2

theorem createdAt_editedNode {node updated : DraftTaskNode} {draftTaskId : String}
    {patch : TaskNodePatch} {expected : ℤ} {now : DateTime}
    (h : editedNode node draftTaskId patch expected now = .ok updated) :
    updated.1.createdAt = node.1.createdAt ∧ updated.1.updatedAt = Moment.utc now := by
  obtain ⟨_, -, h⟩ := bind_eq_ok.mp h
  obtain ⟨_, -, h⟩ := bind_eq_ok.mp h
  obtain ⟨_, -, h⟩ := bind_eq_ok.mp h
  obtain ⟨_, -, h⟩ := bind_eq_ok.mp h
  obtain ⟨status, -, h⟩ := bind_eq_ok.mp h
  rw [copyNode_eq_ok.mp h]
  exact ⟨rfl, rfl⟩

theorem AllRead.updateRow (hs : s.AllRead) {node : DraftTaskNode} (hread : ReadsBack node)
    (h : s.updateRow node = .ok s') : s'.AllRead := by
  obtain ⟨_, -, h⟩ := bind_eq_ok.mp h
  obtain ⟨_, -, h⟩ := bind_eq_ok.mp h
  cases h
  split
  · exact hs.putNode hread
  · exact hs

theorem AllRead.markRows {status : DraftTaskStatus} {clock : Clock} : ∀ {nodes : List DraftTaskNode}
    {i : ℕ} {s s' : SqliteDraftTaskStore}, s.AllRead → (∀ node ∈ nodes, ReadsBack node) →
      markRows status clock i nodes s = .ok s' → s'.AllRead := by
  intro nodes
  induction nodes with
  | nil =>
    intro i s s' hs _ h
    cases h
    exact hs
  | cons node nodes ih =>
    intro i s s' hs hread h
    obtain ⟨marked, hmark, h⟩ := bind_eq_ok.mp h
    obtain ⟨s₁, hwrite, h⟩ := bind_eq_ok.mp h
    have hmarked : ReadsBack marked := by
      rw [ReadsBack, copyNode_eq_ok.mp hmark]
      exact ⟨(hread node List.mem_cons_self).1, Moment.wholeMinutes_utc _⟩
    exact ih (hs.updateRow hmarked hwrite) (fun n hn => hread n (List.mem_cons_of_mem node hn)) h

theorem AllRead.bumpTree (hs : s.AllRead) {sessionId draftTreeId : String} {now : DateTime}
    {tree : DraftTaskTree} (h : s.bumpTree sessionId draftTreeId now = .ok (tree, s')) :
    s'.AllRead := by
  rw [AllRead, (bumpTree_ok h).2.1]
  exact hs

theorem AllRead.transacted {α : Type} {wrap : α → DraftAnswer}
    {r : Except DraftStoreError (α × SqliteDraftTaskStore)} (hs : s.AllRead)
    (h : ∀ a s', r = .ok (a, s') → s'.AllRead) : (s.transacted wrap r).2.AllRead := by
  cases r with
  | error e => exact hs
  | ok r => exact h r.1 r.2 rfl

/-- **Times stay readable**, as long as the roots that are brought are. -/
theorem AllRead.step (hs : s.AllRead) {call : DraftCall} (hcall : call.BringsReadable) :
    (s.step call).2.AllRead := by
  cases call with
  | createTree draftTreeId clock sessionId roots title summary =>
    refine hs.transacted fun tree s' h => ?_
    obtain ⟨tree', hcreated, h⟩ := bind_eq_ok.mp h
    obtain ⟨s₁, hinsert, h⟩ := bind_eq_ok.mp h
    obtain ⟨s₂, hroots, h⟩ := bind_eq_ok.mp h
    cases h
    obtain ⟨_, -, hinsert⟩ := bind_eq_ok.mp hinsert
    obtain ⟨_, -, hinsert⟩ := bind_eq_ok.mp hinsert
    cases hinsert
    have hs₁ : (s.putTree (.ofTree tree)).AllRead := hs
    exact hs₁.insertRoots (readsBack_createdTree hcall hcreated) hroots
  | addNode clock sessionId draftTreeId node expected =>
    refine hs.transacted fun added s' h => ?_
    obtain ⟨normalized, hadded, h⟩ := bind_eq_ok.mp h
    obtain ⟨s₁, hinsert, h⟩ := bind_eq_ok.mp h
    obtain ⟨bumped, hbump, h⟩ := bind_eq_ok.mp h
    cases h
    obtain ⟨rfl, -⟩ := insertNode_ok hinsert
    have hread : ReadsBack added := by
      obtain ⟨_, -, hadded⟩ := bind_eq_ok.mp hadded
      obtain ⟨_, -, hadded⟩ := bind_eq_ok.mp hadded
      obtain ⟨_, -, hadded⟩ := bind_eq_ok.mp hadded
      obtain ⟨_, -, hadded⟩ := bind_eq_ok.mp hadded
      obtain ⟨_, -, hadded⟩ := bind_eq_ok.mp hadded
      rw [ReadsBack, copyNode_eq_ok.mp hadded]
      exact ⟨Moment.wholeMinutes_utc _, Moment.wholeMinutes_utc _⟩
    exact (hs.putNode hread).bumpTree hbump
  | updateNode clock sessionId draftTaskId patch expected =>
    refine hs.transacted fun updated s' h => ?_
    obtain ⟨node, hnode, h⟩ := bind_eq_ok.mp h
    obtain ⟨updated', hedit, h⟩ := bind_eq_ok.mp h
    obtain ⟨s₁, hwrite, h⟩ := bind_eq_ok.mp h
    obtain ⟨bumped, hbump, h⟩ := bind_eq_ok.mp h
    cases h
    have hread : ReadsBack updated :=
      ⟨(createdAt_editedNode hedit).1 ▸ (readsBack_requireNode hnode).1,
        (createdAt_editedNode hedit).2 ▸ Moment.wholeMinutes_utc _⟩
    exact (hs.updateRow hread hwrite).bumpTree hbump
  | markAccepted clock sessionId draftTreeId expected =>
    refine hs.transacted fun tree s' h => ?_
    obtain ⟨nodes, hnodes, h⟩ := bind_eq_ok.mp h
    obtain ⟨s₁, hmark, hbump⟩ := bind_eq_ok.mp h
    have hread := (listNodes_ok (acceptableNodes_listed hnodes)).2
    exact (hs.markRows (fun node hn => hread node (List.mem_of_mem_filter hn)) hmark).bumpTree hbump
  | markPublished clock sessionId draftTreeId mappings expected =>
    refine hs.transacted fun tree s' h => ?_
    obtain ⟨nodes, hnodes, h⟩ := bind_eq_ok.mp h
    obtain ⟨s₁, hmark, hbump⟩ := bind_eq_ok.mp h
    have hread := (listNodes_ok (publishableNodes_listed hnodes)).2
    have hs₁ := hs.markRows (fun node hn => hread node (List.mem_of_mem_filter hn)) hmark
    have hs₂ : (mappings.foldl insertMapping s₁).AllRead := by
      rw [AllRead, (foldl_insertMapping mappings s₁).2]
      exact hs₁
    exact hs₂.bumpTree hbump
  | _ => exact hs

theorem allRead_final (calls : List DraftCall) (h : ∀ call ∈ calls, call.BringsReadable) :
    (final step empty calls).AllRead :=
  final_invariant (I := AllRead) (A := DraftCall.BringsReadable)
    (fun _ _ hs hcall => hs.step hcall) calls empty (fun _ hrow => by cases hrow) h

end SqliteDraftTaskStore

/-! ### The publisher -/

namespace DefaultTaskPublisher

section

variable {B : Type} [TaskBus B] {U : Uuid5} {nodes walk : List DraftTaskNode}
  {roots : List NormalizedTaskNode} {sessionId draftTreeId : String} {env : DraftPublishEnv}

theorem exists_draftTaskId (h : DraftRequestOk sessionId draftTreeId env.requestId roots)
    (hwalk : Renders walk none roots) {node : DraftTaskNode} (hnode : node ∈ walk) :
    ∃ i, ((draftRequest sessionId draftTreeId env.requestId roots h).taskIdsForRequest U
      (draftTree sessionId draftTreeId env.requestId roots h) env.toPublishEnv).get?
      (draftId node) = some i ∧ i ≠ "" := by
  have hid :
      draftId node ∈ (NormalizedTaskNode.collectAll roots).map NormalizedTaskNode.nodeId := by
    rw [hwalk.ids]
    exact List.mem_map_of_mem hnode
  obtain ⟨m, hm, heq⟩ := List.mem_map.mp hid
  rw [← heq]
  have hnode' : m ∈ (draftTree sessionId draftTreeId env.requestId roots h).iterNodes := hm
  exact PublishRequest.exists_taskId U _ env.toPublishEnv hnode'

/-- **No node is without a task id**, whatever the bus does. -/
theorem publishDraftTree_ne_missingKey {s : SqliteDraftTaskStore} (hs : s.Forested) (b : B)
    (key : String) :
    (publishDraftTree U s b sessionId draftTreeId env).1 ≠ .error (.missingKey key) := by
  rw [publishDraftTree]
  cases hlist : s.listNodes sessionId draftTreeId with
  | error e => intro h; cases h
  | ok nodes =>
    dsimp only
    by_cases hempty : nodes.isEmpty = true
    · rw [if_pos hempty]
      intro h
      cases h
    rw [if_neg hempty]
    obtain ⟨roots, walk, hroots, hwalk, hperm⟩ := normalizedRoots_ok (hs.draftNodes hlist).1
    rw [hroots]
    dsimp only
    by_cases hok : DraftRequestOk sessionId draftTreeId env.requestId roots
    · rw [dif_pos hok, publishDraftRequest]
      rcases hpublish : publish U b (draftRequest sessionId draftTreeId env.requestId roots hok)
        env.toPublishEnv with ⟨e | result, b'⟩
      · intro h
        cases h
      · dsimp only
        rcases result_unkeyed (draftRequest_taskTree hok) rfl hpublish with hskip | ⟨hids, -⟩
        · rw [if_pos hskip]
          intro h
          cases h
        · split
          · intro h
            cases h
          · rw [hids]
            dsimp only
            intro h
            generalize hmore : draftMappings _ _ _ _ _ _ _ = more at h
            cases more with
            | error e =>
              cases h
              refine draftMappings_ne_missingKey (fun node hn => ?_) hmore
              obtain ⟨i, hi, -⟩ := exists_draftTaskId hok hwalk (hperm.mem_iff.mpr hn)
              rw [hi]
              rfl
            | ok mappings => cases h
    · rw [dif_neg hok]
      intro h
      cases h

end

section

open ShadowedBus AcceptingBus

/-- What a bus has to do with the ids that are drawn: they are new, and it can write the
place of a task among its siblings. -/
structure FreshIds {B : Type} [AcceptingBus B] (b : B) (sessionId : String) (env : PublishEnv)
    (n : ℕ) : Prop where
  injective : Function.Injective env.newId
  absent : ∀ i, TaskBus.get b sessionId (env.newId i) = .ok none
  fits : ∀ i < n, FitsOrder B i

variable {B : Type} [AcceptingBus B] {b : B} {m : InMemoryTaskBus} {U : Uuid5}

theorem absent_shadow (h : Shadow m b) {sessionId taskId : String}
    (habsent : TaskBus.get b sessionId taskId = .ok none) : m.get sessionId taskId = none := by
  cases hget : m.get sessionId taskId with
  | none => rfl
  | some t =>
    by_cases hread : Readable B t
    · rw [ShadowedBus.get_readable h hget hread] at habsent
      cases habsent
    · obtain ⟨-, e, he⟩ := ShadowedBus.get_broken h hget hread
      rw [he] at habsent
      cases habsent

section

variable {request : PublishRequest} {tree : NormalizedTaskTree} {env : PublishEnv}

theorem taskIds_wanted : (wanted U request tree env).1.map TaskDomain.taskId =
    (tree.iterNodes.map NormalizedTaskNode.nodeId).map fun i =>
      ((request.taskIdsForRequest U tree env).get? i).getD "" := by
  rw [wanted, PublishRequest.tasksForRequest, List.map_map, List.map_map]
  conv_rhs => rw [← List.zipIdx_map_fst 0 tree.iterNodes, List.map_map]
  rfl

/-- **The tasks of a request without a key** are published under their new ids. -/
theorem publishAll_wanted (U : Uuid5) (request : PublishRequest) (tree : NormalizedTaskTree)
    (env : PublishEnv) (h : Shadow m b) (hkey : request.idempotencyKey = none)
    (hfresh : FreshIds b request.sessionId env tree.iterNodes.length) :
    (publishAll b (wanted U request tree env).1).1 = .ok (wanted U request tree env).1 ∧
      ((wanted U request tree env).1.map TaskDomain.taskId).Nodup := by
  have hnodup : ((wanted U request tree env).1.map TaskDomain.taskId).Nodup := by
    rw [ids_fresh hkey]
    exact List.nodup_range.map hfresh.injective
  refine ⟨publishAll_fresh request.sessionId _ h (fun t ht => ?_) hnodup (parentsFirst_wanted tree)
    (fun k hk => by cases hk), hnodup⟩
  have hid : t.taskId ∈ (List.range tree.iterNodes.length).map env.newId := by
    rw [← ids_fresh (U := U) hkey]
    exact List.mem_map_of_mem ht
  obtain ⟨i, -, hi⟩ := List.mem_map.mp hid
  obtain ⟨node, n, hget, rfl⟩ := PublishRequest.mem_tasksForRequest.mp ht
  have hnode : node ∈ tree.iterNodes := List.mem_of_getElem? hget
  exact {
    valid := PublishRequest.valid_taskForNode hnode n
    pending := rfl
    session := rfl
    fits := hfresh.fits _ (tree.orderIndex_lt hnode)
    absent := hi ▸ absent_shadow h (hfresh.absent i) }

end

variable {s : SqliteDraftTaskStore} {sessionId draftTreeId : String} {env : DraftPublishEnv}
  {nodes : List DraftTaskNode}

/-- Every node that was listed gets a mapping, to a task of its own. -/
def MapsAll (result : TaskPublishResult) (nodes : List DraftTaskNode) : Prop :=
  result.mappings.map DraftToPublishedMapping.draftTaskId = nodes.map draftId ∧
    (result.mappings.map DraftToPublishedMapping.taskId).Nodup

theorem publishDraftTree_ok (hs : s.Forested)
    (hlist : s.listNodes sessionId draftTreeId = .ok nodes)
    (hfilled : ∀ node ∈ nodes, isBlank node.1.intent = false ∧
      isBlank node.1.requiredCapability = false)
    (h : Shadow m b) (hfresh : FreshIds b sessionId env.toPublishEnv nodes.length) :
    ∃ result, (publishDraftTree U s b sessionId draftTreeId env).1 = .ok result ∧
      MapsAll result nodes := by
  rw [publishDraftTree, hlist]
  dsimp only
  by_cases hempty : nodes = []
  · subst hempty
    exact ⟨_, rfl, rfl, List.nodup_nil⟩
  rw [if_neg (by simpa using hempty)]
  obtain ⟨hdraft, hrows⟩ := hs.draftNodes hlist
  obtain ⟨roots, walk, hroots, hwalk, hperm⟩ := normalizedRoots_ok hdraft
  obtain ⟨node, hnode⟩ := List.exists_mem_of_ne_nil nodes hempty
  -- The texts of the request are texts of its nodes.
  obtain ⟨-, hsession, htree⟩ := SqliteDraftTaskStore.mem_rowsOf.mp
    (hrows.mem_iff.mp (List.mem_map_of_mem hnode))
  have hsession' : sessionId ≠ "" := hsession ▸ node.2.sessionId
  have htree' : draftTreeId ≠ "" := htree ▸ node.2.draftTreeId
  have hok := DraftRequestOk.of_renders hdraft.nodup hempty hwalk hperm hsession' htree'
    env.requestId_ne
  rw [hroots]
  dsimp only
  rw [dif_pos hok, publishDraftRequest]
  have hlength : (draftTree sessionId draftTreeId env.requestId roots hok).iterNodes.length =
      nodes.length := by
    have hids := congrArg List.length hwalk.ids
    rw [List.length_map, List.length_map, hperm.length_eq] at hids
    exact hids
  have hpublish := publish_unkeyed (U := U) (b := b) (draftRequest_taskTree hok) rfl rfl
    env.toPublishEnv (preview_draftRequest hwalk hperm hok hfilled)
  obtain ⟨hall, hnodup⟩ := publishAll_wanted U
    (draftRequest sessionId draftTreeId env.requestId roots hok)
    (draftTree sessionId draftTreeId env.requestId roots hok) env.toPublishEnv h rfl
    (hlength.symm ▸ hfresh)
  rcases hrun : publishAll b (wanted U (draftRequest sessionId draftTreeId env.requestId roots hok)
    (draftTree sessionId draftTreeId env.requestId roots hok) env.toPublishEnv).1 with ⟨out, b'⟩
  rw [hrun] at hall hpublish
  obtain rfl := hall
  rw [hpublish]
  dsimp only
  rw [nodeTaskIds_published]
  obtain ⟨mappings, hmappings, hdrafts, htasks⟩ := draftMappings_ok env.publishedAt
    (fun i => (((draftRequest sessionId draftTreeId env.requestId roots hok).taskIdsForRequest U
      (draftTree sessionId draftTreeId env.requestId roots hok) env.toPublishEnv).get? i).getD "")
    hsession' htree' env.requestId_ne nodes 0
    fun n hn => by
      obtain ⟨i, hi, hne⟩ := exists_draftTaskId (U := U) hok hwalk (hperm.mem_iff.mpr hn)
      rw [hi]
      exact ⟨rfl, hne⟩
  refine ⟨_, congrArg (Except.map _) hmappings, hdrafts, ?_⟩
  -- The ids of the tasks are those of the walk, in the order of the listing.
  have hids : (nodes.map draftId).Perm
      ((draftTree sessionId draftTreeId env.requestId roots hok).iterNodes.map
        NormalizedTaskNode.nodeId) := by
    have hsame : (draftTree sessionId draftTreeId env.requestId roots hok).iterNodes.map
        NormalizedTaskNode.nodeId = walk.map draftId := hwalk.ids
    rw [hsame]
    exact (hperm.map draftId).symm
  rw [taskIds_wanted] at hnodup
  rw [htasks]
  exact (hids.map _).nodup_iff.mpr hnodup

/-- Every row of a tree gets one mapping, to a task of its own. -/
def MapsRows (result : TaskPublishResult) (rows : List DraftNodeRow) : Prop :=
  (result.mappings.map DraftToPublishedMapping.draftTaskId).Perm
      (rows.map DraftNodeRow.draftTaskId) ∧
    (result.mappings.map DraftToPublishedMapping.taskId).Nodup

/-- **A tree is published as a whole**, exactly if the times of its nodes can be read. -/
theorem mapsRows_iff (hs : s.Forested)
    (htree : (s.trees.get? (sessionId, draftTreeId)).isSome = true)
    (hfilled : ∀ row ∈ s.rowsOf sessionId draftTreeId, isBlank row.intent = false ∧
      isBlank row.requiredCapability = false)
    (h : Shadow m b)
    (hfresh : FreshIds b sessionId env.toPublishEnv (s.rowsOf sessionId draftTreeId).length) :
    (∃ result, (publishDraftTree U s b sessionId draftTreeId env).1 = .ok result ∧
        MapsRows result (s.rowsOf sessionId draftTreeId)) ↔
      ∀ row ∈ s.rowsOf sessionId draftTreeId, row.TimesRead := by
  obtain ⟨l, hrows⟩ := s.exists_rowsOf sessionId draftTreeId
  have hlist := SqliteDraftTaskStore.listNodes_eq hrows htree
  have hread : (∀ row ∈ s.rowsOf sessionId draftTreeId, row.TimesRead) ↔
      ∀ node ∈ l, ReadsBack node := by
    rw [hrows, List.forall_mem_map]
    exact forall₂_congr fun node _ => timesRead_ofNode
  rw [hread]
  constructor
  · rintro ⟨result, hok, -⟩
    by_contra hno
    rw [publishDraftTree, hlist, if_neg hno] at hok
    cases hok
  · intro hall
    rw [if_pos hall] at hlist
    generalize sortOn (fun node => (DraftNodeRow.ofNode node).treeOrder) l = nodes at hlist
    have hperm := (hs.draftNodes hlist).2
    have hlength := hperm.length_eq
    rw [List.length_map] at hlength
    rw [← hlength] at hfresh
    have hfull : ∀ node ∈ nodes, isBlank node.1.intent = false ∧
        isBlank node.1.requiredCapability = false :=
      fun node hn => hfilled (.ofNode node) (hperm.mem_iff.mp (List.mem_map_of_mem hn))
    obtain ⟨result, hok, hdrafts, hnodup⟩ := publishDraftTree_ok (U := U) hs hlist hfull h hfresh
    refine ⟨result, hok, ?_, hnodup⟩
    have hids := hperm.map DraftNodeRow.draftTaskId
    rw [List.map_map] at hids
    rw [hdrafts]
    exact hids

end

end DefaultTaskPublisher

theorem PublishEnv.sample_injective : Function.Injective PublishEnv.sample.newId := by
  intro n n' h
  have hlists := congrArg (fun s => s.toList.length) h
  simpa [PublishEnv.sample] using hlists

theorem sample_requestId_ne : "request" ≠ "" := by decide

def DraftPublishEnv.sample : DraftPublishEnv where
  toPublishEnv := .sample
  requestId := "request"
  requestId_ne := sample_requestId_ne
  publishedAt _ := .noon

namespace SqliteDraftTaskStore

open DefaultTaskPublisher

/-- **Drafts are forests, and are published as a whole.**  After any calls the parent of a
node is a node of its tree, and its parents lead to a root; the roots of a tree are in
different places; the version of a tree counts the calls that changed it.  No node that is
published is without a task id, and a tree whose nodes are filled in gets a mapping for
each of them, exactly if the times of its nodes can be read.  They can in a run whose
roots come with times that can. -/
theorem draft_forest (calls : List DraftCall) :
    let s := final step empty calls
    (∀ row ∈ s.nodes.values,
      (∀ p, row.parentDraftTaskId = some p → ∃ parent ∈ s.nodes.values,
        parent.draftTaskId = p ∧ parent.sessionId = row.sessionId ∧
          parent.draftTreeId = row.draftTreeId) ∧
      ∃ root ∈ s.nodes.values, ReflTransGen (Child rowKey rowParent s.nodes.values) row root ∧
        root.parentDraftTaskId = none) ∧
    (∀ k, (rootOrders s.places k).Nodup) ∧
    (∀ k row, s.trees.get? k = some row → row.version - 1 = changes k empty calls) ∧
    (∀ {B : Type} [TaskBus B] (U : Uuid5) (b : B) sessionId draftTreeId env key,
      (publishDraftTree U s b sessionId draftTreeId env).1 ≠ .error (.missingKey key)) ∧
    (∀ {B : Type} [AcceptingBus B] (U : Uuid5) {m : InMemoryTaskBus} {b : B} {sessionId draftTreeId}
      {env : DraftPublishEnv}, ShadowedBus.Shadow m b →
      (s.trees.get? (sessionId, draftTreeId)).isSome = true →
      (∀ row ∈ s.rowsOf sessionId draftTreeId, isBlank row.intent = false ∧
        isBlank row.requiredCapability = false) →
      FreshIds b sessionId env.toPublishEnv (s.rowsOf sessionId draftTreeId).length →
      ((∃ result, (publishDraftTree U s b sessionId draftTreeId env).1 = .ok result ∧
          MapsRows result (s.rowsOf sessionId draftTreeId)) ↔
        ∀ row ∈ s.rowsOf sessionId draftTreeId, row.TimesRead)) ∧
    ((∀ call ∈ calls, call.BringsReadable) → ∀ row ∈ s.nodes.values, row.TimesRead) := by
  intro s
  have hs : s.Forested := forested_final calls
  refine ⟨fun row hrow => ⟨fun p hp => ?_, ?_⟩, hs.orders, fun k row hrow => ?_,
    fun U b sessionId draftTreeId env key => publishDraftTree_ne_missingKey hs b key,
    fun U m b sessionId draftTreeId env h htree hfilled hfresh =>
      mapsRows_iff hs htree hfilled h hfresh,
    fun hcalls => allRead_final calls hcalls⟩
  · obtain ⟨parent, hparent, htree⟩ := hs.parent hrow hp
    obtain ⟨hsession, hid⟩ := Prod.mk.inj (s.nodes_ok _ parent hparent).1
    exact ⟨parent, Dict.mem_values.mpr ⟨_, hparent⟩, hid, hsession, htree⟩
  · obtain ⟨root, hroot, hchain, hnone⟩ := exists_root hs.forest.parentsFirst row hrow
    exact ⟨root, hroot, hchain, Option.map_eq_none_iff.mp hnone⟩
  · rw [version_final calls hrow, Nat.add_sub_cancel]

/-! ### A root with an offset of seconds -/

theorem zero_lt_day : (30000000 : ℤ).natAbs < 86400000000 := by decide

/-- Noon, thirty seconds ahead of UTC. -/
def oddNoon : Moment := ⟨DateTime.noon, some ⟨30000000, zero_lt_day⟩⟩

def oddFields : DraftTaskFields where
  draftTaskId := "n1"
  sessionId := "s1"
  draftTreeId := "placeholder"
  title := "Trip"
  intent := "Plan a trip"
  requiredCapability := "planning"
  createdAt := oddNoon
  updatedAt := oddNoon

theorem oddFields_valid : oddFields.Valid := by decide

theorem oddNode_valid : (rootFields "s1" "t1" ⟨oddFields, oddFields_valid⟩).Valid := by decide

/-- The root in its tree. -/
def oddNode : DraftTaskNode :=
  ⟨rootFields "s1" "t1" ⟨oddFields, oddFields_valid⟩, oddNode_valid⟩

/-- Create a tree with this root. -/
def createOdd : DraftCall :=
  .createTree "t1" (fun _ => DateTime.noon) "s1" [⟨oddFields, oddFields_valid⟩] none none

/-- **A tree whose node cannot be read** is created, and then cannot be published. -/
theorem odd_tree_unpublished :
    (empty.step createOdd).1.isOk = true ∧
      (∀ row ∈ (final step empty [createOdd]).rowsOf "s1" "t1",
        isBlank row.intent = false ∧ isBlank row.requiredCapability = false) ∧
      (publishDraftTree Uuid5.sample (final step empty [createOdd]) InMemoryTaskBus.empty "s1" "t1"
        DraftPublishEnv.sample).1 = .error (.store .invalidRow) := by
  have hrows : (final step empty [createOdd]).rowsOf "s1" "t1" = [oddNode].map .ofNode := by decide
  have hlist := listNodes_eq hrows (by decide)
  refine ⟨by decide, by decide, ?_⟩
  rw [publishDraftTree, hlist, if_neg (by decide)]

/-- A tree with two roots is created and published, five tasks in all. -/
theorem draft_forest_published :
    ((final step empty InMemoryDraftTaskStore.nestedCalls).rowsOf "s1" "t1").length = 5 ∧
    ∃ result, (publishDraftTree Uuid5.sample (final step empty InMemoryDraftTaskStore.nestedCalls)
        InMemoryTaskBus.empty "s1" "t1" DraftPublishEnv.sample).1 = .ok result ∧
      MapsRows result ((final step empty InMemoryDraftTaskStore.nestedCalls).rowsOf "s1" "t1") := by
  have hforest := draft_forest InMemoryDraftTaskStore.nestedCalls
  have hread := hforest.2.2.2.2.2 (by decide)
  refine ⟨by decide +kernel, (hforest.2.2.2.2.1 Uuid5.sample shadow_inMemory_empty
    (by decide +kernel) (by decide +kernel) ?_).mpr ?_⟩
  · exact ⟨PublishEnv.sample_injective, fun i => rfl, fun i _ => trivial⟩
  · intro row hrow
    exact hread row (mem_rowsOf.mp hrow).1

end SqliteDraftTaskStore

end Taskweavn

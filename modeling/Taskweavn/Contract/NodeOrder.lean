import Taskweavn.Contract.TaskNodeCommands
import Taskweavn.Task.PlanPublisher

/-!
# The place of a new node

A node that is created after another one gets the next order index, and the later nodes keep
theirs.  The nodes of a plan are listed by order index, and then by task index, which is
compared as text (`taskweavn/contract_revision/tasknode_commands.py`,
`taskweavn/task/sqlite_plan_store.py`).  The publisher puts them into the same order.

The list of a plan gets the new node between those that are before it and those that are after
it in this order (`nodesOf_added`).  So the new node comes right behind the one that it was
created for exactly when there is `RoomAfter` that one (`placed_iff`).
-/

namespace Taskweavn

open Lib Py

/-- There is no node behind `x` that a new node after `x` would come behind, too. -/
def RoomAfter (nodes : List PlanTaskNode) (x : PlanTaskNode) : Prop :=
  ∀ y ∈ nodes, (y.orderIndex = x.orderIndex → y.planOrder ≤ x.planOrder) ∧
    (y.orderIndex = x.orderIndex + 1 → nextTaskIndex nodes < y.taskIndex)

instance (nodes : List PlanTaskNode) (x : PlanTaskNode) : Decidable (RoomAfter nodes x) := by
  unfold RoomAfter
  infer_instance

/-- A list with the new node in its place, and the others as they were. -/
def InsertedAt (before after : List PlanTaskNode) (node : PlanTaskNode)
    (afterTaskNodeId : Option String) : Prop :=
  ∃ front rest, before = front ++ rest ∧ after = front ++ node :: rest ∧
    (∀ i, afterTaskNodeId = some i → front.getLast?.map PlanTaskNode.taskNodeId = some i) ∧
    (afterTaskNodeId = none → rest = [])

structure NodePlaced (store store' : SqlitePlanStore) (node : PlanTaskNode)
    (afterTaskNodeId : Option String) : Prop where
  listed : InsertedAt (store.nodesOf node.sessionId node.planId)
    (store'.nodesOf node.sessionId node.planId) node afterTaskNodeId
  published : InsertedAt (orderedPlanNodes (store.nodesOf node.sessionId node.planId))
    (orderedPlanNodes (store'.nodesOf node.sessionId node.planId)) node afterTaskNodeId
  indexes : ((store'.nodesOf node.sessionId node.planId).map PlanTaskNode.taskIndex).Nodup

/-! ### The new node -/

theorem nodeForCreatePayload_place {request : ContractCommandRequest}
    {payload : CreateTaskNodePayload} {plan : Plan} {nodes : List PlanTaskNode}
    {readiness : PlanTaskNodeReadiness} {input : TaskNodeInput} {node : PlanTaskNode}
    (h : nodeForCreatePayload request payload plan nodes readiness input = .ok node) :
    nextOrderIndex nodes payload.afterTaskNodeId = .ok node.orderIndex ∧
      node.taskIndex = nextTaskIndex nodes := by
  unfold nodeForCreatePayload at h
  split at h
  · cases h
  · next orderIndex horder =>
    simp only at h
    split at h
    · cases h
      exact ⟨horder, rfl⟩
    · cases h

theorem nextOrderIndex_after {nodes : List PlanTaskNode} {i : String} {orderIndex : ℕ}
    (h : nextOrderIndex nodes (some i) = .ok orderIndex) :
    ∃ x ∈ nodes, x.taskNodeId = i ∧ orderIndex = x.orderIndex + 1 := by
  unfold nextOrderIndex at h
  simp only at h
  split at h
  · next x hfind =>
    cases h
    have hid := List.find?_some hfind
    exact ⟨x, List.mem_of_find?_eq_some hfind, beq_iff_eq.mp hid, rfl⟩
  · cases h

theorem le_foldl_max {l : List ℕ} : ∀ {m : ℕ}, m ≤ l.foldl max m ∧ ∀ n ∈ l, n ≤ l.foldl max m := by
  induction l with
  | nil => exact fun {m} => ⟨le_refl m, fun n hn => by cases hn⟩
  | cons k l ih =>
    intro m
    obtain ⟨hacc, hall⟩ := @ih (max m k)
    rw [List.foldl_cons]
    refine ⟨(le_max_left m k).trans hacc, fun n hn => ?_⟩
    rcases List.mem_cons.mp hn with rfl | hn
    · exact (le_max_right m n).trans hacc
    · exact hall n hn

theorem nextOrderIndex_last {nodes : List PlanTaskNode} {orderIndex : ℕ}
    (h : nextOrderIndex nodes none = .ok orderIndex) : ∀ y ∈ nodes, y.orderIndex < orderIndex := by
  intro y hy
  cases h
  rw [if_neg (List.ne_nil_of_mem hy)]
  exact Nat.lt_succ_of_le (le_foldl_max.2 _ (List.mem_map_of_mem hy))

theorem planOrder_lt_of_orderIndex {a b : PlanTaskNode} (h : a.orderIndex < b.orderIndex) :
    a.planOrder < b.planOrder :=
  Prod.Lex.toLex_lt_toLex.mpr (.inl h)

/-- **Room after `x`**, in terms of the order of a plan. -/
theorem roomAfter_iff {nodes : List PlanTaskNode} {x node : PlanTaskNode}
    (horder : node.orderIndex = x.orderIndex + 1) (hindex : node.taskIndex = nextTaskIndex nodes) :
    RoomAfter nodes x ↔
      ∀ y ∈ nodes, y.planOrder < node.planOrder → y.planOrder ≤ x.planOrder := by
  have hfree : ∀ y ∈ nodes, y.taskIndex ≠ node.taskIndex := by
    intro y hy heq
    refine nextTaskIndex_free nodes ?_
    rw [← hindex, ← heq]
    exact List.mem_map_of_mem hy
  constructor
  · intro hroom y hy hlt
    obtain ⟨hsame, hnext⟩ := hroom y hy
    rcases Prod.Lex.toLex_lt_toLex.mp hlt with hlow | ⟨heq, hlow⟩
    · change y.orderIndex < node.orderIndex at hlow
      rcases Nat.lt_or_ge y.orderIndex x.orderIndex with h | h
      · exact (planOrder_lt_of_orderIndex h).le
      · exact hsame (by omega)
    · change y.orderIndex = node.orderIndex at heq
      have habove := hnext (heq.trans horder)
      rw [← hindex] at habove
      rcases Prod.Lex.toLex_lt_toLex.mp hlow with hlow | ⟨hidx, -⟩
      · exact absurd hlow habove.asymm
      · exact absurd hidx (hfree y hy)
  · intro hall y hy
    constructor
    · intro hsame
      refine hall y hy (planOrder_lt_of_orderIndex ?_)
      omega
    · intro hnext
      rw [← hindex]
      by_contra hle
      have hlt : y.taskIndex < node.taskIndex := lt_of_le_of_ne (not_lt.mp hle) (hfree y hy)
      have hbelow : y.planOrder < node.planOrder :=
        Prod.Lex.toLex_lt_toLex.mpr (.inr ⟨hnext.trans horder.symm,
          Prod.Lex.toLex_lt_toLex.mpr (.inl hlt)⟩)
      have hx : x.planOrder < y.planOrder := planOrder_lt_of_orderIndex (by omega)
      exact absurd (hall y hy hbelow) (not_le.mpr hx)

namespace SqlitePlanStore

variable {store store' : SqlitePlanStore} {node : PlanTaskNode} {now : DateTime}

/-! ### The list of a plan -/

theorem orderedPlanNodes_nodesOf (store : SqlitePlanStore) (s p : String) :
    orderedPlanNodes (store.nodesOf s p) = store.nodesOf s p :=
  sortOn_eq_self (sortOn_pairwise _ _)

theorem nodup_planOrder (store : SqlitePlanStore) {s p : String} :
    ((store.nodesOf s p).map PlanTaskNode.planOrder).Nodup := by
  refine List.Nodup.of_map (fun o => (ofLex (ofLex o).2).2) ?_
  rw [List.map_map]
  exact store.nodup_nodesOf

theorem nodup_taskIndex (store : SqlitePlanStore) {s p : String} :
    ((store.nodesOf s p).map PlanTaskNode.taskIndex).Nodup := by
  have hids : (store.nodesOf s p).Pairwise (fun a b => a.taskNodeId ≠ b.taskNodeId) :=
    List.pairwise_map.mp store.nodup_nodesOf
  refine List.pairwise_map.mpr (hids.imp_of_mem ?_)
  intro a b ha hb hne heq
  obtain ⟨hgeta, hsa, hpa⟩ := mem_nodesOf.mp ha
  obtain ⟨hgetb, hsb, hpb⟩ := mem_nodesOf.mp hb
  have htaken := indexTaken_eq_false.mp (store.indexes_ok _ _ hgeta)
  exact hne (htaken _ b hgetb (hsb.trans hsa.symm) (hpb.trans hpa.symm) heq.symm).symm

theorem perm_nodesOf_added (h : store.Added node now store') :
    (store'.nodesOf node.sessionId node.planId).Perm
      (node :: store.nodesOf node.sessionId node.planId) := by
  have hnodup : ∀ st : SqlitePlanStore, (st.nodesOf node.sessionId node.planId).Nodup :=
    fun st => List.Nodup.of_map _ st.nodup_nodesOf
  have hnew : node ∉ store.nodesOf node.sessionId node.planId := by
    intro hmem
    have hget := (mem_nodesOf.mp hmem).1
    rw [h.fresh] at hget
    cases hget
  refine (List.perm_ext_iff_of_nodup (hnodup store')
    (List.nodup_cons.mpr ⟨hnew, hnodup store⟩)).mpr fun n => ?_
  rw [mem_nodesOf, h.nodes, List.mem_cons, mem_nodesOf]
  by_cases hkey : node.key = (node.sessionId, n.taskNodeId)
  · rw [if_pos hkey]
    constructor
    · rintro ⟨heq, -, -⟩
      exact .inl (Option.some.inj heq).symm
    · rintro (rfl | ⟨hget, -, -⟩)
      · exact ⟨rfl, rfl, rfl⟩
      · rw [← show node.taskNodeId = n.taskNodeId from congrArg Prod.snd hkey, h.fresh] at hget
        cases hget
  · rw [if_neg hkey]
    refine ⟨.inr, ?_⟩
    rintro (rfl | hold)
    · exact absurd rfl hkey
    · exact hold

/-- **The list of the plan of a new node.** -/
theorem nodesOf_added (h : store.Added node now store') :
    store'.nodesOf node.sessionId node.planId =
      (store.nodesOf node.sessionId node.planId).filter
        (fun n => n.planOrder < node.planOrder) ++
      node :: (store.nodesOf node.sessionId node.planId).filter
        (fun n => node.planOrder < n.planOrder) := by
  have hperm := perm_nodesOf_added h
  have hnodup : ((node :: store.nodesOf node.sessionId node.planId).map
      PlanTaskNode.planOrder).Nodup :=
    (hperm.map _).nodup_iff.mp store'.nodup_planOrder
  have hinsert := sortOn_insert hperm hnodup
  rwa [show sortOn PlanTaskNode.planOrder (store'.nodesOf node.sessionId node.planId) = _ from
    orderedPlanNodes_nodesOf store' _ _, show sortOn PlanTaskNode.planOrder
    (store.nodesOf node.sessionId node.planId) = _ from
      orderedPlanNodes_nodesOf store _ _] at hinsert

/-- **An accepted creation inverted**, with the place that was computed. -/
theorem createTaskNode_place {request : ContractCommandRequest} {payload : CreateTaskNodePayload}
    {input : TaskNodeInput} {o : ContractTaskNodeCommandOutcome}
    (h : store.createTaskNode request payload input = (some o, store'))
    (hacc : o.accepted = true) :
    ∃ node, o.taskNode = some node ∧ store.Added node input.now store' ∧
      nextOrderIndex (store.nodesOf node.sessionId node.planId) payload.afterTaskNodeId =
        .ok node.orderIndex ∧
      node.taskIndex = nextTaskIndex (store.nodesOf node.sessionId node.planId) := by
  unfold createTaskNode at h
  split at h
  · next ho =>
    cases h
    rw [not_accepted_target ho] at hacc
    cases hacc
  next plan _ =>
  split at h
  · rw [not_accepted_failure (congrArg Prod.fst h)] at hacc
    cases hacc
  next nodes hlist =>
  split at h
  · rw [not_accepted_failure (congrArg Prod.fst h)] at hacc
    cases hacc
  next node hnode =>
  obtain ⟨hs, hp, -⟩ := nodeForCreatePayload_ok hnode
  obtain ⟨horder, hindex⟩ := nodeForCreatePayload_place hnode
  have hnodes : nodes = store.nodesOf node.sessionId node.planId := by
    unfold listTaskNodes at hlist
    split at hlist
    · cases hlist
    · cases hlist
      rw [hs, hp]
  rw [hnodes] at horder hindex
  rcases outcomeOf_add_cases h with ⟨-, hno⟩ | ⟨hout, hadded⟩
  · rw [hno o rfl] at hacc
    cases hacc
  · cases hout
    exact ⟨node, rfl, hadded, horder, hindex⟩

/-! ### The place of the new node -/

theorem front_unique {front front' rest rest' : List PlanTaskNode}
    (h : front ++ node :: rest = front' ++ node :: rest') (hfront : node ∉ front)
    (hfront' : node ∉ front') : front = front' := by
  have htake : ∀ {a b : List PlanTaskNode}, node ∉ a →
      (a ++ node :: b).takeWhile (fun n => n ≠ node) = a := by
    intro a b ha
    rw [List.takeWhile_append_of_pos, List.takeWhile_cons_of_neg, List.append_nil]
    · simp
    · intro n hn
      exact decide_eq_true fun heq => ha (heq ▸ hn)
  rw [← htake (b := rest) hfront, h, htake hfront']

/-- **A new node is right behind the one that it was created for** exactly when there is room
after that one.  Without such a node it is the last one. -/
theorem placed_iff {request : ContractCommandRequest} {payload : CreateTaskNodePayload}
    {input : TaskNodeInput} {o : ContractTaskNodeCommandOutcome}
    (h : store.createTaskNode request payload input = (some o, store'))
    (hacc : o.accepted = true) (hnode : o.taskNode = some node) :
    NodePlaced store store' node payload.afterTaskNodeId ↔
      ∀ x ∈ store.nodesOf node.sessionId node.planId,
        payload.afterTaskNodeId = some x.taskNodeId →
          RoomAfter (store.nodesOf node.sessionId node.planId) x := by
  obtain ⟨n, hn, hadded, horder, hindex⟩ := createTaskNode_place h hacc
  obtain rfl : node = n := Option.some.inj (hnode.symm.trans hn)
  have hlist := nodesOf_added hadded
  have hpairs := sortOn_pairwise_lt
    (store.nodup_planOrder (s := node.sessionId) (p := node.planId))
  rw [show sortOn PlanTaskNode.planOrder (store.nodesOf node.sessionId node.planId) = _ from
    orderedPlanNodes_nodesOf store _ _] at hpairs
  -- the node in front of the new one, when there is an anchor
  have hanchor : ∀ x ∈ store.nodesOf node.sessionId node.planId,
      payload.afterTaskNodeId = some x.taskNodeId →
      (((store.nodesOf node.sessionId node.planId).filter
          (fun n => n.planOrder < node.planOrder)).getLast? = some x ↔
        RoomAfter (store.nodesOf node.sessionId node.planId) x) := by
    intro x hx hafter
    rw [hafter] at horder
    obtain ⟨x', hx', hid, hnext⟩ := nextOrderIndex_after horder
    obtain rfl : x' = x := List.inj_on_of_nodup_map store.nodup_nodesOf hx' hx hid
    rw [roomAfter_iff hnext hindex]
    exact getLast?_filter_eq_some_iff hpairs hx (planOrder_lt_of_orderIndex (by omega))
  constructor
  · rintro ⟨⟨front, rest, hbefore, hlisted, hfront, -⟩, -, -⟩ x hx hafter
    rw [← hanchor x hx hafter]
    have hnodup : (front ++ node :: rest).Nodup := by
      rw [← hlisted]
      exact List.Nodup.of_map _ store'.nodup_nodesOf
    have hfree : node ∉ front := by
      intro hmem
      exact (List.nodup_append.mp hnodup).2.2 node hmem node List.mem_cons_self rfl
    have hlow : node ∉ (store.nodesOf node.sessionId node.planId).filter
        (fun n => n.planOrder < node.planOrder) := by
      intro hmem
      exact absurd (of_decide_eq_true (List.mem_filter.mp hmem).2) (lt_irrefl _)
    have heq := front_unique (hlisted.symm.trans hlist) hfree hlow
    obtain ⟨y, hy, hid⟩ := Option.map_eq_some_iff.mp (hfront _ hafter)
    rw [heq] at hy
    have hmem : y ∈ store.nodesOf node.sessionId node.planId :=
      List.mem_of_mem_filter (List.mem_of_getLast? hy)
    rw [hy, List.inj_on_of_nodup_map store.nodup_nodesOf hmem hx hid]
  · intro hroom
    have hfree : ∀ y ∈ store.nodesOf node.sessionId node.planId, y.planOrder ≠ node.planOrder := by
      intro y hy heq
      have hnodup := ((perm_nodesOf_added hadded).map PlanTaskNode.planOrder).nodup_iff.mp
        store'.nodup_planOrder
      exact (List.nodup_cons.mp hnodup).1 (List.mem_map.mpr ⟨y, hy, heq⟩)
    have hinserted : InsertedAt (store.nodesOf node.sessionId node.planId)
        (store'.nodesOf node.sessionId node.planId) node payload.afterTaskNodeId := by
      refine ⟨_, _, ?_, hlist, ?_, ?_⟩
      · exact (filter_lt_append_filter (hpairs.imp le_of_lt) hfree).symm
      · intro i hafter
        have horder' := horder
        rw [hafter] at horder'
        obtain ⟨x, hx, rfl, -⟩ := nextOrderIndex_after horder'
        rw [(hanchor x hx hafter).mpr (hroom x hx hafter)]
        rfl
      · intro hafter
        rw [hafter] at horder
        refine List.filter_eq_nil_iff.mpr fun y hy => ?_
        have hlow := planOrder_lt_of_orderIndex (nextOrderIndex_last horder y hy)
        simpa using hlow.le
    refine ⟨hinserted, ?_, store'.nodup_taskIndex⟩
    rwa [orderedPlanNodes_nodesOf, orderedPlanNodes_nodesOf]

/-! ### Insertions into a plan of two nodes -/

/-- A plan with `a` in front of `b`. -/
def ordered : SqlitePlanStore :=
  (SqlitePlanStore.empty.createPlan .sample Plan.valid_sample
    [.sample "a" "1", { PlanTaskNode.sample "b" "2" with orderIndex := 1 }]).2

theorem session_scope_ok : scopeIdentityOk .session none none none none = true := rfl

def sampleRequest : ContractCommandRequest where
  commandId := "c"
  idempotencyKey := "k"
  commandKind := .createTaskNode
  workspaceId := "w"
  sessionId := "s"
  scopeKind := .session
  scope_ok := session_scope_ok

def samplePayload (afterTaskNodeId : String)
    (h : optText.accepts (some afterTaskNodeId) = true) : CreateTaskNodePayload where
  title := "new"
  intent := "new"
  afterTaskNodeId := some afterTaskNodeId
  fields_ok := by
    simp only [createFieldsOk, h, Bool.and_true]
    decide

def sampleNodeInput : TaskNodeInput := ⟨"q", "n", .noon, .noon, .noon, .noon, .afterNoon⟩

/-- The outcome of an insertion after `a`. -/
def insertedAfter (i : String) (h : optText.accepts (some i) = true) :
    Option ContractTaskNodeCommandOutcome × SqlitePlanStore :=
  ordered.createTaskNode sampleRequest (samplePayload i h) sampleNodeInput

/-- An insertion after the last node. -/
theorem placed_after_last : ∃ o node store',
    ordered.createTaskNode sampleRequest (samplePayload "b" rfl) sampleNodeInput =
      (some o, store') ∧ o.taskNode = some node ∧ NodePlaced ordered store' node (some "b") := by
  have hrun : ((insertedAfter "b" rfl).1.map fun o => (o.accepted, o.taskNode.map
      fun n => (n.sessionId, n.planId))) = some (true, some ("s", "p")) := by
    decide +kernel
  obtain ⟨o, ho, hacc⟩ := Option.map_eq_some_iff.mp hrun
  obtain ⟨node, hnode, hkey⟩ := Option.map_eq_some_iff.mp (congrArg Prod.snd hacc)
  have h : ordered.createTaskNode sampleRequest (samplePayload "b" rfl) sampleNodeInput =
    (some o, (insertedAfter "b" rfl).2) := Prod.ext ho rfl
  refine ⟨o, node, _, h, hnode, (placed_iff h (congrArg Prod.fst hacc) hnode).mpr ?_⟩
  rw [show node.sessionId = "s" from congrArg Prod.fst hkey,
    show node.planId = "p" from congrArg Prod.snd hkey]
  have hroom : ∀ x ∈ ordered.nodesOf "s" "p", some "b" = some x.taskNodeId →
      RoomAfter (ordered.nodesOf "s" "p") x := by
    decide +kernel
  exact hroom

/-- A node that is inserted after `a` comes behind `b`. -/
theorem inserted_behind : ¬∀ (store store' : SqlitePlanStore) (request : ContractCommandRequest)
    (payload : CreateTaskNodePayload) (input : TaskNodeInput)
    (o : ContractTaskNodeCommandOutcome) (node : PlanTaskNode),
    store.createTaskNode request payload input = (some o, store') → o.accepted = true →
    o.taskNode = some node → NodePlaced store store' node payload.afterTaskNodeId := by
  intro hall
  have hrun : ((insertedAfter "a" rfl).1.map fun o => (o.accepted, o.taskNode.map
      fun n => (n.sessionId, n.planId, n.taskNodeId))) = some (true, some ("s", "p", "n")) := by
    decide +kernel
  obtain ⟨o, ho, hacc⟩ := Option.map_eq_some_iff.mp hrun
  obtain ⟨node, hnode, hkey⟩ := Option.map_eq_some_iff.mp (congrArg Prod.snd hacc)
  have h : ordered.createTaskNode sampleRequest (samplePayload "a" rfl) sampleNodeInput =
    (some o, (insertedAfter "a" rfl).2) := Prod.ext ho rfl
  obtain ⟨front, rest, hbefore, hafter, hfront, -⟩ :=
    (hall _ _ _ _ _ o node h (congrArg Prod.fst hacc) hnode).listed
  rw [show node.sessionId = "s" from congrArg Prod.fst hkey,
    show node.planId = "p" from congrArg (·.2.1) hkey] at hbefore hafter
  have hids : (ordered.nodesOf "s" "p").map PlanTaskNode.taskNodeId = ["a", "b"] := by
    decide +kernel
  have hids' : ((insertedAfter "a" rfl).2.nodesOf "s" "p").map PlanTaskNode.taskNodeId =
      ["a", "b", "n"] := by
    decide +kernel
  have hlast := hfront "a" rfl
  rw [← List.getLast?_map] at hlast
  rw [hbefore, List.map_append] at hids
  rw [hafter, List.map_append, List.map_cons, show node.taskNodeId = "n" from
    congrArg (·.2.2) hkey] at hids'
  generalize front.map PlanTaskNode.taskNodeId = ids at hids hids' hlast
  generalize rest.map PlanTaskNode.taskNodeId = ids' at hids hids'
  obtain ⟨ids, rfl⟩ := List.getLast?_eq_some_iff.mp hlast
  -- `a` is the first of the ids, so that `b` would be in front of `n`
  rcases ids with _ | ⟨x, _ | ⟨y, ids⟩⟩
  · obtain rfl : ids' = ["b"] := by simpa using hids
    exact absurd hids' (by decide)
  · simp at hids
  · simp at hids

end SqlitePlanStore

end Taskweavn

import Taskweavn.Task.CollaboratorPublish
import Taskweavn.Task.PlanFromDraft

/-!
# The validator of a draft tree

`DraftTaskTreeValidator` (`taskweavn/task/authoring.py`) checks a draft tree before
`_publish_draft_tree` hands it to the publisher (`taskweavn/task/authoring_service.py`).  The tree
that it is given has its root nodes only: `validate_tree` checks these, counts these, and does not
read `max_depth`.  The publisher lists the nodes of every depth, and refuses those with a blank
intent.

* `validateTree_roots`: a tree without errors has roots that pass `_validate_node_content`.
* `preview_intents`: what is published has no blank intent, at any depth.
* `fullyValidated_iff`: an accepted publication is of a tree that is validated as a whole exactly
  if the nodes below its roots happen to be what the validator would have asked of them.
-/

namespace Taskweavn

open Lib Py

/-! ### Issues -/

inductive DraftTaskValidationSeverity
  | error
  | warning
deriving DecidableEq, Repr

structure DraftTaskValidationIssue where
  code : String
  message : String
  severity : DraftTaskValidationSeverity := .error
  draftTaskId : Option String := none
deriving DecidableEq

/-- `_issue` -/
def draftIssue (code message : String) (node : Option DraftTaskNode) :
    DraftTaskValidationIssue where
  code := code
  message := message
  draftTaskId := node.map draftId

structure DraftTaskTreeValidation where
  draftTreeId : String
  errors : List DraftTaskValidationIssue := []
  warnings : List DraftTaskValidationIssue := []
deriving DecidableEq

/-- `valid` matches whether validation has errors. -/
def DraftTaskTreeValidation.valid (validation : DraftTaskTreeValidation) : Bool :=
  validation.errors.isEmpty

/-! ### The validator -/

structure DraftTaskTreeValidator where
  /-- `capability_catalog.contains` -/
  contains : String → Bool
  maxDepth : ℕ := 8
  maxNodes : ℕ := 100
  publishableStatuses : List DraftTaskStatus := [.draft, .accepted]
  /-- `repr` of a string. -/
  repr : String → String
  maxDepth_pos : 1 ≤ maxDepth
  maxNodes_pos : 1 ≤ maxNodes

namespace DraftTaskTreeValidator

variable (v : DraftTaskTreeValidator)

def validateNodeContent (node : DraftTaskNode) : List DraftTaskValidationIssue :=
  (if isBlank node.1.title then
    [draftIssue "empty_title" "title must not be blank" (some node)] else []) ++
  (if isBlank node.1.intent then
    [draftIssue "empty_intent" "intent must not be blank" (some node)] else []) ++
  (if isBlank node.1.requiredCapability then
    [draftIssue "empty_capability" "required_capability must not be blank" (some node)]
  else if !v.contains node.1.requiredCapability then
    [draftIssue "unknown_capability" ("unknown capability " ++ v.repr node.1.requiredCapability)
      (some node)]
  else []) ++
  (if node.1.status ∉ v.publishableStatuses then
    [draftIssue "status_not_publishable"
      ("draft task status " ++ v.repr node.1.status.text ++ " is not publishable") (some node)]
  else [])

/-- What is checked of a root, after the ids and the indexes of the roots before it. -/
def validateRoot (tree : DraftTaskTree) (seenIds : List String) (rootOrders : List ℕ)
    (node : DraftTaskNode) : List DraftTaskValidationIssue :=
  (if draftId node ∈ seenIds then
    [draftIssue "duplicate_node_id" ("duplicate draft task id " ++ v.repr (draftId node))
      (some node)] else []) ++
  (if node.1.sessionId ≠ tree.1.sessionId then
    [draftIssue "session_mismatch" "draft task session_id must match tree session_id" (some node)]
  else []) ++
  (if node.1.draftTreeId ≠ tree.1.draftTreeId then
    [draftIssue "tree_mismatch" "draft task draft_tree_id must match tree draft_tree_id"
      (some node)] else []) ++
  (if node.1.parentDraftTaskId.isSome then
    [draftIssue "root_parent" "root draft task must not have parent_draft_task_id" (some node)]
  else []) ++
  (if node.1.orderIndex ∈ rootOrders then
    [draftIssue "duplicate_sibling_order"
      ("duplicate root order_index " ++ toString node.1.orderIndex) (some node)] else []) ++
  v.validateNodeContent node

/-- The loop of `validate_tree`. -/
def validateRoots (tree : DraftTaskTree) :
    List String → List ℕ → List DraftTaskNode → List DraftTaskValidationIssue
  | _, _, [] => []
  | seenIds, rootOrders, node :: nodes =>
    v.validateRoot tree seenIds rootOrders node ++
      validateRoots tree (draftId node :: seenIds) (node.1.orderIndex :: rootOrders) nodes

def validateTree (tree : DraftTaskTree) : DraftTaskTreeValidation where
  draftTreeId := tree.1.draftTreeId
  errors :=
    (if v.maxNodes < tree.1.rootNodes.length then
      [draftIssue "max_nodes_exceeded"
        ("draft tree has " ++ toString tree.1.rootNodes.length ++ " nodes, max is " ++
          toString v.maxNodes) none] else []) ++
    v.validateRoots tree [] [] tree.1.rootNodes
  warnings :=
    if v.maxNodes ≤ tree.1.rootNodes.length then
      [{ code := "node_count_near_limit"
         message := "draft tree is at or near the configured node limit"
         severity := .warning }]
    else []

def errorMessages (tree : DraftTaskTree) : List String :=
  (v.validateTree tree).errors.map DraftTaskValidationIssue.message

variable {v}

theorem validateNodeContent_eq_nil {node : DraftTaskNode} :
    v.validateNodeContent node = [] ↔
      isBlank node.1.title = false ∧ isBlank node.1.intent = false ∧
        (isBlank node.1.requiredCapability = false ∧
          v.contains node.1.requiredCapability = true) ∧
        node.1.status ∈ v.publishableStatuses := by
  have hone : ∀ {p : Prop} [Decidable p] {issue : DraftTaskValidationIssue},
      (if p then [issue] else []) = [] ↔ ¬p := by
    intro p _ issue
    split <;> simp [*]
  have hcapability : ∀ a b : DraftTaskValidationIssue,
      (if isBlank node.1.requiredCapability then [a]
        else if !v.contains node.1.requiredCapability then [b] else []) = [] ↔
      isBlank node.1.requiredCapability = false ∧ v.contains node.1.requiredCapability = true := by
    intro a b
    cases isBlank node.1.requiredCapability <;> cases v.contains node.1.requiredCapability <;> simp
  rw [validateNodeContent, List.append_eq_nil_iff, List.append_eq_nil_iff, List.append_eq_nil_iff,
    hone, hone, hone, hcapability, Bool.not_eq_true, Bool.not_eq_true, not_not,
    and_assoc, and_assoc]

theorem validateRoots_eq_nil {tree : DraftTaskTree} : ∀ {nodes : List DraftTaskNode}
    {seenIds : List String} {rootOrders : List ℕ},
    v.validateRoots tree seenIds rootOrders nodes = [] →
      ∀ node ∈ nodes, v.validateNodeContent node = [] := by
  intro nodes
  induction nodes with
  | nil => intro _ _ _ node hnode; cases hnode
  | cons head nodes ih =>
    intro seenIds rootOrders h node hnode
    obtain ⟨hhead, hrest⟩ := List.append_eq_nil_iff.mp h
    rcases List.mem_cons.mp hnode with rfl | hnode
    · exact (List.append_eq_nil_iff.mp hhead).2
    · exact ih hrest node hnode

/-- **The roots of a tree without errors.** -/
theorem validateTree_roots {tree : DraftTaskTree} (h : v.errorMessages tree = []) :
    ∀ node ∈ tree.1.rootNodes, v.validateNodeContent node = [] :=
  validateRoots_eq_nil (List.append_eq_nil_iff.mp (List.map_eq_nil_iff.mp h)).2

end DraftTaskTreeValidator

/-! ### Trees that are validated as a whole -/

inductive AtDepth (nodes : List DraftTaskNode) : DraftTaskNode → ℕ → Prop
  | root {node : DraftTaskNode} : node ∈ nodes → draftParent node = none → AtDepth nodes node 1
  | child {parent node : DraftTaskNode} {d : ℕ} : AtDepth nodes parent d → node ∈ nodes →
      draftParent node = some (draftId parent) → AtDepth nodes node (d + 1)

/-- A rank that grows from the parents to the children bounds the depth. -/
theorem AtDepth.le {nodes : List DraftTaskNode} {rank : String → ℕ} (hroot : ∀ id, 1 ≤ rank id)
    (hchild : ∀ node ∈ nodes, ∀ p, draftParent node = some p → rank p + 1 ≤ rank (draftId node))
    {node : DraftTaskNode} {d : ℕ} (h : AtDepth nodes node d) :
    node ∈ nodes ∧ d ≤ rank (draftId node) := by
  induction h with
  | root hmem _ => exact ⟨hmem, hroot _⟩
  | child _ hmem hparent ih =>
    exact ⟨hmem, (Nat.succ_le_succ ih.2).trans (hchild _ hmem _ hparent)⟩

namespace DraftTaskTreeValidator

variable (v : DraftTaskTreeValidator)

/-- The nodes of a tree are all that the validator asks for. -/
structure FullyValidated (nodes : List DraftTaskNode) : Prop where
  titles : ∀ node ∈ nodes, isBlank node.1.title = false
  intents : ∀ node ∈ nodes, isBlank node.1.intent = false
  capabilities : ∀ node ∈ nodes, v.contains node.1.requiredCapability = true
  count : nodes.length ≤ v.maxNodes
  depths : ∀ node d, AtDepth nodes node d → d ≤ v.maxDepth

/-- The nodes below the roots have titles and capabilities from the catalog, and with them the tree
is neither too large nor too deep. -/
structure FitsBelowRoots (nodes : List DraftTaskNode) : Prop where
  titles : ∀ node ∈ nodes, draftParent node ≠ none → isBlank node.1.title = false
  capabilities : ∀ node ∈ nodes, draftParent node ≠ none →
    v.contains node.1.requiredCapability = true
  count : nodes.length ≤ v.maxNodes
  depths : ∀ node d, AtDepth nodes node d → d ≤ v.maxDepth

variable {v} {nodes : List DraftTaskNode}

theorem fullyValidated_of_roots
    (hroots : ∀ node ∈ draftRoots nodes, isBlank node.1.title = false ∧
      v.contains node.1.requiredCapability = true)
    (hintents : ∀ node ∈ nodes, isBlank node.1.intent = false) :
    v.FullyValidated nodes ↔ v.FitsBelowRoots nodes := by
  constructor
  · intro h
    exact ⟨fun node hnode _ => h.titles node hnode, fun node hnode _ => h.capabilities node hnode,
      h.count, h.depths⟩
  · intro h
    refine ⟨fun node hnode => ?_, hintents, fun node hnode => ?_, h.count, h.depths⟩
    · by_cases hroot : draftParent node = none
      · exact (hroots node (mem_draftRoots.mpr ⟨hnode, hroot⟩)).1
      · exact h.titles node hnode hroot
    · by_cases hroot : draftParent node = none
      · exact (hroots node (mem_draftRoots.mpr ⟨hnode, hroot⟩)).2
      · exact h.capabilities node hnode hroot

end DraftTaskTreeValidator

/-! ### What the publisher checks -/

section

open DefaultTaskPublisher

variable {B : Type} [TaskBus B] {U : Uuid5} {nodes : List DraftTaskNode}
  {sessionId draftTreeId : String}

/-- **No node that is published has a blank intent.** -/
theorem preview_intents {requestId : String} (hnodes : DraftNodes nodes)
    {roots : List NormalizedTaskNode} (hroots : normalizedRootsFromDraft nodes = .ok roots)
    (h : DraftRequestOk sessionId draftTreeId requestId roots)
    (hpreview : preview (draftRequest sessionId draftTreeId requestId roots h) = []) :
    ∀ node ∈ nodes, isBlank node.1.intent = false := by
  intro node hnode
  obtain ⟨roots', hroots', hrenders⟩ := normalizedRoots_renders hnodes
  obtain rfl : roots = roots' := Except.ok.inj (hroots.symm.trans hroots')
  have hwalk := draftWalk_perm hnodes
  -- the walk comes to the node, and renders it
  have hid :
      draftId node ∈ (NormalizedTaskNode.collectAll roots).map NormalizedTaskNode.nodeId := by
    rw [hrenders.ids]
    exact List.mem_map_of_mem (hwalk.mem_iff.mpr hnode)
  obtain ⟨m, hm, heq⟩ := List.mem_map.mp hid
  obtain ⟨node', hnode', children, rfl⟩ := hrenders.nodes m hm
  obtain rfl : node' = node :=
    List.inj_on_of_nodup_map hnodes.nodup (hwalk.mem_iff.mp hnode') hnode heq
  by_contra hblank
  have herror : PreviewError.emptyIntent (draftId node') ∈
      preview (draftRequest sessionId draftTreeId requestId roots h) := by
    refine List.mem_append_right _ (List.mem_flatMap.mpr ⟨_, hm, List.mem_append_left _ ?_⟩)
    rw [if_pos (show isBlank (normalizedNode node' children).intent = true by
      simpa [normalizedNode] using hblank)]
    exact List.mem_singleton_self _
  rw [hpreview] at herror
  cases herror

theorem publishDraftTree_intents {store : SqliteDraftTaskStore} (hs : store.Forested) {b b' : B}
    {env : DraftPublishEnv} {result : TaskPublishResult}
    (hlist : store.listNodes sessionId draftTreeId = .ok nodes)
    (h : publishDraftTree U store b sessionId draftTreeId env = (.ok result, b'))
    (hnone : result.rejectedTaskIds = []) : ∀ node ∈ nodes, isBlank node.1.intent = false := by
  rw [publishDraftTree, hlist] at h
  dsimp only at h
  by_cases hempty : nodes.isEmpty = true
  · intro node hnode
    rw [List.isEmpty_iff.mp hempty] at hnode
    cases hnode
  rw [if_neg hempty] at h
  cases hroots : normalizedRootsFromDraft nodes with
  | error e =>
    rw [hroots] at h
    cases h
  | ok roots =>
    rw [hroots] at h
    dsimp only at h
    split at h
    · next hok =>
      refine preview_intents (hs.draftNodes hlist).1 hroots hok ?_
      by_contra hpreview
      -- the request is skipped, and then every node is rejected
      rw [publishDraftRequest, publish, if_pos hpreview] at h
      cases h
      exact hempty (List.isEmpty_iff.mpr (List.map_eq_nil_iff.mp hnone))
    · cases h

end

/-! ### An accepted command -/

section

variable {M R D B : Type} [TaskBus B] {parts : AuthoringParts M R D} {env : AuthoringEnv}
  {command : PublishDraftTaskTreeCommand} {w : SessionStores × B}

theorem AuthoringParts.publishDraftTree_accepted {output : CommandOutput}
    (h : (parts.publishDraftTree env command w).1 = .ok output) :
    ∃ nodes tree result bus, parts.publishable command w.1 = .ok (nodes, tree) ∧
      DefaultTaskPublisher.publishDraftTree parts.uuid5 w.1.drafts w.2 command.sessionId
        command.draftTreeId env.draft = (.ok result, bus) ∧ result.rejectedTaskIds = [] := by
  rw [publishDraftTree] at h
  cases hready : parts.publishable command w.1 with
  | error fault =>
    rw [hready] at h
    cases h
  | ok ready =>
    obtain ⟨nodes, tree⟩ := ready
    rw [hready] at h
    dsimp only at h
    rcases hpublish : DefaultTaskPublisher.publishDraftTree parts.uuid5 w.1.drafts w.2
      command.sessionId command.draftTreeId env.draft with ⟨e | result, bus⟩
    · rw [hpublish] at h
      cases h
    · rw [hpublish] at h
      refine ⟨nodes, tree, result, bus, rfl, rfl, ?_⟩
      by_contra hrejected
      have hrefused : validatePublishResult command nodes result =
          .error (.rejected result.rejectedTaskIds) := if_pos hrejected
      dsimp only at h
      rw [recordPublished, hrefused] at h
      cases h

omit [TaskBus B] in
theorem AuthoringParts.publishable_ok {w : SessionStores} {nodes : List DraftTaskNode}
    {tree : DraftTaskTree} (h : parts.publishable command w = .ok (nodes, tree)) :
    w.drafts.getTree command.sessionId command.draftTreeId = .ok tree ∧
      w.drafts.listNodes command.sessionId command.draftTreeId = .ok nodes ∧
      ∀ validate, parts.draftValidator = some validate → validate tree = [] := by
  rw [publishable] at h
  split at h
  · cases h
  obtain ⟨tree', htree, h⟩ := bind_eq_ok.mp h
  obtain ⟨nodes', hlist, h⟩ := bind_eq_ok.mp h
  obtain ⟨-, -, h⟩ := bind_eq_ok.mp h
  -- the validator comes last, whether or not a version is expected
  have hend : tree' = tree ∧ nodes' = nodes ∧
      ∀ validate, parts.draftValidator = some validate → validate tree' = [] := by
    cases hvalidator : parts.draftValidator with
    | none =>
      rw [hvalidator] at h
      dsimp only at h
      split at h
      · split at h
        · cases h
        · cases h
          exact ⟨rfl, rfl, fun validate hsome => (by cases hsome)⟩
      · cases h
        exact ⟨rfl, rfl, fun validate hsome => (by cases hsome)⟩
    | some validate =>
      rw [hvalidator] at h
      dsimp only at h
      by_cases hvalid : validate tree' = []
      · rw [if_neg (not_not.mpr hvalid)] at h
        split at h
        · split at h
          · cases h
          · cases h
            exact ⟨rfl, rfl, fun validate' hsome => (by cases hsome; exact hvalid)⟩
        · cases h
          exact ⟨rfl, rfl, fun validate' hsome => (by cases hsome; exact hvalid)⟩
      · rw [if_pos hvalid] at h
        split at h
        · split at h <;> cases h
        · cases h
  obtain ⟨rfl, rfl, hvalid⟩ := hend
  exact ⟨mapError_eq_ok.mp htree, mapError_eq_ok.mp hlist, hvalid⟩

/-- **Published drafts are validated as a whole** exactly if the nodes below the roots are what the
validator would have asked of them: neither the validator nor the publisher checks that. -/
theorem fullyValidated_iff (v : DraftTaskTreeValidator)
    (hvalidator : parts.draftValidator = some v.errorMessages) (calls : List DraftCall)
    (hdrafts : w.1.drafts = final SqliteDraftTaskStore.step .empty calls) {output : CommandOutput}
    (h : (parts.publishDraftTree env command w).1 = .ok output) :
    ∃ nodes, w.1.drafts.listNodes command.sessionId command.draftTreeId = .ok nodes ∧
      (v.FullyValidated nodes ↔ v.FitsBelowRoots nodes) := by
  obtain ⟨nodes, tree, result, bus, hready, hpublish, hnone⟩ :=
    AuthoringParts.publishDraftTree_accepted h
  obtain ⟨htree, hlist, hvalid⟩ := AuthoringParts.publishable_ok hready
  have hs : w.1.drafts.Forested := hdrafts ▸ SqliteDraftTaskStore.forested_final calls
  refine ⟨nodes, hlist, DraftTaskTreeValidator.fullyValidated_of_roots (fun node hnode => ?_)
    (publishDraftTree_intents hs hlist hpublish hnone)⟩
  -- the root that was validated has the row of the node
  obtain ⟨root, hroot, hrow⟩ := SqliteDraftTaskStore.exists_rootNode htree hlist node hnode
  have hcontent := DraftTaskTreeValidator.validateTree_roots (hvalid _ hvalidator) root hroot
  obtain ⟨htitle, -, ⟨-, hcapability⟩, -⟩ :=
    DraftTaskTreeValidator.validateNodeContent_eq_nil.mp hcontent
  have htitles : root.1.title = node.1.title := congrArg DraftNodeRow.title hrow
  have hcapabilities : root.1.requiredCapability = node.1.requiredCapability :=
    congrArg DraftNodeRow.requiredCapability hrow
  rw [← htitles, ← hcapabilities]
  exact ⟨htitle, hcapability⟩

end

/-! ### A child that nobody has checked -/

namespace DraftTaskTreeValidator

/-- A validator with a catalog of one capability. -/
def sample : DraftTaskTreeValidator where
  contains capability := strip capability == "planning"
  repr text := "'" ++ text ++ "'"
  maxDepth_pos := by decide
  maxNodes_pos := by decide

def sampleParts : AuthoringParts Unit Unit Unit where
  uuid5 := .sample
  draftValidator := some sample.errorMessages
  hasStateStore := false
  exceptionOf _ := ⟨.valueError, "error"⟩
  draftOperation _ _ w := (.error ⟨.valueError, "error"⟩, w)
  mutateRawTask _ w := (.error ⟨.valueError, "error"⟩, w)
  requestHash _ := "hash"

def sampleEnv : AuthoringEnv := ⟨.sample, fun _ => .noon, fun _ => .noon⟩

def childFields : DraftTaskFields where
  draftTaskId := "n2"
  sessionId := "s1"
  draftTreeId := "t1"
  parentDraftTaskId := some "n1"
  title := " "
  intent := "Book a hotel"
  requiredCapability := "booking"
  createdAt := Moment.utc DateTime.noon
  updatedAt := Moment.utc DateTime.noon

theorem childFields_valid : childFields.Valid := by decide

/-- A tree gets a child with a blank title and an unknown capability, and is accepted. -/
def childCalls : List DraftCall :=
  [InMemoryDraftTaskStore.createSample "t1",
    .addNode (fun _ => .noon) "s1" "t1" ⟨childFields, childFields_valid⟩ 1,
    .markAccepted (fun _ => .noon) "s1" "t1" 2]

def afterCalls (calls : List DraftCall) : SessionStores × InMemoryTaskBus :=
  ({ drafts := final SqliteDraftTaskStore.step .empty calls, plans := .empty }, .empty)

def sampleCommand : PublishDraftTaskTreeCommand where
  commandId := "c1"
  sessionId := "s1"
  draftTreeId := "t1"
  actor := { actorId := "user", kind := .user }
  idempotencyKey := "k1"

/-- **The tree with the child is published**, and is not validated as a whole. -/
theorem unchecked_child_published :
    sampleParts.draftValidator = some sample.errorMessages ∧
      (sampleParts.publishDraftTree sampleEnv sampleCommand (afterCalls childCalls)).1.isOk = true ∧
      ∀ nodes, (afterCalls childCalls).1.drafts.listNodes "s1" "t1" = .ok nodes →
        ¬sample.FullyValidated nodes := by
  refine ⟨rfl, by decide +kernel, fun nodes hnodes hvalidated => ?_⟩
  have hblank : ((afterCalls childCalls).1.drafts.listNodes "s1" "t1").map
      (fun nodes => nodes.any fun node => isBlank node.1.title) = .ok true := by decide +kernel
  rw [hnodes] at hblank
  obtain ⟨node, hnode, htitle⟩ := List.any_eq_true.mp (Except.ok.inj hblank)
  exact absurd htitle (by rw [hvalidated.titles node hnode]; decide)

/-- The accepted tree of five nodes. -/
def nestedAccepted : List DraftCall :=
  InMemoryDraftTaskStore.nestedCalls ++ [.markAccepted (fun _ => .noon) "s1" "t1" 4]

/-- The depths of its nodes. -/
def nestedDepth : String → ℕ
  | "n5" => 3
  | "n3" | "n4" => 2
  | _ => 1

/-- **The tree of five nodes** is validated as a whole. -/
theorem fullyValidated_iff_sample :
    ∃ output, (sampleParts.publishDraftTree sampleEnv sampleCommand
        (afterCalls nestedAccepted)).1 = .ok output ∧
      ∃ nodes, (afterCalls nestedAccepted).1.drafts.listNodes "s1" "t1" = .ok nodes ∧
        nodes.length = 5 ∧ sample.FullyValidated nodes := by
  have hok : (sampleParts.publishDraftTree sampleEnv sampleCommand
      (afterCalls nestedAccepted)).1.isOk = true := by decide +kernel
  have hfits : ((afterCalls nestedAccepted).1.drafts.listNodes "s1" "t1").map (fun nodes =>
      decide (nodes.length = 5) && nodes.all fun node => !isBlank node.1.title &&
        sample.contains node.1.requiredCapability && decide (nestedDepth (draftId node) ≤ 8) &&
        (draftParent node).all fun p => nestedDepth p + 1 ≤ nestedDepth (draftId node)) =
      .ok true := by
    decide +kernel
  cases hrun : (sampleParts.publishDraftTree sampleEnv sampleCommand
    (afterCalls nestedAccepted)).1 with
  | error e =>
    rw [hrun] at hok
    cases hok
  | ok output =>
    obtain ⟨nodes, hnodes, hiff⟩ := fullyValidated_iff sample rfl nestedAccepted rfl hrun
    rw [show sampleCommand.sessionId = "s1" from rfl,
      show sampleCommand.draftTreeId = "t1" from rfl] at hnodes
    rw [hnodes] at hfits
    obtain ⟨hlength, hall⟩ := Bool.and_eq_true_iff.mp (Except.ok.inj hfits)
    have hlength := of_decide_eq_true hlength
    have hnode : ∀ node ∈ nodes, isBlank node.1.title = false ∧
        sample.contains node.1.requiredCapability = true ∧ nestedDepth (draftId node) ≤ 8 ∧
        ∀ p, draftParent node = some p → nestedDepth p + 1 ≤ nestedDepth (draftId node) := by
      intro node hmem
      have h := List.all_eq_true.mp hall node hmem
      simp only [Bool.and_eq_true, Bool.not_eq_true', decide_eq_true_eq] at h
      obtain ⟨⟨⟨htitle, hcapability⟩, hdepth⟩, hparent⟩ := h
      refine ⟨htitle, hcapability, hdepth, fun p hp => ?_⟩
      rw [hp] at hparent
      simpa using hparent
    refine ⟨output, rfl, nodes, hnodes, hlength, hiff.mpr ⟨fun node hmem _ => (hnode node hmem).1,
      fun node hmem _ => (hnode node hmem).2.1, ?_, fun node d hdepth => ?_⟩⟩
    · rw [hlength]
      decide
    · obtain ⟨hmem, hle⟩ := hdepth.le (fun id => by unfold nestedDepth; split <;> decide)
        fun node hmem => (hnode node hmem).2.2.2
      exact hle.trans (hnode node hmem).2.2.1

end DraftTaskTreeValidator

end Taskweavn

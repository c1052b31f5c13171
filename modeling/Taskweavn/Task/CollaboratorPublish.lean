import Taskweavn.Task.AuthoringService
import Taskweavn.Task.NewTasks

/-!
# Publishing a draft tree through the collaborator

`CollaboratorApiAdapter.publish_task_tree` submits two batches to the authoring service
(`taskweavn/task/collaborator_api.py`): one marks the tree as accepted, and one publishes it.
The handlers are those of `DefaultAuthoringCommandService`
(`taskweavn/task/authoring_service.py`), and the stores of a session are those of
`taskweavn/task/sqlite_authoring.py`.

Only the publication reaches the bus.  `publishTaskTree_new` says that **every task that a call
has brought to the bus comes from the draft tree of the call**.
-/

namespace Taskweavn

open Lib Py

/-! ### What is active in a session -/

inductive ActiveStatus
  | none
  | rawTask
  | draftTree
  | published
  | cancelled
deriving DecidableEq, Repr

/-- A row of `authoring_active_sessions`. -/
structure ActiveAuthoringState where
  activeRawTaskId : Option String := none
  activeDraftTreeId : Option String := none
  activePlanId : Option String := none
  activeState : ActiveStatus := .none
deriving DecidableEq

/-- The stores that the handlers write, but for the bus. -/
structure SessionStores where
  drafts : SqliteDraftTaskStore
  plans : SqlitePlanStore
  active : Dict String ActiveAuthoringState := Dict.empty

inductive ActiveStateError
  /-- DraftTaskTree … is not the active draft tree -/
  | notActive (draftTreeId : String)
  /-- DraftTaskTree … not found -/
  | treeNotFound (draftTreeId : String)
deriving DecidableEq

namespace SessionStores

/-- `AuthoringStateStore.get_active` -/
def getActive (w : SessionStores) (sessionId : String) : ActiveAuthoringState :=
  (w.active.get? sessionId).getD {}

/-- `AuthoringStateStore.mark_published` -/
def markPublished (w : SessionStores) (sessionId draftTreeId : String) :
    Except ActiveStateError SessionStores :=
  let active := w.getActive sessionId
  if active.activeDraftTreeId ≠ some draftTreeId then .error (.notActive draftTreeId)
  else if (w.drafts.trees.get? (sessionId, draftTreeId)).isNone then
    .error (.treeNotFound draftTreeId)
  else .ok { w with active := w.active.set sessionId { active with activeState := .published } }

end SessionStores

/-! ### The handlers -/

/-- The refusals of `_publish_draft_tree` itself. -/
inductive DraftPublishRefusal
  /-- task publisher is not configured -/
  | noPublisher
  /-- draft task tree has no nodes to publish -/
  | noNodes
  /-- partial root publish is not supported by this boundary -/
  | partialRoots
  /-- draft task tree is already published -/
  | alreadyPublished
  /-- cannot publish cancelled draft task … -/
  | cancelled (draftTaskId : String)
  /-- draft task tree must be accepted before publish -/
  | notAccepted
  /-- stale version for …: expected …, current … -/
  | staleVersion (draftTreeId : String) (expected current : ℕ)
  /-- draft task tree validation failed: … -/
  | invalid (issues : List String)
  /-- task publisher rejected draft tasks: … -/
  | rejected (draftTaskIds : List String)
  /-- task publisher returned no root task ids -/
  | noRootIds
  /-- task publisher returned no draft-to-published mappings -/
  | noMappings
  /-- publisher mapping session_id does not match command -/
  | otherSession
  /-- publisher mapping draft_tree_id does not match command -/
  | otherTree
  /-- duplicate mapping for draft task … -/
  | duplicate (draftTaskId : String)
  /-- publisher mapping missing draft tasks: … -/
  | missing
  /-- publisher mapping has unknown draft tasks: … -/
  | unknown
  /-- publisher root_task_ids must match mapped root draft tasks -/
  | rootsMismatch
deriving DecidableEq

/-- What a handler raises. -/
inductive AuthoringFault
  | store (error : DraftStoreError)
  | publisher (error : DraftPublishError)
  | active (error : ActiveStateError)
  | refused (reason : DraftPublishRefusal)
deriving DecidableEq

/-- The nodes without a parent. -/
def rootDraftIds (nodes : List DraftTaskNode) : List String :=
  (draftRoots nodes).map draftId

/-- The first node whose status does not allow a publication. -/
def statusRefusal (node : DraftTaskNode) : Option DraftPublishRefusal :=
  match node.1.status with
  | .published => some .alreadyPublished
  | .cancelled => some (.cancelled node.1.draftTaskId)
  | .draft => some .notAccepted
  | .accepted => none

def validatePublishRequest (command : PublishDraftTaskTreeCommand) (nodes : List DraftTaskNode) :
    Except DraftPublishRefusal Unit :=
  if nodes = [] then .error .noNodes
  else if command.publishOptions.rootDraftTaskIds ≠ [] ∧
      ¬(command.publishOptions.rootDraftTaskIds ⊆ rootDraftIds nodes ∧
        rootDraftIds nodes ⊆ command.publishOptions.rootDraftTaskIds) then
    .error .partialRoots
  else
    match nodes.findSome? statusRefusal with
    | some refusal => .error refusal
    | none => .ok ()

/-- The loop of `_validate_publish_result`, with the ids seen so far. -/
def checkResultMappings (command : PublishDraftTaskTreeCommand) :
    List String → List DraftToPublishedMapping → Except DraftPublishRefusal Unit
  | _, [] => .ok ()
  | seen, mapping :: rest =>
    if mapping.sessionId ≠ command.sessionId then .error .otherSession
    else if mapping.draftTreeId ≠ command.draftTreeId then .error .otherTree
    else if mapping.draftTaskId ∈ seen then .error (.duplicate mapping.draftTaskId)
    else checkResultMappings command (mapping.draftTaskId :: seen) rest

def validatePublishResult (command : PublishDraftTaskTreeCommand) (nodes : List DraftTaskNode)
    (result : TaskPublishResult) : Except DraftPublishRefusal Unit :=
  if result.rejectedTaskIds ≠ [] then .error (.rejected result.rejectedTaskIds)
  else if result.rootTaskIds = [] then .error .noRootIds
  else if result.mappings = [] then .error .noMappings
  else
    match checkResultMappings command [] result.mappings with
    | .error refusal => .error refusal
    | .ok _ =>
      let mapped := result.mappings.map DraftToPublishedMapping.draftTaskId
      let mappedRoots := (result.mappings.filter fun m =>
        decide (m.draftTaskId ∈ rootDraftIds nodes)).map DraftToPublishedMapping.taskId
      if ¬nodes.map draftId ⊆ mapped then .error .missing
      else if ¬mapped ⊆ nodes.map draftId then .error .unknown
      else if ¬(mappedRoots ⊆ result.rootTaskIds ∧ result.rootTaskIds ⊆ mappedRoots) then
        .error .rootsMismatch
      else .ok ()

/-- What the authoring service of a session is built with. -/
structure AuthoringParts (M R D : Type) where
  uuid5 : Uuid5
  hasTaskPublisher : Bool := true
  /-- The messages of the errors that `draft_validator.validate_tree` finds. -/
  draftValidator : Option (DraftTaskTree → List String) := none
  /-- Publications are marked in the authoring state. -/
  hasStateStore : Bool := true
  /-- `str` and the class of what a handler raises. -/
  exceptionOf : AuthoringFault → AuthoringException
  /-- The operations on a draft tree other than `mark_accepted`. -/
  draftOperation : MutateDraftTaskTreeCommand → DraftTaskTreeOperation → SessionStores →
    Except AuthoringException CommandOutput × SessionStores
  mutateRawTask : MutateRawTaskCommand → SessionStores →
    Except AuthoringException CommandOutput × SessionStores
  rawSnapshot : Option (SessionStores → Except AuthoringException R) := none
  rawRestore : Option (Option R → SessionStores → Except AuthoringException Unit × SessionStores) :=
    none
  draftSnapshot : Option (SessionStores → Except AuthoringException D) := none
  draftRestore : Option (Option D → SessionStores →
    Except AuthoringException Unit × SessionStores) := none
  messageBus : Option (AuthoringCommandBatch → AuthoringMessageEffect → M →
    Except AuthoringException String × M) := none
  requestHash : AuthoringCommandBatch → String

/-- What the handlers of a call read from outside. -/
structure AuthoringEnv where
  draft : DraftPublishEnv
  acceptClock : Clock
  publishClock : Clock

namespace AuthoringParts

variable {M R D : Type} (parts : AuthoringParts M R D) (env : AuthoringEnv)

/-- `command.expected_version or tree.version` -/
def expectedOr (expected : Option ℕ) (version : ℕ) : ℕ := (expected.filter (· ≠ 0)).getD version

/-- The operation `mark_accepted`. -/
def markAccepted (command : MutateDraftTaskTreeCommand) (draftTreeId : String) (w : SessionStores) :
    Except AuthoringFault (CommandOutput × SessionStores) := do
  let tree ← (w.drafts.getTree command.sessionId draftTreeId).mapError .store
  let (accepted, drafts) ← (w.drafts.markAccepted env.acceptClock command.sessionId draftTreeId
    (expectedOr command.expectedVersion tree.1.version)).mapError .store
  return ({ commandId := command.commandId
            objectRefs := accepted.1.rootNodes.map fun node => .draft (draftId node) },
    { w with drafts := drafts })

def applyDraftOperation (command : MutateDraftTaskTreeCommand) (operation : DraftTaskTreeOperation)
    (w : SessionStores) : Except AuthoringException CommandOutput × SessionStores :=
  match operation.op, command.draftTreeId with
  | .markAccepted, some draftTreeId =>
    match markAccepted env command draftTreeId w with
    | .error fault => (.error (parts.exceptionOf fault), w)
    | .ok (output, w) => (.ok output, w)
  | _, _ => parts.draftOperation command operation w

/-- `_mutate_draft_tree`, with the outputs so far. -/
def mutateDraftTree (command : MutateDraftTaskTreeCommand) :
    List DraftTaskTreeOperation → List CommandOutput → SessionStores →
    Except AuthoringException CommandOutput × SessionStores
  | [], outputs, w =>
    (.ok {
      commandId := command.commandId
      objectRefs := outputs.flatMap CommandOutput.objectRefs
      messageEffects := outputs.flatMap CommandOutput.messageEffects
      warnings := outputs.flatMap CommandOutput.warnings }, w)
  | operation :: operations, outputs, w =>
    match parts.applyDraftOperation env command operation w with
    | (.error e, w) => (.error e, w)
    | (.ok output, w) => mutateDraftTree command operations (outputs ++ [output]) w

/-- The checks before the task publisher is called, and the nodes and the tree. -/
def publishable (command : PublishDraftTaskTreeCommand) (w : SessionStores) :
    Except AuthoringFault (List DraftTaskNode × DraftTaskTree) := do
  if !parts.hasTaskPublisher then .error (.refused .noPublisher)
  let tree ← (w.drafts.getTree command.sessionId command.draftTreeId).mapError .store
  let nodes ← (w.drafts.listNodes command.sessionId command.draftTreeId).mapError .store
  (validatePublishRequest command nodes).mapError .refused
  match command.expectedVersion with
  | some expected =>
    if tree.1.version ≠ expected then
      .error (.refused (.staleVersion command.draftTreeId expected tree.1.version))
  | none => .ok ()
  match parts.draftValidator with
  | some validate =>
    if validate tree ≠ [] then .error (.refused (.invalid (validate tree)))
  | none => .ok ()
  return (nodes, tree)

/-- What follows the publication. -/
def recordPublished (command : PublishDraftTaskTreeCommand) (nodes : List DraftTaskNode)
    (tree : DraftTaskTree) (result : TaskPublishResult) (w : SessionStores) :
    Except AuthoringFault CommandOutput × SessionStores :=
  match validatePublishResult command nodes result with
  | .error refusal => (.error (.refused refusal), w)
  | .ok _ =>
    match w.drafts.markPublished env.publishClock command.sessionId command.draftTreeId
        result.mappings (some (expectedOr command.expectedVersion tree.1.version)) with
    | .error e => (.error (.store e), w)
    | .ok (_, drafts) =>
      let w := { w with drafts := drafts }
      match (if parts.hasStateStore then w.markPublished command.sessionId command.draftTreeId
        else .ok w) with
      | .error e => (.error (.active e), w)
      | .ok w =>
        (.ok {
          commandId := command.commandId
          objectRefs := result.rootTaskIds.map TaskRef.published
          messageEffects := [{
            messageType := .informational
            content := "Draft task tree published."
            context := Dict.ofList
              [("draft_tree_id", .str command.draftTreeId),
               ("root_task_ids", .list (result.rootTaskIds.map .str)),
               ("mapping_count", .int result.mappings.length),
               ("start_immediately", .bool command.publishOptions.startImmediately)] }] }, w)

variable {B : Type} [TaskBus B]

def publishDraftTree (command : PublishDraftTaskTreeCommand) (w : SessionStores × B) :
    Except AuthoringFault CommandOutput × SessionStores × B :=
  match parts.publishable command w.1 with
  | .error fault => (.error fault, w)
  | .ok (nodes, tree) =>
    match DefaultTaskPublisher.publishDraftTree parts.uuid5 w.1.drafts w.2 command.sessionId
        command.draftTreeId env.draft with
    | (.error e, bus) => (.error (.publisher e), w.1, bus)
    | (.ok result, bus) =>
      let (out, stores) := parts.recordPublished env command nodes tree result w.1
      (out, stores, bus)

/-- A part of the service that leaves the bus alone. -/
def beside {α S : Type} (f : S → Except AuthoringException α × S) (w : S × B) :
    Except AuthoringException α × S × B :=
  ((f w.1).1, (f w.1).2, w.2)

/-- The authoring service, over the stores of the sessions and the bus. -/
def stores : AuthoringStores (SessionStores × B) M R D where
  mutateRawTask command := beside (parts.mutateRawTask command)
  mutateDraftTree command := beside (parts.mutateDraftTree env command command.operations [])
  publishDraftTree command w :=
    let (out, w) := parts.publishDraftTree env command w
    (out.mapError parts.exceptionOf, w)
  rawSnapshot := parts.rawSnapshot.map fun snapshot w => snapshot w.1
  rawRestore := parts.rawRestore.map fun restore taken => beside (restore taken)
  draftSnapshot := parts.draftSnapshot.map fun snapshot w => snapshot w.1
  draftRestore := parts.draftRestore.map fun restore taken => beside (restore taken)
  messageBus := parts.messageBus
  requestHash := parts.requestHash

end AuthoringParts

/-! ### The nodes of a draft tree -/

theorem mem_normalizedFromDraft {nodes : List DraftTaskNode} : ∀ (n : ℕ) {node : DraftTaskNode}
    {out m : NormalizedTaskNode}, normalizedFromDraft nodes n node = .ok out →
    m ∈ out.collectNodes → ∃ node children, m = normalizedNode node children := by
  intro n
  induction n with
  | zero =>
    intro node out m h
    cases h
  | succ n ih =>
    intro node out m h hm
    rw [normalizedFromDraft] at h
    obtain ⟨children, -, h⟩ := bind_eq_ok.mp h
    obtain ⟨below, hbelow, h⟩ := bind_eq_ok.mp h
    cases h
    rw [NormalizedTaskNode.collectNodes_eq, List.mem_cons] at hm
    rcases hm with rfl | hm
    · exact ⟨node, below, rfl⟩
    · rw [NormalizedTaskNode.collectAll_eq_flatMap] at hm
      obtain ⟨child, hchild, hm⟩ := List.mem_flatMap.mp hm
      obtain ⟨node', -, hnode'⟩ := exists_of_mem_mapM hbelow child hchild
      exact ih hnode' hm

theorem mem_normalizedRootsFromDraft {nodes : List DraftTaskNode} {roots : List NormalizedTaskNode}
    {m : NormalizedTaskNode} (h : normalizedRootsFromDraft nodes = .ok roots)
    (hm : m ∈ NormalizedTaskNode.collectAll roots) :
    ∃ node children, m = normalizedNode node children := by
  rw [NormalizedTaskNode.collectAll_eq_flatMap] at hm
  obtain ⟨root, hroot, hm⟩ := List.mem_flatMap.mp hm
  obtain ⟨node, -, hnode⟩ := exists_of_mem_mapM h root hroot
  exact mem_normalizedFromDraft _ hnode hm

section

open ShadowedBus PublishRequest

variable {B : Type} [ShadowedBus B] {b : B} {m : InMemoryTaskBus}

theorem publishDraftTree_moves (U : Uuid5) (store : SqliteDraftTaskStore) (b : B)
    (sessionId draftTreeId : String) (env : DraftPublishEnv) :
    (DefaultTaskPublisher.publishDraftTree U store b sessionId draftTreeId env).2 = b ∨
      ∃ nodes roots, ∃ h : DraftRequestOk sessionId draftTreeId env.requestId roots,
        normalizedRootsFromDraft nodes = .ok roots ∧
        (DefaultTaskPublisher.publishDraftTree U store b sessionId draftTreeId env).2 =
          (DefaultTaskPublisher.publish U b
            (draftRequest sessionId draftTreeId env.requestId roots h) env.toPublishEnv).2 := by
  rw [DefaultTaskPublisher.publishDraftTree]
  split
  · exact .inl rfl
  · next nodes hlist =>
    split
    · exact .inl rfl
    · split
      · exact .inl rfl
      · next roots hroots =>
        split
        · next h =>
          refine .inr ⟨nodes, roots, h, hroots, ?_⟩
          rw [DefaultTaskPublisher.publishDraftRequest]
          split
          · next e bus hpub => exact (congrArg Prod.snd hpub).symm
          · next result bus hpub =>
            rw [hpub]
            split
            · rfl
            · split <;> rfl
        · exact .inl rfl

/-- **A task that a publication of a draft tree has brought to the bus.** -/
theorem publishDraftTree_new (hkeeps : KeepsTexts B) (hsh : Shadow m b) {U : Uuid5}
    {store : SqliteDraftTaskStore} {sessionId draftTreeId s i : String} {env : DraftPublishEnv}
    {t : TaskDomain} (habsent : TaskBus.get b s i = .ok none)
    (hget : TaskBus.get
      (DefaultTaskPublisher.publishDraftTree U store b sessionId draftTreeId env).2 s i =
        .ok (some t)) : t.ComesFrom .draftTree draftTreeId ∧ t.sessionId = sessionId := by
  rcases publishDraftTree_moves U store b sessionId draftTreeId env with
    hsame | ⟨nodes, roots, h, hroots, heq⟩
  · rw [hsame, habsent] at hget
    cases hget
  · rw [heq] at hget
    obtain ⟨tree, htree, node, hnode, n, rfl⟩ :=
      DefaultTaskPublisher.publish_new hsh habsent hget
    cases htree
    obtain ⟨node', children, rfl⟩ := mem_normalizedRootsFromDraft hroots hnode
    have hmeta : ∀ key ∈ ["source_type", "source_id"],
        (draftTree sessionId draftTreeId env.requestId roots h).metadata.get? key = none ∧
          (normalizedNode node' children).metadata.get? key = none := by
      intro key hkey
      simp only [List.mem_cons, List.not_mem_nil, or_false] at hkey
      rcases hkey with rfl | rfl <;> exact ⟨rfl, rfl⟩
    exact ⟨comesFrom_taskForNode hkeeps rfl (fun key hkey => (hmeta key hkey).1)
      (fun key hkey => (hmeta key hkey).2) n, rfl⟩

end

/-! ### The two batches -/

/-- Whether the idempotency store is there for a batch. -/
structure StoreFaults where
  getRaises : Option AuthoringException := none
  putRaises : Bool := false

/-- What a call of the collaborator reads from outside: the ids that it draws, and the user it
acts for. -/
structure CollaboratorEnv extends AuthoringEnv where
  userActor : ActorRef
  newKey : String
  acceptCommandId : String
  acceptBatchId : String
  publishCommandId : String
  publishBatchId : String
  acceptFaults : StoreFaults := {}
  publishFaults : StoreFaults := {}

def oneCommand (batchId key : String) (command : AuthoringCommand) : AuthoringCommandBatch where
  batchId := batchId
  sessionId := command.sessionId
  actor := command.actor
  idempotencyKey := some key
  commands := [command]
  commands_ne_nil := List.cons_ne_nil command []
  same_session c hc := by rw [List.mem_singleton.mp hc]
  same_actor c hc := by rw [List.mem_singleton.mp hc]
  publish_mode h := by cases h

def submission (batch : AuthoringCommandBatch) (faults : StoreFaults) :
    AuthoringStores.Submission where
  batch := batch
  getRaises := faults.getRaises
  putRaises := faults.putRaises

theorem accept_target (draftTreeId : String) (h : some draftTreeId = none) :
    ∃ operation ∈ [({ op := .markAccepted } : DraftTaskTreeOperation)],
      operation.op = .createTree := by
  cases h

def acceptCommand (env : CollaboratorEnv) (sessionId draftTreeId key : String)
    (expectedVersion : Option ℕ) : AuthoringCommand :=
  .mutateDraftTaskTree {
    commandId := env.acceptCommandId
    sessionId := sessionId
    draftTreeId := some draftTreeId
    actor := env.userActor
    expectedVersion := expectedVersion
    idempotencyKey := some key
    operations := [{ op := .markAccepted }]
    target := accept_target draftTreeId }

def publishCommand (env : CollaboratorEnv) (sessionId draftTreeId key : String)
    (startImmediately : Bool) : AuthoringCommand :=
  .publishDraftTaskTree {
    commandId := env.publishCommandId
    sessionId := sessionId
    draftTreeId := draftTreeId
    actor := env.userActor
    idempotencyKey := key
    publishOptions := { startImmediately := startImmediately } }

namespace AuthoringParts

variable {M R D : Type} (parts : AuthoringParts M R D) {B : Type} [TaskBus B]

/-- `CollaboratorApiAdapter.publish_task_tree`; the result is that of the last batch. -/
def publishTaskTree (env : CollaboratorEnv) (s : AuthoringStores.ServiceState (SessionStores × B) M)
    (sessionId draftTreeId : String) (expectedVersion : Option ℕ) (idempotencyKey : Option String)
    (startImmediately : Bool) :
    Except AuthoringException AuthoringCommandResult ×
      AuthoringStores.ServiceState (SessionStores × B) M :=
  let key := idempotencyKey.getD env.newKey
  let acceptKey := key ++ ":accept"
  let service := (parts.stores env.toAuthoringEnv : AuthoringStores (SessionStores × B) M R D)
  match service.submit s (submission (oneCommand env.acceptBatchId acceptKey
      (acceptCommand env sessionId draftTreeId acceptKey expectedVersion)) env.acceptFaults) with
  | (.error e, s) => (.error e, s)
  | (.ok accepted, s) =>
    if !accepted.ok then (.ok accepted, s)
    else
      service.submit s (submission (oneCommand env.publishBatchId key
        (publishCommand env sessionId draftTreeId key startImmediately)) env.publishFaults)

/-! ### What reaches the bus -/

variable {parts}

omit [TaskBus B] in
theorem callRestore_bus {S : Type}
    (restore : Option (Option S → SessionStores → Except AuthoringException Unit × SessionStores))
    (taken : Option S) (w : SessionStores × B) :
    (callRestore (restore.map fun restore taken => beside (restore taken)) taken w).2.2 = w.2 := by
  cases restore with
  | none => rfl
  | some restore => rfl

theorem restore_bus (env : AuthoringEnv) (taken : Option (Option R × Option D))
    (w : SessionStores × B) : ((parts.stores env).restore taken w).2.2 = w.2 := by
  cases taken with
  | none => rfl
  | some taken =>
    obtain ⟨raw, draft⟩ := taken
    have hraw := callRestore_bus parts.rawRestore raw w
    rw [AuthoringStores.restore]
    split
    · next e w' hr => exact (congrArg (fun r => r.2.2) hr).symm.trans hraw
    · next u w' hr =>
      have hw : w'.2 = w.2 := (congrArg (fun r => r.2.2) hr).symm.trans hraw
      exact (callRestore_bus parts.draftRestore draft w').trans hw

omit [TaskBus B] in
theorem applyAll_single {W : Type} (svc : AuthoringStores W M R D) (mode : AuthoringCommandMode)
    (command : AuthoringCommand) (w : W) :
    (svc.applyAll mode [command] { stores := w }).progress.stores =
      (svc.applyCommand command w).2 := by
  unfold AuthoringStores.applyAll
  rcases svc.applyCommand command w with ⟨e | output, w'⟩
  · dsimp only
    cases commandError command e with
    | error e' => rfl
    | ok error => cases mode <;> rfl
  · rfl

theorem perform_bus (env : AuthoringEnv) (batchId key : String) (command : AuthoringCommand)
    (world : (SessionStores × B) × M) :
    ((parts.stores env).perform (oneCommand batchId key command) world).2.1.1.2 = world.1.2 ∨
      ((parts.stores env).perform (oneCommand batchId key command) world).2.1.1.2 =
        ((parts.stores env).applyCommand command world.1).2.2 := by
  rw [← applyAll_single _ .allOrNothing, AuthoringStores.perform]
  split
  · exact .inl rfl
  · next taken htaken =>
    right
    split
    · next e p happly => exact (congrArg (fun c => c.progress.stores.2) happly).symm
    · next error p happly =>
      have hp := congrArg (fun c => c.progress.stores.2) happly
      have hrestored := @restore_bus _ _ _ parts _ _ env taken p.stores
      split
      · next e w hw => exact ((congrArg (fun r => r.2.2) hw).symm.trans hrestored).trans hp.symm
      · next u w hw => exact ((congrArg (fun r => r.2.2) hw).symm.trans hrestored).trans hp.symm
    · next p happly =>
      have hp := congrArg (fun c => c.progress.stores.2) happly
      split <;> exact hp.symm

theorem submit_bus (env : AuthoringEnv) (batchId key : String) (command : AuthoringCommand)
    (faults : StoreFaults) (s : AuthoringStores.ServiceState (SessionStores × B) M) :
    ((parts.stores env).submit s (submission (oneCommand batchId key command)
        faults)).2.world.1.2 = s.world.1.2 ∨
      ((parts.stores env).submit s (submission (oneCommand batchId key command)
        faults)).2.world.1.2 = ((parts.stores env).applyCommand command s.world.1).2.2 := by
  have hcarry : ((parts.stores env).carryOut s (submission (oneCommand batchId key command)
      faults)).2.world = ((parts.stores env).perform (oneCommand batchId key command)
        s.world).2.1 := by
    rw [AuthoringStores.carryOut]
    split
    · next result world ran hrun => exact (congrArg (fun r => r.2.1) hrun).symm
    · next e world ran hrun => exact (congrArg (fun r => r.2.1) hrun).symm
  have hperform := @perform_bus _ _ _ parts _ _ env batchId key command s.world
  rw [← hcarry] at hperform
  rw [AuthoringStores.submit]
  split
  · exact hperform
  · split
    · exact .inl rfl
    · split
      · exact .inl rfl
      · exact hperform

variable (parts) in
theorem publishTaskTree_bus (env : CollaboratorEnv)
    (s : AuthoringStores.ServiceState (SessionStores × B) M) (sessionId draftTreeId : String)
    (expectedVersion : Option ℕ) (key : Option String) (start : Bool) :
    (parts.publishTaskTree env s sessionId draftTreeId expectedVersion key start).2.world.1.2 =
        s.world.1.2 ∨
      ∃ drafts, (parts.publishTaskTree env s sessionId draftTreeId expectedVersion key
        start).2.world.1.2 = (DefaultTaskPublisher.publishDraftTree parts.uuid5 drafts s.world.1.2
          sessionId draftTreeId env.draft).2 := by
  -- the first batch leaves the bus alone
  have haccept : ∀ batchId acceptKey, ((parts.stores env.toAuthoringEnv).submit s
      (submission (oneCommand batchId acceptKey (acceptCommand env sessionId draftTreeId acceptKey
        expectedVersion)) env.acceptFaults)).2.world.1.2 = s.world.1.2 := fun batchId acceptKey =>
    (submit_bus env.toAuthoringEnv batchId acceptKey (acceptCommand env sessionId draftTreeId
      acceptKey expectedVersion) env.acceptFaults s).elim id id
  have hpublish : ∀ w : SessionStores × B, ∀ command : PublishDraftTaskTreeCommand,
      (parts.publishDraftTree env.toAuthoringEnv command w).2.2 = w.2 ∨
        (parts.publishDraftTree env.toAuthoringEnv command w).2.2 =
          (DefaultTaskPublisher.publishDraftTree parts.uuid5 w.1.drafts w.2 command.sessionId
            command.draftTreeId env.draft).2 := by
    intro w command
    rw [publishDraftTree]
    split
    · exact .inl rfl
    · right
      split
      · next e bus hrun => exact (congrArg Prod.snd hrun).symm
      · next result bus hrun => exact (congrArg Prod.snd hrun).symm
  rw [publishTaskTree]
  split
  · next e s' hrun =>
    exact .inl ((congrArg (fun r => r.2.world.1.2) hrun).symm.trans (haccept _ _))
  · next accepted s' hrun =>
    have hs' : s'.world.1.2 = s.world.1.2 :=
      (congrArg (fun r => r.2.world.1.2) hrun).symm.trans (haccept _ _)
    split
    · exact .inl hs'
    · rcases submit_bus env.toAuthoringEnv env.publishBatchId (key.getD env.newKey)
        (publishCommand env sessionId draftTreeId (key.getD env.newKey) start) env.publishFaults
        s' with hsame | hrun'
      · exact .inl (hsame.trans hs')
      · rcases hpublish s'.world.1 _ with hsame | heq
        · exact .inl ((hrun'.trans hsame).trans hs')
        · refine .inr ⟨s'.world.1.1.drafts, (hrun'.trans heq).trans ?_⟩
          rw [hs']

end AuthoringParts

section

open ShadowedBus PublishRequest

variable {M R D : Type} {parts : AuthoringParts M R D} {B : Type} [ShadowedBus B]
  {m : InMemoryTaskBus} {env : CollaboratorEnv}
  {s : AuthoringStores.ServiceState (SessionStores × B) M}

/-- **Every task that a call has brought to the bus comes from its draft tree.** -/
theorem publishTaskTree_new (hkeeps : KeepsTexts B) (hsh : Shadow m s.world.1.2)
    {sessionId draftTreeId session i : String} {expectedVersion : Option ℕ} {key : Option String}
    {start : Bool} {t : TaskDomain} (habsent : TaskBus.get s.world.1.2 session i = .ok none)
    (hget : TaskBus.get (parts.publishTaskTree env s sessionId draftTreeId expectedVersion key
      start).2.world.1.2 session i = .ok (some t)) :
    t.ComesFrom .draftTree draftTreeId ∧ t.sessionId = sessionId := by
  rcases AuthoringParts.publishTaskTree_bus parts env s sessionId draftTreeId
    expectedVersion key start with hsame | ⟨drafts, heq⟩
  · rw [hsame, habsent] at hget
    cases hget
  · rw [heq] at hget
    exact publishDraftTree_new hkeeps hsh habsent hget

end

end Taskweavn

import Taskweavn.Server.Envelopes
import Taskweavn.Task.CollaboratorPublish
import Taskweavn.Task.PlanLifecycle

/-!
# Publishing a task tree from the user interface

`DefaultUiCommandGateway.publish_task_tree` first looks for a durable plan that is active in the
session, and publishes it.  Only without one does it resolve the draft tree that the request
names (`taskweavn/server/ui_contract/command_gateway.py`).  The plan's way does not read the id
in the request.

* `publishesNamed_plan`, `publishesNamed_draft`: the two ways of a request.
* `publishesNamed_iff`: what is published is what the request names, exactly when no plan is
  active, or the active plan is that of the draft tree that is named, or it is cancelled, or
  what follows the publication fails.
-/

namespace Taskweavn

open Lib Py

/-- The payload; an id that is given is not empty. -/
structure PublishTaskTreePayload where
  taskTreeId : Option String := none
  startImmediately : Bool := true
  id_ok : taskTreeId ≠ some ""

inductive TaskTreeIdentityError
  /-- publish requires a draft tree id when active authoring state is unavailable -/
  | missing
  /-- synthetic task tree id cannot be published without active authoring state -/
  | syntheticUnresolved (provided : String)
  /-- publish requires an active draft tree -/
  | noActiveDraftTree (activeState : ActiveStatus)
  /-- publish draft tree identity does not match the active draft tree -/
  | invalid (provided activeDraftTreeId : String)
deriving DecidableEq

inductive PublishTreeResponse
  /-- `_command_bad_request_response` -/
  | badRequest (error : TaskTreeIdentityError)
  /-- `_command_exception_response` -/
  | raised
  | plan (planId : String) (result : PublishPlanResult)
  | draftTree (draftTreeId : String) (result : AuthoringCommandResult)

def PublishTreeResponse.accepted : PublishTreeResponse → Bool
  | badRequest _ => false
  | raised => false
  | plan _ result => result.accepted
  | draftTree _ result => result.ok

def syntheticTaskTreeId (sessionId : String) : String := "session:" ++ sessionId ++ ":task-tree"

/-- `archived_plan` -/
def Plan.isArchived (plan : Plan) : Bool := plan.status == .archived || plan.archivedAt.isSome

structure PublishGateway (M R D : Type) where
  authoring : AuthoringParts M R D
  /-- `authoring_state_store is not None` -/
  hasStateStore : Bool
  /-- `plan_store is not None` -/
  hasPlanStore : Bool
  /-- `plan_publisher is not None` -/
  hasPlanPublisher : Bool

/-- What a request reads from outside. -/
structure GatewayEnv where
  collaborator : CollaboratorEnv
  plan : PlanPublishEnv

abbrev GatewayState (B M : Type) := AuthoringStores.ServiceState (SessionStores × B) M

namespace PublishGateway

variable {M R D : Type} (gateway : PublishGateway M R D)

def activeDurablePlan (w : SessionStores) (sessionId : String) : Option Plan :=
  if !gateway.hasPlanStore then none
  else
    let pointed :=
      if gateway.hasStateStore then
        (w.getActive sessionId).activePlanId.bind fun planId =>
          (w.plans.getPlan sessionId planId).filter fun plan => !plan.isArchived
      else none
    match pointed with
    | some plan => some plan
    | none => (w.plans.getActivePlan sessionId).filter fun plan => !plan.isArchived

def resolvePublishDraftTreeId (w : SessionStores)
    (request : CommandRequest PublishTaskTreePayload) : Except TaskTreeIdentityError String :=
  let provided := request.payload.taskTreeId
  let synthetic := syntheticTaskTreeId request.sessionId
  if !gateway.hasStateStore then
    match provided with
    | none => .error .missing
    | some provided =>
      if provided = synthetic then .error (.syntheticUnresolved provided) else .ok provided
  else
    let active := w.getActive request.sessionId
    match active.activeDraftTreeId with
    | none => .error (.noActiveDraftTree active.activeState)
    | some activeId =>
      if active.activeState = .published ∧ request.idempotencyKey ≠ none ∧
          provided ∈ [none, some activeId, some synthetic] then .ok activeId
      else if active.activeState ≠ .draftTree then .error (.noActiveDraftTree active.activeState)
      else
        match provided with
        | none => .ok activeId
        | some id =>
          if id = activeId ∨ id = synthetic then .ok activeId else .error (.invalid id activeId)

/-- The command for the plan publisher, when its constructor accepts it. -/
def planCommand (request : CommandRequest PublishTaskTreePayload) (plan : Plan) :
    Option PublishPlanCommand :=
  if h : Codec.text.accepts request.commandId = true ∧ Codec.text.accepts request.sessionId = true ∧
      Codec.text.accepts plan.planId = true ∧
      Codec.text.accepts (request.idempotencyKey.getD request.commandId) = true then
    some {
      commandId := request.commandId
      sessionId := request.sessionId
      planId := plan.planId
      expectedPlanVersion := request.expectedVersion
      idempotencyKey := request.idempotencyKey.getD request.commandId
      fields_ok := by
        obtain ⟨hcommand, hsession, hplan, hkey⟩ := h
        rw [hcommand, hsession, hplan, hkey]
        rfl }
  else none

/-- The state of the authoring service with other stores. -/
def withWorld {B : Type} (s : GatewayState B M) (w : SessionStores) (bus : B) : GatewayState B M :=
  { s with world := ((w, bus), s.world.2) }

/-- `mark_published` after a publication, where there is a state store. -/
def marked (w : SessionStores) (sessionId : String) (draftTreeId : Option String) :
    Except ActiveStateError SessionStores :=
  match draftTreeId with
  | none => .ok w
  | some draftTreeId =>
    if gateway.hasStateStore then w.markPublished sessionId draftTreeId else .ok w

variable {B : Type} [TaskBus B]

/-- `_publish_active_plan_if_available` for an active plan. -/
def publishActivePlan (env : GatewayEnv) (s : GatewayState B M)
    (request : CommandRequest PublishTaskTreePayload) (plan : Plan) :
    PublishTreeResponse × GatewayState B M :=
  match planCommand request plan with
  | none => (.raised, s)
  | some command =>
    let w := s.world.1.1
    match DefaultPlanPublisher.publishPlan gateway.authoring.uuid5 s.world.1.2 w.plans command
        env.plan with
    | (.error _, bus, plans) => (.raised, withWorld s { w with plans := plans } bus)
    | (.ok result, bus, plans) =>
      let w := { w with plans := plans }
      if !result.accepted then (.plan plan.planId result, withWorld s w bus)
      else
        match gateway.marked w request.sessionId plan.sourceDraftTreeId with
        | .error _ => (.raised, withWorld s w bus)
        | .ok w => (.plan plan.planId result, withWorld s w bus)

/-- The part of `publish_task_tree` for a draft tree. -/
def publishDraft (env : GatewayEnv) (s : GatewayState B M)
    (request : CommandRequest PublishTaskTreePayload) : PublishTreeResponse × GatewayState B M :=
  match gateway.resolvePublishDraftTreeId s.world.1.1 request with
  | .error e => (.badRequest e, s)
  | .ok draftTreeId =>
    match gateway.authoring.publishTaskTree env.collaborator s request.sessionId draftTreeId
        request.expectedVersion request.idempotencyKey request.payload.startImmediately with
    | (.error _, s) => (.raised, s)
    | (.ok result, s) =>
      if !result.ok then (.draftTree draftTreeId result, s)
      else
        match gateway.marked s.world.1.1 request.sessionId (some draftTreeId) with
        | .error _ => (.raised, s)
        | .ok w => (.draftTree draftTreeId result, withWorld s w s.world.1.2)

/-- The plan that a request is about, when plans can be published. -/
def planOf (w : SessionStores) (sessionId : String) : Option Plan :=
  if gateway.hasPlanPublisher then gateway.activeDurablePlan w sessionId else none

def publishTaskTree (env : GatewayEnv) (s : GatewayState B M)
    (request : CommandRequest PublishTaskTreePayload) : PublishTreeResponse × GatewayState B M :=
  match gateway.planOf s.world.1.1 request.sessionId with
  | some plan => gateway.publishActivePlan env s request plan
  | none => gateway.publishDraft env s request

/-! ### What a request names -/

/-- The draft tree that an id names: the active one, under its own id or the synthetic one, and
without a state store the tree with that id. -/
def Names (w : SessionStores) (sessionId id draftTreeId : String) : Prop :=
  if gateway.hasStateStore then
    (w.getActive sessionId).activeDraftTreeId = some draftTreeId ∧
      (id = draftTreeId ∨ id = syntheticTaskTreeId sessionId)
  else draftTreeId = id ∧ id ≠ syntheticTaskTreeId sessionId

/-- A task of the draft tree that an id names, or of the plan that was made from it. -/
def OfNamed (w : SessionStores) (sessionId id : String) (t : TaskDomain) : Prop :=
  ∃ draftTreeId, gateway.Names w sessionId id draftTreeId ∧
    (t.ComesFrom .draftTree draftTreeId ∨
      ∃ plan, w.plans.getPlan sessionId plan.planId = some plan ∧
        plan.sourceDraftTreeId = some draftTreeId ∧ t.ComesFrom .plan plan.planId)

structure PublishesNamed (env : GatewayEnv) (s : GatewayState B M)
    (request : CommandRequest PublishTaskTreePayload) (id : String) : Prop where
  named : (gateway.publishTaskTree env s request).1.accepted = true → ∀ session i t,
    TaskBus.get s.world.1.2 session i = .ok none →
    TaskBus.get (gateway.publishTaskTree env s request).2.world.1.2 session i = .ok (some t) →
    gateway.OfNamed s.world.1.1 request.sessionId id t
  refused : (∀ draftTreeId, ¬gateway.Names s.world.1.1 request.sessionId id draftTreeId) →
    (gateway.publishTaskTree env s request).1.accepted = false ∧
      (gateway.publishTaskTree env s request).2.world.1.2 = s.world.1.2

/-- The id names the tree that the active plan was made from, or no plan is in the way.  With a
state store, a plan of another tree is published and the request then fails. -/
def Clear (w : SessionStores) (sessionId id : String) : Prop :=
  ∀ plan, gateway.planOf w sessionId = some plan → plan.status = .cancelled ∨
    ∃ draftTreeId, gateway.Names w sessionId id draftTreeId ∧
      (plan.sourceDraftTreeId = some draftTreeId ∨
        gateway.hasStateStore = true ∧ plan.sourceDraftTreeId ≠ none)

/-- The same is active in a session. -/
structure Alike (w w' : SessionStores) (sessionId : String) : Prop where
  active : w'.getActive sessionId = w.getActive sessionId
  plan : gateway.planOf w' sessionId = gateway.planOf w sessionId

/-! ### The two ways -/

variable {gateway} {env : GatewayEnv} {s : GatewayState B M}
  {request : CommandRequest PublishTaskTreePayload} {plan : Plan} {id draftTreeId : String}
  {w : SessionStores}

theorem getPlan_of_planOf {sessionId : String} (h : gateway.planOf w sessionId = some plan) :
    w.plans.getPlan sessionId plan.planId = some plan ∧ plan.isArchived = false := by
  unfold planOf activeDurablePlan at h
  split at h
  · split at h
    · cases h
    · dsimp only at h
      split at h
      · next pointed hpointed =>
        cases h
        split at hpointed
        · obtain ⟨planId, -, hget⟩ := Option.bind_eq_some_iff.mp hpointed
          obtain ⟨hget, harchived⟩ := Option.filter_eq_some_iff.mp hget
          refine ⟨?_, by simpa using harchived⟩
          rw [(SqlitePlanStore.plan_key_of_get hget).2]
          exact hget
        · cases hpointed
      · obtain ⟨hget, harchived⟩ := Option.filter_eq_some_iff.mp h
        exact ⟨SqlitePlanStore.getPlan_of_active hget, by simpa using harchived⟩
  · cases h

theorem names_of_resolve (hid : request.payload.taskTreeId = some id)
    (h : gateway.resolvePublishDraftTreeId w request = .ok draftTreeId) :
    gateway.Names w request.sessionId id draftTreeId := by
  unfold resolvePublishDraftTreeId at h
  unfold Names
  rw [hid] at h
  dsimp only at h
  by_cases hstate : gateway.hasStateStore = true
  · rw [if_neg (by simp [hstate])] at h
    rw [if_pos hstate]
    cases hactive : (w.getActive request.sessionId).activeDraftTreeId with
    | none =>
      rw [hactive] at h
      cases h
    | some activeId =>
      rw [hactive] at h
      dsimp only at h
      split at h
      · next hpublished =>
        cases h
        simpa using hpublished.2.2
      · split at h
        · cases h
        · split at h
          · next hsame =>
            cases h
            exact ⟨rfl, hsame⟩
          · cases h
  · rw [if_pos (by simpa using hstate)] at h
    rw [if_neg hstate]
    split at h
    · cases h
    · next hsynthetic =>
      cases h
      exact ⟨rfl, hsynthetic⟩

variable {command : PublishPlanCommand}

theorem planCommand_eq (h : planCommand request plan = some command) :
    command.sessionId = request.sessionId ∧ command.planId = plan.planId := by
  unfold planCommand at h
  split at h
  · cases h
    exact ⟨rfl, rfl⟩
  · cases h

theorem publishActivePlan_bus (h : planCommand request plan = some command) :
    (gateway.publishActivePlan env s request plan).2.world.1.2 =
      (DefaultPlanPublisher.publishPlan gateway.authoring.uuid5 s.world.1.2 s.world.1.1.plans
        command env.plan).2.1 := by
  rw [publishActivePlan, h]
  dsimp only
  split
  · next e bus plans hrun => exact (congrArg (fun r => r.2.1) hrun).symm
  · next out bus plans hrun =>
    rw [hrun]
    split
    · rfl
    · split <;> rfl

/-- A publication of the active plan is accepted when the plan publisher accepts it and the draft
tree of the plan can be marked. -/
theorem publishActivePlan_accepted (h : planCommand request plan = some command) :
    (gateway.publishActivePlan env s request plan).1.accepted = true ↔
      (∃ out, (DefaultPlanPublisher.publishPlan gateway.authoring.uuid5 s.world.1.2
        s.world.1.1.plans command env.plan).1 = .ok out ∧ out.accepted = true) ∧
      ∃ w, gateway.marked { s.world.1.1 with
        plans := (DefaultPlanPublisher.publishPlan gateway.authoring.uuid5 s.world.1.2
          s.world.1.1.plans command env.plan).2.2 } request.sessionId plan.sourceDraftTreeId =
        .ok w := by
  rw [publishActivePlan, h]
  dsimp only
  rcases DefaultPlanPublisher.publishPlan gateway.authoring.uuid5 s.world.1.2 s.world.1.1.plans
    command env.plan with ⟨e | out, bus, plans⟩
  · refine iff_of_false (by simp [PublishTreeResponse.accepted]) ?_
    rintro ⟨⟨out, hout, -⟩, -⟩
    cases hout
  · dsimp only
    by_cases hacc : out.accepted = true
    · rw [if_neg (by simp [hacc])]
      cases hmarked : gateway.marked { s.world.1.1 with plans := plans } request.sessionId
          plan.sourceDraftTreeId with
      | error e =>
        refine iff_of_false (by simp [PublishTreeResponse.accepted]) ?_
        rintro ⟨-, w, hw⟩
        cases hw
      | ok w =>
        exact iff_of_true hacc ⟨⟨out, rfl, hacc⟩, w, rfl⟩
    · rw [if_pos (by simpa using hacc)]
      refine iff_of_false hacc ?_
      rintro ⟨⟨out', hout, hacc'⟩, -⟩
      cases hout
      exact hacc hacc'

theorem active_of_marked {sessionId : String} {w' : SessionStores}
    (hstate : gateway.hasStateStore = true)
    (h : gateway.marked w sessionId (some draftTreeId) = .ok w') :
    (w.getActive sessionId).activeDraftTreeId = some draftTreeId := by
  rw [marked, if_pos hstate, SessionStores.markPublished] at h
  split at h
  · cases h
  · next hactive => exact not_not.mp hactive

section

open ShadowedBus PublishRequest DefaultPlanPublisher

variable {B : Type} [ShadowedBus B] {s : GatewayState B M} {m : InMemoryTaskBus}

/-- **A draft tree is published under its name.** -/
theorem publishesNamed_draft (hkeeps : KeepsTexts B) (hsh : Shadow m s.world.1.2)
    (hid : request.payload.taskTreeId = some id)
    (hplan : gateway.planOf s.world.1.1 request.sessionId = none) :
    gateway.PublishesNamed env s request id := by
  have hrun : gateway.publishTaskTree env s request = gateway.publishDraft env s request := by
    rw [publishTaskTree, hplan]
  cases hresolve : gateway.resolvePublishDraftTreeId s.world.1.1 request with
  | error e =>
    have hdraft : gateway.publishDraft env s request = (.badRequest e, s) := by
      rw [publishDraft, hresolve]
    constructor
    · intro hacc
      rw [hrun, hdraft] at hacc
      cases hacc
    · intro _
      rw [hrun, hdraft]
      exact ⟨rfl, rfl⟩
  | ok draftTreeId =>
    have hnames := names_of_resolve hid hresolve
    constructor
    · intro _ session i t habsent hget
      have hbus : (gateway.publishDraft env s request).2.world.1.2 =
          (gateway.authoring.publishTaskTree env.collaborator s request.sessionId draftTreeId
            request.expectedVersion request.idempotencyKey
            request.payload.startImmediately).2.world.1.2 := by
        rw [publishDraft, hresolve]
        dsimp only
        split
        · next e s' hpub => exact (congrArg (fun r => r.2.world.1.2) hpub).symm
        · next result s' hpub =>
          rw [hpub]
          split
          · rfl
          · split <;> rfl
      rw [hrun, hbus] at hget
      exact ⟨draftTreeId, hnames, .inl (publishTaskTree_new hkeeps hsh habsent hget).1⟩
    · intro hno
      exact absurd hnames (hno draftTreeId)

/-- **A plan that the request names is published under its name**, and one that is cancelled is
not published. -/
theorem publishesNamed_plan (hkeeps : KeepsTexts B) (hsh : Shadow m s.world.1.2)
    (hplan : gateway.planOf s.world.1.1 request.sessionId = some plan)
    (hclear : plan.status = .cancelled ∨
      ∃ draftTreeId, gateway.Names s.world.1.1 request.sessionId id draftTreeId ∧
        (plan.sourceDraftTreeId = some draftTreeId ∨
          gateway.hasStateStore = true ∧ plan.sourceDraftTreeId ≠ none)) :
    gateway.PublishesNamed env s request id := by
  have hrun : gateway.publishTaskTree env s request =
      gateway.publishActivePlan env s request plan := by
    rw [publishTaskTree, hplan]
  have hget := (getPlan_of_planOf hplan).1
  cases hcommand : planCommand request plan with
  | none =>
    have hraised : gateway.publishActivePlan env s request plan = (.raised, s) := by
      rw [publishActivePlan, hcommand]
    constructor
    · intro hacc
      rw [hrun, hraised] at hacc
      cases hacc
    · intro _
      rw [hrun, hraised]
      exact ⟨rfl, rfl⟩
  | some command =>
    obtain ⟨hsession, hid⟩ := planCommand_eq hcommand
    rw [← hsession, ← hid] at hget
    rcases hclear with hcancelled | ⟨draftTreeId, hnames, hsource⟩
    · obtain ⟨hbus, hskipped⟩ := @publishPlan_cancelled B s.world.1.2 gateway.authoring.uuid5
        s.world.1.1.plans command env.plan plan _ hget hcancelled
      have hacc : ¬(gateway.publishActivePlan env s request plan).1.accepted = true := by
        intro hacc
        obtain ⟨⟨out, hout, haccepted⟩, -⟩ := (publishActivePlan_accepted hcommand).mp hacc
        rw [hskipped out hout] at haccepted
        cases haccepted
      constructor
      · intro h
        rw [hrun] at h
        exact absurd h hacc
      · intro _
        rw [hrun, publishActivePlan_bus hcommand]
        exact ⟨by simpa using hacc, hbus⟩
    · constructor
      · intro hacc session i t habsent hnew
        rw [hrun] at hacc hnew
        have hsame : plan.sourceDraftTreeId = some draftTreeId := by
          rcases hsource with hsame | ⟨hstate, hsome⟩
          · exact hsame
          · obtain ⟨other, hother⟩ := Option.ne_none_iff_exists'.mp hsome
            obtain ⟨-, w, hmarked⟩ := (publishActivePlan_accepted hcommand).mp hacc
            rw [hother] at hmarked
            have hactive := active_of_marked hstate hmarked
            rw [Names, if_pos hstate] at hnames
            rw [hother, ← hactive]
            exact hnames.1
        rw [publishActivePlan_bus hcommand] at hnew
        obtain ⟨hfrom, -⟩ := publishPlan_new hkeeps hsh habsent hnew
        rw [hid] at hfrom
        rw [hsession, hid] at hget
        exact ⟨draftTreeId, hnames, .inr ⟨plan, hget, hsame, hfrom⟩⟩
      · intro hno
        exact absurd hnames (hno draftTreeId)

end

end PublishGateway

/-! ### A store with one plan -/

def Plan.soleNode (plan : Plan) : PlanTaskNode where
  taskNodeId := "n"
  planId := plan.planId
  sessionId := plan.sessionId
  taskIndex := "1"
  title := "title"
  intent := "intent"
  summary := "summary"
  createdAt := plan.createdAt
  updatedAt := plan.createdAt

theorem Plan.Valid.texts {plan : Plan} (h : plan.Valid) :
    Codec.text.accepts plan.planId = true ∧ Codec.text.accepts plan.sessionId = true := by
  have hfields := h.1
  simp only [Plan.fieldsOk, Bool.and_eq_true] at hfields
  obtain ⟨⟨⟨⟨⟨⟨⟨hplan, hsession⟩, -⟩, -⟩, -⟩, -⟩, -⟩, -⟩ := hfields
  exact ⟨hplan, hsession⟩

theorem Plan.soleNode_valid {plan : Plan} (h : plan.Valid) : plan.soleNode.Valid := by
  obtain ⟨hplan, hsession⟩ := h.texts
  refine ⟨?_, le_refl 1, le_refl plan.createdAt, List.not_mem_nil⟩
  simp only [PlanTaskNode.fieldsOk, Plan.soleNode, hplan, hsession]
  rfl

namespace SqlitePlanStore

variable {plan : Plan}

/-- The plan and its node, and nothing else. -/
def solePlan (plan : Plan) (h : plan.Valid) : SqlitePlanStore :=
  (empty.putPlan plan h).putNode plan.soleNode (plan.soleNode_valid h)
    (Option.isSome_iff_exists.mpr ⟨plan, getPlan_putPlan h⟩) rfl

theorem getPlan_solePlan (h : plan.Valid) :
    (solePlan plan h).getPlan plan.sessionId plan.planId = some plan :=
  getPlan_putPlan h

theorem eq_of_getPlan_solePlan (h : plan.Valid) {s p : String} {other : Plan}
    (hget : (solePlan plan h).getPlan s p = some other) : other = plan := by
  by_cases hkey : plan.key = (s, p)
  · cases hkey
    exact Option.some.inj (hget.symm.trans (getPlan_solePlan h))
  · have hnone : (solePlan plan h).getPlan s p = none := getPlan_putPlan_ne h hkey
    rw [hnone] at hget
    cases hget

theorem nodesOf_solePlan (h : plan.Valid) :
    (solePlan plan h).nodesOf plan.sessionId plan.planId = [plan.soleNode] := by
  have hvalues : (solePlan plan h).nodes.values = [plan.soleNode] := rfl
  rw [nodesOf, hvalues, List.filter_cons_of_pos (by simp [Plan.soleNode])]
  rfl

theorem getActivePlan_solePlan (h : plan.Valid) (harchived : plan.isArchived = false) :
    (solePlan plan h).getActivePlan plan.sessionId = some plan := by
  have hvalues : (solePlan plan h).plans.values = [plan] := rfl
  obtain ⟨hstatus, hat⟩ := Bool.or_eq_false_iff.mp harchived
  rw [getActivePlan, hvalues, List.filter_cons_of_pos]
  · rfl
  · rw [Option.isSome_eq_false_iff.mp hat, bne, hstatus]
    simp

end SqlitePlanStore

/-- Nothing fails, and no clock is behind the plan. -/
def GatewayEnv.sole (plan : Plan) : GatewayEnv where
  collaborator :=
    { draft := .sample
      acceptClock := fun _ => plan.createdAt
      publishClock := fun _ => plan.createdAt
      userActor := ⟨"user", .user, none⟩
      newKey := "key"
      acceptCommandId := "accept"
      acceptBatchId := "accept batch"
      publishCommandId := "publish"
      publishBatchId := "publish batch" }
  plan :=
    { publish := .sample
      nodeClock := fun _ => plan.createdAt
      planClock := plan.createdAt }

namespace PublishGateway

open ShadowedBus AcceptingBus PublishRequest DefaultPlanPublisher SqlitePlanStore

variable {M R D : Type} {gateway : PublishGateway M R D} {B : Type} [AcceptingBus B]
  {s₀ : GatewayState B M} {plan : Plan} {id sessionId : String}

/-- The active plan alone, on an empty bus. -/
def soleState (s₀ : GatewayState B M) (plan : Plan) (h : plan.Valid) (bus : B) : GatewayState B M :=
  withWorld s₀ { s₀.world.1.1 with plans := solePlan plan h } bus

omit [AcceptingBus B] in
theorem alike_soleState (h : plan.Valid) (bus : B)
    (hplan : gateway.planOf s₀.world.1.1 plan.sessionId = some plan) :
    gateway.Alike s₀.world.1.1 (soleState s₀ plan h bus).world.1.1 plan.sessionId := by
  refine ⟨rfl, ?_⟩
  have harchived := (getPlan_of_planOf hplan).2
  have hactive := getActivePlan_solePlan h harchived
  rw [hplan]
  rw [planOf] at hplan ⊢
  split at hplan
  · next hpublisher =>
    rw [if_pos hpublisher]
    rw [activeDurablePlan] at hplan ⊢
    split at hplan
    · cases hplan
    · next hstore =>
      rw [if_neg hstore]
      dsimp only
      split
      · next pointed hpointed =>
        split at hpointed
        · obtain ⟨planId, -, hget⟩ := Option.bind_eq_some_iff.mp hpointed
          rw [eq_of_getPlan_solePlan h (Option.filter_eq_some_iff.mp hget).1]
        · cases hpointed
      · show ((solePlan plan h).getActivePlan plan.sessionId).filter _ = some plan
        rw [hactive, Option.filter_some, if_pos (by simp [harchived])]
  · cases hplan

/-- **The active plan is published**, whatever the request names. -/
theorem publishes_soleState (h : plan.Valid) {bus : B} (hsh : Shadow InMemoryTaskBus.empty bus)
    (hfits : FitsOrder B 0)
    (hnorm : ∀ d c, dispatchConstraintsMatch (norm B d) (some c) = true →
      DefaultTaskPublisher.Kept B c)
    (hstatus : ¬(plan.status = .cancelled ∨ plan.status = .archived))
    (payload : PublishTaskTreePayload) {command : PublishPlanCommand}
    (hcommand : planCommand ⟨"c", plan.sessionId, none, none, payload⟩ plan = some command) :
    (∃ out, (publishPlan gateway.authoring.uuid5 bus (solePlan plan h) command
        (GatewayEnv.sole plan).plan).1 = .ok out ∧ out.accepted = true) ∧
      ∃ i t, TaskBus.get (publishPlan gateway.authoring.uuid5 bus (solePlan plan h) command
        (GatewayEnv.sole plan).plan).2.1 plan.sessionId i = .ok (some t) := by
  have hnodes := nodesOf_solePlan h
  unfold planCommand at hcommand
  split at hcommand
  · next hok =>
    cases hcommand
    have hroots : (orderedPlanNodes ((solePlan plan h).nodesOf plan.sessionId plan.planId)).map
        PlanTaskNode.normalized = [plan.soleNode.normalized] := by
      rw [hnodes]
      rfl
    refine publishPlan_fresh hsh hnorm (getPlan_solePlan h) rfl hstatus ?_ ?_ ?_ ?_ rfl ?_ ?_ ?_
    · rw [hnodes]
      exact List.cons_ne_nil _ _
    · rw [hnodes]
      intro n hn
      rw [List.mem_singleton.mp hn]
      rfl
    · rw [hroots]
      refine ⟨List.cons_ne_nil _ _, rfl, ?_, rfl, ?_⟩
      · exact TaskDomain.accepts_optText_some.mpr (of_decide_eq_true h.texts.1)
      · simp only [Bool.and_eq_true]
        exact ⟨⟨⟨⟨rfl, hok.2.1⟩, rfl⟩, rfl⟩, rfl⟩
    · refine List.append_eq_nil_iff.mpr ⟨if_neg (not_not.mpr rfl), ?_⟩
      rw [List.flatMap_eq_nil_iff]
      intro node hnode
      rw [iterNodes_planTree, hroots, List.mem_singleton] at hnode
      subst hnode
      have hintent : isBlank "intent" = false := by decide
      have hgeneral : isBlank "general" = false := by decide
      have hcapability : isBlank plan.soleNode.normalized.requiredCapability = false := hgeneral
      rw [show plan.soleNode.normalized.intent = "intent" from rfl, hintent, hcapability]
      rfl
    · exact fun i => get_none hsh rfl
    · rw [hnodes]
      intro i hi
      obtain rfl : i = 0 := by simpa using hi
      exact hfits
    · refine ⟨rfl, fun n hn i => ?_, fun other hother => ?_⟩
      · rw [hnodes] at hn
        rw [List.mem_singleton.mp hn]
        exact le_refl plan.createdAt
      · rw [eq_of_getPlan_solePlan h hother]
        exact le_refl plan.createdAt
  · cases hcommand

/-- Every request with this payload publishes what it names, when the same is active. -/
def Honest (gateway : PublishGateway M R D) (s₀ : GatewayState B M) (sessionId : String)
    (payload : PublishTaskTreePayload) : Prop :=
  ∀ (s : GatewayState B M) (m : InMemoryTaskBus), Shadow m s.world.1.2 →
    gateway.Alike s₀.world.1.1 s.world.1.1 sessionId →
    ∀ (env : GatewayEnv) (request : CommandRequest PublishTaskTreePayload),
      request.sessionId = sessionId → request.payload = payload →
      ∀ id, payload.taskTreeId = some id → gateway.PublishesNamed env s request id

omit [AcceptingBus B] in
theorem Alike.names {w w' : SessionStores} {draftTreeId : String}
    (h : gateway.Alike w w' sessionId) :
    gateway.Names w' sessionId id draftTreeId ↔ gateway.Names w sessionId id draftTreeId := by
  rw [Names, Names, h.active]

theorem clear_of_honest {payload : PublishTaskTreePayload} {bus : B}
    (hsh : Shadow InMemoryTaskBus.empty bus) (hfits : FitsOrder B 0) (hkeeps : KeepsTexts B)
    (hnorm : ∀ d c, dispatchConstraintsMatch (norm B d) (some c) = true →
      DefaultTaskPublisher.Kept B c)
    (hhonest : gateway.Honest s₀ sessionId payload) (hid : payload.taskTreeId = some id) :
    gateway.Clear s₀.world.1.1 sessionId id := by
  intro plan hplan
  obtain ⟨hget, harchived⟩ := getPlan_of_planOf hplan
  obtain rfl := (SqlitePlanStore.plan_key_of_get hget).1
  have hvalid : plan.Valid := (s₀.world.1.1.plans.plans_ok _ _ hget).2
  by_contra hclear
  obtain ⟨hcancelled, hunnamed⟩ := not_or.mp hclear
  have hstatus : ¬(plan.status = .cancelled ∨ plan.status = .archived) := by
    rintro (h | h)
    · exact hcancelled h
    · rw [Plan.isArchived, h] at harchived
      cases harchived
  have halike := @alike_soleState M R D gateway B s₀ plan hvalid bus hplan
  have hrequest := hhonest (soleState s₀ plan hvalid bus) _ hsh halike (.sole plan)
    ⟨"c", plan.sessionId, none, none, payload⟩ rfl rfl id hid
  have hrun : gateway.publishTaskTree (.sole plan) (soleState s₀ plan hvalid bus)
      ⟨"c", plan.sessionId, none, none, payload⟩ = gateway.publishActivePlan (.sole plan)
        (soleState s₀ plan hvalid bus) ⟨"c", plan.sessionId, none, none, payload⟩ plan := by
    rw [publishTaskTree, halike.plan, hplan]
  obtain ⟨command, hcommand⟩ : ∃ command,
      planCommand ⟨"c", plan.sessionId, none, none, payload⟩ plan = some command :=
    ⟨_, dif_pos ⟨rfl, hvalid.texts.2, hvalid.texts.1, rfl⟩⟩
  obtain ⟨haccepted, i, t, hnew⟩ := @publishes_soleState M R D gateway B _ plan hvalid bus hsh hfits
    hnorm hstatus payload command hcommand
  have habsent : TaskBus.get bus plan.sessionId i = .ok none := get_none hsh rfl
  have hfrom := (publishPlan_new hkeeps hsh habsent hnew).1
  rw [(planCommand_eq hcommand).2] at hfrom
  have hbus := @publishActivePlan_bus M R D gateway B _ (.sole plan)
    (soleState s₀ plan hvalid bus) _ _ _ hcommand
  by_cases hnames : ∃ draftTreeId, gateway.Names s₀.world.1.1 plan.sessionId id draftTreeId
  · -- a tree is named, and the plan is of another one
    obtain ⟨draftTreeId, hnames⟩ := hnames
    have hmarked : ∀ w, ∃ w', gateway.marked w plan.sessionId plan.sourceDraftTreeId = .ok w' := by
      intro w
      cases hsource : plan.sourceDraftTreeId with
      | none => exact ⟨w, rfl⟩
      | some other =>
        have hstate : ¬gateway.hasStateStore = true := by
          intro hstate
          exact hunnamed ⟨draftTreeId, hnames, .inr ⟨hstate, by simp [hsource]⟩⟩
        exact ⟨w, if_neg hstate⟩
    have hacc := (@publishActivePlan_accepted M R D gateway B _ (.sole plan)
      (soleState s₀ plan hvalid bus) _ _ _ hcommand).mpr ⟨haccepted, hmarked _⟩
    rw [← hrun] at hacc
    obtain ⟨other, hother, hkind⟩ := hrequest.named hacc plan.sessionId i t habsent (by
      rw [hrun, hbus]
      exact hnew)
    rcases hkind with htree | ⟨plan', hget', hsource, hfrom'⟩
    · cases (htree.unique hfrom).1
    · have hsame : plan' = plan := eq_of_getPlan_solePlan hvalid hget'
      rw [hsame] at hsource
      exact hunnamed ⟨other, halike.names.mp hother, .inl hsource⟩
  · have hsame := (hrequest.refused fun draftTreeId hnamed =>
      hnames ⟨draftTreeId, halike.names.mp hnamed⟩).2
    rw [hrun, hbus] at hsame
    have hget' : TaskBus.get bus plan.sessionId i = .ok (some t) := by
      rw [← hnew]
      exact congrArg (fun b => TaskBus.get b plan.sessionId i) hsame.symm
    rw [habsent] at hget'
    cases hget'

theorem honest_iff {payload : PublishTaskTreePayload} {bus : B}
    (hsh : Shadow InMemoryTaskBus.empty bus) (hfits : FitsOrder B 0) (hkeeps : KeepsTexts B)
    (hnorm : ∀ d c, dispatchConstraintsMatch (norm B d) (some c) = true →
      DefaultTaskPublisher.Kept B c) :
    gateway.Honest s₀ sessionId payload ↔
      ∀ id, payload.taskTreeId = some id → gateway.Clear s₀.world.1.1 sessionId id := by
  constructor
  · intro hhonest id hid
    exact clear_of_honest hsh hfits hkeeps hnorm hhonest hid
  · rintro hclear s m hm halike env request rfl rfl id hid
    cases hplan : gateway.planOf s.world.1.1 request.sessionId with
    | none => exact publishesNamed_draft hkeeps hm hid hplan
    | some plan =>
      refine publishesNamed_plan hkeeps hm hplan ?_
      rcases hclear id hid plan (halike.plan.symm.trans hplan) with
        hcancelled | ⟨T, hnames, hsource⟩
      · exact .inl hcancelled
      · exact .inr ⟨T, halike.names.mpr hnames, hsource⟩

/-- **A request publishes the tree that it names** exactly when no active plan is in the way, on
both buses. -/
theorem publishesNamed_iff {M R D : Type} (gateway : PublishGateway M R D) (sessionId : String)
    (payload : PublishTaskTreePayload) :
    (∀ s₀ : GatewayState InMemoryTaskBus M, gateway.Honest s₀ sessionId payload ↔
      ∀ id, payload.taskTreeId = some id → gateway.Clear s₀.world.1.1 sessionId id) ∧
    (∀ s₀ : GatewayState SqliteTaskBus M, gateway.Honest s₀ sessionId payload ↔
      ∀ id, payload.taskTreeId = some id → gateway.Clear s₀.world.1.1 sessionId id) :=
  ⟨fun _ => honest_iff shadow_inMemory_empty trivial keepsTexts_inMemory fun _ c _ =>
      DefaultTaskPublisher.kept_inMemory c,
    fun _ => honest_iff shadow_sqlite_empty (show (0 : ℕ) < 2 ^ 63 by decide) keepsTexts_sqlite
      DefaultTaskPublisher.kept_of_match_sqlite⟩

/-! ### A plan that was not made from a draft tree -/

def sample : PublishGateway Unit Unit Unit where
  authoring :=
    { uuid5 := .sample
      exceptionOf := fun _ => ⟨.valueError, "error"⟩
      draftOperation := fun _ _ w => (.error ⟨.valueError, "error"⟩, w)
      mutateRawTask := fun _ w => (.error ⟨.valueError, "error"⟩, w)
      requestHash := fun _ => "hash" }
  hasStateStore := true
  hasPlanStore := true
  hasPlanPublisher := true

/-- The draft tree `tree-active` and the plan `p` are active. -/
def sampleStores : SessionStores where
  drafts := .empty
  plans := solePlan .sample Plan.valid_sample
  active := Dict.empty.set "s"
    { activeDraftTreeId := some "tree-active", activeState := .draftTree }

def sampleState : GatewayState InMemoryTaskBus Unit :=
  ⟨((sampleStores, .empty), ()), Dict.empty, []⟩

theorem other_ne : some "tree-other" ≠ some "" := by decide

/-- A request names `tree-other`, and the plan is published. -/
theorem other_tree_published : ¬∀ (gateway : PublishGateway Unit Unit Unit)
    (s : GatewayState InMemoryTaskBus Unit) (m : InMemoryTaskBus), Shadow m s.world.1.2 →
    ∀ (env : GatewayEnv) (request : CommandRequest PublishTaskTreePayload) (id : String),
      request.payload.taskTreeId = some id → gateway.PublishesNamed env s request id := by
  intro h
  have hhonest : sample.Honest sampleState "s" ⟨some "tree-other", true, other_ne⟩ := by
    rintro s m hm - env request - hpayload id hid
    exact h sample s m hm env request id (by rw [hpayload, hid])
  have hplan : sample.planOf sampleState.world.1.1 "s" = some .sample :=
    rfl
  rcases clear_of_honest shadow_inMemory_empty trivial keepsTexts_inMemory
    (fun _ c _ => DefaultTaskPublisher.kept_inMemory c) hhonest rfl .sample hplan with
    hcancelled | ⟨draftTreeId, hnames, -⟩
  · cases hcancelled
  · obtain ⟨hactive, hid⟩ := hnames
    cases hactive
    exact absurd hid (by decide)

end PublishGateway

end Taskweavn

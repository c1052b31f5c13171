import Taskweavn.Lib.Allowlist
import Taskweavn.Task.NewTasks
import Taskweavn.Task.PublishServiceRuns
import Taskweavn.Task.TreeInput

/-!
# Publishing through the API

`DefaultApiTaskPublisher.publish` checks who calls, normalizes the payload, checks each node
against the allowlists of the caller and of the deployment, and hands the request to the
publish service (`taskweavn/task/api_publisher.py`).  The two lists are combined first, and an
empty list allows everything.

* `run_cases`: a request that is accepted went through every check, and what came to the bus
  is one task for each node.
* `staysInside_iff`: both lists hold for what is published exactly when the lists have a common
  value, or when nothing can be published.
-/

namespace Taskweavn

open Lib Py Allowlist

/-! ### Callers, policies and requests -/

/-- The authenticated caller.  Empty allowlists mean "not constrained at this layer". -/
structure ApiAuthContext where
  actorId : String
  allowedSessionIds : List String := []
  allowedCapabilities : List String := []
  allowedAgentRefs : List String := []
  metadata : Dict String PyValue := Dict.empty
  actor_ok : actorId ≠ ""

def ApiAuthContext.allowsSession (auth : ApiAuthContext) (sessionId : String) : Bool :=
  auth.allowedSessionIds.isEmpty || auth.allowedSessionIds.contains sessionId

structure ApiPublishPolicy where
  requireIdempotencyKey : Bool := true
  allowedCapabilities : List String := []
  allowedAgentRefs : List String := []

structure ApiRateLimitDecision where
  allowed : Bool
  reason : Option String := none

structure ApiPublishRequest where
  requestId : String
  sessionId : String
  taskTree : Dict String PyValue
  sourceId : Option String := none
  idempotencyKey : Option String := none
  options : TaskPublishOptions := { requireConfirmation := false }
  metadata : Dict String PyValue := Dict.empty
  fields_ok : (Codec.text.accepts requestId && Codec.text.accepts sessionId &&
    optText.accepts sourceId && optText.accepts options.sourceLabel &&
    optText.accepts idempotencyKey) = true

/-- Why a request is not handed to the service. -/
inductive ApiPublishError
  /-- API publish requires idempotency_key -/
  | keyRequired
  /-- actor … cannot publish to session … -/
  | session (actorId sessionId : String)
  /-- the reason of the limiter, or "API rate limit exceeded" -/
  | rateLimit (reason : Option String)
  | input (error : TaskTreeInputError)
  /-- unknown capability … -/
  | unknownCapability (capability : String)
  /-- agent … does not support capability … -/
  | agentMismatch (agentRef capability : String)
  /-- capability … is not allowed for API publish -/
  | capabilityNotAllowed (capability : String)
  /-- agent … is not allowed for API publish -/
  | agentNotAllowed (agentRef : String)
deriving DecidableEq, Repr

/-- The result of the adapter itself, or that of the service. -/
inductive ApiPublishResult
  /-- `_publish_rejected`: skipped, with the errors as the reason -/
  | rejected (requestId sessionId : String) (publisher : PublisherRef)
      (reason : List ApiPublishError) (idempotencyKey : Option String)
  | service (result : PublishResult)

def ApiPublishResult.accepted : ApiPublishResult → Bool
  | rejected .. => false
  | service result => result.accepted

/-! ### Checks of a tree -/

def mergeAllowlists (left right : List String) : List String := meet left right

/-- The check of a node against combined allowlists. -/
def nodePolicyErrors (capabilityAllowlist agentAllowlist : List String)
    (node : NormalizedTaskNode) : List ApiPublishError :=
  (if capabilityAllowlist ≠ [] ∧ node.requiredCapability ∉ capabilityAllowlist then
    [.capabilityNotAllowed node.requiredCapability] else []) ++
  match node.agentRef with
  | none => []
  | some agentRef =>
    if agentAllowlist ≠ [] ∧ agentRef ∉ agentAllowlist then [.agentNotAllowed agentRef] else []

def treePolicyErrors (nodes : List NormalizedTaskNode) (auth : ApiAuthContext)
    (policy : ApiPublishPolicy) : List ApiPublishError :=
  let capabilityAllowlist := mergeAllowlists auth.allowedCapabilities policy.allowedCapabilities
  let agentAllowlist := mergeAllowlists auth.allowedAgentRefs policy.allowedAgentRefs
  nodes.flatMap (nodePolicyErrors capabilityAllowlist agentAllowlist)

/-- `TaskTreeInputValidator`: `contains` and `supports` of the catalogs. -/
structure TaskTreeInputValidator where
  capabilityCatalog : Option (String → Bool) := none
  agentCatalog : Option (String → String → Bool) := none

/-- The errors of `validate`. -/
def TaskTreeInputValidator.validate (validator : TaskTreeInputValidator)
    (tree : NormalizedTaskTree) : List ApiPublishError :=
  tree.iterNodes.flatMap fun node =>
    (match validator.capabilityCatalog with
      | none => []
      | some contains =>
        if contains node.requiredCapability then []
        else [.unknownCapability node.requiredCapability]) ++
    match node.agentRef, validator.agentCatalog with
    | some agentRef, some supports =>
      if supports agentRef node.requiredCapability then []
      else [.agentMismatch agentRef node.requiredCapability]
    | _, _ => []

/-! ### The adapter -/

structure DefaultApiTaskPublisher where
  publishService : TaskPublishService
  policy : ApiPublishPolicy := {}
  validator : TaskTreeInputValidator := {}
  rateLimiter : ApiAuthContext → ApiPublishRequest → ApiRateLimitDecision :=
    fun _ _ => { allowed := true }

/-- `PublisherRef(kind="api", actor_id=auth.actor_id)` -/
def ApiAuthContext.publisher (auth : ApiAuthContext) : PublisherRef :=
  { kind := .api, actorId := some auth.actorId }

theorem ApiAuthContext.publisher_ok (auth : ApiAuthContext) : auth.publisher.fieldsOk = true := by
  rw [PublisherRef.fieldsOk, Bool.and_eq_true]
  exact ⟨TaskDomain.accepts_optText_some.mpr auth.actor_ok, rfl⟩

namespace DefaultApiTaskPublisher

def servicePublishRequest (request : ApiPublishRequest) (auth : ApiAuthContext)
    (tree : NormalizedTaskTree) (htree : tree.source = auth.publisher) : PublishRequest where
  requestId := request.requestId
  sessionId := request.sessionId
  publisher := auth.publisher
  source :=
    { sourceType := .api
      sourceId := request.sourceId
      metadata := Dict.ofList
        [("api_actor_id", .str auth.actorId), ("auth_metadata", .dict auth.metadata.entries)] }
  taskTree := some tree
  options := request.options
  idempotencyKey := request.idempotencyKey
  fields_ok := by
    have h := request.fields_ok
    simp only [Bool.and_eq_true] at h ⊢
    obtain ⟨⟨⟨⟨hid, hsession⟩, hsource⟩, hlabel⟩, hkey⟩ := h
    exact ⟨⟨⟨⟨⟨⟨hid, hsession⟩, auth.publisher_ok⟩, hsource⟩, rfl⟩, hlabel⟩, hkey⟩
  has_input := .inl rfl
  same_source := by
    intro tree' h
    rw [← Option.some.inj h]
    exact htree

/-- The payload as a tree of the caller. -/
def normalized (request : ApiPublishRequest) (auth : ApiAuthContext) :
    Except TaskTreeInputError NormalizedTaskTree :=
  normalizeTaskTreeInput request.taskTree auth.publisher request.sourceId
    (Dict.ofList (("api_actor_id", .str auth.actorId) :: request.metadata.entries))

variable (publisher : DefaultApiTaskPublisher)

/-- The errors of the catalogs and of the allowlists. -/
def treeErrors (auth : ApiAuthContext) (tree : NormalizedTaskTree) : List ApiPublishError :=
  publisher.validator.validate tree ++ treePolicyErrors tree.iterNodes auth publisher.policy

/-- `_build_publish_request` of a publication. -/
def buildPublishRequest (request : ApiPublishRequest) (auth : ApiAuthContext) :
    Except (List ApiPublishError) PublishRequest :=
  if !auth.allowsSession request.sessionId then
    .error [.session auth.actorId request.sessionId]
  else if !(publisher.rateLimiter auth request).allowed then
    .error [.rateLimit (publisher.rateLimiter auth request).reason]
  else
    match htree : normalized request auth with
    | .error e => .error [.input e]
    | .ok tree =>
      if publisher.treeErrors auth tree ≠ [] then .error (publisher.treeErrors auth tree)
      else .ok (servicePublishRequest request auth tree (normalizeTaskTreeInput_ok htree).1)

def publishRejected (request : ApiPublishRequest) (auth : ApiAuthContext)
    (errors : List ApiPublishError) : ApiPublishResult :=
  .rejected request.requestId request.sessionId auth.publisher errors request.idempotencyKey

def publish {B : Type} [TaskBus B] (bus : B) (store : InMemoryPublishIdempotencyStore)
    (request : ApiPublishRequest) (auth : ApiAuthContext) (env : PublishEnv) :
    Except BusError ApiPublishResult × B × InMemoryPublishIdempotencyStore :=
  if publisher.policy.requireIdempotencyKey ∧ request.idempotencyKey = none then
    (.ok (publishRejected request auth [.keyRequired]), bus, store)
  else
    match publisher.buildPublishRequest request auth with
    | .error errors => (.ok (publishRejected request auth errors), bus, store)
    | .ok build =>
      let (result, bus, store) := publisher.publishService.publish bus store build env
      (result.map .service, bus, store)

end DefaultApiTaskPublisher

/-! ### What a check lets through -/

section

variable {auth : ApiAuthContext} {policy : ApiPublishPolicy} {nodes : List NormalizedTaskNode}

theorem allowsSession_iff {sessionId : String} :
    auth.allowsSession sessionId = true ↔ Permits auth.allowedSessionIds sessionId := by
  rw [ApiAuthContext.allowsSession, Bool.or_eq_true, List.isEmpty_iff, List.contains_iff_mem,
    Permits]

theorem nodePolicyErrors_eq_nil {capabilities agents : List String} {node : NormalizedTaskNode} :
    nodePolicyErrors capabilities agents node = [] ↔
      Permits capabilities node.requiredCapability ∧
        ∀ agentRef, node.agentRef = some agentRef → Permits agents agentRef := by
  rw [nodePolicyErrors, List.append_eq_nil_iff, ite_eq_right_iff, ← not_permits_iff]
  refine and_congr ⟨fun h => ?_, fun h hn => absurd h hn⟩ ?_
  · by_contra hn
    cases h hn
  · cases node.agentRef with
    | none => simp
    | some agentRef =>
      dsimp only
      rw [ite_eq_right_iff, ← not_permits_iff]
      constructor
      · rintro h _ ⟨⟩
        by_contra hn
        cases h hn
      · intro h hn
        exact absurd (h agentRef rfl) hn

theorem treePolicyErrors_eq_nil : treePolicyErrors nodes auth policy = [] ↔ ∀ node ∈ nodes,
    Permits (meet auth.allowedCapabilities policy.allowedCapabilities) node.requiredCapability ∧
      ∀ agentRef, node.agentRef = some agentRef →
        Permits (meet auth.allowedAgentRefs policy.allowedAgentRefs) agentRef := by
  rw [treePolicyErrors, List.flatMap_eq_nil_iff]
  exact forall₂_congr fun _ _ => nodePolicyErrors_eq_nil

end

namespace DefaultApiTaskPublisher

variable {publisher : DefaultApiTaskPublisher} {request : ApiPublishRequest}
  {auth : ApiAuthContext} {build : PublishRequest}

theorem buildPublishRequest_ok :
    publisher.buildPublishRequest request auth = .ok build ↔
      Permits auth.allowedSessionIds request.sessionId ∧
      (publisher.rateLimiter auth request).allowed = true ∧
      ∃ tree, ∃ htree : normalized request auth = .ok tree, publisher.treeErrors auth tree = [] ∧
        build = servicePublishRequest request auth tree (normalizeTaskTreeInput_ok htree).1 := by
  rw [← allowsSession_iff, buildPublishRequest]
  by_cases hsession : auth.allowsSession request.sessionId = true
  · rw [if_neg (by simp [hsession])]
    by_cases hlimit : (publisher.rateLimiter auth request).allowed = true
    · rw [if_neg (by simp [hlimit])]
      split
      · next e htree =>
        refine ⟨nofun, ?_⟩
        rintro ⟨-, -, tree, htree', -⟩
        rw [htree] at htree'
        cases htree'
      · next tree htree =>
        split
        · next herrors =>
          refine ⟨nofun, ?_⟩
          rintro ⟨-, -, tree', htree', hnil, -⟩
          obtain rfl : tree = tree' := Except.ok.inj (htree.symm.trans htree')
          exact absurd hnil herrors
        · next herrors =>
          constructor
          · rintro ⟨⟩
            exact ⟨hsession, hlimit, tree, htree, not_not.mp herrors, rfl⟩
          · rintro ⟨-, -, tree', htree', -, rfl⟩
            obtain rfl : tree = tree' := Except.ok.inj (htree.symm.trans htree')
            rfl
    · rw [if_pos (by simpa using hlimit)]
      exact ⟨nofun, fun h => absurd h.2.1 hlimit⟩
  · rw [if_pos (by simpa using hsession)]
    exact ⟨nofun, fun h => absurd h.1 hsession⟩

end DefaultApiTaskPublisher

/-! ### The service without a loader -/

namespace TaskPublishService

variable {svc : TaskPublishService} {B : Type} [TaskBus B] {b b₁ : B}
  {store store₁ : InMemoryPublishIdempotencyStore} {request : PublishRequest} {env : PublishEnv}
  {r : PublishResult}

theorem publish_unpiped (hloader : svc.pipelineLoader = none)
    (hpub : svc.publish b store request env = (.ok r, b₁, store₁)) :
    b₁ = b ∨ DefaultTaskPublisher.publish svc.uuid5 b request env = (.ok r, b₁) := by
  have hexpand : svc.expandPipelineOrNone request = some request := by
    rw [expandPipelineOrNone, hloader]
  rw [publish, hexpand] at hpub
  dsimp only at hpub
  split at hpub
  · cases hpub
    exact .inl rfl
  split at hpub
  · cases hpub
    exact .inl rfl
  rcases hrun : DefaultTaskPublisher.publish svc.uuid5 b request env with ⟨_ | r', b'⟩
  · rw [hrun] at hpub
    cases hpub
  · rw [hrun] at hpub
    cases hpub
    exact .inr rfl

theorem publish_unrecorded (hloader : svc.pipelineLoader = none)
    (hfree : svc.checkIdempotency store request = none)
    (hprev : DefaultTaskPublisher.preview request = [])
    (hpub : DefaultTaskPublisher.publish svc.uuid5 b request env = (.ok r, b₁)) :
    svc.publish b store request env = (.ok r, b₁, svc.storeIdempotency store request r) := by
  have hexpand : svc.expandPipelineOrNone request = some request := by
    rw [expandPipelineOrNone, hloader]
  rw [publish, hexpand]
  dsimp only
  rw [hfree]
  dsimp only
  rw [if_neg (not_not.mpr hprev), hpub]

end TaskPublishService

/-! ### What the lists promise -/

/-- A call, with all that it reads beside the caller and the policy. -/
structure ApiCall (B : Type) where
  service : TaskPublishService
  validator : TaskTreeInputValidator := {}
  rateLimiter : ApiAuthContext → ApiPublishRequest → ApiRateLimitDecision :=
    fun _ _ => { allowed := true }
  bus : B
  store : InMemoryPublishIdempotencyStore := {}
  request : ApiPublishRequest
  env : PublishEnv
  unpiped : service.pipelineLoader = none

def TaskDomain.agentRef (t : TaskDomain) : Option String :=
  t.dispatchConstraints.bind TaskDispatchConstraints.preferredAgentId

structure BothPermit (auth : ApiAuthContext) (policy : ApiPublishPolicy) (capability : String)
    (agentRef : Option String) : Prop where
  capability : Permits auth.allowedCapabilities capability ∧
    Permits policy.allowedCapabilities capability
  agent : ∀ a, agentRef = some a →
    Permits auth.allowedAgentRefs a ∧ Permits policy.allowedAgentRefs a

/-- The same caller and policy with narrower lists, to the same limiter. -/
structure ApiNarrowed {B : Type} (call : ApiCall B) (wide auth : ApiAuthContext)
    (widePolicy policy : ApiPublishPolicy) : Prop where
  actor : auth.actorId = wide.actorId
  metadata : auth.metadata = wide.metadata
  requireKey : policy.requireIdempotencyKey = widePolicy.requireIdempotencyKey
  limit : call.rateLimiter auth call.request = call.rateLimiter wide call.request
  sessions : Narrows wide.allowedSessionIds auth.allowedSessionIds
  capabilities : Narrows wide.allowedCapabilities auth.allowedCapabilities
  agents : Narrows wide.allowedAgentRefs auth.allowedAgentRefs
  policyCapabilities : Narrows widePolicy.allowedCapabilities policy.allowedCapabilities
  policyAgents : Narrows widePolicy.allowedAgentRefs policy.allowedAgentRefs

namespace ApiCall

variable {B : Type}

def run [TaskBus B] (call : ApiCall B) (auth : ApiAuthContext) (policy : ApiPublishPolicy) :
    Except BusError ApiPublishResult × B × InMemoryPublishIdempotencyStore :=
  DefaultApiTaskPublisher.publish
    { publishService := call.service
      policy := policy
      validator := call.validator
      rateLimiter := call.rateLimiter }
    call.bus call.store call.request auth call.env

structure StaysInside (B : Type) [ShadowedBus B] (auth : ApiAuthContext)
    (policy : ApiPublishPolicy) : Prop where
  /-- What an accepted request is for, and what it brings to the bus. -/
  inside : ∀ (call : ApiCall B) (m : InMemoryTaskBus) result bus store,
    ShadowedBus.Shadow m call.bus → call.run auth policy = (.ok result, bus, store) →
    result.accepted = true →
    Permits auth.allowedSessionIds call.request.sessionId ∧
      ∀ s i t, TaskBus.get call.bus s i = .ok none → TaskBus.get bus s i = .ok (some t) →
        BothPermit auth policy t.requiredCapability t.agentRef
  /-- What wider lists reject is rejected. -/
  narrowed : ∀ (call : ApiCall B) wide widePolicy wideOut result bus store,
    ApiNarrowed call wide auth widePolicy policy →
    call.run wide widePolicy = (.ok wideOut, bus, store) →
    wideOut.accepted = false → ∀ bus' store', call.run auth policy = (.ok result, bus', store') →
      result.accepted = false
  /-- A rejection leaves the bus alone. -/
  unchanged : ∀ (call : ApiCall B) result bus store,
    call.run auth policy = (.ok result, bus, store) → result.accepted = false → bus = call.bus

end ApiCall

/-- No request can pass, or the lists have common values. -/
def ListsCompatible (auth : ApiAuthContext) (policy : ApiPublishPolicy) : Prop :=
  (∀ sessionId, sessionId ≠ "" → ¬Permits auth.allowedSessionIds sessionId) ∨
    Compatible [auth.allowedCapabilities, policy.allowedCapabilities] ∧
      (Compatible [auth.allowedAgentRefs, policy.allowedAgentRefs] ∨
        ∀ capability, isBlank capability = false →
          ¬(Permits auth.allowedCapabilities capability ∧
            Permits policy.allowedCapabilities capability))

namespace ApiCall

open DefaultApiTaskPublisher TreeInput

section

variable {B : Type} [TaskBus B] {call : ApiCall B} {auth wide : ApiAuthContext}
  {policy widePolicy : ApiPublishPolicy} {tree : NormalizedTaskTree} {bus : B}
  {store : InMemoryPublishIdempotencyStore} {result : ApiPublishResult}

/-- The call passes every check in front of the service. -/
structure Passes (call : ApiCall B) (auth : ApiAuthContext) (policy : ApiPublishPolicy)
    (tree : NormalizedTaskTree) : Prop where
  key : ¬(policy.requireIdempotencyKey ∧ call.request.idempotencyKey = none)
  session : Permits auth.allowedSessionIds call.request.sessionId
  limit : (call.rateLimiter auth call.request).allowed = true
  normal : normalized call.request auth = .ok tree
  catalogs : call.validator.validate tree = []
  lists : treePolicyErrors tree.iterNodes auth policy = []

/-- The request that the service gets. -/
def Passes.request (h : call.Passes auth policy tree) : PublishRequest :=
  servicePublishRequest call.request auth tree (normalizeTaskTreeInput_ok h.normal).1

/-- **A call** passes the checks and is the service's, or it is rejected. -/
theorem run_cases (call : ApiCall B) (auth : ApiAuthContext) (policy : ApiPublishPolicy) :
    (∃ tree, ∃ h : call.Passes auth policy tree, call.run auth policy =
      (((call.service.publish call.bus call.store h.request call.env).1.map .service),
        (call.service.publish call.bus call.store h.request call.env).2)) ∨
    ∃ errors, call.run auth policy =
      (.ok (publishRejected call.request auth errors), call.bus, call.store) := by
  unfold run DefaultApiTaskPublisher.publish
  split
  · exact .inr ⟨_, rfl⟩
  · next hkey =>
    split
    · exact .inr ⟨_, rfl⟩
    · next build hbuild =>
      obtain ⟨hsession, hlimit, tree, htree, herrors, rfl⟩ := buildPublishRequest_ok.mp hbuild
      obtain ⟨hcatalogs, hlists⟩ := List.append_eq_nil_iff.mp herrors
      exact .inl ⟨tree, ⟨hkey, hsession, hlimit, htree, hcatalogs, hlists⟩, rfl⟩

theorem Passes.run (h : call.Passes auth policy tree) : call.run auth policy =
    (((call.service.publish call.bus call.store h.request call.env).1.map .service),
      (call.service.publish call.bus call.store h.request call.env).2) := by
  have hbuild : buildPublishRequest
      { publishService := call.service, policy := policy, validator := call.validator,
        rateLimiter := call.rateLimiter } call.request auth = .ok h.request :=
    buildPublishRequest_ok.mpr ⟨h.session, h.limit, tree, h.normal,
      List.append_eq_nil_iff.mpr ⟨h.catalogs, h.lists⟩, rfl⟩
  unfold ApiCall.run DefaultApiTaskPublisher.publish
  rw [if_neg h.key, hbuild]

theorem Passes.run_service {r : PublishResult} (h : call.Passes auth policy tree)
    (hservice : call.service.publish call.bus call.store h.request call.env = (.ok r, bus, store)) :
    call.run auth policy = (.ok (.service r), bus, store) := by
  rw [h.run, hservice]
  rfl

theorem accepted_passes (hrun : call.run auth policy = (.ok result, bus, store))
    (hacc : result.accepted = true) : ∃ tree, ∃ h : call.Passes auth policy tree, ∃ r,
      call.service.publish call.bus call.store h.request call.env = (.ok r, bus, store) ∧
        r.accepted = true := by
  rcases run_cases call auth policy with ⟨tree, h, heq⟩ | ⟨errors, heq⟩
  · refine ⟨tree, h, ?_⟩
    rw [hrun] at heq
    rcases hservice : call.service.publish call.bus call.store h.request call.env with
      ⟨_ | r, bus', store'⟩
    · rw [hservice] at heq
      cases heq
    · rw [hservice] at heq
      cases heq
      exact ⟨r, rfl, hacc⟩
  · rw [hrun] at heq
    cases heq
    cases hacc

omit [TaskBus B] in
/-- The nodes of a call that passes are permitted by both lists, when the lists have a common
value. -/
theorem Passes.permits (h : call.Passes auth policy tree) (hlists : ListsCompatible auth policy)
    {node : NormalizedTaskNode} (hnode : node ∈ tree.iterNodes) :
    BothPermit auth policy node.requiredCapability node.agentRef := by
  have hworded := (normalizeTaskTreeInput_ok h.normal).2 node hnode
  obtain ⟨hcapability, hagent⟩ := treePolicyErrors_eq_nil.mp h.lists node hnode
  have hsession : call.request.sessionId ≠ "" := by
    have hfields := call.request.fields_ok
    simp only [Bool.and_eq_true] at hfields
    exact of_decide_eq_true hfields.1.1.1.2
  rcases hlists with hno | ⟨hcommon, hagents⟩
  · exact absurd h.session (hno _ hsession)
  · have hboth := (permits_meet (compatible_pair.mp hcommon) _).mp hcapability
    refine ⟨hboth, fun a ha => ?_⟩
    rcases hagents with hagents | hnone
    · exact (permits_meet (compatible_pair.mp hagents) a).mp (hagent a ha)
    · exact absurd hboth (hnone _ hworded.2)

omit [TaskBus B] in
theorem Passes.preview (h : call.Passes auth policy tree) :
    DefaultTaskPublisher.preview h.request = [] := by
  obtain ⟨hsource, hworded⟩ := normalizeTaskTreeInput_ok h.normal
  have hpublisher : tree.source = h.request.publisher := hsource
  show DefaultTaskPublisher.validateRequestTree h.request tree = []
  rw [DefaultTaskPublisher.validateRequestTree, if_neg (not_not.mpr hpublisher),
    List.nil_append, List.flatMap_eq_nil_iff]
  intro node hnode
  obtain ⟨hintent, hcapability⟩ := hworded node hnode
  rw [hintent, hcapability]
  rfl

omit [TaskBus B] in
theorem Passes.widen (h : call.Passes auth policy tree) (hlists : ListsCompatible auth policy)
    (hn : ApiNarrowed call wide auth widePolicy policy) : call.Passes wide widePolicy tree where
  key := by
    rw [← hn.requireKey]
    exact h.key
  session := hn.sessions.permits h.session
  limit := by
    rw [← hn.limit]
    exact h.limit
  normal := by
    rw [← h.normal, normalized, normalized, ApiAuthContext.publisher, ApiAuthContext.publisher,
      hn.actor]
  catalogs := h.catalogs
  lists := by
    refine treePolicyErrors_eq_nil.mpr fun node hnode => ?_
    obtain ⟨⟨hauth, hpolicy⟩, hagent⟩ := h.permits hlists hnode
    have hcapability := And.intro (hn.capabilities.permits hauth)
      (hn.policyCapabilities.permits hpolicy)
    refine ⟨(permits_meet ⟨_, hcapability⟩ _).mpr hcapability, fun a ha => ?_⟩
    have hboth := And.intro (hn.agents.permits (hagent a ha).1)
      (hn.policyAgents.permits (hagent a ha).2)
    exact (permits_meet ⟨_, hboth⟩ a).mpr hboth

omit [TaskBus B] in
theorem Passes.request_widen (h : call.Passes auth policy tree)
    (hn : ApiNarrowed call wide auth widePolicy policy) (hw : call.Passes wide widePolicy tree) :
    hw.request = h.request := by
  have hpublisher : wide.publisher = auth.publisher := by
    rw [ApiAuthContext.publisher, ApiAuthContext.publisher, hn.actor]
  simp only [Passes.request, servicePublishRequest, hpublisher, hn.actor, hn.metadata]

end

/-! ### Lists with a common value -/

section

open ShadowedBus

variable {B : Type} [ShadowedBus B] {call : ApiCall B} {auth : ApiAuthContext}
  {policy : ApiPublishPolicy} {tree : NormalizedTaskTree} {bus : B}
  {store : InMemoryPublishIdempotencyStore} {result : ApiPublishResult}

theorem Passes.new_task {m : InMemoryTaskBus} {r : PublishResult} {s i : String} {t : TaskDomain}
    (h : call.Passes auth policy tree) (hsh : Shadow m call.bus)
    (hservice : call.service.publish call.bus call.store h.request call.env = (.ok r, bus, store))
    (habsent : TaskBus.get call.bus s i = .ok none) (hget : TaskBus.get bus s i = .ok (some t)) :
    ∃ node ∈ tree.iterNodes, t.requiredCapability = node.requiredCapability ∧
      t.agentRef = (norm B (some (h.request.dispatchConstraints tree node))).bind
        TaskDispatchConstraints.preferredAgentId := by
  have hsame : bus ≠ call.bus := by
    rintro rfl
    rw [hget] at habsent
    cases habsent
  have hpublish := (TaskPublishService.publish_unpiped call.unpiped hservice).resolve_left hsame
  have hbus : (DefaultTaskPublisher.publish call.service.uuid5 call.bus h.request
      call.env).2 = bus := congrArg Prod.snd hpublish
  rw [← hbus] at hget
  obtain ⟨tree', htree, node, hnode, n, rfl⟩ := DefaultTaskPublisher.publish_new hsh habsent hget
  obtain rfl : tree = tree' := Option.some.inj htree
  exact ⟨node, hnode, rfl, rfl⟩

theorem bus_of_rejected (hrun : call.run auth policy = (.ok result, bus, store))
    (hrej : result.accepted = false) : bus = call.bus := by
  rcases run_cases call auth policy with ⟨tree, h, heq⟩ | ⟨errors, heq⟩
  · rw [hrun] at heq
    rcases hservice : call.service.publish call.bus call.store h.request call.env with
      ⟨_ | r, bus', store'⟩
    · rw [hservice] at heq
      cases heq
    · rw [hservice] at heq
      cases heq
      rcases TaskPublishService.publish_unpiped call.unpiped hservice with hsame | hpublish
      · exact hsame
      · rcases DefaultTaskPublisher.publish_moves call.service.uuid5 call.bus h.request
          call.env with hsame | ⟨hacc, -⟩
        · rw [hpublish] at hsame
          exact hsame
        · have haccepted : r.accepted = true := hacc r (congrArg Prod.fst hpublish)
          rw [show r.accepted = false from hrej] at haccepted
          cases haccepted
  · rw [hrun] at heq
    cases heq
    rfl

/-- **Lists with a common value hold**, on a bus that keeps the agent of a task. -/
theorem staysInside_of_compatible
    (hnorm : ∀ c, (norm B (some c)).bind TaskDispatchConstraints.preferredAgentId =
      c.preferredAgentId) (hlists : ListsCompatible auth policy) : StaysInside B auth policy where
  inside := by
    intro call m result bus store hsh hrun hacc
    obtain ⟨tree, h, r, hservice, -⟩ := accepted_passes hrun hacc
    refine ⟨h.session, fun s i t habsent hget => ?_⟩
    obtain ⟨node, hnode, hcapability, hagent⟩ := h.new_task hsh hservice habsent hget
    rw [hcapability, hagent, hnorm]
    exact h.permits hlists hnode
  narrowed := by
    intro call wide widePolicy wideOut result bus store hn hwide hrej bus' store' hrun
    by_contra hacc
    obtain ⟨tree, h, -⟩ := accepted_passes hrun (by simpa using hacc)
    have hw := h.widen hlists hn
    have hsame : call.run wide widePolicy = call.run auth policy := by
      rw [hw.run, h.run, h.request_widen hn hw]
    rw [hsame, hrun] at hwide
    cases hwide
    exact hacc hrej
  unchanged _ _ _ _ := bus_of_rejected

end

/-! ### Lists without a common value -/

/-- The item of a payload of one task. -/
def soleItem (capability agentRef : String) : PyValue :=
  .dict [("id", .str "t"), ("title", .str "title"), ("intent", .str "intent"),
    ("capability", .str capability), ("agent", .str agentRef)]

def soleTask (capability agentRef : String) : Dict String PyValue :=
  Dict.ofList [("tasks", .list [soleItem capability agentRef])]

def soleNode (capability agentRef : String) : NormalizedTaskNode where
  nodeId := "t"
  title := "title"
  intent := "intent"
  requiredCapability := capability
  agentRef := if isBlank agentRef then none else some agentRef

def soleCall {B : Type} (bus : B) (sessionId : String) (hsession : sessionId ≠ "")
    (capability agentRef : String) : ApiCall B where
  service := .sample
  bus := bus
  request :=
    { requestId := "r"
      sessionId := sessionId
      taskTree := soleTask capability agentRef
      idempotencyKey := some "k"
      fields_ok := by
        simp only [Bool.and_eq_true]
        exact ⟨⟨⟨⟨rfl, decide_eq_true hsession⟩, rfl⟩, rfl⟩, rfl⟩ }
  env := .sample
  unpiped := rfl

theorem rootNodes_soleItem {capability agentRef : String}
    (hcapability : isBlank capability = false) :
    rootNodes [soleItem capability agentRef] = .ok [soleNode capability agentRef] := by
  have hid : isBlank "t" = false := by decide
  have htitle : isBlank "title" = false := by decide
  have hintent : isBlank "intent" = false := by decide
  simp [rootNodes, hasParentLinks, soleItem, lookupEntries, normalizeNodes, normalizeNode,
    requiredStr, optionalStr, hid, htitle, hintent, hcapability, checkChildren, optionalStrTuple,
    normalizeChildren, metadata, soleNode, bind, Except.bind, pure, Except.pure]

theorem normalize_soleTask {publisher : PublisherRef} {capability agentRef : String}
    (supplied : Dict String PyValue) (hpublisher : publisher.fieldsOk = true)
    (hcapability : isBlank capability = false) :
    ∃ tree,
      normalizeTaskTreeInput (soleTask capability agentRef) publisher none supplied = .ok tree ∧
      tree.rootNodes = [soleNode capability agentRef] := by
  have hpayloads : taskPayloads (soleTask capability agentRef).entries =
      .ok [soleItem capability agentRef] := rfl
  have hown : metadata (soleTask capability agentRef).entries ["metadata"] = .ok Dict.empty := rfl
  have hnode : (soleNode capability agentRef).fieldsOk = true := by
    have hagent : optText.accepts (soleNode capability agentRef).agentRef = true := by
      rw [soleNode]
      dsimp only
      split
      · rfl
      · next hblank =>
        exact TaskDomain.accepts_optText_some.mpr
          (ne_empty_of_not_isBlank (Bool.eq_false_iff.mpr hblank))
    have hcap : Codec.text.accepts (soleNode capability agentRef).requiredCapability = true :=
      decide_eq_true (ne_empty_of_not_isBlank hcapability)
    rw [NormalizedTaskNode.fieldsOk, hagent, hcap]
    rfl
  have hbuild : ∃ tree, NormalizedTaskTree.build [soleNode capability agentRef] publisher
      (treeRef (soleTask capability agentRef).entries none)
      (Dict.ofList ((Dict.empty : Dict String PyValue).entries ++ supplied.entries)) = some tree ∧
      tree.rootNodes = [soleNode capability agentRef] := by
    unfold NormalizedTaskTree.build
    rw [dif_pos]
    · exact ⟨_, rfl, rfl⟩
    · refine ⟨List.cons_ne_nil _ _, ?_, ⟨hpublisher, rfl⟩, rfl⟩
      show ([soleNode capability agentRef].all NormalizedTaskNode.fieldsOk) = true
      rw [List.all_cons, hnode]
      rfl
  obtain ⟨tree, htree, hroots⟩ := hbuild
  refine ⟨tree, ?_, hroots⟩
  rw [normalizeTaskTreeInput, hpayloads]
  simp only [bind, Except.bind, rootNodes_soleItem hcapability, hown, htree]
  rfl

section

open ShadowedBus AcceptingBus

variable {B : Type} [AcceptingBus B] {b : B} {auth : ApiAuthContext} {policy : ApiPublishPolicy}
  {sessionId capability agentRef : String}

omit [AcceptingBus B] in
theorem soleCall_passes (agentRef : String) {hsession : sessionId ≠ ""}
    (hallowed : Permits auth.allowedSessionIds sessionId) (hblank : isBlank capability = false)
    (hcapability : Permits (meet auth.allowedCapabilities policy.allowedCapabilities) capability)
    (hagent : isBlank agentRef = false →
      Permits (meet auth.allowedAgentRefs policy.allowedAgentRefs) agentRef) :
    ∃ tree, (soleCall b sessionId hsession capability agentRef).Passes auth policy tree ∧
      tree.iterNodes = [soleNode capability agentRef] := by
  obtain ⟨tree, htree, hroots⟩ := normalize_soleTask
    (Dict.ofList [("api_actor_id", .str auth.actorId)]) auth.publisher_ok hblank
  have hnodes : tree.iterNodes = [soleNode capability agentRef] := by
    rw [NormalizedTaskTree.iterNodes, hroots]
    rfl
  refine ⟨tree, ⟨fun hkey => ?_, hallowed, rfl, htree, ?_,
    treePolicyErrors_eq_nil.mpr fun node hnode => ?_⟩, hnodes⟩
  · cases hkey.2
  · show TaskTreeInputValidator.validate {} tree = []
    rw [TaskTreeInputValidator.validate, hnodes]
    simp
  · rw [hnodes, List.mem_singleton] at hnode
    subst hnode
    refine ⟨hcapability, fun a ha => ?_⟩
    simp only [soleNode, ite_eq_iff, reduceCtorEq, and_false, false_or, Bool.not_eq_true] at ha
    obtain ⟨hfull, ha⟩ := ha
    cases ha
    exact hagent hfull

/-- **The task comes to an empty bus**, so both lists must permit it. -/
theorem StaysInside.permits_sole (agentRef : String) (hinside : StaysInside B auth policy)
    (h : Shadow InMemoryTaskBus.empty b) (hfits : FitsOrder B 0)
    (hnorm : ∀ c, (norm B (some c)).bind TaskDispatchConstraints.preferredAgentId =
      c.preferredAgentId)
    (hsession : sessionId ≠ "") (hallowed : Permits auth.allowedSessionIds sessionId)
    (hblank : isBlank capability = false)
    (hcapability : Permits (meet auth.allowedCapabilities policy.allowedCapabilities) capability)
    (hagent : isBlank agentRef = false →
      Permits (meet auth.allowedAgentRefs policy.allowedAgentRefs) agentRef) :
    BothPermit auth policy capability (soleNode capability agentRef).agentRef := by
  have habsent : ∀ s i, TaskBus.get b s i = .ok none := fun s i => get_none h rfl
  obtain ⟨tree, hpass, hnodes⟩ :=
    @soleCall_passes _ b _ _ _ _ agentRef hsession hallowed hblank hcapability hagent
  have hroom : ∀ i < tree.iterNodes.length, FitsOrder B i := by
    rw [hnodes]
    intro i hi
    obtain rfl : i = 0 := by simpa using hi
    exact hfits
  obtain ⟨r, hpublish, hacc, hall⟩ := @DefaultTaskPublisher.publish_fresh _ Uuid5.sample
    hpass.request tree PublishEnv.sample B _ b _ h rfl rfl hpass.preview rfl (habsent sessionId)
    hroom
  have hservice := @TaskPublishService.publish_unrecorded .sample B _ b _ {} _ _ _ rfl rfl
    hpass.preview hpublish
  have hrun := hpass.run_service hservice
  obtain ⟨-, hnew⟩ := hinside.inside _ _ _ _ _ h hrun hacc
  -- the task of the node is on the bus
  have hmem : soleNode capability agentRef ∈ tree.iterNodes := by
    rw [hnodes]
    exact List.mem_singleton_self _
  obtain ⟨n, hwanted⟩ := DefaultTaskPublisher.exists_wanted .sample hpass.request .sample hmem
  have hvalid : ∀ t ∈ (DefaultTaskPublisher.wanted .sample hpass.request tree .sample).1,
      t.Valid := DefaultTaskPublisher.valid_wanted
  obtain ⟨-, m', hshadow, -, hstored⟩ := DefaultTaskPublisher.publishAll_ok _ h hvalid hall
  have hget := get_readable hshadow (hstored _ hwanted) (readable_valid (hvalid _ hwanted))
  have hboth := hnew _ _ _ (habsent _ _) hget
  have hagentRef : (norm B (some (hpass.request.dispatchConstraints tree
      (soleNode capability agentRef)))).bind TaskDispatchConstraints.preferredAgentId =
      (soleNode capability agentRef).agentRef := hnorm _
  rw [← hagentRef]
  exact hboth

/-- **What the lists must have in common**, on a bus that is empty at first. -/
theorem compatible_of_staysInside (hinside : StaysInside B auth policy)
    (h : Shadow InMemoryTaskBus.empty b) (hfits : FitsOrder B 0)
    (hnorm : ∀ c, (norm B (some c)).bind TaskDispatchConstraints.preferredAgentId =
      c.preferredAgentId) : ListsCompatible auth policy := by
  by_contra hlists
  obtain ⟨hsome, hlists⟩ := not_or.mp hlists
  push Not at hsome
  obtain ⟨sessionId, hsession, hallowed⟩ := hsome
  have hcapabilities : Compatible [auth.allowedCapabilities, policy.allowedCapabilities] := by
    by_contra hnot
    have hboth := hinside.permits_sole "" h hfits hnorm hsession hallowed
      (show isBlank "general" = false by decide) (.inl (meet_of_not_compatible hnot))
      (fun hfull => absurd hfull (by decide))
    exact hnot (compatible_pair.mpr ⟨_, hboth.capability⟩)
  obtain ⟨hagents, hsome⟩ := not_or.mp fun hor => hlists ⟨hcapabilities, hor⟩
  push Not at hsome
  obtain ⟨capability, hblank, hcapability⟩ := hsome
  have hboth := hinside.permits_sole "agent" h hfits hnorm hsession hallowed hblank
    ((permits_meet ⟨_, hcapability⟩ _).mpr hcapability)
    (fun _ => .inl (meet_of_not_compatible hagents))
  have hagent : (soleNode capability "agent").agentRef = some "agent" := by
    have hfull : isBlank "agent" = false := by decide
    rw [soleNode, hfull]
    rfl
  exact hagents (compatible_pair.mpr ⟨_, hboth.agent "agent" hagent⟩)

end

/-- **API publishing stays inside both allowlists exactly when the lists have common values**,
or when nothing can be published, on both buses. -/
theorem staysInside_iff (auth : ApiAuthContext) (policy : ApiPublishPolicy) :
    (StaysInside InMemoryTaskBus auth policy ↔ ListsCompatible auth policy) ∧
      (StaysInside SqliteTaskBus auth policy ↔ ListsCompatible auth policy) :=
  ⟨⟨fun h => compatible_of_staysInside h shadow_inMemory_empty trivial fun _ => rfl,
      staysInside_of_compatible fun _ => rfl⟩,
    ⟨fun h => compatible_of_staysInside h shadow_sqlite_empty
        (show (0 : ℕ) < 2 ^ 63 by decide) fun _ => rfl,
      staysInside_of_compatible fun _ => rfl⟩⟩

/-- A caller for `read`, where the deployment is for `write`. -/
def reader : ApiAuthContext where
  actorId := "reader"
  allowedCapabilities := ["read"]
  actor_ok := by decide

/-- Two lists without a common value restrict nothing. -/
theorem disjoint_lists_publish : ¬∀ (auth : ApiAuthContext) (policy : ApiPublishPolicy),
    StaysInside InMemoryTaskBus auth policy ∧ StaysInside SqliteTaskBus auth policy := by
  intro hall
  rcases compatible_of_staysInside (hall reader { allowedCapabilities := ["write"] }).1
    shadow_inMemory_empty trivial (fun _ => rfl) with hno | ⟨hcommon, -⟩
  · exact hno "s" (by decide) (.inl rfl)
  · exact not_compatible_pair (by decide) (by decide) (by decide) hcommon

end ApiCall

end Taskweavn

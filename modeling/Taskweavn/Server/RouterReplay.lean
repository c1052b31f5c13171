import Taskweavn.Contract.ServiceRuns
import Taskweavn.Server.RouterSafety

/-!
# Sending an input again

A client that has lost the answer of a route sends the input again, under the same command
id.  The id is the key of the contract command that the route sends, so the second route
should find the result of the first.  It does not: the command has the id of the routing
decision in it, which is drawn anew, and the hash that is kept with the record is taken of
the whole command.  The second command has another hash and meets a conflict.

Only the requests for WeChat do not go through the contract service; `replays_iff` says
that they are the only inputs that can be sent again.
-/

namespace Taskweavn

open Lib Py

namespace DefaultRuntimeInputRouter

variable {G I : Type} (router : DefaultRuntimeInputRouter G I)

/-! ### What sending again should do -/

/-- The targets that a contract command or a task request is sent for. -/
def ReplayTarget (target : RuntimeInputDispatchTarget) : Prop :=
  target = .recordGuidance ∨ target = .executionHandoff ∨ target = .resolveAsk ∨
    target = .resolveConfirmation

/-- The input is guidance, or the planner has routed it to one of these targets. -/
def RoutedTo (request : RuntimeInputRouteRequest) (input : RouterInput I)
    (target : RuntimeInputDispatchTarget) : Prop :=
  (request.mode = .guide ∧ target = .recordGuidance) ∨
    ∃ p, router.RoutedBy request input p ∧ p.dispatchTarget = target

/-- **A route replays the one before it**: it is dispatched with the same contract result,
and there is no second fact, node, answer or response. -/
structure Replays (world : RouterWorld G) (first : RuntimeInputRouteResult) (second : Routed G) :
    Prop where
  dispatched : ∃ r, second.1 = some r ∧ r.status = .dispatched ∧
    r.contractResult = first.contractResult
  fact : ∀ i, ¬world.contract.NewFact second.2.contract i
  node : ∀ k, ¬world.contract.NewNode second.2.contract k
  answer : first.dispatchTarget = .resolveAsk ∨ first.dispatchTarget = .resolveConfirmation →
    second.2.contract.gateway = world.contract.gateway

def HandsWechat (request : RuntimeInputRouteRequest) (input : RouterInput I)
    (draft : RouterTaskRequestDraft) : Prop :=
  ∃ p, router.RoutedBy request input p ∧ p.dispatchTarget = .executionHandoff ∧
    p.taskRequestDraft = some draft ∧ draft.taskType = wechatSendTaskType

/-- The execution plane takes the request of a draft, and the dispatcher does not raise. -/
def Takes (request : RuntimeInputRouteRequest) (draft : RouterTaskRequestDraft)
    (input : RouterInput I) (world : RouterWorld G) : Prop :=
  ∃ plane resolution execution contract, router.executionPlane = some plane ∧
    wechatResolution draft = some resolution ∧
    plane (wechatSendTaskRequest resolution request input.contentHash) input.gateway
      world.contract = (.published execution, contract) ∧
    execution.status ≠ .failed ∧
    ∀ trigger, router.executionTrigger = some trigger → execution.status = .pending →
      (trigger.requestDispatch
        ⟨execution.sessionId, .publishStartImmediately, execution.requestId⟩ input.gateway
        contract).1 = true

/-- Neither the execution plane nor the dispatcher writes guidance or task nodes. -/
structure KeepsContract : Prop where
  plane : ∀ plane, router.executionPlane = some plane → ∀ request input world,
    (plane request input world).2.guidance = world.guidance ∧
      (plane request input world).2.plans = world.plans
  trigger : ∀ trigger, router.executionTrigger = some trigger → ∀ request input world,
    (trigger.requestDispatch request input world).2.guidance = world.guidance ∧
      (trigger.requestDispatch request input world).2.plans = world.plans

variable {router} {service : ContractRevisionCommandService G I}
  {request : RuntimeInputRouteRequest} {input : RouterInput I} {world world' : RouterWorld G}

/-! ### The routes that send a contract command -/

variable (service request input world) in
/-- The route sends a contract command under the id of the request, with its decision in
it. -/
def Sends (r : Routed G) : Prop :=
  ∃ intent target sideEffect withResponse, ∃ command : ContractCommandRequest,
    command.sessionId = request.sessionId ∧ command.idempotencyKey = request.commandId ∧
    command.routerDecisionId = some input.decisionId ∧
    r = contractRouted input intent target sideEffect withResponse
      (issueContract service command input.contract world)

def Idle (r : Routed G) : Prop := ∀ result, r.1 = some result → result.status ≠ .dispatched

theorem idle_unsupported {intent : RuntimeInputIntent} {target : RuntimeInputDispatchTarget}
    {sideEffect : SessionActivitySideEffect} :
    Idle (unsupported input intent target sideEffect world) := by
  intro result h
  cases h
  intro hstatus
  cases hstatus

theorem sends_recordGuidance (hservice : router.contractService = some service) :
    Sends service request input world (router.recordGuidance request input world) := by
  unfold recordGuidance
  rw [hservice]
  exact ⟨_, _, _, _, _, rfl, rfl, rfl, rfl⟩

theorem sends_createContractTask (hservice : router.contractService = some service)
    (draft : Option RouterTaskRequestDraft) :
    Sends service request input world (router.createContractTask request draft input world) := by
  unfold createContractTask
  rw [hservice]
  exact ⟨_, _, _, _, _, rfl, rfl, rfl, rfl⟩

theorem sends_answerAsk (hservice : router.contractService = some service)
    (ask : AskRequestView) (text : String) :
    Sends service request input world (router.answerAsk request ask text input world) := by
  unfold answerAsk
  rw [hservice]
  exact ⟨_, _, _, _, _, rfl, rfl, rfl, rfl⟩

theorem sends_resolveConfirmation (hservice : router.contractService = some service)
    (confirmation : ConfirmationActionView) (value : String) :
    Sends service request input world
      (router.resolveConfirmation request confirmation value input world) := by
  unfold resolveConfirmation
  rw [hservice]
  exact ⟨_, _, _, _, _, rfl, rfl, rfl, rfl⟩

variable (world) in
/-- **A route to these targets sends a contract command, or it is not dispatched**, unless
it is for WeChat. -/
theorem sends_or_idle (hservice : router.contractService = some service)
    {target : RuntimeInputDispatchTarget} (ht : ReplayTarget target)
    (hto : router.RoutedTo request input target)
    (hwechat : ∀ draft, ¬router.HandsWechat request input draft) :
    Sends service request input world (router.route request input world) ∨
      Idle (router.route request input world) := by
  rcases hto with ⟨hmode, -⟩ | ⟨p, hp, rfl⟩
  · left
    unfold route
    rw [hmode]
    exact sends_recordGuidance hservice
  rw [hp.route_eq, dispatchPlannerProposal]
  rcases ht with ht | ht | ht | ht
  · rw [ht]
    exact .inl (sends_recordGuidance hservice)
  · rw [ht]
    simp only [dispatchExecutionHandoff]
    cases hd : p.taskRequestDraft with
    | none => exact .inr idle_unsupported
    | some draft =>
      have htype : draft.taskType ≠ wechatSendTaskType :=
        fun h => hwechat draft ⟨p, hp, ht, hd, h⟩
      simp only [createExecutionTask, if_neg htype]
      exact .inl (sends_createContractTask hservice _)
  · rw [ht]
    simp only [plannerResolveAsk]
    split
    · exact .inr idle_unsupported
    · exact .inr idle_unsupported
    · split
      · exact .inr idle_unsupported
      · exact .inl (sends_answerAsk hservice _ _)
  · rw [ht]
    simp only [plannerResolveConfirmation]
    split
    · exact .inr idle_unsupported
    · exact .inr idle_unsupported
    · split
      · exact .inr idle_unsupported
      · exact .inl (sends_resolveConfirmation hservice _ _)

theorem Sends.recorded {first : RuntimeInputRouteResult}
    (h : Sends service request input world (some first, world'))
    (hstatus : first.status = .dispatched) :
    ∃ command : ContractCommandRequest, ∃ result, command.routerDecisionId = some input.decisionId ∧
      first.contractResult = some result ∧
      world'.records.get? (request.sessionId, request.commandId) =
        some (service.hashRequest command, result) := by
  obtain ⟨intent, target, sideEffect, withResponse, command, hs, hk, hd, heq⟩ := h
  cases hexec : service.execute world.records world.contract command input.contract with
  | mk answer rest =>
    obtain ⟨records, contract⟩ := rest
    simp only [issueContract, hexec] at heq
    cases answer with
    | none =>
      simp only [contractRouted] at heq
      cases heq
    | some result =>
      simp only [contractRouted] at heq
      cases heq
      have hne : result.status ≠ .conflict := by
        intro hc
        simp only [hc] at hstatus
        cases hstatus
      have hget := ContractRevisionCommandService.execute_recorded hexec hne
      rw [hs, hk] at hget
      exact ⟨command, result, hd, rfl, hget⟩

theorem Sends.rejected {r : Routed G} (h : Sends service request input world r)
    {hash : String} {cached : ContractCommandResult}
    (hget : world.records.get? (request.sessionId, request.commandId) = some (hash, cached))
    (hhash : ∀ command : ContractCommandRequest,
      command.routerDecisionId = some input.decisionId → hash ≠ service.hashRequest command) :
    Idle r := by
  obtain ⟨intent, target, sideEffect, withResponse, command, hs, hk, hd, rfl⟩ := h
  rw [← hs, ← hk] at hget
  simp only [issueContract,
    ContractRevisionCommandService.execute_conflict hget (hhash command hd), contractRouted]
  intro result hr
  cases hr
  intro hstatus
  simp [conflictResult, noEffect, resultOf] at hstatus

/-! ### The routes for WeChat -/

theorem wechat_route {draft : RouterTaskRequestDraft}
    (h : router.HandsWechat request input draft) :
    router.route request input world =
      match wechatResolution draft with
      | none => (none, world)
      | some resolution => router.createWechatSendTaskRequest request resolution input world := by
  obtain ⟨p, hp, ht, hd, htype⟩ := h
  rw [hp.route_eq, dispatchPlannerProposal, ht]
  cases hw : wechatResolution draft with
  | none => simp only [dispatchExecutionHandoff, hd, createExecutionTask, if_pos htype, hw]
  | some resolution =>
    simp only [dispatchExecutionHandoff, hd, createExecutionTask, if_pos htype, hw]

/-- The task request is dispatched when the plane has published it and the dispatcher has
not raised. -/
theorem published_dispatched
    {plane : TaskRequest → I → ContractWorld G → PublishAnswer × ContractWorld G}
    {resolution : WeChatSendResolution} :
    (∃ r, (router.publishWechatSendTaskRequest plane request resolution input world).1 = some r ∧
      r.status = .dispatched) ↔
    ∃ execution contract, plane (wechatSendTaskRequest resolution request input.contentHash)
        input.gateway world.contract = (.published execution, contract) ∧
      execution.status ≠ .failed ∧
      ∀ trigger, router.executionTrigger = some trigger → execution.status = .pending →
        (trigger.requestDispatch
          ⟨execution.sessionId, .publishStartImmediately, execution.requestId⟩ input.gateway
          contract).1 = true := by
  unfold publishWechatSendTaskRequest issue
  cases hplane : plane (wechatSendTaskRequest resolution request input.contentHash) input.gateway
      world.contract with
  | mk answer contract =>
    simp only [hplane]
    cases answer with
    | raised => simp
    | refused => simp
    | published execution =>
      cases htrigger : router.executionTrigger with
      | none => simp
      | some trigger =>
        by_cases hpending : execution.status = .pending
        · cases hd : trigger.requestDispatch
              ⟨execution.sessionId, .publishStartImmediately, execution.requestId⟩ input.gateway
              contract with
          | mk ok contract' => cases ok <;> simp [hpending, hd]
        · simp [hpending]

/-- **A request for WeChat is dispatched exactly when the plane takes it.** -/
theorem wechat_dispatched {draft : RouterTaskRequestDraft}
    (h : router.HandsWechat request input draft) :
    (∃ r, (router.route request input world).1 = some r ∧ r.status = .dispatched) ↔
      router.Takes request draft input world := by
  rw [wechat_route h]
  unfold Takes
  cases hres : wechatResolution draft with
  | none => simp
  | some resolution =>
    simp only [createWechatSendTaskRequest]
    cases hplane : router.executionPlane with
    | none => simp
    | some plane => simp [published_dispatched]

variable (world) in
/-- A request for WeChat has no contract result, and it writes no guidance and no task
node. -/
theorem wechat_keeps (hkeeps : router.KeepsContract) {draft : RouterTaskRequestDraft}
    (h : router.HandsWechat request input draft) :
    (∀ r, (router.route request input world).1 = some r → r.contractResult = none ∧
      r.dispatchTarget = .executionHandoff) ∧
    (router.route request input world).2.contract.guidance = world.contract.guidance ∧
    (router.route request input world).2.contract.plans = world.contract.plans := by
  rw [wechat_route h]
  cases hres : wechatResolution draft with
  | none => simp
  | some resolution =>
    simp only [createWechatSendTaskRequest]
    cases hplane : router.executionPlane with
    | none => simp
    | some plane =>
      have hkept := hkeeps.plane plane hplane
        (wechatSendTaskRequest resolution request input.contentHash) input.gateway world.contract
      unfold publishWechatSendTaskRequest issue
      cases hanswer : plane (wechatSendTaskRequest resolution request input.contentHash)
          input.gateway world.contract with
      | mk answer contract =>
        rw [hanswer] at hkept
        simp only [hanswer]
        cases answer with
        | raised => simpa using hkept
        | refused => simpa using hkept
        | published execution =>
          cases htrigger : router.executionTrigger with
          | none => simpa using hkept
          | some trigger =>
            have hdispatch := hkeeps.trigger trigger htrigger
              ⟨execution.sessionId, .publishStartImmediately, execution.requestId⟩ input.gateway
              contract
            by_cases hpending : execution.status = .pending
            · cases hd : trigger.requestDispatch
                  ⟨execution.sessionId, .publishStartImmediately, execution.requestId⟩
                  input.gateway contract with
              | mk ok contract' =>
                rw [hd] at hdispatch
                have hkept' : contract'.guidance = world.contract.guidance ∧
                    contract'.plans = world.contract.plans :=
                  ⟨hdispatch.1.trans hkept.1, hdispatch.2.trans hkept.2⟩
                cases ok <;> simpa [hpending, hd] using hkept'
            · simpa [hpending] using hkept

/-! ### The second route -/

/-- **Sending an input again replays it exactly when both times it is handed over as a
request for WeChat that the plane takes again.** -/
theorem replays_iff (hservice : router.contractService = some service)
    (hsha : ∀ c c' : ContractCommandContent, service.sha256 c = service.sha256 c' →
      c.routerDecisionId = c'.routerDecisionId)
    (hkeeps : router.KeepsContract) {input' : RouterInput I}
    (hfresh : input.decisionId ≠ input'.decisionId) {target : RuntimeInputDispatchTarget}
    (ht : ReplayTarget target) (hto : router.RoutedTo request input target)
    (hto' : router.RoutedTo request input' target) {first : RuntimeInputRouteResult}
    (hroute : router.route request input world = (some first, world'))
    (hfirst : first.status = .dispatched) :
    Replays world' first (router.route request input' world') ↔
      ∃ draft draft', router.HandsWechat request input draft ∧
        router.HandsWechat request input' draft' ∧ router.Takes request draft' input' world' := by
  constructor
  · rintro ⟨⟨r, hr, hstatus, hresult⟩, -, -, -⟩
    by_cases hw : ∃ draft, router.HandsWechat request input draft
    · obtain ⟨draft, hw⟩ := hw
      by_cases hw' : ∃ draft, router.HandsWechat request input' draft
      · obtain ⟨draft', hw'⟩ := hw'
        exact ⟨draft, draft', hw, hw', (wechat_dispatched hw').mp ⟨r, hr, hstatus⟩⟩
      · -- the first has no contract result, and the second has one
        have hnone := ((wechat_keeps world hkeeps hw).1 first (by rw [hroute])).1
        rcases sends_or_idle world' hservice ht hto' (not_exists.mp hw') with hs | hi
        · have hs' : Sends service request input' world'
              (some r, (router.route request input' world').2) := by
            rw [← hr]
            exact hs
          obtain ⟨_, result, _, hsome, _⟩ := hs'.recorded hstatus
          rw [hresult, hnone] at hsome
          cases hsome
        · exact absurd hstatus (hi r hr)
    · have hs := (sends_or_idle world hservice ht hto (not_exists.mp hw)).resolve_right
        (fun hi => hi first (by rw [hroute]) hfirst)
      rw [hroute] at hs
      obtain ⟨command, result, hd, hsome, hget⟩ := hs.recorded hfirst
      by_cases hw' : ∃ draft, router.HandsWechat request input' draft
      · obtain ⟨draft', hw'⟩ := hw'
        have hnone := ((wechat_keeps world' hkeeps hw').1 r hr).1
        rw [← hresult, hnone] at hsome
        cases hsome
      · -- the second command meets the record of the first
        have hidle : Idle (router.route request input' world') := by
          rcases sends_or_idle world' hservice ht hto' (not_exists.mp hw') with hs' | hi
          · refine hs'.rejected hget ?_
            intro command' hd' heq
            have := hsha _ _ heq
            simp only [ContractCommandRequest.content, hd, hd', Option.some.injEq] at this
            exact hfresh this
          · exact hi
        exact absurd hstatus (hidle r hr)
  · rintro ⟨draft, draft', hw, hw', htakes⟩
    obtain ⟨r, hr, hstatus⟩ := (wechat_dispatched hw').mpr htakes
    obtain ⟨hnone', hguidance, hplans⟩ := wechat_keeps world' hkeeps hw'
    obtain ⟨hnone, htarget⟩ :=
      (wechat_keeps world hkeeps hw).1 first (by rw [hroute])
    refine ⟨⟨r, hr, hstatus, ?_⟩, ?_, ?_, ?_⟩
    · rw [(hnone' r hr).1, hnone]
    · exact fun i => ContractWorld.not_newFact_self hguidance
    · exact fun k => ContractWorld.not_newNode_self hplans
    · rintro (h | h) <;> rw [htarget] at h <;> cases h

/-! ### Concrete routes -/

/-- A service whose hash tells the decisions apart. -/
def replayService : ContractRevisionCommandService Unit Unit :=
  { ContractRevisionCommandService.sample with
    sha256 := fun c =>
      match c.routerDecisionId with
      | none => ""
      | some decisionId => "#" ++ decisionId }

theorem replayService_sha256 {c c' : ContractCommandContent}
    (h : replayService.sha256 c = replayService.sha256 c') :
    c.routerDecisionId = c'.routerDecisionId := by
  have hne : ∀ d : String, "#" ++ d ≠ "" := by
    intro d heq
    have := congrArg String.toList heq
    simp at this
  simp only [replayService] at h
  cases hc : c.routerDecisionId with
  | none =>
    cases hc' : c'.routerDecisionId with
    | none => rfl
    | some d =>
      rw [hc, hc'] at h
      exact absurd h.symm (hne d)
  | some d =>
    cases hc' : c'.routerDecisionId with
    | none =>
      rw [hc, hc'] at h
      exact absurd h (hne d)
    | some d' =>
      rw [hc, hc'] at h
      simpa using h

/-- The model wants to send a message. -/
def wechatText : String :=
  "\x7b\"intent\":\"execution_request\",\"dispatchTarget\":\"execution_handoff\"," ++
    "\"sideEffect\":\"state_effect\",\"confidence\":\"high\"," ++
    "\"visibleReasoningSummary\":\"send\",\"userMessage\":\"send\"," ++
    "\"taskRequestDraft\":\x7b\"taskType\":\"communication.wechat.send_message\"," ++
    "\"instructions\":\"send\",\"input\":\x7b\"contactDisplayName\":\"b\"," ++
    "\"messageText\":\"hello\"\x7d,\"policy\":\x7b\"requiredCapability\":" ++
    "\"communication.wechat_desktop_send\",\"requiresHumanConfirmation\":true," ++
    "\"riskLevel\":\"high\"\x7d\x7d\x7d"

def wechatDraft : RouterTaskRequestDraft where
  taskType := wechatSendTaskType
  instructions := "send"
  input := Dict.ofList [("contactDisplayName", .str "b"), ("messageText", .str "hello")]
  policy :=
    { requiredCapability := wechatSendCapability, requiresHumanConfirmation := true,
      riskLevel := .high }

def wechatProposal : RuntimeInputRouteProposal where
  intent := .executionRequest
  dispatchTarget := .executionHandoff
  sideEffect := .stateEffect
  confidence := .high
  taskRequestDraft := some wechatDraft

/-- A plane that publishes everything. -/
def replayRouter : DefaultRuntimeInputRouter Unit Unit where
  commandGateway := sampleGateway
  contractService := some replayService
  executionPlane := some (fun request _ world =>
    (.published ⟨"e", request.idempotencyKey, "s", .pending⟩, world))
  routePlanner := some
    { parse := fun text =>
        if text = wechatText then .ok wechatProposal else .error "output parse failed" }

def replayInput (decisionId : String) : RouterInput Unit :=
  { sampleRouterInput wechatText with decisionId := decisionId }

theorem replayRouter_keeps : replayRouter.KeepsContract := by
  refine ⟨?_, ?_⟩
  · intro plane h request input world
    cases h
    exact ⟨rfl, rfl⟩
  · intro trigger h
    cases h

theorem replayRouter_hands (decisionId : String) :
    replayRouter.HandsWechat sampleRoute (replayInput decisionId) wechatDraft := by
  refine ⟨wechatProposal, ⟨.inl rfl, ?_⟩, rfl, rfl, rfl⟩
  have h : replayRouter.planned sampleRoute (sampleRouterInput wechatText) =
      some (.planned wechatProposal) := by
    decide +kernel
  exact h

/-- A message that is sent again. -/
theorem replays_wechat :
    ∃ first world, replayRouter.route sampleRoute (replayInput "d") sampleRouterWorld =
        (some first, world) ∧ first.status = .dispatched ∧
      Replays world first (replayRouter.route sampleRoute (replayInput "e") world) := by
  have hto : ∀ d, replayRouter.RoutedTo sampleRoute (replayInput d) .executionHandoff := by
    intro d
    obtain ⟨p, hp, ht, -⟩ := replayRouter_hands d
    exact .inr ⟨p, hp, ht⟩
  have hcontact : requiredInputStr wechatDraft "contactDisplayName" = some "b" := by
    decide +kernel
  have hmessage : requiredInputStr wechatDraft "messageText" = some "hello" := by
    decide +kernel
  have hres : wechatResolution wechatDraft = some ⟨"b", "hello"⟩ := by
    rw [wechatResolution, hcontact, hmessage]
    rfl
  have htakes : ∀ d world, replayRouter.Takes sampleRoute wechatDraft (replayInput d) world := by
    intro d world
    refine ⟨_, _, _, _, rfl, hres, rfl, ?_, ?_⟩
    · intro h
      cases h
    · intro trigger h
      cases h
  obtain ⟨first, hfirst, hstatus⟩ :=
    (wechat_dispatched (replayRouter_hands "d")).mpr (htakes "d" sampleRouterWorld)
  have hroute : replayRouter.route sampleRoute (replayInput "d") sampleRouterWorld =
      (some first, (replayRouter.route sampleRoute (replayInput "d") sampleRouterWorld).2) := by
    rw [← hfirst]
  have hservice : replayRouter.contractService = some replayService := rfl
  have hfresh : (replayInput "d").decisionId ≠ (replayInput "e").decisionId := by
    decide
  refine ⟨first, _, hroute, hstatus, ?_⟩
  refine (replays_iff hservice (fun _ _ => replayService_sha256) replayRouter_keeps hfresh
    (.inr (.inl rfl)) (hto "d") (hto "e") hroute hstatus).mpr ?_
  exact ⟨wechatDraft, wechatDraft, replayRouter_hands "d", replayRouter_hands "e", htakes "e" _⟩

/-- Guidance. -/
def guideRoute : RuntimeInputRouteRequest :=
  { sampleRoute with mode := .guide, selection := { scopeKind := .session, valid := rfl } }

/-- The guidance is recorded, and sent again it meets a conflict. -/
theorem guidance_conflicts :
    ∃ first world, replayRouter.route guideRoute (replayInput "d") sampleRouterWorld =
        (some first, world) ∧ first.status = .dispatched ∧
      world.contract.guidance.keys = ["g"] ∧
      ¬Replays world first (replayRouter.route guideRoute (replayInput "e") world) := by
  refine ⟨_, _, rfl, rfl, rfl, ?_⟩
  rintro ⟨⟨r, hr, hstatus, -⟩, -, -, -⟩
  cases hr
  cases hstatus

end DefaultRuntimeInputRouter

end Taskweavn

import Taskweavn.Server.RuntimeInputRouter

/-!
# What a route may touch

The router fails closed: whatever the model answers, a route issues at most one call that
changes state, and none when it is only asked or when no output validates.  `RouteCalls`
lists the calls that a route can issue, `route_calls` says that there are no others, and
the rest is read off the list.

Two of the calls are not for what was named.  The task that is stopped or retried is the
selected one, whatever task the draft of the model names; and when the selected task has
no open confirmation, the only open one of the session is taken, whatever task it belongs
to.  `actsOnNamed_iff` says that these are the only two.
-/

namespace Taskweavn

open Lib Py

namespace DefaultRuntimeInputRouter

variable {G I : Type} (router : DefaultRuntimeInputRouter G I)

def RoutedBy (request : RuntimeInputRouteRequest) (input : RouterInput I)
    (p : RuntimeInputRouteProposal) : Prop :=
  (request.mode = .auto ∨ request.mode = .change) ∧
    router.planned request input = some (.planned p)

inductive RouteCalls (request : RuntimeInputRouteRequest) (input : RouterInput I) :
    List StateCall → Prop
  | silent : RouteCalls request input []
  | guidance : RouteCalls request input [.contract (guidanceCommand request input.decisionId)]
  | execution (draft : Option RouterTaskRequestDraft) :
      RouteCalls request input [.contract (executionCommand request draft input.decisionId)]
  | wechat (p : RuntimeInputRouteProposal) (draft : RouterTaskRequestDraft)
      (resolution : WeChatSendResolution) (hp : router.RoutedBy request input p)
      (htarget : p.dispatchTarget = .executionHandoff) (hdraft : p.taskRequestDraft = some draft)
      (htype : draft.taskType = wechatSendTaskType) (hres : wechatResolution draft =
        some resolution) :
      RouteCalls request input
        [.publishTask (wechatSendTaskRequest resolution request input.contentHash)]
  | ask (ask : AskRequestView) (text : String)
      (hask : input.snapshot.activeAsk request = some ask) :
      RouteCalls request input [.contract (askCommand request ask.id text input.decisionId)]
  | askDirect (ask : AskRequestView) (command : CommandRequest AnswerAskPayload)
      (hask : input.snapshot.activeAsk request = some ask) :
      RouteCalls request input [.answerAsk ask.id command]
  | confirmation (p : RuntimeInputRouteProposal) (draft : RouterConfirmationResponseDraft)
      (confirmation : ConfirmationActionView) (hp : router.RoutedBy request input p)
      (htarget : p.dispatchTarget = .resolveConfirmation)
      (hdraft : p.confirmationResponseDraft = some draft)
      (hconf : input.snapshot.activeConfirmation request = some confirmation) (call : StateCall)
      (hcall : call = .contract (confirmationCommand request confirmation.id
          draft.resolution.toText input.decisionId) ∨
        ∃ command, call = .resolveConfirmation confirmation.id command) :
      RouteCalls request input [call]
  | task (p : RuntimeInputRouteProposal) (draft : RouterCommandDraft) (taskNodeId : String)
      (hp : router.RoutedBy request input p) (htarget : p.dispatchTarget = .existingCommand)
      (hdraft : p.commandDraft = some draft) (hsel : selectedTask request = some taskNodeId)
      (call : StateCall)
      (hcall : (draft.commandKind = .stopTask ∧ ∃ command, call = .stopTask taskNodeId command) ∨
        (draft.commandKind = .retryTask ∧ ∃ command, call = .retryTask taskNodeId command)) :
      RouteCalls request input [call]

/-! ### The calls of the handlers -/

variable {router} {request : RuntimeInputRouteRequest} {input : RouterInput I}
  {world : RouterWorld G} {p : RuntimeInputRouteProposal} {call : StateCall} {new : List StateCall}

theorem calls_contract {intent : RuntimeInputIntent} {target : RuntimeInputDispatchTarget}
    {sideEffect : SessionActivitySideEffect} {withResponse : Bool}
    {service : ContractRevisionCommandService G I} {command : ContractCommandRequest}
    {ci : ContractInput I} :
    (contractRouted input intent target sideEffect withResponse
      (issueContract service command ci world)).2.calls = world.calls ++ [.contract command] := by
  cases h : issueContract service command ci world with
  | mk result w =>
    have hw : w.calls = world.calls ++ [.contract command] := congrArg (fun r => r.2.calls) h.symm
    cases result with
    | none => exact hw
    | some result => exact hw

theorem calls_gateway {intent : RuntimeInputIntent} {target : RuntimeInputDispatchTarget}
    {sideEffect : SessionActivitySideEffect}
    {service : ContractWorld G → Option CommandResponse × ContractWorld G} :
    (gatewayRouted input intent target sideEffect (issue call service world)).2.calls =
      world.calls ++ [call] := by
  cases h : issue call service world with
  | mk response w =>
    have hw : w.calls = world.calls ++ [call] := congrArg (fun r => r.2.calls) h.symm
    cases response with
    | none => exact hw
    | some response => exact hw

@[simp] theorem calls_answerReadOnlyInquiry : (answerReadOnlyInquiry input world).2 = world := by
  unfold answerReadOnlyInquiry
  split <;> rfl

variable (router request input world) in
/-- The calls that a handler has issued are among those of the list. -/
def Issued (r : Routed G) : Prop :=
  ∃ new, r.2.calls = world.calls ++ new ∧ router.RouteCalls request input new

theorem issued_silent {r : Routed G} (h : r.2 = world) : Issued router request input world r :=
  ⟨[], by rw [h, List.append_nil], .silent⟩

theorem issued_one {r : Routed G} (h : r.2.calls = world.calls ++ [call])
    (hc : router.RouteCalls request input [call]) : Issued router request input world r :=
  ⟨[call], h, hc⟩

theorem issued_recordGuidance :
    Issued router request input world (router.recordGuidance request input world) := by
  unfold recordGuidance
  split
  · exact issued_silent rfl
  · exact issued_one calls_contract .guidance

theorem issued_createContractTask (draft : Option RouterTaskRequestDraft) :
    Issued router request input world (router.createContractTask request draft input world) := by
  unfold createContractTask
  split
  · exact issued_silent rfl
  · exact issued_one calls_contract (.execution draft)

theorem calls_publishWechat
    {plane : TaskRequest → I → ContractWorld G → PublishAnswer × ContractWorld G}
    {resolution : WeChatSendResolution} :
    (router.publishWechatSendTaskRequest plane request resolution input world).2.calls =
      world.calls ++
        [.publishTask (wechatSendTaskRequest resolution request input.contentHash)] := by
  have hissue : ∀ {a : PublishAnswer} {w : RouterWorld G},
      issue (.publishTask (wechatSendTaskRequest resolution request input.contentHash))
        (plane (wechatSendTaskRequest resolution request input.contentHash) input.gateway) world =
        (a, w) →
      w.calls = world.calls ++
        [.publishTask (wechatSendTaskRequest resolution request input.contentHash)] := by
    rintro a w h
    exact congrArg (fun r => r.2.calls) h.symm
  unfold publishWechatSendTaskRequest
  simp only
  split
  · next h => exact hissue h
  · next h => exact hissue h
  · next h =>
    have hw := hissue h
    split
    · split
      · split
        · exact hw
        · exact hw
      · exact hw
    · exact hw

theorem issued_handoff (hp : router.RoutedBy request input p)
    (htarget : p.dispatchTarget = .executionHandoff) :
    Issued router request input world (router.dispatchExecutionHandoff request p input world) := by
  unfold dispatchExecutionHandoff
  split
  · exact issued_silent rfl
  · next draft hdraft =>
    unfold createExecutionTask
    simp only
    split
    · next htype =>
      split
      · exact issued_silent rfl
      · next resolution hres =>
        unfold createWechatSendTaskRequest
        split
        · exact issued_one calls_publishWechat
            (.wechat p draft resolution hp htarget hdraft htype hres)
        · exact issued_silent rfl
    · exact issued_createContractTask _

theorem issued_ask :
    Issued router request input world
      (router.plannerResolveAsk request p (input.snapshot.activeAsk request) input world) := by
  unfold plannerResolveAsk
  split
  · exact issued_silent rfl
  · exact issued_silent rfl
  · next ask draft hask _ =>
    split
    · exact issued_silent rfl
    · unfold answerAsk
      simp only
      split
      · exact issued_one calls_contract (.ask ask _ hask)
      · exact issued_one calls_gateway (.askDirect ask _ hask)

theorem issued_confirmation (hp : router.RoutedBy request input p)
    (htarget : p.dispatchTarget = .resolveConfirmation) :
    Issued router request input world
      (router.plannerResolveConfirmation request p (input.snapshot.activeConfirmation request)
        input world) := by
  unfold plannerResolveConfirmation
  split
  · exact issued_silent rfl
  · exact issued_silent rfl
  · next confirmation draft hconf hdraft =>
    split
    · exact issued_silent rfl
    · unfold resolveConfirmation
      split
      · exact issued_one calls_contract
          (.confirmation p draft confirmation hp htarget hdraft hconf _ (.inl rfl))
      · exact issued_one calls_gateway
          (.confirmation p draft confirmation hp htarget hdraft hconf _ (.inr ⟨_, rfl⟩))

theorem issued_command (hp : router.RoutedBy request input p)
    (htarget : p.dispatchTarget = .existingCommand) :
    Issued router request input world (router.dispatchExistingCommand request p input world) := by
  unfold dispatchExistingCommand
  split
  · exact issued_silent rfl
  · next draft hdraft =>
    split
    · next hkind =>
      unfold stopSelectedTask
      split
      · exact issued_silent rfl
      · next taskNodeId hsel =>
        exact issued_one calls_gateway
          (.task p draft taskNodeId hp htarget hdraft hsel _ (.inl ⟨hkind, _, rfl⟩))
    · next hkind =>
      unfold retrySelectedTask
      split
      · exact issued_silent rfl
      · next taskNodeId hsel =>
        exact issued_one calls_gateway
          (.task p draft taskNodeId hp htarget hdraft hsel _ (.inr ⟨hkind, _, rfl⟩))
    · exact issued_silent rfl

theorem issued_planner (hmode : request.mode = .auto ∨ request.mode = .change)
    {otherwise : Routed G}
    (ho : Issued router request input world otherwise) :
    Issued router request input world
      (router.routePlannerResult request input world otherwise) := by
  unfold routePlannerResult
  split
  · exact ho
  · exact issued_silent rfl
  · next p hplanned =>
    have hp : router.RoutedBy request input p := ⟨hmode, hplanned⟩
    unfold dispatchPlannerProposal
    split
    · exact issued_silent calls_answerReadOnlyInquiry
    · exact issued_recordGuidance
    · next ht => exact issued_command hp ht
    · exact issued_ask
    · next ht => exact issued_confirmation hp ht
    · next ht => exact issued_handoff hp ht
    · exact issued_silent rfl
    · exact issued_silent rfl

variable (router request input world) in
/-- **A route issues no call but those of the list.** -/
theorem route_calls : Issued router request input world (router.route request input world) := by
  unfold route
  split
  · exact issued_silent calls_answerReadOnlyInquiry
  · exact issued_recordGuidance
  · next hmode => exact issued_planner (.inr hmode) (issued_createContractTask none)
  · next hmode => exact issued_planner (.inl hmode) (issued_silent rfl)

/-! ### Acting on what was named -/

def IsTaskCommand (taskNodeId : String) : StateCall → Prop
  | .stopTask i _ => i = taskNodeId
  | .retryTask i _ => i = taskNodeId
  | _ => False

/-- The call answers the question. -/
def ResolvesAsk (askId : String) : StateCall → Prop
  | .contract r => r.commandKind = .resolveAsk ∧ r.askId = some askId
  | .answerAsk i _ => i = askId
  | _ => False

def ResolvesConfirmation (confirmationId : String) : StateCall → Prop
  | .contract r => r.commandKind = .resolveConfirmation ∧ r.confirmationId = some confirmationId
  | .resolveConfirmation i _ => i = confirmationId
  | _ => False

variable (router request input) in
/-- Neither the client nor the model has named a confirmation. -/
def NoConfirmationId : Prop :=
  request.activeConfirmationId = none ∧ ∀ p draft, router.RoutedBy request input p →
    p.confirmationResponseDraft = some draft → draft.confirmationId = none

variable (router request input) in
/-- **The router fails closed and acts on what was named**: what the calls of a route are
for. -/
structure ActsOnNamed (new : List StateCall) : Prop where
  one : new.length ≤ 1
  asked : request.mode = .ask → new = []
  invalid : request.mode = .auto ∨ request.mode = .change →
    ∀ warning, router.planned request input = some (.unavailable warning) → new = []
  harmless : ∀ p, router.RoutedBy request input p →
    (p.dispatchTarget = .readOnlyInquiry ∨ p.dispatchTarget = .clarification ∨
      p.dispatchTarget = .unsupported) → new = []
  task : ∀ call ∈ new, ∀ taskNodeId, IsTaskCommand taskNodeId call →
    ∃ p draft, router.RoutedBy request input p ∧ p.commandDraft = some draft ∧
      draft.targetTaskNodeId = some taskNodeId
  ask : ∀ call ∈ new, ∀ askId, ResolvesAsk askId call →
    ∃ asks, input.snapshot.asks = some asks ∧ ∃ a ∈ asks, a.id = askId ∧ a.status = .pending ∧
      (request.activeAskId = none → ∀ taskNodeId, request.selection.taskNodeId = some taskNodeId →
        ∃ i ∈ input.snapshot.taskIds taskNodeId, a.taskNodeId = some i)
  confirmation : ∀ call ∈ new, ∀ confirmationId, ResolvesConfirmation confirmationId call →
    ∃ cs, input.snapshot.confirmations = some cs ∧ ∃ c ∈ cs, c.id = confirmationId ∧
      c.status = .pending ∧ (router.NoConfirmationId request input →
        ∀ taskNodeId, request.selection.taskNodeId = some taskNodeId → c.taskNodeId = taskNodeId)
  wechat : ∀ taskRequest, .publishTask taskRequest ∈ new →
    taskRequest.policy.requiredCapability = wechatSendCapability →
    taskRequest.policy.requiresHumanConfirmation = true ∧
      ∃ contact, taskRequest.input.get? "contactDisplayName" = some (.str contact) ∧
        oneContact contact = true

variable (router request input) in
/-- The draft of the model names the selected task, and the only open confirmation of the
session is one of the selected task. -/
structure NamesSelected : Prop where
  task : ∀ p draft taskNodeId, router.RoutedBy request input p →
    p.dispatchTarget = .existingCommand → p.commandDraft = some draft →
    selectedTask request = some taskNodeId → draft.targetTaskNodeId = some taskNodeId
  confirmation : ∀ p taskNodeId cs c, router.RoutedBy request input p →
    p.dispatchTarget = .resolveConfirmation → router.NoConfirmationId request input →
    request.selection.taskNodeId = some taskNodeId → input.snapshot.confirmations = some cs →
    cs.filter (fun c => c.status == .pending) = [c] → c.taskNodeId = taskNodeId

/-! ### Questions and confirmations of a snapshot -/

theorem oldestAsk_mem {asks : List AskRequestView} {a : AskRequestView}
    (h : oldestAsk asks = some a) : a ∈ asks :=
  mem_sortOn.mp (List.mem_of_head? h)

theorem selectActiveAsk_mem {asks : List AskRequestView} {tree : Option (List TaskNodeCardView)}
    {a : AskRequestView} (h : selectActiveAsk asks tree = some a) : a ∈ asks := by
  unfold selectActiveAsk at h
  simp only at h
  split at h
  · obtain ⟨n, _, hn⟩ := List.exists_of_findSome?_eq_some h
    exact List.mem_of_mem_filter (List.mem_of_mem_filter (oldestAsk_mem hn))
  · have hm := oldestAsk_mem h
    split at hm
    · exact List.mem_of_mem_filter hm
    · exact List.mem_of_mem_filter (List.mem_of_mem_filter hm)

/-- **The active question** is an open one of the session, and of the selected task when
the client has not named it. -/
theorem activeAsk_spec {snapshot : RouterSnapshot} {a : AskRequestView}
    (h : snapshot.activeAsk request = some a) :
    ∃ asks, snapshot.asks = some asks ∧ a ∈ asks ∧ a.status = .pending ∧
      (request.activeAskId = none → ∀ taskNodeId, request.selection.taskNodeId = some taskNodeId →
        ∃ i ∈ snapshot.taskIds taskNodeId, a.taskNodeId = some i) := by
  unfold RouterSnapshot.activeAsk at h
  split at h
  · next askId hid =>
    rw [Option.filter_eq_some_iff] at h
    obtain ⟨hget, hpending⟩ := h
    obtain ⟨asks, hasks, hfind⟩ := Option.bind_eq_some_iff.mp hget
    refine ⟨asks, hasks, List.mem_of_find?_eq_some hfind, by simpa using hpending, ?_⟩
    intro hnone
    rw [hid] at hnone
    cases hnone
  · split at h
    · cases h
    · next listed active hlist =>
      obtain ⟨asks, hasks, heq⟩ := Option.map_eq_some_iff.mp hlist
      simp only [Prod.mk.injEq] at heq
      obtain ⟨hlisted, hactive⟩ := heq
      -- either way the question is a listed one
      have hmem : a ∈ listed := by
        split at h
        · cases h
          rw [← hlisted]
          exact selectActiveAsk_mem hactive
        · split at h
          · cases h
            exact List.mem_singleton_self a
          · cases h
      rw [← hlisted, List.mem_filter, Bool.and_eq_true] at hmem
      obtain ⟨hm, hpending, htask⟩ := hmem
      refine ⟨asks, hasks, hm, by simpa using hpending, ?_⟩
      intro _ taskNodeId hsel
      simp only [hsel, Option.any_eq_true, List.contains_iff_mem] at htask
      obtain ⟨i, hi, hmem⟩ := htask
      exact ⟨i, hmem, hi⟩

theorem only_eq_some {α : Type} {l : List α} {a : α} : only l = some a ↔ l = [a] := by
  cases l with
  | nil => simp [only]
  | cons x xs => cases xs <;> simp [only]

/-- **The active confirmation** is an open one of the session; when nobody has named it,
it is one of the selected task or the only open one. -/
theorem activeConfirmation_spec {snapshot : RouterSnapshot} {c : ConfirmationActionView}
    (h : snapshot.activeConfirmation request = some c) :
    ∃ cs, snapshot.confirmations = some cs ∧ c ∈ cs ∧ c.status = .pending ∧
      (request.activeConfirmationId = none →
        ∀ taskNodeId, request.selection.taskNodeId = some taskNodeId →
          c.taskNodeId = taskNodeId ∨ cs.filter (fun c => c.status == .pending) = [c]) := by
  unfold RouterSnapshot.activeConfirmation at h
  split at h
  · cases h
  · next cs hcs =>
    refine ⟨cs, hcs, ?_⟩
    have hopen : c ∈ cs.filter (fun c => c.status == .pending) →
        c ∈ cs ∧ c.status = .pending := by
      intro hm
      obtain ⟨hm, hp⟩ := List.mem_filter.mp hm
      exact ⟨hm, by simpa using hp⟩
    simp only at h
    split at h
    · next confirmationId hid =>
      obtain ⟨hm, hp⟩ := hopen (List.mem_of_find?_eq_some h)
      refine ⟨hm, hp, fun hnone => ?_⟩
      rw [hid] at hnone
      cases hnone
    · split at h
      · next taskNodeId hsel =>
        split at h
        · next c' hc' =>
          cases h
          have hm : c ∈ (cs.filter (fun c => c.status == .pending)).filter
              (fun c => c.taskNodeId == taskNodeId) := by
            rw [only_eq_some.mp hc']
            exact List.mem_singleton_self c
          obtain ⟨hm, ht⟩ := List.mem_filter.mp hm
          obtain ⟨hm, hp⟩ := hopen hm
          refine ⟨hm, hp, fun _ taskNodeId' hsel' => .inl ?_⟩
          rw [hsel] at hsel'
          cases hsel'
          simpa using ht
        · have hl := only_eq_some.mp h
          obtain ⟨hm, hp⟩ := hopen (by rw [hl]; exact List.mem_singleton_self c)
          exact ⟨hm, hp, fun _ _ _ => .inr hl⟩
      · next hsel =>
        have hl := only_eq_some.mp h
        obtain ⟨hm, hp⟩ := hopen (by rw [hl]; exact List.mem_singleton_self c)
        exact ⟨hm, hp, fun _ _ _ => .inr hl⟩

theorem activeConfirmation_only {snapshot : RouterSnapshot} {cs : List ConfirmationActionView}
    {c : ConfirmationActionView} (hid : request.activeConfirmationId = none)
    (hcs : snapshot.confirmations = some cs)
    (hl : cs.filter (fun c => c.status == .pending) = [c]) :
    snapshot.activeConfirmation request = some c := by
  unfold RouterSnapshot.activeConfirmation
  simp only [hcs, hid, hl]
  split
  · by_cases hc : c.taskNodeId == ‹String›
    · simp [hc, only]
    · simp [hc, only]
  · rfl

/-! ### Both directions -/

/-- The proposal that the planner has routed with is a valid one, and it is the only
one. -/
theorem RoutedBy.unique {p' : RuntimeInputRouteProposal} (h : router.RoutedBy request input p)
    (h' : router.RoutedBy request input p') : p = p' := by
  have := h.2.symm.trans h'.2
  cases this
  rfl

theorem RoutedBy.valid (h : router.RoutedBy request input p) :
    ValidRoute p
      (allowedDispatchTargets (input.snapshot.activeAsk request).isSome
        (input.snapshot.activeConfirmation request).isSome)
      (input.snapshot.activeAsk request).isSome
      (input.snapshot.activeConfirmation request).isSome := by
  obtain ⟨planner, _, hplan⟩ := Option.map_eq_some_iff.mp h.2
  exact validRoute_of_none (LLMRuntimeInputRoutePlanner.plan_planned hplan)

theorem RoutedBy.route_eq (h : router.RoutedBy request input p) :
    router.route request input world =
      router.dispatchPlannerProposal request p (input.snapshot.activeAsk request)
        (input.snapshot.activeConfirmation request) input world := by
  unfold route routePlannerResult
  rcases h.1 with hm | hm <;> rw [hm, h.2]

theorem calls_unavailable (hmode : request.mode = .auto ∨ request.mode = .change)
    {warning : String} (h : router.planned request input = some (.unavailable warning)) :
    (router.route request input world).2 = world := by
  unfold route routePlannerResult
  rcases hmode with hm | hm <;> rw [hm, h] <;> rfl

theorem calls_asked (hmode : request.mode = .ask) :
    (router.route request input world).2 = world := by
  unfold route
  rw [hmode]
  exact calls_answerReadOnlyInquiry

theorem calls_harmless (h : router.RoutedBy request input p)
    (ht : p.dispatchTarget = .readOnlyInquiry ∨ p.dispatchTarget = .clarification ∨
      p.dispatchTarget = .unsupported) :
    (router.route request input world).2 = world := by
  rw [h.route_eq, dispatchPlannerProposal]
  rcases ht with ht | ht | ht <;> rw [ht]
  · exact calls_answerReadOnlyInquiry
  · rfl
  · rfl

variable (world) in
theorem calls_task {draft : RouterCommandDraft} {taskNodeId : String}
    (h : router.RoutedBy request input p) (ht : p.dispatchTarget = .existingCommand)
    (hd : p.commandDraft = some draft) (hsel : selectedTask request = some taskNodeId) :
    ∃ call, (router.route request input world).2.calls = world.calls ++ [call] ∧
      IsTaskCommand taskNodeId call := by
  have hvalid := h.valid.command ht
  rw [hd, validateCommandDraft] at hvalid
  have hkind : draft.commandKind = .stopTask ∨ draft.commandKind = .retryTask := by
    by_contra hne
    rw [if_pos (not_or.mp hne)] at hvalid
    cases hvalid
  rw [h.route_eq, dispatchPlannerProposal, ht]
  simp only [dispatchExistingCommand, hd]
  rcases hkind with hk | hk
  · simp only [hk, stopSelectedTask, hsel]
    exact ⟨_, calls_gateway, rfl⟩
  · simp only [hk, retrySelectedTask, hsel]
    exact ⟨_, calls_gateway, rfl⟩

variable (world) in
theorem calls_confirmation {c : ConfirmationActionView} (h : router.RoutedBy request input p)
    (ht : p.dispatchTarget = .resolveConfirmation)
    (hid : ∀ draft, p.confirmationResponseDraft = some draft → draft.confirmationId = none)
    (hd : p.confirmationResponseDraft ≠ none)
    (hc : input.snapshot.activeConfirmation request = some c) :
    ∃ call, (router.route request input world).2.calls = world.calls ++ [call] ∧
      ResolvesConfirmation c.id call := by
  obtain ⟨draft, hdraft⟩ := Option.ne_none_iff_exists'.mp hd
  rw [h.route_eq, dispatchPlannerProposal, ht, hc]
  simp only [plannerResolveConfirmation, hdraft, hid draft hdraft, Option.any_none,
    Bool.false_eq_true, if_false, resolveConfirmation]
  split
  · exact ⟨_, calls_contract, rfl, rfl⟩
  · exact ⟨_, calls_gateway, rfl⟩

/-! ### Reading the list -/

theorem length_of_calls (h : router.RouteCalls request input new) : new.length ≤ 1 := by
  cases h
  case silent => exact Nat.zero_le _
  all_goals exact le_refl _

theorem task_of_calls (h : router.RouteCalls request input new) (hm : call ∈ new) {i : String}
    (hi : IsTaskCommand i call) :
    ∃ p draft, router.RoutedBy request input p ∧ p.dispatchTarget = .existingCommand ∧
      p.commandDraft = some draft ∧ selectedTask request = some i := by
  cases h
  case silent => cases hm
  case task p draft taskNodeId hp htarget hdraft hsel call' hcall =>
    cases List.mem_singleton.mp hm
    refine ⟨p, draft, hp, htarget, hdraft, ?_⟩
    rcases hcall with ⟨_, _, rfl⟩ | ⟨_, _, rfl⟩
    · rwa [← show taskNodeId = i from hi]
    · rwa [← show taskNodeId = i from hi]
  case confirmation hcall =>
    cases List.mem_singleton.mp hm
    rcases hcall with rfl | ⟨_, rfl⟩ <;> exact hi.elim
  all_goals
    cases List.mem_singleton.mp hm
    exact hi.elim

theorem ask_of_calls (h : router.RouteCalls request input new) (hm : call ∈ new) {i : String}
    (hi : ResolvesAsk i call) :
    ∃ ask, input.snapshot.activeAsk request = some ask ∧ ask.id = i := by
  cases h
  case silent => cases hm
  case ask ask text hask =>
    cases List.mem_singleton.mp hm
    exact ⟨ask, hask, Option.some.inj hi.2⟩
  case askDirect ask command hask =>
    cases List.mem_singleton.mp hm
    exact ⟨ask, hask, hi⟩
  case confirmation hcall =>
    cases List.mem_singleton.mp hm
    rcases hcall with rfl | ⟨_, rfl⟩
    · cases hi.1
    · exact hi.elim
  case task hcall =>
    cases List.mem_singleton.mp hm
    rcases hcall with ⟨_, _, rfl⟩ | ⟨_, _, rfl⟩ <;> exact hi.elim
  case wechat =>
    cases List.mem_singleton.mp hm
    exact hi.elim
  all_goals
    cases List.mem_singleton.mp hm
    cases hi.1

theorem confirmation_of_calls (h : router.RouteCalls request input new) (hm : call ∈ new)
    {i : String} (hi : ResolvesConfirmation i call) :
    ∃ p confirmation, router.RoutedBy request input p ∧
      p.dispatchTarget = .resolveConfirmation ∧
      input.snapshot.activeConfirmation request = some confirmation ∧ confirmation.id = i := by
  cases h
  case silent => cases hm
  case confirmation p draft confirmation hp htarget hdraft hconf call' hcall =>
    cases List.mem_singleton.mp hm
    refine ⟨p, confirmation, hp, htarget, hconf, ?_⟩
    rcases hcall with rfl | ⟨_, rfl⟩
    · exact Option.some.inj hi.2
    · exact hi
  case task hcall =>
    cases List.mem_singleton.mp hm
    rcases hcall with ⟨_, _, rfl⟩ | ⟨_, _, rfl⟩ <;> exact hi.elim
  case wechat =>
    cases List.mem_singleton.mp hm
    exact hi.elim
  case askDirect =>
    cases List.mem_singleton.mp hm
    exact hi.elim
  all_goals
    cases List.mem_singleton.mp hm
    cases hi.1

theorem wechat_of_calls (h : router.RouteCalls request input new) {taskRequest : TaskRequest}
    (hm : .publishTask taskRequest ∈ new) :
    ∃ p draft resolution, router.RoutedBy request input p ∧
      p.dispatchTarget = .executionHandoff ∧ p.taskRequestDraft = some draft ∧
      draft.taskType = wechatSendTaskType ∧ wechatResolution draft = some resolution ∧
      taskRequest = wechatSendTaskRequest resolution request input.contentHash := by
  cases h
  case silent => cases hm
  case wechat p draft resolution hp htarget hdraft htype hres =>
    cases List.mem_singleton.mp hm
    exact ⟨p, draft, resolution, hp, htarget, hdraft, htype, hres, rfl⟩
  case confirmation hcall =>
    cases List.mem_singleton.mp hm
    rcases hcall with hcall | ⟨_, hcall⟩ <;> cases hcall
  case task hcall =>
    cases List.mem_singleton.mp hm
    rcases hcall with ⟨_, _, hcall⟩ | ⟨_, _, hcall⟩ <;> cases hcall
  all_goals cases List.mem_singleton.mp hm

theorem oneContact_resolution {draft : RouterTaskRequestDraft} {resolution : WeChatSendResolution}
    (hvalid : validateWechatTaskRequestDraft draft = none)
    (hres : wechatResolution draft = some resolution) :
    oneContact resolution.contactDisplayName = true := by
  obtain ⟨contact, message, hc, _, hone, _, _⟩ := wechat_of_none hvalid
  obtain ⟨contact', hc', hres⟩ := Option.bind_eq_some_iff.mp hres
  obtain ⟨_, _, rfl⟩ := Option.map_eq_some_iff.mp hres
  rw [requiredInputStr, hc] at hc'
  cases hc'
  exact oneContact_strip hone

/-- **The router fails closed, and acts on what was named exactly when the model and the
only open confirmation name the selected task.** -/
theorem actsOnNamed_iff (router : DefaultRuntimeInputRouter G I)
    (request : RuntimeInputRouteRequest) (input : RouterInput I) (world : RouterWorld G) :
    (∃ new, (router.route request input world).2.calls = world.calls ++ new ∧
      router.ActsOnNamed request input new) ↔ router.NamesSelected request input := by
  constructor
  · rintro ⟨new, hnew, h⟩
    refine ⟨?_, ?_⟩
    · intro p draft taskNodeId hp ht hd hsel
      obtain ⟨call, hcall, his⟩ := calls_task world hp ht hd hsel
      obtain rfl := List.append_cancel_left (hnew.symm.trans hcall)
      obtain ⟨p', draft', hp', hd', heq⟩ := h.task call List.mem_cons_self taskNodeId his
      obtain rfl := hp.unique hp'
      rw [hd] at hd'
      cases hd'
      exact heq
    · intro p taskNodeId cs c hp ht hno hsel hcs hl
      have hactive := activeConfirmation_only hno.1 hcs hl
      obtain ⟨call, hcall, his⟩ := calls_confirmation world hp ht
        (fun draft hd => hno.2 p draft hp hd) (hp.valid.confirmation_draft ht) hactive
      obtain rfl := List.append_cancel_left (hnew.symm.trans hcall)
      obtain ⟨cs', hcs', c', hmem, _, hpending, htask⟩ :=
        h.confirmation call List.mem_cons_self c.id his
      rw [hcs] at hcs'
      cases hcs'
      -- the confirmation that is resolved is the only open one
      have hc' : c' ∈ cs.filter (fun c => c.status == .pending) :=
        List.mem_filter.mpr ⟨hmem, by simpa using hpending⟩
      rw [hl, List.mem_singleton] at hc'
      rw [← hc']
      exact htask hno taskNodeId hsel
  · intro hn
    obtain ⟨new, hnew, hcalls⟩ := route_calls router request input world
    have hsilent : (router.route request input world).2 = world → new = [] := by
      intro h
      rw [h] at hnew
      exact List.append_right_eq_self.mp hnew.symm
    refine ⟨new, hnew, length_of_calls hcalls, fun hm => hsilent (calls_asked hm),
      fun hm w hw => hsilent (calls_unavailable hm hw),
      fun p hp ht => hsilent (calls_harmless hp ht), ?_, ?_, ?_, ?_⟩
    · intro call hm i hi
      obtain ⟨p, draft, hp, ht, hd, hsel⟩ := task_of_calls hcalls hm hi
      exact ⟨p, draft, hp, hd, hn.task p draft i hp ht hd hsel⟩
    · intro call hm i hi
      obtain ⟨ask, hask, hid⟩ := ask_of_calls hcalls hm hi
      obtain ⟨asks, hasks, hmem, hpending, htask⟩ := activeAsk_spec hask
      exact ⟨asks, hasks, ask, hmem, hid, hpending, htask⟩
    · intro call hm i hi
      obtain ⟨p, c, hp, ht, hconf, hid⟩ := confirmation_of_calls hcalls hm hi
      obtain ⟨cs, hcs, hmem, hpending, htask⟩ := activeConfirmation_spec hconf
      refine ⟨cs, hcs, c, hmem, hid, hpending, fun hno taskNodeId hsel => ?_⟩
      rcases htask hno.1 taskNodeId hsel with heq | hl
      · exact heq
      · exact hn.confirmation p taskNodeId cs c hp ht hno hsel hcs hl
    · intro taskRequest hm _
      obtain ⟨p, draft, resolution, hp, ht, hd, htype, hres, rfl⟩ := wechat_of_calls hcalls hm
      have hv := hp.valid.task ht
      rw [hd, validateTaskRequestDraft, if_pos htype] at hv
      exact ⟨rfl, _, rfl, oneContact_resolution hv hres⟩

/-! ### Concrete routes -/

/-- A gateway that accepts everything. -/
def sampleGateway : UiCommandGateway (ContractWorld Unit) Unit where
  answerAsk _ request _ world := (some (.acceptedWith request.commandId "ok"), world)
  resolveConfirmation _ request _ world := (some (.acceptedWith request.commandId "ok"), world)
  stopTask _ request _ world := (some (.acceptedWith request.commandId "ok"), world)
  retryTask _ request _ world := (some (.acceptedWith request.commandId "ok"), world)

/-- The model wants to stop the task `b`. -/
def stopText : String :=
  "\x7b\"intent\":\"command\",\"dispatchTarget\":\"existing_command\"," ++
    "\"sideEffect\":\"state_effect\",\"confidence\":\"high\"," ++
    "\"visibleReasoningSummary\":\"stop\",\"userMessage\":\"stop\"," ++
    "\"commandDraft\":\x7b\"commandKind\":\"stop_task\",\"targetScopeKind\":\"task\"," ++
    "\"targetTaskNodeId\":\"b\",\"rationale\":\"stop\"\x7d\x7d"

def stopProposal : RuntimeInputRouteProposal where
  intent := .command
  dispatchTarget := .existingCommand
  sideEffect := .stateEffect
  confidence := .high
  commandDraft := some { commandKind := .stopTask, targetScopeKind := .task,
                         targetTaskNodeId := some "b" }

/-- The model wants to confirm what is open. -/
def confirmText : String :=
  "\x7b\"intent\":\"confirmation_response\",\"dispatchTarget\":\"resolve_confirmation\"," ++
    "\"sideEffect\":\"authorization_effect\",\"confidence\":\"high\"," ++
    "\"visibleReasoningSummary\":\"confirm\",\"userMessage\":\"confirm\"," ++
    "\"confirmationResponseDraft\":\x7b\"resolution\":\"confirmed\"\x7d\x7d"

def confirmProposal : RuntimeInputRouteProposal where
  intent := .confirmationResponse
  dispatchTarget := .resolveConfirmation
  sideEffect := .authorizationEffect
  confidence := .high
  confirmationResponseDraft := some { resolution := .confirmed }

def sampleRouter : DefaultRuntimeInputRouter Unit Unit where
  commandGateway := sampleGateway
  routePlanner := some
    { parse := fun text =>
        if text = stopText then .ok stopProposal
        else if text = confirmText then .ok confirmProposal
        else .error "output parse failed" }

/-- The task `a` is selected. -/
def sampleRoute : RuntimeInputRouteRequest where
  commandId := "c"
  sessionId := "s"
  content := "go on"
  selection := { scopeKind := .task, taskNodeId := some "a", valid := rfl }

/-- A confirmation of the task `b` is open. -/
def sampleRouterInput (text : String) : RouterInput Unit where
  decisionId := "d"
  outputs _ := .ok text
  inquiry := none
  snapshot := { confirmations := some [{ id := "m", taskNodeId := "b" }] }
  contentHash := ""
  contract := ⟨"g", .noon, ⟨"p", "n", .noon, .noon, .noon, .noon, .noon⟩, ()⟩
  gateway := ()

def sampleRouterWorld : RouterWorld Unit := { contract := { gateway := () } }

theorem planned_stop :
    sampleRouter.planned sampleRoute (sampleRouterInput stopText) =
    some (.planned stopProposal) := by
  decide +kernel

theorem planned_confirm :
    sampleRouter.planned sampleRoute (sampleRouterInput confirmText) =
      some (.planned confirmProposal) := by
  decide +kernel

/-- The task `a` is stopped though the model has named `b`; and the confirmation of `b` is
resolved though `a` is selected. -/
theorem acts_on_another :
    (¬∃ new, (sampleRouter.route sampleRoute (sampleRouterInput stopText)
        sampleRouterWorld).2.calls = sampleRouterWorld.calls ++ new ∧
      sampleRouter.ActsOnNamed sampleRoute (sampleRouterInput stopText) new) ∧
    (¬∃ new, (sampleRouter.route sampleRoute (sampleRouterInput confirmText)
        sampleRouterWorld).2.calls = sampleRouterWorld.calls ++ new ∧
      sampleRouter.ActsOnNamed sampleRoute (sampleRouterInput confirmText) new) := by
  have hstop : sampleRouter.RoutedBy sampleRoute (sampleRouterInput stopText) stopProposal :=
    ⟨.inl rfl, planned_stop⟩
  have hconfirm : sampleRouter.RoutedBy sampleRoute (sampleRouterInput confirmText)
    confirmProposal := ⟨.inl rfl, planned_confirm⟩
  constructor
  · rintro ⟨new, hnew, h⟩
    obtain ⟨call, hcall, his⟩ := calls_task sampleRouterWorld hstop rfl rfl rfl
    obtain rfl := List.append_cancel_left (hnew.symm.trans hcall)
    obtain ⟨p, draft, hp, hd, hid⟩ := h.task call List.mem_cons_self "a" his
    obtain rfl := hstop.unique hp
    cases hd
    exact absurd hid (by decide)
  · rintro ⟨new, hnew, h⟩
    have hno : sampleRouter.NoConfirmationId sampleRoute (sampleRouterInput confirmText) := by
      refine ⟨rfl, ?_⟩
      intro p draft hp hd
      obtain rfl := hconfirm.unique hp
      cases hd
      rfl
    obtain ⟨call, hcall, his⟩ := calls_confirmation sampleRouterWorld hconfirm rfl
      (fun draft hd => hno.2 _ draft hconfirm hd) (Option.some_ne_none _) rfl
    obtain rfl := List.append_cancel_left (hnew.symm.trans hcall)
    obtain ⟨cs, hcs, c, hm, _, _, htask⟩ := h.confirmation call List.mem_cons_self "m" his
    cases hcs
    rw [List.mem_singleton.mp hm] at htask
    exact absurd (htask hno "a" rfl) (by decide)

end DefaultRuntimeInputRouter

end Taskweavn

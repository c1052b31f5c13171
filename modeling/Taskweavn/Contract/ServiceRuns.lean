import Taskweavn.Contract.Service

/-!
# Contract revision commands take effect once

The commands of the service are the requests of a `Handler`: they are looked up, run
and recorded in three steps, and other commands come in between.  A command that
creates something puts the id of what it has created into its result (`run_new`), so
under a key there is at most one new fact, node and plan as long as there is at most
one run.  That is what `Quiet` is about, and without it there are two
(`takes_effect_twice`).
-/

namespace Taskweavn

open Lib Py

/-- The commands that create a fact, a node or a plan. -/
def ContractCommandKind.creates : ContractCommandKind → Bool
  | .recordGuidance => true
  | .createTaskNode => true
  | .createExecutionTask => true
  | _ => false

namespace ContractWorld

variable {G : Type}

def NewFact (w w' : ContractWorld G) (guidanceId : String) : Prop :=
  w.guidance.get? guidanceId = none ∧ (w'.guidance.get? guidanceId).isSome = true

/-- The key is that of a row: session and id. -/
def NewNode (w w' : ContractWorld G) (k : String × String) : Prop :=
  w.plans.getTaskNode k.1 k.2 = none ∧ (w'.plans.getTaskNode k.1 k.2).isSome = true

def NewPlan (w w' : ContractWorld G) (k : String × String) : Prop :=
  w.plans.getPlan k.1 k.2 = none ∧ (w'.plans.getPlan k.1 k.2).isSome = true

theorem not_newFact_self {w w' : ContractWorld G} (h : w'.guidance = w.guidance) {i : String} :
    ¬w.NewFact w' i := by
  rintro ⟨hnone, hsome⟩
  rw [h, hnone] at hsome
  cases hsome

theorem not_newNode_self {w w' : ContractWorld G} (h : w'.plans = w.plans) {k : String × String} :
    ¬w.NewNode w' k := by
  rintro ⟨hnone, hsome⟩
  rw [h, hnone] at hsome
  cases hsome

theorem not_newPlan_self {w w' : ContractWorld G} (h : w'.plans = w.plans) {k : String × String} :
    ¬w.NewPlan w' k := by
  rintro ⟨hnone, hsome⟩
  rw [h, hnone] at hsome
  cases hsome

structure Named (w w' : ContractWorld G) (sessionId : String) (r : ContractCommandResult) :
    Prop where
  fact : ∀ i, w.NewFact w' i → r.guidanceId = some i
  node : ∀ k, w.NewNode w' k → k.1 = sessionId ∧ r.taskNodeId = some k.2
  plan : ∀ k, w.NewPlan w' k → k.1 = sessionId ∧ r.planId = some k.2

theorem Named.of_same {w w' : ContractWorld G} {sessionId : String} {r : ContractCommandResult}
    (hg : w'.guidance = w.guidance) (hp : w'.plans = w.plans) : w.Named w' sessionId r :=
  ⟨fun _ h => absurd h (not_newFact_self hg), fun _ h => absurd h (not_newNode_self hp),
    fun _ h => absurd h (not_newPlan_self hp)⟩

end ContractWorld

theorem planId_taskNodeResult {request : ContractCommandRequest} {message : String}
    {node : PlanTaskNode} (hn : node.Valid) :
    (taskNodeResult request (SqlitePlanStore.written message node.planId node)).planId =
      some node.planId := by
  have hne : node.planId ≠ "" := by
    have hf := hn.1
    simp only [PlanTaskNode.fieldsOk, Bool.and_eq_true, Codec.text, decide_eq_true_eq] at hf
    tauto
  simp [taskNodeResult, SqlitePlanStore.written, optOr, hne]

theorem taskNodeId_taskNodeResult {request : ContractCommandRequest} {message planId : String}
    {node : PlanTaskNode} :
    (taskNodeResult request (SqlitePlanStore.written message planId node)).taskNodeId =
      some node.taskNodeId := by
  simp [taskNodeResult, SqlitePlanStore.written]

namespace ContractRevisionCommandService

variable {G I : Type} (service : ContractRevisionCommandService G I)

/-! ### What a command creates -/

variable {request : ContractCommandRequest} {input : ContractInput I} {w w' : ContractWorld G}
  {r : ContractCommandResult}

theorem createFact_new {facts : Dict String GuidanceFact} {fact saved : GuidanceFact}
    {facts' : Dict String GuidanceFact} (h : createFact facts fact = (some saved, facts'))
    {i : String} (hnone : facts.get? i = none) (hsome : (facts'.get? i).isSome = true) :
    saved.guidanceId = i := by
  unfold createFact at h
  cases hget : facts.get? fact.guidanceId with
  | some f =>
    simp only [hget, Prod.mk.injEq] at h
    rw [← h.2, hnone] at hsome
    cases hsome
  | none =>
    simp only [hget, Prod.mk.injEq, getFact, Dict.get?_set_self] at h
    obtain ⟨hs, rfl⟩ := h
    rw [Option.filter_eq_some_iff] at hs
    obtain ⟨hs, _⟩ := hs
    cases hs
    by_cases hi : fact.guidanceId = i
    · exact hi
    · rw [Dict.get?_set_ne _ _ hi, hnone] at hsome
      cases hsome

theorem recordGuidance_new (h : service.recordGuidance request input w = .replied r w') :
    w.Named w' request.sessionId r := by
  unfold recordGuidance at h
  split at h
  · cases h
    exact .of_same rfl rfl
  · split at h
    · cases h
      exact .of_same rfl rfl
    · split at h
      · cases h
      · next hcreate =>
        cases h
        refine ⟨fun i hi => ?_, fun k hk => absurd hk (ContractWorld.not_newNode_self rfl),
          fun k hk => absurd hk (ContractWorld.not_newPlan_self rfl)⟩
        exact congrArg some (createFact_new hcreate hi.1 hi.2)

theorem taskNodeCommand_new {P : Type} {read : Dict String PyValue → Option P}
    {command : P → Option ContractTaskNodeCommandOutcome × SqlitePlanStore}
    (hcommand : ∀ payload out plans, command payload = (some out, plans) →
      w.Named { w with plans := plans } request.sessionId (taskNodeResult request out))
    (h : service.taskNodeCommand read command request w = .replied r w') :
    w.Named w' request.sessionId r := by
  unfold taskNodeCommand at h
  split at h
  · cases h
    exact .of_same rfl rfl
  · split at h
    · cases h
      exact .of_same rfl rfl
    · next payload _ =>
      unfold onPlans at h
      split at h
      · cases h
      · next hout =>
        cases h
        exact hcommand payload _ _ hout

theorem named_added {node : PlanTaskNode} {now : DateTime} {plans : SqlitePlanStore}
    {message : String} (hadd : w.plans.Added node now plans)
    (hs : node.sessionId = request.sessionId) :
    w.Named { w with plans := plans } request.sessionId
      (taskNodeResult request (SqlitePlanStore.written message node.planId node)) := by
  refine ⟨fun i hi => absurd hi (ContractWorld.not_newFact_self rfl), fun k hk => ?_,
    fun k hk => ?_⟩
  · have hsome := hk.2
    rw [hadd.nodes k.1 k.2] at hsome
    by_cases hkey : node.key = k
    · exact ⟨by rw [← hkey, ← hs]; rfl, by rw [taskNodeId_taskNodeResult, ← hkey]; rfl⟩
    · rw [if_neg hkey, hk.1] at hsome
      cases hsome
  · obtain ⟨plan, hplan, hplans⟩ := hadd.plans
    have hsome := hk.2
    rw [hplans k.1 k.2] at hsome
    by_cases hkey : plan.key = k
    · have hold := hk.1
      obtain ⟨hps, hpp⟩ := SqlitePlanStore.plan_key_of_get hplan
      rw [← hkey, Plan.key, hps, hpp, hplan] at hold
      cases hold
    · rw [if_neg hkey, hk.1] at hsome
      cases hsome

theorem named_created {plan : Plan} {node : PlanTaskNode} {plans : SqlitePlanStore}
    {message : String} (hcreate : w.plans.Created plan node plans)
    (hs : node.sessionId = request.sessionId) :
    w.Named { w with plans := plans } request.sessionId
      (taskNodeResult request (SqlitePlanStore.written message node.planId node)) := by
  refine ⟨fun i hi => absurd hi (ContractWorld.not_newFact_self rfl), fun k hk => ?_,
    fun k hk => ?_⟩
  · have hsome := hk.2
    rw [hcreate.nodes k.1 k.2] at hsome
    by_cases hkey : node.key = k
    · exact ⟨by rw [← hkey, ← hs]; rfl, by rw [taskNodeId_taskNodeResult, ← hkey]; rfl⟩
    · rw [if_neg hkey, hk.1] at hsome
      cases hsome
  · have hsome := hk.2
    rw [hcreate.plans k.1 k.2] at hsome
    by_cases hkey : plan.key = k
    · refine ⟨?_, ?_⟩
      · rw [← hkey, ← hs, hcreate.session_eq]
        rfl
      · rw [planId_taskNodeResult hcreate.node_valid, ← hkey, hcreate.plan_eq]
        rfl
    · rw [if_neg hkey, hk.1] at hsome
      cases hsome

theorem createTaskNode_new (h : service.createTaskNode request input w = .replied r w') :
    w.Named w' request.sessionId r := by
  refine service.taskNodeCommand_new ?_ h
  intro payload out plans hout
  rcases SqlitePlanStore.createTaskNode_cases hout with
    ⟨rfl, _⟩ | ⟨node, heq, hs, _, _, _, _, hadd⟩
  · exact .of_same rfl rfl
  · cases heq
    exact named_added hadd hs

theorem createExecutionTask_new (h : service.createExecutionTask request input w = .replied r w') :
    w.Named w' request.sessionId r := by
  refine service.taskNodeCommand_new ?_ h
  intro payload out plans hout
  rcases SqlitePlanStore.createExecutionTask_cases hout with
    ⟨rfl, _⟩ | ⟨node, heq, hs, _, _, _, _, hadd | ⟨plan, hcreate⟩⟩
  · exact .of_same rfl rfl
  · cases heq
    exact named_added hadd hs
  · cases heq
    exact named_created hcreate hs

/-- **What a command creates is in its result.** -/
theorem run_new (hkind : request.commandKind.creates = true)
    (h : service.run request input w = .replied r w') : w.Named w' request.sessionId r := by
  unfold run at h
  cases hk : request.commandKind <;> rw [hk] at hkind h
  case recordGuidance => exact service.recordGuidance_new h
  case createTaskNode => exact service.createTaskNode_new h
  case createExecutionTask => exact service.createExecutionTask_new h
  all_goals cases hkind

/-! ### Its steps -/

/-- The three steps of a command. -/
def handler : Handler ContractCommandRequest Key String (ContractInput I) (ContractWorld G)
    ContractCommandResult where
  key q := (q.sessionId, q.idempotencyKey)
  hash q := service.hashRequest q
  run := service.run
  swallows := false

def respond (q : ContractCommandRequest) : Answer ContractCommandResult →
    Option ContractCommandResult
  | .reply r => some r
  | .replay r => some r
  | .conflict => some (conflictResult q)
  | .raised => none

/-! ### At most once -/

/-- The states of the service, with the commands on their way. -/
abbrev ContractState (G : Type) :=
  Memo ContractCommandRequest Key String (ContractWorld G) ContractCommandResult

abbrev ContractAction (G I : Type) :=
  MemoAction ContractCommandRequest (ContractInput I) (ContractWorld G)

abbrev ContractEffect (G : Type) :=
  Effect ContractCommandRequest (ContractWorld G) ContractCommandResult

def CreatesFact (e : ContractEffect G) (guidanceId : String) : Prop :=
  e.request.commandKind.creates = true ∧ e.before.NewFact e.after guidanceId

def CreatesNode (e : ContractEffect G) (k : String × String) : Prop :=
  e.request.commandKind.creates = true ∧ e.before.NewNode e.after k

def CreatesPlan (e : ContractEffect G) (k : String × String) : Prop :=
  e.request.commandKind.creates = true ∧ e.before.NewPlan e.after k

/-- **A key takes effect at most once**: at most one fact, node and plan is created under
it; an accepted result for the hash of the command that has created them has their ids,
and a command with another hash does nothing. -/
structure TakesEffectOnce (s : ContractState G) : Prop where
  fact : ∀ e ∈ s.effects, ∀ e' ∈ s.effects, service.handler.key e.request =
    service.handler.key e'.request → ∀ i i', CreatesFact e i → CreatesFact e' i' → e = e' ∧ i = i'
  node : ∀ e ∈ s.effects, ∀ e' ∈ s.effects, service.handler.key e.request =
    service.handler.key e'.request → ∀ k k', CreatesNode e k → CreatesNode e' k' → e = e' ∧ k = k'
  plan : ∀ e ∈ s.effects, ∀ e' ∈ s.effects, service.handler.key e.request =
    service.handler.key e'.request → ∀ k k', CreatesPlan e k → CreatesPlan e' k' → e = e' ∧ k = k'
  same : ∀ e ∈ s.effects, ∀ (n : ℕ) (q : ContractCommandRequest)
    (a : Answer ContractCommandResult) (r : ContractCommandResult),
    s.jobs[n]? = some ⟨q, .answered a⟩ → respond q a = some r → r.accepted = true →
    service.handler.key e.request = service.handler.key q →
    service.hashRequest e.request = service.hashRequest q →
    (∀ i, CreatesFact e i → r.guidanceId = some i) ∧
    (∀ k, CreatesNode e k → k.1 = q.sessionId ∧ r.taskNodeId = some k.2) ∧
    (∀ k, CreatesPlan e k → k.1 = q.sessionId ∧ r.planId = some k.2)
  differs : ∀ e ∈ s.effects, ∀ (n : ℕ) (q : ContractCommandRequest)
    (stage : Stage ContractCommandResult), s.jobs[n]? = some ⟨q, stage⟩ →
    service.handler.key e.request = service.handler.key q →
    service.hashRequest e.request ≠ service.hashRequest q → ∀ e' ∈ s.effects, e'.request ≠ q

/-- **Commands take effect at most once per key in every quiet run**, whatever the gateway
does. -/
theorem takes_effect_once (actions : List (ContractAction G I)) {world : ContractWorld G}
    {s : ContractState G}
    (hrun : execAll service.handler.step { world := world } actions = some s)
    (hquiet : Along service.handler.step service.handler.Quiet { world := world } actions) :
    service.TakesEffectOnce s := by
  have hi := Handler.inv_run hrun hquiet
  have hnamed : ∀ e ∈ s.effects, e.request.commandKind.creates = true →
      ∃ r, e.reply = some r ∧ e.before.Named e.after e.request.sessionId r := by
    intro e he hkind
    obtain ⟨r, hr, _⟩ := hi.kept e he
    obtain ⟨input, hran⟩ := Handler.ran_run hrun e he
    rw [hr] at hran
    exact ⟨r, hr, service.run_new hkind hran⟩
  refine ⟨?_, ?_, ?_, ?_, ?_⟩
  · intro e he e' he' hkey i i' hc hc'
    obtain rfl := hi.effect_unique he he' hkey
    obtain ⟨r, _, hn⟩ := hnamed e he hc.1
    exact ⟨rfl, Option.some.inj ((hn.fact i hc.2).symm.trans (hn.fact i' hc'.2))⟩
  · intro e he e' he' hkey k k' hc hc'
    obtain rfl := hi.effect_unique he he' hkey
    obtain ⟨r, _, hn⟩ := hnamed e he hc.1
    obtain ⟨hs, hk⟩ := hn.node k hc.2
    obtain ⟨hs', hk'⟩ := hn.node k' hc'.2
    exact ⟨rfl, Prod.ext (hs.trans hs'.symm) (Option.some.inj (hk.symm.trans hk'))⟩
  · intro e he e' he' hkey k k' hc hc'
    obtain rfl := hi.effect_unique he he' hkey
    obtain ⟨r, _, hn⟩ := hnamed e he hc.1
    obtain ⟨hs, hk⟩ := hn.plan k hc.2
    obtain ⟨hs', hk'⟩ := hn.plan k' hc'.2
    exact ⟨rfl, Prod.ext (hs.trans hs'.symm) (Option.some.inj (hk.symm.trans hk'))⟩
  · intro e he n q a r hj hres hacc hkey hhash
    -- the answer is the reply of the effect
    have hreply : e.reply = some r := by
      rcases hi.answer_of_effect he hj hkey with
        ⟨_, r', hr', rfl | rfl⟩ | ⟨hne, _⟩ | ⟨rfl, _⟩
      · cases hres
        exact hr'
      · cases hres
        exact hr'
      · exact absurd hhash hne
      · cases hres
    have hsession : e.request.sessionId = q.sessionId := congrArg Prod.fst hkey
    have hn : e.request.commandKind.creates = true →
        e.before.Named e.after q.sessionId r := by
      intro hkind
      obtain ⟨r', hr', hn⟩ := hnamed e he hkind
      rw [hreply] at hr'
      cases hr'
      rwa [← hsession]
    exact ⟨fun i hc => (hn hc.1).fact i hc.2, fun k hc => (hn hc.1).node k hc.2,
      fun k hc => (hn hc.1).plan k hc.2⟩
  · rintro e he n q stage hj hkey hne e' he' rfl
    obtain rfl := hi.effect_unique he he' hkey
    exact hne rfl

/-! ### Concrete commands -/

theorem guidanceText_ok :
    strip "be brief" = "be brief" ∧ "be brief" ≠ "" ∧ "be brief".length ≤ 8000 := by
  decide +kernel

/-- A service that reads one guidance. -/
def sample : ContractRevisionCommandService Unit Unit where
  sha256 c := c.idempotencyKey
  reader :=
    { recordGuidance := fun _ => some { guidanceText := "be brief", text_ok := guidanceText_ok }
      resolveAsk := fun _ => none
      resolveConfirmation := fun _ => none
      patchTaskNode := fun _ => none
      createTaskNode := fun _ => none
      deleteTaskNode := fun _ => none
      createExecutionTask := fun _ => none }
  workspaceId := "w"

def sampleRequest : ContractCommandRequest where
  commandId := "c"
  idempotencyKey := "k"
  commandKind := .recordGuidance
  workspaceId := "w"
  sessionId := "s"
  scopeKind := .session
  payload := Dict.empty.set "guidance_text" (.str "be brief")
  scope_ok := rfl

def sampleInput (guidanceId : String) : ContractInput Unit where
  guidanceId := guidanceId
  factCreatedAt := .noon
  taskNode := ⟨"p", "n", .noon, .noon, .noon, .noon, .noon⟩
  gateway := ()

/-- A command and the same one again, one after the other. -/
def resentCommands : List (ContractAction Unit Unit) :=
  [.submit sampleRequest, .advance 0 (sampleInput "g"), .advance 0 (sampleInput "g"),
   .advance 0 (sampleInput "g"), .submit sampleRequest, .advance 1 (sampleInput "h")]

theorem quiet_later {s : ContractState Unit} {n : ℕ} {input : ContractInput Unit}
    {stage : Stage ContractCommandResult} (hj : s.jobs[n]? = some ⟨sampleRequest, stage⟩)
    (hstage : stage ≠ .lookup)
    (hrun : ∀ world, sample.run sampleRequest input s.world ≠ .raised world) :
    sample.handler.Quiet s (.advance n input) := by
  intro q
  refine ⟨fun h => ?_, fun h => ?_⟩
  · rw [hj] at h
    cases h
    exact absurd rfl hstage
  · rw [hj] at h
    cases h
    exact hrun

theorem quiet_first {s : ContractState Unit} {n : ℕ} {input : ContractInput Unit}
    (hj : s.jobs[n]? = some ⟨sampleRequest, .lookup⟩) (hs : ∀ job ∈ s.jobs, ¬job.Open) :
    sample.handler.Quiet s (.advance n input) := by
  intro q
  refine ⟨fun _ m job hm hop => absurd hop (hs job (List.mem_of_getElem? hm)), fun h => ?_⟩
  rw [hj] at h
  cases h

/-- The second command is answered from the record. -/
theorem takes_effect_once_resent :
    ∃ s, execAll sample.handler.step { world := { gateway := () } } resentCommands = some s ∧
      s.world.guidance.keys = ["g"] ∧ sample.TakesEffectOnce s := by
  have hrun : ∀ {s}, execAll sample.handler.step { world := { gateway := () } } resentCommands =
      some s → sample.TakesEffectOnce s := fun h => takes_effect_once sample resentCommands h ?_
  · exact ⟨_, rfl, rfl, hrun rfl⟩
  refine along_cons trivial rfl (along_cons (quiet_first rfl ?_) rfl
    (along_cons (quiet_later rfl ?_ ?_) rfl (along_cons (quiet_later rfl ?_ ?_) rfl
      (along_cons trivial rfl (along_cons (quiet_first rfl ?_) rfl trivial)))))
  · intro job hj
    rw [List.mem_singleton.mp hj]
    exact Handler.not_open_lookup
  · intro h
    cases h
  · intro world h
    cases h
  · intro h
    cases h
  · intro world h
    cases h
  · intro job hj
    rcases List.mem_pair.mp hj with rfl | rfl
    · rintro (hst | ⟨_, hst⟩) <;> cases hst
    · exact Handler.not_open_lookup

/-- The same command twice, each of them looked up before the other has run. -/
def racingCommands : List (ContractAction Unit Unit) :=
  [.submit sampleRequest, .submit sampleRequest, .advance 0 (sampleInput "g"),
   .advance 1 (sampleInput "h"), .advance 0 (sampleInput "g"), .advance 1 (sampleInput "h")]

/-- A command that is cut off before its record, and again. -/
def reissuedCommands : List (ContractAction Unit Unit) :=
  [.submit sampleRequest, .advance 0 (sampleInput "g"), .advance 0 (sampleInput "g"), .cut 0,
   .submit sampleRequest, .advance 1 (sampleInput "h"), .advance 1 (sampleInput "h"),
   .advance 1 (sampleInput "h")]

/-- Both commands record the guidance. -/
theorem takes_effect_twice :
    (∃ s, execAll sample.handler.step { world := { gateway := () } } racingCommands = some s ∧
      s.world.guidance.keys = ["g", "h"] ∧ ¬sample.TakesEffectOnce s) ∧
    (∃ s, execAll sample.handler.step { world := { gateway := () } } reissuedCommands = some s ∧
      s.world.guidance.keys = ["g", "h"] ∧ ¬sample.TakesEffectOnce s) := by
  refine ⟨⟨_, rfl, rfl, ?_⟩, ⟨_, rfl, rfl, ?_⟩⟩
  · intro h
    have := h.fact _ List.mem_cons_self _ (List.mem_cons_of_mem _ List.mem_cons_self) rfl "g" "h"
      ⟨rfl, rfl, rfl⟩ ⟨rfl, rfl, rfl⟩
    exact absurd this.2 (by decide)
  · intro h
    have := h.fact _ List.mem_cons_self _ (List.mem_cons_of_mem _ List.mem_cons_self) rfl "g" "h"
      ⟨rfl, rfl, rfl⟩ ⟨rfl, rfl, rfl⟩
    exact absurd this.2 (by decide)

end ContractRevisionCommandService

end Taskweavn

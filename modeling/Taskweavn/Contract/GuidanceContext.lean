import Taskweavn.Contract.GuidanceStores
import Taskweavn.Contract.ServiceRuns
import Taskweavn.Task.PlanRetry

/-!
# Guidance for the agent

A guidance is recorded under the ids of the contract, a plan or a task node
(`_record_guidance`), and read when the context of a task is built
(`taskweavn/contract_revision/context_source.py`), which knows the id of the task on
the bus.  The source asks the store for the facts of a task node by that id, and for at
most `max_guidance_items` of them.

So two things come between a fact and the agent.  The query finds the facts of the whole
session and those that name the id of the task, but not those of the plan or of the node
that the task was published from; and its limit keeps the oldest facts.  `Delivered` is
the condition under which the newest facts that apply to a task get through all the
same, and `newest_guidance_reaches` says that it is exact, as far as the texts of the
facts tell them apart.
-/

namespace Taskweavn

open Lib Py

/-! ### What was recorded -/

def ContractCommandRequest.fieldsOk (request : ContractCommandRequest) : Bool :=
  Codec.text.accepts request.commandId && Codec.text.accepts request.idempotencyKey &&
    Codec.text.accepts request.workspaceId && Codec.text.accepts request.sessionId &&
    optText.accepts request.planId && optText.accepts request.taskNodeId &&
    optText.accepts request.askId && optText.accepts request.confirmationId &&
    optText.accepts request.routerDecisionId &&
    request.inputMessageRef.all (fun r => Codec.text.accepts r.id)

section

variable {G I : Type} {service : ContractRevisionCommandService G I}

/-- The facts after some accepted `record_guidance` commands, with any plans and any
work of the gateway in between. -/
inductive GuidanceRecorded (service : ContractRevisionCommandService G I) :
    Dict String GuidanceFact → Prop
  | start : GuidanceRecorded service Dict.empty
  | record {facts : Dict String GuidanceFact} (before : GuidanceRecorded service facts)
      (plans : SqlitePlanStore) (gateway : G) (request : ContractCommandRequest)
      (built : request.fieldsOk = true) (kind : request.commandKind = .recordGuidance)
      (scope : request.scopeKind = .session ∨ request.scopeKind = .plan ∨ request.scopeKind = .task)
      (input : ContractInput I) (result : ContractCommandResult) (world : ContractWorld G)
      (run : service.recordGuidance request input { guidance := facts, plans, gateway } =
        .replied result world)
      (accepted : result.accepted = true) : GuidanceRecorded service world.guidance

structure RecordedFact (k : String) (f : GuidanceFact) : Prop where
  key : f.guidanceId = k
  built : f.fieldsOk = true
  current : f.archivedAt = none
  first : f.version = 1

theorem recordedFact_guidanceFact {request : ContractCommandRequest} (h : request.fieldsOk = true)
    (payload : RecordGuidancePayload) (input : ContractInput I) :
    RecordedFact input.guidanceId (service.guidanceFact request payload input) where
  key := rfl
  built := by
    simp only [ContractCommandRequest.fieldsOk, Bool.and_eq_true] at h
    obtain ⟨⟨⟨⟨⟨⟨⟨⟨⟨hcommand, -⟩, hworkspace⟩, hsession⟩, hplan⟩, hnode⟩, -⟩, -⟩, hrouter⟩, href⟩ :=
      h
    have hne : request.workspaceId ≠ "" := by simpa [Codec.text] using hworkspace
    simp only [GuidanceFact.fieldsOk, ContractRevisionCommandService.guidanceFact, if_neg hne,
      hcommand, hworkspace, hsession, hplan, hnode, hrouter, href, le_refl, decide_true,
      Bool.and_self]
  current := rfl
  first := rfl

theorem snd_createFact (facts : Dict String GuidanceFact) (fact : GuidanceFact) :
    (createFact facts fact).2 = (InMemoryGuidanceFactStore.create ⟨facts⟩ fact).2.facts := by
  unfold createFact InMemoryGuidanceFactStore.create
  cases facts.get? fact.guidanceId <;> rfl

theorem GuidanceRecorded.facts {facts : Dict String GuidanceFact}
    (h : GuidanceRecorded service facts) :
    ∀ k f, facts.get? k = some f → RecordedFact k f := by
  induction h with
  | start =>
    intro k f hf
    cases hf
  | @record facts _ plans gateway request built _ _ input result world run _ ih =>
    intro k f hf
    unfold ContractRevisionCommandService.recordGuidance at run
    split at run
    · cases run
      exact ih k f hf
    · next payload _ =>
      split at run
      · cases run
        exact ih k f hf
      · split at run
        · cases run
        · next saved guidance hcreate =>
          cases run
          have hnew : guidance =
              (InMemoryGuidanceFactStore.create ⟨facts⟩
                (service.guidanceFact request payload input)).2.facts := by
            rw [← snd_createFact, hcreate]
          rw [hnew, InMemoryGuidanceFactStore.create] at hf
          split at hf
          · exact ih k f hf
          · rw [Dict.get?_set] at hf
            split at hf
            · next hk =>
              cases hf
              exact hk ▸ recordedFact_guidanceFact built payload input
            · exact ih k f hf

end

namespace SqliteGuidanceFactStore

/-- The table of some facts. -/
def ofFacts (facts : Dict String GuidanceFact) : SqliteGuidanceFactStore where
  rows := facts.map factParams

end SqliteGuidanceFactStore

/-! ### The context source -/

structure ExecutionGuidance where
  projectRules : List String := []
  outputRequirements : List String := []
deriving DecidableEq

/-- The line that a fact becomes. -/
def GuidanceFact.entry (f : GuidanceFact) : String :=
  "[" ++ f.scopeKind.toText ++ "/" ++ f.guidanceKind.toText ++ "] " ++ f.guidanceText

/-- A constraint, an instruction or a correction is a rule. -/
def GuidanceFact.isRule (f : GuidanceFact) : Bool :=
  f.guidanceKind == .constraint || f.guidanceKind == .instruction || f.guidanceKind == .correction

/-- The loop over the facts. -/
def ExecutionGuidance.add (g : ExecutionGuidance) (f : GuidanceFact) : ExecutionGuidance :=
  if f.isRule then { g with projectRules := g.projectRules ++ [f.entry] }
  else { g with outputRequirements := g.outputRequirements ++ [f.entry] }

structure ContractGuidanceContextSource where
  maxGuidanceItems : ℕ := 20

namespace ContractGuidanceContextSource

/-- `collect`, for a request with this session and this task. -/
def collect (source : ContractGuidanceContextSource) (store : SqliteGuidanceFactStore)
    (sessionId taskId : String) : Except GuidanceFactStoreError ExecutionGuidance :=
  match store.listForScope sessionId none (some taskId) false source.maxGuidanceItems with
  | .error e => .error e
  | .ok facts => .ok (facts.foldl ExecutionGuidance.add {})

end ContractGuidanceContextSource

/-- The lines of the rules among some facts. -/
def ruleEntries (facts : List GuidanceFact) : List String :=
  (facts.filter GuidanceFact.isRule).map GuidanceFact.entry

/-- The lines of the other facts. -/
def requirementEntries (facts : List GuidanceFact) : List String :=
  (facts.filter (fun f => !f.isRule)).map GuidanceFact.entry

theorem foldl_add (facts : List GuidanceFact) : ∀ g : ExecutionGuidance,
    facts.foldl ExecutionGuidance.add g =
      { projectRules := g.projectRules ++ ruleEntries facts
        outputRequirements := g.outputRequirements ++ requirementEntries facts } := by
  induction facts with
  | nil => intro g; simp [ruleEntries, requirementEntries]
  | cons f facts ih =>
    intro g
    rw [List.foldl_cons, ih]
    by_cases hf : f.isRule <;> simp [ExecutionGuidance.add, ruleEntries, requirementEntries, hf]

/-! ### What applies, and what is asked for -/

section

variable (source : ContractGuidanceContextSource) (facts : Dict String GuidanceFact)
  (m : PlanTaskPublishMapping)

/-- The fact applies to the task that was published from a node: it is about the whole
session, about the plan of the node, or about the node. -/
def PlanTaskPublishMapping.Concerns (f : GuidanceFact) : Bool :=
  match f.scopeKind with
  | .session => true
  | .plan => f.planId == some m.planId
  | .task => f.taskNodeId == some m.taskNodeId

/-- The facts that apply to a task and are not archived, oldest first. -/
def applicable : List GuidanceFact :=
  sortOn GuidanceFact.creationOrder (facts.values.filter (fun f =>
    f.sessionId == m.sessionId && f.archivedAt.isNone && m.Concerns f))

/-- The most recent ones, as many as the source may collect. -/
def newest : List GuidanceFact := (applicable facts m).rtake source.maxGuidanceItems

/-- The facts that the source asks for, oldest first. -/
def asked : List GuidanceFact :=
  InMemoryGuidanceFactStore.filtered ⟨facts⟩ m.sessionId none (some m.taskId) false

/-- The newest guidance reaches the agent: the collected guidance has the lines of the
newest facts, in the order in which they were created. -/
def Reaches : Prop :=
  ∃ g, source.collect (.ofFacts facts) m.sessionId m.taskId = .ok g ∧
    (ruleEntries (newest source facts m)).Sublist g.projectRules ∧
    (requirementEntries (newest source facts m)).Sublist g.outputRequirements

/-- Every one of the newest facts is about the whole session, or names the id of the
task, and few enough of such facts are older. -/
def Delivered : Prop :=
  source.maxGuidanceItems < 2 ^ 63 ∧
    ∀ f ∈ newest source facts m, scopeMatches f none (some m.taskId) = true ∧
      ((asked facts m).filter (fun f' => f'.creationOrder < f.creationOrder)).length <
        source.maxGuidanceItems

end

variable {source : ContractGuidanceContextSource} {facts : Dict String GuidanceFact}
  {m : PlanTaskPublishMapping}

theorem nodup_creationOrder (h : ∀ k f, facts.get? k = some f → RecordedFact k f)
    (p : GuidanceFact → Bool) :
    ((facts.values.filter p).map GuidanceFact.creationOrder).Nodup := by
  have hall : (facts.values.map GuidanceFact.creationOrder).Nodup := by
    refine List.Nodup.of_map (fun k : DateTime ×ₗ String => (ofLex k).2) ?_
    rw [List.map_map]
    exact Dict.nodup_map_values fun k f hf => (h k f hf).key
  exact hall.sublist (List.filter_sublist.map _)

theorem collect_eq (h : ∀ k f, facts.get? k = some f → RecordedFact k f)
    (hmax : source.maxGuidanceItems < 2 ^ 63) :
    source.collect (.ofFacts facts) m.sessionId m.taskId = .ok
      { projectRules := ruleEntries ((asked facts m).take source.maxGuidanceItems)
        outputRequirements := requirementEntries
          ((asked facts m).take source.maxGuidanceItems) } := by
  have henc : Encodes ⟨facts⟩ (.ofFacts facts) :=
    ⟨rfl, rfl, fun k f hf => ⟨(h k f hf).key, (h k f hf).built⟩⟩
  unfold ContractGuidanceContextSource.collect
  rw [henc.listForScope_eq _ _ _ _ hmax]
  simp only [foldl_add, List.nil_append]
  rfl

theorem mem_newest_cases {f : GuidanceFact} (hf : f ∈ newest source facts m) :
    f ∈ facts.values ∧ f.sessionId = m.sessionId := by
  have hmem : f ∈ applicable facts m := (List.drop_sublist _ _).subset hf
  rw [applicable, mem_sortOn, List.mem_filter] at hmem
  simp only [Bool.and_eq_true, beq_iff_eq] at hmem
  exact ⟨hmem.1, hmem.2.1.1⟩

theorem mem_asked (h : ∀ k f, facts.get? k = some f → RecordedFact k f) {f : GuidanceFact}
    (hf : f ∈ facts.values) (hs : f.sessionId = m.sessionId) :
    f ∈ asked facts m ↔ scopeMatches f none (some m.taskId) = true := by
  obtain ⟨k, hk⟩ := Dict.mem_values.mp hf
  rw [asked, InMemoryGuidanceFactStore.filtered, mem_sortOn, List.mem_filter]
  simp [hf, hs, (h k f hk).current]

theorem delivered_iff (h : ∀ k f, facts.get? k = some f → RecordedFact k f) :
    Delivered source facts m ↔ source.maxGuidanceItems < 2 ^ 63 ∧
      ∀ f ∈ newest source facts m, f ∈ (asked facts m).take source.maxGuidanceItems := by
  have hsorted := sortOn_pairwise_lt (nodup_creationOrder h (fun f =>
    f.sessionId == m.sessionId && (false || f.archivedAt.isNone) &&
      scopeMatches f none (some m.taskId)))
  refine and_congr_right fun _ => forall_congr' fun f => forall_congr' fun hf => ?_
  obtain ⟨hval, hs⟩ := mem_newest_cases hf
  rw [mem_take_iff_of_pairwise (show (asked facts m).Pairwise _ from hsorted), mem_asked h hval hs]

/-- **The newest guidance reaches the agent when the condition holds**, and when no two
facts have the same line, only then. -/
theorem newest_guidance_reaches {G I : Type} {service : ContractRevisionCommandService G I}
    (h : GuidanceRecorded service facts) (source : ContractGuidanceContextSource)
    (m : PlanTaskPublishMapping) :
    (Delivered source facts m → Reaches source facts m) ∧
      ((facts.values.map GuidanceFact.entry).Nodup → Reaches source facts m →
        Delivered source facts m) := by
  have hfacts := h.facts
  constructor
  · intro hd
    obtain ⟨hmax, hmem⟩ := (delivered_iff hfacts).mp hd
    have hnew : (newest source facts m).Pairwise
        (fun f f' => f.creationOrder < f'.creationOrder) :=
      (sortOn_pairwise_lt (nodup_creationOrder hfacts _)).sublist (List.drop_sublist _ _)
    have htake : ((asked facts m).take source.maxGuidanceItems).Pairwise
        (fun f f' => f.creationOrder < f'.creationOrder) :=
      (sortOn_pairwise_lt (nodup_creationOrder hfacts _)).sublist (List.take_sublist _ _)
    have hsub := (sublist_iff_subset_of_pairwise hnew htake).mpr hmem
    refine ⟨_, collect_eq hfacts hmax, ?_, ?_⟩
    · exact (hsub.filter _).map _
    · exact (hsub.filter _).map _
  · rintro hdistinct ⟨g, hg, hrules, hrequirements⟩
    have hmax : source.maxGuidanceItems < 2 ^ 63 := by
      by_contra hlarge
      simp only [ContractGuidanceContextSource.collect, SqliteGuidanceFactStore.listForScope,
        if_pos (not_lt.mp hlarge)] at hg
      cases hg
    rw [collect_eq hfacts hmax] at hg
    cases hg
    refine (delivered_iff hfacts).mpr ⟨hmax, ?_⟩
    intro f hf
    have hval := (mem_newest_cases hf).1
    -- The line of `f` is collected, and no other fact has it.
    obtain ⟨f', hf', hentry⟩ : ∃ f' ∈ (asked facts m).take source.maxGuidanceItems,
        f'.entry = f.entry := by
      by_cases hrule : f.isRule = true
      · have hline : f.entry ∈ ruleEntries (newest source facts m) :=
          List.mem_map_of_mem (List.mem_filter.mpr ⟨hf, hrule⟩)
        obtain ⟨f', hf', he⟩ := List.mem_map.mp (hrules.subset hline)
        exact ⟨f', List.mem_of_mem_filter hf', he⟩
      · have hline : f.entry ∈ requirementEntries (newest source facts m) :=
          List.mem_map_of_mem (List.mem_filter.mpr ⟨hf, by simpa using hrule⟩)
        obtain ⟨f', hf', he⟩ := List.mem_map.mp (hrequirements.subset hline)
        exact ⟨f', List.mem_of_mem_filter hf', he⟩
    have hval' : f' ∈ facts.values := by
      have := List.mem_of_mem_take hf'
      rw [asked, InMemoryGuidanceFactStore.filtered, mem_sortOn] at this
      exact List.mem_of_mem_filter this
    rwa [← List.inj_on_of_nodup_map hdistinct hval' hval hentry]

/-! ### A guidance for the session, and one for the plan -/

instance (source : ContractGuidanceContextSource) (facts : Dict String GuidanceFact)
    (m : PlanTaskPublishMapping) : Decidable (Delivered source facts m) := by
  unfold Delivered
  infer_instance

section

open ContractRevisionCommandService (sample sampleRequest sampleInput)

/-- A service that reads a guidance as it is written. -/
def reading : ContractRevisionCommandService Unit Unit :=
  { sample with
    reader := { sample.reader with
      recordGuidance := fun payload =>
        match payload.get? "guidance_text" with
        | some (.str text) =>
          if h : strip text = text ∧ text ≠ "" ∧ text.length ≤ 8000 then
            some { guidanceText := text, text_ok := h }
          else none
        | _ => none } }

/-- A command on the sample plan, after others. -/
def recordedAfter (facts : Dict String GuidanceFact) (guidanceId : String)
    (request : ContractCommandRequest) : Outcome (ContractWorld Unit) ContractCommandResult :=
  reading.recordGuidance request (sampleInput guidanceId)
    { guidance := facts, plans := .sample, gateway := () }

def acceptedAfter (facts : Dict String GuidanceFact) (guidanceId : String)
    (request : ContractCommandRequest) : Bool :=
  match recordedAfter facts guidanceId request with
  | .replied result _ => result.accepted
  | _ => false

def factsAfter (facts : Dict String GuidanceFact) (guidanceId : String)
    (request : ContractCommandRequest) : Dict String GuidanceFact :=
  match recordedAfter facts guidanceId request with
  | .replied _ world => world.guidance
  | _ => Dict.empty

theorem recorded_factsAfter {facts : Dict String GuidanceFact} {guidanceId : String}
    {request : ContractCommandRequest} (before : GuidanceRecorded reading facts)
    (built : request.fieldsOk = true) (kind : request.commandKind = .recordGuidance)
    (scope : request.scopeKind = .session ∨ request.scopeKind = .plan ∨ request.scopeKind = .task)
    (h : acceptedAfter facts guidanceId request = true) :
    GuidanceRecorded reading (factsAfter facts guidanceId request) := by
  unfold acceptedAfter at h
  unfold factsAfter
  cases hrun : recordedAfter facts guidanceId request with
  | refused => rw [hrun] at h; cases h
  | raised world => rw [hrun] at h; cases h
  | replied result world =>
    rw [hrun] at h
    exact .record before .sample () request built kind scope (sampleInput guidanceId) result world
      hrun h

/-- The task of the node `a` of the sample plan. -/
def sampleMapping : PlanTaskPublishMapping where
  sessionId := "s"
  planId := "p"
  taskNodeId := "a"
  taskIndex := "1"
  taskId := "c0061e9ea07e5f4b956b8ee5ec04bd70"
  publishCommandId := "command"

def PublishedMapping (m : PlanTaskPublishMapping) : Prop :=
  ∃ r, (DefaultPlanPublisher.publishPlan Uuid5.sample InMemoryTaskBus.empty .sample
    DefaultPlanPublisher.sampleCommand (DefaultPlanPublisher.sampleEnv none)).1 = .ok r ∧
    m ∈ r.mappings

theorem publishedMapping_sample : PublishedMapping sampleMapping := by
  have hpick : ∀ {out : Except PlanPublishError PublishPlanResult},
      out.toOption.any (fun r => decide (sampleMapping ∈ r.mappings)) = true →
        ∃ r, out = .ok r ∧ sampleMapping ∈ r.mappings := by
    intro out h
    cases out with
    | error e => cases h
    | ok r => exact ⟨r, rfl, of_decide_eq_true h⟩
  apply hpick
  decide +kernel

def guidanceOf (sessionId text : String) : ContractCommandRequest :=
  { sampleRequest with
    sessionId := sessionId
    payload := Dict.empty.set "guidance_text" (.str text) }

/-- Two guidances for the session of the task, and one for another session between them. -/
def threeFacts : Dict String GuidanceFact :=
  factsAfter (factsAfter (factsAfter Dict.empty "g1" (guidanceOf "s" "be brief")) "g2"
    (guidanceOf "s2" "be loud")) "g3" (guidanceOf "s" "use tables")

theorem recorded_threeFacts : GuidanceRecorded reading threeFacts :=
  recorded_factsAfter
    (recorded_factsAfter
      (recorded_factsAfter .start (by decide) rfl (.inl rfl) (by decide +kernel))
      (by decide) rfl (.inl rfl) (by decide +kernel))
    (by decide) rfl (.inl rfl) (by decide +kernel)

/-- **The guidance for the whole session** reaches the task, if all of it is asked for; of two
guidances, only the older one reaches it when one is asked for. -/
theorem newest_guidance_reaches_session :
    PublishedMapping sampleMapping ∧ Reaches {} threeFacts sampleMapping ∧
      ¬Reaches { maxGuidanceItems := 1 } threeFacts sampleMapping :=
  ⟨publishedMapping_sample,
    (newest_guidance_reaches recorded_threeFacts {} sampleMapping).1 (by decide +kernel),
    fun h => absurd ((newest_guidance_reaches recorded_threeFacts { maxGuidanceItems := 1 }
      sampleMapping).2 (by decide +kernel) h) (by decide +kernel)⟩

theorem planGuidance_scope_ok : scopeIdentityOk .plan (some "p") none none none = true := rfl

def planGuidance : ContractCommandRequest where
  commandId := "c"
  idempotencyKey := "k"
  commandKind := .recordGuidance
  workspaceId := "w"
  sessionId := "s"
  scopeKind := .plan
  planId := some "p"
  payload := Dict.empty.set "guidance_text" (.str "be brief")
  scope_ok := planGuidance_scope_ok

/-- **A guidance for the plan does not reach its tasks**, although it is the only one. -/
theorem plan_guidance_lost :
    PublishedMapping sampleMapping ∧ GuidanceRecorded reading
    (factsAfter Dict.empty "g" planGuidance) ∧
      ¬Reaches {} (factsAfter Dict.empty "g" planGuidance) sampleMapping := by
  refine ⟨publishedMapping_sample,
    recorded_factsAfter .start (by decide) rfl (.inr (.inl rfl)) (by decide +kernel), ?_⟩
  rintro ⟨g, hg, hrules, -⟩
  have hcollect : ContractGuidanceContextSource.collect {}
    (.ofFacts (factsAfter Dict.empty "g" planGuidance))
      sampleMapping.sessionId sampleMapping.taskId = .ok {} := by
    decide +kernel
  rw [hcollect] at hg
  cases hg
  have hlines : ruleEntries (newest {} (factsAfter Dict.empty "g" planGuidance) sampleMapping) =
      ["[plan/instruction] be brief"] := by
    decide +kernel
  rw [hlines] at hrules
  exact absurd (List.sublist_nil.mp hrules) (by decide)

end

end Taskweavn

import Taskweavn.Context.AgentLoopProvider

/-!
# Transcripts that only grow

In an agent loop each request brings the messages of the call before and the new ones.  Then
every later call of the run leaves them in front and appends at most one message, so that
the prefix, and its hash, are those of the first call.

A message is appended for the checkpoint interval, for an evaluator, or for an interruption
that the call before did not find.  `grows` says which of them for every call of every run, of
any number of runs side by side.  Whether an interruption that the first call has found is told
later is left open: the start context does not show it.

* `Coheres`: what the provider keeps of a run agrees with what has been seen of it.
* `Prepares.coheres`: it does after every sequence of calls.
* `grows`: **what a later call returns**.
-/

namespace Taskweavn

open Lib Py

/-! ### Messages -/

theorem infix_intercalate {α : Type*} {sep x : List α} : ∀ {l : List (List α)},
    x ∈ l → x <:+: sep.intercalate l := by
  intro l
  induction l with
  | nil => intro h; cases h
  | cons y l ih =>
    intro h
    cases l with
    | nil =>
      refine ⟨[], [], ?_⟩
      rw [List.mem_singleton.mp h, List.intercalate_singleton, List.nil_append, List.append_nil]
    | cons z l =>
      rw [List.intercalate_cons_cons]
      rcases List.mem_cons.mp h with rfl | h
      · exact ⟨[], sep ++ sep.intercalate (z :: l), by simp⟩
      · exact (ih h).trans (List.suffix_append _ _).isInfix

theorem infix_joinLines {line : String} {lines : List String} (h : line ∈ lines) :
    line.toList <:+: (joinLines lines).toList := by
  rw [joinLines, String.toList_intercalate]
  exact infix_intercalate (List.mem_map_of_mem h)

theorem infix_renderDeltaUser {context : TaskExecutionContext} {interruption : InterruptionContext}
    {reason : String} (h : context.execution.interruption = some interruption) :
    ("- " ++ interruptionChange interruption).toList <:+:
    (renderDeltaUser context reason).toList := by
  have hmem : interruptionChange interruption ∈ activeChanges context := by
    rw [activeChanges, h]
    simp
  have hne : activeChanges context ≠ [] := List.ne_nil_of_mem hmem
  refine infix_joinLines ?_
  rw [if_neg hne]
  refine List.mem_append_left _ (List.mem_append_left _ (List.mem_append_right _ ?_))
  exact List.mem_map_of_mem hmem

theorem infix_renderCheckpointUser {context : TaskExecutionContext}
    {interruption : InterruptionContext} {reason : String}
    (h : context.execution.interruption = some interruption) :
    (interruptionLine interruption).toList <:+: (renderCheckpointUser context reason).toList := by
  refine infix_joinLines ?_
  rw [h]
  simp

def Tells (reading : ContextReading) (message : PyValue) : Prop :=
  ∃ text, message = ContextRenderer.contextMessage "system" text ∧
    ∀ interruption, reading.context.execution.interruption = some interruption →
      ("- " ++ interruptionChange interruption).toList <:+: text.toList ∨
        (interruptionLine interruption).toList <:+: text.toList

/-! ### What is seen of a run -/

/-- What the calls of a run have shown so far. -/
structure RunRecord where
  /-- The messages of the last result. -/
  persisted : List PyValue
  /-- The prefix hash that the first call reported. -/
  prefixHash : Option String
  /-- The interruption that the last call found. -/
  found : Option String
  /-- The turn of the last checkpoint, or 0. -/
  checkpointTurn : ℕ
  /-- The first call has found the same, and so has every call since, with no message. -/
  sinceStart : Bool

def RunRecord.after (record : Option RunRecord) (request : AgentLoopContextRequest)
    (reading : ContextReading) (result : AgentLoopContextCallResult) : RunRecord where
  persisted := result.persistedMessages
  prefixHash := (record.map RunRecord.prefixHash).getD result.stablePrefixHash
  found := reading.signature
  checkpointTurn :=
    if result.renderMode = .checkpointContext then request.turnIndex
    else (record.map RunRecord.checkpointTurn).getD 0
  sinceStart := record.all fun r => r.sinceStart && reading.signature == r.found &&
    result.llmMessages.length == request.loopMessages.length

/-- The request brings the messages of the last result, and new ones. -/
def Extends (record : Option RunRecord) (request : AgentLoopContextRequest) : Prop :=
  ∀ r, record = some r → ∃ new, request.loopMessages = r.persisted ++ new

def AppendsCheckpoint (request : AgentLoopContextRequest) (result : AgentLoopContextCallResult) :
    Prop :=
  result.renderMode = .checkpointContext ∧
    ∃ message, result.llmMessages = request.loopMessages ++ [message]

namespace AgentLoopContextProvider

variable {provider : AgentLoopContextProvider} {states states' : RunStates}
  {request : AgentLoopContextRequest} {readings : CallReadings} {state : CacheAwareRunState}
  {reading : ContextReading} {result : AgentLoopContextCallResult}

/-! ### One build -/

theorem buildLater_messages (provider : AgentLoopContextProvider) (reading : ContextReading)
    (mode : TriggeredRenderMode) (reason : String) (messages : List PyValue) :
    (mode = .deltaContext ∧ reason = "" ∧
        (provider.buildLater reading mode reason messages).messages = messages) ∨
      ¬(mode = .deltaContext ∧ reason = "") ∧ ∃ message, Tells reading message ∧
        (provider.buildLater reading mode reason messages).messages = messages ++ [message] := by
  cases mode with
  | deltaContext =>
    by_cases hreason : reason = ""
    · left
      simp [buildLater, hreason, ContextRenderer.renderReusedTranscript]
    · right
      refine ⟨fun h => hreason h.2, _, ⟨renderDeltaUser reading.context reason, rfl, fun i hi =>
        .inl (infix_renderDeltaUser hi)⟩, ?_⟩
      simp only [buildLater, if_neg hreason]
      rfl
  | checkpointContext =>
    right
    refine ⟨fun h => (by cases h.1), _, ⟨renderCheckpointUser reading.context
      (if reason = "" then "checkpoint" else reason), rfl, fun i hi =>
        .inr (infix_renderCheckpointUser hi)⟩, rfl⟩

theorem buildLater_fields (mode : TriggeredRenderMode) (reason : String)
    (messages : List PyValue) :
    (provider.buildLater reading mode reason messages).renderMode =
        (if mode = .checkpointContext then .checkpointContext else .deltaContext) ∧
      (provider.buildLater reading mode reason messages).stablePrefixHash =
        provider.renderer.stablePrefixHashFromMessages messages := by
  cases mode with
  | deltaContext =>
    by_cases hreason : reason = ""
    · simp [buildLater, hreason, ContextRenderer.renderReusedTranscript]
    · simp [buildLater, hreason, ContextRenderer.renderDeltaContext,
        ContextRenderer.renderAppendedContext]
  | checkpointContext => exact ⟨rfl, rfl⟩

/-! ### One call -/

def renderedReading (provider : AgentLoopContextProvider) (states : RunStates)
    (request : AgentLoopContextRequest) (readings : CallReadings) : Option ContextReading :=
  match states.get? request.agentRunId with
  | none => readings.first
  | some state =>
    if (provider.nextTrigger readings.evaluators request state).isSome then readings.first
    else readings.first.bind fun first =>
      if newlyInterrupted state first then readings.second else some first

/-- The trigger by which a later call renders; a reuse is a delta without a reason. -/
def callTrigger (provider : AgentLoopContextProvider) (state : CacheAwareRunState)
    (request : AgentLoopContextRequest) (readings : CallReadings) : ContextRenderTrigger :=
  (provider.nextTrigger readings.evaluators request state).getD
    (if readings.first.any (newlyInterrupted state) then ⟨.deltaContext, "interrupt_requested"⟩
      else ⟨.deltaContext, ""⟩)

structure Later (provider : AgentLoopContextProvider) (state state' : CacheAwareRunState)
    (request : AgentLoopContextRequest) (readings : CallReadings) (reading : ContextReading)
    (result : AgentLoopContextCallResult) : Prop where
  rendered : result.rendered = provider.buildLater reading
    (provider.callTrigger state request readings).renderMode
    (provider.callTrigger state request readings).reason request.loopMessages
  messages : result.llmMessages = result.rendered.messages
  persisted : result.persistedMessages = result.rendered.messages
  renderMode : result.renderMode = result.rendered.renderMode
  prefixHash : result.stablePrefixHash =
    result.rendered.stablePrefixHash.or state.stablePrefixHash
  initialized : state'.startContextInitialized = state.startContextInitialized
  stablePrefixHash : state'.stablePrefixHash = state.stablePrefixHash
  found : state'.lastInterruptionSignature = reading.signature
  checkpointStep : state'.lastCheckpointStep =
    if (provider.callTrigger state request readings).renderMode = .checkpointContext then
      request.turnIndex
    else state.lastCheckpointStep

/-- **One later call.** -/
theorem later_call (hget : states.get? request.agentRunId = some state)
    (hstart : state.startContextInitialized = true)
    (h : provider.prepareLlmCall states request readings = some (result, states')) :
    ∃ reading state', provider.renderedReading states request readings = some reading ∧
      states' = states.set request.agentRunId state' ∧
        provider.Later state state' request readings reading result := by
  simp only [prepareLlmCall, hget, hstart] at h
  rw [if_neg (by decide)] at h
  cases htrigger : provider.nextTrigger readings.evaluators request state with
  | some trigger =>
    simp only [htrigger] at h
    obtain ⟨first, hfirst, h⟩ := Option.map_eq_some_iff.mp h
    cases h
    have hcall : provider.callTrigger state request readings = trigger := by
      rw [callTrigger, htrigger, Option.getD_some]
    refine ⟨first, _, ?_, rfl, ?_⟩
    · simp only [renderedReading, hget, htrigger, hfirst]
      rfl
    · constructor <;> simp only [hcall]
  | none =>
    simp only [htrigger] at h
    obtain ⟨first, hfirst, h⟩ := Option.bind_eq_some_iff.mp h
    have hrendered : provider.renderedReading states request readings =
        if newlyInterrupted state first then readings.second else some first := by
      simp only [renderedReading, hget, htrigger, hfirst]
      rfl
    have hcall : provider.callTrigger state request readings =
        if newlyInterrupted state first then ⟨.deltaContext, "interrupt_requested"⟩
        else ⟨.deltaContext, ""⟩ := by
      rw [callTrigger, htrigger, Option.getD_none, hfirst, Option.any_some]
    rw [hrendered]
    unfold prepareReuseTranscript at h
    cases hnew : newlyInterrupted state first with
    | true =>
      rw [hnew] at h hcall
      obtain ⟨second, hsecond, h⟩ := Option.map_eq_some_iff.mp h
      cases h
      refine ⟨second, _, by rw [if_pos rfl]; exact hsecond, rfl, ?_⟩
      constructor <;> simp only [hcall, if_true]
    | false =>
      rw [hnew] at h hcall
      cases h
      refine ⟨first, _, by rw [if_neg (by decide)], rfl, ?_⟩
      constructor <;> simp [hcall]

/-! ### What a later call does -/

/-- The checkpoint interval has passed since the last checkpoint of the run. -/
def Due (provider : AgentLoopContextProvider) (record : RunRecord)
    (request : AgentLoopContextRequest) : Prop :=
  0 < provider.checkpointIntervalSteps ∧
    provider.checkpointIntervalSteps ≤ (request.turnIndex : ℤ) - record.checkpointTurn

/-- **What a call after the first returns**, when the evaluators ask for `asked`. -/
structure Grows (provider : AgentLoopContextProvider) (record : RunRecord)
    (asked : Option ContextRenderTrigger) (request : AgentLoopContextRequest)
    (readings : CallReadings) (reading : ContextReading) (result : AgentLoopContextCallResult) :
    Prop where
  /-- The transcript, and at most one message behind it. -/
  appended : result.llmMessages = request.loopMessages ∨ ∃ message, Tells reading message ∧
    result.llmMessages = request.loopMessages ++ [message]
  prefixHash : result.stablePrefixHash = record.prefixHash
  /-- An interruption that the call before did not find is told. -/
  announced : reading.signature.isSome = true → reading.signature ≠ record.found →
    provider.Due record request ∨ asked ≠ some ⟨.deltaContext, ""⟩ →
      ∃ message, Tells reading message ∧ result.llmMessages = request.loopMessages ++ [message]
  /-- Otherwise there is a message only for the interval and for the evaluators. -/
  quiet : ¬provider.Due record request → asked = none →
    (∀ first, readings.first = some first → first.signature = none ∨
      first.signature = record.found ∧ record.sinceStart = false) →
    result.llmMessages = request.loopMessages
  checkpoint : AppendsCheckpoint request result ↔ provider.Due record request ∨
    ∃ trigger, asked = some trigger ∧ trigger.renderMode = .checkpointContext

structure Agrees (provider : AgentLoopContextProvider) (record : RunRecord)
    (state : CacheAwareRunState) : Prop where
  initialized : state.startContextInitialized = true
  found : state.lastInterruptionSignature = record.found
  checkpointStep : state.lastCheckpointStep = record.checkpointTurn
  stored : state.stablePrefixHash = record.prefixHash
  start : ∃ a b rest, record.persisted = a :: b :: rest ∧
    record.prefixHash = some (provider.renderer.hashMessages [a, b])

variable {record : RunRecord}

theorem newlyInterrupted_iff (h : provider.Agrees record state) :
    newlyInterrupted state reading = true ↔
      reading.signature.isSome = true ∧ reading.signature ≠ record.found := by
  rw [newlyInterrupted, h.found, Bool.and_eq_true, bne_iff_ne]

theorem intervalCheckpointTrigger_cases (request : AgentLoopContextRequest)
    (h : provider.Agrees record state) :
    (provider.Due record request ∧ ∃ reason, provider.intervalCheckpointTrigger request state =
        some ⟨.checkpointContext, reason⟩) ∨
      (¬provider.Due record request ∧ provider.intervalCheckpointTrigger request state = none) := by
  unfold intervalCheckpointTrigger Due
  rw [h.checkpointStep]
  by_cases hzero : provider.checkpointIntervalSteps ≤ 0
  · right
    rw [if_pos hzero]
    exact ⟨fun hdue => by omega, rfl⟩
  · rw [if_neg hzero]
    by_cases hlt : (request.turnIndex : ℤ) - record.checkpointTurn <
      provider.checkpointIntervalSteps
    · right
      rw [if_pos hlt]
      exact ⟨fun hdue => by omega, rfl⟩
    · left
      rw [if_neg hlt]
      exact ⟨⟨by omega, by omega⟩, _, rfl⟩

theorem callTrigger_checkpoint_iff (h : provider.Agrees record state) :
    (provider.callTrigger state request readings).renderMode = .checkpointContext ↔
      provider.Due record request ∨ ∃ trigger,
        evaluatorTrigger readings.evaluators request state = some trigger ∧
          trigger.renderMode = .checkpointContext := by
  rw [callTrigger, nextTrigger]
  rcases intervalCheckpointTrigger_cases request h with ⟨hdue, reason, hinterval⟩ |
    ⟨hdue, hinterval⟩
  · rw [hinterval]
    exact iff_of_true rfl (.inl hdue)
  · rw [hinterval, Option.none_or]
    cases evaluatorTrigger readings.evaluators request state with
    | some trigger => simp [hdue]
    | none =>
      simp only [hdue, false_or, Option.getD_none]
      refine iff_of_false ?_ (by simp)
      split <;> decide

/-- A later call that finds something new renders a message, unless an evaluator takes it with
a delta that has no reason. -/
theorem callTrigger_ne_reuse (h : provider.Agrees record state)
    (hreading : provider.renderedReading states request readings = some reading)
    (hget : states.get? request.agentRunId = some state)
    (hnew : reading.signature.isSome = true ∧ reading.signature ≠ record.found)
    (hasked : provider.Due record request ∨
      evaluatorTrigger readings.evaluators request state ≠ some ⟨.deltaContext, ""⟩) :
    ¬((provider.callTrigger state request readings).renderMode = .deltaContext ∧
      (provider.callTrigger state request readings).reason = "") := by
  rintro ⟨hmode, hreason⟩
  simp only [renderedReading, hget] at hreading
  rw [callTrigger] at hmode hreason
  rw [nextTrigger] at hmode hreason hreading
  rcases intervalCheckpointTrigger_cases request h with ⟨hdue, reason, hinterval⟩ |
    ⟨hdue, hinterval⟩
  · rw [hinterval] at hmode
    cases hmode
  · rw [hinterval, Option.none_or] at hmode hreason hreading
    cases he : evaluatorTrigger readings.evaluators request state with
    | some trigger =>
      rw [he] at hmode hreason
      refine (hasked.resolve_left hdue) (he.trans ?_)
      obtain ⟨mode, reason⟩ := trigger
      rw [Option.getD_some] at hmode hreason
      simp only at hmode hreason
      rw [hmode, hreason]
    | none =>
      rw [he] at hreason hreading
      obtain ⟨first, hfirst, hreading⟩ := Option.bind_eq_some_iff.mp hreading
      rw [hfirst, Option.getD_none, Option.any_some] at hreason
      cases hfresh : newlyInterrupted state first with
      | true =>
        rw [hfresh] at hreason
        exact absurd hreason (by decide)
      | false =>
        rw [hfresh] at hreading
        obtain rfl := Option.some.inj hreading
        rw [(newlyInterrupted_iff h).mpr hnew] at hfresh
        cases hfresh

/-- **One later call of a run.** -/
theorem grows_of_agrees (h : provider.Agrees record state)
    (hextends : Extends (some record) request)
    (hget : states.get? request.agentRunId = some state)
    (hcall : provider.prepareLlmCall states request readings = some (result, states')) :
    ∃ reading state', provider.renderedReading states request readings = some reading ∧
      provider.Grows record (evaluatorTrigger readings.evaluators request state) request readings
        reading result ∧
      states' = states.set request.agentRunId state' ∧
        provider.Agrees (RunRecord.after (some record) request reading result) state' := by
  obtain ⟨reading, state', hreading, hstates, hlater⟩ := later_call hget h.initialized hcall
  obtain ⟨new, hnew⟩ := hextends record rfl
  obtain ⟨a, b, rest, hpersisted, hhash⟩ := h.start
  have hloop : request.loopMessages = a :: b :: (rest ++ new) := by
    rw [hnew, hpersisted]
    rfl
  have hprefix : provider.renderer.stablePrefixHashFromMessages request.loopMessages =
      record.prefixHash := by
    rw [hloop, hhash]
    rfl
  have hmode : result.renderMode = .checkpointContext ↔
      (provider.callTrigger state request readings).renderMode = .checkpointContext := by
    rw [hlater.renderMode, hlater.rendered, (buildLater_fields _ _ _).1]
    split
    · next hcheckpoint => simp [hcheckpoint]
    · next hdelta => simp [hdelta]
  have hmessages : result.llmMessages = (provider.buildLater reading
      (provider.callTrigger state request readings).renderMode
      (provider.callTrigger state request readings).reason request.loopMessages).messages := by
    rw [hlater.messages, hlater.rendered]
  have hcases := buildLater_messages provider reading
    (provider.callTrigger state request readings).renderMode
    (provider.callTrigger state request readings).reason request.loopMessages
  rw [← hmessages] at hcases
  refine ⟨reading, state', hreading, ⟨?_, ?_, ?_, ?_, ?_⟩, hstates, ⟨?_, ?_, ?_, ?_, ?_⟩⟩
  · rcases hcases with ⟨-, -, hsame⟩ | ⟨-, hone⟩
    · exact .inl hsame
    · exact .inr hone
  · rw [hlater.prefixHash, hlater.rendered, (buildLater_fields _ _ _).2, hprefix, hhash]
    rfl
  · intro hsome hne hasked
    rcases hcases with ⟨hdelta, hreason, -⟩ | ⟨-, hone⟩
    · exact absurd ⟨hdelta, hreason⟩
        (callTrigger_ne_reuse h hreading hget ⟨hsome, hne⟩ hasked)
    · exact hone
  · intro hdue hasked hknown
    have hreuse : provider.callTrigger state request readings = ⟨.deltaContext, ""⟩ := by
      rcases intervalCheckpointTrigger_cases request h with ⟨hdue', -⟩ | ⟨-, hinterval⟩
      · exact absurd hdue' hdue
      · rw [callTrigger, nextTrigger, hinterval, hasked, Option.none_or, Option.getD_none, if_neg]
        intro hany
        cases hfirst : readings.first with
        | none =>
          rw [hfirst] at hany
          cases hany
        | some first =>
          rw [hfirst, Option.any_some, newlyInterrupted_iff h] at hany
          rcases hknown first hfirst with hnone | ⟨hsame, -⟩
          · rw [hnone] at hany
            cases hany.1
          · exact hany.2 hsame
    rcases hcases with ⟨-, -, hsame⟩ | ⟨hno, -⟩
    · exact hsame
    · rw [hreuse] at hno
      exact absurd ⟨rfl, rfl⟩ hno
  · rw [AppendsCheckpoint, hmode, ← callTrigger_checkpoint_iff h]
    refine and_iff_left_of_imp fun hcheckpoint => ?_
    rcases hcases with ⟨hdelta, -, -⟩ | ⟨-, message, -, hone⟩
    · rw [hcheckpoint] at hdelta
      cases hdelta
    · exact ⟨message, hone⟩
  · rw [hlater.initialized, h.initialized]
  · exact hlater.found
  · rw [hlater.checkpointStep, RunRecord.after, h.checkpointStep]
    simp only [hmode, Option.map_some, Option.getD_some]
  · rw [hlater.stablePrefixHash, h.stored]
    rfl
  · refine ⟨a, b, ?_⟩
    have hpersisted' : (RunRecord.after (some record) request reading result).persisted =
        result.llmMessages := by
      rw [RunRecord.after, hlater.persisted, hlater.messages]
    rw [hpersisted']
    rcases hcases with ⟨-, -, hsame⟩ | ⟨-, message, -, hone⟩
    · exact ⟨rest ++ new, by rw [hsame, hloop], hhash⟩
    · exact ⟨rest ++ new ++ [message], by rw [hone, hloop]; rfl, hhash⟩

/-! ### Runs -/

/-- The states of the provider and the records of the runs, after any calls of any runs.  A call
that raises leaves both as they are. -/
inductive Prepares (provider : AgentLoopContextProvider) :
    RunStates → (String → Option RunRecord) → Prop
  | init : Prepares provider Dict.empty fun _ => none
  | call {states states' : RunStates} {records : String → Option RunRecord}
      {request : AgentLoopContextRequest} {readings : CallReadings} {reading : ContextReading}
      {result : AgentLoopContextCallResult} (h : Prepares provider states records)
      (hextends : Extends (records request.agentRunId) request)
      (hcall : provider.prepareLlmCall states request readings = some (result, states'))
      (hreading : provider.renderedReading states request readings = some reading) :
      Prepares provider states' (Function.update records request.agentRunId
        (some (RunRecord.after (records request.agentRunId) request reading result)))

/-- The provider has a state for each run that was seen, and none for the others. -/
structure Coheres (provider : AgentLoopContextProvider) (states : RunStates)
    (records : String → Option RunRecord) : Prop where
  unseen : ∀ id, records id = none → states.get? id = none
  seen : ∀ id record, records id = some record → ∃ state, states.get? id = some state ∧
    provider.Agrees record state

/-- **The first call of a run.** -/
theorem agrees_start (hget : states.get? request.agentRunId = none)
    (hcall : provider.prepareLlmCall states request readings = some (result, states'))
    (hreading : provider.renderedReading states request readings = some reading) :
    ∃ state', states' = states.set request.agentRunId state' ∧
      provider.Agrees (RunRecord.after none request reading result) state' := by
  simp only [prepareLlmCall, hget] at hcall
  simp only [renderedReading, hget] at hreading
  rw [hreading] at hcall
  cases hcall
  exact ⟨_, rfl, rfl, rfl, rfl, rfl, _, _, [], rfl, rfl⟩

theorem Coheres.set {records : String → Option RunRecord} {id : String}
    (h : provider.Coheres states records) (hagrees : provider.Agrees record state) :
    provider.Coheres (states.set id state) (Function.update records id (some record)) := by
  refine ⟨fun id' hnone => ?_, fun id' record' hrecord' => ?_⟩
  · by_cases hid : id' = id
    · subst hid
      rw [Function.update_self] at hnone
      cases hnone
    · rw [Function.update_of_ne hid] at hnone
      rw [Dict.get?_set_ne _ _ (Ne.symm hid)]
      exact h.unseen id' hnone
  · by_cases hid : id' = id
    · subst hid
      rw [Function.update_self] at hrecord'
      cases hrecord'
      exact ⟨state, Dict.get?_set_self _ _ _, hagrees⟩
    · rw [Function.update_of_ne hid] at hrecord'
      rw [Dict.get?_set_ne _ _ (Ne.symm hid)]
      exact h.seen id' record' hrecord'

/-- **A run of calls.** -/
theorem Prepares.coheres {records : String → Option RunRecord}
    (h : provider.Prepares states records) :
    provider.Coheres states records := by
  induction h with
  | init => exact ⟨fun _ _ => rfl, fun _ _ h => by cases h⟩
  | @call states states' records request readings reading result _ hextends hcall hreading ih =>
    cases hrecord : records request.agentRunId with
    | none =>
      obtain ⟨state', rfl, hagrees⟩ := agrees_start (ih.unseen _ hrecord) hcall hreading
      exact ih.set hagrees
    | some record =>
      obtain ⟨state, hget, hagrees⟩ := ih.seen _ record hrecord
      rw [hrecord] at hextends
      obtain ⟨reading', state', hreading', -, rfl, hagrees'⟩ :=
        grows_of_agrees hagrees hextends hget hcall
      rw [hreading] at hreading'
      cases hreading'
      exact ih.set hagrees'

/-- **Cache-aware transcripts only grow.** -/
theorem grows {records : String → Option RunRecord} (h : provider.Prepares states records)
    (hextends : Extends (records request.agentRunId) request)
    (hrecord : records request.agentRunId = some record)
    (hcall : provider.prepareLlmCall states request readings = some (result, states')) :
    ∃ reading state, provider.renderedReading states request readings = some reading ∧
      states.get? request.agentRunId = some state ∧
        provider.Grows record (evaluatorTrigger readings.evaluators request state) request readings
          reading result := by
  obtain ⟨state, hget, hagrees⟩ := h.coheres.seen _ record hrecord
  rw [hrecord] at hextends
  obtain ⟨reading, -, hreading, hgrows, -, -⟩ := grows_of_agrees hagrees hextends hget hcall
  exact ⟨reading, state, hreading, hget, hgrows⟩

/-! ### Two calls -/

theorem exists_result {first second : ContextReading} (hfirst : readings.first = some first)
    (hsecond : readings.second = some second) : ∃ result states',
      provider.prepareLlmCall states request readings = some (result, states') := by
  unfold prepareLlmCall prepareReuseTranscript
  rw [hfirst, hsecond]
  split
  · exact ⟨_, _, rfl⟩
  · split
    · exact ⟨_, _, rfl⟩
    · split
      · exact ⟨_, _, rfl⟩
      · simp only [Option.bind_some]
        split <;> exact ⟨_, _, rfl⟩

/-- Documents of different lengths have different hashes. -/
def lengthProvider : AgentLoopContextProvider where
  renderer :=
    { baseSystemPrompt := "You are an execution agent."
      sha256 := fun doc =>
        match doc with
        | .list messages => messages.length.repr
        | _ => "" }

/-- A running task, with or without a request to stop. -/
def runningReading (interruption : Option InterruptionContext) : ContextReading where
  context :=
    { task := { originalTarget := "Write the report" }
      execution := { status := .running, interruption := interruption } }
  snapshotId := "ctx-1"
  traceId := "trace-1"

def stopRequest : InterruptionContext where
  requested := true
  requestId := some "stop-1"
  reason := some "user requested stop"
  requestedBy := some .user

def firstRequest : AgentLoopContextRequest where
  agentRunId := "run-1"
  turnIndex := 1

def firstCall (reading : ContextReading) : AgentLoopContextCallResult × RunStates :=
  lengthProvider.prepareStartContext Dict.empty firstRequest reading

def firstRecord (reading : ContextReading) : RunRecord :=
  RunRecord.after none firstRequest reading (firstCall reading).1

/-- The second call, at the next turn, with nothing new. -/
def secondRequest (reading : ContextReading) : AgentLoopContextRequest where
  agentRunId := "run-1"
  turnIndex := 2
  loopMessages := (firstCall reading).1.persistedMessages

theorem prepares_first (reading : ContextReading) :
    lengthProvider.Prepares (firstCall reading).2
      (Function.update (fun _ => none) "run-1" (some (firstRecord reading))) := by
  have hcall : lengthProvider.prepareLlmCall Dict.empty firstRequest ⟨some reading, none, []⟩ =
      some ((firstCall reading).1, (firstCall reading).2) := rfl
  exact .call .init (fun _ h => by cases h) hcall rfl

theorem extends_second (reading : ContextReading) :
    Extends (some (firstRecord reading)) (secondRequest reading) := by
  intro record hrecord
  cases hrecord
  exact ⟨[], (List.append_nil _).symm⟩

theorem agrees_first (reading : ContextReading) : ∃ state,
    (firstCall reading).2.get? (secondRequest reading).agentRunId = some state ∧
      lengthProvider.Agrees (firstRecord reading) state :=
  (prepares_first reading).coheres.seen "run-1" _ (Function.update_self _ _ _)

theorem not_due_second (reading : ContextReading) :
    ¬lengthProvider.Due (firstRecord reading) (secondRequest reading) := by
  rintro ⟨-, hle⟩
  change (5 : ℤ) ≤ 2 - 0 at hle
  omega

theorem second_result (start reading : ContextReading) (evaluators : List ContextTriggerEvaluator) :
    ∃ result states', lengthProvider.prepareLlmCall (firstCall start).2 (secondRequest start)
      ⟨some reading, some reading, evaluators⟩ = some (result, states') :=
  exists_result rfl rfl

/-- The second call of a run, prepared without anything to tell. -/
theorem second_call_grows : ∃ result states' reading state,
    lengthProvider.prepareLlmCall (firstCall (runningReading none)).2
        (secondRequest (runningReading none))
        ⟨some (runningReading none), some (runningReading none), []⟩ = some (result, states') ∧
      lengthProvider.Grows (firstRecord (runningReading none)) (evaluatorTrigger []
        (secondRequest (runningReading none)) state) (secondRequest (runningReading none))
        ⟨some (runningReading none), some (runningReading none), []⟩ reading result := by
  obtain ⟨result, states', hcall⟩ := second_result (runningReading none) (runningReading none) []
  have hrecord : Function.update (fun _ => none) "run-1" (some (firstRecord (runningReading none)))
      (secondRequest (runningReading none)).agentRunId =
        some (firstRecord (runningReading none)) := Function.update_self _ _ _
  obtain ⟨reading, state, -, -, hgrows⟩ := grows (prepares_first (runningReading none))
    (hrecord ▸ extends_second _) hrecord hcall
  exact ⟨result, states', reading, state, hcall, hgrows⟩

theorem checkpoint_before_interval : ∃ result states',
    lengthProvider.prepareLlmCall (firstCall (runningReading none)).2
        (secondRequest (runningReading none)) ⟨some (runningReading none),
          some (runningReading none), [fun _ _ => some ⟨.checkpointContext, "retry"⟩]⟩ =
      some (result, states') ∧ AppendsCheckpoint (secondRequest (runningReading none)) result := by
  obtain ⟨state, hget, hagrees⟩ := agrees_first (runningReading none)
  obtain ⟨result, states', hcall⟩ := second_result (runningReading none) (runningReading none)
    [fun _ _ => some ⟨.checkpointContext, "retry"⟩]
  obtain ⟨_, _, -, hgrows, -, -⟩ := grows_of_agrees hagrees (extends_second _) hget hcall
  exact ⟨result, states', hcall, hgrows.checkpoint.mpr (.inr ⟨_, rfl, rfl⟩)⟩

theorem interruption_untold : ∃ result states',
    lengthProvider.prepareLlmCall (firstCall (runningReading none)).2
        (secondRequest (runningReading none)) ⟨some (runningReading stopRequest),
          some (runningReading stopRequest), [fun _ _ => some ⟨.deltaContext, ""⟩]⟩ =
      some (result, states') ∧
        result.llmMessages = (secondRequest (runningReading none)).loopMessages := by
  obtain ⟨state, hget, hagrees⟩ := agrees_first (runningReading none)
  obtain ⟨result, states', hcall⟩ := second_result (runningReading none)
    (runningReading stopRequest) [fun _ _ => some ⟨.deltaContext, ""⟩]
  obtain ⟨reading, state', -, -, hlater⟩ := later_call hget hagrees.initialized hcall
  refine ⟨result, states', hcall, ?_⟩
  have htrigger : lengthProvider.callTrigger state (secondRequest (runningReading none))
      ⟨some (runningReading stopRequest), some (runningReading stopRequest),
        [fun _ _ => some ⟨.deltaContext, ""⟩]⟩ = ⟨.deltaContext, ""⟩ := by
    rcases intervalCheckpointTrigger_cases (secondRequest _) hagrees with ⟨hdue, -⟩ | ⟨-, hinterval⟩
    · exact absurd hdue (not_due_second _)
    · rw [callTrigger, nextTrigger, hinterval]
      rfl
  rw [hlater.messages, hlater.rendered, htrigger]
  rfl

/-- A checkpoint is appended exactly for the interval, in every later call. -/
def ChecksByIntervalOnly (provider : AgentLoopContextProvider) : Prop :=
  ∀ states records request readings record result states', provider.Prepares states records →
    Extends (records request.agentRunId) request → records request.agentRunId = some record →
    provider.prepareLlmCall states request readings = some (result, states') →
      (AppendsCheckpoint request result ↔ provider.Due record request)

/-- An interruption that the call before did not find is told, in every later call. -/
def AlwaysTells (provider : AgentLoopContextProvider) : Prop :=
  ∀ states records request readings record reading result states',
    provider.Prepares states records →
    Extends (records request.agentRunId) request → records request.agentRunId = some record →
    provider.prepareLlmCall states request readings = some (result, states') →
    provider.renderedReading states request readings = some reading →
    reading.signature.isSome = true → reading.signature ≠ record.found →
      ∃ message, Tells reading message ∧ result.llmMessages = request.loopMessages ++ [message]

/-- **Evaluators append checkpoints of their own, and can take the place of a message.** -/
theorem evaluators_matter :
    ¬lengthProvider.ChecksByIntervalOnly ∧ ¬lengthProvider.AlwaysTells := by
  have hrecord : Function.update (fun _ => none) "run-1" (some (firstRecord (runningReading none)))
      (secondRequest (runningReading none)).agentRunId =
        some (firstRecord (runningReading none)) := Function.update_self _ _ _
  refine ⟨fun h => ?_, fun h => ?_⟩
  · obtain ⟨result, states', hcall, hcheckpoint⟩ := checkpoint_before_interval
    exact not_due_second _ ((h _ _ _ _ _ _ _ (prepares_first _) (hrecord ▸ extends_second _) hrecord
      hcall).mp hcheckpoint)
  · obtain ⟨result, states', hcall, hsame⟩ := interruption_untold
    obtain ⟨state, hget, hagrees⟩ := agrees_first (runningReading none)
    obtain ⟨reading, state', hreading, -⟩ := later_call hget hagrees.initialized hcall
    have hfound : reading = runningReading stopRequest := by
      simp only [renderedReading, hget] at hreading
      split at hreading
      · exact (Option.some.inj hreading).symm
      · rw [Option.bind_some] at hreading
        split at hreading
        · exact (Option.some.inj hreading).symm
        · exact (Option.some.inj hreading).symm
    subst hfound
    obtain ⟨message, -, hone⟩ := h _ _ _ _ _ _ _ _ (prepares_first _)
      (hrecord ▸ extends_second _) hrecord hcall hreading rfl (by decide)
    rw [hsame] at hone
    have hlength := congrArg List.length hone
    rw [List.length_append, List.length_singleton] at hlength
    omega

end AgentLoopContextProvider

end Taskweavn

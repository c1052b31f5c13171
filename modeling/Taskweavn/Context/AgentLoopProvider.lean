import Taskweavn.Context.Renderer

/-!
# The context of an agent loop's calls

`SessionAgentLoopContextProvider` of `taskweavn/context/agent_loop_provider.py` prepares the
messages of each LLM call of an agent run.  The first call starts the transcript; a later one
appends a delta or a checkpoint when something triggers it, and otherwise reuses the
transcript, unless the build for the reuse finds an interruption that the call before did not
find.

A build reads the sources of the moment (`SessionContextManager.build` in
`taskweavn/context/manager.py`), or raises.
-/

namespace Taskweavn

open Lib Py

structure AgentLoopContextRequest where
  agentRunId : String
  turnIndex : ℕ
  loopMessages : List PyValue := []
  pendingDecisionCount : ℤ := 0

structure AgentLoopContextCallResult where
  llmMessages : List PyValue
  persistedMessages : List PyValue
  rendered : RenderedLlmInput
  appendedContextMessages : List PyValue := []
  renderMode : ContextRenderMode
  stablePrefixHash : Option String := none
  deltaReason : Option String := none
  checkpointReason : Option String := none
  runtimeConfigHash : Option String := none
deriving DecidableEq

structure CacheAwareRunState where
  agentRunId : String
  startContextInitialized : Bool := false
  stablePrefixHash : Option String := none
  lastCheckpointStep : ℕ := 0
  appendedContextMessageCount : ℕ := 0
  lastDeltaHash : Option String := none
  lastPendingDecisionCount : ℤ := 0
  lastInterruptionSignature : Option String := none
deriving DecidableEq

/-- `Literal["delta_context", "checkpoint_context"]` -/
inductive TriggeredRenderMode
  | deltaContext
  | checkpointContext
deriving DecidableEq, Repr

structure ContextRenderTrigger where
  renderMode : TriggeredRenderMode
  reason : String
deriving DecidableEq

abbrev ContextTriggerEvaluator :=
  AgentLoopContextRequest → CacheAwareRunState → Option ContextRenderTrigger

def interruptionSignature : Option InterruptionContext → Option String
  | none => none
  | some interruption =>
    if interruption.requested = false then none
    else
      match interruption.requestId with
      | some requestId => some ("request_id:" ++ requestId)
      | none =>
        some ("|".intercalate
          ["requested_by:" ++
              ((interruption.requestedBy.map TaskInterruptRequestedBy.toText).getD "unknown"),
            "reason:" ++ orText interruption.reason "none",
            "requested_at:" ++
              ((interruption.requestedAt.map DateTime.isoformat).getD "unknown_time")])

/-- The interruption that a reading has found, by its signature. -/
def ContextReading.signature (reading : ContextReading) : Option String :=
  interruptionSignature reading.context.execution.interruption

def appendedContextMessages (before after : List PyValue) : List PyValue :=
  if after.length ≤ before.length then []
  else if after.take before.length ≠ before then []
  else after.drop before.length

/-- `SessionAgentLoopContextProvider`, but for the states of its runs and its evaluators. -/
structure AgentLoopContextProvider where
  renderer : ContextRenderer
  checkpointIntervalSteps : ℤ := 5
  runtimeConfigHash : Option String := none

/-- What a call meets: its builds, one after the other, where `none` is one that raises, and the
`additional_trigger_evaluators` as they answer at that moment. -/
structure CallReadings where
  first : Option ContextReading
  second : Option ContextReading
  evaluators : List ContextTriggerEvaluator := []

abbrev RunStates := Dict String CacheAwareRunState

namespace AgentLoopContextProvider

variable (provider : AgentLoopContextProvider)

/-- `SessionContextManager.build`, in the mode `start_context` -/
def buildStart (reading : ContextReading) : RenderedLlmInput :=
  { provider.renderer.renderStartContext reading [] with
    runtimeConfigHash := provider.runtimeConfigHash }

/-- `SessionContextManager.build`, in the mode of a trigger or for a reuse, which gives no
reason -/
def buildLater (reading : ContextReading) (renderMode : TriggeredRenderMode) (reason : String)
    (priorMessages : List PyValue) : RenderedLlmInput :=
  let rendered :=
    match renderMode with
    | .deltaContext =>
      if reason = "" then provider.renderer.renderReusedTranscript reading priorMessages
      else provider.renderer.renderDeltaContext reading reason priorMessages
    | .checkpointContext =>
      provider.renderer.renderCheckpointContext reading
        (if reason = "" then "checkpoint" else reason) priorMessages
  { rendered with runtimeConfigHash := provider.runtimeConfigHash }

def prepareStartContext (states : RunStates) (request : AgentLoopContextRequest)
    (reading : ContextReading) : AgentLoopContextCallResult × RunStates :=
  let rendered := provider.buildStart reading
  let state : CacheAwareRunState :=
    { agentRunId := request.agentRunId
      startContextInitialized := true
      stablePrefixHash := rendered.stablePrefixHash
      lastCheckpointStep := 0
      lastPendingDecisionCount := request.pendingDecisionCount
      lastInterruptionSignature := reading.signature }
  ({ llmMessages := rendered.messages
     persistedMessages := rendered.messages
     rendered
     renderMode := rendered.renderMode
     stablePrefixHash := rendered.stablePrefixHash
     runtimeConfigHash := rendered.runtimeConfigHash },
    states.set request.agentRunId state)

def prepareTriggeredContext (states : RunStates) (request : AgentLoopContextRequest)
    (state : CacheAwareRunState) (trigger : ContextRenderTrigger) (reading : ContextReading) :
    AgentLoopContextCallResult × RunStates :=
  let rendered := provider.buildLater reading trigger.renderMode trigger.reason request.loopMessages
  let appended := appendedContextMessages request.loopMessages rendered.messages
  let updated :=
    { state with
      lastCheckpointStep :=
        if trigger.renderMode = .checkpointContext then request.turnIndex
        else state.lastCheckpointStep
      appendedContextMessageCount := state.appendedContextMessageCount + appended.length
      lastDeltaHash :=
        if trigger.renderMode = .deltaContext then some rendered.renderedInputHash
        else state.lastDeltaHash
      lastPendingDecisionCount := request.pendingDecisionCount
      lastInterruptionSignature := reading.signature }
  ({ llmMessages := rendered.messages
     persistedMessages := rendered.messages
     rendered
     appendedContextMessages := appended
     renderMode := rendered.renderMode
     stablePrefixHash := rendered.stablePrefixHash.or state.stablePrefixHash
     deltaReason := if trigger.renderMode = .deltaContext then some trigger.reason else none
     checkpointReason :=
       if trigger.renderMode = .checkpointContext then some trigger.reason else none
     runtimeConfigHash := rendered.runtimeConfigHash },
    states.set request.agentRunId updated)

/-- The interruption is one that the call before did not find. -/
def newlyInterrupted (state : CacheAwareRunState) (reading : ContextReading) : Bool :=
  reading.signature.isSome && reading.signature != state.lastInterruptionSignature

def prepareReuseTranscript (states : RunStates) (request : AgentLoopContextRequest)
    (state : CacheAwareRunState) (first : ContextReading) (second : Option ContextReading) :
    Option (AgentLoopContextCallResult × RunStates) :=
  let rendered := provider.buildLater first .deltaContext "" request.loopMessages
  if newlyInterrupted state first then
    second.map fun reading => provider.prepareTriggeredContext states request state
      ⟨.deltaContext, "interrupt_requested"⟩ reading
  else
    some
      ({ llmMessages := rendered.messages
         persistedMessages := rendered.messages
         rendered
         renderMode := rendered.renderMode
         stablePrefixHash := rendered.stablePrefixHash.or state.stablePrefixHash
         runtimeConfigHash := rendered.runtimeConfigHash },
        states.set request.agentRunId
          { state with
            lastPendingDecisionCount := request.pendingDecisionCount
            lastInterruptionSignature := first.signature })

def intervalCheckpointTrigger (request : AgentLoopContextRequest) (state : CacheAwareRunState) :
    Option ContextRenderTrigger :=
  if provider.checkpointIntervalSteps ≤ 0 then none
  else if (request.turnIndex : ℤ) - state.lastCheckpointStep < provider.checkpointIntervalSteps then
    none
  else some ⟨.checkpointContext, "interval:" ++ toString provider.checkpointIntervalSteps⟩

/-- What the first of the evaluators to answer asks for. -/
def evaluatorTrigger (evaluators : List ContextTriggerEvaluator)
    (request : AgentLoopContextRequest) (state : CacheAwareRunState) :
    Option ContextRenderTrigger :=
  evaluators.findSome? fun evaluator => evaluator request state

def nextTrigger (evaluators : List ContextTriggerEvaluator) (request : AgentLoopContextRequest)
    (state : CacheAwareRunState) : Option ContextRenderTrigger :=
  (provider.intervalCheckpointTrigger request state).or (evaluatorTrigger evaluators request state)

/-- `prepare_llm_call`; `none` when a build raises. -/
def prepareLlmCall (states : RunStates) (request : AgentLoopContextRequest)
    (readings : CallReadings) : Option (AgentLoopContextCallResult × RunStates) :=
  match states.get? request.agentRunId with
  | none => readings.first.map (provider.prepareStartContext states request)
  | some state =>
    if state.startContextInitialized = false then
      readings.first.map (provider.prepareStartContext states request)
    else
      match provider.nextTrigger readings.evaluators request state with
      | some trigger =>
        readings.first.map (provider.prepareTriggeredContext states request state trigger)
      | none =>
        readings.first.bind fun first =>
          provider.prepareReuseTranscript states request state first readings.second

end AgentLoopContextProvider

end Taskweavn

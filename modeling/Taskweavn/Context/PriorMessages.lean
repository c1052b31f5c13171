import Taskweavn.Context.AgentLoopProvider
import Taskweavn.Lib.Replies

/-!
# The window of prior messages

`SessionAgentLoopContextProvider.build_for_llm_call` of `taskweavn/context/agent_loop_provider.py`
renders the context again for every call, and puts the last messages of the loop behind it.  The
window is cut by a number of messages alone, and `prior[-0:]` is everything.

* `priorMessages_suffix`: the window is an end of the transcript.
* `keepsProtocol_iff`: **the rendered messages keep the tool protocol, within the bound**, exactly
  if everything fits, or the bound is not zero and the window does not begin with a tool message.
-/

namespace Taskweavn

open Lib Py

/-- `xs[start:]` -/
def sliceFrom {α : Type} (xs : List α) (start : ℤ) : List α :=
  if start < 0 then xs.drop (xs.length - start.natAbs) else xs.drop start.toNat

/-! ### The tool protocol -/

namespace ToolProtocol

/-- `message.get(key)` -/
def field (key : String) : PyValue → PyValue
  | .dict items => (lookupEntries key items).getD .none
  | _ => .none

def toolCallIds (message : PyValue) : List PyValue :=
  if field "role" message = .str "assistant" then
    match field "tool_calls" message with
    | .list calls => calls.map (field "id")
    | .tuple calls => calls.map (field "id")
    | _ => []
  else []

def toolCallId (message : PyValue) : Option PyValue :=
  if field "role" message = .str "tool" then some (field "tool_call_id" message) else none

/-- Every call of an assistant message has its tool message right behind it, and there is no other
tool message. -/
def WellFormed (messages : List PyValue) : Prop := Answered toolCallIds toolCallId [] messages

end ToolProtocol

open ToolProtocol

/-! ### The rendering -/

/-- What a build of the full context draws from the sources, with what `_render_user` writes of
it. -/
structure FullContextReading extends ContextReading where
  userContent : String

def ContextRenderer.render (renderer : ContextRenderer) (reading : FullContextReading)
    (priorMessages : List PyValue) : RenderedLlmInput :=
  let systemContent := renderer.renderSystem
  let messages :=
    [contextMessage "system" systemContent, contextMessage "user" reading.userContent] ++
      priorMessages
  { systemContent
    userContent := reading.userContent
    messages
    renderedInputHash := renderer.hashMessages messages
    snapshotId := reading.snapshotId
    traceId := reading.traceId
    renderMode := .fullContext
    segments := [renderer.segment .fullContext messages 0 messages.length false] }

structure SessionAgentLoopContextProvider extends AgentLoopContextProvider where
  maxPriorMessages : ℕ := 200

namespace SessionAgentLoopContextProvider

variable (provider : SessionAgentLoopContextProvider)

/-- `_prior_messages`; the first two messages are the system prompt and the task of the loop. -/
def priorMessages (loopMessages : List PyValue) : List PyValue :=
  let prior := sliceFrom loopMessages 2
  if prior.length ≤ provider.maxPriorMessages then prior
  else sliceFrom prior (-provider.maxPriorMessages)

def buildForLlmCall (request : AgentLoopContextRequest) (reading : FullContextReading) :
    RenderedLlmInput :=
  { provider.renderer.render reading (provider.priorMessages request.loopMessages) with
    runtimeConfigHash := provider.runtimeConfigHash }

/-! ### The window -/

variable {provider} {loopMessages : List PyValue} {request : AgentLoopContextRequest}
  {reading : FullContextReading}

theorem sliceFrom_two : sliceFrom loopMessages 2 = loopMessages.drop 2 := rfl

theorem priorMessages_eq (provider : SessionAgentLoopContextProvider)
    (loopMessages : List PyValue) :
    provider.priorMessages loopMessages =
      (loopMessages.drop 2).drop (if provider.maxPriorMessages = 0 then 0
        else (loopMessages.drop 2).length - provider.maxPriorMessages) := by
  rw [priorMessages, sliceFrom_two]
  generalize loopMessages.drop 2 = prior
  by_cases hfits : prior.length ≤ provider.maxPriorMessages
  · rw [if_pos hfits]
    split
    · rfl
    · rw [show prior.length - provider.maxPriorMessages = 0 by omega, List.drop_zero]
  · rw [if_neg hfits, sliceFrom]
    by_cases hzero : provider.maxPriorMessages = 0
    · rw [if_pos hzero, hzero]
      rfl
    · rw [if_neg hzero, if_pos (by omega), Int.natAbs_neg, Int.natAbs_natCast]

/-- **The window is an end of the transcript.** -/
theorem priorMessages_suffix (provider : SessionAgentLoopContextProvider)
    (loopMessages : List PyValue) : provider.priorMessages loopMessages <:+ loopMessages := by
  rw [priorMessages_eq]
  exact (List.drop_suffix _ _).trans (List.drop_suffix _ _)

theorem length_priorMessages_le_iff : (provider.priorMessages loopMessages).length ≤
      provider.maxPriorMessages ↔
    (loopMessages.drop 2).length ≤ provider.maxPriorMessages ∨ 0 < provider.maxPriorMessages := by
  rw [priorMessages_eq, List.length_drop]
  split <;> omega

theorem messages_buildForLlmCall (request : AgentLoopContextRequest)
    (reading : FullContextReading) :
    (provider.buildForLlmCall request reading).messages =
      [ContextRenderer.contextMessage "system" provider.renderer.renderSystem,
        ContextRenderer.contextMessage "user" reading.userContent] ++
          provider.priorMessages request.loopMessages := rfl

theorem contextMessage_plain {role : String} (hassistant : role ≠ "assistant")
    (htool : role ≠ "tool")
    (content : String) :
    toolCallIds (ContextRenderer.contextMessage role content) = [] ∧
      toolCallId (ContextRenderer.contextMessage role content) = none := by
  have hrole : field "role" (ContextRenderer.contextMessage role content) = .str role := rfl
  rw [toolCallIds, toolCallId, hrole]
  constructor
  · exact if_neg fun h => hassistant (PyValue.str.inj h)
  · exact if_neg fun h => htool (PyValue.str.inj h)

theorem wellFormed_buildForLlmCall_iff :
    WellFormed (provider.buildForLlmCall request reading).messages ↔
      WellFormed (provider.priorMessages request.loopMessages) := by
  rw [messages_buildForLlmCall]
  refine Answered.append_plain fun m hm => ?_
  rcases List.mem_cons.mp hm with rfl | hm
  · exact contextMessage_plain (by decide) (by decide) _
  · rw [List.mem_singleton.mp hm]
    exact contextMessage_plain (by decide) (by decide) _

/-- The messages of a call keep the tool protocol, with at most so many prior messages, which are
the last ones of the transcript. -/
structure KeepsProtocol (provider : SessionAgentLoopContextProvider)
    (request : AgentLoopContextRequest) (reading : FullContextReading) : Prop where
  wellFormed : WellFormed (provider.buildForLlmCall request reading).messages
  bounded : ((provider.buildForLlmCall request reading).messages.drop 2).length ≤
    provider.maxPriorMessages
  suffix : (provider.buildForLlmCall request reading).messages.drop 2 <:+ request.loopMessages

/-- **When the messages of a call keep the tool protocol.** -/
theorem keepsProtocol_iff (provider : SessionAgentLoopContextProvider)
    (request : AgentLoopContextRequest) (reading : FullContextReading)
    (hprior : WellFormed (request.loopMessages.drop 2)) :
    provider.KeepsProtocol request reading ↔
      (request.loopMessages.drop 2).length ≤ provider.maxPriorMessages ∨
        (0 < provider.maxPriorMessages ∧
          ∀ m, (request.loopMessages.drop 2)[(request.loopMessages.drop 2).length -
              provider.maxPriorMessages]? = some m → toolCallId m = none) := by
  have hdrop : (provider.buildForLlmCall request reading).messages.drop 2 =
      provider.priorMessages request.loopMessages := rfl
  have hwell : WellFormed (provider.priorMessages request.loopMessages) ↔
      ∀ m, (request.loopMessages.drop 2)[if provider.maxPriorMessages = 0 then 0
        else (request.loopMessages.drop 2).length - provider.maxPriorMessages]? = some m →
          toolCallId m = none := by
    rw [priorMessages_eq]
    exact Answered.drop_iff hprior
  constructor
  · rintro ⟨hformed, hbounded, -⟩
    rw [hdrop, length_priorMessages_le_iff] at hbounded
    refine hbounded.imp_right fun hpos => ⟨hpos, ?_⟩
    have hcut := hwell.mp (wellFormed_buildForLlmCall_iff.mp hformed)
    rwa [if_neg (by omega)] at hcut
  · intro h
    refine ⟨wellFormed_buildForLlmCall_iff.mpr ?_, ?_, ?_⟩
    · rcases h with hfits | ⟨hpos, hcut⟩
      · have hall : provider.priorMessages request.loopMessages = request.loopMessages.drop 2 :=
          if_pos hfits
        rw [hall]
        exact hprior
      · rw [hwell, if_neg (by omega)]
        exact hcut
    · rw [hdrop, length_priorMessages_le_iff]
      exact h.imp_right And.left
    · rw [hdrop]
      exact priorMessages_suffix provider _

/-! ### A window that is cut between two answers -/

/-- A provider with room for one prior message. -/
def narrow : SessionAgentLoopContextProvider where
  renderer := { baseSystemPrompt := "You are an agent.", sha256 := fun _ => "0" }
  maxPriorMessages := 1

def toolMessage (callId : String) : PyValue :=
  .dict [("role", .str "tool"), ("tool_call_id", .str callId), ("content", .str "done")]

/-- The agent calls two tools at once. -/
def twoCalls : List PyValue :=
  [.dict [("role", .str "assistant"), ("content", .str ""),
    ("tool_calls", .list [.dict [("id", .str "a")], .dict [("id", .str "b")]])],
   toolMessage "a", toolMessage "b"]

def twoCallsRequest : AgentLoopContextRequest where
  agentRunId := "run-1"
  turnIndex := 1
  loopMessages :=
    [ContextRenderer.contextMessage "system" "You are an agent.",
      ContextRenderer.contextMessage "user" "Read two files."] ++ twoCalls

def goalReading : FullContextReading where
  context :=
    { task := { originalTarget := "Read two files." }
      execution := { status := .running } }
  snapshotId := "ctx-1"
  traceId := "trace-1"
  userContent := "# Task Execution Context"

theorem wellFormed_twoCalls : WellFormed (twoCallsRequest.loopMessages.drop 2) :=
  ⟨rfl, by decide, by decide, rfl⟩

/-- **A tool message without its call is sent.** -/
theorem window_cuts_exchange : WellFormed (twoCallsRequest.loopMessages.drop 2) ∧
    ¬narrow.KeepsProtocol twoCallsRequest goalReading := by
  refine ⟨wellFormed_twoCalls, fun h => ?_⟩
  have hwindow : WellFormed [toolMessage "b"] := wellFormed_buildForLlmCall_iff.mp h.wellFormed
  exact absurd hwindow.1 (by decide)

/-- With room for the three messages the protocol is kept. -/
theorem keepsProtocol_iff_twoCalls :
    ({ narrow with maxPriorMessages := 3 } : SessionAgentLoopContextProvider).KeepsProtocol
        twoCallsRequest goalReading ∧
      ¬({ narrow with maxPriorMessages := 2 } : SessionAgentLoopContextProvider).KeepsProtocol
        twoCallsRequest goalReading := by
  refine ⟨(keepsProtocol_iff _ twoCallsRequest goalReading wellFormed_twoCalls).mpr
    (.inl (by decide)), fun h => ?_⟩
  rcases (keepsProtocol_iff _ twoCallsRequest goalReading wellFormed_twoCalls).mp h with
    hshort | ⟨-, hfirst⟩
  · exact absurd hshort (by decide)
  · exact absurd (hfirst (toolMessage "a") rfl) (by decide)

end SessionAgentLoopContextProvider

end Taskweavn

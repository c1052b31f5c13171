import Mathlib.Data.List.Infix
import Taskweavn.Contract.Models

/-!
# Planning a route with a language model

Text that the user types while a plan runs is routed: it is a question, a guidance, an
answer, a command or new work.  A language model proposes the route
(`taskweavn/server/runtime_input_llm_router.py`), and whatever it says is parsed and
validated; output that fails is sent back for repair a few times.  `plan` is that loop,
for any sequence of outputs, and `plan_planned` says that a proposal that comes out of
it has passed every check.

`parse` is the way from the text to a proposal: the JSON and the field checks, which the
source leaves to libraries.  The text that is shown to the user plays no part here, and
neither do the skills that go into the prompt.
-/

namespace Taskweavn

open Lib Py

inductive RuntimeInputMode
  | auto
  | ask
  | guide
  | change
deriving DecidableEq, Repr

inductive RuntimeInputIntent
  | question
  | guidance
  | command
  | askAnswer
  | confirmationResponse
  | executionRequest
  | clarification
  | unsupported
deriving DecidableEq, Repr

inductive RuntimeInputConfidence
  | high
  | medium
  | low
deriving DecidableEq, Repr

inductive RuntimeInputDispatchTarget
  | readOnlyInquiry
  | recordGuidance
  | resolveAsk
  | resolveConfirmation
  | existingCommand
  | executionHandoff
  | clarification
  | unsupported
deriving DecidableEq, Repr

def RuntimeInputDispatchTarget.toText : RuntimeInputDispatchTarget → String
  | .readOnlyInquiry => "read_only_inquiry"
  | .recordGuidance => "record_guidance"
  | .resolveAsk => "resolve_ask"
  | .resolveConfirmation => "resolve_confirmation"
  | .existingCommand => "existing_command"
  | .executionHandoff => "execution_handoff"
  | .clarification => "clarification"
  | .unsupported => "unsupported"

inductive RuntimeInputScopeKind
  | session
  | plan
  | task
deriving DecidableEq, Repr

/-! ### Proposals -/

inductive RouterCommandKind
  | stopTask
  | retryTask
  | resumeTask
  | cancelTask
  | recordGuidance
  | patchTaskNode
  | createTaskNode
  | deleteTaskNode
deriving DecidableEq, Repr

def RouterCommandKind.toText : RouterCommandKind → String
  | .stopTask => "stop_task"
  | .retryTask => "retry_task"
  | .resumeTask => "resume_task"
  | .cancelTask => "cancel_task"
  | .recordGuidance => "record_guidance"
  | .patchTaskNode => "patch_task_node"
  | .createTaskNode => "create_task_node"
  | .deleteTaskNode => "delete_task_node"

structure RouterCommandDraft where
  commandKind : RouterCommandKind
  targetScopeKind : RuntimeInputScopeKind
  targetTaskNodeId : Option String := none
  targetPlanId : Option String := none
deriving DecidableEq

inductive RouterTaskRiskLevel
  | low
  | medium
  | high
deriving DecidableEq, Repr

structure RouterTaskPolicyDraft where
  requiredCapability : String
  requiresHumanConfirmation : Bool := false
  riskLevel : RouterTaskRiskLevel := .medium
deriving DecidableEq

structure RouterTaskRequestDraft where
  taskType : String
  title : Option String := none
  instructions : String
  input : Dict String PyValue := Dict.empty
  policy : RouterTaskPolicyDraft
deriving DecidableEq

structure RouterAskAnswerDraft where
  askId : Option String := none
  answerText : String
deriving DecidableEq

inductive RouterConfirmationResolution
  | confirmed
  | rejected
deriving DecidableEq, Repr

def RouterConfirmationResolution.toText : RouterConfirmationResolution → String
  | .confirmed => "confirmed"
  | .rejected => "rejected"

structure RouterConfirmationResponseDraft where
  confirmationId : Option String := none
  resolution : RouterConfirmationResolution
deriving DecidableEq

/-- The proposal of a route.  The references and the context for an inquiry are only
there or not. -/
structure RuntimeInputRouteProposal where
  intent : RuntimeInputIntent
  dispatchTarget : RuntimeInputDispatchTarget
  sideEffect : SessionActivitySideEffect
  confidence : RuntimeInputConfidence
  hasReadOnlyRefs : Bool := false
  commandDraft : Option RouterCommandDraft := none
  taskRequestDraft : Option RouterTaskRequestDraft := none
  askAnswerDraft : Option RouterAskAnswerDraft := none
  confirmationResponseDraft : Option RouterConfirmationResponseDraft := none
  requestsReadOnlyContext : Bool := false
deriving DecidableEq

/-! ### Validation -/

def wechatSendTaskType : String := "communication.wechat.send_message"

def wechatSendCapability : String := "communication.wechat_desktop_send"

def wechatBulkMarkers : List String := ["、", "，", ",", "和", "及", "以及"]

/-- `marker in text` -/
def contains (text marker : String) : Bool :=
  text.toList.tails.any (fun t => marker.toList.isPrefixOf t)

/-- The contact is one: none of the markers that list several is in it. -/
def oneContact (contact : String) : Bool := !wechatBulkMarkers.any (contains contact)

/-- `_MUTATING_TARGETS` -/
def RuntimeInputDispatchTarget.mutating : RuntimeInputDispatchTarget → Bool
  | .recordGuidance => true
  | .resolveAsk => true
  | .resolveConfirmation => true
  | .existingCommand => true
  | .executionHandoff => true
  | _ => false

/-- `_side_effect_for_dispatch` -/
def RuntimeInputDispatchTarget.sideEffect : RuntimeInputDispatchTarget → SessionActivitySideEffect
  | .readOnlyInquiry => .noEffect
  | .clarification => .noEffect
  | .unsupported => .noEffect
  | .recordGuidance => .contextEffect
  | .executionHandoff => .stateEffect
  | .resolveAsk => .resumeEffect
  | .resolveConfirmation => .authorizationEffect
  | .existingCommand => .stateEffect

def SessionActivitySideEffect.toText : SessionActivitySideEffect → String
  | .noEffect => "no_effect"
  | .contextEffect => "context_effect"
  | .stateEffect => "state_effect"
  | .authorizationEffect => "authorization_effect"
  | .resumeEffect => "resume_effect"
  | .executionRequest => "execution_request"
  | .evidenceEffect => "evidence_effect"

def inputText (draft : RouterTaskRequestDraft) (key : String) : Option String :=
  match draft.input.get? key with
  | some (.str s) => if isBlank s then none else some s
  | _ => none

def validateWechatTaskRequestDraft (draft : RouterTaskRequestDraft) : Option String :=
  match inputText draft "contactDisplayName" with
  | none => some "WeChat send task draft requires contactDisplayName"
  | some contact =>
    match inputText draft "messageText" with
    | none => some "WeChat send task draft requires messageText"
    | some _ =>
      if oneContact contact = false then some "WeChat send task draft must target one contact"
      else if draft.policy.requiredCapability ≠ wechatSendCapability then
        some "WeChat send task draft requires communication.wechat_desktop_send capability"
      else if draft.policy.requiresHumanConfirmation = false then
        some "WeChat send task draft requires human confirmation"
      else if draft.policy.riskLevel ≠ .high then
        some "WeChat send task draft must be high risk"
      else none

def validateTaskRequestDraft : Option RouterTaskRequestDraft → Option String
  | none => some "execution_handoff requires task request draft"
  | some draft =>
    if draft.taskType = wechatSendTaskType then validateWechatTaskRequestDraft draft else none

def validateCommandDraft : Option RouterCommandDraft → Option String
  | none => some "existing_command requires command draft"
  | some draft =>
    if draft.commandKind ≠ .stopTask ∧ draft.commandKind ≠ .retryTask then
      some ("command draft kind '" ++ draft.commandKind.toText ++ "' is not enabled")
    else if draft.targetScopeKind = .task ∧ draft.targetTaskNodeId = none then
      some "task-scoped command draft requires target task node id"
    else if draft.targetScopeKind = .plan ∧ draft.targetPlanId = none then
      some "plan-scoped command draft requires target plan id"
    else none

def firstWarning : List (Option String) → Option String
  | [] => none
  | some w :: _ => some w
  | none :: rest => firstWarning rest

/-- A check: the warning when the condition holds. -/
def warnIf (c : Bool) (warning : String) : Option String := if c then some warning else none

def validateRouteProposal (p : RuntimeInputRouteProposal)
    (allowed : List RuntimeInputDispatchTarget) (activeAsk activeConfirmation : Bool) :
    Option String :=
  let target := p.dispatchTarget
  firstWarning
    [warnIf (decide (target ∉ allowed))
      ("dispatch target '" ++ target.toText ++ "' is not allowed"),
     warnIf (p.confidence == .low && target.mutating) "low-confidence mutation is not allowed",
     warnIf (target == .resolveAsk && !activeAsk) "resolve_ask requires active ASK",
     warnIf (target == .resolveConfirmation && !activeConfirmation)
      "resolve_confirmation requires active confirmation",
     warnIf (p.sideEffect != target.sideEffect)
      ("dispatch target '" ++ target.toText ++ "' requires side effect '" ++
        target.sideEffect.toText ++ "'"),
     warnIf (target != .readOnlyInquiry && p.hasReadOnlyRefs)
      "read-only refs are only allowed for read_only_inquiry",
     warnIf (target != .readOnlyInquiry && p.requestsReadOnlyContext)
      "read-only context requests are only allowed for read_only_inquiry",
     warnIf (target != .existingCommand && p.commandDraft.isSome)
      "command draft is only allowed for existing_command",
     if target = .existingCommand then validateCommandDraft p.commandDraft else none,
     warnIf (target != .executionHandoff && p.taskRequestDraft.isSome)
      "task request draft is only allowed for execution_handoff",
     if target = .executionHandoff then validateTaskRequestDraft p.taskRequestDraft else none,
     warnIf (target != .resolveAsk && p.askAnswerDraft.isSome)
      "ASK answer draft is only allowed for resolve_ask",
     warnIf (target == .resolveAsk && p.askAnswerDraft.isNone)
      "resolve_ask requires ASK answer draft",
     warnIf (target != .resolveConfirmation && p.confirmationResponseDraft.isSome)
      "confirmation response draft is only allowed for resolve_confirmation",
     warnIf (target == .resolveConfirmation && p.confirmationResponseDraft.isNone)
      "resolve_confirmation requires confirmation response draft"]

/-! ### The repair loop -/

inductive RouterPlannerResult
  | planned (proposal : RuntimeInputRouteProposal)
  | unavailable (warning : String)
deriving DecidableEq

/-- `parse` gives the warning when a text is no proposal. -/
structure LLMRuntimeInputRoutePlanner where
  parse : String → Except String RuntimeInputRouteProposal
  maxOutputRepairAttempts : ℤ := 1

/-- What the model answers, call by call; an error is the name of what a call has
raised. -/
abbrev LLMOutputs := ℕ → Except String String

namespace LLMRuntimeInputRoutePlanner

variable (planner : LLMRuntimeInputRoutePlanner)

/-- `_parse_and_validate_proposal` -/
def parseAndValidate (allowed : List RuntimeInputDispatchTarget)
    (activeAsk activeConfirmation : Bool) (content : String) :
    Except String RuntimeInputRouteProposal :=
  match planner.parse content with
  | .error warning => .error warning
  | .ok proposal =>
    match validateRouteProposal proposal allowed activeAsk activeConfirmation with
    | some warning => .error warning
    | none => .ok proposal

/-- `_parse_validate_or_repair`, with the repairs that are left and the calls made. -/
def parseValidateOrRepair (allowed : List RuntimeInputDispatchTarget)
    (activeAsk activeConfirmation : Bool) (outputs : LLMOutputs) :
    (left calls : ℕ) → String → RouterPlannerResult
  | left, calls, content =>
    match planner.parseAndValidate allowed activeAsk activeConfirmation content with
    | .ok proposal => .planned proposal
    | .error warning =>
      match left with
      | 0 => .unavailable ("router planner unavailable: " ++ warning)
      | left + 1 =>
        match outputs calls with
        | .error name => .unavailable ("router planner unavailable: " ++ name)
        | .ok content =>
          parseValidateOrRepair allowed activeAsk activeConfirmation outputs left
            (calls + 1) content

def plan (allowed : List RuntimeInputDispatchTarget) (activeAsk activeConfirmation : Bool)
    (outputs : LLMOutputs) : RouterPlannerResult :=
  match outputs 0 with
  | .error name => .unavailable ("router planner unavailable: " ++ name)
  | .ok content =>
    planner.parseValidateOrRepair allowed activeAsk activeConfirmation outputs
      planner.maxOutputRepairAttempts.toNat 1 content

/-! ### What comes out of it -/

variable {planner} {allowed : List RuntimeInputDispatchTarget} {activeAsk activeConfirmation : Bool}
  {outputs : LLMOutputs} {p : RuntimeInputRouteProposal}

theorem parseAndValidate_ok {content : String}
    (h : planner.parseAndValidate allowed activeAsk activeConfirmation content = .ok p) :
    validateRouteProposal p allowed activeAsk activeConfirmation = none := by
  unfold parseAndValidate at h
  split at h
  · cases h
  · split at h
    · cases h
    · next hv =>
      cases h
      exact hv

theorem parseValidateOrRepair_planned : ∀ {left calls : ℕ} {content : String},
    planner.parseValidateOrRepair allowed activeAsk activeConfirmation outputs left calls content =
      .planned p →
    validateRouteProposal p allowed activeAsk activeConfirmation = none := by
  intro left
  induction left with
  | zero =>
    intro calls content h
    unfold parseValidateOrRepair at h
    split at h
    · next hok =>
      cases h
      exact parseAndValidate_ok hok
    · cases h
  | succ left ih =>
    intro calls content h
    unfold parseValidateOrRepair at h
    split at h
    · next hok =>
      cases h
      exact parseAndValidate_ok hok
    · simp only at h
      split at h
      · cases h
      · exact ih h

/-- **A planned route has been validated**, whatever the model has answered. -/
theorem plan_planned
    (h : planner.plan allowed activeAsk activeConfirmation outputs = .planned p) :
    validateRouteProposal p allowed activeAsk activeConfirmation = none := by
  unfold plan at h
  split at h
  · cases h
  · exact parseValidateOrRepair_planned h

end LLMRuntimeInputRoutePlanner

theorem firstWarning_eq_none {ws : List (Option String)} :
    firstWarning ws = none ↔ ∀ w ∈ ws, w = none := by
  induction ws with
  | nil => simp [firstWarning]
  | cons w ws ih =>
    cases w with
    | none => simp [firstWarning, ih]
    | some w => simp [firstWarning]

theorem warnIf_eq_none {c : Bool} {warning : String} : warnIf c warning = none ↔ c = false := by
  cases c <;> simp [warnIf]

/-- What the checks leave. -/
structure ValidRoute (p : RuntimeInputRouteProposal) (allowed : List RuntimeInputDispatchTarget)
    (activeAsk activeConfirmation : Bool) : Prop where
  allowed : p.dispatchTarget ∈ allowed
  ask : p.dispatchTarget = .resolveAsk → activeAsk = true
  confirmation : p.dispatchTarget = .resolveConfirmation → activeConfirmation = true
  command : p.dispatchTarget = .existingCommand → validateCommandDraft p.commandDraft = none
  task : p.dispatchTarget = .executionHandoff → validateTaskRequestDraft p.taskRequestDraft = none
  confirmation_draft : p.dispatchTarget = .resolveConfirmation → p.confirmationResponseDraft ≠ none

theorem validRoute_of_none {p : RuntimeInputRouteProposal}
    {allowed : List RuntimeInputDispatchTarget} {activeAsk activeConfirmation : Bool}
    (h : validateRouteProposal p allowed activeAsk activeConfirmation = none) :
    ValidRoute p allowed activeAsk activeConfirmation := by
  rw [validateRouteProposal, firstWarning_eq_none] at h
  simp only [List.mem_cons, List.not_mem_nil, or_false, forall_eq_or_imp, forall_eq,
    warnIf_eq_none] at h
  obtain ⟨hallowed, _, hask, hconf, _, _, _, _, hcommand, _, htask, _, _, _, hdraft⟩ := h
  refine ⟨?_, ?_, ?_, ?_, ?_, ?_⟩
  · simpa using hallowed
  · intro ht
    simpa [ht] using hask
  · intro ht
    simpa [ht] using hconf
  · intro ht
    rwa [if_pos ht] at hcommand
  · intro ht
    rwa [if_pos ht] at htask
  · intro ht hnone
    simp [ht, hnone] at hdraft

theorem contains_iff {text marker : String} :
    contains text marker = true ↔ marker.toList <:+: text.toList := by
  rw [contains, List.any_eq_true, List.infix_iff_prefix_suffix]
  simp only [List.mem_tails, List.isPrefixOf_iff_prefix]
  constructor
  · rintro ⟨t, hs, hp⟩
    exact ⟨t, hp, hs⟩
  · rintro ⟨t, hp, hs⟩
    exact ⟨t, hs, hp⟩

theorem oneContact_strip {contact : String} (h : oneContact contact = true) :
    oneContact (strip contact) = true := by
  simp only [oneContact, Bool.not_eq_true', List.any_eq_false] at h ⊢
  intro marker hm hc
  exact h marker hm (contains_iff.mpr ((contains_iff.mp hc).trans (strip_isInfix contact)))

theorem wechat_of_none {draft : RouterTaskRequestDraft}
    (h : validateWechatTaskRequestDraft draft = none) :
    ∃ contact message, inputText draft "contactDisplayName" = some contact ∧
      inputText draft "messageText" = some message ∧ oneContact contact = true ∧
      draft.policy.requiredCapability = wechatSendCapability ∧
      draft.policy.requiresHumanConfirmation = true := by
  unfold validateWechatTaskRequestDraft at h
  split at h
  · cases h
  · next contact hc =>
    split at h
    · cases h
    · next message hm =>
      split at h
      · cases h
      · next hone =>
        split at h
        · cases h
        · next hcap =>
          split at h
          · cases h
          · next hconf =>
            refine ⟨contact, message, hc, hm, ?_, not_not.mp hcap, ?_⟩
            · simpa using hone
            · simpa using hconf

end Taskweavn

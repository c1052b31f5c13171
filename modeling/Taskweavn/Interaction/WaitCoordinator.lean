import Taskweavn.Task.UserCommands

/-!
# Waiting for a response

`WaitCoordinator.handle_actionable` (`taskweavn/interaction/wait.py`) waits on the message bus
(`taskweavn/interaction/bus.py`) for a response to an actionable message.  Other threads publish
and close the bus while it waits, and its own steps come between theirs: every check of
`wait_for_response` is made under the lock of the bus, with the clock read there, and the notice of
a decision is published by a call of its own.

A wait that comes to its deadline and a wait that is ended by the closing of the bus answer alike,
and only the action `wait` takes that for a closed bus.

* `Waited.step`: what holds of a wait after each step.
* `closed_wait_skips_iff`: in every run in which a wait is ended by the closing of the bus,
  **the action is skipped exactly if the behavior waits without a limit, or skips without a
  notice**; `closedOutcome` says what happens otherwise.
-/

namespace Taskweavn

open Lib Py

namespace Interaction

/-! ### Messages and the bus -/

inductive ResponseSource
  | user
  | timeoutDefault
  | timeoutConfident
  | timeoutSkip
  | autoProceed
deriving DecidableEq, Repr

def ResponseSource.toText : ResponseSource → String
  | user => "user"
  | timeoutDefault => "timeout_default"
  | timeoutConfident => "timeout_confident"
  | timeoutSkip => "timeout_skip"
  | autoProceed => "auto_proceed"

/-- A message of the stream; the time of its creation is the text of its row. -/
structure AgentMessage where
  messageId : String
  sessionId : String
  taskId : Option String := none
  agentId : String := "agent"
  parentMessageId : Option String := none
  messageType : MessageType
  content : String
  context : List (String × PyValue) := []
  actionOptions : List String := []
  requiresResponse : Bool := false
  timeoutSeconds : Option ℚ := none
  responseSource : Option ResponseSource := none
  responseValue : Option String := none
  createdAt : String

inductive MessageStreamError
  /-- bus is closed -/
  | closed
  /-- response message must set parent_message_id -/
  | noParent
  /-- parent_message_id … not found -/
  | parentNotFound (messageId : String)
  /-- response parent must be 'actionable', got … for … -/
  | parentNotActionable (messageType : MessageType) (messageId : String)
  /-- message_id … already exists -/
  | exists (messageId : String)
deriving DecidableEq

/-- The bus and the stream that it writes, in the order of the rows. -/
structure InProcessMessageBus where
  messages : List AgentMessage := []
  isClosed : Bool := false

namespace InProcessMessageBus

variable (bus : InProcessMessageBus)

def get (messageId : String) : Option AgentMessage :=
  bus.messages.find? fun m => m.messageId = messageId

/-- `response_for`, the earliest response. -/
def responseFor (messageId : String) : Option AgentMessage :=
  (sortOn AgentMessage.createdAt (bus.messages.filter fun m =>
    m.parentMessageId = some messageId ∧ m.messageType = .response)).head?

def validateForInsert (message : AgentMessage) : Except MessageStreamError Unit :=
  if message.messageType ≠ .response then .ok ()
  else
    match message.parentMessageId with
    | none => .error .noParent
    | some parentId =>
      match bus.get parentId with
      | none => .error (.parentNotFound parentId)
      | some parent =>
        if parent.messageType ≠ .actionable then
          .error (.parentNotActionable parent.messageType parentId)
        else .ok ()

def publish (message : AgentMessage) : Except MessageStreamError InProcessMessageBus :=
  if bus.isClosed then .error .closed
  else
    match bus.validateForInsert message with
    | .error e => .error e
    | .ok _ =>
      if (bus.get message.messageId).isSome then .error (.exists message.messageId)
      else .ok { bus with messages := bus.messages ++ [message] }

def close : InProcessMessageBus := { bus with isClosed := true }

variable {bus}

theorem publish_closed (h : bus.isClosed = true) (message : AgentMessage) :
    bus.publish message = .error .closed := if_pos h

end InProcessMessageBus

/-! ### The coordinator -/

inductive WaitStrategy
  | sync
  | async
deriving DecidableEq, Repr

inductive TimeoutAction
  | wait
  | proceedDefault
  | proceedConfident
  | skip
deriving DecidableEq, Repr

/-- What a behavior says about waiting. -/
structure AutonomyBehavior where
  waitStrategy : WaitStrategy := .sync
  waitTimeout : Option ℚ := some 300
  timeoutAction : TimeoutAction := .proceedDefault
  notifyOnProceed : Bool := true
  waitTimeout_pos : ∀ t, waitTimeout = some t → 0 < t

inductive WaitOutcome
  | gotResponse
  | timedOutProceed
  | timedOutSkip
  | pending
deriving DecidableEq, Repr

structure WaitResult where
  outcome : WaitOutcome
  responseValue : Option String
  responseSource : Option ResponseSource
  response : Option AgentMessage := none
  notice : Option AgentMessage := none

/-- What `handle_actionable` raises. -/
inductive WaitError
  /-- WaitCoordinator only handles actionable messages -/
  | notActionable (messageType : MessageType)
  /-- timeout must be >= 0 or None -/
  | negativeTimeout (timeout : ℚ)
  | stream (error : MessageStreamError)
deriving DecidableEq

/-- The coordinator of a message, and `repr` of a string. -/
structure WaitCoordinator where
  behavior : AutonomyBehavior
  repr : String → String

/-- Where `handle_actionable` is. -/
inductive WaitPhase
  | called
  /-- In `wait_for_response`, the first one or the one that it is entered again with. -/
  | waiting (again : Bool) (deadline : Option ℚ)
  /-- The first `wait_for_response` has returned `None`. -/
  | timedOut
  /-- About to publish a notice, and then to return. -/
  | noticing (notice : AgentMessage) (result : WaitResult)
  | done (result : Except WaitError WaitResult)

/-- The bus, the wait, and whether the closing of the bus has ended a wait for a response. -/
structure WaitState where
  bus : InProcessMessageBus
  phase : WaitPhase := .called
  closedWait : Bool := false

inductive WaitEvent
  /-- Another thread publishes. -/
  | publish (message : AgentMessage)
  | close
  /-- The coordinator goes on, with the clock that it reads, and the id and the time of a notice. -/
  | advance (now : ℚ) (noticeId createdAt : String)

namespace WaitCoordinator

variable (coordinator : WaitCoordinator) (message : AgentMessage)

/-- The notice of `_publish_notice`. -/
def noticeOf (source : ResponseSource) (value : Option String)
    (summary noticeId createdAt : String) : AgentMessage where
  messageId := noticeId
  sessionId := message.sessionId
  taskId := message.taskId
  agentId := "system"
  parentMessageId := some message.messageId
  messageType := .informational
  content := summary
  context :=
    [("auto_decision", .str source.toText),
      ("selected_value", (value.map PyValue.str).getD .none),
      ("original_message_id", .str message.messageId)]
  createdAt := createdAt

def gotResponse (response : AgentMessage) : WaitResult where
  outcome := .gotResponse
  responseValue := response.responseValue
  responseSource := response.responseSource
  response := some response

/-- The result without a time limit, or that of a skip. -/
def skipped : WaitResult where
  outcome := .timedOutSkip
  responseValue := none
  responseSource := some .timeoutSkip

/-- `timeout_confident` or `timeout_default` -/
def proceedSource : ResponseSource :=
  if coordinator.behavior.timeoutAction = .proceedConfident then .timeoutConfident
  else .timeoutDefault

/-- The result of going on with the first option. -/
def proceeded : WaitResult where
  outcome := .timedOutProceed
  responseValue := message.actionOptions.head?
  responseSource := some coordinator.proceedSource

/-- What is said of going on. -/
def proceedSummary : String :=
  "timed out; proceeding with " ++ coordinator.proceedSource.toText ++ " (" ++
    (match message.actionOptions.head? with
      | some chosen => coordinator.repr chosen
      | none => "no option") ++ ")"

/-- A decision, that is announced if the behavior says so. -/
def announce (source : ResponseSource) (value : Option String) (summary noticeId createdAt : String)
    (result : WaitResult) : WaitPhase :=
  if coordinator.behavior.notifyOnProceed then
    .noticing (noticeOf message source value summary noticeId createdAt) result
  else .done (.ok result)

/-- `_on_timeout`, up to the notice. -/
def onTimeout (noticeId createdAt : String) : WaitPhase :=
  match coordinator.behavior.timeoutAction with
  | .wait => .waiting true none
  | .skip =>
    coordinator.announce message .timeoutSkip none "timed out; skipping action" noticeId createdAt
      skipped
  | .proceedDefault | .proceedConfident =>
    coordinator.announce message coordinator.proceedSource message.actionOptions.head?
      (coordinator.proceedSummary message) noticeId createdAt (coordinator.proceeded message)

/-- The beginning of `handle_actionable`, up to the first check. -/
def call (now : ℚ) : WaitPhase :=
  if message.messageType ≠ .actionable then .done (.error (.notActionable message.messageType))
  else
    match coordinator.behavior.waitStrategy with
    | .async => .done (.ok { outcome := .pending, responseValue := none, responseSource := none })
    | .sync =>
      match message.timeoutSeconds <|> coordinator.behavior.waitTimeout with
      | none => .waiting false none
      | some timeout =>
        if timeout < 0 then .done (.error (.negativeTimeout timeout))
        else .waiting false (some (now + timeout))

/-- Where a `None` of `wait_for_response` leads to. -/
def noResponse (again : Bool) : WaitPhase := if again then .done (.ok skipped) else .timedOut

/-- One round of the loop of `wait_for_response`. -/
def check (again : Bool) (deadline : Option ℚ) (now : ℚ) (s : WaitState) : WaitState :=
  match s.bus.responseFor message.messageId with
  | some response => { s with phase := .done (.ok (gotResponse response)) }
  | none =>
    if s.bus.isClosed then { s with phase := noResponse again, closedWait := true }
    else
      match deadline with
      | none => s
      | some deadline => if deadline - now ≤ 0 then { s with phase := noResponse again } else s

/-- One step of `handle_actionable`. -/
def advance (now : ℚ) (noticeId createdAt : String) (s : WaitState) : WaitState :=
  match s.phase with
  | .called => { s with phase := coordinator.call message now }
  | .waiting again deadline => check message again deadline now s
  | .timedOut => { s with phase := coordinator.onTimeout message noticeId createdAt }
  | .noticing notice result =>
    match s.bus.publish notice with
    | .error e => { s with phase := .done (.error (.stream e)) }
    | .ok bus => { s with bus := bus, phase := .done (.ok { result with notice := some notice }) }
  | .done _ => s

/-- A step of any thread. -/
def step (s : WaitState) : WaitEvent → WaitState
  | .publish other =>
    match s.bus.publish other with
    | .error _ => s
    | .ok bus => { s with bus := bus }
  | .close => { s with bus := s.bus.close }
  | .advance now noticeId createdAt => coordinator.advance message now noticeId createdAt s

/-- The state after some events, from a bus on which other threads have been at work. -/
def run (bus : InProcessMessageBus) (events : List WaitEvent) : WaitState :=
  events.foldl (coordinator.step message) { bus := bus }

/-! ### What holds of a wait -/

/-- What comes of a wait that is ended by the closing of the bus. -/
def closedOutcome : Except MessageStreamError WaitOutcome :=
  match coordinator.behavior.timeoutAction with
  | .wait => .ok .timedOutSkip
  | .skip => if coordinator.behavior.notifyOnProceed then .error .closed else .ok .timedOutSkip
  | .proceedDefault | .proceedConfident =>
    if coordinator.behavior.notifyOnProceed then .error .closed else .ok .timedOutProceed

/-- Where the coordinator can be, before and after the closing of the bus has ended a wait. -/
def PhaseOk (closedWait : Bool) : WaitPhase → Prop
  | .called => closedWait = false
  | .waiting again _ =>
    (again = true → coordinator.behavior.timeoutAction = .wait) ∧
      (again = false → closedWait = false)
  | .timedOut => True
  | .noticing _ _ =>
    coordinator.behavior.timeoutAction ≠ .wait ∧ coordinator.behavior.notifyOnProceed = true
  | .done result => closedWait = true →
    result.map WaitResult.outcome = coordinator.closedOutcome.mapError WaitError.stream

/-- What holds of a wait: the bus stays closed, and there is no response any more. -/
structure Waited (s : WaitState) : Prop where
  closed : s.closedWait = true →
    s.bus.isClosed = true ∧ s.bus.responseFor message.messageId = none
  phase : coordinator.PhaseOk s.closedWait s.phase

variable {coordinator message} {s : WaitState}

theorem waited_start (bus : InProcessMessageBus) : coordinator.Waited message { bus := bus } where
  closed h := by cases h
  phase := rfl

theorem phaseOk_announce {source : ResponseSource} {value : Option String}
    {summary noticeId createdAt : String} {result : WaitResult} {closedWait : Bool}
    (hwait : coordinator.behavior.timeoutAction ≠ .wait)
    (houtcome : coordinator.behavior.notifyOnProceed = false →
      coordinator.closedOutcome = .ok result.outcome) :
    coordinator.PhaseOk closedWait
      (coordinator.announce message source value summary noticeId createdAt result) := by
  rw [announce]
  cases hnotify : coordinator.behavior.notifyOnProceed with
  | true => exact ⟨hwait, hnotify⟩
  | false =>
    intro _
    rw [houtcome hnotify]
    rfl

theorem phaseOk_onTimeout (closedWait : Bool) (noticeId createdAt : String) :
    coordinator.PhaseOk closedWait (coordinator.onTimeout message noticeId createdAt) := by
  rw [onTimeout]
  cases haction : coordinator.behavior.timeoutAction with
  | wait => exact ⟨fun _ => haction, fun h => (by cases h)⟩
  | skip =>
    refine phaseOk_announce (by rw [haction]; decide) fun hnotify => ?_
    rw [closedOutcome, haction, hnotify]
    rfl
  | proceedDefault =>
    refine phaseOk_announce (by rw [haction]; decide) fun hnotify => ?_
    rw [closedOutcome, haction, hnotify]
    rfl
  | proceedConfident =>
    refine phaseOk_announce (by rw [haction]; decide) fun hnotify => ?_
    rw [closedOutcome, haction, hnotify]
    rfl

theorem phaseOk_call (now : ℚ) : coordinator.PhaseOk false (coordinator.call message now) := by
  rw [call]
  split
  · intro h; cases h
  · split
    · intro h; cases h
    · split
      · exact ⟨fun h => (by cases h), fun _ => rfl⟩
      · split
        · intro h; cases h
        · exact ⟨fun h => (by cases h), fun _ => rfl⟩

theorem phaseOk_noResponse {again closedWait : Bool}
    (hagain : again = true → coordinator.behavior.timeoutAction = .wait) :
    coordinator.PhaseOk closedWait (noResponse again) := by
  cases again with
  | false => trivial
  | true =>
    intro _
    rw [closedOutcome, hagain rfl]
    rfl

theorem Waited.check (h : coordinator.Waited message s) {again : Bool} {deadline : Option ℚ}
    (hphase : s.phase = .waiting again deadline) (now : ℚ) :
    coordinator.Waited message (check message again deadline now s) := by
  have hok := h.phase
  rw [hphase] at hok
  obtain ⟨hagain, hfirst⟩ := hok
  rw [WaitCoordinator.check.eq_def]
  cases hresponse : s.bus.responseFor message.messageId with
  | some response =>
    refine ⟨h.closed, fun hclosed => ?_⟩
    -- there would be no response
    rw [(h.closed hclosed).2] at hresponse
    cases hresponse
  | none =>
    cases hclosed : s.bus.isClosed with
    | true => exact ⟨fun _ => ⟨hclosed, hresponse⟩, phaseOk_noResponse hagain⟩
    | false =>
      cases deadline with
      | none => exact h
      | some deadline =>
        rw [if_neg Bool.false_ne_true]
        dsimp only
        split
        · exact ⟨h.closed, phaseOk_noResponse hagain⟩
        · exact h

/-- **A step of the coordinator.** -/
theorem Waited.advance (h : coordinator.Waited message s) (now : ℚ) (noticeId createdAt : String) :
    coordinator.Waited message (coordinator.advance message now noticeId createdAt s) := by
  rw [WaitCoordinator.advance]
  cases hphase : s.phase with
  | called =>
    have hopen : s.closedWait = false := by
      have hok := h.phase
      rw [hphase] at hok
      exact hok
    refine ⟨h.closed, ?_⟩
    rw [hopen]
    exact phaseOk_call now
  | waiting again deadline => exact h.check hphase now
  | timedOut => exact ⟨h.closed, phaseOk_onTimeout _ _ _⟩
  | noticing notice result =>
    have hok := h.phase
    rw [hphase] at hok
    obtain ⟨hwait, hnotify⟩ := hok
    dsimp only
    cases hpublish : s.bus.publish notice with
    | error e =>
      refine ⟨h.closed, fun hclosed => ?_⟩
      rw [InProcessMessageBus.publish_closed (h.closed hclosed).1] at hpublish
      cases hpublish
      rw [closedOutcome]
      cases haction : coordinator.behavior.timeoutAction with
      | wait => exact absurd haction hwait
      | skip => rw [hnotify]; rfl
      | proceedDefault => rw [hnotify]; rfl
      | proceedConfident => rw [hnotify]; rfl
    | ok bus =>
      have hopen : s.closedWait = false := by
        cases hclosed : s.closedWait with
        | false => rfl
        | true =>
          rw [InProcessMessageBus.publish_closed (h.closed hclosed).1] at hpublish
          cases hpublish
      refine ⟨fun hclosed => ?_, fun hclosed => ?_⟩
      · rw [hopen] at hclosed
        cases hclosed
      · rw [hopen] at hclosed
        cases hclosed
  | done result => exact h

/-- **A step of any thread.** -/
theorem Waited.step (h : coordinator.Waited message s) (event : WaitEvent) :
    coordinator.Waited message (coordinator.step message s event) := by
  cases event with
  | publish other =>
    rw [WaitCoordinator.step]
    cases hpublish : s.bus.publish other with
    | error e => exact h
    | ok bus =>
      refine ⟨fun hclosed => ?_, h.phase⟩
      rw [InProcessMessageBus.publish_closed (h.closed hclosed).1] at hpublish
      cases hpublish
  | close => exact ⟨fun hclosed => ⟨rfl, (h.closed hclosed).2⟩, h.phase⟩
  | advance now noticeId createdAt => exact h.advance now noticeId createdAt

theorem waited_run (bus : InProcessMessageBus) (events : List WaitEvent) :
    coordinator.Waited message (coordinator.run message bus events) := by
  have hfold : ∀ (events : List WaitEvent) (s : WaitState), coordinator.Waited message s →
      coordinator.Waited message (events.foldl (coordinator.step message) s) := by
    intro events
    induction events with
    | nil => intro s h; exact h
    | cons event events ih => intro s h; exact ih _ (h.step event)
  exact hfold events _ (waited_start bus)

theorem closed_wait_outcome {bus : InProcessMessageBus} {events : List WaitEvent}
    {result : Except WaitError WaitResult}
    (hdone : (coordinator.run message bus events).phase = .done result)
    (hclosed : (coordinator.run message bus events).closedWait = true) :
    result.map WaitResult.outcome = coordinator.closedOutcome.mapError WaitError.stream := by
  have hok := (@waited_run coordinator message bus events).phase
  rw [hdone] at hok
  exact hok hclosed

/-- **Closing the bus skips the action** exactly if the behavior waits without a limit, or skips
without a notice. -/
theorem closed_wait_skips_iff (coordinator : WaitCoordinator) (message : AgentMessage)
    (bus : InProcessMessageBus) (events : List WaitEvent) (result : Except WaitError WaitResult)
    (hdone : (coordinator.run message bus events).phase = .done result)
    (hclosed : (coordinator.run message bus events).closedWait = true) :
    result.map WaitResult.outcome = .ok .timedOutSkip ↔
      coordinator.behavior.timeoutAction = .wait ∨
        (coordinator.behavior.timeoutAction = .skip ∧
          coordinator.behavior.notifyOnProceed = false) := by
  rw [closed_wait_outcome hdone hclosed, closedOutcome]
  cases coordinator.behavior.timeoutAction <;> cases coordinator.behavior.notifyOnProceed <;> decide

end WaitCoordinator

/-! ### A wait that is ended -/

namespace WaitCoordinator

/-- A coordinator that waits without a limit, and goes on by default, without notices. -/
def sample : WaitCoordinator where
  behavior :=
    { waitTimeout := none
      notifyOnProceed := false
      waitTimeout_pos := by intro t h; cases h }
  repr text := "'" ++ text ++ "'"

def sampleMessage : AgentMessage where
  messageId := "m1"
  sessionId := "s1"
  messageType := .actionable
  content := "run rm"
  actionOptions := ["approve", "reject"]
  createdAt := "2026-01-01T00:00:00+00:00"

/-- The call waits, another thread closes the bus, and the call goes on. -/
def closingEvents : List WaitEvent :=
  [.publish sampleMessage, .advance 0 "n1" "t1", .advance 0 "n1" "t1", .close, .advance 1 "n1" "t1",
    .advance 1 "n1" "t1"]

/-- **The action goes on when the bus is closed**, with its first option. -/
theorem closing_approves :
    (sample.run sampleMessage {} closingEvents).closedWait = true ∧
      (sample.run sampleMessage {} closingEvents).bus.responseFor "m1" = none ∧
      ∃ result, (sample.run sampleMessage {} closingEvents).phase = .done (.ok result) ∧
        result.outcome = .timedOutProceed ∧ result.responseValue = some "approve" :=
  ⟨rfl, rfl, sample.proceeded sampleMessage, rfl, rfl, rfl⟩

/-- The wait that is ended comes to a result. -/
theorem closed_wait_skips_iff_sample :
    (sample.run sampleMessage {} closingEvents).closedWait = true ∧
      ∃ result, (sample.run sampleMessage {} closingEvents).phase = .done result ∧
        (result.map WaitResult.outcome = .ok .timedOutSkip ↔
          sample.behavior.timeoutAction = .wait ∨
            (sample.behavior.timeoutAction = .skip ∧ sample.behavior.notifyOnProceed = false)) :=
  ⟨rfl, .ok (sample.proceeded sampleMessage), rfl,
    closed_wait_skips_iff sample sampleMessage {} closingEvents _ rfl rfl⟩

end WaitCoordinator

end Interaction

end Taskweavn

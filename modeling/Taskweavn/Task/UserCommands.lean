import Taskweavn.Interaction.AskStore
import Taskweavn.Task.Dispatcher

/-!
# Commands of the user on published tasks

The user answers the question or the confirmation that a task waits for, stops a task and
retries a failed one (`taskweavn/task/ask_service.py`, `taskweavn/task/commands.py`).  The
question or the message is written first, and the task follows when it still waits for
it; a bus that refuses is only noted in the message of the result.

The bus is that of the dispatcher, which is told about new work by others: `owed` of its
state lists the sessions with an operation since their last request.
-/

namespace Taskweavn

open Lib Py

/-! ### Messages -/

inductive MessageType
  | informational
  | actionable
  | response
deriving DecidableEq, Repr

/-- A message to or from the user; `draftRef` is `context["task_ref_kind"] == "draft"`. -/
structure AgentMessage where
  messageId : String
  sessionId : String
  taskId : Option String := none
  parentMessageId : Option String := none
  messageType : MessageType
  content : String
  draftRef : Bool := false
  responseValue : Option String := none
deriving DecidableEq

/-- The messages in the order of their rows. -/
structure MessageStream where
  messages : List AgentMessage := []
deriving DecidableEq

namespace MessageStream

def get (stream : MessageStream) (messageId : String) : Option AgentMessage :=
  stream.messages.find? (fun m => m.messageId == messageId)

def responseFor (stream : MessageStream) (messageId : String) : Option AgentMessage :=
  stream.messages.find?
    (fun m => m.messageType == .response && m.parentMessageId == some messageId)

/-- `publish`; the id of a message is new. -/
def publish (stream : MessageStream) (m : AgentMessage) : Option MessageStream :=
  match stream.get m.messageId with
  | some _ => none
  | none => some { messages := stream.messages ++ [m] }

end MessageStream

/-! ### The world of the commands -/

structure UserWorld where
  dispatch : DispatchState
  asks : InMemoryAskStore := {}
  messages : MessageStream := {}

/-- What a command draws: the id and the time of an answer or a message, and the
environments of the bus. -/
structure UserInput where
  newId : String
  now : DateTime
  env : CallEnv

/-- The result of a service: an accepted or rejected one, or nothing when it raises. -/
structure CoreCommandResult where
  accepted : Bool
  message : String
deriving DecidableEq

def acceptedResult (message : String) : Option CoreCommandResult := some ⟨true, message⟩

def rejectedResult (message : String) : Option CoreCommandResult := some ⟨false, message⟩

namespace UserWorld

def bus (w : UserWorld) : InMemoryTaskBus := w.dispatch.bus

def move (w : UserWorld) (sessionId taskId : String) (tr : Transition) (env : CallEnv) :
    UserWorld :=
  { w with dispatch := w.dispatch.operate ⟨.transition sessionId taskId tr, env⟩ }

def takes (w : UserWorld) (sessionId taskId : String) (tr : Transition) (env : CallEnv) : Bool :=
  (w.bus.transition sessionId taskId tr env).1.isOk

def requestDispatch (w : UserWorld) (sessionId : String) : UserWorld :=
  { w with dispatch := w.dispatch.request sessionId }

end UserWorld

/-! ### Questions -/

namespace DefaultTaskAskCommandService

/-- The task that waits for a question. -/
def waitsForAsk (w : UserWorld) (ask : AskRequest) : Option String :=
  if ask.blocking then
    ask.taskId.filter (fun taskId => (w.bus.get ask.sessionId taskId).any
      (fun t => t.status == .waitingForUser && t.waitingForAskId == some ask.askId))
  else none

/-- A transition of the task that waits for a question: `_resume_waiting_task_after_answer`
and `_fail_waiting_task`. -/
def moveWaiting (w : UserWorld) (ask : AskRequest) (tr : Transition) (env : CallEnv) :
    UserWorld :=
  match waitsForAsk w ask with
  | some taskId => w.move ask.sessionId taskId tr env
  | none => w

/-- The note about the task that a question is about. -/
def note (w : UserWorld) (ask : AskRequest) (verb done : String) (tr : Transition)
    (env : CallEnv) : String :=
  match ask.blocking, ask.taskId with
  | true, some taskId =>
    match w.bus.get ask.sessionId taskId with
    | none => "; task " ++ verb ++ " skipped: task not found"
    | some t =>
      if t.status ≠ .waitingForUser ∨ t.waitingForAskId ≠ some ask.askId then
        "; task " ++ verb ++ " skipped: task is not waiting on this ASK"
      else if w.takes ask.sessionId taskId tr env then "; task " ++ done
      else "; task " ++ verb ++ " failed"
  | _, _ => ""

theorem newAnswer_texts (w : UserWorld) (sessionId askId : String) {newId : String}
    {text key : Option String}
    (h : ¬(newId = "" ∨ askId = "" ∨ sessionId = "" ∨ text = some "" ∨ key = some "")) :
    newId ≠ "" ∧ askId ≠ "" ∧ sessionId ≠ "" ∧
      (w.asks.get sessionId askId).bind AskRequest.taskId ≠ some "" ∧ text ≠ some "" := by
  simp only [not_or] at h
  refine ⟨h.1, h.2.1, h.2.2.1, fun htask => ?_, h.2.2.2.1⟩
  obtain ⟨ask, -, htask⟩ := Option.bind_eq_some_iff.mp htask
  exact ask.texts_ok.2.2.1 htask

/-- `AskAnswer(...)`; nothing when the model is not valid. -/
def newAnswer (w : UserWorld) (sessionId askId : String) (selected : List String)
    (text key : Option String) (input : UserInput) : Option AskAnswer :=
  if htexts : input.newId = "" ∨ askId = "" ∨ sessionId = "" ∨ text = some "" ∨ key = some "" then
    none
  else if h : selected ≠ [] ∨ text.isSome = true then
    some
      { answerId := input.newId
        askId := askId
        sessionId := sessionId
        taskId := (w.asks.get sessionId askId).bind AskRequest.taskId
        selectedOptionIds := selected
        text := text
        idempotencyKey := key
        createdAt := Moment.utc input.now
        texts_ok := newAnswer_texts w sessionId askId htexts
        content_ok := h }
  else none

/-- What follows the command of the store: the task moves when the command was accepted
now. -/
def follow (w : UserWorld) (asks : AskStoreCommandResult × InMemoryAskStore)
    (text verb done : String) (tr : AskRequest → Transition) (env : CallEnv) :
    Option CoreCommandResult × UserWorld :=
  let written := { w with asks := asks.2 }
  match asks.1.accepted, asks.1.ask with
  | true, some ask =>
    if asks.1.status = .accepted then
      (acceptedResult (text ++ note written ask verb done (tr ask) env),
        moveWaiting written ask (tr ask) env)
    else (acceptedResult text, written)
  | _, _ => (rejectedResult asks.1.message, written)

def answerAsk (w : UserWorld) (sessionId askId : String) (selected : List String)
    (text key : Option String) (input : UserInput) : Option CoreCommandResult × UserWorld :=
  match newAnswer w sessionId askId selected text key input with
  | none => (none, w)
  | some answer =>
    follow w (w.asks.answer sessionId askId answer key) "ASK answered" "resume" "resumed"
      (fun ask => .resumeAfterUser ask.askId) input.env

def deferAsk (w : UserWorld) (sessionId askId : String) (reason key : Option String)
    (input : UserInput) : Option CoreCommandResult × UserWorld :=
  let given :=
    match reason with
    | none => "user deferred ASK"
    | some r => if r = "" then "user deferred ASK" else r
  follow w (w.asks.defer sessionId askId reason key input.now) "ASK deferred" "fail" "failed"
    (fun _ => .fail ("ask_deferred: " ++ strip given)) input.env

def cancelAsk (w : UserWorld) (sessionId askId reason : String) (key : Option String)
    (input : UserInput) : Option CoreCommandResult × UserWorld :=
  if strip reason = "" then (rejectedResult "ASK cancel requires reason", w)
  else
    follow w (w.asks.cancel sessionId askId (strip reason) key input.now) "ASK cancelled" "fail"
      "failed" (fun _ => .fail ("ask_cancelled: " ++ strip reason)) input.env

end DefaultTaskAskCommandService

/-! ### Confirmations and tasks -/

namespace DefaultTaskCommandService

/-- The confirmation that can be resolved, or why not. -/
def openConfirmation (stream : MessageStream) (sessionId confirmationId value : String) :
    Except String AgentMessage :=
  match stream.get confirmationId with
  | none => .error ("confirmation '" ++ confirmationId ++ "' not found")
  | some parent =>
    if parent.sessionId ≠ sessionId then .error "confirmation belongs to a different session"
    else if parent.messageType ≠ .actionable then
      .error "confirmation must reference an actionable message"
    else if (stream.responseFor parent.messageId).isSome then
      .error "confirmation is already resolved"
    else if isBlank value then .error "confirmation value must not be empty"
    else .ok parent

def waitsForConfirmation (w : UserWorld) (sessionId : String) (parent : AgentMessage) :
    Option String :=
  if parent.draftRef then none
  else
    parent.taskId.filter (fun taskId => (w.bus.get sessionId taskId).any
      (fun t => t.status == .waitingForUser &&
        t.waitingForConfirmationId == some parent.messageId))

/-- The response to a confirmation; `note or value` is its text. -/
def confirmationResponse (sessionId : String) (parent : AgentMessage) (value : String)
    (note : Option String) (messageId : String) : AgentMessage where
  messageId := messageId
  sessionId := sessionId
  taskId := parent.taskId
  parentMessageId := some parent.messageId
  messageType := .response
  content := match note with
    | none => value
    | some n => if n = "" then value else n
  responseValue := some value

def resolveConfirmation (w : UserWorld) (sessionId confirmationId value : String)
    (note : Option String) (input : UserInput) : Option CoreCommandResult × UserWorld :=
  match openConfirmation w.messages sessionId confirmationId value with
  | .error message => (rejectedResult message, w)
  | .ok parent =>
    match w.messages.publish (confirmationResponse sessionId parent value note input.newId) with
    | none => (none, w)
    | some messages =>
      let written := { w with messages := messages }
      match waitsForConfirmation written sessionId parent with
      | none => (acceptedResult "confirmation resolved", written)
      | some taskId =>
        let tr := .resumeAfterConfirmation parent.messageId
        let text :=
          if written.takes sessionId taskId tr input.env then
            "confirmation resolved; task resumed"
          else "confirmation resolved"
        (acceptedResult text, written.move sessionId taskId tr input.env)

/-- A command on a stored task with the message that tells about it: the bus may refuse
it, and the message may fail after the bus has taken it. -/
def onTask (w : UserWorld) (sessionId taskId : String) (tr : Transition)
    (accepted content : String) (input : UserInput) : Option CoreCommandResult × UserWorld :=
  if w.takes sessionId taskId tr input.env then
    let moved := w.move sessionId taskId tr input.env
    let message : AgentMessage :=
      { messageId := input.newId, sessionId := sessionId, taskId := some taskId
        messageType := .informational, content := content }
    match w.messages.publish message with
    | none => (none, moved)
    | some messages => (acceptedResult accepted, { moved with messages := messages })
  else (rejectedResult "task store error", w)

def retryTask (w : UserWorld) (sessionId taskId : String) (instruction : Option String)
    (input : UserInput) : Option CoreCommandResult × UserWorld :=
  match w.bus.get sessionId taskId with
  | none => (rejectedResult ("task '" ++ taskId ++ "' not found"), w)
  | some t =>
    if t.status ≠ .failed then (rejectedResult "only failed tasks can be retried", w)
    else
      let content :=
        match instruction with
        | none => "Retry requested."
        | some i => if strip i = "" then "Retry requested." else strip i
      onTask w sessionId taskId (.retry instruction) "task retry queued" content input

def stopTask (w : UserWorld) (sessionId taskId : String) (reason requestId : Option String)
    (input : UserInput) : Option CoreCommandResult × UserWorld :=
  match w.bus.get sessionId taskId with
  | none => (rejectedResult ("task '" ++ taskId ++ "' not found"), w)
  | some t =>
    if t.status ≠ .pending ∧ t.status ≠ .running then
      (rejectedResult "only pending or running tasks can be stopped", w)
    else
      let given :=
        match reason with
        | none => "user requested stop"
        | some r => if strip r = "" then "user requested stop" else strip r
      onTask w sessionId taskId (.requestInterrupt given .user requestId) "task stop requested"
        ("Stop requested: " ++ given) input

end DefaultTaskCommandService

/-! ### Tasks that are resumed -/

/-- The worker comes back to the queue: it was started, and no tick has raised. -/
def Worker.alive : Worker → Bool
  | waiting | draining .. | finishing _ false => true
  | absent | finishing _ true | dying => false

/-- The moves of the worker. -/
def DispatchAction.own : DispatchAction → Bool
  | pop | tick .. | clear | exit => true
  | requestDispatch _ | operate _ | stop => false

namespace DispatchState

variable {st st' : DispatchState} {s i : String}

/-- A task that has waited for the user is pending again. -/
def Resumed (st st' : DispatchState) (s i : String) : Prop :=
  (∃ t, st.bus.get s i = some t ∧ t.status = .waitingForUser) ∧
    ∃ t, st'.bus.get s i = some t ∧ t.status = .pending

/-- A tick of the session is to come: the worker is about to tick it, or finds it in the
queue. -/
def TickComes (st : DispatchState) (s : String) : Prop :=
  (s ∈ st.dispatcher.pendingSessions ∧ st.dispatcher.worker.alive = true) ∨
    ∃ n, st.dispatcher.worker = .draining s n

/-- **Nothing else has to come.**  The moves of the worker alone come to an end, and when it
sleeps after a tick of the session that has found nothing to do, the task is not eligible. -/
structure NotStranded (st : DispatchState) (s i : String) : Prop where
  ends : ∃ n, ∀ actions, (∀ a ∈ actions, a.own = true) → (execAll step st actions).isSome = true →
    actions.length ≤ n
  settled : st.bus.Keyed → ∀ actions st', (∀ a ∈ actions, a.own = true) →
    execAll step st actions = some st' → st'.dispatcher.worker = .waiting →
    st'.dispatcher.pendingSessions = [] → st'.lastTick.get? s = some (some .idle) →
    ∀ t, st'.bus.get s i = some t → ¬st'.bus.Eligible s t

/-- **A resumed task wakes the dispatcher**: a request for its session comes after the
transition, and an open, enabled dispatcher ticks the session and does not leave the task
behind. -/
def Wakes (st : DispatchState) (s i : String) : Prop :=
  s ∉ st.owed ∧ (st.dispatcher.closed = false → st.dispatcher.enabled = true →
    st.dispatcher.hasAgent = true → st.TickComes s ∧ st.NotStranded s i)

/-- A request for the session is not lost: the session has its tick to come, or it can be
queued now. -/
def Ready (st : DispatchState) (s : String) : Prop :=
  st.TickComes s ∨ (s ∉ st.dispatcher.pendingSessions ∧ st.dispatcher.worker.running ≠ some s ∧
    (st.dispatcher.worker = .absent ∨ st.dispatcher.worker.alive = true))

def Prepared (st : DispatchState) (s : String) : Prop :=
  st.dispatcher.closed = false → st.dispatcher.enabled = true → st.dispatcher.hasAgent = true →
    st.Ready s

/-! ### The worker on its own -/

/-- How many moves it takes the worker at most to get to the queue. -/
def movesToQueue : Worker → ℕ
  | .absent => 0
  | .waiting | .dying => 1
  | .finishing .. => 2
  | .draining _ n => n + 3

/-- How many moves the worker has left at most. -/
def movesLeft (st : DispatchState) : ℕ :=
  st.dispatcher.pendingSessions.length * (max 1 st.dispatcher.maxTicksPerTrigger + 3) +
    movesToQueue st.dispatcher.worker

theorem movesToQueue_afterTick (x : String) (n : ℕ) (status : Option TaskExecutionTickStatus) :
    movesToQueue (FixedRouteExecutionDispatcher.afterTick x n status) < n + 3 := by
  unfold FixedRouteExecutionDispatcher.afterTick
  split
  · split
    · exact Nat.lt_add_left n (Nat.lt_succ_self 2)
    · show n - 1 + 3 < n + 3
      omega
  · exact Nat.lt_add_left n (Nat.lt_succ_self 2)
  · exact Nat.lt_add_left n (Nat.lt_succ_self 2)

theorem movesLeft_step {a : DispatchAction} (ha : a.own = true) (h : st.step a = some st') :
    st'.movesLeft < st.movesLeft := by
  cases a with
  | pop =>
    simp only [step] at h
    split at h
    · next hw hp _ =>
      cases h
      simp only [movesLeft, hw, hp, List.length_cons, movesToQueue, Nat.add_mul]
      omega
    · cases h
  | tick agent during claimEnv closeEnv =>
    simp only [step] at h
    split at h
    · next x n hw =>
      obtain ⟨-, ⟨⟩⟩ := Option.ite_none_right_eq_some.mp h
      simp only [movesLeft, drainTick, hw]
      exact Nat.add_lt_add_left (movesToQueue_afterTick x n _) _
    · cases h
  | clear =>
    simp only [step] at h
    split at h
    · next raised hw =>
      cases h
      cases raised <;> simp [movesLeft, movesToQueue, hw]
    · cases h
  | exit =>
    simp only [step] at h
    obtain ⟨hw, ⟨⟩⟩ := Option.ite_none_right_eq_some.mp h
    rcases hw with hw | ⟨hw, -⟩ <;> simp [movesLeft, movesToQueue, hw]
  | _ => cases ha

theorem length_le_movesLeft : ∀ (actions : List DispatchAction) {st : DispatchState},
    (∀ a ∈ actions, a.own = true) → (execAll step st actions).isSome = true →
    actions.length ≤ st.movesLeft := by
  intro actions
  induction actions with
  | nil => exact fun _ _ => Nat.zero_le _
  | cons a rest ih =>
    intro st hown h
    obtain ⟨last, hlast⟩ := Option.isSome_iff_exists.mp h
    obtain ⟨mid, hmid, hrest⟩ := execAll_cons hlast
    have hlt := movesLeft_step (hown a List.mem_cons_self) hmid
    have hle := ih (fun b hb => hown b (List.mem_cons_of_mem _ hb)) (by rw [hrest]; rfl)
    rw [List.length_cons]
    omega

/-- The session has a tick to come, or its last one has left nothing. -/
structure Watched (s : String) (st : DispatchState) : Prop where
  keyed : st.bus.Keyed
  comes : s ∈ st.dispatcher.pendingSessions ∨ (∃ n, st.dispatcher.worker = .draining s n) ∨
    (st.lastTick.get? s = some (some .idle) → ¬st.bus.HasEligible s)

theorem watched_drainTick {x : String} {n : ℕ} {agent : TaskDomain → AgentOutcome}
    {intf : Interference} (h : Watched s st) (hw : st.dispatcher.worker = .draining x n)
    (hearly : intf.early = []) (hlate : intf.late = [])
    (hduring : ∀ c ∈ intf.during, c.op.waits x = true) :
    Watched s (st.drainTick x n agent intf) := by
  refine ⟨?_, ?_⟩
  · obtain ⟨calls, hrun, -⟩ := (st.executor x agent).tick_run h.keyed intf
    exact (show (st.drainTick x n agent intf).bus = _ from hrun) ▸
      InMemoryTaskBus.keyed_run h.keyed calls
  · by_cases hx : x = s
    · subst hx
      refine .inr (.inr fun hidle => ?_)
      have hlast : (st.drainTick x n agent intf).lastTick.get? x = some
          (((st.executor x agent).tick st.bus intf).1.toOption.map
            TaskExecutionTickResult.status) :=
        Dict.get?_set_self _ _ _
      rw [hlast] at hidle
      cases hout : ((st.executor x agent).tick st.bus intf).1 with
      | error e => simp [hout, Except.toOption] at hidle
      | ok r =>
        simp only [hout, Except.toOption, Option.map_some, Option.some.injEq] at hidle
        obtain ⟨hsame, hnone⟩ := FixedRouteTaskExecutor.tick_idle hout hidle
        rw [show (st.drainTick x n agent intf).bus = st.bus from hsame]
        exact InMemoryTaskBus.not_hasEligible_of_find? h.keyed hnone
    · rcases h.comes with hp | ⟨m, hd⟩ | hno
      · exact .inl hp
      · rw [hw] at hd
        cases hd
        exact absurd rfl hx
      · refine .inr (.inr fun hidle hel => ?_)
        rw [show (st.drainTick x n agent intf).lastTick.get? s = st.lastTick.get? s from
          Dict.get?_set_ne _ _ hx] at hidle
        refine hno hidle (hel.of_get_eq fun k => ?_)
        exact (get_drainTick_of_ne h.keyed hearly hlate hduring hx k).symm

/-- **A move of the worker keeps watch.** -/
theorem watched_step {a : DispatchAction} (ha : a.own = true) (h : Watched s st)
    (hstep : st.step a = some st') : Watched s st' := by
  cases a with
  | pop =>
    simp only [step] at hstep
    split at hstep
    · next x rest hw hp _ =>
      cases hstep
      refine ⟨h.keyed, ?_⟩
      rcases h.comes with hin | ⟨n, hd⟩ | hno
      · rw [hp] at hin
        rcases List.mem_cons.mp hin with rfl | hin
        · exact .inr (.inl ⟨_, rfl⟩)
        · exact .inl hin
      · rw [hw] at hd
        cases hd
      · exact .inr (.inr hno)
    · cases hstep
  | tick agent during claimEnv closeEnv =>
    simp only [step] at hstep
    split at hstep
    · next hw =>
      obtain ⟨hduring, ⟨⟩⟩ := Option.ite_none_right_eq_some.mp hstep
      exact watched_drainTick h hw rfl rfl fun c hc => List.all_eq_true.mp hduring c hc
    · cases hstep
  | clear =>
    simp only [step] at hstep
    split at hstep
    · next hw =>
      cases hstep
      refine ⟨h.keyed, h.comes.imp_right fun h => .inr (h.resolve_left ?_)⟩
      rintro ⟨n, hd⟩
      rw [hw] at hd
      cases hd
    · cases hstep
  | exit =>
    simp only [step] at hstep
    obtain ⟨hw, ⟨⟩⟩ := Option.ite_none_right_eq_some.mp hstep
    refine ⟨h.keyed, h.comes.imp_right fun h => .inr (h.resolve_left ?_)⟩
    rintro ⟨n, hd⟩
    rw [hd] at hw
    rcases hw with hw | ⟨hw, -⟩ <;> cases hw
  | _ => cases ha

theorem watched_run : ∀ (actions : List DispatchAction) {st : DispatchState}, Watched s st →
    (∀ a ∈ actions, a.own = true) → execAll step st actions = some st' → Watched s st' := by
  intro actions
  induction actions with
  | nil =>
    intro st h _ hrun
    exact Option.some.inj hrun ▸ h
  | cons a rest ih =>
    intro st h hown hrun
    obtain ⟨mid, hmid, hrest⟩ := execAll_cons hrun
    exact ih (watched_step (hown a List.mem_cons_self) h hmid)
      (fun b hb => hown b (List.mem_cons_of_mem _ hb)) hrest

/-- **A tick to come leaves no task behind.** -/
theorem notStranded_of_tickComes (h : st.TickComes s) (i : String) : st.NotStranded s i := by
  refine ⟨⟨st.movesLeft, fun actions => length_le_movesLeft actions⟩, ?_⟩
  intro hkeyed actions st' hown hrun hw hp hidle t ht hel
  have hstart : Watched s st := ⟨hkeyed, h.imp And.left .inl⟩
  rcases (watched_run actions hstart hown hrun).comes with hin | ⟨n, hd⟩ | hno
  · rw [hp] at hin
    cases hin
  · rw [hw] at hd
    cases hd
  · exact hno hidle ⟨i, t, ht, hel⟩

/-! ### What a request does -/

theorem not_resumed_of_bus_eq (h : st'.bus = st.bus) : ¬st.Resumed st' s i := by
  rintro ⟨⟨t, ht, hw⟩, t', ht', hp⟩
  rw [h, ht] at ht'
  cases ht'
  rw [hw] at hp
  cases hp

@[simp] theorem bus_request (st : DispatchState) (s : String) : (st.request s).bus = st.bus := rfl

theorem not_owed_request (st : DispatchState) (s : String) : s ∉ (st.request s).owed := by
  simp [request]

theorem wakes_iff_tickComes (h : s ∉ st.owed) : st.Wakes s i ↔
    (st.dispatcher.closed = false → st.dispatcher.enabled = true → st.dispatcher.hasAgent = true →
      st.TickComes s) := by
  refine ⟨fun hw hopen hen hag => (hw.2 hopen hen hag).1, fun hc => ⟨h, fun hopen hen hag => ?_⟩⟩
  exact ⟨hc hopen hen hag, notStranded_of_tickComes (hc hopen hen hag) i⟩

/-- The session is queued or being drained, as it was before, or it is queued now. -/
theorem tickComes_request_iff (hopen : st.dispatcher.closed = false)
    (hen : st.dispatcher.enabled = true) (hag : st.dispatcher.hasAgent = true) :
    (st.request s).TickComes s ↔ st.Ready s := by
  have hdisp : (st.request s).dispatcher = (st.dispatcher.requestDispatch s).2 := rfl
  unfold Ready TickComes
  rw [hdisp, FixedRouteExecutionDispatcher.requestDispatch]
  simp only [hopen, hen, hag, Bool.false_eq_true, Bool.true_eq_false, if_false]
  by_cases hp : s ∈ st.dispatcher.pendingSessions
  · simp [hp]
  · by_cases hr : st.dispatcher.worker.running = some s
    · simp [hp, hr]
    · unfold FixedRouteExecutionDispatcher.ensureWorker
      by_cases hw : st.dispatcher.worker = .absent
      · simp [hw, hp, Worker.alive, Worker.running]
      · have hne : ∀ n, st.dispatcher.worker ≠ .draining s n := by
          intro n hd
          rw [hd] at hr
          exact hr rfl
        simp [hw, hp, hr, hne]

theorem prepared_request_iff : (st.request s).Prepared s ↔ st.Prepared s := by
  obtain ⟨hc, he, ha⟩ := requestDispatch_config st.dispatcher s
  have hdisp : (st.request s).dispatcher = (st.dispatcher.requestDispatch s).2 := rfl
  unfold Prepared
  rw [hdisp, hc, he, ha]
  refine forall_congr' fun hopen => forall_congr' fun hen => forall_congr' fun hag => ?_
  rw [← tickComes_request_iff hopen hen hag, ← tickComes_request_iff (hc.trans hopen) (he.trans hen)
    (ha.trans hag)]
  -- a second request finds the session queued or being drained
  suffices h : ((st.request s).request s).dispatcher = (st.request s).dispatcher by
    rw [TickComes, h, TickComes]
  rcases requestDispatch_cases hopen hen hag s with ⟨hsame, -⟩ | ⟨hq, -⟩
  · show ((st.dispatcher.requestDispatch s).2.requestDispatch s).2 = _
    rw [hsame, hsame, hdisp, hsame]
  · rw [show ((st.request s).request s).dispatcher =
      ((st.dispatcher.requestDispatch s).2.requestDispatch s).2 from rfl, hdisp]
    conv_lhs => rw [FixedRouteExecutionDispatcher.requestDispatch]
    simp only [hc.trans hopen, he.trans hen, ha.trans hag, Bool.false_eq_true, Bool.true_eq_false,
      if_false]
    rw [if_pos (by rw [hq]; simp)]

theorem wakes_request_iff : (st.request s).Wakes s i ↔ st.Prepared s := by
  obtain ⟨hc, he, ha⟩ := requestDispatch_config st.dispatcher s
  rw [wakes_iff_tickComes (st.not_owed_request s),
    show (st.request s).dispatcher = (st.dispatcher.requestDispatch s).2 from rfl, hc, he, ha]
  exact forall_congr' fun hopen => forall_congr' fun hen => forall_congr' fun hag =>
    tickComes_request_iff hopen hen hag

/-- From `st` to `st'`, the dispatcher hears of every resumed task whose session it can
take. -/
def Heeds (st st' : DispatchState) : Prop :=
  ∀ s i, st.Resumed st' s i → (st'.Wakes s i ↔ st.Prepared s)

/-- From `st` to `st'`, it hears of none. -/
def Forgets (st st' : DispatchState) : Prop := ∀ s i, st.Resumed st' s i → s ∈ st'.owed

theorem heeds_of_not_resumed (h : ∀ s i, ¬st.Resumed st' s i) : st.Heeds st' :=
  fun s i hr => absurd hr (h s i)

theorem forgets_of_not_resumed (h : ∀ s i, ¬st.Resumed st' s i) : st.Forgets st' :=
  fun s i hr => absurd hr (h s i)

theorem heeds_request (hdisp : st'.dispatcher = st.dispatcher)
    (h : ∀ s' i, st.Resumed st' s' i → s' = s) : st.Heeds (st'.request s) := by
  intro s' i hr
  obtain rfl := h s' i hr
  rw [wakes_request_iff, Prepared, Ready, TickComes, hdisp]
  rfl

abbrev transitionCall (s i : String) (tr : Transition) (env : CallEnv) : BusCall :=
  ⟨.transition s i tr, env⟩

theorem bus_operate_of_error {tr : Transition} {env : CallEnv}
    (h : (st.bus.transition s i tr env).1.isOk = false) :
    (st.operate (transitionCall s i tr env)).bus = st.bus := by
  show (st.bus.transition s i tr env).2 = st.bus
  rcases st.bus.transition_cases s i tr env with ⟨e, he⟩ | ⟨_, _, _, _, _, he⟩
  · rw [he]
  · rw [he] at h
    cases h

theorem resume_of_pending {tr : Transition} {env : CallEnv} {t t' : TaskDomain}
    (h : tr.updated env t = .ok t') (hw : t.status = .waitingForUser) (hp : t'.status = .pending) :
    ∃ id, tr = .resumeAfterUser id ∨ tr = .resumeAfterConfirmation id := by
  rcases Transition.updated_cases h with
    ⟨_, _, hst, _⟩ | ⟨_, _, _, rfl⟩ | ⟨_, _, _, hst, _⟩ | ⟨id, h, _⟩ | ⟨_, _, _, rfl⟩ |
      ⟨_, _, hst, _⟩ | ⟨_, _, _, _, ⟨hst, _⟩ | ⟨hst, _⟩⟩
  case inr.inl => cases hp
  case inr.inr.inr.inl => exact ⟨id, h⟩
  case inr.inr.inr.inr.inl => cases hp
  all_goals
    rw [hw] at hst
    cases hst

/-- **What a transition resumes**: only its own task, and only by a resume. -/
theorem resumed_operate {tr : Transition} {env : CallEnv} {s' i' : String}
    (h : st.Resumed (st.operate (transitionCall s i tr env)) s' i') :
    s' = s ∧ i' = i ∧ ∃ id, tr = .resumeAfterUser id ∨ tr = .resumeAfterConfirmation id := by
  have hbus : (st.operate (transitionCall s i tr env)).bus = (st.bus.transition s i tr env).2 := rfl
  rcases st.bus.transition_cases s i tr env with ⟨e, he⟩ | ⟨t, t', ht, _, hu, he⟩
  · rw [he] at hbus
    exact absurd h (not_resumed_of_bus_eq hbus)
  · rw [he] at hbus
    obtain ⟨⟨u, hget, hw⟩, u', hget', hp⟩ := h
    rw [hbus] at hget'
    by_cases hk : (s, i) = (s', i')
    · cases hk
      simp only [InMemoryTaskBus.get, Dict.get?_set_self] at hget'
      rw [ht] at hget
      cases hget
      cases hget'
      exact ⟨rfl, rfl, resume_of_pending hu hw hp⟩
    · simp only [InMemoryTaskBus.get, Dict.get?_set_ne _ _ hk] at hget'
      rw [InMemoryTaskBus.get, hget'] at hget
      cases hget
      rw [hw] at hp
      cases hp

theorem owed_of_resumed {tr : Transition} {env : CallEnv}
    (h : st.Resumed (st.operate (transitionCall s i tr env)) s i) :
    s ∈ (st.operate (transitionCall s i tr env)).owed := by
  have howed : (st.operate (transitionCall s i tr env)).owed =
      if ((st.bus.transition s i tr env).1.map Reply.task).isOk then s :: st.owed
      else st.owed := rfl
  rcases st.bus.transition_cases s i tr env with ⟨e, he⟩ | ⟨t, t', -, -, -, he⟩
  · refine absurd h (not_resumed_of_bus_eq (bus_operate_of_error ?_))
    rw [he]
    rfl
  · rw [howed, he]
    exact List.mem_cons_self

end DispatchState

/-! ### What the commands do to the tasks -/

open DispatchState

variable {w : UserWorld} {s : String} {key : Option String} {input : UserInput}

namespace DefaultTaskAskCommandService

theorem follow_cases (asks : AskStoreCommandResult × InMemoryAskStore) (text verb done : String)
    (tr : AskRequest → Transition) (env : CallEnv) :
    (follow w asks text verb done tr env).2.dispatch = w.dispatch ∨
    ∃ ask taskId, asks.1.status = .accepted ∧ asks.1.ask = some ask ∧
      ((follow w asks text verb done tr env).1.any CoreCommandResult.accepted) = true ∧
      (follow w asks text verb done tr env).2.dispatch =
        w.dispatch.operate (transitionCall ask.sessionId taskId (tr ask) env) := by
  unfold follow
  simp only
  split
  · next ask _ hask =>
    split
    · next hst =>
      unfold moveWaiting
      split
      · next taskId _ => exact .inr ⟨ask, taskId, hst, hask, rfl, rfl⟩
      · exact .inl rfl
    · exact .inl rfl
  · exact .inl rfl

theorem sessionId_of_answered {store : InMemoryAskStore} {askId : String} {answer : AskAnswer}
    {ask : AskRequest} (h : (store.answer s askId answer key).1.status = .accepted)
    (hask : (store.answer s askId answer key).1.ask = some ask) : ask.sessionId =
    answer.sessionId := by
  unfold InMemoryAskStore.answer at h hask
  cases hreplay : store.idempotencyReplay s key with
  | some replay =>
    -- what is replayed is never accepted
    simp only [hreplay] at h
    obtain ⟨result, _, rfl⟩ := Option.map_eq_some_iff.mp hreplay
    split at h
    · next hr =>
      rw [hr] at h
      cases h
    · cases h
  | none =>
    simp only [hreplay] at h hask
    unfold answerRequest at h hask
    cases hget : store.get s askId with
    | none =>
      rw [hget] at h
      cases h
    | some request =>
      rw [hget] at h hask
      simp only at h hask
      split at h
      · cases h
      · next htarget =>
        simp only [if_neg htarget] at hask
        split at h
        · cases h
        · next htask =>
          simp only [if_neg htask] at hask
          split at h
          · cases h
          · next hpending =>
            simp only [if_neg hpending] at hask
            split at h
            · cases h
            · next hvalid =>
              simp only [hvalid] at hask
              split at h
              · cases h
              · next hkey =>
                simp only [if_neg hkey] at hask
                cases hask
                exact (not_or.mp htarget).1 |> not_not.mp |>.symm

variable (w s key input) in
/-- **An answer moves at most a task of its session**, by a resume, and then it is
accepted. -/
theorem answerAsk_cases (askId : String) (selected : List String) (text : Option String) :
    (answerAsk w s askId selected text key input).2.dispatch = w.dispatch ∨
    ∃ taskId id,
      (answerAsk w s askId selected text key input).1.any CoreCommandResult.accepted = true ∧
      (answerAsk w s askId selected text key input).2.dispatch =
        w.dispatch.operate (transitionCall s taskId (.resumeAfterUser id) input.env) := by
  unfold answerAsk
  cases hnew : newAnswer w s askId selected text key input with
  | none => exact .inl rfl
  | some answer =>
    have hs : answer.sessionId = s := by
      unfold newAnswer at hnew
      split at hnew
      · cases hnew
      · split at hnew
        · cases hnew
          rfl
        · cases hnew
    rcases follow_cases (w := w) (w.asks.answer s askId answer key) "ASK answered"
      "resume" "resumed"
      (fun ask => .resumeAfterUser ask.askId) input.env with h | ⟨ask, taskId, hst, hask, hacc, h⟩
    · exact .inl h
    · refine .inr ⟨taskId, ask.askId, hacc, ?_⟩
      rw [h, sessionId_of_answered hst hask, hs]

theorem not_resumed_follow_fail (asks : AskStoreCommandResult × InMemoryAskStore)
    (text verb done : String) (errorRef : String) (env : CallEnv) (s' i' : String) :
    ¬w.dispatch.Resumed (follow w asks text verb done (fun _ => .fail errorRef) env).2.dispatch
      s' i' := by
  intro h
  rcases follow_cases (w := w) asks text verb done (fun _ => .fail errorRef) env with
    heq | ⟨ask, taskId, _, _, _, heq⟩
  · rw [heq] at h
    exact not_resumed_of_bus_eq rfl h
  · rw [heq] at h
    obtain ⟨_, _, id, hc | hc⟩ := resumed_operate h <;> cases hc

end DefaultTaskAskCommandService

namespace DefaultTaskCommandService

theorem not_resumed_onTask {taskId : String} {tr : Transition} {accepted content : String}
    (htr : ∀ id, tr ≠ .resumeAfterUser id ∧ tr ≠ .resumeAfterConfirmation id) (s' i' : String) :
    ¬w.dispatch.Resumed (onTask w s taskId tr accepted content input).2.dispatch s' i' := by
  intro h
  have hcases : (onTask w s taskId tr accepted content input).2.dispatch = w.dispatch ∨
      (onTask w s taskId tr accepted content input).2.dispatch =
        w.dispatch.operate (transitionCall s taskId tr input.env) := by
    unfold onTask
    simp only
    split
    · split
      · exact .inr rfl
      · exact .inr rfl
    · exact .inl rfl
  rcases hcases with heq | heq
  · rw [heq] at h
    exact not_resumed_of_bus_eq rfl h
  · rw [heq] at h
    obtain ⟨_, _, id, hc | hc⟩ := resumed_operate h
    · exact (htr id).1 hc
    · exact (htr id).2 hc

theorem not_resumed_retryTask {taskId : String} {instruction : Option String} (s' i' : String) :
    ¬w.dispatch.Resumed (retryTask w s taskId instruction input).2.dispatch s' i' := by
  unfold retryTask
  split
  · exact not_resumed_of_bus_eq rfl
  · split
    · exact not_resumed_of_bus_eq rfl
    · refine not_resumed_onTask (fun id => ⟨?_, ?_⟩) s' i' <;> intro h <;> cases h

theorem not_resumed_stopTask {taskId : String} {reason requestId : Option String}
    (s' i' : String) :
    ¬w.dispatch.Resumed (stopTask w s taskId reason requestId input).2.dispatch s' i' := by
  unfold stopTask
  split
  · exact not_resumed_of_bus_eq rfl
  · split
    · exact not_resumed_of_bus_eq rfl
    · refine not_resumed_onTask (fun id => ⟨?_, ?_⟩) s' i' <;> intro h <;> cases h

/-- **The response to a confirmation resumes a task and tells nobody.** -/
theorem forgets_resolveConfirmation {confirmationId value : String} {note : Option String} :
    w.dispatch.Forgets (resolveConfirmation w s confirmationId value note input).2.dispatch := by
  unfold resolveConfirmation
  split
  · exact forgets_of_not_resumed fun _ _ => not_resumed_of_bus_eq rfl
  · split
    · exact forgets_of_not_resumed fun _ _ => not_resumed_of_bus_eq rfl
    · simp only
      split
      · exact forgets_of_not_resumed fun _ _ => not_resumed_of_bus_eq rfl
      · simp only [UserWorld.move]
        intro s' i' hr
        obtain ⟨rfl, rfl, -⟩ := resumed_operate hr
        exact owed_of_resumed hr

end DefaultTaskCommandService

end Taskweavn

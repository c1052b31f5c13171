import Taskweavn.Lib.Once
import Taskweavn.Server.Envelopes

/-!
# Commands over HTTP

A command of the user interface is a `POST` or `PATCH` to a path under a session
(`taskweavn/server/ui_http_routes.py`).  When it has an idempotency key its response
is kept under the key, and the same request gets it again
(`taskweavn/server/ui_http_commands.py`).  Two requests are the same when the hash of
their route, version and payload is; the hash lists the parameters of the path one by
one, and the id of a plan is not among them.

The payload of a request and the response of the gateway are JSON documents, and
`sha256` is `json.dumps` with sorted keys and the digest in one.  A dispatch is any
function on the world, and it can raise.
-/

namespace Taskweavn

open Lib Py

/-! ### Routes -/

/-- The routes that are answered by `_command_response`. -/
inductive RouteName
  | appendSessionInput
  | generateTaskTree
  | publishTaskTree
  | archivePlan
  | repairAuthoringState
  | answerAuthoringAskBatch
  | dispatchExecution
  | updateTaskNode
  | appendTaskInput
  | retryTask
  | stopTask
  | resolveConfirmation
  | answerAsk
  | deferAsk
  | cancelAsk
deriving DecidableEq, Repr

/-- `_Route`; a parameter that the path does not have is empty. -/
structure Route where
  name : RouteName
  sessionId : String
  rawTaskId : String := ""
  taskNodeId : String := ""
  confirmationId : String := ""
  askId : String := ""
  planId : String := ""
deriving DecidableEq

/-- `_match_route`, for the suffix of a path behind its session. -/
def matchSuffix (sessionId : String) : List String → Option Route
  | ["input"] => some { name := .appendSessionInput, sessionId := sessionId }
  | ["task-tree", "generate"] => some { name := .generateTaskTree, sessionId := sessionId }
  | ["task-tree", "publish"] => some { name := .publishTaskTree, sessionId := sessionId }
  | ["plans", i, "archive"] =>
    some { name := .archivePlan, sessionId := sessionId, planId := i }
  | ["authoring", "repair"] => some { name := .repairAuthoringState, sessionId := sessionId }
  | ["authoring", "raw-tasks", i, "asks", "answers"] =>
    some { name := .answerAuthoringAskBatch, sessionId := sessionId, rawTaskId := i }
  | ["execution", "dispatch"] => some { name := .dispatchExecution, sessionId := sessionId }
  | ["tasks", i] => some { name := .updateTaskNode, sessionId := sessionId, taskNodeId := i }
  | ["tasks", i, "input"] =>
    some { name := .appendTaskInput, sessionId := sessionId, taskNodeId := i }
  | ["tasks", i, "retry"] => some { name := .retryTask, sessionId := sessionId, taskNodeId := i }
  | ["tasks", i, "stop"] => some { name := .stopTask, sessionId := sessionId, taskNodeId := i }
  | ["confirmations", i, "respond"] =>
    some { name := .resolveConfirmation, sessionId := sessionId, confirmationId := i }
  | ["asks", i, "answer"] => some { name := .answerAsk, sessionId := sessionId, askId := i }
  | ["asks", i, "defer"] => some { name := .deferAsk, sessionId := sessionId, askId := i }
  | ["asks", i, "cancel"] => some { name := .cancelAsk, sessionId := sessionId, askId := i }
  | _ => none

/-- `_match_route`, for the paths of commands. -/
def matchRoute : List String → Option Route
  | "api" :: "v1" :: "sessions" :: sessionId :: suffix => matchSuffix sessionId suffix
  | _ => none

/-- The path behind the session that leads to a route. -/
def Route.suffix (r : Route) : List String :=
  match r.name with
  | .appendSessionInput => ["input"]
  | .generateTaskTree => ["task-tree", "generate"]
  | .publishTaskTree => ["task-tree", "publish"]
  | .archivePlan => ["plans", r.planId, "archive"]
  | .repairAuthoringState => ["authoring", "repair"]
  | .answerAuthoringAskBatch => ["authoring", "raw-tasks", r.rawTaskId, "asks", "answers"]
  | .dispatchExecution => ["execution", "dispatch"]
  | .updateTaskNode => ["tasks", r.taskNodeId]
  | .appendTaskInput => ["tasks", r.taskNodeId, "input"]
  | .retryTask => ["tasks", r.taskNodeId, "retry"]
  | .stopTask => ["tasks", r.taskNodeId, "stop"]
  | .resolveConfirmation => ["confirmations", r.confirmationId, "respond"]
  | .answerAsk => ["asks", r.askId, "answer"]
  | .deferAsk => ["asks", r.askId, "defer"]
  | .cancelAsk => ["asks", r.askId, "cancel"]

theorem suffix_of_match {sessionId : String} {suffix : List String} {r : Route}
    (h : matchSuffix sessionId suffix = some r) : suffix = r.suffix ∧ r.sessionId = sessionId := by
  unfold matchSuffix at h
  split at h <;> cases h <;> exact ⟨rfl, rfl⟩

/-- **A route says which path it is from.** -/
theorem path_of_match {path : List String} {r : Route} (h : matchRoute path = some r) :
    path = "api" :: "v1" :: "sessions" :: r.sessionId :: r.suffix := by
  unfold matchRoute at h
  split at h
  · obtain ⟨hs, hr⟩ := suffix_of_match h
    rw [hs, hr]
  · cases h

/-! ### Requests and responses -/

inductive ResponseBody
  /-- The response of the gateway. -/
  | contract (response : PyValue)
  | error (requestId : Option String) (error : ApiError)
deriving DecidableEq

structure HttpApiResponse where
  statusCode : ℕ
  headers : List (String × String) := [("content-type", "application/json")]
  body : ResponseBody
deriving DecidableEq

def contractResponse (response : PyValue) : HttpApiResponse where
  statusCode := 200
  body := .contract response

def errorResponse (statusCode : ℕ) (error : ApiError) (requestId : Option String) :
    HttpApiResponse where
  statusCode := statusCode
  body := .error requestId error

def RouteName.toText : RouteName → String
  | .appendSessionInput => "append_session_input"
  | .generateTaskTree => "generate_task_tree"
  | .publishTaskTree => "publish_task_tree"
  | .archivePlan => "archive_plan"
  | .repairAuthoringState => "repair_authoring_state"
  | .answerAuthoringAskBatch => "answer_authoring_ask_batch"
  | .dispatchExecution => "dispatch_execution"
  | .updateTaskNode => "update_task_node"
  | .appendTaskInput => "append_task_input"
  | .retryTask => "retry_task"
  | .stopTask => "stop_task"
  | .resolveConfirmation => "resolve_confirmation"
  | .answerAsk => "answer_ask"
  | .deferAsk => "defer_ask"
  | .cancelAsk => "cancel_ask"

def conflictResponse (route : Route) (request : CommandRequest PyValue) (key : String) :
    HttpApiResponse :=
  errorResponse 409
    { code := "idempotency_conflict"
      message := "idempotencyKey was reused for a different command request"
      details := [("idempotency_key", .str key), ("route", .str route.name.toText)] }
    (some request.commandId)

/-- `x or None` -/
def orNone (s : String) : Option String := if s = "" then none else some s

/-- What a request is hashed from, with the keys of the payload sorted. -/
structure CommandContent where
  route : RouteName
  sessionId : String
  rawTaskId : Option String
  taskNodeId : Option String
  confirmationId : Option String
  askId : Option String
  expectedVersion : Option ℕ
  payload : PyValue
deriving DecidableEq

def commandContent (route : Route) (request : CommandRequest PyValue) : CommandContent where
  route := route.name
  sessionId := request.sessionId
  rawTaskId := orNone route.rawTaskId
  taskNodeId := orNone route.taskNodeId
  confirmationId := orNone route.confirmationId
  askId := orNone route.askId
  expectedVersion := request.expectedVersion
  payload := request.payload.sortedDoc

/-! ### The response to a command -/

/-- What `_command_response` uses: the digest, and the dispatch of a route, which
answers or raises. -/
structure CommandServer (I W : Type) where
  sha256 : CommandContent → String
  dispatch : Route → CommandRequest PyValue → I → W → Option PyValue × W

abbrev CommandKey := String × String

/-- The request hash and the response that are kept. -/
abbrev CommandRecord := String × HttpApiResponse

namespace CommandServer

variable {I W : Type} (server : CommandServer I W)

def commandRequestHash (route : Route) (request : CommandRequest PyValue) : String :=
  server.sha256 (commandContent route request)

/-- `store.put`; the first record of a key stays. -/
def put (store : Dict CommandKey CommandRecord) (key : CommandKey) (record : CommandRecord) :
    Dict CommandKey CommandRecord :=
  match store.get? key with
  | some _ => store
  | none => store.set key record

/-- `_command_response`; there is no response when the dispatch raises. -/
def commandResponse (store : Dict CommandKey CommandRecord) (world : W) (route : Route)
    (request : CommandRequest PyValue) (input : I) :
    Option HttpApiResponse × Dict CommandKey CommandRecord × W :=
  match request.idempotencyKey with
  | none =>
    match server.dispatch route request input world with
    | (none, world) => (none, store, world)
    | (some response, world) => (some (contractResponse response), store, world)
  | some key =>
    let requestHash := server.commandRequestHash route request
    match store.get? (request.sessionId, key) with
    | some (cachedHash, cached) =>
      if cachedHash ≠ requestHash then (some (conflictResponse route request key), store, world)
      else (some cached, store, world)
    | none =>
      match server.dispatch route request input world with
      | (none, world) => (none, store, world)
      | (some response, world) =>
        let response := contractResponse response
        (some response, put store (request.sessionId, key) (requestHash, response), world)

/-! ### Its steps -/

/-- A parsed request with a key, and its path. -/
structure KeyedCommand where
  path : List String
  route : Route
  request : CommandRequest PyValue
  key : String
  matched : matchRoute path = some route
  same_session : request.sessionId = route.sessionId
  has_key : request.idempotencyKey = some key

/-- The three steps of a request with a key. -/
def handler : Handler KeyedCommand CommandKey String I W HttpApiResponse where
  key q := (q.request.sessionId, q.key)
  hash q := server.commandRequestHash q.route q.request
  run q input world :=
    match server.dispatch q.route q.request input world with
    | (none, world) => .raised world
    | (some response, world) => .replied (contractResponse response) world
  swallows := true

def respond (q : KeyedCommand) : Answer HttpApiResponse → Option HttpApiResponse
  | .reply r => some r
  | .replay r => some r
  | .conflict => some (conflictResponse q.route q.request q.key)
  | .raised => none

/-! ### At most once -/

/-- The states of the server, with the requests on their way. -/
abbrev CommandState (W : Type) := Memo KeyedCommand CommandKey String W HttpApiResponse

abbrev CommandAction (I W : Type) := MemoAction KeyedCommand I W

/-- Two requests agree in their path, version and payload. -/
def KeyedCommand.Same (q q' : KeyedCommand) : Prop :=
  q.path = q'.path ∧ q.request.expectedVersion = q'.request.expectedVersion ∧
    q.request.payload.sortedDoc = q'.request.payload.sortedDoc

def KeyedCommand.content (q : KeyedCommand) : CommandContent := commandContent q.route q.request

theorem orNone_injective : Function.Injective orNone := by
  intro a b hab
  unfold orNone at hab
  split at hab <;> split at hab
  · next ha hb => rw [ha, hb]
  · cases hab
  · cases hab
  · exact Option.some.inj hab

theorem same_iff {q q' : KeyedCommand} :
    q.Same q' ↔ q.content = q'.content ∧ q.route.planId = q'.route.planId := by
  have hpath := path_of_match q.matched
  have hpath' := path_of_match q'.matched
  constructor
  · rintro ⟨hp, hv, hpay⟩
    have hroute : q.route = q'.route := by
      have := q.matched
      rw [hp, q'.matched] at this
      exact (Option.some.inj this).symm
    refine ⟨?_, by rw [hroute]⟩
    simp only [KeyedCommand.content, commandContent, hv, hpay, hroute, q.same_session,
      q'.same_session]
  · rintro ⟨hc, hplan⟩
    simp only [KeyedCommand.content, commandContent, CommandContent.mk.injEq] at hc
    obtain ⟨hname, hs, hraw, htask, hconf, hask, hv, hpay⟩ := hc
    have hroute : q.route = q'.route := by
      rw [q.same_session, q'.same_session] at hs
      cases hr : q.route
      cases hr' : q'.route
      simp only [hr, hr'] at hname hs hraw htask hconf hask hplan
      rw [hname, hs, orNone_injective hraw, orNone_injective htask, orNone_injective hconf,
        orNone_injective hask, hplan]
    exact ⟨by rw [hpath, hpath', hroute], hv, hpay⟩

/-- **A key is applied at most once**: it has at most one dispatch; a request that agrees
with the dispatched one gets its response, and another request under the key gets a
conflict and no dispatch. -/
structure AppliedOnce (s : CommandState W) : Prop where
  once : ∀ e ∈ s.effects, ∀ e' ∈ s.effects, server.handler.key e.request =
    server.handler.key e'.request → e = e'
  same : ∀ e ∈ s.effects, ∀ (n : ℕ) (q : KeyedCommand) (a : Answer HttpApiResponse),
    s.jobs[n]? = some ⟨q, .answered a⟩ → server.handler.key e.request = server.handler.key q →
    e.request.Same q → ∃ r, e.reply = some r ∧ respond q a = some r
  differs : ∀ e ∈ s.effects, ∀ (n : ℕ) (q : KeyedCommand) (a : Answer HttpApiResponse),
    s.jobs[n]? = some ⟨q, .answered a⟩ → server.handler.key e.request = server.handler.key q →
    ¬e.request.Same q → respond q a = some (conflictResponse q.route q.request q.key) ∧
      ∀ e' ∈ s.effects, e'.request ≠ q

/-- Nobody gets in the way, and a key is not used for two plans with nothing else to tell
the requests apart. -/
def Orderly (s : CommandState W) (a : CommandAction I W) : Prop :=
  server.handler.Quiet s a ∧ ∀ q, a = .submit q → ∀ q', Handler.Requested s q' →
    server.handler.key q' = server.handler.key q → q'.content = q.content →
      q'.route.planId = q.route.planId

/-- The contents that are hashed in a run. -/
def contents (actions : List (CommandAction I W)) : Set CommandContent :=
  {c | ∃ q, .submit q ∈ actions ∧ c = KeyedCommand.content q}

/-- **Commands are applied at most once per key in every orderly run**, whatever the
dispatches do. -/
theorem applied_once (actions : List (CommandAction I W))
    (hinj : Set.InjOn server.sha256 (contents actions)) {world : W} {s : CommandState W}
    (hrun : execAll server.handler.step { world := world } actions = some s)
    (horderly : Along server.handler.step server.Orderly { world := world } actions) :
    server.AppliedOnce s := by
  have hquiet : Along server.handler.step server.handler.Quiet { world := world } actions :=
    horderly.mono (fun _ _ ha => ha.1)
  have hi := Handler.inv_run hrun hquiet
  have hplan := Handler.requested_run
    (P := fun q q' => server.handler.key q = server.handler.key q' → q.content = q'.content →
      q.route.planId = q'.route.planId)
    (fun _ _ _ => rfl) (fun q q' h hkey hc => (h hkey.symm hc.symm).symm) hrun horderly
  -- two requests under a key are the same when their hashes are
  have hsame : ∀ e ∈ s.effects, ∀ (n : ℕ) (q : KeyedCommand) (stage : Stage HttpApiResponse),
      s.jobs[n]? = some ⟨q, stage⟩ → server.handler.key e.request = server.handler.key q →
      (server.handler.hash e.request = server.handler.hash q ↔ e.request.Same q) := by
    intro e he n q stage hj hkey
    have hr : Handler.Requested s e.request := .inr ⟨e, he, rfl⟩
    have hr' : Handler.Requested s q := .inl ⟨n, stage, hj⟩
    rw [same_iff]
    constructor
    · intro hhash
      have hc : e.request.content = q.content :=
        hinj ⟨_, Handler.requested_submitted hrun hquiet hr, rfl⟩
          ⟨_, Handler.requested_submitted hrun hquiet hr', rfl⟩ hhash
      exact ⟨hc, hplan _ _ hr hr' hkey hc⟩
    · rintro ⟨hc, _⟩
      exact congrArg server.sha256 hc
  -- a dispatch that raises may have done something
  have hnever : ∀ q input world, server.handler.run q input world ≠ .refused := by
    intro q input world hr
    simp only [handler] at hr
    split at hr <;> cases hr
  refine ⟨fun e he e' he' hkey => hi.effect_unique he he' hkey, ?_, ?_⟩
  · intro e he n q a hj hkey hs
    rcases hi.answer_of_effect he hj hkey with ⟨_, r, hr, rfl | rfl⟩ | ⟨hne, _⟩ | ⟨_, _, _, hr⟩
    · exact ⟨r, hr, rfl⟩
    · exact ⟨r, hr, rfl⟩
    · exact absurd ((hsame e he n q _ hj hkey).mpr hs) hne
    · exact absurd hr (hnever _ _ _)
  · intro e he n q a hj hkey hs
    rcases hi.answer_of_effect he hj hkey with ⟨hhash, _⟩ | ⟨_, rfl⟩ | ⟨_, _, _, hr⟩
    · exact absurd ((hsame e he n q _ hj hkey).mp hhash) hs
    · refine ⟨rfl, ?_⟩
      rintro e' he' rfl
      obtain rfl := hi.effect_unique he he' hkey
      exact hs ⟨rfl, rfl, rfl⟩
    · exact absurd hr (hnever _ _ _)

/-! ### Concrete requests -/

/-- A server that counts its dispatches and answers with the plan. -/
def sample : CommandServer Unit ℕ where
  sha256 c := c.route.toText
  dispatch route _ _ n := (some (.str route.planId), n + 1)

def KeyedCommand.sample (planId : String) : KeyedCommand where
  path := ["api", "v1", "sessions", "s", "plans", planId, "archive"]
  route := { name := .archivePlan, sessionId := "s", planId := planId }
  request :=
    { commandId := "c", sessionId := "s", idempotencyKey := some "k",
      payload := .dict [("reason", .none)] }
  key := "k"
  matched := rfl
  same_session := rfl
  has_key := rfl

/-- A request and the same one again, one after the other. -/
def resentActions : List (CommandAction Unit ℕ) :=
  [.submit (.sample "p"), .advance 0 (), .advance 0 (), .advance 0 (), .submit (.sample "p"),
   .advance 1 ()]

theorem injOn_sample {actions : List (CommandAction Unit ℕ)}
    (h : ∀ q, .submit q ∈ actions → ∃ planId, q = .sample planId) :
    Set.InjOn sample.sha256 (contents actions) := by
  rintro c ⟨q, hq, rfl⟩ c' ⟨q', hq', rfl⟩ _
  obtain ⟨p, rfl⟩ := h q hq
  obtain ⟨p', rfl⟩ := h q' hq'
  rfl

theorem quiet_advance {s : CommandState ℕ} {n : ℕ}
    (hstage : ∀ q, s.jobs[n]? ≠ some ⟨q, .lookup⟩) : sample.Orderly s (.advance n ()) := by
  refine ⟨fun q => ⟨fun h => absurd h (hstage q), fun _ => by simp [handler, sample]⟩, ?_⟩
  intro q hq
  cases hq

/-- The second request is answered from the record. -/
theorem applied_once_resent :
    ∃ s, execAll sample.handler.step { world := 0 } resentActions = some s ∧ s.world = 1 ∧
      sample.AppliedOnce s := by
  have hsub : ∀ (s : CommandState ℕ), (∀ q', Handler.Requested s q' → q' = .sample "p") →
      sample.Orderly s (.submit (.sample "p")) := by
    intro s hs
    refine ⟨trivial, ?_⟩
    intro q hq q' hr _ _
    cases hq
    rw [hs q' hr]
  have hlook : ∀ (s : CommandState ℕ) (n : ℕ), (∀ job ∈ s.jobs, ¬job.Open) →
      s.jobs[n]? = some ⟨.sample "p", .lookup⟩ → sample.Orderly s (.advance n ()) := by
    intro s n hs hj
    refine ⟨fun q => ⟨fun _ m job hm hop => absurd hop (hs job (List.mem_of_getElem? hm)), ?_⟩, ?_⟩
    · intro hrun
      rw [hj] at hrun
      cases hrun
    · intro q hq
      cases hq
  refine ⟨_, rfl, rfl, applied_once sample resentActions (injOn_sample ?_) rfl ?_⟩
  · intro q hq
    simp only [resentActions, List.mem_cons, MemoAction.submit.injEq, reduceCtorEq,
      List.not_mem_nil, or_false, false_or] at hq
    rcases hq with rfl | rfl
    · exact ⟨"p", rfl⟩
    · exact ⟨"p", rfl⟩
  · refine along_cons (hsub _ ?_) rfl (along_cons (hlook _ 0 ?_ rfl) rfl
      (along_cons (quiet_advance ?_) rfl (along_cons (quiet_advance ?_) rfl
        (along_cons (hsub _ ?_) rfl (along_cons (hlook _ 1 ?_ rfl) rfl trivial)))))
    · rintro q' (⟨n, stage, hm⟩ | ⟨e, he, _⟩)
      · cases hm
      · cases he
    · intro job hj
      rw [List.mem_singleton.mp hj]
      exact Handler.not_open_lookup
    · intro q hq
      cases hq
    · intro q hq
      cases hq
    · rintro q' (⟨n, stage, hm⟩ | ⟨e, he, rfl⟩)
      · exact congrArg Job.request (List.mem_singleton.mp (List.mem_of_getElem? hm))
      · rw [List.mem_singleton.mp he]
    · intro job hj
      rcases List.mem_pair.mp hj with rfl | rfl
      · rintro (hst | ⟨_, hst⟩) <;> cases hst
      · exact Handler.not_open_lookup

/-- The same request twice, each of them looked up before the other has run. -/
def racingActions : List (CommandAction Unit ℕ) :=
  [.submit (.sample "p"), .submit (.sample "p"), .advance 0 (), .advance 1 (), .advance 0 (),
   .advance 1 ()]

/-- Two plans are archived under one key. -/
def archivingActions : List (CommandAction Unit ℕ) :=
  [.submit (.sample "p"), .advance 0 (), .advance 0 (), .advance 0 (), .submit (.sample "q"),
   .advance 1 ()]

/-- Both requests are dispatched; and the archive of the second plan gets the response for
the first. -/
theorem applied_wrongly :
    (Set.InjOn sample.sha256 (contents racingActions) ∧
      ∃ s, execAll sample.handler.step { world := 0 } racingActions = some s ∧ s.world = 2 ∧
        ¬sample.AppliedOnce s) ∧
    (Set.InjOn sample.sha256 (contents archivingActions) ∧
      ∃ s, execAll sample.handler.step { world := 0 } archivingActions = some s ∧
        s.jobs[1]? = some ⟨.sample "q", .answered (.replay (contractResponse (.str "p")))⟩ ∧
        ¬sample.AppliedOnce s) := by
  refine ⟨⟨injOn_sample ?_, _, rfl, rfl, ?_⟩, ⟨injOn_sample ?_, _, rfl, rfl, ?_⟩⟩
  · intro q hq
    simp only [racingActions, List.mem_cons, MemoAction.submit.injEq, reduceCtorEq,
      List.not_mem_nil, or_false] at hq
    rcases hq with rfl | rfl
    · exact ⟨"p", rfl⟩
    · exact ⟨"p", rfl⟩
  · intro h
    have := h.once _ List.mem_cons_self _ (List.mem_cons_of_mem _ List.mem_cons_self) rfl
    exact absurd (congrArg Effect.job this) (by decide)
  · intro q hq
    simp only [archivingActions, List.mem_cons, MemoAction.submit.injEq, reduceCtorEq,
      List.not_mem_nil, or_false, false_or] at hq
    rcases hq with rfl | rfl
    · exact ⟨"p", rfl⟩
    · exact ⟨"q", rfl⟩
  · intro h
    have hne : ¬(KeyedCommand.sample "p").Same (.sample "q") := by
      rintro ⟨hpath, _⟩
      exact absurd hpath (by decide)
    obtain ⟨hres, _⟩ := h.differs _ List.mem_cons_self 1 _ _ rfl rfl hne
    exact absurd (congrArg (Option.map HttpApiResponse.statusCode) hres) (by decide)

end CommandServer

end Taskweavn

import Taskweavn.Task.PublisherReplay

/-!
# The publish service

`TaskPublishService.publish` puts an idempotency record around the publisher
(`taskweavn/task/publisher_service.py`).  A request with a key is looked up first:
a record with the same request hash is replayed, one with another hash is a
conflict.  Otherwise the request goes to the publisher, and its result is stored
under the key.  When another call was faster, the store raises a conflict, and the
service suppresses it.

The service takes no lock, so `TaskPublishService.step` runs any number of calls
side by side, a step at a time: the lookup, the preview, the check of the existing
tasks, one `publish` of the bus for each task, and the record.  Between the steps
anybody may use the bus.  `publish_alone` says that a call whose steps are not
interrupted is `TaskPublishService.publish`.

`publications` is a ghost field that remembers which call put which task on the
bus, for which node, and the record that its key had then.
-/

namespace Taskweavn

open Lib Py

/-! ### What a request is hashed from -/

namespace NormalizedTaskNode

mutual

/-- A node as it is written into the hashed text. -/
def content : NormalizedTaskNode → NormalizedTaskNode
  | ⟨i, p, t, x, s, y, a, c, r, children, m⟩ =>
    ⟨i, p, t, x, s, y, a, c, r, contents children,
      Dict.ofList (sortOn Prod.fst (PyValue.sortedItems m.entries))⟩

def contents : List NormalizedTaskNode → List NormalizedTaskNode
  | [] => []
  | n :: rest => content n :: contents rest

end

end NormalizedTaskNode

structure TreeContent where
  rootNodes : List NormalizedTaskNode
  source : PublisherRef
  sourceRef : Option String
  metadata : PyValue

/-- `request.model_dump(mode="json", exclude={"request_id"})`, with its keys
sorted. -/
structure RequestContent where
  sessionId : String
  publisher : PublisherRef
  sourceType : PublishSourceKind
  sourceId : Option String
  sourceMetadata : PyValue
  taskTree : Option TreeContent
  naturalLanguageInput : Option String
  options : TaskPublishOptions
  idempotencyKey : Option String

def NormalizedTaskTree.content (tree : NormalizedTaskTree) : TreeContent where
  rootNodes := NormalizedTaskNode.contents tree.rootNodes
  source := tree.source
  sourceRef := tree.sourceRef
  metadata := (PyValue.dict tree.metadata.entries).sortedDoc

def PublishRequest.content (request : PublishRequest) : RequestContent where
  sessionId := request.sessionId
  publisher := request.publisher
  sourceType := request.source.sourceType
  sourceId := request.source.sourceId
  sourceMetadata := (PyValue.dict request.source.metadata.entries).sortedDoc
  taskTree := request.taskTree.map NormalizedTaskTree.content
  naturalLanguageInput := request.naturalLanguageInput
  options := request.options
  idempotencyKey := request.idempotencyKey

/-! ### Records -/

abbrev RecordKey := String × PublisherKind × String

structure PublishIdempotencyRecord where
  sessionId : String
  publisherKind : PublisherKind
  idempotencyKey : String
  requestHash : String
  publishResult : PublishResult
deriving DecidableEq

def PublishIdempotencyRecord.key (r : PublishIdempotencyRecord) : RecordKey :=
  (r.sessionId, r.publisherKind, r.idempotencyKey)

/-- The idempotency key was already used with a different request. -/
inductive PublishIdempotencyConflict
  | conflict
deriving DecidableEq

structure InMemoryPublishIdempotencyStore where
  records : Dict RecordKey PublishIdempotencyRecord := Dict.empty

namespace InMemoryPublishIdempotencyStore

def get (store : InMemoryPublishIdempotencyStore) (sessionId : String)
    (publisherKind : PublisherKind) (idempotencyKey : String) : Option PublishIdempotencyRecord :=
  store.records.get? (sessionId, publisherKind, idempotencyKey)

def put (store : InMemoryPublishIdempotencyStore) (record : PublishIdempotencyRecord) :
    Except PublishIdempotencyConflict PublishIdempotencyRecord × InMemoryPublishIdempotencyStore :=
  match store.records.get? record.key with
  | none => (.ok record, { records := store.records.set record.key record })
  | some current =>
    if current.requestHash ≠ record.requestHash then (.error .conflict, store)
    else (.ok current, store)

end InMemoryPublishIdempotencyStore

def PublishRequest.recordKey (request : PublishRequest) : Option RecordKey :=
  request.idempotencyKey.map (fun key => (request.sessionId, request.publisher.kind, key))

/-! ### The service -/

/-- The collaborators of the service: the hashes, as functions of what they encode,
and the loader, which expands a request or raises. -/
structure TaskPublishService where
  uuid5 : Uuid5
  sha256 : RequestContent → String
  pipelineLoader : Option (PublishRequest → Option PublishRequest) := none

namespace TaskPublishService

variable (svc : TaskPublishService)

def expandPipelineOrNone (request : PublishRequest) : Option PublishRequest :=
  match svc.pipelineLoader with
  | none => some request
  | some expandForPublish => expandForPublish request

def requestHash (request : PublishRequest) : String := svc.sha256 request.content

def checkIdempotency (store : InMemoryPublishIdempotencyStore) (request : PublishRequest) :
    Option PublishResult :=
  match request.idempotencyKey with
  | none => none
  | some key =>
    match store.get request.sessionId request.publisher.kind key with
    | none => none
    | some record =>
      if record.requestHash ≠ svc.requestHash request then
        some (DefaultTaskPublisher.skippedResult request .conflict (Dict.ofList
          [("existing_request_hash", .str record.requestHash),
           ("request_hash", .str (svc.requestHash request))]))
      else some record.publishResult

/-- `_store_idempotency`; a conflict is suppressed. -/
def storeIdempotency (store : InMemoryPublishIdempotencyStore) (request : PublishRequest)
    (result : PublishResult) : InMemoryPublishIdempotencyStore :=
  match request.idempotencyKey with
  | none => store
  | some key =>
    if result.metadata.get? "skip_idempotency_record" = some (.bool true) then store
    else (store.put
      { sessionId := request.sessionId
        publisherKind := request.publisher.kind
        idempotencyKey := key
        requestHash := svc.requestHash request
        publishResult := result }).2

/-- The result for a request that does not pass the preview. -/
def rejectedResult (request : PublishRequest) : PublishResult :=
  DefaultTaskPublisher.skippedResult request (.preview (DefaultTaskPublisher.preview request))
    Dict.empty

/-- `publish`, when nobody else is there. -/
def publish {B : Type} [TaskBus B] (bus : B) (store : InMemoryPublishIdempotencyStore)
    (request : PublishRequest) (env : PublishEnv) :
    Except BusError PublishResult × B × InMemoryPublishIdempotencyStore :=
  match svc.expandPipelineOrNone request with
  | none => (.ok (DefaultTaskPublisher.skippedResult request .expansion Dict.empty), bus, store)
  | some request =>
    match svc.checkIdempotency store request with
    | some replay => (.ok replay, bus, store)
    | none =>
      if DefaultTaskPublisher.preview request ≠ [] then
        (.ok (rejectedResult request), bus,
          svc.storeIdempotency store request (rejectedResult request))
      else
        match DefaultTaskPublisher.publish svc.uuid5 bus request env with
        | (.error e, bus) => (.error e, bus, store)
        | (.ok result, bus) => (.ok result, bus, svc.storeIdempotency store request result)

end TaskPublishService

/-! ### Calls side by side -/

inductive CallPhase
  | lookup
  | preview
  | check
  /-- The tasks that are stored, and those to come with the ids of their nodes. -/
  | publish (tree : NormalizedTaskTree) (published : List TaskDomain)
      (rest : List (String × TaskDomain))
  | store (result : PublishResult)
  | returned (result : PublishResult)
  | raised (e : BusError)

/-- A call, with its request after the expansion. -/
structure PublishCall where
  request : PublishRequest
  env : PublishEnv
  phase : CallPhase

/-- A task that a call has put on the bus. -/
structure Publication where
  request : PublishRequest
  nodeId : String
  task : TaskDomain
  /-- The record that the key of the request had at that time. -/
  recorded : Option PublishIdempotencyRecord

/-- The node of a publication, when its request has a key. -/
def Publication.payload (p : Publication) : Option IdPayload :=
  p.request.idempotencyKey.map (fun key =>
    { sessionId := p.request.sessionId
      publisherKind := p.request.publisher.kind
      idempotencyKey := key
      sourceNodeId := p.nodeId })

structure ServiceState (B : Type) where
  bus : B
  store : InMemoryPublishIdempotencyStore := {}
  calls : List PublishCall := []
  publications : List Publication := []

inductive ServiceAction
  | start (request : PublishRequest) (env : PublishEnv)
  /-- The next step of a call. -/
  | advance (n : ℕ)
  /-- Somebody else uses the bus. -/
  | other (c : BusCall)

namespace TaskPublishService

variable (svc : TaskPublishService) {B : Type} [TaskBus B]

def begin (request : PublishRequest) (env : PublishEnv) : PublishCall :=
  match svc.expandPipelineOrNone request with
  | none =>
    { request := request, env := env
      phase := .returned (DefaultTaskPublisher.skippedResult request .expansion Dict.empty) }
  | some request => { request := request, env := env, phase := .lookup }

def recordOf (store : InMemoryPublishIdempotencyStore) (request : PublishRequest) :
    Option PublishIdempotencyRecord :=
  request.recordKey.bind store.records.get?

/-- The publisher up to its first task. -/
def checkStep (bus : B) (request : PublishRequest) (env : PublishEnv) : CallPhase :=
  if DefaultTaskPublisher.preview request ≠ [] then .store (rejectedResult request)
  else if request.options.dryRun then
    .store (DefaultTaskPublisher.skippedResult request .dryRun Dict.empty)
  else
    match request.taskTree with
    | none => .store (rejectedResult request)
    | some tree =>
      let (tasks, nodeTaskIds, rootTaskIds) :=
        DefaultTaskPublisher.wanted svc.uuid5 request tree env
      let existing :=
        if request.idempotencyKey.isSome then
          DefaultTaskPublisher.resultFromExistingIdempotentTasks bus request tasks nodeTaskIds
            rootTaskIds env
        else .ok none
      match existing with
      | .error e => .raised e
      | .ok (some result) => .store result
      | .ok none => .publish tree [] ((tree.iterNodes.map NormalizedTaskNode.nodeId).zip tasks)

def advance (s : ServiceState B) (request : PublishRequest) (env : PublishEnv) :
    CallPhase → Option (CallPhase × ServiceState B)
  | .lookup =>
    match svc.checkIdempotency s.store request with
    | some replay => some (.returned replay, s)
    | none => some (.preview, s)
  | .preview =>
    if DefaultTaskPublisher.preview request ≠ [] then some (.store (rejectedResult request), s)
    else some (.check, s)
  | .check => some (svc.checkStep s.bus request env, s)
  | .publish tree published [] =>
    let (_, nodeTaskIds, rootTaskIds) := DefaultTaskPublisher.wanted svc.uuid5 request tree env
    some (.store (DefaultTaskPublisher.publishedResult request published nodeTaskIds rootTaskIds
      env), s)
  | .publish tree published ((nodeId, task) :: rest) =>
    match TaskBus.publish s.bus task with
    | (.error e, bus) => some (.raised e, { s with bus := bus })
    | (.ok task, bus) =>
      some (.publish tree (published ++ [task]) rest,
        { s with
          bus := bus
          publications := s.publications ++
            [{ request := request, nodeId := nodeId, task := task
               recorded := recordOf s.store request }] })
  | .store result =>
    some (.returned result, { s with store := svc.storeIdempotency s.store request result })
  | .returned _ => none
  | .raised _ => none

def step (s : ServiceState B) : ServiceAction → Option (ServiceState B)
  | .start request env => some { s with calls := s.calls ++ [svc.begin request env] }
  | .advance n =>
    (s.calls[n]?).bind fun call =>
      (svc.advance s call.request call.env call.phase).map fun (phase, s') =>
        { s' with calls := s'.calls.set n { call with phase := phase } }
  | .other c => some { s with bus := (TaskBus.step s.bus c).2 }

/-! ### A call alone -/

variable {svc} {s s' t : ServiceState B} {n : ℕ} {call : PublishCall}

theorem advance_calls {request : PublishRequest} {env : PublishEnv} {phase phase' : CallPhase}
    (h : svc.advance s request env phase = some (phase', s')) : s'.calls = s.calls := by
  cases phase with
  | lookup =>
    simp only [advance] at h
    split at h <;> (cases h; rfl)
  | preview =>
    simp only [advance] at h
    split at h <;> (cases h; rfl)
  | check => cases h; rfl
  | publish tree published rest =>
    cases rest with
    | nil => cases h; rfl
    | cons x rest =>
      simp only [advance] at h
      split at h <;> (cases h; rfl)
  | store result => cases h; rfl
  | returned result => cases h
  | raised e => cases h

theorem step_advance {phase : CallPhase} (hc : s.calls[n]? = some call)
    (h : svc.advance s call.request call.env call.phase = some (phase, s')) :
    svc.step s (.advance n) =
      some { s' with calls := s.calls.set n { call with phase := phase } } := by
  rw [step, hc, Option.bind_some, h, Option.map_some]
  simp only [advance_calls h]

/-- The state after some steps of one call. -/
def Reaches (svc : TaskPublishService) (n : ℕ) (s s' : ServiceState B) : Prop :=
  ∃ k, execAll svc.step s (List.replicate k (.advance n)) = some s'

theorem Reaches.refl : Reaches svc n s s := ⟨0, rfl⟩

theorem Reaches.head (h : svc.step s (.advance n) = some t) (h' : Reaches svc n t s') :
    Reaches svc n s s' := by
  obtain ⟨k, hk⟩ := h'
  refine ⟨k + 1, ?_⟩
  rw [List.replicate_succ, execAll, h]
  exact hk

def finished : Except BusError PublishResult → CallPhase
  | .ok result => .returned result
  | .error e => .raised e

/-- The call can go on alone until it is over, with the given outcome. -/
def Ends (svc : TaskPublishService) (n : ℕ) (s : ServiceState B)
    (out : Except BusError PublishResult × B × InMemoryPublishIdempotencyStore) : Prop :=
  ∃ s', Reaches svc n s s' ∧ (s'.bus, s'.store) = out.2 ∧
    s'.calls[n]?.map PublishCall.phase = some (finished out.1)

theorem Ends.head {out : Except BusError PublishResult × B × InMemoryPublishIdempotencyStore}
    {phase : CallPhase} (hc : s.calls[n]? = some call)
    (h : svc.advance s call.request call.env call.phase = some (phase, s'))
    (hrest : Ends svc n { s' with calls := s.calls.set n { call with phase := phase } } out) :
    Ends svc n s out := by
  obtain ⟨t, ht, hout⟩ := hrest
  exact ⟨t, .head (step_advance hc h) ht, hout⟩

theorem ends_finished (out : Except BusError PublishResult) (hc : s.calls[n]? = some call)
    (h : call.phase = finished out) : Ends svc n s (out, s.bus, s.store) :=
  ⟨s, .refl, rfl, by rw [hc, Option.map_some, h]⟩

omit [TaskBus B] in
theorem get_set_phase {calls : List PublishCall} (hc : calls[n]? = some call) (phase : CallPhase) :
    (calls.set n { call with phase := phase })[n]? = some { call with phase := phase } := by
  have hlt : n < calls.length := (List.getElem?_eq_some_iff.mp hc).1
  rw [List.getElem?_set_self hlt]

theorem ends_store (hc : s.calls[n]? = some call) (result : PublishResult) :
    Ends svc n { s with calls := s.calls.set n { call with phase := .store result } }
      (.ok result, s.bus, svc.storeIdempotency s.store call.request result) := by
  have hset := get_set_phase hc (.store result)
  refine Ends.head hset rfl ?_
  exact ends_finished (.ok result) (get_set_phase hset _) rfl

theorem ends_publish {tree : NormalizedTaskTree} : ∀ (rest : List (String × TaskDomain))
    {published : List TaskDomain} {s : ServiceState B} {call : PublishCall},
    s.calls[n]? = some call → call.phase = .publish tree published rest →
    Ends svc n s
      (match DefaultTaskPublisher.publishAll s.bus (rest.map Prod.snd) with
        | (.error e, bus) => (.error e, bus, s.store)
        | (.ok out, bus) =>
          let result := DefaultTaskPublisher.publishedResult call.request (published ++ out)
            (DefaultTaskPublisher.wanted svc.uuid5 call.request tree call.env).2.1
            (DefaultTaskPublisher.wanted svc.uuid5 call.request tree call.env).2.2 call.env
          (.ok result, bus, svc.storeIdempotency s.store call.request result)) := by
  intro rest
  induction rest with
  | nil =>
    intro published s call hc h
    refine Ends.head hc (by rw [h]; rfl) ?_
    simp only [List.map_nil, DefaultTaskPublisher.publishAll, List.append_nil]
    exact ends_store hc _
  | cons x rest ih =>
    obtain ⟨nodeId, task⟩ := x
    intro published s call hc h
    rcases hp : TaskBus.publish s.bus task with ⟨_ | u, bus⟩
    · refine Ends.head hc (by simp only [h, advance, hp]; rfl) ?_
      simp only [List.map_cons, DefaultTaskPublisher.publishAll, hp]
      exact ends_finished (.error _) (get_set_phase hc _) rfl
    · refine Ends.head hc (by simp only [h, advance, hp]; rfl) ?_
      have hnext := ih (s := { s with
          bus := bus
          publications := s.publications ++
            [⟨call.request, nodeId, u, recordOf s.store call.request⟩]
          calls := s.calls.set n { call with phase := .publish tree (published ++ [u]) rest } })
        (get_set_phase hc _) rfl
      simp only [List.map_cons, DefaultTaskPublisher.publishAll, hp]
      rcases hrest : DefaultTaskPublisher.publishAll bus (rest.map Prod.snd) with ⟨_ | others, bus'⟩
      · simpa only [hrest] using hnext
      · simpa only [hrest, List.append_assoc, List.singleton_append] using hnext

theorem snd_zip_wanted {U : Uuid5} {request : PublishRequest} {env : PublishEnv}
    (tree : NormalizedTaskTree) :
    ((tree.iterNodes.map NormalizedTaskNode.nodeId).zip
      (DefaultTaskPublisher.wanted U request tree env).1).map Prod.snd =
      (DefaultTaskPublisher.wanted U request tree env).1 := by
  refine List.map_snd_zip ?_
  simp [DefaultTaskPublisher.wanted, PublishRequest.tasksForRequest]

theorem ends_check (hc : s.calls[n]? = some call)
    (hprev : ¬DefaultTaskPublisher.preview call.request ≠ []) :
    Ends svc n { s with calls := s.calls.set n { call with phase := .check } }
      (match DefaultTaskPublisher.publish svc.uuid5 s.bus call.request call.env with
        | (.error e, bus) => (.error e, bus, s.store)
        | (.ok result, bus) =>
          (.ok result, bus, svc.storeIdempotency s.store call.request result)) := by
  have hset := get_set_phase hc .check
  refine Ends.head hset rfl ?_
  simp only [checkStep, DefaultTaskPublisher.publish, if_neg hprev]
  by_cases hdry : call.request.options.dryRun = true
  · simp only [if_pos hdry]
    exact ends_store (s := { s with calls := _ }) hset _
  · simp only [if_neg hdry]
    cases htree : call.request.taskTree with
    | none => exact ends_store (s := { s with calls := _ }) hset _
    | some tree =>
      simp only
      generalize hex : (if call.request.idempotencyKey.isSome = true then
        DefaultTaskPublisher.resultFromExistingIdempotentTasks s.bus call.request
          (DefaultTaskPublisher.wanted svc.uuid5 call.request tree call.env).1
          (DefaultTaskPublisher.wanted svc.uuid5 call.request tree call.env).2.1
          (DefaultTaskPublisher.wanted svc.uuid5 call.request tree call.env).2.2 call.env
        else .ok none) = existing
      rcases existing with e | _ | result
      · exact ends_finished (s := { s with calls := _ }) (.error e) (get_set_phase hset _) rfl
      · simp only
        have hpub := get_set_phase hset (.publish tree []
          ((tree.iterNodes.map NormalizedTaskNode.nodeId).zip
            (DefaultTaskPublisher.wanted svc.uuid5 call.request tree call.env).1))
        have hends : Ends svc n _ _ := ends_publish _ (s := { s with calls := _ }) hpub rfl
        simp only [snd_zip_wanted, List.nil_append] at hends
        rcases hall : DefaultTaskPublisher.publishAll s.bus
          (DefaultTaskPublisher.wanted svc.uuid5 call.request tree call.env).1 with ⟨_ | out, bus⟩
        · simpa only [hall] using hends
        · simpa only [hall] using hends
      · exact ends_store (s := { s with calls := _ }) hset _

/-- **A call that is not interrupted is the sequential `publish`.** -/
theorem publish_alone (s : ServiceState B) (request : PublishRequest) (env : PublishEnv) :
    ∃ k s', execAll svc.step s
        (.start request env :: List.replicate k (.advance s.calls.length)) = some s' ∧
      (s'.bus, s'.store) = (svc.publish s.bus s.store request env).2 ∧
      s'.calls[s.calls.length]?.map PublishCall.phase =
        some (finished (svc.publish s.bus s.store request env).1) := by
  suffices h : Ends svc s.calls.length { s with calls := s.calls ++ [svc.begin request env] }
      (svc.publish s.bus s.store request env) by
    obtain ⟨s', ⟨k, hk⟩, hout⟩ := h
    exact ⟨k, s', hk, hout⟩
  have hc : (s.calls ++ [svc.begin request env])[s.calls.length]? = some (svc.begin request env) :=
    List.getElem?_concat_length
  generalize s.calls ++ [svc.begin request env] = calls at hc
  unfold publish
  cases hex : svc.expandPipelineOrNone request with
  | none =>
    refine ends_finished (.ok _) hc ?_
    simp only [begin, hex]
    rfl
  | some effective =>
    have hb : svc.begin request env = ⟨effective, env, .lookup⟩ := by simp only [begin, hex]
    rw [hb] at hc
    simp only
    cases hk : svc.checkIdempotency s.store effective with
    | some replay =>
      refine Ends.head hc (by simp only [advance, hk]; rfl) ?_
      exact ends_finished (.ok replay) (get_set_phase hc _) rfl
    | none =>
      refine Ends.head hc (by simp only [advance, hk]; rfl) ?_
      by_cases hprev : DefaultTaskPublisher.preview effective ≠ []
      · refine Ends.head (get_set_phase hc _) (by simp only [advance, if_pos hprev]; rfl) ?_
        simp only [if_pos hprev]
        exact ends_store (s := { s with calls := _ }) (get_set_phase hc .preview) _
      · refine Ends.head (get_set_phase hc _) (by simp only [advance, if_neg hprev]; rfl) ?_
        simp only [if_neg hprev]
        exact ends_check (s := { s with calls := _ }) (get_set_phase hc .preview) hprev

end TaskPublishService

end Taskweavn

import Taskweavn.Task.AuthoringService

/-!
# Submitting a batch again

Keys stand on a batch and on its commands, and `submit` looks at one of them: that of
the batch or, if it has none and there is one command, that of the command.  So the
keys of the commands of a larger batch are neither looked up nor recorded, and neither
is anything when the messages of a batch cannot be published.

`keys_at_most_once` says when keys do what they are for.  `createTwo_again` is a run in
which they do not: two `create` commands with keys, submitted as one batch without a
key, and submitted again.
-/

namespace Taskweavn

open Lib Py

/-- The batch has the key itself, or it has none and one command, which has the key. -/
def AuthoringCommandBatch.StandsUnder (batch : AuthoringCommandBatch) (key : String) : Prop :=
  batch.idempotencyKey = some key ∨
    (batch.idempotencyKey = none ∧ ∃ command, batch.commands = [command] ∧
      command.idempotencyKey = some key)

theorem idempotencyKey_of_standsUnder {batch : AuthoringCommandBatch} {key : String}
    (h : batch.StandsUnder key) : idempotencyKey batch = some key := by
  unfold idempotencyKey
  rcases h with h | ⟨h, command, hc, hkey⟩
  · rw [h]
  · rw [h, hc]
    exact hkey

namespace AuthoringStores

variable {W M R D : Type} (svc : AuthoringStores W M R D)

/-- **Nothing makes `submit` raise** for the batch in this world: what a snapshot or a handler
raises has a text, the rollback does not raise, and the messages can be published. -/
def Answerable (batch : AuthoringCommandBatch) (world : W × M) : Prop :=
  match svc.snapshot batch world.1 with
  | .error e => e.text ≠ ""
  | .ok snapshot =>
    match svc.applyAll batch.mode batch.commands { stores := world.1 } with
    | .raised _ _ => False
    | .failed _ p => (svc.restore snapshot p.stores).1.isOk = true
    | .finished p =>
      (svc.publishEffects batch (p.outputs.flatMap CommandOutput.messageEffects) []
        world.2).1.isOk = true

theorem isOk_perform_iff {batch : AuthoringCommandBatch} {world : W × M} :
    (svc.perform batch world).1.isOk = true ↔ svc.Answerable batch world := by
  unfold perform Answerable
  cases svc.snapshot batch world.1 with
  | error e =>
    dsimp only [errorOf]
    by_cases htext : e.text = "" <;> simp [htext, Except.map, Except.isOk, Except.toBool]
  | ok snapshot =>
    cases svc.applyAll batch.mode batch.commands { stores := world.1 } with
    | raised e p => exact iff_of_false Bool.false_ne_true id
    | failed error p =>
      dsimp only
      rcases svc.restore snapshot p.stores with ⟨e | _, w⟩ <;> rfl
    | finished p =>
      dsimp only
      rcases svc.publishEffects batch (p.outputs.flatMap CommandOutput.messageEffects) []
        world.2 with ⟨e | emitted, m⟩ <;> rfl

/-- What has to hold of a submission and of the earlier ones that share a key with it: the
idempotency store is there, the commands' keys differ, nothing made `submit` raise for the first
of the earlier batches, and the two batches stand under the same key. -/
structure Told (s : ServiceState W M) (sub : Submission) : Prop where
  available : sub.Available
  commands : (commandKeys sub.batch sub.batch.commands).Nodup
  answerable : ∀ pre t post, s.history = pre ++ t :: post →
    svc.keyed.Shares t.request sub.batch → (∀ u ∈ pre, ¬svc.keyed.Shares u.request sub.batch) →
    svc.Answerable t.request t.before
  sameKey : ∀ t ∈ s.history, svc.keyed.Shares t.request sub.batch →
    ∃ key, t.request.StandsUnder key ∧ sub.batch.StandsUnder key

theorem Told.keyed {s : ServiceState W M} {sub : Submission} (h : svc.Told s sub) :
    svc.keyed.Told s sub.batch := by
  refine ⟨h.commands, fun t ht hshare => ?_, fun pre t post hsplit hshare hfirst =>
    svc.isOk_perform_iff.mpr (h.answerable pre t post hsplit hshare hfirst)⟩
  obtain ⟨key, hkey, hkey'⟩ := h.sameKey t ht hshare
  obtain ⟨k, hk, hk'⟩ := hshare
  have hsession : ∀ {batch : AuthoringCommandBatch}, k ∈ batchKeys batch →
    batch.sessionId = k.1 := by
    intro batch hk
    rcases List.mem_append.mp hk with hk | hk <;>
      obtain ⟨_, -, rfl⟩ := List.mem_map.mp hk <;> rfl
  refine ⟨(k.1, key), ?_, ?_⟩
  · show (idempotencyKey t.request).map _ = _
    rw [idempotencyKey_of_standsUnder hkey, ← hsession hk]
    rfl
  · show (idempotencyKey sub.batch).map _ = _
    rw [idempotencyKey_of_standsUnder hkey', ← hsession hk']
    rfl

theorem submit_run : ∀ (subs : List Submission) (s : ServiceState W M),
    Throughout svc.submit svc.Told s subs →
      Throughout svc.keyed.serve svc.keyed.Told s (subs.map Submission.batch) ∧
        final svc.submit s subs = final svc.keyed.serve s (subs.map Submission.batch) := by
  intro subs
  induction subs with
  | nil => intro s _; exact ⟨trivial, rfl⟩
  | cons sub subs ih =>
    intro s h
    obtain ⟨htold, hrest⟩ := h
    have hstep := svc.submit_eq_serve (s := s) htold.available
    obtain ⟨hthrough, hfinal⟩ := ih _ hrest
    rw [hstep] at hthrough hfinal
    refine ⟨⟨htold.keyed, hthrough⟩, ?_⟩
    rw [final_cons, List.map_cons, final_cons, hstep, hfinal]

/-- **A key is carried out at most once, and comes back with the first result.** -/
theorem keys_at_most_once (w : W) (m : M) (subs : List Submission)
    (h : Throughout svc.submit svc.Told { world := (w, m) } subs) :
    svc.keyed.AtMostOnce (final svc.submit { world := (w, m) } subs).history := by
  obtain ⟨hthrough, hfinal⟩ := svc.submit_run subs _ h
  rw [hfinal]
  exact Keyed.atMostOnce_final (w, m) (subs.map Submission.batch) hthrough

end AuthoringStores

/-! ### Raw tasks that are created

A service whose only store is the raw store, as far as commands with one `create` go. -/

/-- A raw task as `create` leaves it, without asks, answers or a feasibility report. -/
structure NewRawTask where
  rawTaskId : String
  sessionId : String
  sourceMessageId : String
  userInput : String
  createdBy : String
  intentSummary : Option String
  constraints : List String
  assumptions : List String
deriving DecidableEq

structure NewRawTasks where
  rawTasks : Dict (String × String) NewRawTask := Dict.empty
  /-- How many ids were drawn. -/
  drawn : ℕ := 0

def requireStr (payload : Dict String PyValue) (key : String) :
    Except AuthoringException String :=
  match payload.get? key with
  | none => .error ⟨.valueError, key ++ " is required"⟩
  | some .none => .error ⟨.valueError, key ++ " is required"⟩
  | some (.str s) =>
    if isBlank s then .error ⟨.valueError, key ++ " must not be blank"⟩ else .ok s
  | some _ => .error ⟨.typeError, key ++ " must be a string"⟩

/-- `payload.get(key) or other`, which the raw task checks. -/
def payloadOr (payload : Dict String PyValue) (key : String) (other : String) :
    Except AuthoringException String :=
  match payload.get? key with
  | none => .ok other
  | some (.str s) => .ok (if s = "" then other else s)
  | some v =>
    if v.truthy then .error ⟨.validationError, "Input should be a valid string"⟩ else .ok other

/-- `payload.get("intent_summary")`, which the raw task checks. -/
def intentSummaryOf (payload : Dict String PyValue) :
    Except AuthoringException (Option String) :=
  match payload.get? "intent_summary" with
  | none => .ok none
  | some .none => .ok none
  | some (.str s) => if s = "" then .error emptyMessage else .ok (some s)
  | some _ => .error ⟨.validationError, "Input should be a valid string"⟩

/-- `str(value)` for the values of `values` that are not blank; `strOf` is `str` on
values that are no texts. -/
def textsOf (strOf : PyValue → String) (values : List PyValue) : List String :=
  (values.map fun v =>
    match v with
    | .str s => s
    | v => strOf v).filter fun s => !isBlank s

def tuplePayload (strOf : PyValue → String) (payload : Dict String PyValue) (key : String) :
    Except AuthoringException (List String) :=
  match payload.get? key with
  | none => .ok []
  | some .none => .ok []
  | some (.str s) => .ok [s]
  | some (.list values) => .ok (textsOf strOf values)
  | some (.tuple values) => .ok (textsOf strOf values)
  | some (.dict items) => .ok (textsOf strOf (items.map fun item => .str item.1))
  | some _ => .error ⟨.typeError, key ++ " must be a string or iterable of strings"⟩

def rawTaskFromPayload (strOf : PyValue → String) (command : MutateRawTaskCommand)
    (payload : Dict String PyValue) (newId : String) :
    Except AuthoringException NewRawTask := do
  let rawTaskId ← payloadOr payload "raw_task_id" (command.rawTaskId.getD newId)
  let sourceMessageId ← requireStr payload "source_message_id"
  let userInput ← requireStr payload "user_input"
  let createdBy ← payloadOr payload "created_by" command.actor.actorId
  let constraints ← tuplePayload strOf payload "constraints"
  let assumptions ← tuplePayload strOf payload "assumptions"
  let intentSummary ← intentSummaryOf payload
  return {
    rawTaskId, sessionId := command.sessionId, sourceMessageId, userInput, createdBy,
    intentSummary, constraints, assumptions }

/-- `InMemoryRawTaskStore.create` -/
def NewRawTasks.create (w : NewRawTasks) (rawTask : NewRawTask) :
    Except AuthoringException Unit × NewRawTasks :=
  match w.rawTasks.get? (rawTask.sessionId, rawTask.rawTaskId) with
  | some _ =>
    (.error ⟨.taskStoreError, "RawTask '" ++ rawTask.rawTaskId ++ "' already exists"⟩, w)
  | none =>
    (.ok (), { w with rawTasks := w.rawTasks.set (rawTask.sessionId, rawTask.rawTaskId) rawTask })

/-- `_mutate_raw_task` for one `create`. -/
def createRawTask (strOf : PyValue → String) (ids : ℕ → String) (command : MutateRawTaskCommand)
    (w : NewRawTasks) : Except AuthoringException CommandOutput × NewRawTasks :=
  match command.operations with
  | [⟨.create, payload⟩] =>
    match rawTaskFromPayload strOf command payload (ids w.drawn) with
    | .error e => (.error e, { w with drawn := w.drawn + 1 })
    | .ok rawTask =>
      match ({ w with drawn := w.drawn + 1 }).create rawTask with
      | (.error e, w) => (.error e, w)
      | (.ok _, w) => (.ok { commandId := command.commandId }, w)
  | _ => (.error ⟨.notImplementedError, "only create"⟩, w)

/-- The service over it, without a message bus. -/
def newRawTaskStores (strOf : PyValue → String) (ids : ℕ → String) :
    AuthoringStores NewRawTasks Unit (Dict (String × String) NewRawTask) Unit where
  mutateRawTask := createRawTask strOf ids
  mutateDraftTree _ w := (.error ⟨.notImplementedError, "only raw tasks"⟩, w)
  publishDraftTree _ w := (.error ⟨.valueError, "task publisher is not configured"⟩, w)
  rawSnapshot := some fun w => .ok w.rawTasks
  rawRestore := some fun rawTasks w => (.ok (), { w with rawTasks := rawTasks.getD Dict.empty })
  draftSnapshot := some fun _ => .ok ()
  draftRestore := some fun _ w => (.ok (), w)
  messageBus := none
  requestHash batch := batch.batchId

/-- A user who wants something. -/
def user : ActorRef := ⟨"user-1", .user, none⟩

def createPayload (text : String) : Dict String PyValue :=
  Dict.ofList [("source_message_id", .str "m1"), ("user_input", .str text)]

theorem create_target (text : String) : (none : Option String) = none →
    ∃ operation ∈ [(⟨.create, createPayload text⟩ : RawTaskOperation)], operation.op = .create :=
  fun _ => ⟨_, List.mem_singleton.mpr rfl, rfl⟩

def createCommand (key text : String) : AuthoringCommand :=
  .mutateRawTask
    { commandId := key
      sessionId := "s1"
      actor := user
      idempotencyKey := some key
      operations := [⟨.create, createPayload text⟩]
      target := create_target text }

theorem createTwo_session : ∀ c ∈ [createCommand "k1" "plan a trip", createCommand "k2" "book it"],
    c.sessionId = "s1" := by
  simp [createCommand, AuthoringCommand.sessionId]

theorem createTwo_mode : ∀ c ∈ [createCommand "k1" "plan a trip", createCommand "k2" "book it"],
    c.isPublish = false := by
  simp [createCommand, AuthoringCommand.isPublish]

theorem createTwo_actor : ∀ c ∈ [createCommand "k1" "plan a trip", createCommand "k2" "book it"],
    c.actor = user := by
  simp [createCommand, AuthoringCommand.actor]

def createTwo (batchKey : Option String) : AuthoringCommandBatch where
  batchId := "b1"
  sessionId := "s1"
  actor := user
  idempotencyKey := batchKey
  commands := [createCommand "k1" "plan a trip", createCommand "k2" "book it"]
  commands_ne_nil := List.cons_ne_nil _ _
  same_session := createTwo_session
  same_actor := createTwo_actor
  publish_mode := fun _ => createTwo_mode

def rawTaskIds (n : ℕ) : String := String.ofList (List.replicate (n + 1) 'r')

/-- A service with nothing in it yet. -/
def rawTaskService :
    AuthoringStores NewRawTasks Unit (Dict (String × String) NewRawTask) Unit :=
  newRawTaskStores (fun _ => "") rawTaskIds

namespace AuthoringStores

/-- With a key of its own the batch can be submitted again. -/
theorem keys_at_most_once_keyed :
    rawTaskService.keyed.AtMostOnce
      (final rawTaskService.submit { world := ({}, ()) }
        [⟨createTwo (some "b"), none, false⟩, ⟨createTwo (some "b"), none, false⟩]).history :=
  keys_at_most_once rawTaskService {} () _ <| by
    refine ⟨⟨⟨rfl, rfl⟩, by decide, ?_, ?_⟩, ⟨⟨rfl, rfl⟩, by decide, ?_, ?_⟩, trivial⟩
    · exact fun pre t post hsplit => absurd hsplit.symm (by simp)
    · exact fun t ht => absurd ht List.not_mem_nil
    · intro pre t post hsplit _ _
      have hmem : t ∈ (rawTaskService.submit { world := ({}, ()) }
          ⟨createTwo (some "b"), none, false⟩).2.history := by rw [hsplit]; simp
      obtain rfl := List.mem_singleton.mp hmem
      exact rawTaskService.isOk_perform_iff.mp (by decide)
    · intro t ht _
      obtain rfl := List.mem_singleton.mp ht
      exact ⟨"b", .inl rfl, .inl rfl⟩

/-- **Submitted again without a key of its own, it creates the raw tasks again.** -/
theorem createTwo_again :
    ¬rawTaskService.keyed.AtMostOnce
      (final rawTaskService.submit { world := ({}, ()) }
        [⟨createTwo none, none, false⟩, ⟨createTwo none, none, false⟩]).history ∧
    (final rawTaskService.submit { world := ({}, ()) }
        [⟨createTwo none, none, false⟩, ⟨createTwo none, none, false⟩]).world.1.rawTasks.keys =
      [("s1", "r"), ("s1", "rr"), ("s1", "rrr"), ("s1", "rrrr")] := by
  refine ⟨fun h => absurd h.once (by decide), by decide⟩

end AuthoringStores

end Taskweavn

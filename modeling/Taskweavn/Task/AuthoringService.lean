import Taskweavn.Lib.Keyed
import Taskweavn.Task.PlanStore

/-!
# The authoring command service

A batch has one or more commands: to create or change a raw task, to create or change
a draft task tree, or to publish one.  `submit` looks the batch up under its
idempotency key, applies the commands in order, publishes the messages they ask for and
records the result.  In the mode `all_or_nothing` the first command that raises takes the
raw and the draft store back to where they were; in the mode `best_effort` its error is
collected and the next command is tried.

The handlers of the three kinds of commands, the two stores' snapshots and the message
bus are fields of `AuthoringStores`: what is said here holds for any of them.
-/

namespace Taskweavn

open Lib Py

/-! ### Commands -/

inductive ActorKind
  | user
  | collaborator
  | agent
  | system
  | api
deriving DecidableEq, Repr

/-- The actor that submitted a command. -/
structure ActorRef where
  actorId : String
  kind : ActorKind
  displayName : Option String := none
deriving DecidableEq

inductive RawTaskOperationKind
  | create
  | setIntentSummary
  | recordFeasibility
  | addClarificationAsk
  | applyAnswer
  | updateConstraints
  | updateAssumptions
  | setStatus
deriving DecidableEq, Repr

inductive DraftTaskTreeOperationKind
  | createTree
  | patchNode
  | addNode
  | removeNode
  | reorderSiblings
  | attachOptions
  | markReady
  | markAccepted
deriving DecidableEq, Repr

structure RawTaskOperation where
  op : RawTaskOperationKind
  payload : Dict String PyValue := Dict.empty

structure DraftTaskTreeOperation where
  op : DraftTaskTreeOperationKind
  payload : Dict String PyValue := Dict.empty

structure PublishOptions where
  rootDraftTaskIds : List String := []
  startImmediately : Bool := true
  metadata : Dict String PyValue := Dict.empty

structure MutateRawTaskCommand where
  commandId : String
  sessionId : String
  rawTaskId : Option String := none
  actor : ActorRef
  causationMessageId : Option String := none
  expectedVersion : Option ℕ := none
  idempotencyKey : Option String := none
  operations : List RawTaskOperation
  /-- `_validate_target` -/
  target : rawTaskId = none → ∃ operation ∈ operations, operation.op = .create

structure MutateDraftTaskTreeCommand where
  commandId : String
  sessionId : String
  draftTreeId : Option String := none
  rawTaskId : Option String := none
  actor : ActorRef
  causationMessageId : Option String := none
  expectedVersion : Option ℕ := none
  idempotencyKey : Option String := none
  operations : List DraftTaskTreeOperation
  /-- `_validate_target` -/
  target : draftTreeId = none → ∃ operation ∈ operations, operation.op = .createTree

structure PublishDraftTaskTreeCommand where
  commandId : String
  sessionId : String
  draftTreeId : String
  actor : ActorRef
  expectedVersion : Option ℕ := none
  idempotencyKey : String
  publishOptions : PublishOptions := {}

inductive AuthoringCommand
  | mutateRawTask (command : MutateRawTaskCommand)
  | mutateDraftTaskTree (command : MutateDraftTaskTreeCommand)
  | publishDraftTaskTree (command : PublishDraftTaskTreeCommand)

namespace AuthoringCommand

def commandId : AuthoringCommand → String
  | mutateRawTask c => c.commandId
  | mutateDraftTaskTree c => c.commandId
  | publishDraftTaskTree c => c.commandId

def sessionId : AuthoringCommand → String
  | mutateRawTask c => c.sessionId
  | mutateDraftTaskTree c => c.sessionId
  | publishDraftTaskTree c => c.sessionId

def actor : AuthoringCommand → ActorRef
  | mutateRawTask c => c.actor
  | mutateDraftTaskTree c => c.actor
  | publishDraftTaskTree c => c.actor

/-- `getattr(command, "idempotency_key", None)` -/
def idempotencyKey : AuthoringCommand → Option String
  | mutateRawTask c => c.idempotencyKey
  | mutateDraftTaskTree c => c.idempotencyKey
  | publishDraftTaskTree c => some c.idempotencyKey

def isPublish : AuthoringCommand → Bool
  | publishDraftTaskTree _ => true
  | _ => false

end AuthoringCommand

inductive AuthoringCommandMode
  | allOrNothing
  | bestEffort
deriving DecidableEq, Repr

/-- Commands submitted together; the last four fields are `_validate_batch`. -/
structure AuthoringCommandBatch where
  batchId : String
  sessionId : String
  actor : ActorRef
  causationMessageId : Option String := none
  idempotencyKey : Option String := none
  mode : AuthoringCommandMode := .allOrNothing
  commands : List AuthoringCommand
  commands_ne_nil : commands ≠ []
  same_session : ∀ c ∈ commands, c.sessionId = sessionId
  same_actor : ∀ c ∈ commands, c.actor = actor
  publish_mode : mode = .bestEffort → ∀ c ∈ commands, c.isPublish = false

/-! ### Results -/

inductive AuthoringMessageEffectType
  | informational
  | actionable
deriving DecidableEq, Repr

/-- A message that a command asks for. -/
structure AuthoringMessageEffect where
  messageType : AuthoringMessageEffectType
  content : String
  taskId : Option String := none
  context : Dict String PyValue := Dict.empty
  actionOptions : List String := []
  requiresResponse : Bool := false

structure AuthoringCommandError where
  code : String
  message : String
  commandId : Option String := none
  path : List String := []
deriving DecidableEq

structure AuthoringCommandWarning where
  code : String
  message : String
  commandId : Option String := none
  path : List String := []
deriving DecidableEq

structure AuthoringCommandResult where
  ok : Bool
  batchId : Option String
  appliedCommandIds : List String := []
  objectRefs : List TaskRef := []
  messageEffects : List AuthoringMessageEffect := []
  emittedMessageIds : List String := []
  errors : List AuthoringCommandError := []
  warnings : List AuthoringCommandWarning := []
  /-- `_validate_result` -/
  ok_eq : ok = errors.isEmpty

structure CommandOutput where
  commandId : String
  objectRefs : List TaskRef := []
  messageEffects : List AuthoringMessageEffect := []
  warnings : List AuthoringCommandWarning := []

/-- The classes of exceptions that `_command_error` tells apart. -/
inductive ExceptionClass
  | lookupError
  | validationError
  | valueError
  | typeError
  | notImplementedError
  | taskStoreError
  | other
deriving DecidableEq, Repr

structure AuthoringException where
  cls : ExceptionClass
  text : String
deriving DecidableEq

/-- An error model does not take an empty message. -/
def emptyMessage : AuthoringException :=
  ⟨.validationError, "String should have at least 1 character"⟩

def ExceptionClass.code : ExceptionClass → String
  | lookupError => "not_found"
  | validationError => "invalid_command"
  | valueError => "invalid_command"
  | typeError => "invalid_command"
  | notImplementedError => "not_implemented"
  | taskStoreError => "store_error"
  | other => "authoring_error"

/-- `AuthoringCommandError(code=..., message=str(exc), ...)` -/
def errorOf (code : String) (e : AuthoringException) (commandId : Option String) :
    Except AuthoringException AuthoringCommandError :=
  if e.text = "" then .error emptyMessage
  else .ok { code := code, message := e.text, commandId := commandId }

def commandError (command : AuthoringCommand) (e : AuthoringException) :
    Except AuthoringException AuthoringCommandError :=
  errorOf e.cls.code e (some command.commandId)

def rejectedBatch (batch : AuthoringCommandBatch) (error : AuthoringCommandError) :
    AuthoringCommandResult where
  ok := false
  batchId := some batch.batchId
  errors := [error]
  ok_eq := rfl

/-! ### The service -/

/-- What the service is built on.  `W` holds everything the handlers write: the raw
and the draft store, the plans, what is active in a session, and the task bus.  `M` is
the message bus, `R` and `D` are the snapshots of the raw and the draft store. -/
structure AuthoringStores (W M R D : Type) where
  /-- `_mutate_raw_task` -/
  mutateRawTask : MutateRawTaskCommand → W → Except AuthoringException CommandOutput × W
  /-- `_mutate_draft_tree` -/
  mutateDraftTree :
    MutateDraftTaskTreeCommand → W → Except AuthoringException CommandOutput × W
  /-- `_publish_draft_tree` -/
  publishDraftTree :
    PublishDraftTaskTreeCommand → W → Except AuthoringException CommandOutput × W
  /-- `_snapshot` and `_restore` of the two stores, which a store need not have. -/
  rawSnapshot : Option (W → Except AuthoringException R)
  rawRestore : Option (Option R → W → Except AuthoringException Unit × W)
  draftSnapshot : Option (W → Except AuthoringException D)
  draftRestore : Option (Option D → W → Except AuthoringException Unit × W)
  /-- Publish one message of a batch; the answer is its id. -/
  messageBus : Option (AuthoringCommandBatch → AuthoringMessageEffect → M →
    Except AuthoringException String × M)
  /-- `_request_hash` -/
  requestHash : AuthoringCommandBatch → String

/-- The record of a result; its creation time is read by nobody. -/
structure AuthoringCommandIdempotencyRecord where
  sessionId : String
  idempotencyKey : String
  requestHash : String
  result : AuthoringCommandResult

def idempotencyKey (batch : AuthoringCommandBatch) : Option String :=
  match batch.idempotencyKey with
  | some key => some key
  | none =>
    match batch.commands with
    | [command] => command.idempotencyKey
    | _ => none

def callSnapshot {W S : Type} (snapshot : Option (W → Except AuthoringException S)) (w : W) :
    Except AuthoringException (Option S) :=
  match snapshot with
  | none => .ok none
  | some take => (take w).map some

def callRestore {W S : Type}
    (restore : Option (Option S → W → Except AuthoringException Unit × W))
    (snapshot : Option S) (w : W) : Except AuthoringException Unit × W :=
  match restore with
  | none => (.ok (), w)
  | some put => put snapshot w

/-- How far the commands of a batch have come. -/
structure Progress (W : Type) where
  stores : W
  outputs : List CommandOutput := []
  errors : List AuthoringCommandError := []
  /-- The commands whose handler was called. -/
  ran : List AuthoringCommand := []

/-- How the loop over the commands ends. -/
inductive CommandsEnd (W : Type)
  | finished (p : Progress W)
  /-- The first error of a batch that has to be applied as a whole. -/
  | failed (error : AuthoringCommandError) (p : Progress W)
  | raised (e : AuthoringException) (p : Progress W)

def CommandsEnd.progress {W : Type} : CommandsEnd W → Progress W
  | finished p => p
  | failed _ p => p
  | raised _ p => p

namespace AuthoringStores

variable {W M R D : Type} (svc : AuthoringStores W M R D)

def applyCommand (command : AuthoringCommand) (w : W) :
    Except AuthoringException CommandOutput × W :=
  match command with
  | .mutateRawTask c => svc.mutateRawTask c w
  | .mutateDraftTaskTree c => svc.mutateDraftTree c w
  | .publishDraftTaskTree c => svc.publishDraftTree c w

def snapshot (batch : AuthoringCommandBatch) (w : W) :
    Except AuthoringException (Option (Option R × Option D)) :=
  match batch.mode with
  | .bestEffort => .ok none
  | .allOrNothing => do
    let raw ← callSnapshot svc.rawSnapshot w
    let draft ← callSnapshot svc.draftSnapshot w
    if (raw.isNone || draft.isNone) && decide (1 < batch.commands.length) then
      .error ⟨.taskStoreError,
        "all_or_nothing multi-command batches require snapshot-capable stores"⟩
    else .ok (some (raw, draft))

def restore (snapshot : Option (Option R × Option D)) (w : W) :
    Except AuthoringException Unit × W :=
  match snapshot with
  | none => (.ok (), w)
  | some (raw, draft) =>
    match callRestore svc.rawRestore raw w with
    | (.error e, w) => (.error e, w)
    | (.ok _, w) => callRestore svc.draftRestore draft w

/-- The loop over the commands. -/
def applyAll (mode : AuthoringCommandMode) : List AuthoringCommand → Progress W → CommandsEnd W
  | [], p => .finished p
  | command :: commands, p =>
    match svc.applyCommand command p.stores with
    | (.ok output, w) =>
      applyAll mode commands
        { p with stores := w, outputs := p.outputs ++ [output], ran := p.ran ++ [command] }
    | (.error e, w) =>
      match commandError command e with
      | .error e' => .raised e' { p with stores := w, ran := p.ran ++ [command] }
      | .ok error =>
        match mode with
        | .allOrNothing => .failed error { p with stores := w, ran := p.ran ++ [command] }
        | .bestEffort =>
          applyAll mode commands
            { p with stores := w, errors := p.errors ++ [error], ran := p.ran ++ [command] }

/-- `_publish_effects`, with the ids of the messages that are out already. -/
def publishEffects (batch : AuthoringCommandBatch) :
    List AuthoringMessageEffect → List String → M → Except AuthoringException (List String) × M
  | [], emitted, m => (.ok emitted, m)
  | effect :: effects, emitted, m =>
    match svc.messageBus with
    | none => (.ok [], m)
    | some publish =>
      match publish batch effect m with
      | (.error e, m) => (.error e, m)
      | (.ok messageId, m) => publishEffects batch effects (emitted ++ [messageId]) m

/-- The result of a batch whose commands have all been tried. -/
def completedResult (batch : AuthoringCommandBatch) (p : Progress W) (emitted : List String) :
    AuthoringCommandResult where
  ok := p.errors.isEmpty
  batchId := some batch.batchId
  appliedCommandIds := p.outputs.map CommandOutput.commandId
  objectRefs := p.outputs.flatMap CommandOutput.objectRefs
  messageEffects := p.outputs.flatMap CommandOutput.messageEffects
  emittedMessageIds := emitted
  errors := p.errors
  warnings := p.outputs.flatMap CommandOutput.warnings
  ok_eq := rfl

/-- What a batch without a record goes through, up to the recording of its result, and
the commands whose handler was called. -/
def perform (batch : AuthoringCommandBatch) (world : W × M) :
    Except AuthoringException AuthoringCommandResult × (W × M) × List AuthoringCommand :=
  match svc.snapshot batch world.1 with
  | .error e =>
    ((errorOf "transaction_unavailable" e none).map (rejectedBatch batch), world, [])
  | .ok snapshot =>
    match svc.applyAll batch.mode batch.commands { stores := world.1 } with
    | .raised e p => (.error e, (p.stores, world.2), p.ran)
    | .failed error p =>
      match svc.restore snapshot p.stores with
      | (.error e, w) => (.error e, (w, world.2), p.ran)
      | (.ok _, w) => (.ok (rejectedBatch batch error), (w, world.2), p.ran)
    | .finished p =>
      match svc.publishEffects batch (p.outputs.flatMap CommandOutput.messageEffects) []
          world.2 with
      | (.error e, m) => (.error e, (p.stores, m), p.ran)
      | (.ok emitted, m) => (.ok (completedResult batch p emitted), (p.stores, m), p.ran)

/-! ### Submissions -/

/-- The keys of some commands of a batch, each with the session it belongs to. -/
def commandKeys (batch : AuthoringCommandBatch) (commands : List AuthoringCommand) :
    List (String × String) :=
  (commands.filterMap AuthoringCommand.idempotencyKey).map (fun key => (batch.sessionId, key))

/-- The keys that a batch comes with, its own and those of its commands. -/
def batchKeys (batch : AuthoringCommandBatch) : List (String × String) :=
  batch.idempotencyKey.toList.map (fun key => (batch.sessionId, key)) ++
    commandKeys batch batch.commands

theorem mem_batchKeys_of_idempotencyKey (batch : AuthoringCommandBatch) (k : String × String)
    (h : (Taskweavn.idempotencyKey batch).map (fun key => (batch.sessionId, key)) = some k) :
    k ∈ batchKeys batch := by
  obtain ⟨key, hkey, rfl⟩ := Option.map_eq_some_iff.mp h
  unfold Taskweavn.idempotencyKey at hkey
  split at hkey
  · next hown =>
    cases hkey
    exact List.mem_append_left _ (by simp [hown])
  · split at hkey
    · next hone =>
      refine List.mem_append_right _ ?_
      simp [commandKeys, hone, hkey]
    · cases hkey

theorem applyAll_ran (mode : AuthoringCommandMode) : ∀ (commands : List AuthoringCommand)
    (p : Progress W), ∃ tried, tried.Sublist commands ∧
      (svc.applyAll mode commands p).progress.ran = p.ran ++ tried := by
  intro commands
  induction commands with
  | nil => intro p; exact ⟨[], List.Sublist.refl _, by simp [applyAll, CommandsEnd.progress]⟩
  | cons command commands ih =>
    intro p
    have hone : [command].Sublist (command :: commands) := by simp
    simp only [applyAll]
    split
    · rename_i output w happly
      obtain ⟨tried, htried, hran⟩ := ih { p with
        stores := w, outputs := p.outputs ++ [output], ran := p.ran ++ [command] }
      exact ⟨command :: tried, htried.cons_cons command, by simp [hran]⟩
    · rename_i e w happly
      split
      · exact ⟨[command], hone, rfl⟩
      · rename_i error herror
        cases mode with
        | allOrNothing => exact ⟨[command], hone, rfl⟩
        | bestEffort =>
          obtain ⟨tried, htried, hran⟩ := ih { p with
            stores := w, errors := p.errors ++ [error], ran := p.ran ++ [command] }
          exact ⟨command :: tried, htried.cons_cons command, by simp [hran]⟩

theorem perform_ran (batch : AuthoringCommandBatch) (world : W × M) :
    (svc.perform batch world).2.2.Sublist batch.commands := by
  obtain ⟨tried, htried, hran⟩ := svc.applyAll_ran batch.mode batch.commands { stores := world.1 }
  rw [List.nil_append] at hran
  simp only [perform]
  split
  · exact List.nil_sublist _
  · split
    all_goals
      rename_i happly
      rw [happly] at hran
      simp only [CommandsEnd.progress] at hran
    · rwa [hran]
    · split <;> rwa [hran]
    · split <;> rwa [hran]

/-- The service as one that remembers its replies: a batch is looked up under one key
and may carry more. -/
def keyed : Keyed AuthoringCommandBatch (String × String) AuthoringException
    AuthoringCommandResult AuthoringCommandIdempotencyRecord (W × M) where
  keys := batchKeys
  lookup batch := (idempotencyKey batch).map (fun key => (batch.sessionId, key))
  parts batch := commandKeys batch batch.commands
  lookup_mem := mem_batchKeys_of_idempotencyKey
  parts_subset _ := List.subset_append_right _ _
  run batch world :=
    ((svc.perform batch world).1, (svc.perform batch world).2.1,
      commandKeys batch (svc.perform batch world).2.2)
  record key batch result := ⟨key.1, key.2, svc.requestHash batch, result⟩
  reply cached := cached.result
  run_parts batch world := ((svc.perform_ran batch world).filterMap _).map _
  reply_record _ _ _ := rfl

/-- A call of `submit`, and whether the idempotency store is there for it. -/
structure Submission where
  batch : AuthoringCommandBatch
  /-- What `get` raises, if it does. -/
  getRaises : Option AuthoringException := none
  /-- `put` raises; that is passed over. -/
  putRaises : Bool := false

/-- The service and its stores; `history` is what was submitted so far. -/
abbrev ServiceState (W M : Type) :=
  Keyed.State AuthoringCommandBatch (String × String) AuthoringException
    AuthoringCommandResult AuthoringCommandIdempotencyRecord (W × M)

def remember (s : ServiceState W M) (sub : Submission) (result : AuthoringCommandResult) :
    Dict (String × String) AuthoringCommandIdempotencyRecord :=
  match idempotencyKey sub.batch with
  | none => s.records
  | some key =>
    if sub.putRaises then s.records
    else Keyed.put s.records (sub.batch.sessionId, key)
      ⟨sub.batch.sessionId, key, svc.requestHash sub.batch, result⟩

/-- What `submit` does when it finds no record. -/
def carryOut (s : ServiceState W M) (sub : Submission) :
    Except AuthoringException AuthoringCommandResult × ServiceState W M :=
  match svc.perform sub.batch s.world with
  | (.ok result, world, ran) =>
    (.ok result, ⟨world, svc.remember s sub result,
      s.history ++ [⟨sub.batch, .ok result, commandKeys sub.batch ran, s.world, world⟩]⟩)
  | (.error e, world, ran) =>
    (.error e, ⟨world, s.records,
      s.history ++ [⟨sub.batch, .error e, commandKeys sub.batch ran, s.world, world⟩]⟩)

/-- An answer that changes nothing. -/
def answered (s : ServiceState W M) (sub : Submission)
    (answer : Except AuthoringException AuthoringCommandResult) :
    Except AuthoringException AuthoringCommandResult × ServiceState W M :=
  (answer, { s with history := s.history ++ [⟨sub.batch, answer, [], s.world, s.world⟩] })

def submit (s : ServiceState W M) (sub : Submission) :
    Except AuthoringException AuthoringCommandResult × ServiceState W M :=
  match idempotencyKey sub.batch with
  | none => svc.carryOut s sub
  | some key =>
    match sub.getRaises with
    | some e =>
      answered s sub ((errorOf "idempotency_unavailable" e none).map (rejectedBatch sub.batch))
    | none =>
      match s.records.get? (sub.batch.sessionId, key) with
      | some cached => answered s sub (.ok cached.result)
      | none => svc.carryOut s sub

/-- The idempotency store is available. -/
def Submission.Available (sub : Submission) : Prop :=
  sub.getRaises = none ∧ sub.putRaises = false

instance (sub : Submission) : Decidable sub.Available :=
  decidable_of_iff (sub.getRaises.isNone ∧ sub.putRaises = false)
    (by simp [Submission.Available])

theorem carryOut_eq_serve {s : ServiceState W M} {sub : Submission} (h : sub.Available)
    (hf : svc.keyed.found s sub.batch = none) :
    svc.carryOut s sub = svc.keyed.serve s sub.batch := by
  have hrem : ∀ result, svc.remember s sub result =
      svc.keyed.remember s.records sub.batch result := by
    intro result
    simp only [remember, Keyed.remember, keyed, h.2]
    cases idempotencyKey sub.batch <;> rfl
  rw [Keyed.serve, hf]
  simp only [carryOut, keyed]
  cases hp : svc.perform sub.batch s.world with
  | mk answer rest =>
    cases answer with
    | ok result => simp only [hrem result, keyed]
    | error e => rfl

/-- **With the idempotency store there, `submit` serves the batch.** -/
theorem submit_eq_serve {s : ServiceState W M} {sub : Submission} (h : sub.Available) :
    svc.submit s sub = svc.keyed.serve s sub.batch := by
  unfold submit
  cases hk : idempotencyKey sub.batch with
  | none => exact svc.carryOut_eq_serve h (by simp [Keyed.found, keyed, hk])
  | some key =>
    have hfound : svc.keyed.found s sub.batch = s.records.get? (sub.batch.sessionId, key) := by
      simp [Keyed.found, keyed, hk]
    cases hrec : s.records.get? (sub.batch.sessionId, key) with
    | some cached =>
      simp only [h.1, hrec]
      exact (Keyed.serve_found (hfound.trans hrec)).symm
    | none =>
      simp only [h.1, hrec]
      exact svc.carryOut_eq_serve h (hfound.trans hrec)

end AuthoringStores

end Taskweavn

import Taskweavn.Py.Moment
import Taskweavn.Task.Publisher

/-!
# The stores of the scheduler

A schedule has a configuration and a state, and each of them says whether the schedule
is enabled.  Two stores keep them: dictionaries (`taskweavn/task/scheduler.py`), and two
tables (`taskweavn/task/sqlite_publish.py`), where the open dictionaries of a
configuration and of a result go through JSON and the datetimes through their texts.

`set_enabled` writes both copies of the flag in both stores.  `upsert_config` does not:
the dictionaries keep a state that is there and give a new one the flag `True`, the
table writes the flag of the configuration and the time into the state.  `InStep` is
the condition on a call under which the stores stay together, and `schedules_agree_iff`
says that it is exact.
-/

namespace Taskweavn

open Lib Py

/-! ### Configurations and states -/

inductive ScheduleExpressionKind
  | interval
  | daily
  | cron
deriving DecidableEq, Repr

/-- When a scheduled publisher should fire. -/
structure ScheduleExpression where
  type : ScheduleExpressionKind
  everySeconds : Option ℕ := none
  timeOfDay : Option String := none
  cron : Option String := none
  fields_ok : (everySeconds.all (fun n => decide (0 < n)) && optText.accepts timeOfDay &&
    optText.accepts cron) = true
  shape_ok : (match type with
    | .interval => everySeconds.isSome
    | .daily => timeOfDay.isSome
    | .cron => cron.isSome) = true
deriving DecidableEq

inductive SessionSelectorMode
  | fixed
  | current
deriving DecidableEq, Repr

/-- Selects which session a scheduled publish targets. -/
structure SessionSelector where
  mode : SessionSelectorMode := .fixed
  sessionId : Option String := none
  fields_ok : optText.accepts sessionId = true
  selector_ok : mode = .fixed → sessionId.isSome = true
deriving DecidableEq

inductive IdempotencyPolicyMode
  | scheduleTick
  | constant
  | none
deriving DecidableEq, Repr

/-- Builds stable idempotency keys for scheduler ticks. -/
structure IdempotencyPolicy where
  mode : IdempotencyPolicyMode := .scheduleTick
  keyTemplate : Option String := .none
  fields_ok : optText.accepts keyTemplate = true
deriving DecidableEq

structure ScheduledPublishConfig where
  scheduleId : String
  enabled : Bool := true
  schedule : ScheduleExpression
  sessionSelector : SessionSelector
  taskTree : Dict String PyValue
  idempotencyPolicy : IdempotencyPolicy
  timezone : String := "Asia/Shanghai"
  options : TaskPublishOptions := { requireConfirmation := false }
  metadata : Dict String PyValue := Dict.empty
  fields_ok : (Codec.text.accepts scheduleId && Codec.text.accepts timezone &&
    optText.accepts options.sourceLabel) = true
deriving DecidableEq

structure ScheduledPublishState where
  scheduleId : String
  enabled : Bool := true
  lastRunAt : Option Moment := none
  nextRunAt : Option Moment := none
  lastResult : Option PublishResult := none
  updatedAt : DateTime
deriving DecidableEq

/-! ### What the tables keep -/

/-- `model_validate_json(config.model_dump_json())` -/
def ScheduledPublishConfig.reloaded (c : ScheduledPublishConfig) : ScheduledPublishConfig :=
  { c with taskTree := Codec.metadataDoc c.taskTree, metadata := Codec.metadataDoc c.metadata }

/-- JSON keeps the configuration. -/
def ScheduledPublishConfig.Stable (c : ScheduledPublishConfig) : Prop := c.reloaded = c

instance (c : ScheduledPublishConfig) : Decidable c.Stable := inferInstanceAs (Decidable (_ = _))

/-- `PublishResult.model_validate_json(result.model_dump_json())` -/
def PublishResult.reloaded (r : PublishResult) : PublishResult :=
  { r with metadata := Codec.metadataDoc r.metadata }

structure ScheduledStateRow where
  scheduleId : String
  enabled : ℕ
  lastRunAt : Option String
  nextRunAt : Option String
  lastResultJson : Option PublishResult
  updatedAt : String
deriving DecidableEq

def boolToInt (value : Bool) : ℕ := if value then 1 else 0

@[simp] theorem boolToInt_ne_zero (b : Bool) : (boolToInt b != 0) = b := by cases b <;> rfl

/-- The row that `save_state` writes. -/
def ScheduledPublishState.toRow (st : ScheduledPublishState) : ScheduledStateRow where
  scheduleId := st.scheduleId
  enabled := boolToInt st.enabled
  lastRunAt := st.lastRunAt.map Moment.isoformat
  nextRunAt := st.nextRunAt.map Moment.isoformat
  lastResultJson := st.lastResult.map PublishResult.reloaded
  updatedAt := st.updatedAt.isoformat

def scheduledStateFromRow (row : ScheduledStateRow) : Option ScheduledPublishState := do
  let lastRunAt ← readOptional Moment.parse row.lastRunAt
  let nextRunAt ← readOptional Moment.parse row.nextRunAt
  let updatedAt ← DateTime.fromisoformat row.updatedAt
  pure
    { scheduleId := row.scheduleId
      enabled := row.enabled != 0
      lastRunAt := lastRunAt
      nextRunAt := nextRunAt
      lastResult := row.lastResultJson
      updatedAt := updatedAt }

/-- The tables keep the state. -/
structure ScheduledPublishState.Readable (st : ScheduledPublishState) : Prop where
  lastRunAt : ∀ m, st.lastRunAt = some m → m.WholeMinutes
  nextRunAt : ∀ m, st.nextRunAt = some m → m.WholeMinutes
  lastResult : ∀ r, st.lastResult = some r → r.reloaded = r

theorem ScheduledPublishState.Readable.withFlag {st : ScheduledPublishState} (h : st.Readable)
    (enabled : Bool) (now : DateTime) :
    ScheduledPublishState.Readable { st with enabled := enabled, updatedAt := now } :=
  ⟨h.1, h.2, h.3⟩

theorem readOptional_isoformat_iff {o : Option Moment} :
    readOptional Moment.parse (o.map Moment.isoformat) = some o ↔ ∀ m, o = some m →
    m.WholeMinutes := by
  cases o with
  | none => simp [readOptional]
  | some m =>
    have hiff : (∀ m', some m = some m' → m'.WholeMinutes) ↔ m.WholeMinutes := by simp
    rw [hiff, Option.map_some, readOptional, Moment.parse_text]
    by_cases hw : m.WholeMinutes
    · simp [hw]
    · simp [hw]

theorem map_eq_self_iff {α : Type} {f : α → α} {o : Option α} :
    o.map f = o ↔ ∀ a, o = some a → f a = a := by
  cases o <;> simp

theorem scheduledStateFromRow_toRow_iff {st : ScheduledPublishState} :
    scheduledStateFromRow st.toRow = some st ↔ st.Readable := by
  unfold scheduledStateFromRow ScheduledPublishState.toRow
  simp only [Option.bind_eq_bind, DateTime.fromisoformat_isoformat, Option.bind_some,
    boolToInt_ne_zero]
  constructor
  · intro h
    obtain ⟨last, hlast, h⟩ := Option.bind_eq_some_iff.mp h
    obtain ⟨next, hnext, h⟩ := Option.bind_eq_some_iff.mp h
    have heq := Option.some.inj h
    have h1 : last = st.lastRunAt := congrArg ScheduledPublishState.lastRunAt heq
    have h2 : next = st.nextRunAt := congrArg ScheduledPublishState.nextRunAt heq
    have h3 : st.lastResult.map PublishResult.reloaded = st.lastResult :=
      congrArg ScheduledPublishState.lastResult heq
    rw [h1] at hlast
    rw [h2] at hnext
    exact ⟨readOptional_isoformat_iff.mp hlast, readOptional_isoformat_iff.mp hnext,
      map_eq_self_iff.mp h3⟩
  · rintro ⟨h1, h2, h3⟩
    rw [readOptional_isoformat_iff.mpr h1, readOptional_isoformat_iff.mpr h2,
      map_eq_self_iff.mpr h3]
    rfl

/-! ### The stores -/

inductive ScheduledStoreError
  /-- ScheduledPublishConfig … not found -/
  | lookup (scheduleId : String)
  /-- invalid scheduled publish state … -/
  | invalidState (scheduleId : String)
deriving DecidableEq

structure InMemoryScheduledPublishStore where
  configs : Dict String ScheduledPublishConfig := Dict.empty
  states : Dict String ScheduledPublishState := Dict.empty

namespace InMemoryScheduledPublishStore

variable (store : InMemoryScheduledPublishStore)

def upsertConfig (config : ScheduledPublishConfig) (now : DateTime) :
    ScheduledPublishConfig × InMemoryScheduledPublishStore :=
  (config,
    { configs := store.configs.set config.scheduleId config
      states :=
        match store.states.get? config.scheduleId with
        | some _ => store.states
        | none =>
          store.states.set config.scheduleId
            { scheduleId := config.scheduleId, updatedAt := now } })

def getConfig (scheduleId : String) : Option ScheduledPublishConfig := store.configs.get? scheduleId

def listConfigs : List ScheduledPublishConfig :=
  (sortOn id store.configs.keys).filterMap store.configs.get?

def setEnabled (scheduleId : String) (enabled : Bool) (now : DateTime) :
    Except ScheduledStoreError ScheduledPublishConfig × InMemoryScheduledPublishStore :=
  match store.configs.get? scheduleId with
  | none => (.error (.lookup scheduleId), store)
  | some config =>
    let updated := { config with enabled := enabled }
    let current :=
      (store.states.get? scheduleId).getD { scheduleId := scheduleId, updatedAt := now }
    (.ok updated,
      { configs := store.configs.set scheduleId updated
        states :=
          store.states.set scheduleId { current with enabled := enabled, updatedAt := now } })

def getState (scheduleId : String) : Option ScheduledPublishState := store.states.get? scheduleId

def saveState (state : ScheduledPublishState) (now : DateTime) :
    Except ScheduledStoreError ScheduledPublishState × InMemoryScheduledPublishStore :=
  match store.configs.get? state.scheduleId with
  | none => (.error (.lookup state.scheduleId), store)
  | some _ =>
    let updated := { state with updatedAt := now }
    (.ok updated, { store with states := store.states.set state.scheduleId updated })

end InMemoryScheduledPublishStore

/-- The configurations as their JSON texts are read, and the rows of the states. -/
structure SqliteScheduledPublishStore where
  configs : Dict String ScheduledPublishConfig := Dict.empty
  states : Dict String ScheduledStateRow := Dict.empty

namespace SqliteScheduledPublishStore

variable (store : SqliteScheduledPublishStore)

/-- `INSERT INTO scheduled_publish_states … ON CONFLICT(schedule_id) DO UPDATE SET
enabled, updated_at` -/
def writeFlag (scheduleId : String) (enabled : Bool) (now : DateTime) :
    Dict String ScheduledStateRow :=
  match store.states.get? scheduleId with
  | some row =>
    store.states.set scheduleId
      { row with enabled := boolToInt enabled, updatedAt := now.isoformat }
  | none =>
    store.states.set scheduleId
      { scheduleId := scheduleId
        enabled := boolToInt enabled
        lastRunAt := none
        nextRunAt := none
        lastResultJson := none
        updatedAt := now.isoformat }

def upsertConfig (config : ScheduledPublishConfig) (now : DateTime) :
    ScheduledPublishConfig × SqliteScheduledPublishStore :=
  (config,
    { configs := store.configs.set config.scheduleId config.reloaded
      states := store.writeFlag config.scheduleId config.enabled now })

def getConfig (scheduleId : String) : Option ScheduledPublishConfig := store.configs.get? scheduleId

/-- `ORDER BY schedule_id` -/
def listConfigs : List ScheduledPublishConfig :=
  (sortOn Prod.fst store.configs.entries).map Prod.snd

def setEnabled (scheduleId : String) (enabled : Bool) (now : DateTime) :
    Except ScheduledStoreError ScheduledPublishConfig × SqliteScheduledPublishStore :=
  match store.getConfig scheduleId with
  | none => (.error (.lookup scheduleId), store)
  | some config =>
    let updated := { config with enabled := enabled }
    (.ok updated,
      { configs := store.configs.set scheduleId updated.reloaded
        states := store.writeFlag scheduleId enabled now })

def getState (scheduleId : String) : Except ScheduledStoreError (Option ScheduledPublishState) :=
  match store.states.get? scheduleId with
  | none => .ok none
  | some row =>
    match scheduledStateFromRow row with
    | none => .error (.invalidState scheduleId)
    | some state => .ok (some state)

def saveState (state : ScheduledPublishState) (now : DateTime) :
    Except ScheduledStoreError ScheduledPublishState × SqliteScheduledPublishStore :=
  match store.getConfig state.scheduleId with
  | none => (.error (.lookup state.scheduleId), store)
  | some _ =>
    let updated := { state with updatedAt := now }
    (.ok updated, { store with states := store.states.set state.scheduleId updated.toRow })

end SqliteScheduledPublishStore

/-! ### Runs -/

inductive ScheduledStoreOp
  | upsertConfig (config : ScheduledPublishConfig)
  | setEnabled (scheduleId : String) (enabled : Bool)
  | saveState (state : ScheduledPublishState)
  | getConfig (scheduleId : String)
  | listConfigs
  | getState (scheduleId : String)

/-- A call, with what the clock shows when it is made. -/
structure ScheduledStoreCall where
  op : ScheduledStoreOp
  now : DateTime

inductive ScheduledStoreReply
  | config (config : Option ScheduledPublishConfig)
  | configs (configs : List ScheduledPublishConfig)
  | state (state : Option ScheduledPublishState)
deriving DecidableEq

abbrev ScheduledStoreAnswer := Except ScheduledStoreError ScheduledStoreReply

def InMemoryScheduledPublishStore.step (store : InMemoryScheduledPublishStore)
    (c : ScheduledStoreCall) : ScheduledStoreAnswer × InMemoryScheduledPublishStore :=
  match c.op with
  | .upsertConfig config => ((store.upsertConfig config c.now).map (.ok <| .config <| some ·) id)
  | .setEnabled i b => ((store.setEnabled i b c.now).map (Except.map (.config <| some ·)) id)
  | .saveState state => ((store.saveState state c.now).map (Except.map (.state <| some ·)) id)
  | .getConfig i => (.ok (.config (store.getConfig i)), store)
  | .listConfigs => (.ok (.configs store.listConfigs), store)
  | .getState i => (.ok (.state (store.getState i)), store)

def SqliteScheduledPublishStore.step (store : SqliteScheduledPublishStore)
    (c : ScheduledStoreCall) : ScheduledStoreAnswer × SqliteScheduledPublishStore :=
  match c.op with
  | .upsertConfig config => ((store.upsertConfig config c.now).map (.ok <| .config <| some ·) id)
  | .setEnabled i b => ((store.setEnabled i b c.now).map (Except.map (.config <| some ·)) id)
  | .saveState state => ((store.saveState state c.now).map (Except.map (.state <| some ·)) id)
  | .getConfig i => (.ok (.config (store.getConfig i)), store)
  | .listConfigs => (.ok (.configs store.listConfigs), store)
  | .getState i => ((store.getState i).map .state, store)

/-- The calls that only read. -/
def ScheduledStoreOp.IsRead : ScheduledStoreOp → Prop
  | getConfig _ => True
  | listConfigs => True
  | getState _ => True
  | _ => False

/-- Whether the scheduler treats a schedule as enabled, when it has a configuration:
`config.enabled and state.enabled`, where a missing state is a new one. -/
def treatsAsEnabled {S : Type} (step : S → ScheduledStoreCall → ScheduledStoreAnswer × S) (s : S)
    (scheduleId : String) (now : DateTime) : Option Bool :=
  match (step s ⟨.getConfig scheduleId, now⟩).1, (step s ⟨.getState scheduleId, now⟩).1 with
  | .ok (.config (some config)), .ok (.state state) =>
    some (config.enabled && (state.map ScheduledPublishState.enabled).getD true)
  | _, _ => none

/-- The condition on a call.  A configuration is kept by JSON, and does not change the
state: a new one is enabled, and one that is there has the flag of its state and
comes at the time of its last write. -/
def InMemoryScheduledPublishStore.InStep (store : InMemoryScheduledPublishStore)
    (c : ScheduledStoreCall) : Prop :=
  match c.op with
  | .upsertConfig config =>
    config.Stable ∧
      match store.states.get? config.scheduleId with
      | none => config.enabled = true
      | some state => state.enabled = config.enabled ∧ state.updatedAt = c.now
  | .saveState state => (store.configs.get? state.scheduleId).isSome = true → state.Readable
  | _ => True

/-! ### The stores side by side -/

/-- The tables hold what the dictionaries hold. -/
structure Mirrors (mem : InMemoryScheduledPublishStore) (sql : SqliteScheduledPublishStore) :
    Prop where
  configs : sql.configs = mem.configs
  states : sql.states = mem.states.map ScheduledPublishState.toRow
  stable : ∀ k c, mem.configs.get? k = some c → c.Stable
  readable : ∀ k st, mem.states.get? k = some st → st.scheduleId = k ∧ st.Readable
  both : ∀ k, (mem.configs.get? k).isSome = (mem.states.get? k).isSome

namespace Mirrors

variable {mem : InMemoryScheduledPublishStore} {sql : SqliteScheduledPublishStore} {i : String}
  {now : DateTime}

theorem empty : Mirrors {} {} where
  configs := rfl
  states := rfl
  stable k c h := by cases h
  readable k st h := by cases h
  both k := rfl

theorem getConfig_eq (h : Mirrors mem sql) : sql.getConfig i = mem.getConfig i := by
  rw [SqliteScheduledPublishStore.getConfig, h.configs]
  rfl

/-- The state that the flag is written into. -/
def current (mem : InMemoryScheduledPublishStore) (i : String) (now : DateTime) :
    ScheduledPublishState :=
  (mem.states.get? i).getD { scheduleId := i, updatedAt := now }

theorem current_readable (h : Mirrors mem sql) (i : String) (now : DateTime) :
    (current mem i now).scheduleId = i ∧ (current mem i now).Readable := by
  unfold current
  cases hget : mem.states.get? i with
  | some st => exact h.readable i st hget
  | none =>
    refine ⟨rfl, ?_, ?_, ?_⟩
    · intro m hm
      cases hm
    · intro m hm
      cases hm
    · intro r hr
      cases hr

theorem writeFlag_eq (h : Mirrors mem sql) (enabled : Bool) :
    sql.writeFlag i enabled now =
      (mem.states.set i { current mem i now with enabled := enabled, updatedAt := now }).map
        ScheduledPublishState.toRow := by
  rw [SqliteScheduledPublishStore.writeFlag, h.states, Dict.get?_map, Dict.map_set, current]
  cases mem.states.get? i <;> rfl

theorem set (h : Mirrors mem sql) {c : ScheduledPublishConfig} (hc : c.Stable)
    {u : ScheduledPublishState} (hu : u.scheduleId = i ∧ u.Readable) :
    Mirrors { configs := mem.configs.set i c, states := mem.states.set i u }
      { configs := sql.configs.set i c.reloaded
        states := (mem.states.set i u).map ScheduledPublishState.toRow } where
  configs := by
    show sql.configs.set i c.reloaded = mem.configs.set i c
    rw [h.configs, hc]
  states := rfl
  stable k c' hc' := by
    rw [Dict.get?_set] at hc'
    split at hc'
    · cases hc'
      exact hc
    · exact h.stable k c' hc'
  readable k st' hst' := by
    rw [Dict.get?_set] at hst'
    split at hst'
    · next hk =>
      cases hst'
      exact ⟨hu.1.trans hk, hu.2⟩
    · exact h.readable k st' hst'
  both k := by
    rw [Dict.get?_set, Dict.get?_set]
    split
    · rfl
    · exact h.both k

theorem getState_eq (h : Mirrors mem sql) : sql.getState i = .ok (mem.getState i) := by
  rw [SqliteScheduledPublishStore.getState, InMemoryScheduledPublishStore.getState, h.states,
    Dict.get?_map]
  cases hget : mem.states.get? i with
  | none => rfl
  | some st =>
    simp only [Option.map_some,
      scheduledStateFromRow_toRow_iff.mpr (h.readable i st hget).2]

theorem listConfigs_eq (h : Mirrors mem sql) : sql.listConfigs = mem.listConfigs := by
  rw [SqliteScheduledPublishStore.listConfigs, h.configs, InMemoryScheduledPublishStore.listConfigs]
  have hkeys : sortOn id mem.configs.keys = (sortOn Prod.fst mem.configs.entries).map Prod.fst := by
    rw [Dict.keys]
    refine (map_sortOn ?_).symm
    intro a _ b _
    rfl
  rw [hkeys, List.filterMap_map]
  have hget : ∀ e ∈ sortOn Prod.fst mem.configs.entries,
      (mem.configs.get? ∘ Prod.fst) e = some e.2 := by
    intro e he
    exact Dict.get?_eq_some_iff.mpr (mem_sortOn.mp he)
  rw [List.filterMap_congr hget]
  exact (congrFun (List.filterMap_eq_map (f := Prod.snd)) _).symm

theorem read_eq (h : Mirrors mem sql) {c : ScheduledStoreCall} (hc : c.op.IsRead) :
    (mem.step c).1 = (sql.step c).1 := by
  obtain ⟨op, now⟩ := c
  cases op with
  | getConfig i =>
    simp only [InMemoryScheduledPublishStore.step, SqliteScheduledPublishStore.step, h.getConfig_eq]
  | listConfigs =>
    simp only [InMemoryScheduledPublishStore.step, SqliteScheduledPublishStore.step,
      h.listConfigs_eq]
  | getState i =>
    simp only [InMemoryScheduledPublishStore.step, SqliteScheduledPublishStore.step, h.getState_eq]
    rfl
  | upsertConfig config => cases hc
  | setEnabled i b => cases hc
  | saveState state => cases hc

theorem upsertConfig_eq (h : Mirrors mem sql) {c : ScheduledPublishConfig}
    (hc : mem.InStep ⟨.upsertConfig c, now⟩) :
    Mirrors (mem.upsertConfig c now).2 (sql.upsertConfig c now).2 := by
  obtain ⟨hstable, hflag⟩ := hc
  have hnew := h.set hstable (u := { current mem c.scheduleId now with
    enabled := c.enabled, updatedAt := now }) (i := c.scheduleId)
    ⟨(h.current_readable _ _).1, (h.current_readable _ _).2.withFlag _ _⟩
  have hsame : mem.states.set c.scheduleId { current mem c.scheduleId now with
      enabled := c.enabled, updatedAt := now } = (mem.upsertConfig c now).2.states := by
    simp only [InMemoryScheduledPublishStore.upsertConfig, current]
    cases hget : mem.states.get? c.scheduleId with
    | some st =>
      simp only [hget] at hflag
      obtain ⟨henabled, htime⟩ := hflag
      rw [Option.getD_some, ← henabled, ← htime]
      exact Dict.set_eq_self hget
    | none =>
      simp only [hget] at hflag
      rw [Option.getD_none, hflag]
  rw [hsame] at hnew
  have hsql : (sql.upsertConfig c now).2 =
      { configs := sql.configs.set c.scheduleId c.reloaded
        states := (mem.upsertConfig c now).2.states.map ScheduledPublishState.toRow } := by
    rw [← hsame, SqliteScheduledPublishStore.upsertConfig, h.writeFlag_eq]
  rw [hsql]
  exact hnew

/-- **A call that meets the condition** is answered alike. -/
theorem step_eq (h : Mirrors mem sql) {c : ScheduledStoreCall} (hc : mem.InStep c) :
    (mem.step c).1 = (sql.step c).1 ∧ Mirrors (mem.step c).2 (sql.step c).2 := by
  obtain ⟨op, now⟩ := c
  cases op with
  | upsertConfig c => exact ⟨rfl, h.upsertConfig_eq hc⟩
  | setEnabled i b =>
    simp only [InMemoryScheduledPublishStore.step, SqliteScheduledPublishStore.step,
      InMemoryScheduledPublishStore.setEnabled, SqliteScheduledPublishStore.setEnabled,
      h.getConfig_eq, InMemoryScheduledPublishStore.getConfig]
    cases hget : mem.configs.get? i with
    | none => exact ⟨rfl, h⟩
    | some config =>
      have hstable : ScheduledPublishConfig.Stable { config with enabled := b } := by
        have := h.stable i config hget
        exact congrArg (fun c : ScheduledPublishConfig => { c with enabled := b }) this
      obtain ⟨hid, hread⟩ := h.current_readable i now
      refine ⟨rfl, ?_⟩
      have hnew := h.set hstable (i := i) (u := { current mem i now with
        enabled := b, updatedAt := now }) ⟨hid, hread.withFlag _ _⟩
      simp only [Prod.map, id, h.writeFlag_eq]
      exact hnew
  | saveState st =>
    simp only [InMemoryScheduledPublishStore.step, SqliteScheduledPublishStore.step,
      InMemoryScheduledPublishStore.saveState, SqliteScheduledPublishStore.saveState,
      h.getConfig_eq, InMemoryScheduledPublishStore.getConfig]
    cases hget : mem.configs.get? st.scheduleId with
    | none => exact ⟨rfl, h⟩
    | some config =>
      have hread : st.Readable := hc (by rw [hget]; rfl)
      refine ⟨rfl, ?_⟩
      refine ⟨h.configs, ?_, h.stable, ?_, ?_⟩
      · simp only [Prod.map, id, h.states, Dict.map_set]
      · intro k st' hst'
        simp only [Prod.map, id] at hst'
        rw [Dict.get?_set] at hst'
        split at hst'
        · next hk =>
          cases hst'
          exact ⟨hk, ⟨hread.1, hread.2, hread.3⟩⟩
        · exact h.readable k st' hst'
      · intro k
        simp only [Prod.map, id]
        rw [Dict.get?_set]
        split
        · next hk =>
          rw [← hk, hget]
          rfl
        · exact h.both k
  | getConfig i => exact ⟨h.read_eq (c := ⟨.getConfig i, now⟩) trivial, h⟩
  | listConfigs => exact ⟨h.read_eq (c := ⟨.listConfigs, now⟩) trivial, h⟩
  | getState i => exact ⟨h.read_eq (c := ⟨.getState i, now⟩) trivial, h⟩

theorem getState_ne {states : Dict String ScheduledPublishState} {st : ScheduledPublishState}
    {configs : Dict String ScheduledPublishConfig} (hrow : sql.states.get? i = some st.toRow)
    (hst : ¬st.Readable) :
    (InMemoryScheduledPublishStore.step { configs, states := states.set i st }
    ⟨.getState i, now⟩).1 ≠
      (sql.step ⟨.getState i, now⟩).1 := by
  simp only [InMemoryScheduledPublishStore.step, SqliteScheduledPublishStore.step,
    InMemoryScheduledPublishStore.getState, SqliteScheduledPublishStore.getState, hrow,
    Dict.get?_set_self]
  cases hread : scheduledStateFromRow st.toRow with
  | none => simp [Except.map]
  | some st' =>
    simp only [Except.map, ne_eq, Except.ok.injEq, ScheduledStoreReply.state.injEq,
      Option.some.injEq]
    rintro rfl
    exact hst (scheduledStateFromRow_toRow_iff.mp hread)

/-- **A call that misses the condition** shows in what a reader finds. -/
theorem exists_read_ne (h : Mirrors mem sql) {c : ScheduledStoreCall} (hc : ¬mem.InStep c) :
    ∃ q : ScheduledStoreCall, q.op.IsRead ∧
      ((mem.step c).2.step q).1 ≠ ((sql.step c).2.step q).1 := by
  obtain ⟨op, now⟩ := c
  cases op with
  | upsertConfig c =>
    by_cases hstable : c.Stable
    · -- the flag or the time of the state
      refine ⟨⟨.getState c.scheduleId, now⟩, trivial, ?_⟩
      obtain ⟨hid, hread⟩ := h.current_readable c.scheduleId now
      have hsql : (sql.upsertConfig c now).2.getState c.scheduleId =
          .ok (some
            { current mem c.scheduleId now with enabled := c.enabled, updatedAt := now }) := by
        simp only [SqliteScheduledPublishStore.upsertConfig, SqliteScheduledPublishStore.getState,
          h.writeFlag_eq, Dict.get?_map, Dict.get?_set_self, Option.map_some]
        rw [scheduledStateFromRow_toRow_iff.mpr (hread.withFlag _ _)]
      simp only [InMemoryScheduledPublishStore.step, SqliteScheduledPublishStore.step, Prod.map, id,
        hsql, Except.map, InMemoryScheduledPublishStore.getState,
        InMemoryScheduledPublishStore.upsertConfig, current]
      intro heq
      have heq := ScheduledStoreReply.state.inj (Except.ok.inj heq)
      refine hc ⟨hstable, ?_⟩
      cases hget : mem.states.get? c.scheduleId with
      | some st =>
        simp only [hget, Option.getD_some, Option.some.injEq] at heq ⊢
        exact ⟨congrArg ScheduledPublishState.enabled heq,
          congrArg ScheduledPublishState.updatedAt heq⟩
      | none =>
        simp only [hget, Option.getD_none, Dict.get?_set_self, Option.some.injEq] at heq ⊢
        exact (congrArg ScheduledPublishState.enabled heq).symm
    · refine ⟨⟨.getConfig c.scheduleId, now⟩, trivial, ?_⟩
      simp only [InMemoryScheduledPublishStore.step, SqliteScheduledPublishStore.step, Prod.map, id,
        InMemoryScheduledPublishStore.getConfig, SqliteScheduledPublishStore.getConfig,
        InMemoryScheduledPublishStore.upsertConfig, SqliteScheduledPublishStore.upsertConfig,
        Dict.get?_set_self]
      intro heq
      have heq := ScheduledStoreReply.config.inj (Except.ok.inj heq)
      exact hstable (Option.some.inj heq).symm
  | saveState st =>
    obtain ⟨hconfig, hread⟩ := Classical.not_imp.mp hc
    obtain ⟨config, hget⟩ := Option.isSome_iff_exists.mp hconfig
    have hupdated : ¬ScheduledPublishState.Readable { st with updatedAt := now } :=
      fun hr => hread ⟨hr.1, hr.2, hr.3⟩
    refine ⟨⟨.getState st.scheduleId, now⟩, trivial, ?_⟩
    have hmem : (mem.step ⟨.saveState st, now⟩).2 =
        { configs := mem.configs
          states := mem.states.set st.scheduleId { st with updatedAt := now } } := by
      simp only [InMemoryScheduledPublishStore.step, InMemoryScheduledPublishStore.saveState, hget,
        Prod.map, id]
    rw [hmem]
    refine getState_ne ?_ hupdated
    simp only [SqliteScheduledPublishStore.step, SqliteScheduledPublishStore.saveState,
      h.getConfig_eq, InMemoryScheduledPublishStore.getConfig, hget, Prod.map, id]
    exact Dict.get?_set_self _ _ _
  | setEnabled i b => exact absurd trivial hc
  | getConfig i => exact absurd trivial hc
  | listConfigs => exact absurd trivial hc
  | getState i => exact absurd trivial hc

end Mirrors

/-- The two stores agree on a run: every call is answered alike, and so would be every
read along it; in particular the scheduler treats the same schedules as enabled. -/
structure SchedulesAgree (calls : List ScheduledStoreCall) : Prop where
  replies : outputs InMemoryScheduledPublishStore.step {} calls =
    outputs SqliteScheduledPublishStore.step {} calls
  reads : ∀ k (q : ScheduledStoreCall), q.op.IsRead →
    ((final InMemoryScheduledPublishStore.step {} (calls.take k)).step q).1 =
      ((final SqliteScheduledPublishStore.step {} (calls.take k)).step q).1
  enabled : ∀ k i now,
    treatsAsEnabled InMemoryScheduledPublishStore.step
        (final InMemoryScheduledPublishStore.step {} (calls.take k)) i now =
      treatsAsEnabled SqliteScheduledPublishStore.step
        (final SqliteScheduledPublishStore.step {} (calls.take k)) i now

/-- **The two stores agree on a run exactly when every call meets the condition.** -/
theorem schedules_agree_iff (calls : List ScheduledStoreCall) :
    SchedulesAgree calls ↔
      Throughout InMemoryScheduledPublishStore.step InMemoryScheduledPublishStore.InStep
      {} calls := by
  have hrule := agree_iff (f := InMemoryScheduledPublishStore.step)
    (g := SqliteScheduledPublishStore.step) (R := Mirrors)
      (C := InMemoryScheduledPublishStore.InStep)
    (Q := fun q => q.op.IsRead) (fun _ _ _ h hc => h.step_eq hc) (fun _ _ _ h hq => h.read_eq hq)
    (fun _ _ _ h hc _ => h.exists_read_ne hc) calls {} {} .empty
  rw [← hrule]
  constructor
  · intro h
    exact ⟨h.replies, h.reads⟩
  · rintro ⟨hreplies, hreads⟩
    refine ⟨hreplies, hreads, ?_⟩
    intro k i now
    unfold treatsAsEnabled
    rw [hreads k ⟨.getConfig i, now⟩ trivial, hreads k ⟨.getState i, now⟩ trivial]

/-! ### A schedule that is switched off and written again -/

theorem hourly_ok : ((some 3600).all (fun n => decide (0 < n)) && optText.accepts none &&
    optText.accepts none) = true := rfl

theorem hourly_shape : (some 3600 : Option ℕ).isSome = true := rfl

theorem sample_selector : SessionSelectorMode.fixed = .fixed → (some "s" : Option String).isSome =
    true := fun _ => rfl

theorem sample_selector_ok : optText.accepts (some "s") = true := rfl

theorem sample_policy_ok : optText.accepts none = true := rfl

theorem sample_config_ok : (Codec.text.accepts "hourly" && Codec.text.accepts "Asia/Shanghai" &&
    optText.accepts none) = true := rfl

/-- Once an hour. -/
def ScheduledPublishConfig.sample : ScheduledPublishConfig where
  scheduleId := "hourly"
  schedule :=
    { type := .interval, everySeconds := some 3600
      fields_ok := hourly_ok, shape_ok := hourly_shape }
  sessionSelector :=
    { sessionId := some "s", fields_ok := sample_selector_ok, selector_ok := sample_selector }
  taskTree := Dict.empty
  idempotencyPolicy := { fields_ok := sample_policy_ok }
  fields_ok := sample_config_ok

def storedAgain : List ScheduledStoreCall :=
  [⟨.upsertConfig .sample, .noon⟩, ⟨.setEnabled "hourly" false, .noon⟩,
   ⟨.upsertConfig .sample, .afterNoon⟩]

/-- The dictionaries keep the schedule off, and the tables switch it on. -/
theorem storedAgain_disagrees : ¬SchedulesAgree storedAgain := by
  intro h
  have henabled := h.enabled 3 "hourly" .afterNoon
  revert henabled
  decide +kernel

end Taskweavn

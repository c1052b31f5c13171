import Taskweavn.Lib.Run
import Taskweavn.Server.UiEvents

/-!
# A snapshot and what follows it

`get_session_snapshot_query` (`taskweavn/server/ui_contract/query_snapshot_helpers.py`)
reads one store after another and then, with everything read, the latest cursor of the
session.  Nothing holds the stores while it does so: a change can be committed and
announced between any two of its reads.  The page then asks for the events behind the
cursor, and again behind the last event it has got.

Which stores are read, and how often, depends on what they hold, so the reads are a list
here (`snapshotReads` is that of a session without a task).  The content of a store is the
list of changes committed to it, and a read takes down what is there.

A change that is committed behind the back of the query and announced before the cursor is
read stands in front of the cursor, and neither the snapshot nor the events behind it have
it.  That is the only way to lose one (`misses_nothing`).
-/

namespace Taskweavn

open Lib

inductive SnapshotStore
  | sessions
  | drafts
  | authoringState
  | taskBus
  | messages
  | fileChanges
  | summaries
  | plans
  | rawTasks
  | asks
deriving DecidableEq, Repr

/-- A change of a store, and the event that announces it. -/
structure StoreChange where
  store : SnapshotStore
  event : UiEvent
deriving DecidableEq

/-- The reads for a session without a task, in the order of the query. -/
def snapshotReads : List SnapshotStore :=
  [.sessions,
   -- the projection of the tree: its drafts, its tasks and its title
   .authoringState, .taskBus, .authoringState, .drafts,
   -- the active plan and the archived ones
   .authoringState, .plans, .plans, .plans,
   .rawTasks, .asks, .messages,
   -- the planning view
   .authoringState, .authoringState, .rawTasks,
   .sessions]

/-- A query, the page behind it and the changes beside it. -/
structure SnapshotWorld where
  source : SqliteUiEventSource
  committed : List StoreChange := []
  announced : List StoreChange := []
  /-- the reads that are still to be made -/
  reads : List SnapshotStore
  /-- the reads that were made, each with the changes that it found -/
  seen : List (SnapshotStore × List StoreChange) := []
  /-- the cursor of the snapshot, once it is read -/
  cursor : Option (Option String) := none
  /-- the cursor of the next subscription -/
  last : Option String := none
  received : List UiEvent := []
  /-- the events of the session since the cursor was read -/
  appended : List UiEvent := []

inductive SnapshotAction
  | commit (x : StoreChange)
  | announce (x : StoreChange)
  | read
  | readCursor
  | subscribe (newId : String)

namespace SnapshotWorld

variable (sessionId : String) (s : SnapshotWorld)

def commit (x : StoreChange) : Option SnapshotWorld :=
  if x ∈ s.committed then none else some { s with committed := s.committed ++ [x] }

def announce (x : StoreChange) : Option SnapshotWorld :=
  if x ∈ s.committed then
    (s.source.append x.event).map fun source =>
      { s with
        source := source
        announced := s.announced ++ [x]
        appended :=
          if s.cursor.isSome ∧ x.event.sessionId = sessionId then s.appended ++ [x.event]
          else s.appended }
  else none

def read : Option SnapshotWorld :=
  match s.reads with
  | [] => none
  | store :: rest =>
    some
      { s with
        reads := rest
        seen := s.seen ++ [(store, s.committed.filter (fun x => x.store == store))] }

/-- `_snapshot_cursor`, the last read of the query. -/
def readCursor : Option SnapshotWorld :=
  match s.reads, s.cursor with
  | [], none =>
    some
      { s with
        cursor := some (s.source.latestCursor sessionId)
        last := s.source.latestCursor sessionId }
  | _, _ => none

/-- The page has the snapshot, and asks for more. -/
def follow (newId : String) : Option SnapshotWorld :=
  match s.cursor with
  | none => none
  | some _ =>
    let events := s.source.subscribe sessionId s.last newId
    some
      { s with
        received := s.received ++ events
        last := advance UiEvent.cursor s.last events }

def step (s : SnapshotWorld) : SnapshotAction → Option SnapshotWorld
  | .commit x => s.commit x
  | .announce x => s.announce sessionId x
  | .read => s.read
  | .readCursor => s.readCursor sessionId
  | .subscribe newId => s.follow sessionId newId

/-- A read of the store of the change did not find it. -/
def Missed (x : StoreChange) : Prop :=
  ∃ r ∈ s.seen, r.1 = x.store ∧ x ∉ r.2

instance (x : StoreChange) : Decidable (s.Missed x) :=
  inferInstanceAs (Decidable (∃ r ∈ s.seen, r.1 = x.store ∧ x ∉ r.2))

/-- What is not in the snapshot is behind its cursor as soon as it is announced, and the
subscriptions deliver what is behind the cursor, in the order of the table. -/
def Complete : Prop :=
  ∀ c, s.cursor = some c → ∀ newId,
    (∀ x ∈ s.committed, x.event.sessionId = sessionId → s.Missed x → x ∈ s.announced →
      x.event ∈ s.source.subscribe sessionId c newId) ∧
    s.source.subscribe sessionId c newId = s.appended ∧
    s.received ++ s.source.subscribe sessionId s.last newId = s.appended

/-- No change that the query has missed is announced before the cursor is read. -/
def Timely (s : SnapshotWorld) : SnapshotAction → Prop
  | .announce x => s.cursor = none → x.event.sessionId = sessionId → ¬s.Missed x
  | _ => True

/-! ### The invariant -/

/-- The table of a page that has its snapshot. -/
structure Behind (c : Option String) : Prop where
  known : Known UiEvent.cursor (s.source.session sessionId) c
  known_last : Known UiEvent.cursor (s.source.session sessionId) s.last
  since_cursor : since UiEvent.cursor (s.source.session sessionId) c = s.appended
  since_last : s.received ++ since UiEvent.cursor (s.source.session sessionId) s.last = s.appended
  missed : ∀ x ∈ s.announced, x.event.sessionId = sessionId → s.Missed x → x.event ∈ s.appended

structure Following : Prop where
  committed : ∀ x ∈ s.announced, x ∈ s.committed
  before : s.cursor = none → s.appended = [] ∧ s.received = [] ∧
    ∀ x ∈ s.announced, x.event.sessionId = sessionId → ¬s.Missed x
  behind : ∀ c, s.cursor = some c → s.reads = [] ∧ s.Behind sessionId c

variable {sessionId} {s} {s' : SnapshotWorld}

theorem following_commit {x : StoreChange} (hi : s.Following sessionId)
    (h : s.commit x = some s') : s'.Following sessionId := by
  unfold commit at h
  split at h
  · cases h
  · cases h
    refine ⟨?_, hi.before, ?_⟩
    · intro y hy
      exact List.mem_append_left _ (hi.committed y hy)
    · intro c hc
      obtain ⟨hreads, hb⟩ := hi.behind c hc
      exact ⟨hreads, hb.known, hb.known_last, hb.since_cursor, hb.since_last, hb.missed⟩

theorem behind_announce {x : StoreChange} {source' : SqliteUiEventSource} {c : Option String}
    (hb : s.Behind sessionId c) (happ : s.source.append x.event = some source') :
    Behind sessionId
      { s with
        source := source'
        announced := s.announced ++ [x]
        appended :=
          if x.event.sessionId = sessionId then s.appended ++ [x.event] else s.appended } c := by
  have hsession := SqliteUiEventSource.session_append happ sessionId
  by_cases hx : x.event.sessionId = sessionId
  · rw [if_pos hx] at hsession
    simp only [if_pos hx]
    refine ⟨?_, ?_, ?_, ?_, ?_⟩
    · rw [hsession]
      exact hb.known.append _
    · rw [hsession]
      exact hb.known_last.append _
    · rw [hsession, since_append hb.known, hb.since_cursor]
    · rw [hsession, since_append hb.known_last, ← List.append_assoc, hb.since_last]
    · intro y hy hys hm
      rcases List.mem_append.mp hy with hy | hy
      · exact List.mem_append_left _ (hb.missed y hy hys hm)
      · rw [List.mem_singleton.mp hy]
        exact List.mem_append_right _ (List.mem_singleton_self _)
  · rw [if_neg hx] at hsession
    simp only [if_neg hx]
    refine ⟨?_, ?_, ?_, ?_, ?_⟩
    · rw [hsession]
      exact hb.known
    · rw [hsession]
      exact hb.known_last
    · rw [hsession, hb.since_cursor]
    · rw [hsession, hb.since_last]
    · intro y hy hys hm
      rcases List.mem_append.mp hy with hy | hy
      · exact hb.missed y hy hys hm
      · rw [List.mem_singleton.mp hy] at hys
        exact absurd hys hx

theorem following_announce {x : StoreChange} (hi : s.Following sessionId)
    (ht : Timely sessionId s (.announce x)) (h : s.announce sessionId x = some s') :
    s'.Following sessionId := by
  unfold announce at h
  split at h
  swap
  · cases h
  next hx =>
  obtain ⟨source', happ, rfl⟩ := Option.map_eq_some_iff.mp h
  refine ⟨?_, ?_, ?_⟩
  · intro y hy
    rcases List.mem_append.mp hy with hy | hy
    · exact hi.committed y hy
    · rw [List.mem_singleton.mp hy]
      exact hx
  · intro hnone
    obtain ⟨happended, hreceived, hbefore⟩ := hi.before hnone
    have hnone' : s.cursor = none := hnone
    refine ⟨?_, hreceived, ?_⟩
    · simp [hnone', happended]
    · intro y hy hys
      rcases List.mem_append.mp hy with hy | hy
      · exact hbefore y hy hys
      · rw [List.mem_singleton.mp hy] at hys ⊢
        exact ht hnone hys
  · intro c hc
    obtain ⟨hreads, hb⟩ := hi.behind c hc
    have hsome : s.cursor.isSome = true := by
      rw [show s.cursor = some c from hc]
      rfl
    simp only [hsome, true_and]
    exact ⟨hreads, behind_announce hb happ⟩

theorem following_read (hi : s.Following sessionId) (h : s.read = some s') :
    s'.Following sessionId := by
  unfold read at h
  split at h
  · cases h
  · next store rest hreads =>
    cases h
    refine ⟨hi.committed, ?_, ?_⟩
    · intro hnone
      obtain ⟨happended, hreceived, hbefore⟩ := hi.before hnone
      refine ⟨happended, hreceived, ?_⟩
      rintro x hx hxs ⟨r, hr, hrs, hmiss⟩
      rcases List.mem_append.mp hr with hr | hr
      · exact hbefore x hx hxs ⟨r, hr, hrs, hmiss⟩
      · rw [List.mem_singleton.mp hr] at hrs hmiss
        apply hmiss
        rw [List.mem_filter]
        exact ⟨hi.committed x hx, by simpa using hrs.symm⟩
    · intro c hc
      rw [(hi.behind c hc).1] at hreads
      cases hreads

theorem following_readCursor (hi : s.Following sessionId)
    (h : s.readCursor sessionId = some s') : s'.Following sessionId := by
  unfold readCursor at h
  split at h
  · next hreads hnone =>
    cases h
    obtain ⟨happended, hreceived, hbefore⟩ := hi.before hnone
    obtain ⟨hknown, hsince⟩ := s.source.latestCursor_spec sessionId
    refine ⟨hi.committed, ?_, ?_⟩
    · intro hc
      cases hc
    · intro c hc
      cases hc
      refine ⟨hreads, hknown, hknown, ?_, ?_, ?_⟩
      · rw [hsince, happended]
      · rw [hsince, happended, hreceived, List.append_nil]
      · intro x hx hxs hm
        exact absurd hm (hbefore x hx hxs)
  · cases h

theorem following_follow {newId : String} (hi : s.Following sessionId)
    (h : s.follow sessionId newId = some s') : s'.Following sessionId := by
  unfold follow at h
  split at h
  · cases h
  · next c hcursor =>
    cases h
    obtain ⟨hreads, hb⟩ := hi.behind c hcursor
    refine ⟨hi.committed, ?_, ?_⟩
    · intro hc
      rw [show s.cursor = none from hc] at hcursor
      cases hcursor
    · intro c' hc'
      obtain rfl : c = c' := by
        rw [show s.cursor = some c' from hc'] at hcursor
        exact (Option.some.inj hcursor).symm
      rw [SqliteUiEventSource.subscribe_eq hb.known_last]
      have hnodup := s.source.nodup_session sessionId
      refine ⟨hreads, hb.known, hb.known_last.follow hnodup, hb.since_cursor, ?_, hb.missed⟩
      rw [since_follow hnodup, List.append_nil, hb.since_last]

theorem following_step {a : SnapshotAction} (hi : s.Following sessionId)
    (ht : Timely sessionId s a) (h : step sessionId s a = some s') : s'.Following sessionId := by
  cases a with
  | commit x => exact following_commit hi h
  | announce x => exact following_announce hi ht h
  | read => exact following_read hi h
  | readCursor => exact following_readCursor hi h
  | subscribe newId => exact following_follow hi h

theorem Following.complete (hi : s.Following sessionId) : s.Complete sessionId := by
  intro c hc newId
  obtain ⟨-, hb⟩ := hi.behind c hc
  rw [SqliteUiEventSource.subscribe_eq hb.known, SqliteUiEventSource.subscribe_eq hb.known_last,
    hb.since_cursor]
  exact ⟨fun x _ hxs hm ha => hb.missed x ha hxs hm, rfl, hb.since_last⟩

/-- The query begins: nothing is read, and nothing has happened beside it. -/
def start (source : SqliteUiEventSource) (reads : List SnapshotStore) : SnapshotWorld where
  source := source
  reads := reads

theorem following_start (sessionId : String) (source : SqliteUiEventSource)
    (reads : List SnapshotStore) : (start source reads).Following sessionId := by
  refine ⟨?_, ?_, ?_⟩
  · intro x hx
    cases hx
  · intro _
    refine ⟨rfl, rfl, ?_⟩
    intro x hx
    cases hx
  · intro c hc
    cases hc

/-- **A snapshot and its events miss nothing**, unless a change that the query has missed is
announced before the cursor is read. -/
theorem misses_nothing (sessionId : String) (source : SqliteUiEventSource)
    (reads : List SnapshotStore) (actions : List SnapshotAction) (s : SnapshotWorld)
    (htimely : Along (step sessionId) (Timely sessionId) (start source reads) actions)
    (h : execAll (step sessionId) (start source reads) actions = some s) :
    s.Complete sessionId := by
  refine Following.complete ?_
  refine execAll_invariant (I := fun s => s.Following sessionId) ?_ actions _ s
    (following_start sessionId source reads) htimely h
  intro s a s' hi ht hs
  exact following_step hi ht hs

/-! ### Concrete runs -/

/-- A new message of the session `s`. -/
def newMessage : StoreChange where
  store := .messages
  event :=
    { eventId := "e", sessionId := "s", eventType := .messageAppended, cursor := "evt_1" }

/-- The reads up to that of the messages, and the others. -/
def readsMessages : List SnapshotAction := List.replicate 12 .read

def readsRest : List SnapshotAction := List.replicate 4 .read

/-- The message comes after its store was read, and is announced to the page. -/
def lateRun : List SnapshotAction :=
  readsMessages ++ .commit newMessage :: readsRest ++
    [.readCursor, .announce newMessage, .subscribe "n"]

/-- It is announced while the query goes on. -/
def earlyRun : List SnapshotAction :=
  readsMessages ++ .commit newMessage :: .announce newMessage :: readsRest ++
    [.readCursor, .subscribe "n"]

/-- The world after a run of the session `s`. -/
def afterRun (actions : List SnapshotAction) : SnapshotWorld :=
  (execAll (step "s") (start .empty snapshotReads) actions).getD (start .empty [])

theorem execAll_afterRun {actions : List SnapshotAction}
    (h : (execAll (step "s") (start .empty snapshotReads) actions).isSome = true) :
    execAll (step "s") (start .empty snapshotReads) actions = some (afterRun actions) := by
  obtain ⟨s, hs⟩ := Option.isSome_iff_exists.mp h
  rw [afterRun, hs, Option.getD_some]

instance (sessionId : String) (s : SnapshotWorld) (a : SnapshotAction) :
    Decidable (Timely sessionId s a) :=
  match a with
  | .announce x =>
    inferInstanceAs (Decidable (s.cursor = none → x.event.sessionId = sessionId → ¬s.Missed x))
  | .commit _ | .read | .readCursor | .subscribe _ => .isTrue trivial

/-- The message is not in the snapshot, and the page gets it. -/
theorem misses_nothing_late :
    (afterRun lateRun).Missed newMessage ∧ (afterRun lateRun).received = [newMessage.event] ∧
      (afterRun lateRun).Complete "s" := by
  refine ⟨by decide +kernel, by decide +kernel, ?_⟩
  exact misses_nothing "s" .empty snapshotReads lateRun _ (by decide +kernel)
    (execAll_afterRun (by decide +kernel))

/-- The message is neither in the snapshot nor behind its cursor. -/
theorem message_lost :
    execAll (step "s") (start .empty snapshotReads) earlyRun = some (afterRun earlyRun) ∧
      newMessage ∈ (afterRun earlyRun).announced ∧ (afterRun earlyRun).Missed newMessage ∧
      (afterRun earlyRun).received = [] ∧ ¬(afterRun earlyRun).Complete "s" := by
  have hlost : (afterRun earlyRun).source.subscribe "s" (some "evt_1") "n" = [] := by
    decide +kernel
  refine ⟨execAll_afterRun (by decide +kernel), by decide +kernel, by decide +kernel,
    by decide +kernel, ?_⟩
  intro hcomplete
  obtain ⟨hbehind, -⟩ := hcomplete (some "evt_1") (by decide +kernel) "n"
  have hmem := hbehind newMessage (by decide +kernel) rfl (by decide +kernel) (by decide +kernel)
  rw [hlost] at hmem
  cases hmem

end SnapshotWorld

end Taskweavn

import Taskweavn.Task.PublishService

/-!
# Concurrent publish calls

What holds when any number of calls of the publish service are interleaved, and
others use the bus in between.

Two things hold in every run.  A node of a key is published at most once: its task
id is a function of the session, the publisher kind, the key and the node, the bus
refuses an id that it has, and it never forgets one (`Stored`).  And accepted
results for equal requests name equal ids, because they are computed from the
content of the request (`Named`).

The third does not: a call that has looked its key up before another one has
stored its record goes on, whatever the record says.  `NotOvertaken` is the
condition under which this does not happen.
-/

namespace Taskweavn

open Lib Py

/-! ### The ids of a content -/

namespace NormalizedTaskNode

mutual

theorem ids_content : ∀ n : NormalizedTaskNode,
    n.content.collectNodes.map nodeId = n.collectNodes.map nodeId
  | ⟨i, p, t, x, s, y, a, c, r, children, m⟩ => by
    rw [content, collectNodes, collectNodes, List.map_cons, List.map_cons, ids_contents children]

theorem ids_contents : ∀ l : List NormalizedTaskNode,
    (collectAll (contents l)).map nodeId = (collectAll l).map nodeId
  | [] => rfl
  | n :: rest => by
    rw [contents, collectAll, collectAll, List.map_append, List.map_append, ids_content n,
      ids_contents rest]

end

theorem map_nodeId_contents (l : List NormalizedTaskNode) :
    (contents l).map nodeId = l.map nodeId := by
  induction l with
  | nil => rfl
  | cons n l ih =>
    obtain ⟨i, p, t, x, s, y, a, c, r, children, m⟩ := n
    rw [contents, List.map_cons, List.map_cons, ih, content]

end NormalizedTaskNode

namespace RequestContent

def taskId (U : Uuid5) (c : RequestContent) (key nodeId : String) : String :=
  U.hex
    { sessionId := c.sessionId
      publisherKind := c.publisher.kind
      idempotencyKey := key
      sourceNodeId := nodeId }

def Names (U : Uuid5) (c : RequestContent) (r : PublishResult) : Prop :=
  ∃ key tree, c.idempotencyKey = some key ∧ c.taskTree = some tree ∧
    r.publishedTaskIds = ((NormalizedTaskNode.collectAll tree.rootNodes).map
      NormalizedTaskNode.nodeId).map (c.taskId U key) ∧
    r.rootTaskIds = (tree.rootNodes.map NormalizedTaskNode.nodeId).map (c.taskId U key)

theorem Names.unique {U : Uuid5} {c : RequestContent} {r r' : PublishResult} (h : c.Names U r)
    (h' : c.Names U r') :
    r.publishedTaskIds = r'.publishedTaskIds ∧ r.rootTaskIds = r'.rootTaskIds := by
  obtain ⟨key, tree, hkey, htree, hids, hroots⟩ := h
  obtain ⟨key', tree', hkey', htree', hids', hroots'⟩ := h'
  obtain rfl : key = key' := Option.some.inj (hkey.symm.trans hkey')
  obtain rfl : tree = tree' := Option.some.inj (htree.symm.trans htree')
  exact ⟨hids.trans hids'.symm, hroots.trans hroots'.symm⟩

end RequestContent

theorem PublishRequest.names_wanted {U : Uuid5} {request : PublishRequest} (env : PublishEnv)
    {tree : NormalizedTaskTree} {r : PublishResult} (hkey : request.idempotencyKey.isSome = true)
    (htree : request.taskTree = some tree)
    (hids : r.publishedTaskIds =
      (DefaultTaskPublisher.wanted U request tree env).1.map TaskDomain.taskId)
    (hroots : r.rootTaskIds = (DefaultTaskPublisher.wanted U request tree env).2.2) :
    request.content.Names U r := by
  obtain ⟨key, hkey⟩ := Option.isSome_iff_exists.mp hkey
  refine ⟨key, tree.content, hkey, by rw [content, htree]; rfl, ?_, ?_⟩
  · rw [hids, DefaultTaskPublisher.ids_wanted hkey]
    rw [show tree.content.rootNodes = NormalizedTaskNode.contents tree.rootNodes from rfl,
      NormalizedTaskNode.ids_contents, List.map_map]
    rfl
  · rw [hroots, DefaultTaskPublisher.roots_wanted hkey]
    rw [show tree.content.rootNodes = NormalizedTaskNode.contents tree.rootNodes from rfl,
      NormalizedTaskNode.map_nodeId_contents, List.map_map]
    rfl

/-! ### A step inverted -/

namespace TaskPublishService

open DefaultTaskPublisher (wanted)

section

variable {B : Type} [TaskBus B]

/-- The ways in which a call goes on. -/
inductive Moves (svc : TaskPublishService) (s : ServiceState B) (request : PublishRequest)
    (env : PublishEnv) : CallPhase → CallPhase → ServiceState B → Prop
  | replayed (record : PublishIdempotencyRecord) (hrec : recordOf s.store request = some record)
      (hash : record.requestHash = svc.requestHash request) :
      Moves svc s request env .lookup (.returned record.publishResult) s
  | conflict (result : PublishResult) (h : result.accepted = false) :
      Moves svc s request env .lookup (.returned result) s
  | missed (h : recordOf s.store request = none) : Moves svc s request env .lookup .preview s
  | previewed : Moves svc s request env .preview .check s
  | skipped (phase : CallPhase) (hphase : phase = .preview ∨ phase = .check)
      (result : PublishResult) (h : result.accepted = false) :
      Moves svc s request env phase (.store result) s
  | found (tree : NormalizedTaskTree) (htree : request.taskTree = some tree)
      (result : PublishResult)
      (h : result.publishedTaskIds = (wanted svc.uuid5 request tree env).1.map TaskDomain.taskId ∧
        result.rootTaskIds = (wanted svc.uuid5 request tree env).2.2) :
      Moves svc s request env .check (.store result) s
  | unchecked (e : BusError) : Moves svc s request env .check (.raised e) s
  | begun (tree : NormalizedTaskTree) (htree : request.taskTree = some tree) :
      Moves svc s request env .check (.publish tree []
        ((tree.iterNodes.map NormalizedTaskNode.nodeId).zip
          (wanted svc.uuid5 request tree env).1)) s
  | failed (tree : NormalizedTaskTree) (published : List TaskDomain) (nodeId : String)
      (task : TaskDomain) (rest : List (String × TaskDomain)) (e : BusError) (bus : B)
      (h : TaskBus.publish s.bus task = (.error e, bus)) :
      Moves svc s request env (.publish tree published ((nodeId, task) :: rest)) (.raised e)
        { s with bus := bus }
  | published (tree : NormalizedTaskTree) (published : List TaskDomain) (nodeId : String)
      (task u : TaskDomain) (rest : List (String × TaskDomain)) (bus : B)
      (h : TaskBus.publish s.bus task = (.ok u, bus)) :
      Moves svc s request env (.publish tree published ((nodeId, task) :: rest))
        (.publish tree (published ++ [u]) rest)
        { s with
          bus := bus
          publications := s.publications ++
            [{ request := request, nodeId := nodeId, task := u
               recorded := recordOf s.store request }] }
  | completed (tree : NormalizedTaskTree) (published : List TaskDomain) :
      Moves svc s request env (.publish tree published [])
        (.store (DefaultTaskPublisher.publishedResult request published
          (wanted svc.uuid5 request tree env).2.1 (wanted svc.uuid5 request tree env).2.2 env)) s
  | stored (result : PublishResult) :
      Moves svc s request env (.store result) (.returned result)
        { s with store := svc.storeIdempotency s.store request result }

variable {svc : TaskPublishService} {s s' : ServiceState B} {request : PublishRequest}
  {env : PublishEnv} {phase phase' : CallPhase}

theorem lookup_cases (svc : TaskPublishService) (s : ServiceState B) (request : PublishRequest)
    (env : PublishEnv) :
    ∃ phase', svc.advance s request env .lookup = some (phase', s) ∧
      Moves svc s request env .lookup phase' s := by
  simp only [advance]
  cases hkey : request.idempotencyKey with
  | none =>
    refine ⟨.preview, by simp only [checkIdempotency, hkey], .missed ?_⟩
    simp only [recordOf, PublishRequest.recordKey, hkey]
    rfl
  | some key =>
    have hrec : recordOf s.store request =
        s.store.get request.sessionId request.publisher.kind key := by
      simp only [recordOf, PublishRequest.recordKey, hkey]
      rfl
    cases hget : s.store.get request.sessionId request.publisher.kind key with
    | none =>
      exact ⟨.preview, by simp only [checkIdempotency, hkey, hget], .missed (hrec.trans hget)⟩
    | some record =>
      by_cases hash : record.requestHash ≠ svc.requestHash request
      · refine ⟨_, by simp only [checkIdempotency, hkey, hget, if_pos hash]; rfl, ?_⟩
        exact .conflict _ rfl
      · exact ⟨_, by simp only [checkIdempotency, hkey, hget, if_neg hash],
          .replayed record (hrec.trans hget) (not_not.mp hash)⟩

theorem check_moves (svc : TaskPublishService) (s : ServiceState B) (request : PublishRequest)
    (env : PublishEnv) :
    Moves svc s request env .check (svc.checkStep s.bus request env) s := by
  unfold checkStep
  by_cases hprev : DefaultTaskPublisher.preview request ≠ []
  · rw [if_pos hprev]
    exact .skipped _ (.inr rfl) _ rfl
  by_cases hdry : request.options.dryRun = true
  · rw [if_neg hprev, if_pos hdry]
    exact .skipped _ (.inr rfl) _ rfl
  · rw [if_neg hprev, if_neg hdry]
    cases htree : request.taskTree with
    | none => exact .skipped _ (.inr rfl) _ rfl
    | some tree =>
      simp only
      cases hkey : request.idempotencyKey with
      | none => exact .begun tree htree
      | some key =>
        simp only [Option.isSome_some, if_true]
        cases hex : DefaultTaskPublisher.resultFromExistingIdempotentTasks s.bus request
            (wanted svc.uuid5 request tree env).1 (wanted svc.uuid5 request tree env).2.1
            (wanted svc.uuid5 request tree env).2.2 env with
        | error e => exact .unchecked e
        | ok o =>
          cases o with
          | none => exact .begun tree htree
          | some result =>
            cases hacc : result.accepted with
            | false => exact .skipped _ (.inr rfl) _ hacc
            | true =>
              obtain ⟨rfl, _⟩ := DefaultTaskPublisher.resultFromExisting_accepted
                (DefaultTaskPublisher.nodup_wanted hkey) hex hacc
              exact .found tree htree _ ⟨rfl, rfl⟩

/-- **A step of a call inverted.** -/
theorem advance_cases (h : svc.advance s request env phase = some (phase', s')) :
    Moves svc s request env phase phase' s' := by
  cases phase with
  | lookup =>
    obtain ⟨p, hp, hmove⟩ := lookup_cases svc s request env
    rw [hp] at h
    cases h
    exact hmove
  | preview =>
    simp only [advance] at h
    split_ifs at h with hprev
    · cases h
      exact .skipped _ (.inl rfl) _ rfl
    · cases h
      exact .previewed
  | check =>
    cases h
    exact check_moves svc s request env
  | publish tree published rest =>
    cases rest with
    | nil =>
      cases h
      exact .completed tree published
    | cons x rest =>
      obtain ⟨nodeId, task⟩ := x
      rcases hp : TaskBus.publish s.bus task with ⟨_ | u, bus⟩
      · simp only [advance, hp] at h
        cases h
        exact .failed tree published nodeId task rest _ bus hp
      · simp only [advance, hp] at h
        cases h
        exact .published tree published nodeId task u rest bus hp
  | store result =>
    cases h
    exact .stored result
  | returned result => cases h
  | raised e => cases h

/-- **A step inverted.** -/
theorem step_cases {a : ServiceAction} (h : svc.step s a = some s') :
    (∃ request env, a = .start request env ∧
      s' = { s with calls := s.calls ++ [svc.begin request env] }) ∨
    (∃ n call phase t, a = .advance n ∧ s.calls[n]? = some call ∧
      Moves svc s call.request call.env call.phase phase t ∧
      s' = { t with calls := s.calls.set n { call with phase := phase } }) ∨
    ∃ c, a = .other c ∧ s' = { s with bus := (TaskBus.step s.bus c).2 } := by
  cases a with
  | start request env =>
    cases h
    exact .inl ⟨request, env, rfl, rfl⟩
  | other c =>
    cases h
    exact .inr (.inr ⟨c, rfl, rfl⟩)
  | advance n =>
    obtain ⟨call, hc, hmap⟩ := Option.bind_eq_some_iff.mp h
    obtain ⟨⟨phase, t⟩, hadv, rfl⟩ := Option.map_eq_some_iff.mp hmap
    refine .inr (.inl ⟨n, call, phase, t, rfl, hc, advance_cases hadv, ?_⟩)
    simp only [advance_calls hadv]

theorem forall_set {P : PublishCall → Prop} {calls : List PublishCall} {n : ℕ} {call : PublishCall}
    (h : ∀ c ∈ calls, P c) (hcall : P call) : ∀ c ∈ calls.set n call, P c := by
  intro c hc
  rcases List.mem_or_eq_of_mem_set hc with hmem | rfl
  · exact h c hmem
  · exact hcall

theorem get?_storeIdempotency (svc : TaskPublishService) (store : InMemoryPublishIdempotencyStore)
    (request : PublishRequest) (result : PublishResult) (k : RecordKey) :
    (svc.storeIdempotency store request result).records.get? k = store.records.get? k ∨
    request.recordKey = some k ∧ store.records.get? k = none ∧
      ∃ record, (svc.storeIdempotency store request result).records.get? k = some record ∧
        record.requestHash = svc.requestHash request ∧ record.publishResult = result := by
  unfold storeIdempotency
  cases hkey : request.idempotencyKey with
  | none => exact .inl rfl
  | some key =>
    simp only
    split_ifs with hskip
    · exact .inl rfl
    · simp only [InMemoryPublishIdempotencyStore.put, PublishIdempotencyRecord.key]
      cases hget : store.records.get? (request.sessionId, request.publisher.kind, key) with
      | some current =>
        left
        simp only
        split_ifs <;> rfl
      | none =>
        by_cases hk : (request.sessionId, request.publisher.kind, key) = k
        · right
          subst hk
          refine ⟨by simp only [PublishRequest.recordKey, hkey]; rfl, hget, _,
            Dict.get?_set_self _ _ _, rfl, rfl⟩
        · exact .inl (Dict.get?_set_ne _ _ hk)

end

/-! ### What every run keeps -/

section

open ShadowedBus

variable {B : Type} [ShadowedBus B] {svc : TaskPublishService} {S : Set RequestContent}
  {s s' : ServiceState B} {request : PublishRequest} {env : PublishEnv} {phase phase' : CallPhase}

/-- A call publishes what its request stands for, and its result names it. -/
def PhaseOk (svc : TaskPublishService) (request : PublishRequest) (env : PublishEnv) :
    CallPhase → Prop
  | .publish tree published rest =>
    request.taskTree = some tree ∧
      published ++ rest.map Prod.snd = (wanted svc.uuid5 request tree env).1 ∧
      ∀ x ∈ rest, ∃ node ∈ tree.iterNodes, ∃ n, x.1 = node.nodeId ∧
        x.2 = request.taskForNode tree (request.taskIdsForRequest svc.uuid5 tree env)
          tree.rootByNode env node n
  | .store result | .returned result =>
    result.accepted = true → request.idempotencyKey.isSome = true →
      request.content.Names svc.uuid5 result
  | _ => True

/-- The calls have contents in `S`, and are where they should be. -/
def CallsOk (svc : TaskPublishService) (S : Set RequestContent) (s : ServiceState B) : Prop :=
  ∀ c ∈ s.calls, c.request.content ∈ S ∧ PhaseOk svc c.request c.env c.phase

/-- A record belongs to a content in `S`. -/
def RecordsOk (svc : TaskPublishService) (S : Set RequestContent) (s : ServiceState B) : Prop :=
  ∀ k record, s.store.records.get? k = some record → ∃ c ∈ S, record.requestHash = svc.sha256 c ∧
    (record.publishResult.accepted = true → c.idempotencyKey.isSome = true →
      c.Names svc.uuid5 record.publishResult)

/-- No node is published twice, and the task of a node stays on the bus. -/
def Stored (svc : TaskPublishService) (s : ServiceState B) : Prop :=
  (s.publications.filterMap Publication.payload).Nodup ∧
    ∃ m, Shadow m s.bus ∧ ∀ p ∈ s.publications.filterMap Publication.payload,
      (m.get p.sessionId (svc.uuid5.hex p)).isSome = true

theorem mem_zip_wanted {U : Uuid5} {tree : NormalizedTaskTree} {x : String × TaskDomain}
    (h : x ∈ (tree.iterNodes.map NormalizedTaskNode.nodeId).zip (wanted U request tree env).1) :
    ∃ node ∈ tree.iterNodes, ∃ n, x.1 = node.nodeId ∧
      x.2 = request.taskForNode tree (request.taskIdsForRequest U tree env) tree.rootByNode env
        node n := by
  obtain ⟨n, hn⟩ := List.getElem?_of_mem h
  obtain ⟨hid, htask⟩ := List.getElem?_zip_eq_some.mp hn
  rw [List.getElem?_map, Option.map_eq_some_iff] at hid
  obtain ⟨node, hnode, hid⟩ := hid
  refine ⟨node, List.mem_of_getElem? hnode, n, hid.symm, ?_⟩
  simp only [DefaultTaskPublisher.wanted, PublishRequest.tasksForRequest, List.getElem?_map,
    List.getElem?_zipIdx, hnode, Option.map_some, Option.some.injEq, Nat.zero_add] at htask
  exact htask.symm

theorem phaseOk_moves (hS : Set.InjOn svc.sha256 S) (hrecs : RecordsOk svc S s)
    (hmem : request.content ∈ S) (h : PhaseOk svc request env phase)
    (hm : Moves svc s request env phase phase' s') : PhaseOk svc request env phase' := by
  cases hm with
  | replayed record hrec hash =>
    intro hacc hkey
    obtain ⟨k, _, hget⟩ := Option.bind_eq_some_iff.mp hrec
    obtain ⟨c, hc, hsha, hnames⟩ := hrecs k record hget
    -- the hashes are equal, so the record belongs to the same content
    obtain rfl : c = request.content := hS hc hmem (hsha.symm.trans hash)
    exact hnames hacc hkey
  | conflict result hres =>
    intro hacc
    rw [hres] at hacc
    cases hacc
  | missed => trivial
  | previewed => trivial
  | skipped _ _ result hres =>
    intro hacc
    rw [hres] at hacc
    cases hacc
  | found tree htree result hres =>
    intro _ hkey
    exact PublishRequest.names_wanted env hkey htree hres.1 hres.2
  | unchecked => trivial
  | begun tree htree =>
    refine ⟨htree, ?_, fun x hx => mem_zip_wanted hx⟩
    rw [List.nil_append, snd_zip_wanted]
  | failed => trivial
  | published tree published nodeId task u rest bus hp =>
    obtain ⟨htree, hlist, hrest⟩ := h
    obtain rfl : u = task := publish_reply (congrArg Prod.fst hp)
    refine ⟨htree, ?_, fun x hx => hrest x (List.mem_cons_of_mem _ hx)⟩
    rw [List.append_assoc]
    exact hlist
  | completed tree published =>
    obtain ⟨htree, hlist, _⟩ := h
    intro _ hkey
    refine PublishRequest.names_wanted env hkey htree ?_ rfl
    rw [← hlist, List.map_nil, List.append_nil]
    rfl
  | stored => exact h

theorem recordsOk_moves (hrecs : RecordsOk svc S s) (hmem : request.content ∈ S)
    (h : PhaseOk svc request env phase) (hm : Moves svc s request env phase phase' s') :
    RecordsOk svc S s' := by
  cases hm with
  | stored result =>
    intro k record hget
    rcases get?_storeIdempotency svc s.store request result k with hsame | ⟨_, _, r, hr, hash, hres⟩
    · exact hrecs k record (hsame.symm.trans hget)
    · obtain rfl : r = record := Option.some.inj (hr.symm.trans hget)
      refine ⟨request.content, hmem, hash, ?_⟩
      rw [hres]
      exact h
  | _ => exact hrecs

theorem stored_moves (hst : Stored svc s) (h : PhaseOk svc request env phase)
    (hm : Moves svc s request env phase phase' s') : Stored svc s' := by
  cases hm with
  | failed tree published nodeId task rest e bus hp =>
    obtain ⟨hnodup, m, hsh, hget⟩ := hst
    obtain ⟨_, _, hrest⟩ := h
    obtain ⟨node, hnode, n, _, htask⟩ := hrest _ List.mem_cons_self
    have hvalid : task.Valid := by
      simp only at htask
      rw [htask]
      exact PublishRequest.valid_taskForNode hnode n
    obtain ⟨m', hm', hkeep⟩ := present_step hsh ⟨.publish task hvalid, .sample⟩
    have hbus : (TaskBus.step s.bus ⟨.publish task hvalid, .sample⟩).2 = bus :=
      congrArg Prod.snd hp
    rw [hbus] at hm'
    exact ⟨hnodup, m', hm', fun p hp' => hkeep _ _ (hget p hp')⟩
  | published tree published nodeId task u rest bus hp =>
    obtain ⟨hnodup, m, hsh, hget⟩ := hst
    obtain ⟨_, _, hrest⟩ := h
    obtain ⟨node, hnode, n, hid, htask⟩ := hrest _ List.mem_cons_self
    simp only at hid htask
    have hvalid : task.Valid := by
      rw [htask]
      exact PublishRequest.valid_taskForNode hnode n
    obtain ⟨rfl, hsh', habsent, hnow⟩ :=
      DefaultTaskPublisher.publish_shadow hsh hvalid (congrArg Prod.fst hp)
    rw [hp] at hsh'
    have hkeep : ∀ a i, (m.get a i).isSome = true → ((m.publish u).2.get a i).isSome = true := by
      intro a i hi
      obtain ⟨v, hv⟩ := Option.isSome_iff_exists.mp hi
      rw [DefaultTaskPublisher.get_publish (keyed hsh) u hvalid hv]
      rfl
    simp only [Stored, List.filterMap_append, List.filterMap_cons, List.filterMap_nil]
    cases hkey : request.idempotencyKey with
    | none =>
      simp only [Publication.payload, hkey, Option.map_none, List.append_nil]
      exact ⟨hnodup, _, hsh', fun p hp' => hkeep _ _ (hget p hp')⟩
    | some key =>
      simp only [Publication.payload, hkey, Option.map_some]
      have hhex : u.taskId = svc.uuid5.hex
        ⟨request.sessionId, request.publisher.kind, key, nodeId⟩ := by
        rw [htask, DefaultTaskPublisher.taskId_taskForNode hkey hnode, hid]
        rfl
      have hsession : u.sessionId = request.sessionId := by rw [htask]; rfl
      rw [hhex, hsession] at habsent hnow
      refine ⟨?_, _, hsh', ?_⟩
      · refine List.nodup_append.mpr ⟨hnodup, List.nodup_singleton _, ?_⟩
        intro p hp' q hq
        rw [List.mem_singleton.mp hq]
        rintro rfl
        have := hget _ hp'
        rw [habsent] at this
        cases this
      · intro p hp'
        rcases List.mem_append.mp hp' with hold | hnew
        · exact hkeep _ _ (hget p hold)
        · rw [List.mem_singleton.mp hnew, hnow]
          rfl
  | _ => exact hst

/-- Everything that holds in every run. -/
structure Sound (svc : TaskPublishService) (S : Set RequestContent) (s : ServiceState B) :
    Prop where
  calls : CallsOk svc S s
  records : RecordsOk svc S s
  stored : Stored svc s

/-- A call that begins has its content in `S`. -/
def Begins (svc : TaskPublishService) (S : Set RequestContent) : ServiceAction → Prop
  | .start request env => (svc.begin request env).request.content ∈ S
  | _ => True

theorem phaseOk_begin (request : PublishRequest) (env : PublishEnv) :
    PhaseOk svc (svc.begin request env).request (svc.begin request env).env
      (svc.begin request env).phase := by
  unfold begin
  cases svc.expandPipelineOrNone request with
  | none =>
    intro hacc
    cases hacc
  | some effective => trivial

theorem sound_step (hS : Set.InjOn svc.sha256 S) {a : ServiceAction} (h : Sound svc S s)
    (ha : Begins svc S a) (hstep : svc.step s a = some s') : Sound svc S s' := by
  obtain ⟨request, env, rfl, rfl⟩ | ⟨n, call, phase, t, rfl, hcall, hm, rfl⟩ | ⟨c, rfl, rfl⟩ :=
    step_cases hstep
  · refine ⟨?_, h.records, h.stored⟩
    intro c hc
    rcases List.mem_append.mp hc with hc | hc
    · exact h.calls c hc
    · rw [List.mem_singleton.mp hc]
      exact ⟨ha, phaseOk_begin request env⟩
  · obtain ⟨hmem, hphase⟩ := h.calls call (List.mem_of_getElem? hcall)
    have hrecords : RecordsOk svc S t := recordsOk_moves h.records hmem hphase hm
    have hstored : Stored svc t := stored_moves h.stored hphase hm
    exact ⟨forall_set h.calls ⟨hmem, phaseOk_moves hS h.records hmem hphase hm⟩, hrecords, hstored⟩
  · obtain ⟨hnodup, m, hsh, hget⟩ := h.stored
    obtain ⟨m', hm', hkeep⟩ := present_step hsh c
    exact ⟨h.calls, h.records, hnodup, m', hm', fun p hp => hkeep _ _ (hget p hp)⟩

/-! ### Being overtaken -/

end

end TaskPublishService

/-- The call has looked its key up, and has tasks to publish. -/
def CallPhase.mayPublish : CallPhase → Bool
  | .preview => true
  | .check => true
  | .publish _ _ rest => !rest.isEmpty
  | _ => false

namespace TaskPublishService

section

variable {B : Type}

/-- No call stores the record of its key while a call with the same key and another
content has tasks to publish. -/
def NotOvertaken (s : ServiceState B) : ServiceAction → Prop
  | .advance n => ∀ call result k, s.calls[n]? = some call → call.phase = .store result →
    result.metadata.get? "skip_idempotency_record" ≠ some (.bool true) →
    call.request.recordKey = some k → s.store.records.get? k = none →
    ∀ other ∈ s.calls, other.phase.mayPublish = true → other.request.recordKey = some k →
      other.request.content = call.request.content
  | _ => True

def Agrees (svc : TaskPublishService) (record : Option PublishIdempotencyRecord)
    (request : PublishRequest) : Prop :=
  ∀ r, record = some r → r.requestHash = svc.requestHash request

/-- The calls that have tasks to publish agree with the records of their keys, and
so did those that have published. -/
structure Agreed (svc : TaskPublishService) (s : ServiceState B) : Prop where
  calls : ∀ c ∈ s.calls, c.phase.mayPublish = true →
    Agrees svc (recordOf s.store c.request) c.request
  publications : ∀ p ∈ s.publications, Agrees svc p.recorded p.request

variable [TaskBus B] {svc : TaskPublishService} {s s' : ServiceState B}

theorem agreed_moves {n : ℕ} {call : PublishCall} {phase : CallPhase} {t : ServiceState B}
    (h : Agreed svc s) (hcall : s.calls[n]? = some call) (ha : NotOvertaken s (.advance n))
    (hm : Moves svc s call.request call.env call.phase phase t) :
    Agreed svc { t with calls := s.calls.set n { call with phase := phase } } := by
  have hself := h.calls call (List.mem_of_getElem? hcall)
  have hpubs := h.publications
  have hcalls := h.calls
  obtain ⟨request, env, phase₀⟩ := call
  simp only at hm hself
  cases hm with
  | replayed => exact ⟨forall_set hcalls (by intro hp; cases hp), hpubs⟩
  | conflict => exact ⟨forall_set hcalls (by intro hp; cases hp), hpubs⟩
  | missed hmiss =>
    refine ⟨forall_set hcalls ?_, hpubs⟩
    intro _ r hr
    rw [show recordOf s.store request = some r from hr] at hmiss
    cases hmiss
  | previewed => exact ⟨forall_set hcalls (fun _ => hself rfl), hpubs⟩
  | skipped => exact ⟨forall_set hcalls (by intro hp; cases hp), hpubs⟩
  | found => exact ⟨forall_set hcalls (by intro hp; cases hp), hpubs⟩
  | unchecked => exact ⟨forall_set hcalls (by intro hp; cases hp), hpubs⟩
  | begun => exact ⟨forall_set hcalls (fun _ => hself rfl), hpubs⟩
  | failed => exact ⟨forall_set hcalls (by intro hp; cases hp), hpubs⟩
  | published =>
    refine ⟨forall_set hcalls (fun _ => hself rfl), ?_⟩
    intro p hp
    rcases List.mem_append.mp hp with hp | hp
    · exact hpubs p hp
    · rw [List.mem_singleton.mp hp]
      exact hself rfl
  | completed => exact ⟨forall_set hcalls (by intro hp; cases hp), hpubs⟩
  | stored result =>
    refine ⟨forall_set ?_ (by intro hp; cases hp), hpubs⟩
    intro c hc hp r hr
    obtain ⟨k, hk, hget⟩ := Option.bind_eq_some_iff.mp hr
    rcases get?_storeIdempotency svc s.store request result k with hsame |
      ⟨hkey, hnone, r', hr', hash, _⟩
    · refine hcalls c hc hp r ?_
      rw [recordOf, hk, Option.bind_some]
      exact hsame.symm.trans hget
    · obtain rfl : r' = r := Option.some.inj (hr'.symm.trans hget)
      have hskip : result.metadata.get? "skip_idempotency_record" ≠ some (.bool true) := by
        intro hskip
        have hunchanged : svc.storeIdempotency s.store request result = s.store := by
          unfold storeIdempotency
          cases request.idempotencyKey with
          | none => rfl
          | some key => exact if_pos hskip
        rw [hunchanged, hnone] at hr'
        cases hr'
      rw [hash, requestHash, requestHash, ha _ result k hcall rfl hskip hkey hnone c hc hp hk]

theorem agreed_step {a : ServiceAction} (h : Agreed svc s) (ha : NotOvertaken s a)
    (hstep : svc.step s a = some s') : Agreed svc s' := by
  obtain ⟨request, env, rfl, rfl⟩ | ⟨n, call, phase, t, rfl, hcall, hm, rfl⟩ | ⟨c, rfl, rfl⟩ :=
    step_cases hstep
  · refine ⟨?_, h.publications⟩
    intro c hc hp
    rcases List.mem_append.mp hc with hc | hc
    · exact h.calls c hc hp
    · rw [List.mem_singleton.mp hc] at hp
      unfold begin at hp
      cases hex : svc.expandPipelineOrNone request <;> (rw [hex] at hp; cases hp)
  · exact agreed_moves h hcall ha hm
  · exact ⟨h.calls, h.publications⟩

end

/-! ### Runs -/

section

open ShadowedBus

variable {B : Type}

/-- At most one task was ever published for a node of a key. -/
def PublishedOnce (s : ServiceState B) : Prop :=
  ∀ payload, (s.publications.filter (fun p => p.payload = some payload)).length ≤ 1

/-- Accepted results for the same key and the same content name the same tasks. -/
def SameIds (s : ServiceState B) : Prop :=
  ∀ c ∈ s.calls, ∀ c' ∈ s.calls, ∀ r r', c.phase = .returned r → c'.phase = .returned r' →
    r.accepted = true → r'.accepted = true → c.request.idempotencyKey.isSome = true →
    c.request.content = c'.request.content →
    r.publishedTaskIds = r'.publishedTaskIds ∧ r.rootTaskIds = r'.rootTaskIds

/-- Whoever published a task had the content of the record of its key, if there was
one. -/
def NoConflict (svc : TaskPublishService) (s : ServiceState B) : Prop :=
  ∀ p ∈ s.publications, ∀ record, p.recorded = some record →
    record.requestHash = svc.requestHash p.request

def contents (svc : TaskPublishService) (actions : List ServiceAction) : Set RequestContent :=
  {c | ∃ request env, .start request env ∈ actions ∧ c = (svc.begin request env).request.content}

theorem publishedOnce_of_nodup {s : ServiceState B}
    (h : (s.publications.filterMap Publication.payload).Nodup) : PublishedOnce s := by
  intro payload
  have hcount := List.nodup_iff_count_le_one.mp h payload
  rw [List.count_filterMap, List.countP_eq_length_filter] at hcount
  simpa only [beq_eq_decide] using hcount

variable [ShadowedBus B] {svc : TaskPublishService}

theorem sound_run {b : B} {m : InMemoryTaskBus} (hb : Shadow m b) {actions : List ServiceAction}
    (hinj : Set.InjOn svc.sha256 (contents svc actions)) {s : ServiceState B}
    (hs : execAll svc.step { bus := b } actions = some s) : Sound svc (contents svc actions) s := by
  refine execAll_invariant (A := fun _ a => Begins svc (contents svc actions) a)
    (fun s a s' h ha hstep => sound_step hinj h ha hstep) actions _ s ?_ ?_ hs
  · refine ⟨?_, ?_, List.nodup_nil, m, hb, ?_⟩
    · intro c hc
      cases hc
    · intro k record h
      cases h
    · intro p hp
      cases hp
  · refine along_of_invariant (I := fun _ => True) ?_ (fun _ _ _ _ _ _ => trivial) _ trivial
    intro s a ha _
    cases a with
    | start request env => exact ⟨request, env, ha, rfl⟩
    | advance n => trivial
    | other c => trivial

theorem sameIds_of_sound {S : Set RequestContent} {s : ServiceState B} (h : Sound svc S s) :
    SameIds s := by
  intro c hc c' hc' r r' hr hr' hacc hacc' hkey hcontent
  have hphase := (h.calls c hc).2
  have hphase' := (h.calls c' hc').2
  rw [hr] at hphase
  rw [hr'] at hphase'
  have hkey' : c'.request.idempotencyKey.isSome = true := by
    rw [show c'.request.idempotencyKey = c'.request.content.idempotencyKey from rfl, ← hcontent]
    exact hkey
  have hnames := hphase' hacc' hkey'
  rw [← hcontent] at hnames
  exact (hphase hacc hkey).unique hnames

theorem notOvertaken_of_subsingleton {actions : List ServiceAction}
    (h : (contents svc actions).Subsingleton) (b : B) :
    Along svc.step NotOvertaken { bus := b } actions := by
  refine along_of_invariant
    (I := fun s => ∀ call ∈ s.calls, call.request.content ∈ contents svc actions) ?_ ?_ _
    (fun call hcall => by cases hcall)
  · intro s a _ hs
    cases a with
    | start request env => trivial
    | other c => trivial
    | advance n =>
      intro call result k hcall _ _ _ _ other hother _ _
      exact h (hs other hother) (hs call (List.mem_of_getElem? hcall))
  · intro s a ha s' hs hstep
    obtain ⟨request, env, rfl, rfl⟩ | ⟨n, call, phase, t, rfl, hcall, _, rfl⟩ | ⟨c, rfl, rfl⟩ :=
      step_cases hstep
    · intro call hcall
      rcases List.mem_append.mp hcall with hcall | hcall
      · exact hs call hcall
      · rw [List.mem_singleton.mp hcall]
        exact ⟨request, env, ha, rfl⟩
    · exact forall_set hs (hs call (List.mem_of_getElem? hcall))
    · exact hs

theorem run_once {b : B} {m : InMemoryTaskBus} (hb : Shadow m b) {actions : List ServiceAction}
    (hinj : Set.InjOn svc.sha256 (contents svc actions)) {s : ServiceState B}
    (hs : execAll svc.step { bus := b } actions = some s) :
    PublishedOnce s ∧ SameIds s ∧
      (Along svc.step NotOvertaken { bus := b } actions → NoConflict svc s) := by
  have hsound := sound_run hb hinj hs
  refine ⟨publishedOnce_of_nodup hsound.stored.1, sameIds_of_sound hsound, ?_⟩
  intro halong
  have hagreed := execAll_invariant (I := Agreed svc)
    (fun s a s' h ha hstep => agreed_step h ha hstep) actions _ s
    ⟨by simp, by simp⟩ halong hs
  exact hagreed.publications

end

/-- **Interleaved publish calls.**  In every run a node of a key is published at most
once, and accepted results for the same key and content name the same tasks.  In a
run in which no call is overtaken, a request whose content differs from the record of
its key publishes nothing. -/
theorem one_task_set (svc : TaskPublishService) (actions : List ServiceAction)
    (hinj : Set.InjOn svc.sha256 (contents svc actions)) :
    (∀ s, execAll svc.step ({ bus := InMemoryTaskBus.empty } : ServiceState InMemoryTaskBus)
        actions = some s →
      PublishedOnce s ∧ SameIds s ∧
        (Along svc.step NotOvertaken { bus := InMemoryTaskBus.empty } actions →
          NoConflict svc s)) ∧
    (∀ s, execAll svc.step ({ bus := SqliteTaskBus.empty } : ServiceState SqliteTaskBus)
        actions = some s →
      PublishedOnce s ∧ SameIds s ∧
        (Along svc.step NotOvertaken { bus := SqliteTaskBus.empty } actions →
          NoConflict svc s)) := by
  constructor
  · intro s hs
    exact run_once shadow_inMemory_empty hinj hs
  · intro s hs
    exact run_once shadow_sqlite_empty hinj hs

/-- The hashes of the two sample requests. -/
def sample : TaskPublishService where
  uuid5 := .sample
  sha256 c :=
    if c.taskTree.map (fun tree => tree.rootNodes.map NormalizedTaskNode.nodeId) = some ["a"] then
      "55bcbbcf00703a1a1d7d6e778327256b40ccf60d8d25e1db2f41c9f1daa8cb54"
    else "06d091c5b9cbc249fd9f6a002761c063af1f65e796cdd9a19dca0a522314f463"

/-- One request twice, with different ids, and the steps of both calls in turns. -/
def twiceActions : List ServiceAction :=
  [.start (.sample Dict.empty) .sample,
   .start ((PublishRequest.sample Dict.empty).withRequestId "other" (by decide)) .sample,
   .advance 0, .advance 1, .advance 0, .advance 1, .advance 0, .advance 0, .advance 0, .advance 1,
   .advance 0, .advance 1]

theorem subsingleton_twiceActions : (contents sample twiceActions).Subsingleton := by
  have hone :
      ∀ c ∈ contents sample twiceActions, c = (PublishRequest.sample Dict.empty).content := by
    rintro c ⟨request, env, hmem, rfl⟩
    simp only [twiceActions, List.mem_cons, ServiceAction.start.injEq, reduceCtorEq,
      List.not_mem_nil, or_false] at hmem
    rcases hmem with ⟨rfl, _⟩ | ⟨rfl, _⟩ <;> rfl
  intro c hc c' hc'
  rw [hone c hc, hone c' hc']

theorem one_task_set_twice :
    (∃ s, execAll sample.step ({ bus := InMemoryTaskBus.empty } : ServiceState InMemoryTaskBus)
        twiceActions = some s ∧ PublishedOnce s ∧ SameIds s ∧ NoConflict sample s) ∧
    (∃ s, execAll sample.step ({ bus := SqliteTaskBus.empty } : ServiceState SqliteTaskBus)
        twiceActions = some s ∧ PublishedOnce s ∧ SameIds s ∧ NoConflict sample s) := by
  have hsub := subsingleton_twiceActions
  obtain ⟨hmem, hsql⟩ := one_task_set sample twiceActions (fun c hc c' hc' _ => hsub hc hc')
  have hrun : (execAll sample.step
      ({ bus := InMemoryTaskBus.empty } : ServiceState InMemoryTaskBus)
      twiceActions).isSome = true := by decide +kernel
  have hrun' : (execAll sample.step ({ bus := SqliteTaskBus.empty } : ServiceState SqliteTaskBus)
      twiceActions).isSome = true := by decide +kernel
  obtain ⟨s, hs⟩ := Option.isSome_iff_exists.mp hrun
  obtain ⟨s', hs'⟩ := Option.isSome_iff_exists.mp hrun'
  obtain ⟨h1, h2, h3⟩ := hmem s hs
  obtain ⟨h1', h2', h3'⟩ := hsql s' hs'
  exact ⟨⟨s, hs, h1, h2, h3 (notOvertaken_of_subsingleton hsub _)⟩,
    ⟨s', hs', h1', h2', h3' (notOvertaken_of_subsingleton hsub _)⟩⟩

end TaskPublishService

/-- The same key for another node. -/
def PublishRequest.sampleOther : PublishRequest where
  requestId := "other"
  sessionId := "s"
  publisher := { kind := .collaborator, actorId := some "collaborator" }
  taskTree := some
    { rootNodes :=
        [{ nodeId := "b", title := "title", intent := "intent", requiredCapability := "general" }]
      source := { kind := .collaborator, actorId := some "collaborator" }
      nonempty := List.cons_ne_nil _ _
      nodes_ok := rfl
      source_ok := PublishRequest.sample_source_ok
      valid := rfl }
  idempotencyKey := some "k"
  fields_ok := rfl
  has_input := .inl rfl
  same_source := by
    intro tree h
    cases h
    rfl

namespace TaskPublishService

/-- Both calls look their key up, the second one goes to its end, and the first one
publishes its task. -/
def overtakingActions : List ServiceAction :=
  [.start (.sample Dict.empty) .sample, .start .sampleOther .sample, .advance 0, .advance 1,
   .advance 1, .advance 1, .advance 1, .advance 1, .advance 1, .advance 0, .advance 0, .advance 0]

/-- Two tasks for one key, and the second with a record of another content. -/
theorem overtaken_publishes : Set.InjOn sample.sha256 (contents sample overtakingActions) ∧
    ∃ s, execAll sample.step ({ bus := InMemoryTaskBus.empty } : ServiceState InMemoryTaskBus)
        overtakingActions = some s ∧ ¬NoConflict sample s := by
  constructor
  · rintro c ⟨request, env, hmem, rfl⟩ c' ⟨request', env', hmem', rfl⟩ hsha
    simp only [overtakingActions, List.mem_cons, ServiceAction.start.injEq, reduceCtorEq,
      List.not_mem_nil, or_false] at hmem hmem'
    rcases hmem with ⟨rfl, rfl⟩ | ⟨rfl, rfl⟩ <;> rcases hmem' with ⟨rfl, rfl⟩ | ⟨rfl, rfl⟩
    · rfl
    · exact absurd hsha (by decide)
    · exact absurd hsha (by decide)
    · rfl
  · have hrun : (execAll sample.step
        ({ bus := InMemoryTaskBus.empty } : ServiceState InMemoryTaskBus)
        overtakingActions).any (fun s => s.publications.any (fun p => p.recorded.any
          (fun record => record.requestHash ≠ sample.requestHash p.request))) = true := by
      decide +kernel
    obtain ⟨s, hs, hany⟩ := (Option.any_eq_true _ _).mp hrun
    refine ⟨s, hs, ?_⟩
    intro hno
    obtain ⟨p, hp, hany⟩ := List.any_eq_true.mp hany
    obtain ⟨record, hrecord, hne⟩ := (Option.any_eq_true _ _).mp hany
    exact absurd (hno p hp record hrecord) (by simpa using hne)

end TaskPublishService

end Taskweavn

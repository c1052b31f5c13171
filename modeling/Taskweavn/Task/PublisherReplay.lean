import Taskweavn.Task.Publisher

/-!
# Publishing a request again

A request with an idempotency key may be published again, after its tasks have
lived on.  The publisher then compares the stored tasks with the tasks that the
request stands for.

Three things can make the comparison fail for a request that was accepted before.
A retry with an instruction rewrites the intent of its task.  A task that was
completed with an empty result reference cannot be read from the database.  And
the database turns a tuple in the metadata into a list, which is not equal to it.
`republished_iff_undisturbed` proves that there is nothing else: the second request
is accepted, with the same ids and without a write, if and only if none of these
happened.
-/

namespace Taskweavn

open Lib Py

namespace PublishRequest

def withRequestId (request : PublishRequest) (requestId : String) (h : requestId ≠ "") :
    PublishRequest :=
  { request with
    requestId := requestId
    fields_ok := by
      have := request.fields_ok
      simp only [Bool.and_eq_true] at this ⊢
      simp only [this, and_true]
      exact decide_eq_true h }

/-- The metadata that the request itself gives to a node, later entries before
earlier ones. -/
def suppliedMetadata (request : PublishRequest) (tree : NormalizedTaskTree)
    (node : NormalizedTaskNode) : Dict String PyValue :=
  Dict.ofList (("source_metadata", .dict request.source.metadata.entries) ::
    (tree.metadata.entries ++ node.metadata.entries))

/-- JSON does not change the metadata that the request gives to its nodes. -/
def MetadataStable (request : PublishRequest) (tree : NormalizedTaskTree) : Prop :=
  ∀ node ∈ tree.iterNodes, ∀ k v, (request.suppliedMetadata tree node).get? k = some v →
    k ≠ "publish_request_id" → v.JsonStable

end PublishRequest

/-! ### The existing tasks -/

namespace DefaultTaskPublisher

section

variable {B : Type} [TaskBus B] {bus : B} {s : String}

theorem existingTasks_present {u : TaskDomain → TaskDomain} : ∀ (tasks : List TaskDomain),
    (∀ t ∈ tasks, TaskBus.get bus s t.taskId = .ok (some (u t))) →
    existingTasks bus s tasks = .ok (tasks.map (fun t => (t.taskId, some (u t)))) := by
  intro tasks
  induction tasks with
  | nil => intro _; rfl
  | cons t rest ih =>
    intro h
    rw [existingTasks, h t List.mem_cons_self, ih (fun t' ht' => h t' (List.mem_cons_of_mem _ ht'))]
    rfl

theorem existingTasks_error {t : TaskDomain} {e : BusError} : ∀ (tasks : List TaskDomain),
    t ∈ tasks → TaskBus.get bus s t.taskId = .error e →
    ∃ e', existingTasks bus s tasks = .error e' := by
  intro tasks
  induction tasks with
  | nil => intro ht; cases ht
  | cons t' rest ih =>
    intro ht he
    rw [existingTasks]
    cases hg : TaskBus.get bus s t'.taskId with
    | error e' => exact ⟨e', rfl⟩
    | ok found =>
      rcases List.mem_cons.mp ht with rfl | ht
      · rw [he] at hg
        cases hg
      · obtain ⟨e', he'⟩ := ih ht he
        exact ⟨e', by simp only [he']⟩

theorem resultFromExisting_present {request : PublishRequest} {tasks : List TaskDomain}
    {u : TaskDomain → TaskDomain} (ids : Dict String String) (roots : List String)
    (env : PublishEnv) (hne : tasks ≠ []) (hn : (tasks.map TaskDomain.taskId).Nodup)
    (hu : ∀ t ∈ tasks, TaskBus.get bus request.sessionId t.taskId = .ok (some (u t))) :
    ((∀ t ∈ tasks, taskMatchesExpected (u t) t = true) ∧
      resultFromExistingIdempotentTasks bus request tasks ids roots env =
        .ok (some (replayedResult request tasks ids roots env))) ∨
    ((∃ t ∈ tasks, taskMatchesExpected (u t) t = false) ∧ ∃ d,
      resultFromExistingIdempotentTasks bus request tasks ids roots env =
        .ok (some (skippedResult request .differentPayload d))) := by
  have hfound := existingTasks_present tasks hu
  have hentries : (Dict.ofList (tasks.map (fun t => (t.taskId, some (u t))))).entries =
      tasks.map (fun t => (t.taskId, some (u t))) :=
    Dict.entries_ofList (by simpa [Function.comp_def] using hn)
  have hfilter : (tasks.map (fun t => (t.taskId, some (u t)))).filterMap
      (fun e => e.2.map (fun t => (e.1, t))) = tasks.map (fun t => (t.taskId, u t)) := by
    rw [List.filterMap_map]
    simp [List.filterMap_eq_map']
  have hkeys : ((tasks.map (fun t => (t.taskId, u t))).map Prod.fst).Nodup := by
    simpa [Function.comp_def] using hn
  have hexisting := Dict.entries_ofList hkeys
  have hget : ∀ t ∈ tasks, (Dict.ofList (tasks.map (fun t => (t.taskId, u t)))).get? t.taskId =
      some (u t) := by
    intro t ht
    exact (Dict.get?_ofList hkeys).mpr (List.mem_map.mpr ⟨t, ht, rfl⟩)
  have hnil : (tasks.map (fun t => (t.taskId, u t))).isEmpty = false := by
    cases tasks with
    | nil => exact absurd rfl hne
    | cons _ _ => rfl
  unfold resultFromExistingIdempotentTasks
  simp only [hfound, hentries, hfilter, hexisting, hnil, Bool.false_eq_true, if_false,
    List.length_map, ne_eq, not_true_eq_false]
  by_cases hall : ∀ t ∈ tasks, taskMatchesExpected (u t) t = true
  · left
    refine ⟨hall, ?_⟩
    have hmis : tasks.filter (fun task => !((Dict.ofList
        (tasks.map (fun t => (t.taskId, u t)))).get? task.taskId).any
          (fun t => taskMatchesExpected t task)) = [] := by
      rw [List.filter_eq_nil_iff]
      intro t ht
      rw [hget t ht]
      simp [hall t ht]
    simp [hmis]
  · right
    obtain ⟨t, ht, hbad⟩ : ∃ t ∈ tasks, taskMatchesExpected (u t) t ≠ true := by
      simpa using hall
    have hbad' : taskMatchesExpected (u t) t = false := by simpa using hbad
    have hmem : t ∈ tasks.filter (fun task => !((Dict.ofList
        (tasks.map (fun t => (t.taskId, u t)))).get? task.taskId).any
          (fun t => taskMatchesExpected t task)) := by
      rw [List.mem_filter]
      refine ⟨ht, ?_⟩
      rw [hget t ht]
      simp [hbad']
    have hmis : ¬(tasks.filter (fun task => !((Dict.ofList
        (tasks.map (fun t => (t.taskId, u t)))).get? task.taskId).any
          (fun t => taskMatchesExpected t task))).map TaskDomain.taskId = [] := by
      intro hnil'
      rw [List.map_eq_nil_iff] at hnil'
      rw [hnil'] at hmem
      cases hmem
    rw [if_pos hmis]
    exact ⟨⟨t, ht, hbad'⟩, _, rfl⟩

theorem existingTasks_ok : ∀ (tasks : List TaskDomain) {found : List (String × Option TaskDomain)},
    existingTasks bus s tasks = .ok found →
    found.map Prod.fst = tasks.map TaskDomain.taskId ∧
      ∀ e ∈ found, TaskBus.get bus s e.1 = .ok e.2 := by
  intro tasks
  induction tasks with
  | nil =>
    intro found h
    cases h
    exact ⟨rfl, by simp⟩
  | cons t rest ih =>
    intro found h
    rw [existingTasks] at h
    cases hg : TaskBus.get bus s t.taskId with
    | error e =>
      rw [hg] at h
      cases h
    | ok o =>
      cases hr : existingTasks bus s rest with
      | error e =>
        simp only [hg, hr] at h
        cases h
      | ok others =>
        simp only [hg, hr] at h
        cases h
        obtain ⟨hk, hall⟩ := ih hr
        refine ⟨by rw [List.map_cons, List.map_cons, hk], ?_⟩
        intro e he
        rcases List.mem_cons.mp he with rfl | he
        · exact hg
        · exact hall e he

theorem present_sublist (found : List (String × Option TaskDomain)) :
    ((found.filterMap (fun e => e.2.map (fun t => (e.1, t)))).map Prod.fst).Sublist
      (found.map Prod.fst) := by
  induction found with
  | nil => exact List.Sublist.slnil
  | cons e found ih =>
    cases he : e.2 with
    | none => simpa [he] using ih.cons e.1
    | some t => simpa [he] using ih.cons_cons e.1

theorem resultFromExisting_accepted {request : PublishRequest} {tasks : List TaskDomain}
    {ids : Dict String String} {roots : List String} {env : PublishEnv} {r : PublishResult}
    (hn : (tasks.map TaskDomain.taskId).Nodup)
    (h : resultFromExistingIdempotentTasks bus request tasks ids roots env = .ok (some r))
    (hacc : r.accepted = true) :
    r = replayedResult request tasks ids roots env ∧
      ∀ t ∈ tasks, ∃ u, TaskBus.get bus request.sessionId t.taskId = .ok (some u) ∧
        taskMatchesExpected u t = true := by
  unfold resultFromExistingIdempotentTasks at h
  cases hf : existingTasks bus request.sessionId tasks with
  | error e =>
    rw [hf] at h
    cases h
  | ok found =>
    obtain ⟨hk, hget⟩ := existingTasks_ok tasks hf
    have hfound : (Dict.ofList found).entries = found := Dict.entries_ofList (by rw [hk]; exact hn)
    simp only [hf, hfound] at h
    generalize hex : Dict.ofList (found.filterMap (fun e => e.2.map (fun t => (e.1, t)))) =
      existing at h
    split_ifs at h with h1 h2 h3
    · cases h
    · cases h
      cases hacc
    · cases h
      cases hacc
    · cases h
      refine ⟨rfl, ?_⟩
      intro t ht
      rw [ne_eq, not_not, List.map_eq_nil_iff, List.filter_eq_nil_iff] at h3
      have hany := h3 t ht
      rw [Bool.not_eq_true, Bool.not_eq_false', Option.any_eq_true] at hany
      obtain ⟨u, hu, hmatch⟩ := hany
      refine ⟨u, ?_, hmatch⟩
      have hnod : ((found.filterMap (fun e => e.2.map (fun t => (e.1, t)))).map Prod.fst).Nodup :=
        (hk ▸ hn).sublist (present_sublist found)
      rw [← hex, Dict.get?_ofList hnod] at hu
      obtain ⟨e, he, hpair⟩ := List.mem_filterMap.mp hu
      obtain ⟨v, hv, hpair'⟩ := Option.map_eq_some_iff.mp hpair
      obtain ⟨hid, rfl⟩ := Prod.mk.inj hpair'
      rw [← hid, hget e he, hv]

end

end DefaultTaskPublisher

/-! ### Comparing a stored task -/

section

variable {u u' e : TaskDomain}

theorem taskMatchesExpected_congr (h : u.SameTask u') (hi : u'.intent = u.intent) :
    taskMatchesExpected u' e = taskMatchesExpected u e := by
  simp only [taskMatchesExpected, h.sessionId, h.parentId, h.rootId, h.orderIndex, h.summary,
    h.instructions, h.acceptanceCriteria, h.requiredCapability, h.createdBy,
    h.dispatchConstraints, hi]

theorem intent_of_matches (h : taskMatchesExpected u e = true) : u.intent = e.intent := by
  simp only [taskMatchesExpected, Bool.and_eq_true, beq_iff_eq] at h
  exact h.1.1.1.1.1.1.2

theorem constraints_of_matches (h : taskMatchesExpected u e = true) :
    dispatchConstraintsMatch u.dispatchConstraints e.dispatchConstraints = true := by
  simp only [taskMatchesExpected, Bool.and_eq_true] at h
  exact h.2

theorem taskMatchesExpected_mapConstraints (t : TaskDomain)
    (f : Option TaskDispatchConstraints → Option TaskDispatchConstraints) :
    taskMatchesExpected (t.mapConstraints f) t =
      dispatchConstraintsMatch (f t.dispatchConstraints) t.dispatchConstraints := by
  simp [taskMatchesExpected, TaskDomain.mapConstraints]

end

namespace PublishRequest

variable {request : PublishRequest} {tree : NormalizedTaskTree} {rid : String} {h : rid ≠ ""}

theorem stableMetadata_withRequestId (node : NormalizedTaskNode) :
    stableMetadata ((request.withRequestId rid h).dispatchConstraints tree node).metadata =
      stableMetadata (request.dispatchConstraints tree node).metadata := by
  have hfirst : ∀ v : PyValue, (Dict.empty.set "publish_request_id" v).entries.filter
      (fun e => decide (e.1 ≠ "publish_request_id")) = [] := fun _ => rfl
  exact Dict.filter_entries_update (fun k => decide (k ≠ "publish_request_id"))
    ((request.baseMetadata tree node).tail ++ (tree.metadata.entries ++ node.metadata.entries))
    ((hfirst (.str rid)).trans (hfirst (.str request.requestId)).symm)

theorem matches_withRequestId (u : TaskDomain) (ids roots : Dict String String)
    (env env' : PublishEnv) (node : NormalizedTaskNode) (n n' : ℕ) :
    taskMatchesExpected u ((request.withRequestId rid h).taskForNode tree ids roots env' node n') =
      taskMatchesExpected u (request.taskForNode tree ids roots env node n) := by
  have hd : dispatchConstraintsMatch u.dispatchConstraints
      (some ((request.withRequestId rid h).dispatchConstraints tree node)) =
      dispatchConstraintsMatch u.dispatchConstraints
        (some (request.dispatchConstraints tree node)) := by
    cases u.dispatchConstraints with
    | none => rfl
    | some c =>
      simp only [dispatchConstraintsMatch, stableMetadata_withRequestId]
      rfl
  simp only [taskMatchesExpected, taskForNode, hd]
  rfl

end PublishRequest

/-! ### Publishing again -/

namespace DefaultTaskPublisher

section

open ShadowedBus PublishRequest

variable {B : Type} [ShadowedBus B] {b b₁ : B} {m : InMemoryTaskBus} {U : Uuid5}
  {request : PublishRequest} {tree : NormalizedTaskTree} {key : String} {env env' : PublishEnv}
  {r : PublishResult}

/-- The constraints come back from the store as they were. -/
def Kept (B : Type) [ShadowedBus B] (c : TaskDispatchConstraints) : Prop :=
  dispatchConstraintsMatch (norm B (some c)) (some c) = true

theorem taskId_taskForNode (hkey : request.idempotencyKey = some key) {node : NormalizedTaskNode}
    (hnode : node ∈ tree.iterNodes) (n : ℕ) :
    (request.taskForNode tree (request.taskIdsForRequest U tree env) tree.rootByNode env node
      n).taskId = request.idempotentTaskId U key node := by
  simp only [taskForNode, get?_taskIdsForRequest hkey hnode, Option.getD_some]

theorem ids_wanted (hkey : request.idempotencyKey = some key) :
    (wanted U request tree env).1.map TaskDomain.taskId =
      tree.iterNodes.map (request.idempotentTaskId U key) := by
  rw [wanted, tasksForRequest, List.map_map]
  conv_rhs => rw [← List.zipIdx_map_fst 0 tree.iterNodes, List.map_map]
  refine List.map_congr_left ?_
  rintro ⟨node, n⟩ hmem
  have hnode : node ∈ tree.iterNodes :=
    List.mem_of_getElem? (List.mem_zipIdx_iff_getElem?.mp hmem)
  exact taskId_taskForNode hkey hnode n

theorem roots_wanted (hkey : request.idempotencyKey = some key) :
    (wanted U request tree env).2.2 = tree.rootNodes.map (request.idempotentTaskId U key) := by
  refine List.map_congr_left ?_
  intro root hroot
  rw [get?_taskIdsForRequest hkey (tree.root_mem hroot), Option.getD_some]

theorem nodup_wanted (hkey : request.idempotencyKey = some key) :
    ((wanted U request tree env).1.map TaskDomain.taskId).Nodup := by
  rw [ids_wanted hkey]
  have hids : tree.iterNodes.map (request.idempotentTaskId U key) =
      (tree.iterNodes.map NormalizedTaskNode.nodeId).map (fun i => U.hex
        { sessionId := request.sessionId, publisherKind := request.publisher.kind
          idempotencyKey := key, sourceNodeId := i }) := by
    rw [List.map_map]
    rfl
  rw [hids]
  refine tree.ids_nodup.map ?_
  intro i j hij
  exact congrArg IdPayload.sourceNodeId (U.injective hij)

theorem wanted_ne_nil : (wanted U request tree env).1 ≠ [] := by
  obtain ⟨root, hroot⟩ := List.exists_mem_of_ne_nil _ tree.nonempty
  have hmem := tree.root_mem hroot
  intro h
  have hlen := congrArg List.length h
  simp only [wanted, tasksForRequest, List.length_map, List.length_zipIdx, List.length_nil] at hlen
  rw [List.length_eq_zero_iff.mp hlen] at hmem
  cases hmem

theorem mem_wanted {t : TaskDomain} (h : t ∈ (wanted U request tree env).1) :
    ∃ node ∈ tree.iterNodes, ∃ n, t = request.taskForNode tree
    (request.taskIdsForRequest U tree env) tree.rootByNode env node n := by
  obtain ⟨node, n, hget, rfl⟩ := mem_tasksForRequest.mp h
  exact ⟨node, List.mem_of_getElem? hget, n, rfl⟩

theorem exists_wanted (U : Uuid5) (request : PublishRequest) (env : PublishEnv)
    {node : NormalizedTaskNode} (h : node ∈ tree.iterNodes) :
    ∃ n, request.taskForNode tree (request.taskIdsForRequest U tree env) tree.rootByNode
    env node n ∈ (wanted U request tree env).1 := by
  obtain ⟨n, hn⟩ := List.getElem?_of_mem h
  exact ⟨n, mem_tasksForRequest.mpr ⟨node, n, hn, rfl⟩⟩

theorem publish_eq {B : Type} [TaskBus B] {b : B} (hprev : preview request = [])
    (hdry : request.options.dryRun = false)
    (htree : request.taskTree = some tree) (hkey : request.idempotencyKey = some key) :
    publish U b request env =
      match resultFromExistingIdempotentTasks b request (wanted U request tree env).1
        (wanted U request tree env).2.1 (wanted U request tree env).2.2 env with
      | .error e => (.error e, b)
      | .ok (some result) => (.ok result, b)
      | .ok none =>
        match publishAll b (wanted U request tree env).1 with
        | (.error e, b') => (.error e, b')
        | (.ok published, b') =>
          (.ok (publishedResult request published (wanted U request tree env).2.1
            (wanted U request tree env).2.2 env), b') := by
  unfold publish
  rw [if_neg (by simp [hprev]), if_neg (by simp [hdry])]
  cases hex : resultFromExistingIdempotentTasks b request (wanted U request tree env).1
      (wanted U request tree env).2.1 (wanted U request tree env).2.2 env with
  | error e => simp only [htree, hkey, Option.isSome_some, if_true, hex]
  | ok existing =>
    cases existing with
    | some result => simp only [htree, hkey, Option.isSome_some, if_true, hex]
    | none =>
      rcases hall : publishAll b (wanted U request tree env).1 with ⟨_ | published, b'⟩
      · simp only [htree, hkey, Option.isSome_some, if_true, hex, hall]
      · simp only [htree, hkey, Option.isSome_some, if_true, hex, hall]

theorem accepted_cases (hpub : (publish U b request env).1 = .ok r) (hacc : r.accepted = true) :
    preview request = [] ∧ request.options.dryRun = false := by
  unfold publish at hpub
  by_cases hprev : preview request ≠ []
  · rw [if_pos hprev] at hpub
    cases hpub
    cases hacc
  · rw [if_neg hprev] at hpub
    by_cases hdry : request.options.dryRun = true
    · rw [if_pos hdry] at hpub
      cases hpub
      cases hacc
    · exact ⟨not_not.mp hprev, by simpa using hdry⟩

/-- An accepted request was a replay, or has published its tasks. -/
theorem accepted_publish (hkey : request.idempotencyKey = some key)
    (htree : request.taskTree = some tree) (hpub : publish U b request env = (.ok r, b₁))
    (hacc : r.accepted = true) :
    b₁ = b ∧ resultFromExistingIdempotentTasks b request (wanted U request tree env).1
      (wanted U request tree env).2.1 (wanted U request tree env).2.2 env = .ok (some r) ∨
    ∃ out, publishAll b (wanted U request tree env).1 = (.ok out, b₁) ∧
      r = publishedResult request out (wanted U request tree env).2.1
        (wanted U request tree env).2.2 env := by
  obtain ⟨hprev, hdry⟩ := accepted_cases (congrArg Prod.fst hpub) hacc
  rw [publish_eq hprev hdry htree hkey] at hpub
  cases hex : resultFromExistingIdempotentTasks b request (wanted U request tree env).1
      (wanted U request tree env).2.1 (wanted U request tree env).2.2 env with
  | error e =>
    rw [hex] at hpub
    cases hpub
  | ok o =>
    rw [hex] at hpub
    cases o with
    | some result =>
      cases hpub
      exact .inl ⟨rfl, rfl⟩
    | none =>
      rcases hall : publishAll b (wanted U request tree env).1 with ⟨_ | out, b'⟩
      · simp only [hall] at hpub
        cases hpub
      · simp only [hall] at hpub
        cases hpub
        exact .inr ⟨out, rfl, rfl⟩

/-- **After a request was accepted its tasks are stored**, and equal what was
asked for when the store keeps their constraints. -/
theorem accepted_stored (h : Shadow m b) (hkey : request.idempotencyKey = some key)
    (htree : request.taskTree = some tree)
    (hnorm : ∀ d c, dispatchConstraintsMatch (norm B d) (some c) = true → Kept B c)
    (hpub : publish U b request env = (.ok r, b₁)) (hacc : r.accepted = true) :
    (∃ m₁, Shadow m₁ b₁) ∧
      r.publishedTaskIds = (wanted U request tree env).1.map TaskDomain.taskId ∧
      r.rootTaskIds = (wanted U request tree env).2.2 ∧
      ∀ node ∈ tree.iterNodes, ∃ n u,
        TaskBus.get b₁ request.sessionId (request.idempotentTaskId U key node) = .ok (some u) ∧
        u.intent = node.intent ∧
        (taskMatchesExpected u (request.taskForNode tree (request.taskIdsForRequest U tree env)
          tree.rootByNode env node n) = true ↔ Kept B (request.dispatchConstraints tree node)) := by
  rcases accepted_publish hkey htree hpub hacc with ⟨rfl, hex⟩ | ⟨out, hall, rfl⟩
  · -- the request was a replay itself
    obtain ⟨rfl, hall⟩ := resultFromExisting_accepted (nodup_wanted hkey) hex hacc
    refine ⟨⟨m, h⟩, rfl, rfl, ?_⟩
    intro node hnode
    obtain ⟨n, hmem⟩ := exists_wanted U request env hnode
    obtain ⟨u, hu, hmatch⟩ := hall _ hmem
    rw [taskId_taskForNode hkey hnode] at hu
    refine ⟨n, u, hu, intent_of_matches hmatch, iff_of_true hmatch ?_⟩
    obtain ⟨t, _, _, rfl⟩ := (get_eq_some h).mp hu
    exact hnorm _ _ (constraints_of_matches hmatch)
  · have hvalid : ∀ t ∈ (wanted U request tree env).1, t.Valid := by
      intro t ht
      obtain ⟨node, hnode, n, rfl⟩ := mem_wanted ht
      exact valid_taskForNode hnode n
    obtain ⟨rfl, m', hm', _, hstored⟩ := publishAll_ok _ h hvalid (congrArg Prod.fst hall)
    rw [hall] at hm'
    refine ⟨⟨m', hm'⟩, rfl, rfl, ?_⟩
    intro node hnode
    obtain ⟨n, hmem⟩ := exists_wanted U request env hnode
    have hget := hstored _ hmem
    rw [taskId_taskForNode hkey hnode] at hget
    refine ⟨n, _, get_readable hm' hget (readable_valid (hvalid _ hmem)), rfl, ?_⟩
    rw [taskMatchesExpected_mapConstraints]
    rfl

/-- The second request is accepted, with the ids of the first and without a write. -/
def Republished (U : Uuid5) (b : B) (r : PublishResult) (request' : PublishRequest)
    (env' : PublishEnv) : Prop :=
  ∃ r', publish U b request' env' = (.ok r', b) ∧ r'.accepted = true ∧
    r'.publishedTaskIds = r.publishedTaskIds ∧ r'.rootTaskIds = r.rootTaskIds

theorem wanted_withRequestId {rid : String} {hrid : rid ≠ ""}
    (hkey : request.idempotencyKey = some key) :
    (wanted U (request.withRequestId rid hrid) tree env').2 = (wanted U request tree env).2 ∧
      (wanted U (request.withRequestId rid hrid) tree env').1.map TaskDomain.taskId =
        (wanted U request tree env).1.map TaskDomain.taskId := by
  have hkey' : (request.withRequestId rid hrid).idempotencyKey = some key := hkey
  have hids : (request.withRequestId rid hrid).taskIdsForRequest U tree env' =
      request.taskIdsForRequest U tree env := by
    simp only [taskIdsForRequest, hkey, hkey']
    rfl
  refine ⟨?_, ?_⟩
  · simp only [wanted, hids]
  · simp only [wanted, hids, tasksForRequest, List.map_map]
    rfl

theorem task_fate {s i : String} {u e : TaskDomain} {P : Prop} (h : Shadow m b)
    (hu : TaskBus.get b s i = .ok (some u)) (hint : u.intent = e.intent)
    (hmatch : taskMatchesExpected u e = true ↔ P) (calls : List BusCall) :
    ((∃ err, TaskBus.get (TaskBus.run b calls) s i = .error err) ∧ ¬Undisturbed s i b calls) ∨
    ∃ u', TaskBus.get (TaskBus.run b calls) s i = .ok (some u') ∧
      (taskMatchesExpected u' e = true ↔ P ∧ Undisturbed s i b calls) := by
  obtain ⟨hyes, hno⟩ := get_run calls h hu
  by_cases hun : Undisturbed s i b calls
  · obtain ⟨u', hu', hsame, hint'⟩ := hyes hun
    refine .inr ⟨u', hu', ?_⟩
    rw [taskMatchesExpected_congr hsame hint', hmatch]
    exact ⟨fun hp => ⟨hp, hun⟩, fun hp => hp.1⟩
  · rcases hno hun with herr | ⟨u', hu', hlt⟩
    · exact .inl ⟨herr, hun⟩
    · refine .inr ⟨u', hu', iff_of_false ?_ (fun hp => hun hp.2)⟩
      intro hm
      rw [hint, intent_of_matches hm] at hlt
      exact lt_irrefl _ hlt

theorem republished_iff_matches {r : PublishResult} (hprev : preview request = [])
    (hdry : request.options.dryRun = false) (htree : request.taskTree = some tree)
    (hkey : request.idempotencyKey = some key)
    (hids : r.publishedTaskIds = (wanted U request tree env).1.map TaskDomain.taskId)
    (hroots : r.rootTaskIds = (wanted U request tree env).2.2)
    (hget : ∀ t ∈ (wanted U request tree env).1,
      (∃ e, TaskBus.get b request.sessionId t.taskId = .error e) ∨
      ∃ u, TaskBus.get b request.sessionId t.taskId = .ok (some u)) :
    Republished U b r request env ↔
      ∀ t ∈ (wanted U request tree env).1, ∃ u,
        TaskBus.get b request.sessionId t.taskId = .ok (some u) ∧
        taskMatchesExpected u t = true := by
  unfold Republished
  rw [publish_eq hprev hdry htree hkey]
  by_cases herr : ∃ t ∈ (wanted U request tree env).1, ∃ e,
      TaskBus.get b request.sessionId t.taskId = .error e
  · obtain ⟨t, ht, e, he⟩ := herr
    obtain ⟨e', he'⟩ := existingTasks_error _ ht he
    refine iff_of_false ?_ ?_
    · rintro ⟨r', hr', _⟩
      simp only [resultFromExistingIdempotentTasks, he'] at hr'
      cases hr'
    · intro hall
      obtain ⟨u, hu, _⟩ := hall t ht
      rw [he] at hu
      cases hu
  · have hsome : ∀ t, ∃ u, t ∈ (wanted U request tree env).1 →
        TaskBus.get b request.sessionId t.taskId = .ok (some u) := by
      intro t
      by_cases ht : t ∈ (wanted U request tree env).1
      · rcases hget t ht with ⟨e, he⟩ | ⟨u, hu⟩
        · exact absurd ⟨t, ht, e, he⟩ herr
        · exact ⟨u, fun _ => hu⟩
      · exact ⟨t, fun h => absurd h ht⟩
    choose u hu using hsome
    rcases resultFromExisting_present (wanted U request tree env).2.1
      (wanted U request tree env).2.2 env wanted_ne_nil (nodup_wanted hkey) hu with
      ⟨hall, hres⟩ | ⟨⟨t, ht, hbad⟩, d, hres⟩
    · rw [hres]
      refine iff_of_true ⟨_, rfl, rfl, hids.symm, hroots.symm⟩ ?_
      intro t ht
      exact ⟨u t, hu t ht, hall t ht⟩
    · rw [hres]
      refine iff_of_false ?_ ?_
      · rintro ⟨r', hr', hacc, _⟩
        cases hr'
        cases hacc
      · intro hall
        obtain ⟨v, hv, hgood⟩ := hall t ht
        obtain rfl : u t = v := Option.some.inj (Except.ok.inj ((hu t ht).symm.trans hv))
        rw [hbad] at hgood
        cases hgood

/-- **A request that was accepted is accepted again exactly when** the store has
kept the constraints of its tasks and no call has disturbed them. -/
theorem republished_iff (h : Shadow m b) (hkey : request.idempotencyKey = some key)
    (htree : request.taskTree = some tree)
    (hnorm : ∀ d c, dispatchConstraintsMatch (norm B d) (some c) = true → Kept B c)
    (hpub : publish U b request env = (.ok r, b₁)) (hacc : r.accepted = true)
    (calls : List BusCall) (rid : String) (hrid : rid ≠ "") (env' : PublishEnv) :
    Republished U (TaskBus.run b₁ calls) r (request.withRequestId rid hrid) env' ↔
      (∀ node ∈ tree.iterNodes, Kept B (request.dispatchConstraints tree node)) ∧
      ∀ node ∈ tree.iterNodes,
        Undisturbed request.sessionId (request.idempotentTaskId U key node) b₁ calls := by
  obtain ⟨hprev, hdry⟩ := accepted_cases (congrArg Prod.fst hpub) hacc
  obtain ⟨⟨m₁, hm₁⟩, hpids, hroots, hstored⟩ := accepted_stored h hkey htree hnorm hpub hacc
  have hprev' : preview (request.withRequestId rid hrid) = [] := hprev
  have hdry' : (request.withRequestId rid hrid).options.dryRun = false := hdry
  have htree' : (request.withRequestId rid hrid).taskTree = some tree := htree
  have hkey' : (request.withRequestId rid hrid).idempotencyKey = some key := hkey
  obtain ⟨htwo, hone⟩ : (wanted U (request.withRequestId rid hrid) tree env').2 =
        (wanted U request tree env).2 ∧
      (wanted U (request.withRequestId rid hrid) tree env').1.map TaskDomain.taskId =
        (wanted U request tree env).1.map TaskDomain.taskId := wanted_withRequestId hkey
  have hids' : (request.withRequestId rid hrid).taskIdsForRequest U tree env' =
      request.taskIdsForRequest U tree env := congrArg Prod.fst htwo
  -- the fate of each node's task, compared with what the second request asks for
  have hfate : ∀ node ∈ tree.iterNodes, ∀ n',
      ((∃ err, TaskBus.get (TaskBus.run b₁ calls) request.sessionId
          (request.idempotentTaskId U key node) = .error err) ∧
        ¬Undisturbed request.sessionId (request.idempotentTaskId U key node) b₁ calls) ∨
      ∃ u, TaskBus.get (TaskBus.run b₁ calls) request.sessionId
          (request.idempotentTaskId U key node) = .ok (some u) ∧
        (taskMatchesExpected u ((request.withRequestId rid hrid).taskForNode tree
          ((request.withRequestId rid hrid).taskIdsForRequest U tree env') tree.rootByNode env'
          node n') = true ↔
          Kept B (request.dispatchConstraints tree node) ∧
          Undisturbed request.sessionId (request.idempotentTaskId U key node) b₁ calls) := by
    intro node hnode n'
    obtain ⟨n, u, hu, hint, hmatch⟩ := hstored node hnode
    rcases task_fate hm₁ hu hint hmatch calls with herr | ⟨u', hu', hiff⟩
    · exact .inl herr
    · refine .inr ⟨u', hu', ?_⟩
      rw [hids', matches_withRequestId u' _ _ env]
      exact hiff
  rw [republished_iff_matches hprev' hdry' htree' hkey' (hpids.trans hone.symm)
    (hroots.trans (congrArg Prod.snd htwo).symm)]
  · constructor
    · intro hall
      have hboth : ∀ node ∈ tree.iterNodes, Kept B (request.dispatchConstraints tree node) ∧
          Undisturbed request.sessionId (request.idempotentTaskId U key node) b₁ calls := by
        intro node hnode
        obtain ⟨n', hmem⟩ := exists_wanted U (request.withRequestId rid hrid) env' hnode
        obtain ⟨u, hu, hgood⟩ := hall _ hmem
        rw [taskId_taskForNode hkey' hnode] at hu
        rcases hfate node hnode n' with ⟨⟨err, herr⟩, _⟩ | ⟨u', hu', hiff⟩
        · rw [show TaskBus.get _ request.sessionId
            (request.idempotentTaskId U key node) = _ from hu]
            at herr
          cases herr
        · obtain rfl : u = u' := Option.some.inj (Except.ok.inj (hu.symm.trans hu'))
          exact hiff.mp hgood
      exact ⟨fun node hnode => (hboth node hnode).1, fun node hnode => (hboth node hnode).2⟩
    · rintro ⟨hkept, hun⟩ t ht
      obtain ⟨node, hnode, n', rfl⟩ := mem_wanted ht
      rcases hfate node hnode n' with ⟨_, hno⟩ | ⟨u, hu, hiff⟩
      · exact absurd (hun node hnode) hno
      · refine ⟨u, ?_, hiff.mpr ⟨hkept node hnode, hun node hnode⟩⟩
        rw [taskId_taskForNode hkey' hnode]
        exact hu
  · intro t ht
    obtain ⟨node, hnode, n', rfl⟩ := mem_wanted ht
    rw [taskId_taskForNode hkey' hnode]
    rcases hfate node hnode n' with ⟨herr, _⟩ | ⟨u, hu, _⟩
    · exact .inl herr
    · exact .inr ⟨u, hu⟩

end

/-! ### What the two stores keep -/

theorem kept_inMemory (c : TaskDispatchConstraints) : Kept InMemoryTaskBus c := by
  show dispatchConstraintsMatch (some c) (some c) = true
  simp [dispatchConstraintsMatch, PyValue.pyEq_refl]

theorem stableMetadata_metadataDoc (d : Dict String PyValue) :
    stableMetadata (Codec.metadataDoc d) = PyValue.jsonItems (stableMetadata d) := by
  have hitems : ∀ l : List (String × PyValue),
      PyValue.jsonItems l = l.map (fun e => (e.1, e.2.jsonDoc)) := by
    intro l
    induction l with
    | nil => rfl
    | cons e l ih =>
      obtain ⟨k, v⟩ := e
      rw [PyValue.jsonItems, ih, List.map_cons]
  rw [hitems]
  show ((d.entries.map (fun e => (e.1, e.2.jsonDoc))).filter
    (fun e => decide (e.1 ≠ "publish_request_id"))) = _
  rw [List.filter_map]
  rfl

theorem kept_sqlite_iff (c : TaskDispatchConstraints) :
    Kept SqliteTaskBus c ↔ ∀ e ∈ stableMetadata c.metadata, e.2.JsonStable := by
  have hk : Kept SqliteTaskBus c ↔ dispatchConstraintsMatch (some c.jsonNormal) (some c) = true :=
    Iff.rfl
  rw [hk]
  simp only [dispatchConstraintsMatch, TaskDispatchConstraints.jsonNormal, beq_self_eq_true,
    Bool.true_and, stableMetadata_metadataDoc, PyValue.pyEq, PyValue.pyEqItems_jsonItems,
    PyValue.jsonItems_eq_self]

theorem kept_of_match_sqlite (d : Option TaskDispatchConstraints) (c : TaskDispatchConstraints)
    (h : dispatchConstraintsMatch (ShadowedBus.norm SqliteTaskBus d) (some c) = true) :
    Kept SqliteTaskBus c := by
  rw [kept_sqlite_iff, ← PyValue.jsonItems_eq_self]
  cases d with
  | none => cases h
  | some d =>
    have h' : dispatchConstraintsMatch (some d.jsonNormal) (some c) = true := h
    simp only [dispatchConstraintsMatch, Bool.and_eq_true, TaskDispatchConstraints.jsonNormal,
      stableMetadata_metadataDoc, PyValue.pyEq] at h'
    exact PyValue.jsonStable_of_pyEqItems _ _ h'.2 (PyValue.jsonItems_jsonItems _)

theorem nodup_baseMetadata (request : PublishRequest) (tree : NormalizedTaskTree)
    (node : NormalizedTaskNode) : ((request.baseMetadata tree node).map Prod.fst).Nodup := by
  have hnames : (request.baseMetadata tree node).map Prod.fst =
      ["publish_request_id", "publish_idempotency_key", "publisher_kind", "publisher_actor_id",
       "publisher_name", "source_type", "source_id", "source_metadata", "source_ref",
       "source_node_id", "title"] := rfl
  rw [hnames]
  decide

theorem kept_sqlite_node_iff (request : PublishRequest) (tree : NormalizedTaskTree)
    (node : NormalizedTaskNode) :
    Kept SqliteTaskBus (request.dispatchConstraints tree node) ↔
      ∀ k v, (request.suppliedMetadata tree node).get? k = some v → k ≠ "publish_request_id" →
        v.JsonStable := by
  rw [kept_sqlite_iff]
  have hmem : ∀ e, e ∈ stableMetadata (request.dispatchConstraints tree node).metadata ↔
      (request.dispatchConstraints tree node).metadata.get? e.1 = some e.2 ∧
        e.1 ≠ "publish_request_id" := by
    intro e
    rw [stableMetadata, List.mem_filter, Dict.get?_eq_some_iff, decide_eq_true_eq]
  -- the entries of the tree and the node come last in both dictionaries
  have hmeta : ∀ k, (request.dispatchConstraints tree node).metadata.get? k =
      ((Dict.ofList (tree.metadata.entries ++ node.metadata.entries)).get? k).or
        ((Dict.ofList (request.baseMetadata tree node)).get? k) := by
    intro k
    rw [← Dict.get?_ofList_append]
    rfl
  have hsupplied : ∀ k, (request.suppliedMetadata tree node).get? k =
      ((Dict.ofList (tree.metadata.entries ++ node.metadata.entries)).get? k).or
        ((Dict.ofList [("source_metadata", .dict request.source.metadata.entries)]).get? k) := by
    intro k
    rw [← Dict.get?_ofList_append]
    rfl
  have hbase := nodup_baseMetadata request tree node
  constructor
  · intro h k v hv hk
    have hget : (request.dispatchConstraints tree node).metadata.get? k = some v := by
      rw [hsupplied] at hv
      rw [hmeta]
      cases hown : (Dict.ofList (tree.metadata.entries ++ node.metadata.entries)).get? k with
      | some w =>
        rw [hown] at hv
        exact hv
      | none =>
        rw [hown, Option.none_or, Dict.get?_ofList (by simp), List.mem_singleton] at hv
        obtain ⟨rfl, rfl⟩ := Prod.mk.inj hv
        rw [Option.none_or, Dict.get?_ofList hbase]
        simp [PublishRequest.baseMetadata]
    exact h (k, v) ((hmem (k, v)).mpr ⟨hget, hk⟩)
  · rintro h ⟨k, v⟩ he
    obtain ⟨hget, hk⟩ := (hmem (k, v)).mp he
    have hopt : ∀ o, PyValue.JsonStable (optText.dump o) := by
      intro o
      cases o <;> rfl
    rw [hmeta] at hget
    cases hown : (Dict.ofList (tree.metadata.entries ++ node.metadata.entries)).get? k with
    | some w =>
      refine h k v ?_ hk
      rw [hsupplied, hown]
      rw [hown] at hget
      exact hget
    | none =>
      rw [hown, Option.none_or, Dict.get?_ofList hbase] at hget
      simp only [PublishRequest.baseMetadata, List.mem_cons, Prod.mk.injEq, List.not_mem_nil,
        or_false] at hget
      rcases hget with ⟨hpri, _⟩ | ⟨_, rfl⟩ | ⟨_, rfl⟩ | ⟨_, rfl⟩ | ⟨_, rfl⟩ | ⟨_, rfl⟩ | ⟨_, rfl⟩ |
        ⟨hsm, hv⟩ | ⟨_, rfl⟩ | ⟨_, rfl⟩ | ⟨_, rfl⟩
      · exact absurd hpri hk
      · exact hopt _
      · rfl
      · exact hopt _
      · exact hopt _
      · rfl
      · exact hopt _
      · refine h k v ?_ hk
        rw [hsupplied, hown, hsm, hv]
        simp [Dict.get?_ofList]
      · exact hopt _
      · rfl
      · rfl

/-- **Publishing again survives the lifecycle, up to the three exceptions.**  For
every request that was accepted on a bus in any state that it can reach, and every
run of calls afterwards.  On the in-memory bus only a retry with an instruction
counts as a disturbance. -/
theorem republished_iff_undisturbed (U : Uuid5) (pre calls : List BusCall)
    (request : PublishRequest) {tree : NormalizedTaskTree} {key : String}
    (hkey : request.idempotencyKey = some key) (htree : request.taskTree = some tree)
    (rid : String) (hrid : rid ≠ "") (env env' : PublishEnv) :
    (∀ r b₁, publish U (TaskBus.run InMemoryTaskBus.empty pre) request env = (.ok r, b₁) →
      r.accepted = true →
      (Republished U (TaskBus.run b₁ calls) r (request.withRequestId rid hrid) env' ↔
        ∀ node ∈ tree.iterNodes,
          Undisturbed request.sessionId (request.idempotentTaskId U key node) b₁ calls)) ∧
    (∀ r b₁, publish U (TaskBus.run SqliteTaskBus.empty pre) request env = (.ok r, b₁) →
      r.accepted = true →
      (Republished U (TaskBus.run b₁ calls) r (request.withRequestId rid hrid) env' ↔
        request.MetadataStable tree ∧ ∀ node ∈ tree.iterNodes,
          Undisturbed request.sessionId (request.idempotentTaskId U key node) b₁ calls)) := by
  constructor
  · intro r b₁ hpub hacc
    obtain ⟨m, hm⟩ := shadow_run shadow_inMemory_empty pre
    rw [republished_iff hm hkey htree (fun _ c _ => kept_inMemory c) hpub hacc]
    exact ⟨fun h => h.2, fun h => ⟨fun node _ => kept_inMemory _, h⟩⟩
  · intro r b₁ hpub hacc
    obtain ⟨m, hm⟩ := shadow_run shadow_sqlite_empty pre
    rw [republished_iff hm hkey htree kept_of_match_sqlite hpub hacc]
    refine and_congr_left fun _ => ?_
    exact forall₂_congr fun node _ => kept_sqlite_node_iff request tree node

/-- The task is claimed and completed. -/
def completedCalls : List BusCall :=
  [⟨.claimNext "s" "general" "agent", .sample⟩,
   ⟨.transition "s" "c0061e9ea07e5f4b956b8ee5ec04bd70" (.complete (some "result")), .sample⟩]

theorem undisturbed_completedCalls {B : Type} [ShadowedBus B] (b : B) (s i : String) :
    Undisturbed s i b completedCalls := by
  refine ⟨?_, ?_, trivial⟩
  · rintro ⟨_, _, ⟨_, hop, _⟩ | ⟨hop, _⟩⟩ <;> cases hop
  · rintro ⟨_, _, ⟨_, hop, _⟩ | ⟨hop, _⟩⟩
    · cases hop
    · simp at hop

theorem republished_completedCalls :
    (∃ r b₁, publish Uuid5.sample InMemoryTaskBus.empty (.sample Dict.empty) .sample =
        (.ok r, b₁) ∧ r.accepted = true ∧
      Republished Uuid5.sample (TaskBus.run b₁ completedCalls) r
        ((PublishRequest.sample Dict.empty).withRequestId "other" (by decide)) .sample) ∧
    (∃ r b₁, publish Uuid5.sample SqliteTaskBus.empty (.sample Dict.empty) .sample =
        (.ok r, b₁) ∧ r.accepted = true ∧
      Republished Uuid5.sample (TaskBus.run b₁ completedCalls) r
        ((PublishRequest.sample Dict.empty).withRequestId "other" (by decide)) .sample) := by
  have h := republished_iff_undisturbed Uuid5.sample [] completedCalls (.sample Dict.empty) rfl rfl
    "other" (by decide) .sample .sample
  constructor
  · have hok : (publish Uuid5.sample InMemoryTaskBus.empty (.sample Dict.empty)
        .sample).1.toOption.any PublishResult.accepted = true := by decide +kernel
    cases hp : publish Uuid5.sample InMemoryTaskBus.empty (.sample Dict.empty) .sample with
    | mk out b₁ =>
      rw [hp] at hok
      cases out with
      | error e => cases hok
      | ok r =>
        refine ⟨r, b₁, rfl, hok, (h.1 r b₁ hp hok).mpr ?_⟩
        intro node _
        exact undisturbed_completedCalls _ _ _
  · have hok : (publish Uuid5.sample SqliteTaskBus.empty (.sample Dict.empty)
        .sample).1.toOption.any PublishResult.accepted = true := by decide +kernel
    cases hp : publish Uuid5.sample SqliteTaskBus.empty (.sample Dict.empty) .sample with
    | mk out b₁ =>
      rw [hp] at hok
      cases out with
      | error e => cases hok
      | ok r =>
        refine ⟨r, b₁, rfl, hok, (h.2 r b₁ hp hok).mpr ⟨?_, ?_⟩⟩
        · intro node hnode k v hv _
          rw [List.mem_singleton.mp hnode] at hv
          have hv' : (k, v) ∈ [("source_metadata", PyValue.dict [])] :=
            (Dict.get?_ofList (by simp)).mp hv
          obtain ⟨rfl, rfl⟩ := Prod.mk.inj (List.mem_singleton.mp hv')
          rfl
        · intro node _
          exact undisturbed_completedCalls _ _ _

/-- The task fails and is retried with an instruction. -/
def retriedCalls : List BusCall :=
  [⟨.claimNext "s" "general" "agent", .sample⟩,
   ⟨.transition "s" "c0061e9ea07e5f4b956b8ee5ec04bd70" (.fail "error"), .sample⟩,
   ⟨.transition "s" "c0061e9ea07e5f4b956b8ee5ec04bd70" (.retry (some "try again")), .sample⟩]

/-- Metadata as a plan's nodes have it. -/
def tupleMetadata : Dict String PyValue := Dict.ofList [("depends_on", .tuple [])]

theorem not_republished_of_reason {B : Type} [ShadowedBus B] {U : Uuid5} {b : B} {r : PublishResult}
    {request' : PublishRequest} {env' : PublishEnv}
    (h : (publish U b request' env').1.toOption.map PublishResult.skipped = some true) :
    ¬Republished U b r request' env' := by
  rintro ⟨r', hr', hacc, _⟩
  rw [hr'] at h
  have hs : r'.skipped = true := by simpa [Except.toOption] using h
  rw [PublishResult.accepted, hs] at hacc
  cases hacc

/-- After the retry the intent differs; and a database has made a list of the
tuple. -/
theorem republished_fails :
    (∃ r b₁, publish Uuid5.sample InMemoryTaskBus.empty (.sample Dict.empty) .sample =
        (.ok r, b₁) ∧ r.accepted = true ∧
      ¬Republished Uuid5.sample (TaskBus.run b₁ retriedCalls) r (.sample Dict.empty) .sample) ∧
    (∃ r b₁, publish Uuid5.sample SqliteTaskBus.empty (.sample tupleMetadata) .sample =
        (.ok r, b₁) ∧ r.accepted = true ∧
      ¬Republished Uuid5.sample b₁ r (.sample tupleMetadata) .sample) := by
  constructor
  · have hok : (publish Uuid5.sample InMemoryTaskBus.empty (.sample Dict.empty)
        .sample).1.toOption.any PublishResult.accepted = true := by decide +kernel
    have hbad : (publish Uuid5.sample (TaskBus.run (publish Uuid5.sample InMemoryTaskBus.empty
        (.sample Dict.empty) .sample).2 retriedCalls) (.sample Dict.empty)
        .sample).1.toOption.map PublishResult.skipped = some true := by decide +kernel
    rcases hp : publish Uuid5.sample InMemoryTaskBus.empty (.sample Dict.empty) .sample with
      ⟨_ | r, b₁⟩
    · rw [hp] at hok
      cases hok
    · rw [hp] at hok hbad
      exact ⟨r, b₁, rfl, hok, not_republished_of_reason hbad⟩
  · have hok : (publish Uuid5.sample SqliteTaskBus.empty (.sample tupleMetadata)
        .sample).1.toOption.any PublishResult.accepted = true := by decide +kernel
    have hbad : (publish Uuid5.sample (publish Uuid5.sample SqliteTaskBus.empty
        (.sample tupleMetadata) .sample).2 (.sample tupleMetadata)
        .sample).1.toOption.map PublishResult.skipped = some true := by decide +kernel
    rcases hp : publish Uuid5.sample SqliteTaskBus.empty (.sample tupleMetadata) .sample with
      ⟨_ | r, b₁⟩
    · rw [hp] at hok
      cases hok
    · rw [hp] at hok hbad
      exact ⟨r, b₁, rfl, hok, not_republished_of_reason hbad⟩

end DefaultTaskPublisher

end Taskweavn

import Taskweavn.Task.DryRun

/-!
# A request that is sent again with another id

Request ids are made anew for every attempt, and the hash of a request leaves its id out.
A pipeline task does not: its metadata names the request that it was loaded for, and its
template may do so.

* `DefaultPipelineTaskLoader.IgnoresRequestId`: no task that is loaded shows the id.
* `expandForPublish_withRequestId`, `ignoresRequestId_of_content`: then, and only then, the
  expanded requests have one content.
* `publish_replays_iff`: **after an accepted publish, whatever was published since, the same
  request with another id gets the recorded result and leaves the bus alone exactly if the
  loader ignores the id**.
* `retry_conflicts`: a pipeline task with no metadata of its own.
-/

namespace Taskweavn

open Lib Py

namespace DefaultPipelineTaskLoader

variable (loader : DefaultPipelineTaskLoader)

/-! ### Tasks that do not show the id -/

/-- A task shows no difference between two ids: the template is filled alike, and the
metadata of the spec write over the id, if it is another one. -/
def SpecIgnores (spec : PipelineTaskSpec) (stage : PipelineStage)
    (request retry : PublishRequest) : Prop :=
  loader.format spec.intentTemplate (values retry stage) =
      loader.format spec.intentTemplate (values request stage) ∧
    (retry.requestId = request.requestId ∨
      (spec.metadata.get? "pipeline_source_request_id").isSome = true)

/-- **The loader ignores the id** of the request that is sent again. -/
def IgnoresRequestId (request retry : PublishRequest) : Prop :=
  loader.config.enabled = true → request.options.allowPipeline = true →
    request.taskTree.isSome = true →
    (∀ spec ∈ enabledSpecs loader.config.taskBefore,
      loader.SpecIgnores spec .taskBefore request retry) ∧
    ∀ spec ∈ enabledSpecs loader.config.taskBegin,
      loader.SpecIgnores spec .taskBegin request retry

variable {loader} {request : PublishRequest} {requestId : String} {hid : requestId ≠ ""}

theorem nodeFromSpec_withRequestId {spec : PipelineTaskSpec} {stage : PipelineStage}
    (h : loader.SpecIgnores spec stage request (request.withRequestId requestId hid)) :
    loader.nodeFromSpec spec stage (request.withRequestId requestId hid) =
      loader.nodeFromSpec spec stage request := by
  obtain ⟨hformat, hmeta⟩ := h
  unfold nodeFromSpec
  rw [hformat]
  rcases hmeta with hsame | hwritten
  · rw [hsame]
    rfl
  · have hkey : "pipeline_source_request_id" ∈
        ([("pipeline_source_publisher_kind", PyValue.str request.publisher.kind.toText),
          ("pipeline_source_id", optText.dump request.source.sourceId)] ++
            spec.metadata.entries).map Prod.fst := by
      rw [List.map_append]
      exact List.mem_append_right _ (Dict.mem_keys.mpr hwritten)
    have hdict := Dict.ofList_congr (l := [("source", PyValue.str "pipeline"),
      ("pipeline_stage", .str stage.toText), ("pipeline_spec_id", .str spec.specId),
      ("pipeline_order", .int spec.order)]) (.str requestId) (.str request.requestId) hkey
    refine congrArg (Option.map · _) (funext fun intent => ?_)
    exact congrArg (fun metadata => ({
      nodeId := "pipeline:" ++ stage.toText ++ ":" ++ spec.specId
      title := spec.title
      intent := intent
      requiredCapability := spec.requiredCapability
      agentRef := spec.agentRef
      metadata := metadata } : NormalizedTaskNode)) hdict

theorem mapM_congr {α β : Type} {f g : α → Option β} :
    ∀ {l : List α}, (∀ a ∈ l, f a = g a) → l.mapM f = l.mapM g := by
  intro l
  induction l with
  | nil => exact fun _ => rfl
  | cons a l ih =>
    intro h
    rw [List.mapM_cons, List.mapM_cons, h a List.mem_cons_self,
      ih fun a' ha' => h a' (List.mem_cons_of_mem a ha')]

theorem withPipelineRoots_withRequestId (tree : NormalizedTaskTree)
    (htree : request.taskTree = some tree) (pipelineRoots : List NormalizedTaskNode) :
    withPipelineRoots (request.withRequestId requestId hid) tree htree pipelineRoots =
      (withPipelineRoots request tree htree pipelineRoots).map (·.withRequestId requestId hid) := by
  unfold withPipelineRoots
  split <;> rfl

theorem expandTree_withRequestId {tree : NormalizedTaskTree} (htree : request.taskTree = some tree)
    (hroots : loader.publishTimeRoots (request.withRequestId requestId hid) =
      loader.publishTimeRoots request) :
    loader.expandTree (request.withRequestId requestId hid) tree htree =
      (loader.expandTree request tree htree).map (·.withRequestId requestId hid) := by
  unfold expandTree
  rw [hroots]
  rcases loader.publishTimeRoots request with _ | _ | ⟨root, rest⟩
  · rfl
  · rfl
  · exact withPipelineRoots_withRequestId tree htree _

theorem expandForPublish_of_tree (request : PublishRequest) {tree : NormalizedTaskTree}
    (htree : request.taskTree = some tree)
    (henabled : loader.config.enabled = true) (hallow : request.options.allowPipeline = true) :
    loader.expandForPublish request = loader.expandTree request tree htree := by
  unfold expandForPublish
  rw [if_neg (by rw [henabled, hallow]; decide)]
  split
  · next hnone =>
    rw [htree] at hnone
    cases hnone
  · next tree' htree' =>
    obtain rfl : tree' = tree := Option.some.inj (htree'.symm.trans htree)
    rfl

theorem expandForPublish_off (request : PublishRequest) (hoff : ¬(loader.config.enabled = true ∧
    request.options.allowPipeline = true ∧ request.taskTree.isSome = true)) :
    loader.expandForPublish request = some request := by
  unfold expandForPublish
  split
  · rfl
  · next hon =>
    split
    · rfl
    · next tree htree =>
      refine absurd ?_ hoff
      rw [htree]
      simpa using hon

/-- **A request that is sent again is expanded alike**, when the loader ignores its id. -/
theorem expandForPublish_withRequestId
    (h : loader.IgnoresRequestId request (request.withRequestId requestId hid)) :
    loader.expandForPublish (request.withRequestId requestId hid) =
      (loader.expandForPublish request).map (·.withRequestId requestId hid) := by
  by_cases hon : loader.config.enabled = true ∧ request.options.allowPipeline = true ∧
      request.taskTree.isSome = true
  · obtain ⟨henabled, hallow, hsome⟩ := hon
    obtain ⟨tree, htree⟩ := Option.isSome_iff_exists.mp hsome
    obtain ⟨hbefore, hbegin⟩ := h henabled hallow hsome
    have hroots : loader.publishTimeRoots (request.withRequestId requestId hid) =
        loader.publishTimeRoots request := by
      unfold publishTimeRoots
      rw [mapM_congr fun spec hspec => nodeFromSpec_withRequestId (hbefore spec hspec),
        mapM_congr fun spec hspec => nodeFromSpec_withRequestId (hbegin spec hspec)]
    rw [expandForPublish_of_tree (request.withRequestId requestId hid) htree henabled hallow,
      expandForPublish_of_tree _ htree henabled hallow]
    exact expandTree_withRequestId htree hroots
  · rw [expandForPublish_off _ hon,
      expandForPublish_off (request.withRequestId requestId hid) hon]
    rfl

/-! ### Contents that show the id -/

theorem contents_append (l l' : List NormalizedTaskNode) : NormalizedTaskNode.contents (l ++ l') =
    NormalizedTaskNode.contents l ++ NormalizedTaskNode.contents l' := by
  induction l with
  | nil => rfl
  | cons n l ih => exact congrArg (n.content :: ·) ih

theorem length_contents (l : List NormalizedTaskNode) :
    (NormalizedTaskNode.contents l).length = l.length := by
  induction l with
  | nil => rfl
  | cons n l ih => exact congrArg (· + 1) ih

theorem length_of_mapM {α β : Type} {f : α → Option β} :
    ∀ {l : List α} {ns : List β}, l.mapM f = some ns → ns.length = l.length := by
  intro l
  induction l with
  | nil =>
    intro ns h
    obtain rfl := Option.some.inj h
    rfl
  | cons a l ih =>
    intro ns h
    rw [List.mapM_cons] at h
    obtain ⟨n, -, h⟩ := Option.bind_eq_some_iff.mp h
    obtain ⟨rest, hrest, h⟩ := Option.bind_eq_some_iff.mp h
    obtain rfl := Option.some.inj h
    rw [List.length_cons, List.length_cons, ih hrest]

theorem content_of_mapM {α : Type} {f g : α → Option NormalizedTaskNode} :
    ∀ {l : List α} {ns ns' : List NormalizedTaskNode}, l.mapM f = some ns → l.mapM g = some ns' →
      NormalizedTaskNode.contents ns = NormalizedTaskNode.contents ns' →
        ∀ a ∈ l, ∃ n n', f a = some n ∧ g a = some n' ∧ n.content = n'.content := by
  intro l
  induction l with
  | nil => exact fun _ _ _ a ha => by cases ha
  | cons a l ih =>
    intro ns ns' hf hg hcontents
    rw [List.mapM_cons] at hf hg
    obtain ⟨n, hn, hf⟩ := Option.bind_eq_some_iff.mp hf
    obtain ⟨rest, hrest, hf⟩ := Option.bind_eq_some_iff.mp hf
    obtain ⟨n', hn', hg⟩ := Option.bind_eq_some_iff.mp hg
    obtain ⟨rest', hrest', hg⟩ := Option.bind_eq_some_iff.mp hg
    cases hf
    cases hg
    obtain ⟨hhead, htail⟩ := List.cons.inj
      (show n.content :: NormalizedTaskNode.contents rest =
        n'.content :: NormalizedTaskNode.contents rest' from hcontents)
    intro a' ha'
    rcases List.mem_cons.mp ha' with rfl | ha'
    · exact ⟨n, n', hn, hn', hhead⟩
    · exact ih hrest hrest' htail a' ha'

theorem get?_content (n : NormalizedTaskNode) (k : String) :
    n.content.metadata.get? k = (n.metadata.get? k).map PyValue.sortedDoc := by
  have hcontent : n.content.metadata = PyValue.sortedDict n.metadata := by
    cases n
    rfl
  rw [hcontent, PyValue.get?_sortedDict]

theorem get?_sourceRequestId {spec : PipelineTaskSpec} {stage : PipelineStage}
    {n : NormalizedTaskNode} (h : loader.nodeFromSpec spec stage request = some n) :
    n.metadata.get? "pipeline_source_request_id" =
      (spec.metadata.get? "pipeline_source_request_id").or (some (.str request.requestId)) := by
  obtain ⟨intent, -, rfl⟩ := Option.map_eq_some_iff.mp h
  dsimp only
  rw [Dict.get?_ofList_append, Dict.ofList_entries]
  rfl

/-- **Tasks of one content do not show the id.** -/
theorem specIgnores_of_content {retry : PublishRequest} {spec : PipelineTaskSpec}
    {stage : PipelineStage} {n n' : NormalizedTaskNode}
    (h : loader.nodeFromSpec spec stage request = some n)
    (h' : loader.nodeFromSpec spec stage retry = some n') (hcontent : n.content = n'.content) :
    loader.SpecIgnores spec stage request retry := by
  have hmeta := congrArg (fun n => n.metadata.get? "pipeline_source_request_id") hcontent
  rw [get?_content, get?_content, get?_sourceRequestId h, get?_sourceRequestId h'] at hmeta
  have hintent : n.intent = n'.intent := by
    have := congrArg NormalizedTaskNode.intent hcontent
    cases n
    cases n'
    exact this
  constructor
  · obtain ⟨intent, hformat, rfl⟩ := Option.map_eq_some_iff.mp h
    obtain ⟨intent', hformat', rfl⟩ := Option.map_eq_some_iff.mp h'
    rw [hformat, hformat']
    exact congrArg some hintent.symm
  · cases hspec : spec.metadata.get? "pipeline_source_request_id" with
    | some v => exact .inr rfl
    | none =>
      rw [hspec] at hmeta
      have hid := PyValue.str.inj (Option.some.inj hmeta)
      exact .inl hid.symm

theorem rootNodes_of_expandTree (request : PublishRequest) {tree : NormalizedTaskTree}
    (htree : request.taskTree = some tree)
    {e : PublishRequest} (h : loader.expandTree request tree htree = some e) :
    ∃ roots expanded, loader.publishTimeRoots request = some roots ∧ e.taskTree = some expanded ∧
      expanded.rootNodes = roots ++ tree.rootNodes := by
  unfold expandTree at h
  cases hroots : loader.publishTimeRoots request with
  | none =>
    rw [hroots] at h
    cases h
  | some roots =>
    rw [hroots] at h
    cases roots with
    | nil =>
      obtain rfl := Option.some.inj h
      exact ⟨[], tree, rfl, htree, rfl⟩
    | cons root rest =>
      unfold withPipelineRoots at h
      dsimp only at h
      split at h
      · cases h
      · next expanded hbuild =>
        obtain rfl := Option.some.inj h
        exact ⟨root :: rest, expanded, rfl, rfl, NormalizedTaskTree.build_rootNodes hbuild⟩

/-- **Two expansions of one content**: the loader ignores the id. -/
theorem ignoresRequestId_of_content {e e' : PublishRequest}
    (he : loader.expandForPublish request = some e)
    (he' : loader.expandForPublish (request.withRequestId requestId hid) = some e')
    (hcontent : e.content = e'.content) :
    loader.IgnoresRequestId request (request.withRequestId requestId hid) := by
  intro henabled hallow hsome
  obtain ⟨tree, htree⟩ := Option.isSome_iff_exists.mp hsome
  rw [expandForPublish_of_tree _ htree henabled hallow] at he
  rw [expandForPublish_of_tree (request.withRequestId requestId hid) htree henabled
    hallow] at he'
  obtain ⟨roots, expanded, hroots, htree₁, hnodes⟩ := rootNodes_of_expandTree _ htree he
  obtain ⟨roots', expanded', hroots', htree₂, hnodes'⟩ :=
    rootNodes_of_expandTree (request.withRequestId requestId hid) htree he'
  obtain ⟨before, hbefore, hroots⟩ := Option.bind_eq_some_iff.mp hroots
  obtain ⟨begin, hbegin, hroots⟩ := Option.bind_eq_some_iff.mp hroots
  obtain ⟨before', hbefore', hroots'⟩ := Option.bind_eq_some_iff.mp hroots'
  obtain ⟨begin', hbegin', hroots'⟩ := Option.bind_eq_some_iff.mp hroots'
  obtain rfl := Option.some.inj hroots
  obtain rfl := Option.some.inj hroots'
  -- The trees that were asked for are behind the loaded tasks in both contents.
  have htrees := congrArg (fun c => c.taskTree.map TreeContent.rootNodes) hcontent
  simp only [PublishRequest.content, htree₁, htree₂, Option.map_some, NormalizedTaskTree.content,
    hnodes, hnodes', contents_append, Option.some.injEq, List.append_cancel_right_eq] at htrees
  have hlength : before.length = before'.length :=
    (length_of_mapM hbefore).trans (length_of_mapM hbefore').symm
  obtain ⟨hb, hg⟩ := List.append_inj htrees (by rw [length_contents, length_contents, hlength])
  constructor
  · intro spec hspec
    obtain ⟨n, n', hn, hn', hsame⟩ := content_of_mapM hbefore hbefore' hb spec hspec
    exact specIgnores_of_content hn hn' hsame
  · intro spec hspec
    obtain ⟨n, n', hn, hn', hsame⟩ := content_of_mapM hbegin hbegin' hg spec hspec
    exact specIgnores_of_content hn hn' hsame

end DefaultPipelineTaskLoader

namespace TaskPublishService

/-! ### The service -/

def withLoader (uuid5 : Uuid5) (sha256 : RequestContent → String)
    (loader : Option DefaultPipelineTaskLoader) : TaskPublishService where
  uuid5 := uuid5
  sha256 := sha256
  pipelineLoader := loader.map DefaultPipelineTaskLoader.expandForPublish

/-- What may happen between two attempts. -/
inductive ServiceCall
  | publish (request : PublishRequest) (env : PublishEnv)
  | other (c : BusCall)

section

variable (svc : TaskPublishService) {B : Type} [TaskBus B]

def serve (s : B × InMemoryPublishIdempotencyStore) :
    ServiceCall → Option (Except BusError PublishResult) × B × InMemoryPublishIdempotencyStore
  | .publish request env =>
    let out := svc.publish s.1 s.2 request env
    (some out.1, out.2)
  | .other c => (none, (TaskBus.step s.1 c).2, s.2)

/-- The request gets the result, and nothing else happens. -/
def Replays (s : B × InMemoryPublishIdempotencyStore) (request : PublishRequest) (env : PublishEnv)
    (result : PublishResult) : Prop :=
  svc.publish s.1 s.2 request env = (.ok result, s)

/-- Different texts with one hash. -/
def Collides (request retry : PublishRequest) : Prop :=
  ∃ e e', svc.expandPipelineOrNone request = some e ∧ svc.expandPipelineOrNone retry = some e' ∧
    e.content ≠ e'.content ∧ svc.sha256 e.content = svc.sha256 e'.content

end

variable {svc : TaskPublishService} {B : Type} [TaskBus B] {bus : B}
  {store : InMemoryPublishIdempotencyStore} {request e : PublishRequest} {env : PublishEnv}
  {k : RecordKey} {record : PublishIdempotencyRecord}

omit [TaskBus B] in
theorem record_kept (h : store.records.get? k = some record) (r : PublishRequest)
    (result : PublishResult) :
    (svc.storeIdempotency store r result).records.get? k = some record := by
  rcases get?_storeIdempotency svc store r result k with hsame | ⟨-, hnone, -⟩
  · rw [hsame, h]
  · rw [h] at hnone
    cases hnone

/-- **A publish keeps the records.** -/
theorem record_kept_publish (h : store.records.get? k = some record) (r : PublishRequest)
    (env : PublishEnv) :
    (svc.publish bus store r env).2.2.records.get? k = some record := by
  unfold publish
  split
  · exact h
  · split
    · exact h
    · split
      · exact record_kept h _ _
      · split
        · exact h
        · exact record_kept h _ _

theorem record_kept_final (svc : TaskPublishService) (calls : List ServiceCall)
    (s : B × InMemoryPublishIdempotencyStore) (h : s.2.records.get? k = some record) :
    (final svc.serve s calls).2.records.get? k = some record := by
  refine final_invariant (A := fun _ => True) (I := fun s : B × InMemoryPublishIdempotencyStore =>
    s.2.records.get? k = some record) ?_ calls s h fun _ _ => trivial
  intro s call hs _
  cases call with
  | publish r env => exact record_kept_publish hs r env
  | other c => exact hs

theorem recordKey_of_expand {loader : DefaultPipelineTaskLoader}
    (h : loader.expandForPublish request = some e) : e.recordKey = request.recordKey := by
  by_cases hon : loader.config.enabled = true ∧ request.options.allowPipeline = true ∧
      request.taskTree.isSome = true
  · obtain ⟨henabled, hallow, hsome⟩ := hon
    obtain ⟨tree, htree⟩ := Option.isSome_iff_exists.mp hsome
    rw [DefaultPipelineTaskLoader.expandForPublish_of_tree _ htree henabled hallow] at h
    unfold DefaultPipelineTaskLoader.expandTree at h
    split at h
    · cases h
    · obtain rfl := Option.some.inj h
      rfl
    · unfold DefaultPipelineTaskLoader.withPipelineRoots at h
      split at h
      · cases h
      · obtain rfl := Option.some.inj h
        rfl
  · rw [DefaultPipelineTaskLoader.expandForPublish_off _ hon] at h
    obtain rfl := Option.some.inj h
    rfl

theorem existing_accepted {tasks : List TaskDomain} {ids : Dict String String} {roots : List String}
    {r : PublishResult}
    (h : DefaultTaskPublisher.resultFromExistingIdempotentTasks bus request tasks ids roots env =
      .ok (some r)) (haccepted : r.accepted = true) :
    r = DefaultTaskPublisher.replayedResult request tasks ids roots env := by
  unfold DefaultTaskPublisher.resultFromExistingIdempotentTasks at h
  split at h
  · cases h
  · dsimp only at h
    split_ifs at h
    · cases h
    · obtain rfl := Option.some.inj (Except.ok.inj h)
      cases haccepted
    · obtain rfl := Option.some.inj (Except.ok.inj h)
      cases haccepted
    · exact (Option.some.inj (Except.ok.inj h)).symm

theorem no_skip_of_accepted {U : Uuid5} {r : PublishResult}
    (h : (DefaultTaskPublisher.publish U bus request env).1 = .ok r)
    (haccepted : r.accepted = true) :
    r.metadata.get? "skip_idempotency_record" = none := by
  unfold DefaultTaskPublisher.publish at h
  split at h
  · obtain rfl := Except.ok.inj h
    cases haccepted
  · split at h
    · obtain rfl := Except.ok.inj h
      cases haccepted
    · split at h
      · obtain rfl := Except.ok.inj h
        cases haccepted
      · dsimp only at h
        split at h
        · cases h
        · next existing hexisting =>
          obtain rfl := Except.ok.inj h
          split at hexisting
          · rw [existing_accepted hexisting haccepted]
            rfl
          · cases hexisting
        · split at h
          · cases h
          · obtain rfl := Except.ok.inj h
            rfl

structure Recorded (svc : TaskPublishService) (store : InMemoryPublishIdempotencyStore)
    (e : PublishRequest) (k : RecordKey) (result : PublishResult) : Prop where
  key : e.recordKey = some k
  record : ∃ record, store.records.get? k = some record ∧ record.requestHash = svc.requestHash e ∧
    record.publishResult = result

omit [TaskBus B] in
theorem checkIdempotency_of_record (svc : TaskPublishService) (hkey : e.recordKey = some k)
    (hrecord : store.records.get? k = some record) :
    (record.requestHash = svc.requestHash e →
      svc.checkIdempotency store e = some record.publishResult) ∧
    (record.requestHash ≠ svc.requestHash e →
      ∃ conflict, svc.checkIdempotency store e = some conflict ∧ conflict.accepted = false) := by
  obtain ⟨key, hk, rfl⟩ := Option.map_eq_some_iff.mp hkey
  have hget : store.get e.sessionId e.publisher.kind key = some record := hrecord
  unfold checkIdempotency
  rw [hk]
  dsimp only
  rw [hget]
  exact ⟨fun hsame => if_neg (not_not.mpr hsame), fun hne => ⟨_, if_pos hne, rfl⟩⟩

/-- **An accepted result is recorded.** -/
theorem recorded_of_accepted {result : PublishResult}
    (he : svc.expandPipelineOrNone request = some e) (hkey : e.recordKey = some k)
    (hpublish : (svc.publish bus store request env).1 = .ok result)
    (haccepted : result.accepted = true) :
    svc.Recorded (svc.publish bus store request env).2.2 e k result := by
  refine ⟨hkey, ?_⟩
  obtain ⟨key, hk, rfl⟩ := Option.map_eq_some_iff.mp hkey
  unfold publish at hpublish ⊢
  rw [he] at hpublish ⊢
  dsimp only at hpublish ⊢
  cases hcheck : svc.checkIdempotency store e with
  | some replay =>
    rw [hcheck] at hpublish
    obtain rfl := Except.ok.inj hpublish
    cases hrecord : store.records.get? (e.sessionId, e.publisher.kind, key) with
    | none =>
      rw [checkIdempotency_of_new hk hrecord] at hcheck
      cases hcheck
    | some record =>
      obtain ⟨hsame, hother⟩ := checkIdempotency_of_record svc hkey hrecord
      by_cases hhash : record.requestHash = svc.requestHash e
      · rw [hsame hhash] at hcheck
        exact ⟨record, rfl, hhash, Option.some.inj hcheck⟩
      · obtain ⟨conflict, hconflict, hrefused⟩ := hother hhash
        rw [hconflict] at hcheck
        rw [Option.some.inj hcheck, haccepted] at hrefused
        cases hrefused
  | none =>
    rw [hcheck] at hpublish
    dsimp only at hpublish ⊢
    split at hpublish
    · obtain rfl := Except.ok.inj hpublish
      cases haccepted
    · next hprev =>
      rw [if_neg hprev]
      cases hresult : DefaultTaskPublisher.publish svc.uuid5 bus e env with
      | mk out bus' =>
        rw [hresult] at hpublish
        cases out with
        | error => cases hpublish
        | ok r =>
          obtain rfl := Except.ok.inj hpublish
          have hskip : r.metadata.get? "skip_idempotency_record" = none :=
            no_skip_of_accepted (congrArg Prod.fst hresult) haccepted
          have hfree : store.records.get? (e.sessionId, e.publisher.kind, key) = none := by
            by_contra hsome
            obtain ⟨record, hrecord⟩ := Option.ne_none_iff_exists'.mp hsome
            obtain ⟨hsame, hother⟩ := checkIdempotency_of_record svc hkey hrecord
            by_cases hhash : record.requestHash = svc.requestHash e
            · rw [hsame hhash] at hcheck
              cases hcheck
            · obtain ⟨conflict, hconflict, -⟩ := hother hhash
              rw [hconflict] at hcheck
              cases hcheck
          refine ⟨⟨e.sessionId, e.publisher.kind, key, svc.requestHash e, r⟩, ?_, rfl, rfl⟩
          unfold storeIdempotency
          rw [hk]
          dsimp only
          rw [hskip, if_neg (by simp), InMemoryPublishIdempotencyStore.put]
          simp only [PublishIdempotencyRecord.key, hfree]
          exact Dict.get?_set_self _ _ _

/-- A request whose key has a record, in any state of the store: it is replayed exactly if its
hash is that of the record. -/
theorem replays_iff_hash {s : B × InMemoryPublishIdempotencyStore} {retry e' : PublishRequest}
    {result : PublishResult} (he' : svc.expandPipelineOrNone retry = some e')
    (hkey : e'.recordKey = some k) (hrecord : s.2.records.get? k = some record)
    (hresult : record.publishResult = result) (haccepted : result.accepted = true) :
    svc.Replays s retry env result ↔ record.requestHash = svc.requestHash e' := by
  obtain ⟨hsame, hother⟩ := checkIdempotency_of_record svc hkey hrecord
  by_cases hhash : record.requestHash = svc.requestHash e'
  · refine iff_of_true ?_ hhash
    rw [Replays, publish_of_check he' (hsame hhash), hresult]
  · refine iff_of_false (fun hreplays => ?_) hhash
    obtain ⟨conflict, hconflict, hrefused⟩ := hother hhash
    rw [Replays, publish_of_check he' hconflict] at hreplays
    rw [Except.ok.inj (congrArg Prod.fst hreplays), haccepted] at hrefused
    cases hrefused

/-- **Which retries are replayed.**  After a publish of a request with a key was accepted, and
whatever was published since, the same request with another id gets the recorded result
exactly if the loader ignores the id, or the hashes collide. -/
theorem publish_replays_iff (uuid5 : Uuid5) (sha256 : RequestContent → String)
    (loader : Option DefaultPipelineTaskLoader) (bus : B) (store : InMemoryPublishIdempotencyStore)
    (request : PublishRequest) (env env' : PublishEnv) (requestId : String) (hid : requestId ≠ "")
    (calls : List ServiceCall) (result : PublishResult)
    (hkey : request.idempotencyKey.isSome = true)
    (hpublish : ((withLoader uuid5 sha256 loader).publish bus store request env).1 = .ok result)
    (haccepted : result.accepted = true) :
    (withLoader uuid5 sha256 loader).Replays
        (final (withLoader uuid5 sha256 loader).serve
          ((withLoader uuid5 sha256 loader).publish bus store request env).2 calls)
        (request.withRequestId requestId hid) env' result ↔
      (∀ l ∈ loader, l.IgnoresRequestId request (request.withRequestId requestId hid)) ∨
        (withLoader uuid5 sha256 loader).Collides request
        (request.withRequestId requestId hid) := by
  have hexpand : ∀ {r e}, (withLoader uuid5 sha256 loader).expandPipelineOrNone r = some e →
      e.recordKey = r.recordKey := by
    intro r e he
    cases loader with
    | none =>
      obtain rfl := Option.some.inj he
      rfl
    | some l => exact recordKey_of_expand he
  obtain ⟨key, hkey⟩ := Option.isSome_iff_exists.mp hkey
  have hrequest : request.recordKey = some (request.sessionId, request.publisher.kind, key) := by
    rw [PublishRequest.recordKey, hkey]
    rfl
  have hretry : (request.withRequestId requestId hid).recordKey = request.recordKey := rfl
  cases he : (withLoader uuid5 sha256 loader).expandPipelineOrNone request with
  | none =>
    rw [publish, he] at hpublish
    obtain rfl := Except.ok.inj hpublish
    cases haccepted
  | some e =>
    obtain ⟨-, record, hrecord, hhash, hresult⟩ :=
      recorded_of_accepted he ((hexpand he).trans hrequest) hpublish haccepted
    have hkept := record_kept_final (withLoader uuid5 sha256 loader) calls _ hrecord
    cases he' : (withLoader uuid5 sha256 loader).expandPipelineOrNone
        (request.withRequestId requestId hid) with
    | none =>
      refine iff_of_false (fun hreplays => ?_) ?_
      · rw [Replays, publish, he'] at hreplays
        obtain rfl := Except.ok.inj (congrArg Prod.fst hreplays)
        cases haccepted
      · rintro (hignores | ⟨-, e', -, hcollides, -⟩)
        · cases loader with
          | none => cases he'
          | some l =>
            have hsame := DefaultPipelineTaskLoader.expandForPublish_withRequestId
              (hignores l rfl)
            rw [show l.expandForPublish request = some e from he] at hsame
            exact absurd (hsame.symm.trans he') (by simp)
        · rw [he'] at hcollides
          cases hcollides
    | some e' =>
      rw [replays_iff_hash he' ((hexpand he').trans (hretry.trans hrequest)) hkept
        hresult haccepted, hhash]
      constructor
      · intro hsame
        by_cases hcontent : e.content = e'.content
        · left
          intro l hl
          obtain rfl := hl
          exact DefaultPipelineTaskLoader.ignoresRequestId_of_content he he' hcontent
        · exact .inr ⟨e, e', he, he', hcontent, hsame⟩
      · rintro (hignores | ⟨e₁, e₂, he₁, he₂, -, hsame⟩)
        · suffices hcontent : e.content = e'.content from congrArg sha256 hcontent
          cases loader with
          | none =>
            obtain rfl := Option.some.inj he
            obtain rfl := Option.some.inj he'
            rfl
          | some l =>
            have hsame := DefaultPipelineTaskLoader.expandForPublish_withRequestId
              (hignores l rfl)
            rw [show l.expandForPublish request = some e from he] at hsame
            have he'' := Option.some.inj (hsame.symm.trans he')
            rw [← he'']
            rfl
        · rw [he] at he₁
          rw [he'] at he₂
          obtain rfl := Option.some.inj he₁
          obtain rfl := Option.some.inj he₂
          exact hsame

/-! ### One pipeline task -/

/-- A task in front of every tree, with a template that names nothing. -/
def checkLoader (metadata : Dict String PyValue) : DefaultPipelineTaskLoader where
  config :=
    { taskBefore :=
        [{ specId := "check", title := "Check", intentTemplate := "Check the plan."
           requiredCapability := "general", metadata := metadata }] }
  format template _ := some template

/-- The hashes of the sample request with this task in front, by the request id that the task
shows. -/
def checkSha256 (c : RequestContent) : String :=
  match c.taskTree.bind fun tree => tree.rootNodes.head?.bind fun n =>
      n.metadata.get? "pipeline_source_request_id" with
  | some (.str "request") => "44d90b1b733a751674941dbd457d56e1dc988969bb5ee91b3eb29a4a9eb20c21"
  | some (.str "other") => "d5786d52d5a8cbaecf0de4d50bc08ca984f279b8bdfb5956cb80f54e05530fe8"
  | _ => "5a45f1b64cdcd26c63b7816a604d88cf9d299007ae962f4236c5153ba33053eb"

def checked (metadata : Dict String PyValue) : TaskPublishService :=
  withLoader .sample checkSha256 (some (checkLoader metadata))

/-- The metadata of the task write over the request id. -/
def anyRequest : Dict String PyValue := Dict.ofList [("pipeline_source_request_id", .str "any")]

/-- The sample request is replayed under another id, when the task does not show it. -/
theorem publish_replays_anyRequest : ∃ result,
    (checked anyRequest).Replays
      (final (checked anyRequest).serve
        ((checked anyRequest).publish InMemoryTaskBus.empty {} (.sample Dict.empty) .sample).2 [])
      ((PublishRequest.sample Dict.empty).withRequestId "other" (by decide)) .sample result := by
  have hfirst : ((checked anyRequest).publish InMemoryTaskBus.empty {} (.sample Dict.empty)
      .sample).1.toOption.map PublishResult.accepted = some true := by
    decide +kernel
  cases hpublish : ((checked anyRequest).publish InMemoryTaskBus.empty {} (.sample Dict.empty)
      .sample).1 with
  | error e =>
    rw [hpublish] at hfirst
    cases hfirst
  | ok result =>
    rw [hpublish] at hfirst
    refine ⟨result, (publish_replays_iff .sample checkSha256 (some (checkLoader anyRequest)) _ {} _
      .sample .sample "other" (by decide) [] result rfl hpublish (Option.some.inj hfirst)).mpr
        (.inl ?_)⟩
    rintro l hl - - -
    obtain rfl := Option.some.inj hl
    refine ⟨fun spec hspec => ?_, fun spec hspec => by cases hspec⟩
    obtain rfl := List.mem_singleton.mp hspec
    exact ⟨rfl, .inr rfl⟩

/-- **A retry with a new request id is a conflict**, when a pipeline task shows the id. -/
theorem retry_conflicts : ∃ result,
    ((checked Dict.empty).publish InMemoryTaskBus.empty {} (.sample Dict.empty) .sample).1 =
      .ok result ∧ result.accepted = true ∧
    ¬(checked Dict.empty).Replays
      ((checked Dict.empty).publish InMemoryTaskBus.empty {} (.sample Dict.empty) .sample).2
      ((PublishRequest.sample Dict.empty).withRequestId "other" (by decide)) .sample result := by
  have hfirst : ((checked Dict.empty).publish InMemoryTaskBus.empty {} (.sample Dict.empty)
      .sample).1.toOption.map PublishResult.accepted = some true := by
    decide +kernel
  have hsecond : ((checked Dict.empty).publish
      ((checked Dict.empty).publish InMemoryTaskBus.empty {} (.sample Dict.empty) .sample).2.1
      ((checked Dict.empty).publish InMemoryTaskBus.empty {} (.sample Dict.empty) .sample).2.2
      ((PublishRequest.sample Dict.empty).withRequestId "other" (by decide))
      .sample).1.toOption.map PublishResult.accepted = some false := by
    decide +kernel
  cases hpublish : ((checked Dict.empty).publish InMemoryTaskBus.empty {} (.sample Dict.empty)
      .sample).1 with
  | error e =>
    rw [hpublish] at hfirst
    cases hfirst
  | ok result =>
    rw [hpublish] at hfirst
    refine ⟨result, rfl, Option.some.inj hfirst, fun hreplays => ?_⟩
    rw [Replays] at hreplays
    rw [hreplays] at hsecond
    exact absurd (hfirst.symm.trans hsecond) (by decide)

end TaskPublishService

end Taskweavn

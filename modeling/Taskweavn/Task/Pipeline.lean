import Taskweavn.Task.PublishService

/-!
# Pipeline tasks

Before a request is published, `DefaultPipelineTaskLoader` may put configured
tasks in front of the trees that were asked for (`taskweavn/task/pipeline.py`): the
enabled specs of `task_before` and `task_begin`, each as a root of its own.  The
specs of `task_after` are not loaded at this time.

The intent of a pipeline task is a template, filled by `str.format` from the values
of the request.  `format` is that call, with `none` where it raises; an expansion
that raises is given up as a whole.
-/

namespace Taskweavn

open Lib Py

inductive PipelineStage
  | taskBefore
  | taskBegin
  | taskAfter
deriving DecidableEq, Repr

def PipelineStage.toText : PipelineStage → String
  | taskBefore => "task_before"
  | taskBegin => "task_begin"
  | taskAfter => "task_after"

/-- Template for one auto-loaded pipeline task. -/
structure PipelineTaskSpec where
  specId : String
  title : String
  intentTemplate : String
  requiredCapability : String
  agentRef : Option String := none
  enabled : Bool := true
  order : ℕ := 0
  metadata : Dict String PyValue := Dict.empty

structure PipelineConfig where
  enabled : Bool := true
  taskBefore : List PipelineTaskSpec := []
  taskBegin : List PipelineTaskSpec := []

/-- The values that a template may name. -/
structure PipelineValues where
  sessionId : String
  requestId : String
  publisherKind : PublisherKind
  sourceType : PublishSourceKind
  sourceId : String
  sourceRef : String
  rootIds : String
  taskCount : ℕ
  taskTree : Option TreeContent
  pipelineStage : PipelineStage

structure DefaultPipelineTaskLoader where
  config : PipelineConfig := {}
  format : String → PipelineValues → Option String

/-- `NormalizedTaskTree(...)`, when its validator accepts it. -/
def NormalizedTaskTree.build (rootNodes : List NormalizedTaskNode) (source : PublisherRef)
    (sourceRef : Option String) (metadata : Dict String PyValue) : Option NormalizedTaskTree :=
  if h : rootNodes ≠ [] ∧
      (NormalizedTaskNode.collectAll rootNodes).all NormalizedTaskNode.fieldsOk = true ∧
      (source.fieldsOk = true ∧ optText.accepts sourceRef = true) ∧
      (validateTree [] rootNodes).isOk = true then
    some
      { rootNodes, source, sourceRef, metadata, nonempty := h.1, nodes_ok := h.2.1
        source_ok := h.2.2.1, valid := h.2.2.2 }
  else none

theorem NormalizedTaskTree.build_source {rootNodes : List NormalizedTaskNode}
    {source : PublisherRef}
    {sourceRef : Option String} {metadata : Dict String PyValue} {tree : NormalizedTaskTree}
    (h : build rootNodes source sourceRef metadata = some tree) : tree.source = source := by
  unfold build at h
  split at h
  · cases h
    rfl
  · cases h

theorem NormalizedTaskTree.build_rootNodes {rootNodes : List NormalizedTaskNode}
    {source : PublisherRef} {sourceRef : Option String} {metadata : Dict String PyValue}
    {tree : NormalizedTaskTree} (h : build rootNodes source sourceRef metadata = some tree) :
    tree.rootNodes = rootNodes := by
  unfold build at h
  split at h
  · cases h
    rfl
  · cases h

namespace PublishRequest

/-- `request.model_copy(update={"task_tree": expanded})` -/
def withTree (request : PublishRequest) (expanded : NormalizedTaskTree)
    (h : expanded.source = request.publisher) : PublishRequest :=
  { request with
    taskTree := some expanded
    has_input := .inl rfl
    same_source := by
      intro tree htree
      rw [← Option.some.inj htree]
      exact h }

def withDryRun (request : PublishRequest) (dryRun : Bool) : PublishRequest :=
  { request with options := { request.options with dryRun := dryRun } }

theorem withDryRun_self (request : PublishRequest) :
    request.withDryRun request.options.dryRun = request := rfl

end PublishRequest

namespace DefaultPipelineTaskLoader

def enabledSpecs (specs : List PipelineTaskSpec) : List PipelineTaskSpec :=
  sortOn PipelineTaskSpec.order (specs.filter PipelineTaskSpec.enabled)

def values (request : PublishRequest) (stage : PipelineStage) : PipelineValues where
  sessionId := request.sessionId
  requestId := request.requestId
  publisherKind := request.publisher.kind
  sourceType := request.source.sourceType
  sourceId := request.source.sourceId.getD ""
  sourceRef := (request.taskTree.bind NormalizedTaskTree.sourceRef).getD ""
  rootIds := ", ".intercalate
    ((request.taskTree.map (fun tree => tree.rootNodes.map NormalizedTaskNode.nodeId)).getD [])
  taskCount := (request.taskTree.map (fun tree => tree.iterNodes.length)).getD 0
  taskTree := request.taskTree.map NormalizedTaskTree.content
  pipelineStage := stage

variable (loader : DefaultPipelineTaskLoader)

def nodeFromSpec (spec : PipelineTaskSpec) (stage : PipelineStage) (request : PublishRequest) :
    Option NormalizedTaskNode :=
  (loader.format spec.intentTemplate (values request stage)).map fun intent =>
    { nodeId := "pipeline:" ++ stage.toText ++ ":" ++ spec.specId
      title := spec.title
      intent := intent
      requiredCapability := spec.requiredCapability
      agentRef := spec.agentRef
      metadata := Dict.ofList
        ([("source", .str "pipeline"),
          ("pipeline_stage", .str stage.toText),
          ("pipeline_spec_id", .str spec.specId),
          ("pipeline_order", .int spec.order),
          ("pipeline_source_request_id", .str request.requestId),
          ("pipeline_source_publisher_kind", .str request.publisher.kind.toText),
          ("pipeline_source_id", optText.dump request.source.sourceId)] ++
          spec.metadata.entries) }

def publishTimeRoots (request : PublishRequest) : Option (List NormalizedTaskNode) := do
  let before ← (enabledSpecs loader.config.taskBefore).mapM
    (fun spec => loader.nodeFromSpec spec .taskBefore request)
  let begin ← (enabledSpecs loader.config.taskBegin).mapM
    (fun spec => loader.nodeFromSpec spec .taskBegin request)
  pure (before ++ begin)

def withPipelineRoots (request : PublishRequest) (tree : NormalizedTaskTree)
    (htree : request.taskTree = some tree) (pipelineRoots : List NormalizedTaskNode) :
    Option PublishRequest :=
  match hb : NormalizedTaskTree.build (pipelineRoots ++ tree.rootNodes) tree.source tree.sourceRef
      (Dict.ofList (tree.metadata.entries ++
        [("pipeline_enabled", .bool true), ("pipeline_task_count", .int
          pipelineRoots.length)])) with
  | none => none
  | some expanded =>
    some (request.withTree expanded
      ((NormalizedTaskTree.build_source hb).trans (request.same_source tree htree)))

def expandTree (request : PublishRequest) (tree : NormalizedTaskTree)
    (htree : request.taskTree = some tree) : Option PublishRequest :=
  match loader.publishTimeRoots request with
  | none => none
  | some [] => some request
  | some pipelineRoots => withPipelineRoots request tree htree pipelineRoots

def expandForPublish (request : PublishRequest) : Option PublishRequest :=
  if !loader.config.enabled || !request.options.allowPipeline then some request
  else
    match htree : request.taskTree with
    | none => some request
    | some tree => loader.expandTree request tree htree

/-! ### The loader and the dry-run option -/

variable {loader}

theorem withPipelineRoots_withDryRun (request : PublishRequest) (dryRun : Bool)
    (tree : NormalizedTaskTree) (htree : request.taskTree = some tree)
    (pipelineRoots : List NormalizedTaskNode) :
    withPipelineRoots (request.withDryRun dryRun) tree htree pipelineRoots =
      (withPipelineRoots request tree htree pipelineRoots).map (·.withDryRun dryRun) := by
  unfold withPipelineRoots
  split <;> rfl

theorem expandTree_withDryRun (request : PublishRequest) (dryRun : Bool)
    (tree : NormalizedTaskTree) (htree : request.taskTree = some tree) :
    loader.expandTree (request.withDryRun dryRun) tree htree =
      (loader.expandTree request tree htree).map (·.withDryRun dryRun) := by
  have hroots : loader.publishTimeRoots (request.withDryRun dryRun) =
      loader.publishTimeRoots request := rfl
  unfold expandTree
  rw [hroots]
  rcases loader.publishTimeRoots request with _ | _ | ⟨root, rest⟩
  · rfl
  · rfl
  · exact withPipelineRoots_withDryRun request dryRun tree htree _

/-- **The loader does not look at the dry-run option**, and keeps it. -/
theorem expandForPublish_withDryRun (request : PublishRequest) (dryRun : Bool) :
    loader.expandForPublish (request.withDryRun dryRun) =
      (loader.expandForPublish request).map (·.withDryRun dryRun) := by
  unfold expandForPublish
  by_cases hoff : (!loader.config.enabled || !request.options.allowPipeline) = true
  · rw [if_pos hoff, if_pos (show (!loader.config.enabled ||
      !(request.withDryRun dryRun).options.allowPipeline) = true from hoff)]
    rfl
  · rw [if_neg hoff, if_neg (show ¬(!loader.config.enabled ||
      !(request.withDryRun dryRun).options.allowPipeline) = true from hoff)]
    split
    · next hnone =>
      split
      · rfl
      · next tree htree =>
        rw [show request.taskTree = none from hnone] at htree
        cases htree
    · next tree htree =>
      split
      · next hnone =>
        rw [show request.taskTree = some tree from htree] at hnone
        cases hnone
      · next tree' htree' =>
        obtain rfl : tree' = tree :=
          Option.some.inj (htree'.symm.trans (show request.taskTree = some tree from htree))
        exact expandTree_withDryRun request dryRun tree' htree'

end DefaultPipelineTaskLoader

end Taskweavn

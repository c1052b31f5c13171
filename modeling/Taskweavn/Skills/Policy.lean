import Taskweavn.Context.Renderer
import Taskweavn.Lib.Allowlist

/-!
# Skill permissions

A skill comes with a tool policy, and `merge_skill_controls` merges it into the controls of a
run (`taskweavn/skills/policy.py`).  `SkillContextSource.collect` merges the active skills of a
run one after the other (`taskweavn/skills/context_source.py`).

A merge never adds a tool (`mergedControls_tools`), and what it denies or has approved
stays so.  The file scopes are an allowlist, and a merge takes the `meet` of two of them.  That
a fold of merges widens nothing is `NeverWidens`, and it comes down to a scope that all the
merged skills permit (`neverWidens_iff`).
-/

namespace Taskweavn

open Lib

inductive SkillTrustLevel
  | trusted
  | repoTrusted
  | userTrusted
  | untrusted
deriving DecidableEq

inductive SkillPermissionOutcomeKind
  | grantedByRuntime
  | narrowedBySkill
  | approvalRequiredBySkill
  | deniedByRuntime
  | deniedBySkill
  | blockedUntrustedSkill
deriving DecidableEq

/-- The names are texts, but for those of a registry, which may have surrogates in them. -/
structure SkillToolPolicy (S : Type := String) where
  requestedTools : List S := []
  deniedTools : List S := []
  requiresApproval : List S := []
  fileScopes : List S := []

structure SkillDescriptor (S : Type := String) where
  skillId : String
  contentHash : String
  trustLevel : SkillTrustLevel
  toolPolicy : SkillToolPolicy S := {}

structure SkillPermissionOutcome where
  kind : SkillPermissionOutcomeKind
  skillId : String
  tool : Option String := none
  reason : String
deriving DecidableEq

structure SkillPermissionMergeResult where
  controls : ExecutionControls
  outcomes : List SkillPermissionOutcome := []

/-! ### The merge -/

def orderedUnion (left right : List String) : List String :=
  (left ++ right).foldl (fun values item => if item ∈ values then values else values ++ [item]) []

def mergeFileScopes (base skill : List String) : List String :=
  if base ≠ [] ∧ skill ≠ [] then base.filter (· ∈ skill)
  else if base ≠ [] then base
  else skill

def deniedOutcome (base : ExecutionControls) (descriptor : SkillDescriptor) (tool : String) :
    SkillPermissionOutcome where
  kind := if tool ∈ base.allowedTools then .narrowedBySkill else .deniedBySkill
  skillId := descriptor.skillId
  tool := some tool
  reason := "skill explicitly denies this tool"

def requestedOutcome (base : ExecutionControls) (descriptor : SkillDescriptor) (tool : String) :
    SkillPermissionOutcome :=
  if tool ∈ base.deniedTools then
    ⟨.deniedByRuntime, descriptor.skillId, some tool, "runtime denies this tool"⟩
  else if tool ∈ descriptor.toolPolicy.deniedTools then
    ⟨.deniedBySkill, descriptor.skillId, some tool, "skill denies this requested tool"⟩
  else if tool ∉ base.allowedTools then
    ⟨.deniedByRuntime, descriptor.skillId, some tool, "runtime did not grant this requested tool"⟩
  else
    ⟨.grantedByRuntime, descriptor.skillId, some tool,
      "requested tool was already allowed by runtime"⟩

def approvalOutcomes (descriptor : SkillDescriptor) : List SkillPermissionOutcome :=
  let requested := descriptor.toolPolicy.requestedTools
  (descriptor.toolPolicy.requiresApproval.filter fun tool => tool ∈ requested ∨ requested = []).map
    fun tool => ⟨.approvalRequiredBySkill, descriptor.skillId, some tool,
      "skill requires approval for this tool/action"⟩

def mergeSkillControls (base : ExecutionControls) (descriptor : SkillDescriptor) :
    SkillPermissionMergeResult :=
  if descriptor.trustLevel = .untrusted then
    { controls := base
      outcomes := [⟨.blockedUntrustedSkill, descriptor.skillId, none,
        "skill trust level is untrusted"⟩] }
  else
    let policy := descriptor.toolPolicy
    { controls :=
        { allowedTools := base.allowedTools.filter (· ∉ policy.deniedTools)
          deniedTools := orderedUnion base.deniedTools policy.deniedTools
          requiresApproval := orderedUnion base.requiresApproval policy.requiresApproval
          pendingApproval := base.pendingApproval
          fileScopes := mergeFileScopes base.fileScopes policy.fileScopes }
      outcomes := policy.deniedTools.map (deniedOutcome base descriptor) ++
        policy.requestedTools.map (requestedOutcome base descriptor) ++
        approvalOutcomes descriptor }

/-! ### The active skills of a run -/

/-- A skill that is active for a run, by the version that was activated. -/
structure SkillActivation where
  skillId : String
  contentHash : String

/-- `SkillRegistry.get` -/
def registryGet {S : Type} (descriptors : List (SkillDescriptor S)) (skillId : String) :
    Option (SkillDescriptor S) :=
  descriptors.find? fun descriptor => descriptor.skillId == skillId

/-- The skill of an activation, when the registry still has that version. -/
def currentDescriptor {S : Type} (registry : List (SkillDescriptor S))
    (activation : SkillActivation) : Option (SkillDescriptor S) :=
  (registryGet registry activation.skillId).filter fun descriptor =>
    descriptor.contentHash == activation.contentHash

/-- The loop of `SkillContextSource.collect` over the active skills. -/
def collectControls (registry : List SkillDescriptor) :
    ExecutionControls → List SkillPermissionOutcome → List SkillActivation →
      SkillPermissionMergeResult
  | current, outcomes, [] => ⟨current, outcomes⟩
  | current, outcomes, activation :: active =>
    match currentDescriptor registry activation with
    | none => collectControls registry current outcomes active
    | some descriptor =>
      let merge := mergeSkillControls current descriptor
      collectControls registry merge.controls (outcomes ++ merge.outcomes) active

/-- The controls after skills that are merged one after the other. -/
def mergedControls (base : ExecutionControls) (descriptors : List SkillDescriptor) :
    ExecutionControls :=
  descriptors.foldl (fun controls descriptor => (mergeSkillControls controls descriptor).controls)
    base

/-! ### What one merge does -/

variable {base : ExecutionControls} {descriptor : SkillDescriptor} {tool scope : String}

theorem mem_orderedUnion {left right : List String} :
    tool ∈ orderedUnion left right ↔ tool ∈ left ∨ tool ∈ right := by
  have hfold : ∀ (items values : List String),
      tool ∈ items.foldl (fun values item => if item ∈ values then values else values ++ [item])
        values ↔ tool ∈ values ∨ tool ∈ items := by
    intro items
    induction items with
    | nil => intro values; simp
    | cons item items ih =>
      intro values
      rw [List.foldl_cons, ih]
      split
      · next hmem => grind
      · grind
  rw [orderedUnion, hfold, List.mem_append]
  simp

theorem mergeFileScopes_eq (left right : List String) :
    mergeFileScopes left right = Allowlist.meet left right := by
  unfold mergeFileScopes Allowlist.meet
  by_cases hl : left = []
  · simp [hl]
  · by_cases hr : right = [] <;> simp [hl, hr]

/-- The skills that take part in a merge. -/
def trustedSkills (descriptors : List SkillDescriptor) : List SkillDescriptor :=
  descriptors.filter fun descriptor => descriptor.trustLevel ≠ .untrusted

/-- A tool can be used when it is allowed and not denied. -/
def ExecutionControls.PermitsTool (controls : ExecutionControls) (tool : String) : Prop :=
  tool ∈ controls.allowedTools ∧ tool ∉ controls.deniedTools

/-- A file scope can be used when the list of scopes has it or is empty. -/
def ExecutionControls.PermitsScope (controls : ExecutionControls) (scope : String) : Prop :=
  Allowlist.Permits controls.fileScopes scope

/-- **The tools of a fold of merges**, list by list. -/
theorem mergedControls_tools (descriptors : List SkillDescriptor) :
    ∀ base : ExecutionControls,
      (tool ∈ (mergedControls base descriptors).allowedTools ↔ tool ∈ base.allowedTools ∧
        ∀ d ∈ trustedSkills descriptors, tool ∉ d.toolPolicy.deniedTools) ∧
      (tool ∈ (mergedControls base descriptors).deniedTools ↔ tool ∈ base.deniedTools ∨
        ∃ d ∈ trustedSkills descriptors, tool ∈ d.toolPolicy.deniedTools) ∧
      (tool ∈ (mergedControls base descriptors).requiresApproval ↔ tool ∈ base.requiresApproval ∨
        ∃ d ∈ trustedSkills descriptors, tool ∈ d.toolPolicy.requiresApproval) := by
  induction descriptors with
  | nil => intro base; simp [mergedControls, trustedSkills]
  | cons d descriptors ih =>
    intro base
    have hrest := ih (mergeSkillControls base d).controls
    rw [show mergedControls base (d :: descriptors) =
      mergedControls (mergeSkillControls base d).controls descriptors from rfl]
    by_cases htrust : d.trustLevel = .untrusted
    · have hskip : trustedSkills (d :: descriptors) = trustedSkills descriptors :=
        List.filter_cons_of_neg (by simp [htrust])
      rw [mergeSkillControls, if_pos htrust] at hrest ⊢
      rw [hskip]
      exact hrest
    · have hkeep : trustedSkills (d :: descriptors) = d :: trustedSkills descriptors :=
        List.filter_cons_of_pos (by simp [htrust])
      rw [mergeSkillControls, if_neg htrust] at hrest ⊢
      obtain ⟨hallowed, hdenied, happroval⟩ := hrest
      rw [hkeep, hallowed, hdenied, happroval]
      simp only [List.mem_filter, decide_eq_true_eq, mem_orderedUnion, List.forall_mem_cons,
        List.exists_mem_cons_iff, and_assoc, or_assoc, and_self]

theorem fileScopes_mergedControls (descriptors : List SkillDescriptor) :
    ∀ base : ExecutionControls, (mergedControls base descriptors).fileScopes =
      ((trustedSkills descriptors).map fun d => d.toolPolicy.fileScopes).foldl Allowlist.meet
        base.fileScopes := by
  induction descriptors with
  | nil => exact fun _ => rfl
  | cons d descriptors ih =>
    intro base
    rw [show mergedControls base (d :: descriptors) =
      mergedControls (mergeSkillControls base d).controls descriptors from rfl, ih]
    by_cases htrust : d.trustLevel = .untrusted
    · have hskip : trustedSkills (d :: descriptors) = trustedSkills descriptors :=
        List.filter_cons_of_neg (by simp [htrust])
      rw [mergeSkillControls, if_pos htrust, hskip]
    · have hkeep : trustedSkills (d :: descriptors) = d :: trustedSkills descriptors :=
        List.filter_cons_of_pos (by simp [htrust])
      rw [mergeSkillControls, if_neg htrust, hkeep, List.map_cons, List.foldl_cons,
        ← mergeFileScopes_eq]

/-- The allowlists of scopes that take part in a fold of merges. -/
def scopeLists (base : ExecutionControls) (descriptors : List SkillDescriptor) :
    List (List String) :=
  base.fileScopes :: (trustedSkills descriptors).map fun d => d.toolPolicy.fileScopes

theorem mem_scopeLists {descriptors : List SkillDescriptor} {scopes : List String} :
    scopes ∈ scopeLists base descriptors ↔ scopes = base.fileScopes ∨
      ∃ d ∈ trustedSkills descriptors, d.toolPolicy.fileScopes = scopes := by
  rw [scopeLists, List.mem_cons, List.mem_map]

theorem mem_trustedSkills_perm {descriptors others : List SkillDescriptor}
    (h : others.Perm descriptors) :
    descriptor ∈ trustedSkills others ↔ descriptor ∈ trustedSkills descriptors :=
  (h.filter _).mem_iff

/-! ### Skills and authority -/

/-- The skills widen nothing that the run may do, and their order does not matter. -/
structure NeverWidens (base : ExecutionControls) (descriptors : List SkillDescriptor) : Prop where
  tools : ∀ tool, (mergedControls base descriptors).PermitsTool tool → base.PermitsTool tool
  denied : base.deniedTools ⊆ (mergedControls base descriptors).deniedTools
  approval : base.requiresApproval ⊆ (mergedControls base descriptors).requiresApproval
  denied_by_skill : ∀ d ∈ trustedSkills descriptors, ∀ tool ∈ d.toolPolicy.deniedTools,
    tool ∉ (mergedControls base descriptors).allowedTools
  scopes : ∀ scope, (mergedControls base descriptors).PermitsScope scope →
    base.PermitsScope scope ∧
      ∀ d ∈ trustedSkills descriptors, Allowlist.Permits d.toolPolicy.fileScopes scope
  order : ∀ others : List SkillDescriptor, others.Perm descriptors →
    (∀ tool, (mergedControls base others).PermitsTool tool ↔
      (mergedControls base descriptors).PermitsTool tool) ∧
    ∀ scope, (mergedControls base others).PermitsScope scope ↔
      (mergedControls base descriptors).PermitsScope scope

theorem permitsTool_mergedControls {descriptors : List SkillDescriptor} :
    (mergedControls base descriptors).PermitsTool tool ↔ base.PermitsTool tool ∧
      ∀ d ∈ trustedSkills descriptors, tool ∉ d.toolPolicy.deniedTools := by
  obtain ⟨hallowed, hdenied, -⟩ := @mergedControls_tools tool descriptors base
  rw [ExecutionControls.PermitsTool, hallowed, hdenied, ExecutionControls.PermitsTool, not_or,
    not_exists]
  constructor
  · rintro ⟨⟨ha, hskills⟩, hd, -⟩
    exact ⟨⟨ha, hd⟩, hskills⟩
  · rintro ⟨⟨ha, hd⟩, hskills⟩
    exact ⟨⟨ha, hskills⟩, hd, fun d hmem => hskills d hmem.1 hmem.2⟩

/-- Only what the controls permit is said to be granted. -/
theorem permitsTool_of_granted {o : SkillPermissionOutcome}
    (h : o ∈ (mergeSkillControls base descriptor).outcomes) (ho : o.kind = .grantedByRuntime) :
    ∃ tool, o.tool = some tool ∧ base.PermitsTool tool := by
  unfold mergeSkillControls at h
  grind [deniedOutcome, requestedOutcome, approvalOutcomes, ExecutionControls.PermitsTool]

/-- The loop merges the skills that are still registered. -/
theorem controls_collectControls (registry : List SkillDescriptor) :
    ∀ (active : List SkillActivation) (current : ExecutionControls)
      (outcomes : List SkillPermissionOutcome),
      (collectControls registry current outcomes active).controls =
        mergedControls current (active.filterMap (currentDescriptor registry)) := by
  intro active
  induction active with
  | nil => exact fun _ _ => rfl
  | cons activation active ih =>
    intro current outcomes
    rw [collectControls, List.filterMap_cons]
    cases currentDescriptor registry activation with
    | none => exact ih current outcomes
    | some descriptor => exact ih _ _

theorem granted_collectControls (registry : List SkillDescriptor) :
    ∀ (active : List SkillActivation) (current : ExecutionControls)
      (outcomes : List SkillPermissionOutcome),
      (∀ tool, current.PermitsTool tool → base.PermitsTool tool) →
      (∀ o ∈ outcomes, o.kind = .grantedByRuntime →
        ∃ tool, o.tool = some tool ∧ base.PermitsTool tool) →
      ∀ o ∈ (collectControls registry current outcomes active).outcomes,
        o.kind = .grantedByRuntime → ∃ tool, o.tool = some tool ∧ base.PermitsTool tool := by
  intro active
  induction active with
  | nil => exact fun _ _ _ houtcomes => houtcomes
  | cons activation active ih =>
    intro current outcomes hcurrent houtcomes
    rw [collectControls]
    cases currentDescriptor registry activation with
    | none => exact ih current outcomes hcurrent houtcomes
    | some descriptor =>
      refine ih _ _ (fun tool htool => hcurrent tool ?_) (fun o ho hkind => ?_)
      · have hfold : (mergedControls current [descriptor]).PermitsTool tool := htool
        exact (permitsTool_mergedControls.mp hfold).1
      · rcases List.mem_append.mp ho with ho | ho
        · exact houtcomes o ho hkind
        · obtain ⟨tool, htool, hp⟩ := permitsTool_of_granted ho hkind
          exact ⟨tool, htool, hcurrent tool hp⟩

/-- **The active skills of a run**: a tool is left exactly if the run permits it and no trusted
skill that is still registered denies it, and only what the run permits is said to be granted. -/
theorem collectControls_permits (registry : List SkillDescriptor) (active : List SkillActivation)
    (base : ExecutionControls) :
    (∀ tool, (collectControls registry base [] active).controls.PermitsTool tool ↔
      base.PermitsTool tool ∧ ∀ d ∈ trustedSkills (active.filterMap (currentDescriptor registry)),
        tool ∉ d.toolPolicy.deniedTools) ∧
    ∀ o ∈ (collectControls registry base [] active).outcomes, o.kind = .grantedByRuntime →
      ∃ tool, o.tool = some tool ∧ base.PermitsTool tool := by
  refine ⟨fun tool => ?_, ?_⟩
  · rw [controls_collectControls]
    exact permitsTool_mergedControls
  · exact granted_collectControls registry active base [] (fun _ => id) (fun _ ho => by cases ho)

theorem permitsScope_mergedControls {descriptors : List SkillDescriptor}
    (h : Allowlist.Compatible (scopeLists base descriptors)) :
    (mergedControls base descriptors).PermitsScope scope ↔
      ∀ scopes ∈ scopeLists base descriptors, Allowlist.Permits scopes scope := by
  rw [ExecutionControls.PermitsScope, fileScopes_mergedControls]
  exact Allowlist.permits_foldl_meet h scope

/-- **Skills never widen authority** exactly when there is a file scope that the run and all
the merged skills permit. -/
theorem neverWidens_iff (base : ExecutionControls) (descriptors : List SkillDescriptor) :
    NeverWidens base descriptors ↔ Allowlist.Compatible (scopeLists base descriptors) := by
  constructor
  · intro h
    rw [scopeLists, ← Allowlist.permits_foldl_sound_iff, ← fileScopes_mergedControls]
    intro scope hscope scopes hmem
    obtain ⟨hbase, hskills⟩ := h.scopes scope hscope
    rcases mem_scopeLists.mp hmem with rfl | ⟨d, hd, rfl⟩
    · exact hbase
    · exact hskills d hd
  · intro h
    constructor
    case tools =>
      intro tool htool
      exact (permitsTool_mergedControls.mp htool).1
    case denied =>
      intro tool htool
      exact (mergedControls_tools descriptors base).2.1.mpr (.inl htool)
    case approval =>
      intro tool htool
      exact (mergedControls_tools descriptors base).2.2.mpr (.inl htool)
    case denied_by_skill =>
      intro d hd tool htool hallowed
      exact ((mergedControls_tools descriptors base).1.mp hallowed).2 d hd htool
    case scopes =>
      intro scope hscope
      have hall := (permitsScope_mergedControls h).mp hscope
      exact ⟨hall _ (mem_scopeLists.mpr (.inl rfl)),
        fun d hd => hall _ (mem_scopeLists.mpr (.inr ⟨d, hd, rfl⟩))⟩
    case order =>
      intro others hperm
      have hlists : ∀ scopes, scopes ∈ scopeLists base others ↔
          scopes ∈ scopeLists base descriptors := by
        intro scopes
        simp only [mem_scopeLists, mem_trustedSkills_perm hperm]
      have hothers : Allowlist.Compatible (scopeLists base others) := by
        obtain ⟨scope, hscope⟩ := h
        exact ⟨scope, fun scopes hmem => hscope scopes ((hlists scopes).mp hmem)⟩
      refine ⟨fun tool => ?_, fun scope => ?_⟩
      · simp only [permitsTool_mergedControls, mem_trustedSkills_perm hperm]
      · rw [permitsScope_mergedControls h, permitsScope_mergedControls hothers]
        simp only [hlists]

/-- Two skills with scopes of their own leave the run with the scopes of the second one. -/
theorem disjoint_scopes_widen : ¬∀ (base : ExecutionControls) (descriptors : List SkillDescriptor),
    NeverWidens base descriptors := by
  intro h
  have hscopes := (h { fileScopes := ["src"] }
    [{ skillId := "repo:docs", contentHash := "sha256:1", trustLevel := .repoTrusted,
       toolPolicy := { fileScopes := ["docs"] } },
     { skillId := "repo:secrets", contentHash := "sha256:2", trustLevel := .repoTrusted,
       toolPolicy := { fileScopes := ["secrets"] } }]).scopes "secrets" (.inr (by decide))
  rcases hscopes.1 with hnil | hmem
  · exact absurd hnil (by decide)
  · exact absurd hmem (by decide)

end Taskweavn

import Taskweavn.Context.Policy
import Taskweavn.Skills.Registry

/-!
# Skills within a budget

`SkillContextSource._segment_for_activation` renders an active skill: a summary and the beginning
of its instructions, each cut to its budget (`taskweavn/skills/context_source.py`).  A text that is
cut ends with a marker, and 24 characters are left for the 28 of the marker.

With the evidence of `ContextPolicy`, `honoursBudgets_iff` says when **the budgets of a context are
honoured**.
-/

namespace Taskweavn.SkillContext

open ContextPolicy Py SkillRegistry

structure SkillContextBudget where
  maxActiveSkillSummaryChars : ℕ := 2000
  maxActiveSkillBodyChars : ℕ := 12000

/-- A `SkillActivation`, as far as a segment shows it. -/
structure Activation extends SkillActivation where
  activationId : String
  activationReason : String
  budgetChars : ℕ := 12000
  loadedResourceRefs : List String := []

structure SkillContextSegment where
  activationId : String
  skillId : String
  name : String
  description : String
  sourceRef : String
  contentHash : String
  activationReason : String
  renderedSummary : String
  renderedInstructionExcerpt : Option String
  loadedResourceRefs : List String
  charEstimate : ℕ
  tokenEstimate : ℕ
  truncated : Bool
  truncationReason : Option String
deriving DecidableEq

/-- What is found at the path of a skill file: no file, or one that may be unreadable. -/
abbrev SkillFiles := String → Option (Option ByteArray)

/-! ### Rendering -/

def stripFrontmatter (raw : String) : String :=
  if ¬"---\n".toList.isPrefixOf raw.toList then raw
  else
    match Lib.cutAt "\n---".toList (raw.toList.drop 4) with
    | none => raw
    | some (_, rest) => String.ofList (rest.dropWhile (· == '\n'))

/-- `output_contract` or the description, without white space around it. -/
def contractOrDescription (descriptor : Descriptor) : String :=
  if descriptor.outputContract.getD "" ≠ "" then strip (descriptor.outputContract.getD "")
  else strip descriptor.description

def loadSkillInstructionBody (files : SkillFiles) (descriptor : Descriptor) :
    Except SkillRegistry.Raised String :=
  if descriptor.instructionBody.getD "" ≠ "" then
    .ok (strip (stripFrontmatter (descriptor.instructionBody.getD "")))
  else if descriptor.skillFilePath.getD "" ≠ "" then
    match files (descriptor.skillFilePath.getD "") with
    | some bytes => (readText bytes).map fun raw => strip (stripFrontmatter raw)
    | none => .ok (contractOrDescription descriptor)
  else .ok (contractOrDescription descriptor)

def truncationMarker : String := "\n[truncated by skill budget]"

def truncate (text : String) (budget : ℕ) : String × Bool :=
  if budget = 0 then ("", text ≠ "")
  else if text.length ≤ budget then (text, false)
  else (rstrip (firstChars (budget - 24) text) ++ truncationMarker, true)

def summaryText (activation : Activation) (descriptor : Descriptor) : String :=
  descriptor.description ++ " Activation: " ++ activation.activationReason

/-- How long an excerpt may be. -/
def bodyBudget (budget : SkillContextBudget) (activation : Activation) : ℕ :=
  min activation.budgetChars budget.maxActiveSkillBodyChars

/-- The fields of a segment that its model refuses to be empty, the summary apart. -/
def required (activation : Activation) (descriptor : Descriptor) : List String :=
  [activation.activationId, descriptor.skillId, descriptor.name, descriptor.description,
    descriptor.sourceRef, descriptor.contentHash, activation.activationReason]

/-- `SkillContextSource._segment_for_activation` -/
def segmentForActivation (files : SkillFiles) (budget : SkillContextBudget)
    (activation : Activation) (descriptor : Descriptor) :
    Except SkillRegistry.Raised SkillContextSegment :=
  (loadSkillInstructionBody files descriptor).bind fun body =>
    let excerpt := truncate body (bodyBudget budget activation)
    let summary := truncate (summaryText activation descriptor) budget.maxActiveSkillSummaryChars
    let textForEstimate := String.intercalate "\n" ([summary.1, excerpt.1].filter (· ≠ ""))
    if "" ∈ summary.1 :: required activation descriptor then .error .other
    else .ok {
      activationId := activation.activationId
      skillId := descriptor.skillId
      name := descriptor.name
      description := descriptor.description
      sourceRef := descriptor.sourceRef
      contentHash := descriptor.contentHash
      activationReason := activation.activationReason
      renderedSummary := summary.1
      renderedInstructionExcerpt := if excerpt.1 = "" then none else some excerpt.1
      loadedResourceRefs := activation.loadedResourceRefs
      charEstimate := textForEstimate.length
      tokenEstimate := estimateTokens textForEstimate
      truncated := excerpt.2 || summary.2
      truncationReason := if excerpt.2 || summary.2 then some "skill_context_budget" else none }

/-! ### When a text fits -/

/-- A text fits into its budget, or the part of it that is kept ends with enough white space to make
room for the marker. -/
def TruncationFits (text : String) (budget : ℕ) : Prop :=
  budget = 0 ∨ text.length ≤ budget ∨
    28 ≤ budget ∧ ∀ c ∈ (text.toList.take (budget - 24)).drop (budget - 28), isSpace c = true

instance (text : String) (budget : ℕ) : Decidable (TruncationFits text budget) :=
  inferInstanceAs (Decidable (_ ∨ _ ∨ _ ∧ _))

theorem length_rdropWhile_le_iff {α : Type*} {p : α → Bool} {l : List α} {k : ℕ} :
    (l.rdropWhile p).length ≤ k ↔ ∀ a ∈ l.drop k, p a = true := by
  have hsplit : l.rdropWhile p ++ l.rtakeWhile p = l := List.rdropWhile_append_rtakeWhile
  constructor
  · intro h a ha
    rw [← hsplit, List.drop_append, List.drop_eq_nil_of_le h, List.nil_append] at ha
    exact List.mem_rtakeWhile_imp (List.mem_of_mem_drop ha)
  · intro h
    by_contra hlt
    have hne : l.rdropWhile p ≠ [] := by
      intro hnil
      rw [hnil] at hlt
      exact hlt (Nat.zero_le _)
    -- the last element that stays does not meet the condition
    have hlast := List.rdropWhile_last_not p l hne
    have hkept := List.dropLast_append_getLast hne
    have hlength := congrArg List.length hkept
    rw [List.length_append, List.length_singleton] at hlength
    have hmem : (l.rdropWhile p).getLast hne ∈
        ((l.rdropWhile p).dropLast ++ [(l.rdropWhile p).getLast hne]).drop k := by
      rw [List.drop_append_of_le_length (by omega)]
      exact List.mem_append_right _ (List.mem_singleton.mpr rfl)
    rw [hkept] at hmem
    have hdrop : l.drop k = (l.rdropWhile p).drop k ++ l.rtakeWhile p := by
      rw [← List.drop_append_of_le_length (by omega), hsplit]
    apply hlast
    apply h
    rw [hdrop]
    exact List.mem_append_left _ hmem

theorem length_truncate_le_iff {text : String} {budget : ℕ} :
    (truncate text budget).1.length ≤ budget ↔ TruncationFits text budget := by
  rw [truncate, TruncationFits]
  by_cases hzero : budget = 0
  · rw [if_pos hzero]
    exact ⟨fun _ => .inl hzero, fun _ => Nat.zero_le _⟩
  · rw [if_neg hzero, or_iff_right hzero]
    by_cases hfits : text.length ≤ budget
    · rw [if_pos hfits]
      exact ⟨.inl, fun _ => hfits⟩
    · rw [if_neg hfits, or_iff_right hfits, String.length_append,
        show truncationMarker.length = 28 from rfl, rstrip, String.length_ofList, firstChars,
        String.toList_ofList]
      rw [← length_rdropWhile_le_iff]
      omega

theorem truncate_eq_empty_iff {text : String} {budget : ℕ} (htext : text ≠ "") :
    (truncate text budget).1 = "" ↔ budget = 0 := by
  rw [truncate]
  split_ifs with hzero hfits
  · exact ⟨fun _ => hzero, fun _ => rfl⟩
  · exact ⟨fun h => absurd h htext, fun h => absurd h hzero⟩
  · refine ⟨fun h => ?_, fun h => absurd h hzero⟩
    have := congrArg String.length h
    rw [String.length_append, show truncationMarker.length = 28 from rfl] at this
    exact absurd this (by simp)

/-! ### The budgets of a context -/

/-- The summary and the excerpt of a segment are no longer than their budgets. -/
def HonoursSkillBudget (files : SkillFiles) (budget : SkillContextBudget) (activation : Activation)
    (descriptor : Descriptor) : Prop :=
  ∀ segment, segmentForActivation files budget activation descriptor = .ok segment →
    segment.renderedSummary.length ≤ budget.maxActiveSkillSummaryChars ∧
      ∀ excerpt ∈ segment.renderedInstructionExcerpt,
        excerpt.length ≤ bodyBudget budget activation

/-- There is no segment, or both texts fit. -/
def SkillTextsFit (files : SkillFiles) (budget : SkillContextBudget) (activation : Activation)
    (descriptor : Descriptor) : Prop :=
  budget.maxActiveSkillSummaryChars = 0 ∨ "" ∈ required activation descriptor ∨
    ∀ body, loadSkillInstructionBody files descriptor = .ok body →
      TruncationFits (summaryText activation descriptor) budget.maxActiveSkillSummaryChars ∧
        TruncationFits body (bodyBudget budget activation)

theorem summaryText_ne_empty (activation : Activation) (descriptor : Descriptor) :
    summaryText activation descriptor ≠ "" := by
  intro h
  have := congrArg String.length h
  rw [summaryText, String.length_append, String.length_append,
    show " Activation: ".length = 13 from rfl] at this
  exact absurd this (by simp)

theorem forall_excerpt_length_le {excerpt : String} {n : ℕ} :
    (∀ shown ∈ (if excerpt = "" then none else some excerpt : Option String), shown.length ≤ n) ↔
      excerpt.length ≤ n := by
  split_ifs with h
  · rw [h]
    exact ⟨fun _ => Nat.zero_le _, (fun _ _ h => nomatch h)⟩
  · simp

theorem honoursSkillBudget_iff (files : SkillFiles) (budget : SkillContextBudget)
    (activation : Activation) (descriptor : Descriptor) :
    HonoursSkillBudget files budget activation descriptor ↔
      SkillTextsFit files budget activation descriptor := by
  rw [HonoursSkillBudget, SkillTextsFit]
  cases hbody : loadSkillInstructionBody files descriptor with
  | error raised =>
    have hnone : segmentForActivation files budget activation descriptor = .error raised := by
      rw [segmentForActivation, hbody]
      rfl
    rw [hnone]
    exact ⟨fun _ => .inr (.inr (fun _ h => nomatch h)), fun _ => (fun _ h => nomatch h)⟩
  | ok body =>
    rw [segmentForActivation, hbody]
    by_cases hrefused : "" ∈ (truncate (summaryText activation descriptor)
        budget.maxActiveSkillSummaryChars).1 :: required activation descriptor
    · have hwhy : budget.maxActiveSkillSummaryChars = 0 ∨ "" ∈ required activation descriptor := by
        rcases List.mem_cons.mp hrefused with h | h
        · exact .inl ((truncate_eq_empty_iff (summaryText_ne_empty _ _)).mp h.symm)
        · exact .inr h
      refine ⟨fun _ => or_assoc.mp (.inl hwhy), fun _ segment h => ?_⟩
      rw [Except.bind, if_pos hrefused] at h
      exact nomatch h
    · have hsummary : budget.maxActiveSkillSummaryChars ≠ 0 := fun h => hrefused
        (List.mem_cons.mpr (.inl
          ((truncate_eq_empty_iff (summaryText_ne_empty activation descriptor)).mpr h).symm))
      have hrequired : "" ∉ required activation descriptor := fun h =>
        hrefused (List.mem_cons_of_mem _ h)
      rw [or_iff_right hsummary, or_iff_right hrequired, Except.bind, if_neg hrefused]
      constructor
      · intro h other hother
        obtain ⟨hshort, hexcerpt⟩ := h _ rfl
        rw [← Except.ok.inj hother]
        exact ⟨length_truncate_le_iff.mp hshort,
          length_truncate_le_iff.mp (forall_excerpt_length_le.mp hexcerpt)⟩
      · intro h segment hsegment
        obtain ⟨hshort, hexcerpt⟩ := h body rfl
        rw [← Except.ok.inj hsegment]
        exact ⟨length_truncate_le_iff.mpr hshort,
          forall_excerpt_length_le.mpr (length_truncate_le_iff.mpr hexcerpt)⟩

-- `digest` is the hexadecimal digest of a text.
variable (digest : String → String)

structure HonoursBudgets (budget : ContextBudget) (events : List Event) (facts : EventStreamFacts)
    (files : SkillFiles) (skillBudget : SkillContextBudget) (activation : Activation)
    (descriptor : Descriptor) : Prop where
  snippets : HonoursSnippetBudget digest budget events facts.fileSnippets
    (trimFileSnippets facts.fileSnippets budget)
  events : LongestEnd budget.maxEvents facts.events (trimEvents facts.events budget)
  toolResults : LongestEnd budget.maxToolResults facts.toolResults
    (trimToolResults facts.toolResults budget)
  skills : HonoursSkillBudget files skillBudget activation descriptor

variable {digest}

/-- **The budgets of a context are honoured** exactly when the snippets of the window fit, and the
texts of the skill fit as well. -/
theorem honoursBudgets_iff {budget : ContextBudget} {workspaceId : Option String}
    {events : List Event} {facts : EventStreamFacts}
    (hfacts : collect digest budget workspaceId events = some facts) (files : SkillFiles)
    (skillBudget : SkillContextBudget) (activation : Activation) (descriptor : Descriptor) :
    HonoursBudgets digest budget events facts files skillBudget activation descriptor ↔
      WindowFits budget facts.fileSnippets ∧
        SkillTextsFit files skillBudget activation descriptor := by
  rw [← honoursSnippetBudget_iff hfacts, ← honoursSkillBudget_iff]
  constructor
  · exact fun h => ⟨h.snippets, h.skills⟩
  · rintro ⟨hsnippets, hskills⟩
    refine ⟨hsnippets, ?_, ?_, hskills⟩
    · rw [trimEvents_eq]
      exact longestEnd_lastItems _ _
    · rw [trimToolResults_eq]
      exact longestEnd_lastItems _ _

theorem valid_newYear : ValidDateTime 2024 1 1 0 0 0 0 := by decide

def readOf (eventId path content : String) : Event :=
  .fileContent ⟨⟨⟨eventId, "FileContentObservation", "FileContentObservation",
    ⟨2024, 1, 1, 0, 0, 0, 0, valid_newYear⟩, ""⟩, none, true, ""⟩, path, content⟩

def twoReads (budget : ContextBudget) : EventStreamFacts :=
  (collect (fun text => text) budget none
    [readOf "1" "a.txt" "ab", readOf "2" "b.txt" "cd"]).getD {}

def reviewSkill : Descriptor where
  skillId := "repo:review"
  contentHash := "sha256:1"
  trustLevel := .trusted
  name := "Review"
  description := "Review a change."
  sourceScope := .repo
  sourceRef := "repo://review"
  rootPath := none
  skillFilePath := none
  instructionBody := none
  enabled := true
  implicitInvocation := true
  contextRequirements := []
  resourceRefs := []
  riskTags := []
  outputContract := none

def reviewActivation : Activation where
  skillId := "repo:review"
  contentHash := "sha256:1"
  activationId := "activation"
  activationReason := "review"

/-- The two reads and the skill fit into the default budgets. -/
theorem honoursBudgets_default : HonoursBudgets (fun text => text) {}
    [readOf "1" "a.txt" "ab", readOf "2" "b.txt" "cd"] (twoReads {}) (fun _ => none) {}
    reviewActivation reviewSkill :=
  (honoursBudgets_iff (by rfl) _ _ _ _).mpr ⟨by decide, .inr (.inr fun body h => by
    rw [← Except.ok.inj h]
    decide)⟩

/-- With room for three characters, the older read is kept and the newer one is cut. -/
theorem not_honoursBudgets_cut : ¬HonoursBudgets (fun text => text)
    { maxFileSnippetChars := 3 } [readOf "1" "a.txt" "ab", readOf "2" "b.txt" "cd"]
    (twoReads { maxFileSnippetChars := 3 }) (fun _ => none) {} reviewActivation reviewSkill := by
  intro h
  have hnewest := h.snippets.newest 0 1 (by decide) (by decide) (by decide)
  exact absurd hnewest (by decide)

end Taskweavn.SkillContext

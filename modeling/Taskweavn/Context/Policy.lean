import Taskweavn.Lib.LastItems
import Taskweavn.Py.DateTime
import Taskweavn.Py.SplitLines

/-!
# Context within a budget

`EventStreamContextSource.collect` makes summaries and file snippets of the events of a task
(`taskweavn/context/sources.py`), and `DeterministicContextPolicy` trims them to the budget of the
request (`taskweavn/context/policy.py`).  What JSON text stands for an event is part of the event,
and the digest of a text is a parameter.

`honoursSnippetBudget_iff` says when **the snippets that are kept prefer the newest evidence**:
the walk goes from the oldest snippet of the window to the newest one, so that the window must fit
as a whole.
-/

namespace Taskweavn.ContextPolicy

open Lib Py

/-- The budget of a request, as far as evidence is concerned. -/
structure ContextBudget where
  maxEvents : ℕ := 20
  maxToolResults : ℕ := 10
  maxFileSnippets : ℕ := 6
  maxFileSnippetChars : ℕ := 8000
deriving DecidableEq, Repr

def estimateTokens (text : String) : ℕ := if text = "" then 0 else max 1 ((text.length + 3) / 4)

/-! ### Events -/

structure EventHead where
  eventId : String
  kind : String
  typeName : String
  timestamp : DateTime
  /-- `_summarize_payload` of the payload -/
  payloadSummary : String
deriving DecidableEq

structure ObservationHead extends EventHead where
  actionId : Option String
  success : Bool
  /-- The summary of the result: that of the payload, or that of a web search. -/
  resultSummary : String
deriving DecidableEq

/-- A `FileContentObservation`. -/
structure FileRead extends ObservationHead where
  path : String
  content : String
deriving DecidableEq

inductive Event
  | action (head : EventHead)
  | observation (head : ObservationHead)
  | fileContent (read : FileRead)
  | event (head : EventHead)

inductive EventFamily
  | action
  | observation
  | event
deriving DecidableEq, Repr

def Event.head : Event → EventHead
  | .action head => head
  | .observation head => head.toEventHead
  | .fileContent read => read.toEventHead
  | .event head => head

def Event.family : Event → EventFamily
  | .action _ => .action
  | .observation _ => .observation
  | .fileContent _ => .observation
  | .event _ => .event

def Event.observed : Event → Option ObservationHead
  | .observation head => some head
  | .fileContent read => some read.toObservationHead
  | _ => none

def Event.read : Event → Option FileRead
  | .fileContent read => some read
  | _ => none

/-! ### What is collected -/

structure EventSummary where
  eventId : String
  kind : String
  family : EventFamily
  timestamp : DateTime
  summary : String
  rawRef : String
deriving DecidableEq

structure ToolResultSummary where
  observationId : String
  actionId : Option String
  kind : String
  success : Bool
  summary : String
  rawRef : String
  tokenEstimate : ℕ
  observedAt : DateTime
deriving DecidableEq

/-- A snippet of a file that was read; its other fields are constants. -/
structure FileSnippet where
  snippetId : String
  workspaceId : Option String
  path : String
  content : String
  startLine : Option ℕ
  endLine : Option ℕ
  contentHash : String
  rawRef : String
  reason : String
  tokenEstimate : ℕ
  observedAt : DateTime
deriving DecidableEq

structure EventStreamFacts where
  events : List EventSummary := []
  toolResults : List ToolResultSummary := []
  fileSnippets : List FileSnippet := []

/-- `value or default` -/
def orName (value default : String) : String := if value = "" then default else value

def eventSummary (event : Event) : EventSummary where
  eventId := event.head.eventId
  kind := orName event.head.kind event.head.typeName
  family := event.family
  timestamp := event.head.timestamp
  summary := event.head.payloadSummary
  rawRef := "event:" ++ event.head.eventId

def toolResultSummary (observation : ObservationHead) : ToolResultSummary where
  observationId := observation.eventId
  actionId := observation.actionId
  kind := orName observation.kind observation.typeName
  success := observation.success
  summary := observation.resultSummary
  rawRef := "event:" ++ observation.eventId
  tokenEstimate := estimateTokens observation.resultSummary
  observedAt := observation.timestamp

/-- `_line_count(text) if text else None` -/
def lineCount (text : String) : Option ℕ :=
  if text = "" then none else some (splitlines text).length

-- `digest` is the hexadecimal digest of a text.
variable (digest : String → String)

def hashText (text : String) : String := "sha256:" ++ digest text

/-- `text[:n]` -/
def firstChars (n : ℕ) (text : String) : String := String.ofList (text.toList.take n)

def fileSnippet (budget : ContextBudget) (workspaceId : Option String) (read : FileRead) :
    FileSnippet :=
  let cut := budget.maxFileSnippetChars < read.content.length
  let content := if cut then firstChars budget.maxFileSnippetChars read.content else read.content
  { snippetId := "file:" ++ read.path ++ ":read_file:" ++ read.eventId
    workspaceId := workspaceId
    path := read.path
    content := content
    startLine := if content = "" then none else some 1
    endLine := lineCount content
    contentHash := hashText digest content
    rawRef := "event:" ++ read.eventId
    reason := "latest explicit read_file observation for this task" ++
      if cut then "; truncated" else ""
    tokenEstimate := estimateTokens content
    observedAt := read.timestamp }

def fileReads (events : List Event) : List FileRead := events.filterMap Event.read

/-- `EventStreamContextSource.collect`.  The models refuse an event without an id, and a snippet
without a path. -/
def collect (budget : ContextBudget) (workspaceId : Option String) (events : List Event) :
    Option EventStreamFacts :=
  if (∃ event ∈ events, event.head.eventId = "") ∨ ∃ read ∈ fileReads events, read.path = "" then
    none
  else some {
    events := events.map eventSummary
    toolResults := (events.filterMap Event.observed).map toolResultSummary
    fileSnippets := (fileReads events).map (fileSnippet digest budget workspaceId) }

/-! ### What is kept -/

def trimEvents (events : List EventSummary) (budget : ContextBudget) : List EventSummary :=
  if budget.maxEvents = 0 then [] else lastItems budget.maxEvents events

def trimToolResults (toolResults : List ToolResultSummary) (budget : ContextBudget) :
    List ToolResultSummary :=
  if budget.maxToolResults = 0 then [] else lastItems budget.maxToolResults toolResults

/-- A snippet whose content is cut again.  Its lines and its digest stay those of the longer
content. -/
def FileSnippet.truncated (remaining : ℕ) (snippet : FileSnippet) : FileSnippet :=
  { snippet with
    content := firstChars remaining snippet.content
    tokenEstimate := estimateTokens (firstChars remaining snippet.content)
    reason := snippet.reason ++ "; truncated_by_context_budget" }

theorem length_firstChars (n : ℕ) (text : String) :
    (firstChars n text).length = min n text.length := by
  rw [firstChars, String.length_ofList, List.length_take, String.length_toList]

def snippetCut : Cut FileSnippet where
  size := fun snippet => snippet.content.length
  cut := FileSnippet.truncated
  size_cut_le := by
    intro n snippet
    rw [FileSnippet.truncated, length_firstChars]
    exact Nat.min_le_left _ _

def trimFileSnippets (snippets : List FileSnippet) (budget : ContextBudget) : List FileSnippet :=
  if budget.maxFileSnippets = 0 ∨ budget.maxFileSnippetChars = 0 then []
  else
    snippetCut.fillFront budget.maxFileSnippetChars 0 (lastItems budget.maxFileSnippets snippets)

/-! ### The budget is honoured -/

/-- `s` is the longest end of `l` with at most `n` elements. -/
structure LongestEnd {α : Type*} (n : ℕ) (l s : List α) : Prop where
  isSuffix : s <:+ l
  bound : s.length ≤ n
  longest : ∀ t, t <:+ l → t.length ≤ n → t <:+ s

theorem longestEnd_lastItems {α : Type*} (n : ℕ) (l : List α) : LongestEnd n l (lastItems n l) where
  isSuffix := lastItems_isSuffix n l
  bound := by
    rw [length_lastItems]
    exact Nat.min_le_left _ _
  longest := fun _ h hlen => isSuffix_lastItems h hlen

theorem trimEvents_eq (events : List EventSummary) (budget : ContextBudget) :
    trimEvents events budget = lastItems budget.maxEvents events := by
  rw [trimEvents]
  split_ifs with h
  · rw [h, lastItems_zero]
  · rfl

theorem trimToolResults_eq (toolResults : List ToolResultSummary) (budget : ContextBudget) :
    trimToolResults toolResults budget = lastItems budget.maxToolResults toolResults := by
  rw [trimToolResults]
  split_ifs with h
  · rw [h, lastItems_zero]
  · rfl

/-- The snippet shows the beginning of what was read, and its other fields are about what it
shows. -/
structure FileSnippet.Describes (read : FileRead) (snippet : FileSnippet) : Prop where
  rawRef : snippet.rawRef = "event:" ++ read.eventId
  isPrefix : snippet.content.toList <+: read.content.toList
  tokenEstimate : snippet.tokenEstimate = estimateTokens snippet.content
  endLine : snippet.endLine = lineCount snippet.content
  contentHash : snippet.contentHash = hashText digest snippet.content

/-- The newest snippets, as many as the budget allows. -/
def window {α : Type*} (budget : ContextBudget) (items : List α) : List α :=
  lastItems budget.maxFileSnippets items

/-- What the budget asks of the snippets that are `kept` of those that were built from the events.
The last part is about two places of the window: with the older snippet the newer one is kept, and
with all of its content. -/
structure HonoursSnippetBudget (budget : ContextBudget) (events : List Event)
    (built kept : List FileSnippet) : Prop where
  total : (kept.map snippetCut.size).sum ≤ budget.maxFileSnippetChars
  number : kept.length ≤ budget.maxFileSnippets
  describes : List.Forall₂ (FileSnippet.Describes digest)
    ((window budget (fileReads events)).take kept.length) kept
  newest : ∀ older newer, older < newer → newer < (window budget built).length →
    older < kept.length →
    kept[newer]?.map FileSnippet.content = (window budget built)[newer]?.map FileSnippet.content

/-- The snippets of the window fit, and there is room left when the walk comes to the last one. -/
def WindowFits (budget : ContextBudget) (built : List FileSnippet) : Prop :=
  budget.maxFileSnippetChars = 0 ∨ (window budget built).length ≤ 1 ∨
    (((window budget built).dropLast.map snippetCut.size).sum < budget.maxFileSnippetChars ∧
      ((window budget built).map snippetCut.size).sum ≤ budget.maxFileSnippetChars)

instance (budget : ContextBudget) (built : List FileSnippet) :
    Decidable (WindowFits budget built) :=
  inferInstanceAs (Decidable (_ ∨ _ ∨ _ ∧ _))

variable {digest}

theorem length_fileSnippet_le (budget : ContextBudget) (workspaceId : Option String)
    (read : FileRead) :
    snippetCut.size (fileSnippet digest budget workspaceId read) ≤ budget.maxFileSnippetChars := by
  show (fileSnippet digest budget workspaceId read).content.length ≤ _
  simp only [fileSnippet]
  split_ifs with h
  · rw [length_firstChars]
    exact Nat.min_le_left _ _
  · exact Nat.le_of_not_lt h

theorem firstChars_isPrefix (n : ℕ) (text : String) :
    (firstChars n text).toList <+: text.toList := by
  rw [firstChars, String.toList_ofList]
  exact List.take_prefix _ _

theorem fileSnippet_describes (budget : ContextBudget) (workspaceId : Option String)
    (read : FileRead) :
    FileSnippet.Describes digest read (fileSnippet digest budget workspaceId read) where
  rawRef := rfl
  isPrefix := by
    simp only [fileSnippet]
    split_ifs
    · exact firstChars_isPrefix _ _
    · exact List.prefix_rfl
  tokenEstimate := rfl
  endLine := rfl
  contentHash := rfl

theorem window_fileSnippet (budget : ContextBudget) (workspaceId : Option String)
    (reads : List FileRead) :
    window budget (reads.map (fileSnippet digest budget workspaceId)) =
      (window budget reads).map (fileSnippet digest budget workspaceId) :=
  lastItems_map _ _ _

theorem trimFileSnippets_of_fits {budget : ContextBudget} {built : List FileSnippet}
    (hsize : ∀ snippet ∈ built, snippetCut.size snippet ≤ budget.maxFileSnippetChars)
    (hpos : budget.maxFileSnippetChars ≠ 0) (hfits : WindowFits budget built) :
    trimFileSnippets built budget = window budget built := by
  have hwindow : ∀ snippet ∈ window budget built,
      snippetCut.size snippet ≤ budget.maxFileSnippetChars := fun snippet h =>
    hsize snippet ((lastItems_isSuffix _ _).mem h)
  rw [trimFileSnippets]
  split_ifs with h
  · rw [window, h.resolve_right hpos, lastItems_zero]
  · show snippetCut.fillFront _ 0 (window budget built) = window budget built
    rcases hfits with h | hone | ⟨hlast, hsum⟩
    · exact absurd h hpos
    · match hw : window budget built, hone with
      | [], _ => rfl
      | [snippet], _ =>
        rw [hw] at hwindow
        have := hwindow snippet List.mem_cons_self
        exact Cut.fillFront_eq_self (by simpa using by omega) (by simpa using this)
    · exact Cut.fillFront_eq_self (by omega) (by omega)

theorem trimFileSnippets_total (built : List FileSnippet) (budget : ContextBudget) :
    ((trimFileSnippets built budget).map snippetCut.size).sum ≤ budget.maxFileSnippetChars := by
  rw [trimFileSnippets]
  split_ifs
  · exact Nat.zero_le _
  · have := Cut.fillFront_total (C := snippetCut) (window budget built)
      (Nat.zero_le budget.maxFileSnippetChars)
    rwa [Nat.zero_add] at this

theorem length_trimFileSnippets_le (built : List FileSnippet) (budget : ContextBudget) :
    (trimFileSnippets built budget).length ≤ (window budget built).length := by
  rw [trimFileSnippets]
  split_ifs
  · exact Nat.zero_le _
  · exact Cut.length_fillFront_le _ _

theorem windowFits_of_newest {budget : ContextBudget} {built : List FileSnippet}
    (hsize : ∀ snippet ∈ built, snippetCut.size snippet ≤ budget.maxFileSnippetChars)
    (hpos : budget.maxFileSnippetChars ≠ 0)
    (hnewest : ∀ newer, 0 < newer → newer < (window budget built).length →
      0 < (trimFileSnippets built budget).length →
      (trimFileSnippets built budget)[newer]?.map FileSnippet.content =
        (window budget built)[newer]?.map FileSnippet.content) :
    WindowFits budget built := by
  cases hw : window budget built with
  | nil =>
    refine .inr (.inl ?_)
    rw [hw]
    exact Nat.zero_le _
  | cons oldest rest =>
    have hnumber : budget.maxFileSnippets ≠ 0 := by
      intro h
      rw [window, h, lastItems_zero] at hw
      exact List.cons_ne_nil _ _ hw.symm
    have holdest : snippetCut.size oldest ≤ budget.maxFileSnippetChars :=
      hsize oldest ((lastItems_isSuffix _ _).mem (hw ▸ List.mem_cons_self))
    have hkept : trimFileSnippets built budget =
        snippetCut.fillFront budget.maxFileSnippetChars 0 (oldest :: rest) := by
      rw [trimFileSnippets, if_neg (by tauto), ← hw, window]
    have hfirst : trimFileSnippets built budget = oldest ::
        snippetCut.fillFront budget.maxFileSnippetChars (0 + snippetCut.size oldest) rest := by
      rw [hkept, Cut.fillFront_cons_whole (by omega) (by omega)]
    have hcontents : (trimFileSnippets built budget).map FileSnippet.content =
        (oldest :: rest).map FileSnippet.content := by
      apply List.ext_getElem?
      intro place
      rw [List.getElem?_map, List.getElem?_map]
      rcases Nat.eq_zero_or_pos place with rfl | hplace
      · rw [hfirst]
        rfl
      · rcases Nat.lt_or_ge place (oldest :: rest).length with hlt | hge
        · rw [← hw]
          exact hnewest place hplace (hw ▸ hlt) (by
            rw [hfirst]
            exact Nat.succ_pos _)
        · have := length_trimFileSnippets_le built budget
          rw [hw] at this
          rw [List.getElem?_eq_none hge, List.getElem?_eq_none (by omega)]
    have hsizes : (snippetCut.fillFront budget.maxFileSnippetChars 0 (oldest :: rest)).map
        snippetCut.size = (oldest :: rest).map snippetCut.size := by
      have := congrArg (List.map String.length) hcontents
      rwa [List.map_map, List.map_map, hkept] at this
    refine .inr (.inr ?_)
    rw [hw]
    have := (Cut.map_size_fillFront_iff (oldest :: rest)).mp hsizes
    rwa [or_iff_right (List.cons_ne_nil _ _), Nat.zero_add, Nat.zero_add] at this

/-- **The snippets that are kept prefer the newest ones exactly when the window fits.** -/
theorem honoursSnippetBudget_iff {budget : ContextBudget} {workspaceId : Option String}
    {events : List Event} {facts : EventStreamFacts}
    (hfacts : collect digest budget workspaceId events = some facts) :
    HonoursSnippetBudget digest budget events facts.fileSnippets
        (trimFileSnippets facts.fileSnippets budget) ↔
      WindowFits budget facts.fileSnippets := by
  have hbuilt : facts.fileSnippets =
      (fileReads events).map (fileSnippet digest budget workspaceId) := by
    rw [collect] at hfacts
    split_ifs at hfacts
    rw [← Option.some.inj hfacts]
  have hsize : ∀ snippet ∈ facts.fileSnippets,
      snippetCut.size snippet ≤ budget.maxFileSnippetChars := by
    intro snippet h
    rw [hbuilt] at h
    obtain ⟨read, -, rfl⟩ := List.mem_map.mp h
    exact length_fileSnippet_le budget workspaceId read
  have hlength := length_trimFileSnippets_le facts.fileSnippets budget
  generalize facts.fileSnippets = built at *
  have htotal := trimFileSnippets_total built budget
  by_cases hpos : budget.maxFileSnippetChars = 0
  · have hkept : trimFileSnippets built budget = [] := if_pos (.inr hpos)
    rw [hkept]
    refine ⟨fun _ => .inl hpos, fun _ => ⟨Nat.zero_le _, Nat.zero_le _, .nil, ?_⟩⟩
    exact fun _ _ _ _ h => absurd h (Nat.not_lt_zero _)
  · constructor
    · intro h
      exact windowFits_of_newest hsize hpos fun newer hlt => h.newest 0 newer hlt
    · intro hfits
      have hkept := trimFileSnippets_of_fits hsize hpos hfits
      rw [hkept] at htotal ⊢
      have hwindow := @window_fileSnippet digest budget workspaceId (fileReads events)
      refine ⟨htotal, ?_, ?_, fun _ _ _ _ _ => rfl⟩
      · rw [window, length_lastItems]
        exact Nat.min_le_left _ _
      · rw [hbuilt, hwindow, List.length_map, List.take_length, List.forall₂_map_right_iff,
          List.forall₂_same]
        exact fun read _ => fileSnippet_describes budget workspaceId read

end Taskweavn.ContextPolicy

import Taskweavn.Task.BusForest
import Taskweavn.Task.Projection

/-!
# When a card can be made

The title of a card is the first line of the intent of its task, so there is none for an intent that
is blank, and a card takes no empty result reference.  Everything else that a card asks for is there
(`exists_card`).
-/

namespace Taskweavn

open Lib Py

namespace Projection

variable {lower : String → String}

/-! ### Texts that are not blank -/

theorem isBlank_eq_false_iff {s : String} :
    isBlank s = false ↔ ∃ c ∈ s.toList, isSpace c = false := by
  rw [← Bool.not_eq_true, isBlank_iff]
  push Not
  simp only [Bool.not_eq_true]

theorem exists_word {c : Char} (hc : isSpace c = false) : ∀ {l : List Char}, c ∈ l →
    ∃ w ∈ l.splitOnP isSpace, c ∈ w := by
  intro l
  induction l with
  | nil => intro h; cases h
  | cons x l ih =>
    intro h
    rw [List.splitOnP_cons_eq_if_modifyHead]
    rcases List.mem_cons.mp h with rfl | h
    · rw [if_neg (by rw [hc]; exact Bool.false_ne_true)]
      cases hsplit : l.splitOnP isSpace with
      | nil => exact absurd hsplit (List.splitOnP_ne_nil _ _)
      | cons w ws => exact ⟨c :: w, List.mem_cons_self, List.mem_cons_self⟩
    · obtain ⟨w, hw, hcw⟩ := ih h
      split_ifs with hx
      · exact ⟨w, List.mem_cons_of_mem _ hw, hcw⟩
      · cases hsplit : l.splitOnP isSpace with
        | nil => exact absurd hsplit (List.splitOnP_ne_nil _ _)
        | cons v ws =>
          rw [hsplit] at hw
          rcases List.mem_cons.mp hw with rfl | hw
          · exact ⟨x :: w, List.mem_cons_self, List.mem_cons_of_mem _ hcw⟩
          · exact ⟨w, List.mem_cons_of_mem _ hw, hcw⟩

theorem mem_intercalate {α : Type*} {sep : List α} {a : α} {w : List α} (ha : a ∈ w) :
    ∀ {ws : List (List α)}, w ∈ ws → a ∈ sep.intercalate ws := by
  intro ws
  induction ws with
  | nil => intro h; cases h
  | cons v ws ih =>
    intro h
    cases ws with
    | nil =>
      rw [List.intercalate_singleton]
      rwa [List.mem_singleton.mp h] at ha
    | cons u ws =>
      rw [List.intercalate_cons_cons]
      rcases List.mem_cons.mp h with rfl | h
      · exact List.mem_append_left _ (List.mem_append_left _ ha)
      · exact List.mem_append_right _ (ih h)

theorem joinWords_ne_empty {s : String} (h : isBlank s = false) : joinWords s ≠ "" := by
  obtain ⟨c, hc, hspace⟩ := isBlank_eq_false_iff.mp h
  obtain ⟨w, hw, hcw⟩ := exists_word hspace hc
  intro hempty
  have hlist := congrArg String.toList hempty
  rw [joinWords, String.toList_intercalate, List.map_map] at hlist
  have hne : w.isEmpty = false := by
    cases w with
    | nil => cases hcw
    | cons _ _ => rfl
  have hmem : w ∈ ((s.toList.splitOnP isSpace).filter fun w => !w.isEmpty).map
      (String.toList ∘ String.ofList) := by
    refine List.mem_map.mpr ⟨w, List.mem_filter.mpr ⟨hw, by rw [hne]; rfl⟩, ?_⟩
    exact String.toList_ofList
  have hin : c ∈ " ".toList.intercalate _ := mem_intercalate hcw hmem
  rw [hlist] at hin
  cases hin

theorem preview_ne_empty {s : String} (h : isBlank s = false) (maxLen : ℕ) :
    preview maxLen s ≠ "" := by
  simp only [preview]
  split
  · exact joinWords_ne_empty ((isBlank_strip s).trans h)
  · intro hempty
    have hlist := congrArg String.toList hempty
    rw [String.toList_append] at hlist
    cases (List.append_eq_nil_iff.mp hlist).2

/-! ### The title -/

theorem title_of_blank {intent : String} (h : isBlank intent = true) :
    title intent = .error .index := by
  rw [title, beq_iff_eq.mp h]
  rfl

theorem title_of_not_blank {intent : String} (h : isBlank intent = false) :
    ∃ t, title intent = .ok t ∧ t ≠ "" := by
  have hne : (strip intent).toList ≠ [] := by
    intro hnil
    exact strip_ne_empty h (String.toList_inj.mp hnil)
  obtain ⟨c, rest, hlist⟩ := List.exists_cons_of_ne_nil hne
  have hspace : isSpace c = false := by
    have hdrop := List.head?_dropWhile_not isSpace intent.toList
    have hpre : (strip intent).toList <+: intent.toList.dropWhile isSpace := by
      rw [strip, String.toList_ofList]
      exact List.rdropWhile_prefix _ _
    obtain ⟨tail, htail⟩ := hpre
    rw [← htail, hlist, List.cons_append, List.head?_cons] at hdrop
    exact hdrop
  have hend : lineEnds.isEnd c = false := by
    have hspaces : ['\n', '\r', Char.ofNat 0x0b, Char.ofNat 0x0c, Char.ofNat 0x1c, Char.ofNat 0x1d,
        Char.ofNat 0x1e, Char.ofNat 0x85, Char.ofNat 0x2028, Char.ofNat 0x2029].all isSpace := by
      decide
    by_contra hend
    have hmem := of_decide_eq_true (Bool.eq_true_of_not_eq_false hend)
    rw [List.all_eq_true.mp hspaces c hmem] at hspace
    cases hspace
  have hfirst : ∃ l ls, lineEnds.lines (c :: rest) = l :: ls ∧ c ∈ l.text := by
    have hcr : c ≠ lineEnds.cr := by
      rintro rfl
      rw [lineEnds.isEnd_cr] at hend
      cases hend
    rw [LineEnds.lines_cons, LineEnds.consChar, if_neg fun hpair => hcr hpair.1,
      if_neg (by simp [hend])]
    cases lineEnds.lines rest with
    | nil => exact ⟨_, _, rfl, List.mem_cons_self⟩
    | cons l ls => exact ⟨_, _, rfl, List.mem_cons_self⟩
  obtain ⟨l, ls, hlines, hmem⟩ := hfirst
  refine ⟨preview 80 (String.ofList l.text), ?_, preview_ne_empty ?_ 80⟩
  · rw [title, splitlines, hlist, hlines]
    rfl
  · exact isBlank_eq_false_iff.mpr ⟨c, by rwa [String.toList_ofList], hspace⟩

/-! ### The content -/

theorem splitLegacy_invariant (lower : String → String) : ∀ {lines : List String}
    (start : ProjectedTaskContent × List String), start.1.instructions ≠ some "" →
      (lines.foldl (splitLegacyLine lower) start).1.instructions ≠ some "" ∧
        ∀ line ∈ (lines.foldl (splitLegacyLine lower) start).2, line ∈ start.2 ∨ line ∈ lines := by
  intro lines
  induction lines with
  | nil => exact fun start h => ⟨h, fun line hline => .inl hline⟩
  | cons line lines ih =>
    intro start h
    have hstep : (splitLegacyLine lower start line).1.instructions ≠ some "" ∧
        ∀ l ∈ (splitLegacyLine lower start line).2, l ∈ start.2 ∨ l = line := by
      unfold splitLegacyLine
      split
      · exact ⟨h, fun l hl => .inl hl⟩
      · split
        · refine ⟨?_, fun l hl => .inl hl⟩
          show textOrNone _ ≠ some ""
          unfold textOrNone
          split
          · exact fun hnone => (by cases hnone)
          · next hne => exact fun hsome => hne (Option.some.inj hsome)
        · split
          · exact ⟨h, fun l hl => .inl hl⟩
          · refine ⟨h, fun l hl => ?_⟩
            rcases List.mem_append.mp hl with hl | hl
            · exact .inl hl
            · exact .inr (List.mem_singleton.mp hl)
    obtain ⟨hinstructions, hlines⟩ := ih _ hstep.1
    refine ⟨hinstructions, fun l hl => ?_⟩
    rcases hlines l hl with hl | hl
    · rcases hstep.2 l hl with hl | rfl
      · exact .inl hl
      · exact .inr List.mem_cons_self
    · exact .inr (List.mem_cons_of_mem _ hl)

theorem mem_of_mem_splitlines {text line : String} (h : line ∈ splitlines text) {c : Char}
    (hc : c ∈ line.toList) : c ∈ text.toList := by
  obtain ⟨l, hl, rfl⟩ := List.mem_map.mp h
  rw [String.toList_ofList] at hc
  rw [← LineEnds.render_lines (E := lineEnds) text.toList]
  exact List.mem_flatMap.mpr ⟨l, hl, List.mem_append_left _ hc⟩

def intentLines (lower : String → String) (text : String) : List String :=
  ((splitlines text).foldl (splitLegacyLine lower) ({ intent := "" }, [])).2

theorem splitLegacyTaskContent_intent (lower : String → String) (text : String) :
    (splitLegacyTaskContent lower text).intent =
      if strip ("\n".intercalate (intentLines lower text)) = "" then strip text
      else strip ("\n".intercalate (intentLines lower text)) := by
  simp only [splitLegacyTaskContent, intentLines]
  congr

/-- **The intent of a card is blank when that of its task is.** -/
theorem isBlank_taskContent (lower : String → String) (task : TaskDomain) :
    isBlank (taskContent lower task).intent = isBlank task.intent := by
  simp only [taskContent, splitLegacyTaskContent_intent]
  by_cases hlost : strip ("\n".intercalate (intentLines lower task.intent)) = ""
  · rw [if_pos hlost, isBlank_strip]
  · have hkept : isBlank ("\n".intercalate (intentLines lower task.intent)) = false := by
      rw [Bool.eq_false_iff]
      exact fun hblank => hlost (beq_iff_eq.mp hblank)
    rw [if_neg hlost, isBlank_strip, hkept]
    obtain ⟨c, hc, hspace⟩ := isBlank_eq_false_iff.mp hkept
    refine (isBlank_eq_false_iff.mpr ⟨c, ?_, hspace⟩).symm
    rw [String.toList_intercalate] at hc
    rcases mem_of_mem_intercalate hc with hc | ⟨w, hw, hcw⟩
    · rw [List.mem_singleton.mp hc] at hspace
      cases hspace
    · obtain ⟨line, hline, rfl⟩ := List.mem_map.mp hw
      have hstart : ({ intent := "" } : ProjectedTaskContent).instructions ≠ some "" :=
        fun hnone => (by cases hnone)
      rcases (splitLegacy_invariant lower ({ intent := "" }, []) hstart).2 line hline with
        hnil | hmem
      · cases hnil
      · exact mem_of_mem_splitlines hmem hcw

theorem eitherText_ne {a b : Option String} (h : b ≠ some "") : eitherText a b ≠ some "" := by
  unfold eitherText
  split
  · exact h
  · next ha =>
    cases a with
    | none => exact h
    | some t => exact ha

theorem intentPreview_ne_empty {summary : Option String} {intent : String}
    (h : isBlank intent = false) :
    (eitherText summary (some (preview 120 intent))).getD "" ≠ "" := by
  have hne := eitherText_ne (a := summary) fun heq => preview_ne_empty h 120 (Option.some.inj heq)
  cases hor : eitherText summary (some (preview 120 intent)) with
  | none =>
    unfold eitherText at hor
    split at hor
    · cases hor
    · cases summary <;> cases hor
  | some t => exact fun hempty => hne (by rw [hor]; exact congrArg some hempty)

theorem instructions_ne (lower : String → String) (task : TaskDomain) :
    (taskContent lower task).instructions ≠ some "" := by
  simp only [taskContent]
  refine eitherText_ne ?_
  simp only [splitLegacyTaskContent]
  have hstart : ({ intent := "" } : ProjectedTaskContent).instructions ≠ some "" :=
    fun hnone => (by cases hnone)
  exact (splitLegacy_invariant lower ({ intent := "" }, []) hstart).1

/-! ### The counts -/

theorem countP_add_countP_le {α : Type*} {p q r : α → Bool}
    (h : ∀ a, ¬(p a ∧ q a) ∧ ¬(p a ∧ r a) ∧ ¬(q a ∧ r a)) (l : List α) :
    l.countP p + l.countP q + l.countP r ≤ l.length := by
  induction l with
  | nil => exact le_refl _
  | cons a l ih =>
    have ha := h a
    rw [List.countP_cons, List.countP_cons, List.countP_cons, List.length_cons]
    cases hp : p a <;> cases hq : q a <;> cases hr : r a <;> simp [hp, hq, hr] at ha ⊢ <;> omega

open DefaultTaskProjectionService in
theorem childCounts_le (lower : String → String) (children : List TaskDomain) :
    doneChildCount children + failedChildCount lower children + runningChildCount children ≤
      children.length := by
  refine countP_add_countP_le (fun child => ?_) children
  simp only [decide_eq_true_eq]
  unfold projectedTaskStatus
  cases child.status <;> simp

end Projection

/-! ### What a card asks for -/

namespace TaskCardView

variable {M C F : Type} {card card' : TaskCardView M C F}

/-- Every rule of the views holds. -/
structure Sound (card : TaskCardView M C F) : Prop where
  taskRef : card.taskRef.id ≠ ""
  parentRef : card.parentRef.map TaskRef.id ≠ some ""
  rootRef : card.rootRef.id ≠ ""
  title : card.title ≠ ""
  intentPreview : card.intentPreview ≠ ""
  fullIntent : card.fullIntent ≠ some ""
  instructions : card.instructions ≠ some ""
  resultRef : card.resultRef ≠ some ""
  errorRef : card.errorRef ≠ some ""
  badges : card.badges.doneChildCount + card.badges.failedChildCount ≤ card.badges.childCount
  progress : ∀ p, card.progress = some p →
    p.doneChildCount + p.failedChildCount + p.runningChildCount ≤ p.childCount
  root : ¬(card.depth = 0 ∧ card.parentRef.isSome)
  child : ¬(card.depth > 0 ∧ card.parentRef.isNone)
  draft : ¬(card.status = .draft ∧ card.taskRef.kind ≠ .draft)

theorem checks_iff : (∀ check ∈ card.checks, check.2 = true) ↔ card.Sound := by
  simp only [checks, List.forall_mem_cons, decide_eq_true_eq, Bool.not_eq_true',
    decide_eq_false_iff_not, List.not_mem_nil, false_implies, implies_true, and_true,
    Option.all_eq_true]
  constructor
  · rintro ⟨h1, h2, h3, h4, h5, h6, h7, h8, h9, h10, h11, h12, h13, h14⟩
    exact ⟨h1, h2, h3, h4, h5, h6, h7, h8, h9, h10, h11, h12, h13, h14⟩
  · intro h
    exact ⟨h.taskRef, h.parentRef, h.rootRef, h.title, h.intentPreview, h.fullIntent,
      h.instructions, h.resultRef, h.errorRef, h.badges, h.progress, h.root, h.child, h.draft⟩

theorem validate_eq_ok_iff : card.validate = .ok card' ↔ card.Sound ∧ card' = card := by
  rw [← checks_iff]
  unfold validate
  cases hfind : card.checks.find? fun check => !check.2 with
  | some check =>
    have hfails := List.find?_some hfind
    refine ⟨fun h => (by cases h), fun h => ?_⟩
    rw [h.1 check (List.mem_of_find?_eq_some hfind)] at hfails
    cases hfails
  | none =>
    have hall := List.find?_eq_none.mp hfind
    constructor
    · intro h
      cases h
      exact ⟨fun check hcheck => by simpa using hall check hcheck, rfl⟩
    · rintro ⟨-, rfl⟩
      rfl

end TaskCardView

namespace DefaultTaskProjectionService

open Projection

variable {M C F : Type} {service : DefaultTaskProjectionService M C F} {tasks : List TaskDomain}
  {s : String} {task : TaskDomain}

def Answers (service : DefaultTaskProjectionService M C F) (s : String)
    (task : TaskDomain) : Prop :=
  (∃ confirmations, service.sources.confirmations s (TaskRef.published task.taskId) =
    .ok confirmations) ∧
    (∃ message, service.sources.latestMessage s (TaskRef.published task.taskId) = .ok message) ∧
    ∃ changes, service.sources.listForTask s task.taskId = .ok changes

/-- **What a card asks of its task**: an intent that is not blank, and no empty result. -/
def Presentable (service : DefaultTaskProjectionService M C F) (s : String) (task : TaskDomain) :
    Prop :=
  isBlank task.intent = false ∧ task.resultRef ≠ some "" ∧ service.Answers s task

/-- The fields of a card that come from the tree. -/
structure CardOf (lower : String → String) (task : TaskDomain) (children : List TaskDomain)
    (depth : ℕ) (parentRef : Option TaskRef) (rootRef : TaskRef) (card : TaskCardView M C F) :
    Prop where
  taskRef : card.taskRef = TaskRef.published task.taskId
  parentRef : card.parentRef = parentRef
  rootRef : card.rootRef = rootRef
  depth : card.depth = depth
  childCount : card.badges.childCount = children.length
  doneChildCount : card.badges.doneChildCount = doneChildCount children
  failedChildCount : card.badges.failedChildCount = failedChildCount lower children

theorem projectTask_spec {children : List TaskDomain} {depth : ℕ} {parentRef : Option TaskRef}
    {rootRef : TaskRef} {card : TaskCardView M C F}
    (h : service.projectTask task children depth parentRef rootRef = .ok card) :
    CardOf service.lower task children depth parentRef rootRef card ∧
      service.Presentable task.sessionId task := by
  obtain ⟨direct, hdirect, h⟩ := bind_eq_ok.mp h
  obtain ⟨subtree, -, h⟩ := bind_eq_ok.mp h
  obtain ⟨t, ht, h⟩ := bind_eq_ok.mp h
  obtain ⟨confirmations, hconf, h⟩ := bind_eq_ok.mp h
  obtain ⟨message, hmessage, h⟩ := bind_eq_ok.mp h
  obtain ⟨hsound, rfl⟩ := TaskCardView.validate_eq_ok_iff.mp h
  refine ⟨⟨rfl, rfl, rfl, rfl, rfl, rfl, rfl⟩, ?_, ?_, ⟨_, hconf⟩, ⟨_, hmessage⟩, ⟨_, hdirect⟩⟩
  · rw [← isBlank_taskContent service.lower, Bool.eq_false_iff]
    intro hblank
    rw [title_of_blank hblank] at ht
    cases ht
  · exact hsound.resultRef

theorem fields_of_withoutResult (h : task.withoutResult.Valid) :
    task.taskId ≠ "" ∧ task.rootId ≠ "" ∧ task.parentId ≠ some "" ∧ task.errorRef ≠ some "" := by
  have htext : ∀ {t : String}, Codec.text.accepts t = true → t ≠ "" := by
    rintro t hok rfl
    exact absurd hok (by decide)
  have hopt : ∀ {o : Option String}, optText.accepts o = true → o ≠ some "" := by
    rintro o hok rfl
    exact absurd hok (by decide)
  have hf := h.1
  simp only [TaskDomain.fieldsOk, TaskDomain.withoutResult, Bool.and_eq_true] at hf
  exact ⟨htext (by simp only [hf]), htext (by simp only [hf]), hopt (by simp only [hf]),
    hopt (by simp only [hf])⟩

theorem exists_card {children below : List TaskDomain} {depth : ℕ} {parentRef : Option TaskRef}
    {rootRef : TaskRef} (hlist : service.listForSession task.sessionId = .ok tasks)
    (hdesc : descendants task.taskId tasks = some below)
    (hshow : service.Presentable task.sessionId task)
    (hbelow : ∀ u ∈ below, service.Answers task.sessionId u) (hvalid : task.withoutResult.Valid)
    (hparent : parentRef.map TaskRef.id ≠ some "") (hroot : rootRef.id ≠ "")
    (hdepth : depth = 0 ↔ parentRef = none) :
    ∃ card, service.projectTask task children depth parentRef rootRef = .ok card := by
  obtain ⟨hintent, hresult, ⟨confirmations, hconf⟩, ⟨message, hmessage⟩, changes, hchanges⟩ := hshow
  have hblank := (isBlank_taskContent service.lower task).trans hintent
  obtain ⟨t, ht, htne⟩ := title_of_not_blank hblank
  have hsubtree : ∃ subtree, service.subtreeFileChanges task.sessionId
      (TaskRef.published task.taskId) = .ok subtree := by
    have hall : ∀ i ∈ task.taskId :: below.map TaskDomain.taskId,
        ∃ c, service.sources.listForTask task.sessionId i = .ok c ∧ True := by
      intro i hi
      rcases List.mem_cons.mp hi with rfl | hi
      · exact ⟨_, hchanges, trivial⟩
      · obtain ⟨u, hu, rfl⟩ := List.mem_map.mp hi
        obtain ⟨-, -, c, hc⟩ := hbelow u hu
        exact ⟨c, hc, trivial⟩
    obtain ⟨found, hfound, -⟩ := exists_mapM hall
    unfold subtreeFileChanges tasksOf
    rw [hlist]
    simp only [TaskRef.published, Except.mapError, bind, Except.bind, hdesc, hfound]
    exact ⟨_, rfl⟩
  obtain ⟨subtree, hsubtree⟩ := hsubtree
  obtain ⟨hid, -, -, herror⟩ := fields_of_withoutResult hvalid
  have hcounts := childCounts_le service.lower children
  refine ⟨_, bind_eq_ok.mpr ⟨changes, hchanges, bind_eq_ok.mpr ⟨subtree, hsubtree,
    bind_eq_ok.mpr ⟨t, ht, bind_eq_ok.mpr ⟨confirmations, hconf, bind_eq_ok.mpr ⟨message, hmessage,
      TaskCardView.validate_eq_ok_iff.mpr ⟨?_, rfl⟩⟩⟩⟩⟩⟩⟩
  exact
    { taskRef := hid
      parentRef := hparent
      rootRef := hroot
      title := htne
      intentPreview := intentPreview_ne_empty hblank
      fullIntent := fun heq => ne_empty_of_not_isBlank hblank (Option.some.inj heq)
      instructions := instructions_ne service.lower task
      resultRef := hresult
      errorRef := herror
      badges := (Nat.le_add_right _ _).trans hcounts
      progress := fun p hp => by
        simp only [taskCard] at hp
        split at hp
        · cases hp
        · cases hp
          exact hcounts
      root := fun h => by
        rw [show parentRef = none from hdepth.mp h.1] at h
        cases h.2
      child := fun h => by
        have hnone : parentRef = none := Option.isNone_iff_eq_none.mp h.2
        have hzero := hdepth.mpr hnone
        have hpos : depth > 0 := h.1
        omega
      draft := fun h => by
        have hstatus : projectedTaskStatus service.lower task = .draft := h.1
        unfold projectedTaskStatus at hstatus
        cases hs : task.status <;> rw [hs] at hstatus <;> simp at hstatus
        split at hstatus <;> cases hstatus }

end DefaultTaskProjectionService

end Taskweavn

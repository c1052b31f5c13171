import Taskweavn.Task.ProjectionCards

/-!
# The published tree

`_published_cards` lists the tasks of a session as a walk through their forest (`treeWalk`), each
with the depth that `_depth` counts, and followed by what `_descendants` lists (`PublishedView`).

* `publishedCards_eq_ok_iff`: it does so unless a card cannot be made or the calls nest too deep.
* `publishedView_iff`: after any run of a bus the view is shown, and is exact, exactly when every
  task can be shown and none is too deep.
* `publishedCards_blank`: a task with a blank intent can be published, and then no card is shown.
-/

namespace Taskweavn

open Lib Py Relation

namespace Projection

variable {s : String} {tasks : List TaskDomain}

/-! ### The forest of the tasks -/

theorem mem_orderedChildren {t u : TaskDomain} :
    u ∈ orderedChildren tasks t ↔ u ∈ tasks ∧ u.parentId = some t.taskId := by
  rw [orderedChildren, ordered, mem_sortOn, childrenByParent, List.mem_filter, beq_iff_eq]

theorem kidsOf_orderedChildren {l : List TaskDomain} (h : Listed s tasks) (hperm : tasks.Perm l) :
    KidsOf TaskDomain.taskId TaskDomain.parentId l (orderedChildren tasks) := by
  refine ⟨fun t _ => ?_, fun t _ u => ?_⟩
  · have hnodup : tasks.Nodup := List.Nodup.of_map _ h.nodup
    exact (sortOn_perm _ _).nodup_iff.mpr (hnodup.filter _)
  · rw [mem_orderedChildren, hperm.mem_iff]

def roots (tasks : List TaskDomain) : List TaskDomain := ordered (childrenByParent tasks none)

theorem mem_roots {t : TaskDomain} : t ∈ roots tasks ↔ t ∈ tasks ∧ t.parentId = none := by
  rw [roots, ordered, mem_sortOn, childrenByParent, List.mem_filter, beq_iff_eq]

theorem nodup_roots (h : Listed s tasks) : (roots tasks).Nodup :=
  (sortOn_perm _ _).nodup_iff.mpr ((List.Nodup.of_map _ h.nodup).filter _)

/-- The walk through the tasks, each with its depth. -/
def treeWalk (tasks : List TaskDomain) : List (TaskDomain × ℕ) :=
  (roots tasks).flatMap (levels (orderedChildren tasks) tasks.length 0)

theorem exists_forest (h : Listed s tasks) : ∃ l, tasks.Perm l ∧ l.length = tasks.length ∧
    Forest TaskDomain.taskId TaskDomain.parentId l ∧
    KidsOf TaskDomain.taskId TaskDomain.parentId l (orderedChildren tasks) := by
  obtain ⟨l, hperm, hl⟩ := exists_forest_iff.mpr h.parentLinks
  exact ⟨l, hperm, hperm.length_eq.symm, hl, kidsOf_orderedChildren h hperm⟩

theorem map_fst_walk (tasks : List TaskDomain) :
    (treeWalk tasks).map Prod.fst =
      (roots tasks).flatMap (preorder (orderedChildren tasks) tasks.length) :=
  map_fst_flatMap_levels _ _ _ _

/-- **Every task is in the walk once.** -/
theorem walk_perm (h : Listed s tasks) : ((treeWalk tasks).map Prod.fst).Perm tasks := by
  obtain ⟨l, hperm, hlength, hl, hk⟩ := exists_forest h
  rw [map_fst_walk]
  refine (preorder_perm hl hk (nodup_roots h) (fun t => ?_) hlength.le).trans hperm.symm
  rw [mem_roots, hperm.mem_iff]

theorem walk_parentsFirst (h : Listed s tasks) :
    ParentsFirst ∅ (links TaskDomain.taskId TaskDomain.parentId
    ((treeWalk tasks).map Prod.fst)) := by
  obtain ⟨l, hperm, -, hl, hk⟩ := exists_forest h
  rw [map_fst_walk]
  refine parentsFirst_preorder hk _ (fun t ht => hperm.mem_iff.mp (mem_roots.mp ht).1) ?_
  intro t ht p hp
  rw [(mem_roots.mp ht).2] at hp
  cases hp

theorem walk_siblings (h : Listed s tasks) : ((treeWalk tasks).map Prod.fst).Pairwise fun t u =>
    t.parentId = u.parentId → t.childOrder ≤ u.childOrder := by
  obtain ⟨l, hperm, -, hl, hk⟩ := exists_forest h
  rw [map_fst_walk]
  refine pairwise_siblings hl hk (r := fun t u => t.childOrder ≤ u.childOrder)
    (fun t _ => sortOn_pairwise _ _) _
    (fun t ht => hperm.mem_iff.mp (mem_roots.mp ht).1) (nodup_roots h) ?_ (sortOn_pairwise _ _)
  intro t ht u hu
  rw [(mem_roots.mp ht).2, (mem_roots.mp hu).2]

theorem get?_taskById (h : Listed s tasks) {t : TaskDomain} (ht : t ∈ tasks) :
    (taskById tasks).get? t.taskId = some t :=
  Dict.get?_ofList_map h.nodup ht

theorem exists_root_of_mem_walk {x : TaskDomain × ℕ} (hx : x ∈ treeWalk tasks) :
    ∃ r ∈ tasks, r.parentId = none ∧ x ∈ levels (orderedChildren tasks) tasks.length 0 r := by
  obtain ⟨r, hr, hx⟩ := List.mem_flatMap.mp hx
  exact ⟨r, (mem_roots.mp hr).1, (mem_roots.mp hr).2, hx⟩

/-- **The depth in the walk is the one that is counted upwards.** -/
theorem depth_of_mem_walk (h : Listed s tasks) {x : TaskDomain × ℕ} (hx : x ∈ treeWalk tasks) :
    depth x.1 tasks = some x.2 := by
  obtain ⟨l, hperm, hlength, hl, hk⟩ := exists_forest h
  obtain ⟨r, hr, hroot, hx⟩ := exists_root_of_mem_walk hx
  have hrl := hperm.mem_iff.mp hr
  refine climb_of_root hk.closed (fun t ht u hu => ?_) hrl (by rw [hroot]; rfl) hx ?_
  · rw [(hk.child ht hu).2.2]
    exact get?_taskById h (hperm.mem_iff.mpr ht)
  · have hle := le_place_of_mem_levels hl hk hrl hx (Nat.zero_le _)
    have hxl : x.1 ∈ l := by
      have hmem := chain_of_mem_preorder hk tasks.length hrl
        (by rw [← map_fst_levels _ _ 0]; exact List.mem_map_of_mem hx)
      rcases ReflTransGen.cases_head hmem with heq | ⟨u, hxu, -⟩
      · rwa [heq]
      · exact hxu.1
    have hlt : place TaskDomain.taskId l x.1 < l.length := place_lt_length hxl
    omega

theorem descendants_eq (h : Listed s tasks) {t : TaskDomain} (ht : t ∈ tasks) :
    descendants t.taskId tasks = some ((orderedChildren tasks t).flatMap
      (preorder (orderedChildren tasks) tasks.length)) := by
  obtain ⟨l, hperm, hlength, hl, hk⟩ := exists_forest h
  have htl := hperm.mem_iff.mp ht
  have hnodup := nodup_preorder hl hk l.length t htl
  have hsub : preorder (orderedChildren tasks) l.length t ⊆ l := by
    intro u hu
    rcases ReflTransGen.cases_head (chain_of_mem_preorder hk _ htl hu) with rfl | ⟨v, huv, -⟩
    · exact htl
    · exact huv.1
  have hle := (hnodup.subperm hsub).length_le
  rw [preorder_length hl hk htl, List.length_cons] at hle
  rw [← hlength]
  exact drain_eq hk.closed (fun u hu => preorder_length hl hk hu) (hk.closed t htl)
    ((Nat.le_succ _).trans (hle.trans hlength.le))

/-- **What is below a task follows it in the walk**, up to the next that is not deeper. -/
theorem walk_below (h : Listed s tasks) {pre post : List (TaskDomain × ℕ)} {x : TaskDomain × ℕ}
    (hwalk : treeWalk tasks = pre ++ x :: post) :
    descendants x.1.taskId tasks =
      some ((post.takeWhile fun y => x.2 < y.2).map Prod.fst) := by
  obtain ⟨l, hperm, hlength, hl, hk⟩ := exists_forest h
  have hx : x ∈ treeWalk tasks := by
    rw [hwalk]
    simp
  have hxt : x.1 ∈ tasks := (walk_perm h).mem_iff.mp (List.mem_map_of_mem hx)
  obtain ⟨r, hr, -, hxr⟩ := exists_root_of_mem_walk hx
  have hle := le_place_of_mem_levels hl hk (hperm.mem_iff.mp hr) hxr (Nat.zero_le _)
  have hend : ∀ y ∈ ([] : List (TaskDomain × ℕ)).head?, y.2 ≤ 0 := fun y hy => (by cases hy)
  obtain ⟨m, hm, htake⟩ := takeWhile_levels hend hwalk
  rw [List.append_nil] at htake
  rw [descendants_eq h hxt, htake, map_fst_flatMap_levels]
  refine congrArg some (List.flatMap_congr fun u hu => ?_)
  have hchild := hk.child (hperm.mem_iff.mp hxt) hu
  have hplace := hl.place_lt hchild
  rw [← map_fst_levels _ _ 0, ← map_fst_levels _ _ 0,
    levels_of_le hl hk 0 hchild.1 (n := m) (by omega) (by omega)]

theorem rootId_of_mem_levels (h : Listed s tasks) : ∀ {n d : ℕ} {t : TaskDomain}
    {x : TaskDomain × ℕ}, t ∈ tasks → x ∈ levels (orderedChildren tasks) n d t →
      x.1.rootId = t.rootId ∧ ReflTransGen
      (Child TaskDomain.taskId TaskDomain.parentId tasks) x.1 t := by
  intro n
  induction n with
  | zero => intro d t x _ hx; cases hx
  | succ n ih =>
    intro d t x ht hx
    rcases List.mem_cons.mp hx with rfl | hx
    · exact ⟨rfl, .refl⟩
    · obtain ⟨u, hu, hx⟩ := List.mem_flatMap.mp hx
      obtain ⟨hut, hparent⟩ := mem_orderedChildren.mp hu
      obtain ⟨hroot, hchain⟩ := ih hut hx
      obtain ⟨v, hv, hid, hvroot⟩ := h.parent u hut _ hparent
      obtain rfl : v = t := List.inj_on_of_nodup_map h.nodup hv ht hid
      exact ⟨hroot.trans hvroot.symm, hchain.tail ⟨hut, ht, hparent⟩⟩

theorem depth_eq_zero_iff (h : Listed s tasks) {x : TaskDomain × ℕ} (hx : x ∈ treeWalk tasks) :
    x.2 = 0 ↔ x.1.parentId = none := by
  have hdepth := depth_of_mem_walk h hx
  have hxt : x.1 ∈ tasks := (walk_perm h).mem_iff.mp (List.mem_map_of_mem hx)
  rw [depth, climb] at hdepth
  cases hparent : x.1.parentId with
  | none =>
    rw [hparent] at hdepth
    exact ⟨fun _ => rfl, fun _ => (Option.some.inj hdepth).symm⟩
  | some p =>
    obtain ⟨u, hu, rfl, -⟩ := h.parent x.1 hxt p hparent
    rw [hparent, Option.bind_some, get?_taskById h hu] at hdepth
    have hle := le_of_climb hdepth
    exact ⟨fun hzero => absurd hle (by omega), fun hnone => (by cases hnone)⟩

end Projection

/-! ### Appending -/

section

variable {ε β γ α : Type}

theorem foldlM_append_eq {f : List β → α → Except ε (List β)} {g : α → List γ}
    {made : γ → Except ε β} : ∀ {as : List α},
      (∀ a ∈ as, ∀ cards, f cards a = ((g a).mapM made).map (cards ++ ·)) → ∀ cards,
        as.foldlM f cards = ((as.flatMap g).mapM made).map (cards ++ ·) := by
  intro as
  induction as with
  | nil =>
    intro _ cards
    exact congrArg Except.ok (List.append_nil cards).symm
  | cons a as ih =>
    intro h cards
    rw [List.foldlM_cons, h a List.mem_cons_self, List.flatMap_cons, List.mapM_append]
    cases (g a).mapM made with
    | error e => rfl
    | ok new =>
      have hrest := ih (fun b hb => h b (List.mem_cons_of_mem _ hb)) (cards ++ new)
      refine hrest.trans ?_
      cases (as.flatMap g).mapM made with
      | error e => rfl
      | ok rest => exact congrArg Except.ok (List.append_assoc cards new rest)

theorem foldlM_error {f : List β → α → Except ε (List β)} : ∀ {as : List α} {a : α}, a ∈ as →
    (∀ cards, ∃ e, f cards a = .error e) → ∀ cards, ∃ e, as.foldlM f cards = .error e := by
  intro as
  induction as with
  | nil => intro a ha; cases ha
  | cons b as ih =>
    intro a ha hf cards
    rw [List.foldlM_cons]
    cases hb : f cards b with
    | error e => exact ⟨e, rfl⟩
    | ok new =>
      rcases List.mem_cons.mp ha with rfl | ha
      · obtain ⟨e, he⟩ := hf cards
        rw [hb] at he
        cases he
      · exact ih ha hf new

end

namespace DefaultTaskProjectionService

open Projection

variable {M C F : Type} {service : DefaultTaskProjectionService M C F} {tasks : List TaskDomain}
  {s : String} {cards : List (TaskCardView M C F)}

def cardAt (service : DefaultTaskProjectionService M C F) (tasks : List TaskDomain)
    (rootRef : TaskRef) (x : TaskDomain × ℕ) : Except ProjectionError (TaskCardView M C F) :=
  service.projectTask x.1 (orderedChildren tasks x.1) x.2
    (x.1.parentId.map TaskRef.published) rootRef

theorem levels_tasks (h : Listed s tasks) (d : ℕ) {t : TaskDomain} (ht : t ∈ tasks) :
    levels (orderedChildren tasks) tasks.length d t =
      (t, d) :: (orderedChildren tasks t).flatMap
        (levels (orderedChildren tasks) tasks.length (d + 1)) := by
  obtain ⟨l, hperm, hlength, hl, hk⟩ := exists_forest h
  rw [← hlength]
  exact levels_length hl hk d (hperm.mem_iff.mp ht)

/-- **The recursion lists the walk**, where the calls may nest as deep as it is. -/
theorem appendTaskSubtree_eq (h : Listed s tasks) (rootRef : TaskRef) : ∀ {limit d : ℕ}
    {t : TaskDomain} (cards : List (TaskCardView M C F)), t ∈ tasks →
      (∀ x ∈ levels (orderedChildren tasks) tasks.length d t, x.2 < d + limit) →
        service.appendTaskSubtree tasks rootRef limit cards t d (t.parentId.map TaskRef.published) =
          ((levels (orderedChildren tasks) tasks.length d t).mapM
            (service.cardAt tasks rootRef)).map (cards ++ ·) := by
  intro limit
  induction limit with
  | zero =>
    intro d t cards ht hdeep
    rw [levels_tasks h d ht] at hdeep
    exact absurd (hdeep (t, d) List.mem_cons_self) (lt_irrefl d)
  | succ limit ih =>
    intro d t cards ht hdeep
    rw [levels_tasks h d ht] at hdeep ⊢
    have hchildren : ∀ u ∈ orderedChildren tasks t, ∀ cards : List (TaskCardView M C F),
        service.appendTaskSubtree tasks rootRef limit cards u (d + 1)
            (some (TaskRef.published t.taskId)) =
          ((levels (orderedChildren tasks) tasks.length (d + 1) u).mapM
            (service.cardAt tasks rootRef)).map (cards ++ ·) := by
      intro u hu cards
      obtain ⟨hut, hparent⟩ := mem_orderedChildren.mp hu
      have hchild := ih (d := d + 1) cards hut fun x hx => by
        have hlt := hdeep x (List.mem_cons_of_mem _ (List.mem_flatMap.mpr ⟨u, hu, hx⟩))
        omega
      rwa [hparent] at hchild
    rw [List.mapM_cons, appendTaskSubtree]
    show (service.cardAt tasks rootRef (t, d)).bind _ = _
    cases hcard : service.cardAt tasks rootRef (t, d) with
    | error e => rfl
    | ok card =>
      refine (foldlM_append_eq hchildren (cards ++ [card])).trans ?_
      show _ = (Except.bind (List.mapM (service.cardAt tasks rootRef) _) _).map _
      cases List.mapM (service.cardAt tasks rootRef) ((orderedChildren tasks t).flatMap
          (levels (orderedChildren tasks) tasks.length (d + 1))) with
      | error e => rfl
      | ok rest => exact congrArg Except.ok (List.append_assoc cards [card] rest)

theorem appendTaskSubtree_error (h : Listed s tasks) (rootRef : TaskRef) : ∀ {limit d : ℕ}
    {t : TaskDomain} {x : TaskDomain × ℕ}, t ∈ tasks →
      x ∈ levels (orderedChildren tasks) tasks.length d t → d + limit ≤ x.2 →
        ∀ (cards : List (TaskCardView M C F)) (parentRef : Option TaskRef),
          ∃ e, service.appendTaskSubtree tasks rootRef limit cards t d parentRef = .error e := by
  intro limit
  induction limit with
  | zero => exact fun _ _ _ cards parentRef => ⟨.recursion, rfl⟩
  | succ limit ih =>
    intro d t x ht hx hdeep cards parentRef
    rw [levels_tasks h d ht] at hx
    rcases List.mem_cons.mp hx with rfl | hx
    · have hlt : d + (limit + 1) ≤ d := hdeep
      omega
    · obtain ⟨u, hu, hx⟩ := List.mem_flatMap.mp hx
      rw [appendTaskSubtree]
      cases hcard : service.projectTask t (orderedChildren tasks t) d parentRef rootRef with
      | error e => exact ⟨e, rfl⟩
      | ok card =>
        exact foldlM_error hu
          (fun cards => ih (mem_orderedChildren.mp hu).1 hx (by omega) cards _) (cards ++ [card])

def rootedCard (service : DefaultTaskProjectionService M C F) (tasks : List TaskDomain)
    (x : TaskDomain × ℕ) : Except ProjectionError (TaskCardView M C F) :=
  service.cardAt tasks (TaskRef.published x.1.rootId) x

theorem publishedCards_roots (h : Listed s tasks) (hlist : service.listForSession s = .ok tasks) :
    service.publishedCards s none = (roots tasks).foldlM
      (fun cards r => service.appendTaskSubtree tasks
      (TaskRef.published r.rootId) service.limit cards
        r 0 (r.parentId.map TaskRef.published)) [] := by
  have hloop : ∀ (rs : List TaskDomain), (∀ r ∈ rs, r ∈ roots tasks) →
      ∀ cards : List (TaskCardView M C F),
        (rs.map TaskDomain.taskId).foldlM (service.appendRoot tasks) cards =
        rs.foldlM (fun cards r => service.appendTaskSubtree tasks (TaskRef.published r.rootId)
          service.limit cards r 0 (r.parentId.map TaskRef.published)) cards := by
    intro rs
    induction rs with
    | nil => exact fun _ _ => rfl
    | cons r rs ih =>
      intro hrs cards
      obtain ⟨hr, hnone⟩ := mem_roots.mp (hrs r List.mem_cons_self)
      rw [List.map_cons, List.foldlM_cons, List.foldlM_cons, appendRoot, get?_taskById h hr, hnone]
      refine congrArg (Except.bind _) (funext fun cards => ?_)
      exact ih (fun r hr => hrs r (List.mem_cons_of_mem _ hr)) cards
  unfold publishedCards tasksOf
  rw [hlist]
  exact hloop (roots tasks) (fun r hr => hr) []

/-- **The cards are those of the walk**, unless it is too deep. -/
theorem publishedCards_eq_ok_iff (h : Listed s tasks)
    (hlist : service.listForSession s = .ok tasks) :
    service.publishedCards s none = .ok cards ↔
      (∀ x ∈ treeWalk tasks, x.2 < service.limit) ∧
        List.Forall₂ (fun x card => service.rootedCard tasks x = .ok card)
        (treeWalk tasks) cards := by
  rw [publishedCards_roots h hlist]
  by_cases hdeep : ∀ x ∈ treeWalk tasks, x.2 < service.limit
  · have heach : ∀ r ∈ roots tasks, ∀ cards : List (TaskCardView M C F),
        service.appendTaskSubtree tasks (TaskRef.published r.rootId) service.limit cards r 0
            (r.parentId.map TaskRef.published) =
          ((levels (orderedChildren tasks) tasks.length 0 r).mapM
            (service.rootedCard tasks)).map (cards ++ ·) := by
      intro r hr cards
      have hrt := (mem_roots.mp hr).1
      rw [appendTaskSubtree_eq h _ cards hrt fun x hx => by
        rw [Nat.zero_add]
        exact hdeep x (List.mem_flatMap.mpr ⟨r, hr, hx⟩)]
      refine congrArg _ (mapM_congr fun x hx => ?_)
      rw [rootedCard, (rootId_of_mem_levels h hrt hx).1]
    rw [foldlM_append_eq heach, ← treeWalk, and_iff_right hdeep, ← mapM_eq_ok_iff]
    cases (treeWalk tasks).mapM (service.rootedCard tasks) <;> rfl
  · refine ⟨fun hok => ?_, fun hall => absurd hall.1 hdeep⟩
    push Not at hdeep
    obtain ⟨x, hx, hlimit⟩ := hdeep
    obtain ⟨r, hr, hx⟩ := List.mem_flatMap.mp hx
    have hlimit' : 0 + service.limit ≤ x.2 := (Nat.zero_add _).trans_le hlimit
    have hfails : ∀ cards : List (TaskCardView M C F), ∃ e, service.appendTaskSubtree tasks
        (TaskRef.published r.rootId) service.limit cards r 0 (r.parentId.map TaskRef.published) =
          .error e :=
      fun cards => appendTaskSubtree_error h _ (mem_roots.mp hr).1 hx hlimit' cards _
    have hloop : ∃ e, (roots tasks).foldlM (fun cards r => service.appendTaskSubtree tasks
        (TaskRef.published r.rootId) service.limit cards r 0 (r.parentId.map TaskRef.published))
          [] = .error e := foldlM_error hr hfails []
    obtain ⟨e, he⟩ := hloop
    rw [he] at hok
    cases hok

/-! ### The view -/

def Shows (lower : String → String) (tasks : List TaskDomain) (t : TaskDomain)
    (card : TaskCardView M C F) : Prop :=
  ∃ d, depth t tasks = some d ∧
    CardOf lower t (orderedChildren tasks t) d (t.parentId.map TaskRef.published)
      (TaskRef.published t.rootId) card ∧
    (∀ p, t.parentId = some p → ∃ u ∈ tasks, u.taskId = p) ∧
    ∃ r ∈ tasks, r.parentId = none ∧ r.taskId = t.rootId ∧
      ReflTransGen (Child TaskDomain.taskId TaskDomain.parentId tasks) t r

/-- **An exact view**: every task once, parents first, siblings in their order, each card with the
place of its task, and followed by what is below. -/
structure PublishedView (lower : String → String) (tasks order : List TaskDomain)
    (cards : List (TaskCardView M C F)) : Prop where
  once : order.Perm tasks
  parentsFirst : ParentsFirst ∅ (links TaskDomain.taskId TaskDomain.parentId order)
  siblings : order.Pairwise fun t u => t.parentId = u.parentId → t.childOrder ≤ u.childOrder
  shows : List.Forall₂ (Shows lower tasks) order cards
  below : ∀ pre card post, cards = pre ++ card :: post → ∃ t ∈ tasks, ∃ below,
    card.taskRef = TaskRef.published t.taskId ∧ descendants t.taskId tasks = some below ∧
      (post.takeWhile fun c => card.depth < c.depth).map TaskCardView.taskRef =
        below.map fun u => TaskRef.published u.taskId

theorem shows_of_rootedCard (h : Listed s tasks) {x : TaskDomain × ℕ} (hx : x ∈ treeWalk tasks)
    {card : TaskCardView M C F} (hcard : service.rootedCard tasks x = .ok card) :
    Shows service.lower tasks x.1 card := by
  have hxt : x.1 ∈ tasks := (walk_perm h).mem_iff.mp (List.mem_map_of_mem hx)
  obtain ⟨r, hr, hroot, hxr⟩ := exists_root_of_mem_walk hx
  obtain ⟨hid, hchain⟩ := rootId_of_mem_levels h hr hxr
  refine ⟨x.2, depth_of_mem_walk h hx, (projectTask_spec hcard).1, fun p hp => ?_, r, hr, hroot, ?_,
    hchain⟩
  · obtain ⟨u, hu, hup, -⟩ := h.parent x.1 hxt p hp
    exact ⟨u, hu, hup⟩
  · have hvalid := (h.valid r hr).2.1 hroot
    exact hvalid.symm.trans hid.symm

theorem map_takeWhile_of_forall₂ {as : List (TaskDomain × ℕ)} {cards : List (TaskCardView M C F)}
    (h : List.Forall₂ (fun x card => card.taskRef = TaskRef.published x.1.taskId ∧ card.depth = x.2)
      as cards) (d : ℕ) :
    (cards.takeWhile fun c => d < c.depth).map TaskCardView.taskRef =
      ((as.takeWhile fun x => d < x.2).map Prod.fst).map fun u => TaskRef.published u.taskId := by
  induction h with
  | nil => rfl
  | cons hhead _ ih =>
    rw [List.takeWhile_cons, List.takeWhile_cons, hhead.2]
    split_ifs
    · rw [List.map_cons, List.map_cons, List.map_cons, hhead.1, ih]
    · rfl

/-- **What is shown is exact.** -/
theorem publishedView_of_ok (h : Listed s tasks) (hlist : service.listForSession s = .ok tasks)
    (hok : service.publishedCards s none = .ok cards) :
    PublishedView service.lower tasks ((treeWalk tasks).map Prod.fst) cards := by
  obtain ⟨-, hcards⟩ := (publishedCards_eq_ok_iff h hlist).mp hok
  have hshows : List.Forall₂
    (fun x card => x ∈ treeWalk tasks ∧ service.rootedCard tasks x = .ok card)
      (treeWalk tasks) cards :=
    List.forall₂_and_left _ _ |>.mpr ⟨fun x hx => hx, hcards⟩
  refine ⟨walk_perm h, walk_parentsFirst h, walk_siblings h, ?_, ?_⟩
  · rw [List.forall₂_map_left_iff]
    exact hshows.imp fun x card hx => shows_of_rootedCard h hx.1 hx.2
  · intro pre card post hsplit
    have hplaces : List.Forall₂ (fun x card => card.taskRef = TaskRef.published x.1.taskId ∧
        card.depth = x.2) (treeWalk tasks) cards := by
      refine hcards.imp fun x card hx => ?_
      have hcard := (projectTask_spec hx).1
      exact ⟨hcard.taskRef, hcard.depth⟩
    rw [hsplit] at hplaces
    have hwalk := (List.take_append_drop pre.length (treeWalk tasks)).symm
    have hrest := List.forall₂_drop_append _ _ _ hplaces
    cases hdrop : (treeWalk tasks).drop pre.length with
    | nil =>
      rw [hdrop] at hrest
      cases hrest
    | cons x wpost =>
      rw [hdrop] at hrest hwalk
      obtain ⟨hhead, hpost⟩ := List.forall₂_cons.mp hrest
      have hx : x ∈ treeWalk tasks := List.mem_of_mem_drop (by rw [hdrop]; exact List.mem_cons_self)
      refine ⟨x.1, (walk_perm h).mem_iff.mp (List.mem_map_of_mem hx), _, hhead.1,
        walk_below h hwalk, ?_⟩
      rw [hhead.2]
      exact map_takeWhile_of_forall₂ hpost x.2

/-- A task that can be shown, and is not too deep. -/
def Showable (service : DefaultTaskProjectionService M C F) (s : String) (tasks : List TaskDomain)
    (t : TaskDomain) : Prop :=
  service.Presentable s t ∧ ∃ d, depth t tasks = some d ∧ d < service.limit

/-- **The cards are shown exactly when every task can be shown.** -/
theorem exists_publishedCards_iff (h : Listed s tasks)
    (hlist : service.listForSession s = .ok tasks) :
    (∃ cards, service.publishedCards s none = .ok cards) ↔
      ∀ t ∈ tasks, service.Showable s tasks t := by
  have hwalk : ∀ t ∈ tasks, ∃ x ∈ treeWalk tasks, x.1 = t := fun t ht =>
    List.mem_map.mp ((walk_perm h).mem_iff.mpr ht)
  constructor
  · rintro ⟨cards, hok⟩ t ht
    obtain ⟨hdeep, hcards⟩ := (publishedCards_eq_ok_iff h hlist).mp hok
    obtain ⟨x, hx, rfl⟩ := hwalk t ht
    obtain ⟨card, -, hcard⟩ := exists_of_mem_forall₂ hcards.flip hx
    have hshow := (projectTask_spec hcard).2
    rw [h.session _ ht] at hshow
    exact ⟨hshow, x.2, depth_of_mem_walk h hx, hdeep x hx⟩
  · intro hall
    have hdeep : ∀ x ∈ treeWalk tasks, x.2 < service.limit := by
      intro x hx
      have hxt : x.1 ∈ tasks := (walk_perm h).mem_iff.mp (List.mem_map_of_mem hx)
      obtain ⟨-, d, hd, hlt⟩ := hall x.1 hxt
      rw [depth_of_mem_walk h hx] at hd
      rwa [Option.some.inj hd]
    have hcard : ∀ x ∈ treeWalk tasks, ∃ card, service.rootedCard tasks x = .ok card ∧ True := by
      intro x hx
      have hxt : x.1 ∈ tasks := (walk_perm h).mem_iff.mp (List.mem_map_of_mem hx)
      have hsession := h.session x.1 hxt
      have hfields := fields_of_withoutResult (h.valid x.1 hxt)
      have hbelow : ∀ u ∈ (orderedChildren tasks x.1).flatMap
          (preorder (orderedChildren tasks) tasks.length), u ∈ tasks := by
        obtain ⟨l, hperm, -, -, hk⟩ := exists_forest h
        intro u hu
        obtain ⟨v, hv, huv⟩ := List.mem_flatMap.mp hu
        have hvl := hk.closed x.1 (hperm.mem_iff.mp hxt) v hv
        rcases ReflTransGen.cases_head (chain_of_mem_preorder hk _ hvl huv) with rfl | ⟨w, huw, -⟩
        · exact hperm.mem_iff.mpr hvl
        · exact hperm.mem_iff.mpr huw.1
      have hparent : (x.1.parentId.map TaskRef.published).map TaskRef.id = x.1.parentId := by
        cases x.1.parentId <;> rfl
      have hcard : ∃ card, service.rootedCard tasks x = .ok card := by
        refine exists_card (by rw [hsession]; exact hlist) (descendants_eq h hxt)
          (by rw [hsession]; exact (hall x.1 hxt).1) (fun u hu => ?_) (h.valid x.1 hxt) ?_
          hfields.2.1 ?_
        · rw [hsession]
          exact (hall u (hbelow u hu)).1.2.2
        · rw [hparent]
          exact hfields.2.2.1
        · rw [Option.map_eq_none_iff]
          exact depth_eq_zero_iff h hx
      obtain ⟨card, hcard⟩ := hcard
      exact ⟨card, hcard, trivial⟩
    obtain ⟨cards, hcards, -⟩ := exists_mapM hcard
    exact ⟨cards, (publishedCards_eq_ok_iff h hlist).mpr ⟨hdeep, mapM_eq_ok_iff.mp hcards⟩⟩

/-- The published tree is shown for some tasks, and the view is exact. -/
def ShowsTree (service : DefaultTaskProjectionService M C F) (s : String) : Prop :=
  ∃ tasks cards order, service.listForSession s = .ok tasks ∧
    service.publishedCards s none = .ok cards ∧
    PublishedView service.lower tasks order cards

theorem showsTree_iff (hlisted : ∀ tasks, service.listForSession s = .ok tasks → Listed s tasks) :
    service.ShowsTree s ↔ ∃ tasks, service.listForSession s = .ok tasks ∧
      ∀ t ∈ tasks, service.Showable s tasks t := by
  constructor
  · rintro ⟨tasks, cards, order, hlist, hok, -⟩
    exact ⟨tasks, hlist, (exists_publishedCards_iff (hlisted tasks hlist) hlist).mp ⟨cards, hok⟩⟩
  · rintro ⟨tasks, hlist, hall⟩
    have h := hlisted tasks hlist
    obtain ⟨cards, hok⟩ := (exists_publishedCards_iff h hlist).mpr hall
    exact ⟨tasks, cards, _, hlist, hok, publishedView_of_ok h hlist hok⟩

def ofBus {B : Type} [TaskBus B] (bus : B) (sources : ProjectionSources M C F)
    (lower : String → String) (limit : ℕ) : DefaultTaskProjectionService M C F where
  listForSession := TaskBus.listForSession bus
  sources := sources
  lower := lower
  limit := limit

/-- **After any run of either bus the tree is shown, and exact, exactly when the session can be
listed and every task can be shown**: its intent is not blank, its result reference is not empty,
the other stores answer for it, and it is not too deep for the interpreter. -/
theorem publishedView_iff (sources : ProjectionSources M C F) (lower : String → String) (limit : ℕ)
    (calls : List BusCall) (s : String) :
    ((ofBus (TaskBus.run InMemoryTaskBus.empty calls) sources lower limit).ShowsTree s ↔
      ∃ tasks, TaskBus.listForSession (TaskBus.run InMemoryTaskBus.empty calls) s = .ok tasks ∧
        ∀ t ∈ tasks,
        (ofBus (TaskBus.run InMemoryTaskBus.empty calls) sources lower limit).Showable s
          tasks t) ∧
    ((ofBus (TaskBus.run SqliteTaskBus.empty calls) sources lower limit).ShowsTree s ↔
      ∃ tasks, TaskBus.listForSession (TaskBus.run SqliteTaskBus.empty calls) s = .ok tasks ∧
        ∀ t ∈ tasks, (ofBus (TaskBus.run SqliteTaskBus.empty calls) sources lower limit).Showable s
          tasks t) := by
  constructor
  · refine showsTree_iff fun tasks hlist => ?_
    cases hlist
    exact InMemoryTaskBus.listed calls s
  · exact showsTree_iff fun tasks hlist => SqliteTaskBus.listed calls hlist

/-- Other stores that tell nothing. -/
def noSources : ProjectionSources Unit Unit Unit where
  latestMessage _ _ := .ok none
  confirmations _ _ := .ok []
  listForTask _ _ := .ok []

/-- A task whose intent is a blank, which the bus accepts. -/
def blankTask : TaskDomain := { TaskDomain.sample "s" "a" with intent := " " }

theorem valid_blankTask : blankTask.Valid := by decide

/-- **A blank intent hides the tree**: the bus lists its task, and the title of the card is asked
for the first line of nothing. -/
theorem publishedCards_blank :
    ∃ tasks, TaskBus.listForSession (TaskBus.run InMemoryTaskBus.empty
        [⟨.publish blankTask valid_blankTask, .sample⟩]) "s" = .ok tasks ∧
      tasks.map TaskDomain.intent = [" "] ∧
      (ofBus (TaskBus.run InMemoryTaskBus.empty [⟨.publish blankTask valid_blankTask, .sample⟩])
        noSources id 900).publishedCards "s" none = .error .index ∧
      ¬(ofBus (TaskBus.run InMemoryTaskBus.empty [⟨.publish blankTask valid_blankTask, .sample⟩])
        noSources id 900).ShowsTree "s" := by
  have herror : (ofBus (TaskBus.run InMemoryTaskBus.empty
      [⟨.publish blankTask valid_blankTask, .sample⟩]) noSources id 900).publishedCards "s" none =
        .error .index := by rfl
  refine ⟨_, rfl, by decide, herror, ?_⟩
  rintro ⟨tasks, cards, order, -, hok, -⟩
  rw [herror] at hok
  cases hok

end DefaultTaskProjectionService

end Taskweavn

import Mathlib.Data.List.Perm.Subperm
import Mathlib.Data.Set.Basic
import Taskweavn.Lib.Acyclic

/-!
# A depth-first search for cycles

`visit` goes through a graph that is given by the successors of each vertex.  It carries the
vertices on the path above it (`visiting`) and those that it is through with (`visited`), and
stops when it comes to a vertex of the path again.  The recursion is bounded by a number; a
search that reaches the bound says so.

The colouring invariant is `Finished`: what is visited has its successors visited, and is on no
cycle.  It makes the search exact (`findCycle_isOk_iff`), and as the path has no vertex twice,
the number of the vertices is a bound that is never reached (`findCycle_ne_bound`).
-/

namespace Lib

open Relation

variable {V : Type*}

inductive SearchStop
  | cycle
  | bound
deriving DecidableEq

/-- The search from a vertex: what is visited afterwards. -/
def visit [DecidableEq V] (next : V → List V) : ℕ → (visiting visited : List V) → V →
    Except SearchStop (List V)
  | 0, _, _, _ => .error .bound
  | n + 1, visiting, visited, v =>
    if v ∈ visited then .ok visited
    else if v ∈ visiting then .error .cycle
    else do
      let visited ← (next v).foldlM (visit next n (v :: visiting)) visited
      return v :: visited

/-- The search from every vertex of a graph. -/
def findCycle [DecidableEq V] (next : V → List V) (vertices : List V) :
    Except SearchStop (List V) :=
  vertices.foldlM (visit next (vertices.length + 1) []) []

/-- There is an edge from `a` to `b`. -/
def Edge (next : V → List V) (a b : V) : Prop := b ∈ next a

/-- A set that no edge leaves, and that has no cycle. -/
structure Finished (next : V → List V) (visited : List V) : Prop where
  closed : ∀ a ∈ visited, ∀ b, Edge next a b → b ∈ visited
  acyclic : ∀ a ∈ visited, ¬TransGen (Edge next) a a

theorem finished_nil (next : V → List V) : Finished next [] :=
  ⟨fun _ h => absurd h List.not_mem_nil, fun _ h => absurd h List.not_mem_nil⟩

section

variable {next : V → List V} {visited : List V}

theorem Finished.reach (h : Finished next visited) {a b : V} (ha : a ∈ visited)
    (hab : ReflTransGen (Edge next) a b) : b ∈ visited := by
  induction hab with
  | refl => exact ha
  | tail _ hbc ih => exact h.closed _ ih _ hbc

theorem Finished.cons (h : Finished next visited) {v : V} (hv : v ∉ visited)
    (hnext : ∀ b ∈ next v, b ∈ visited) : Finished next (v :: visited) where
  closed a ha b hab := by
    rcases List.mem_cons.mp ha with rfl | ha
    · exact List.mem_cons_of_mem _ (hnext b hab)
    · exact List.mem_cons_of_mem _ (h.closed a ha b hab)
  acyclic a ha hcycle := by
    rcases List.mem_cons.mp ha with rfl | ha
    · -- a cycle through the new vertex leaves it for the finished set
      obtain ⟨b, hab, hba⟩ := TransGen.head'_iff.mp hcycle
      exact hv (h.reach (hnext b hab) hba)
    · exact h.acyclic a ha hcycle

/-- Where a search starts: the path leads to the vertex, and has room for it. -/
structure OnPath (next : V → List V) (vertices visiting visited : List V) : Prop where
  finished : Finished next visited
  nodup : visiting.Nodup
  inside : ∀ a ∈ visiting, a ∈ vertices
  apart : ∀ a ∈ visiting, a ∉ visited

/-- What a search has done when it ends: it has visited more, or it has found a cycle. -/
inductive SearchEnd (next : V → List V) (visiting visited : List V) (targets : List V) :
    Except SearchStop (List V) → Prop
  | visited (visited' : List V) (finished : Finished next visited')
      (grown : ∀ a ∈ visited, a ∈ visited') (reached : ∀ a ∈ targets, a ∈ visited')
      (apart : ∀ a ∈ visiting, a ∉ visited') :
      SearchEnd next visiting visited targets (.ok visited')
  | cycle (a : V) (found : TransGen (Edge next) a a) :
      SearchEnd next visiting visited targets (.error .cycle)

theorem searchEnd_foldlM {visiting : List V} {f : List V → V → Except SearchStop (List V)} :
    ∀ (targets : List V) {visited : List V}, Finished next visited →
      (∀ a ∈ visiting, a ∉ visited) →
      (∀ v ∈ targets, ∀ visited, Finished next visited → (∀ a ∈ visiting, a ∉ visited) →
        SearchEnd next visiting visited [v] (f visited v)) →
      SearchEnd next visiting visited targets (targets.foldlM f visited) := by
  intro targets
  induction targets with
  | nil =>
    intro visited hfinished hapart _
    exact .visited visited hfinished (fun _ h => h) (fun _ h => absurd h List.not_mem_nil) hapart
  | cons v rest ih =>
    intro visited hfinished hapart hf
    rw [List.foldlM_cons]
    have hstep := hf v List.mem_cons_self visited hfinished hapart
    generalize f visited v = out at hstep
    cases hstep with
    | cycle a found => exact .cycle a found
    | visited visited₁ finished₁ grown₁ reached₁ apart₁ =>
      have hrest := ih finished₁ apart₁ fun w hw => hf w (List.mem_cons_of_mem v hw)
      show SearchEnd next visiting visited (v :: rest) (rest.foldlM f visited₁)
      generalize rest.foldlM f visited₁ = out at hrest
      cases hrest with
      | cycle a found => exact .cycle a found
      | visited visited₂ finished₂ grown₂ reached₂ apart₂ =>
        refine .visited visited₂ finished₂ (fun a ha => grown₂ a (grown₁ a ha)) ?_ apart₂
        intro a ha
        rcases List.mem_cons.mp ha with rfl | ha
        · exact grown₂ a (reached₁ a List.mem_cons_self)
        · exact reached₂ a ha

variable [DecidableEq V]

/-- **One search.**  With a bound above the room that the path leaves, the search from a vertex
that the path leads to visits it, or finds a cycle. -/
theorem searchEnd_visit {vertices : List V} (hclosed : ∀ a ∈ vertices, ∀ b ∈ next a, b ∈ vertices) :
    ∀ (n : ℕ) {visiting visited : List V} {v : V}, OnPath next vertices visiting visited →
      v ∈ vertices → (∀ a ∈ visiting, TransGen (Edge next) a v) →
      vertices.length < n + visiting.length →
      SearchEnd next visiting visited [v] (visit next n visiting visited v) := by
  intro n
  induction n with
  | zero =>
    intro visiting visited v h _ _ hroom
    have hle := (h.nodup.subperm h.inside).length_le
    omega
  | succ n ih =>
    intro visiting visited v h hv hpath hroom
    rw [visit]
    by_cases hdone : v ∈ visited
    · rw [if_pos hdone]
      refine .visited visited h.finished (fun _ ha => ha) ?_ h.apart
      intro a ha
      rw [List.mem_singleton.mp ha]
      exact hdone
    · rw [if_neg hdone]
      by_cases hon : v ∈ visiting
      · rw [if_pos hon]
        exact .cycle v (hpath v hon)
      · rw [if_neg hon]
        have hbelow : SearchEnd next (v :: visiting) visited (next v)
            ((next v).foldlM (visit next n (v :: visiting)) visited) := by
          refine searchEnd_foldlM (next v) h.finished ?_ fun b hb visited' hfinished hapart => ?_
          · intro a ha
            rcases List.mem_cons.mp ha with rfl | ha
            · exact hdone
            · exact h.apart a ha
          · have hon' : OnPath next vertices (v :: visiting) visited' := {
              finished := hfinished
              nodup := List.nodup_cons.mpr ⟨hon, h.nodup⟩
              inside := List.forall_mem_cons.mpr ⟨hv, h.inside⟩
              apart := hapart }
            refine ih hon' (hclosed v hv b hb) ?_ (by rw [List.length_cons]; omega)
            intro a ha
            rcases List.mem_cons.mp ha with rfl | ha
            · exact TransGen.single hb
            · exact TransGen.tail (hpath a ha) hb
        generalize (next v).foldlM (visit next n (v :: visiting)) visited = out at hbelow
        cases hbelow with
        | cycle a found => exact .cycle a found
        | visited visited' finished grown reached apart =>
          have hnew := apart v List.mem_cons_self
          refine .visited (v :: visited') (finished.cons hnew reached) ?_ ?_ ?_
          · exact fun a ha => List.mem_cons_of_mem v (grown a ha)
          · intro a ha
            rw [List.mem_singleton.mp ha]
            exact List.mem_cons_self
          · intro a ha hmem
            rcases List.mem_cons.mp hmem with rfl | hmem
            · exact hon ha
            · exact apart a (List.mem_cons_of_mem v ha) hmem

theorem searchEnd_findCycle {vertices : List V}
    (hclosed : ∀ a ∈ vertices, ∀ b ∈ next a, b ∈ vertices) :
    SearchEnd next [] [] vertices (findCycle next vertices) := by
  refine searchEnd_foldlM vertices (finished_nil next) (fun _ h => absurd h List.not_mem_nil)
    fun v hv visited hfinished _ => ?_
  have hon : OnPath next vertices [] visited := {
    finished := hfinished
    nodup := List.nodup_nil
    inside := fun _ h => absurd h List.not_mem_nil
    apart := fun _ h => absurd h List.not_mem_nil }
  refine searchEnd_visit hclosed _ hon hv (fun _ h => absurd h List.not_mem_nil) ?_
  rw [List.length_nil]
  omega

/-- **The search comes to an end by itself** on every graph. -/
theorem findCycle_ne_bound (next : V → List V) (vertices : List V)
    (hclosed : ∀ a ∈ vertices, ∀ b ∈ next a, b ∈ vertices) :
    findCycle next vertices ≠ .error .bound := by
  have hend := searchEnd_findCycle hclosed
  intro h
  rw [h] at hend
  cases hend

/-- **The search is exact**: it passes exactly when no vertex is on a cycle. -/
theorem findCycle_isOk_iff (next : V → List V) (vertices : List V)
    (hclosed : ∀ a ∈ vertices, ∀ b ∈ next a, b ∈ vertices)
    (hout : ∀ a b, Edge next a b → a ∈ vertices) :
    (∃ visited, findCycle next vertices = .ok visited) ↔ Acyclic (Edge next) := by
  have hend := searchEnd_findCycle hclosed
  constructor
  · rintro ⟨visited, h⟩ a hcycle
    rw [h] at hend
    cases hend with
    | visited _ finished _ reached _ =>
      obtain ⟨b, hab, -⟩ := TransGen.head'_iff.mp hcycle
      exact finished.acyclic a (reached a (hout a b hab)) hcycle
  · intro hacyclic
    generalize findCycle next vertices = out at hend
    cases hend with
    | visited visited _ _ _ _ => exact ⟨visited, rfl⟩
    | cycle a found => exact absurd found (hacyclic a)

end

end Lib

import Mathlib.Data.List.Basic
import Mathlib.Data.List.Nodup
import Mathlib.Tactic.Common

/-!
# Insertion-ordered dictionaries

A `Dict K V` is a list of entries with distinct keys.  `set` overwrites the
value of a key that is present, at its place, and appends a key that is not, so
the entries stand in the order in which their keys were first set.

The rules that later files use are `get?_set` (what a lookup sees after an
update), `mem_values` (the stored values are those some key looks up), and
`entries_set_of_none`, `entries_set_of_some` (an update appends one entry, or
rewrites one entry in place).
-/

namespace Lib

variable {K V W : Type*} [DecidableEq K]

/-- The value of the first entry with key `k`. -/
def lookupEntries (k : K) : List (K × V) → Option V
  | [] => none
  | e :: rest => if e.1 = k then some e.2 else lookupEntries k rest

/-- Overwrite the first entry with key `k`, or append one. -/
def setEntries (k : K) (v : V) : List (K × V) → List (K × V)
  | [] => [(k, v)]
  | e :: rest => if e.1 = k then (k, v) :: rest else e :: setEntries k v rest

variable {k : K} {v w : V} {l : List (K × V)}

theorem lookupEntries_setEntries (k k' : K) (v : V) (l : List (K × V)) :
    lookupEntries k' (setEntries k v l) = if k = k' then some v else lookupEntries k' l := by
  induction l with
  | nil => simp [setEntries, lookupEntries]
  | cons e rest ih =>
    by_cases he : e.1 = k
    · subst he
      by_cases hk : e.1 = k' <;> simp [setEntries, lookupEntries, hk]
    · by_cases hk : e.1 = k'
      · subst hk
        have hne : k ≠ e.1 := fun h => he h.symm
        simp [setEntries, lookupEntries, he, hne]
      · simp [setEntries, lookupEntries, he, hk, ih]

theorem mem_keys_iff : k ∈ l.map Prod.fst ↔ (lookupEntries k l).isSome := by
  induction l with
  | nil => simp [lookupEntries]
  | cons e rest ih =>
    by_cases he : e.1 = k
    · simp [lookupEntries, he]
    · simp only [List.map_cons, List.mem_cons, lookupEntries, he, if_false, ← ih]
      exact ⟨fun h => h.resolve_left (fun h' => he h'.symm), Or.inr⟩

theorem map_fst_setEntries_of_some (h : lookupEntries k l = some w) :
    (setEntries k v l).map Prod.fst = l.map Prod.fst := by
  induction l with
  | nil => simp [lookupEntries] at h
  | cons e rest ih =>
    by_cases he : e.1 = k
    · simp [setEntries, he]
    · simp only [lookupEntries, he, if_false] at h
      simp [setEntries, he, ih h]

theorem setEntries_of_none (h : lookupEntries k l = none) : setEntries k v l = l ++ [(k, v)] := by
  induction l with
  | nil => rfl
  | cons e rest ih =>
    by_cases he : e.1 = k
    · simp [lookupEntries, he] at h
    · simp only [lookupEntries, he, if_false] at h
      simp [setEntries, he, ih h]

theorem nodup_setEntries (h : (l.map Prod.fst).Nodup) :
    ((setEntries k v l).map Prod.fst).Nodup := by
  cases hl : lookupEntries k l with
  | some w => rwa [map_fst_setEntries_of_some hl]
  | none =>
    rw [setEntries_of_none hl, List.map_append, List.map_singleton, List.nodup_append]
    refine ⟨h, List.nodup_singleton _, ?_⟩
    intro a ha b hb hab
    rw [List.mem_singleton.mp hb] at hab
    rw [hab, mem_keys_iff, hl] at ha
    simp at ha

theorem lookupEntries_eq_some_iff (h : (l.map Prod.fst).Nodup) :
    lookupEntries k l = some v ↔ (k, v) ∈ l := by
  induction l with
  | nil => simp [lookupEntries]
  | cons e rest ih =>
    obtain ⟨k', v'⟩ := e
    rw [List.map_cons, List.nodup_cons] at h
    by_cases he : k' = k
    · subst he
      have hnot : (k', v) ∉ rest := fun hm => h.1 (List.mem_map.mpr ⟨(k', v), hm, rfl⟩)
      simp only [lookupEntries, if_true, Option.some.injEq, List.mem_cons, Prod.mk.injEq,
        true_and, hnot, or_false]
      exact eq_comm
    · simp only [lookupEntries, he, if_false, ih h.2, List.mem_cons, Prod.mk.injEq]
      exact ⟨Or.inr, fun hm => hm.resolve_left (fun hm' => he hm'.1.symm)⟩

theorem setEntries_of_some (hn : (l.map Prod.fst).Nodup) (h : lookupEntries k l = some w) :
    setEntries k v l = l.map (fun e => if e.1 = k then (k, v) else e) := by
  induction l with
  | nil => simp [lookupEntries] at h
  | cons e rest ih =>
    rw [List.map_cons, List.nodup_cons] at hn
    by_cases he : e.1 = k
    · have hrest : rest.map (fun e => if e.1 = k then (k, v) else e) = rest := by
        refine (List.map_congr_left ?_).trans (List.map_id rest)
        intro e' he'
        have hne : e'.1 ≠ k := fun hk => hn.1 (he ▸ hk ▸ List.mem_map_of_mem he')
        simp [hne]
      simp [setEntries, he, hrest]
    · simp only [lookupEntries, he, if_false] at h
      simp [setEntries, he, ih hn.2 h]

theorem lookupEntries_append (k : K) (l l' : List (K × V)) :
    lookupEntries k (l ++ l') = (lookupEntries k l).or (lookupEntries k l') := by
  induction l with
  | nil => rfl
  | cons e l ih =>
    rw [List.cons_append, lookupEntries, lookupEntries]
    split
    · rfl
    · exact ih

theorem lookupEntries_filter (p : K → Bool) (k : K) (l : List (K × V)) :
    lookupEntries k (l.filter (fun e => p e.1)) = if p k then lookupEntries k l else none := by
  induction l with
  | nil => simp [lookupEntries]
  | cons e rest ih =>
    by_cases he : e.1 = k
    · by_cases hp : p k <;> simp [lookupEntries, he, hp, ih]
    · by_cases hp : p e.1 <;> simp [lookupEntries, he, hp, ih]

/-- A dictionary: entries with distinct keys, oldest first. -/
structure Dict (K V : Type*) where
  entries : List (K × V)
  nodup : (entries.map Prod.fst).Nodup

namespace Dict

variable {d d' : Dict K V} {f : V → K}

omit [DecidableEq K] in
@[ext] theorem ext (h : d.entries = d'.entries) : d = d' := by
  cases d; cases d'; cases h; rfl

instance [DecidableEq V] : DecidableEq (Dict K V) := fun d d' =>
  decidable_of_iff (d.entries = d'.entries) ⟨Dict.ext, fun h => h ▸ rfl⟩

def empty : Dict K V := ⟨[], List.nodup_nil⟩

instance : Inhabited (Dict K V) := ⟨empty⟩

def get? (d : Dict K V) (k : K) : Option V := lookupEntries k d.entries

def set (d : Dict K V) (k : K) (v : V) : Dict K V :=
  ⟨setEntries k v d.entries, nodup_setEntries d.nodup⟩

def keys (d : Dict K V) : List K := d.entries.map Prod.fst

def values (d : Dict K V) : List V := d.entries.map Prod.snd

def update (d : Dict K V) (l : List (K × V)) : Dict K V := l.foldl (fun d e => d.set e.1 e.2) d

def ofList (l : List (K × V)) : Dict K V := empty.update l

@[simp] theorem get?_empty (k : K) : (empty : Dict K V).get? k = none := rfl

theorem get?_set (d : Dict K V) (k k' : K) (v : V) :
    (d.set k v).get? k' = if k = k' then some v else d.get? k' :=
  lookupEntries_setEntries k k' v d.entries

@[simp] theorem get?_set_self (d : Dict K V) (k : K) (v : V) : (d.set k v).get? k = some v := by
  simp [get?_set]

theorem get?_set_ne (d : Dict K V) {k' : K} (v : V) (h : k ≠ k') :
    (d.set k v).get? k' = d.get? k' := by
  simp [get?_set, h]

theorem get?_eq_some_iff : d.get? k = some v ↔ (k, v) ∈ d.entries :=
  lookupEntries_eq_some_iff d.nodup

theorem mem_keys : k ∈ d.keys ↔ (d.get? k).isSome := mem_keys_iff

theorem mem_values : v ∈ d.values ↔ ∃ k, d.get? k = some v := by
  simp only [values, List.mem_map, get?_eq_some_iff, Prod.exists, exists_eq_right]

theorem values_eq_map_keys (d : Dict K V) (v : V) :
    d.values = d.keys.map (fun k => (d.get? k).getD v) := by
  rw [values, keys, List.map_map]
  refine List.map_congr_left ?_
  rintro ⟨k, w⟩ he
  have hget : d.get? k = some w := get?_eq_some_iff.mpr he
  rw [Function.comp_apply, hget]
  rfl

theorem map_values_of_keyed (h : ∀ k v, d.get? k = some v → f v = k) : d.values.map f = d.keys := by
  rw [values, keys, List.map_map]
  refine List.map_congr_left ?_
  intro e he
  exact h e.1 e.2 (get?_eq_some_iff.mpr he)

theorem nodup_map_values (h : ∀ k v, d.get? k = some v → f v = k) : (d.values.map f).Nodup := by
  rw [map_values_of_keyed h]
  exact d.nodup

theorem entries_set_of_none (h : d.get? k = none) : (d.set k v).entries = d.entries ++ [(k, v)] :=
  setEntries_of_none h

theorem entries_set_of_some (h : d.get? k = some w) :
    (d.set k v).entries = d.entries.map (fun e => if e.1 = k then (k, v) else e) :=
  setEntries_of_some d.nodup h

theorem set_eq_self (h : d.get? k = some v) : d.set k v = d := by
  apply ext
  rw [entries_set_of_some h]
  conv_rhs => rw [← List.map_id d.entries]
  refine List.map_congr_left ?_
  intro e he
  split
  · next hk =>
    have hv : d.get? e.1 = some e.2 := get?_eq_some_iff.mpr he
    rw [hk, h] at hv
    rw [Option.some.inj hv, ← hk]
    rfl
  · rfl

theorem values_set_of_none (h : d.get? k = none) : (d.set k v).values = d.values ++ [v] := by
  simp [values, entries_set_of_none h]

theorem keys_set_of_some (h : d.get? k = some w) : (d.set k v).keys = d.keys :=
  map_fst_setEntries_of_some h

theorem map_values_set {f : V → W} (h : d.get? k = some w) (hf : f v = f w) :
    (d.set k v).values.map f = d.values.map f := by
  have hl : ∀ l : List (K × V), lookupEntries k l = some w →
      (setEntries k v l).map (fun e => f e.2) = l.map (fun e => f e.2) := by
    intro l
    induction l with
    | nil => intro h; simp [lookupEntries] at h
    | cons e rest ih =>
      intro h
      by_cases he : e.1 = k
      · simp only [lookupEntries, he, if_true, Option.some.injEq] at h
        simp [setEntries, he, hf, h]
      · simp only [lookupEntries, he, if_false] at h
        simp [setEntries, he, ih h]
  have := hl d.entries h
  simpa [values, set, Function.comp_def] using this

theorem filter_values_set {p : V → Bool} (h : d.get? k = some w) (hv : p v = false)
    (hw : p w = false) : (d.set k v).values.filter p = d.values.filter p := by
  rw [values, values, entries_set_of_some h, List.map_map, List.filter_map, List.filter_map]
  have hsame : ∀ e ∈ d.entries,
    p ((Prod.snd ∘ fun e => if e.1 = k then (k, v) else e) e) = p e.2 := by
    intro e he
    rw [Function.comp_apply]
    split
    · next hk =>
      have hvalue := get?_eq_some_iff.mpr he
      rw [hk, h] at hvalue
      rw [← Option.some.inj hvalue, hv, hw]
    · rfl
  have hfilter : d.entries.filter (p ∘ Prod.snd ∘ fun e => if e.1 = k then (k, v) else e) =
      d.entries.filter (p ∘ Prod.snd) := List.filter_congr hsame
  rw [hfilter]
  refine List.map_congr_left fun e he => ?_
  rw [Function.comp_apply]
  split
  · next hk =>
    obtain ⟨hmem, hp⟩ := List.mem_filter.mp he
    have hvalue := get?_eq_some_iff.mpr hmem
    rw [hk, h] at hvalue
    rw [Function.comp_apply, ← Option.some.inj hvalue, hw] at hp
    cases hp
  · rfl

theorem mem_values_set (h : w ∈ (d.set k v).values) : w = v ∨ w ∈ d.values := by
  obtain ⟨k', hk'⟩ := mem_values.mp h
  rw [get?_set] at hk'
  split at hk'
  · exact Or.inl (Option.some.inj hk').symm
  · exact Or.inr (mem_values.mpr ⟨k', hk'⟩)

theorem entries_update :
    ∀ d : Dict K V, ((d.entries ++ l).map Prod.fst).Nodup →
      (d.update l).entries = d.entries ++ l := by
  induction l with
  | nil => intro d _; simp [update]
  | cons e l ih =>
    intro d h
    have hnone : d.get? e.1 = none := by
      cases hg : d.get? e.1 with
      | none => rfl
      | some v =>
        rw [List.map_append, List.nodup_append] at h
        exact absurd rfl (h.2.2 e.1 (mem_keys.mpr (by rw [hg]; rfl)) e.1 (by simp))
    have hset := entries_set_of_none (v := e.2) hnone
    have hrest := ih (d.set e.1 e.2) (by rw [hset]; simpa using h)
    rw [update] at hrest
    rw [update, List.foldl_cons, hrest, hset]
    simp

/-- Change every value, at its place. -/
def map (f : V → W) (d : Dict K V) : Dict K W where
  entries := d.entries.map (fun e => (e.1, f e.2))
  nodup := by
    rw [List.map_map]
    exact d.nodup

theorem get?_map (f : V → W) (d : Dict K V) (k : K) : (d.map f).get? k = (d.get? k).map f := by
  have h : ∀ l : List (K × V),
      lookupEntries k (l.map (fun e => (e.1, f e.2))) = (lookupEntries k l).map f := by
    intro l
    induction l with
    | nil => rfl
    | cons e l ih => by_cases h : e.1 = k <;> simp [lookupEntries, h, ih]
  exact h d.entries

omit [DecidableEq K] in
theorem values_map (f : V → W) (d : Dict K V) : (d.map f).values = d.values.map f := by
  simp [values, map]

theorem map_set (f : V → W) (d : Dict K V) (k : K) (v : V) :
    (d.set k v).map f = (d.map f).set k (f v) := by
  have h : ∀ l : List (K × V),
      (setEntries k v l).map (fun e => (e.1, f e.2)) =
        setEntries k (f v) (l.map (fun e => (e.1, f e.2))) := by
    intro l
    induction l with
    | nil => rfl
    | cons e l ih => by_cases h : e.1 = k <;> simp [setEntries, h, ih]
  exact Dict.ext (h d.entries)

theorem entries_ofList (h : (l.map Prod.fst).Nodup) : (ofList l).entries = l :=
  entries_update empty h

theorem get?_ofList (h : (l.map Prod.fst).Nodup) : (ofList l).get? k = some v ↔ (k, v) ∈ l := by
  rw [get?_eq_some_iff, entries_ofList h]

theorem get?_ofList_map {α : Type*} {key : α → K} {l : List α} (h : (l.map key).Nodup) {a : α}
    (ha : a ∈ l) : (ofList (l.map (fun a => (key a, a)))).get? (key a) = some a := by
  refine (get?_ofList ?_).mpr (List.mem_map.mpr ⟨a, ha, rfl⟩)
  simpa [Function.comp_def] using h

theorem get?_ofList_map_eq_none {α : Type*} {key : α → K} {l : List α} (h : (l.map key).Nodup)
    (hk : ∀ a ∈ l, key a ≠ k) : (ofList (l.map (fun a => (key a, a)))).get? k = none := by
  cases hg : (ofList (l.map (fun a => (key a, a)))).get? k with
  | none => rfl
  | some a =>
    rw [get?_ofList (by simpa [Function.comp_def] using h)] at hg
    obtain ⟨b, hb, hbk⟩ := List.mem_map.mp hg
    exact absurd (congrArg Prod.fst hbk) (hk b hb)

@[simp] theorem ofList_entries (d : Dict K V) : ofList d.entries = d :=
  Dict.ext (entries_update empty d.nodup)

theorem get?_update (l : List (K × V)) : ∀ (d : Dict K V) (k : K),
    (d.update l).get? k = ((ofList l).get? k).or (d.get? k) := by
  induction l with
  | nil => intro d k; rfl
  | cons e l ih =>
    intro d k
    have hd : d.update (e :: l) = (d.set e.1 e.2).update l := rfl
    have hl : ofList (e :: l) = (empty.set e.1 e.2).update l := rfl
    rw [hd, hl, ih, ih, get?_set, get?_set]
    cases (ofList l).get? k with
    | some v => rfl
    | none => split <;> rfl

theorem get?_update_cases : ∀ {l : List (K × V)} (d : Dict K V),
    ((∀ w, (k, w) ∉ l) ∧ (d.update l).get? k = d.get? k) ∨
      ∃ w, (k, w) ∈ l ∧ (d.update l).get? k = some w := by
  intro l
  induction l with
  | nil => exact fun d => .inl ⟨fun _ => List.not_mem_nil, rfl⟩
  | cons e l ih =>
    intro d
    have hd : d.update (e :: l) = (d.set e.1 e.2).update l := rfl
    rw [hd]
    rcases ih (d.set e.1 e.2) with ⟨hno, heq⟩ | ⟨w, hw, heq⟩
    · by_cases hk : e.1 = k
      · subst hk
        exact .inr ⟨e.2, List.mem_cons_self, heq.trans (get?_set_self _ _ _)⟩
      · refine .inl ⟨fun w hw => ?_, heq.trans (get?_set_ne _ _ hk)⟩
        rcases List.mem_cons.mp hw with rfl | hw
        · exact hk rfl
        · exact hno w hw
    · exact .inr ⟨w, List.mem_cons_of_mem _ hw, heq⟩

theorem get?_ofList_keyed {l : List V} (h : (ofList (l.map fun v => (f v, v))).get? k = some v) :
    v ∈ l ∧ f v = k := by
  rcases @get?_update_cases _ _ _ k (l.map fun v => (f v, v)) empty with ⟨-, heq⟩ | ⟨w, hw, heq⟩
  · rw [ofList, heq] at h
    exact nomatch h
  · rw [ofList, heq] at h
    obtain ⟨u, hu, hpair⟩ := List.mem_map.mp hw
    obtain ⟨hk, rfl⟩ := Prod.mk.inj hpair
    rw [← Option.some.inj h]
    exact ⟨hu, hk⟩

theorem get?_ofList_of_unique {l : List V} (hv : v ∈ l) (hunique : ∀ w ∈ l, f w = f v → w = v) :
    (ofList (l.map fun v => (f v, v))).get? (f v) = some v := by
  rcases @get?_update_cases _ _ _ (f v) (l.map fun v => (f v, v)) empty with
    ⟨hno, -⟩ | ⟨w, hw, heq⟩
  · exact absurd (List.mem_map.mpr ⟨v, hv, rfl⟩) (hno v)
  · obtain ⟨u, hu, hpair⟩ := List.mem_map.mp hw
    obtain ⟨hk, rfl⟩ := Prod.mk.inj hpair
    rw [ofList, heq, hunique u hu hk]

theorem get?_ofList_append (l l' : List (K × V)) (k : K) :
    (ofList (l ++ l')).get? k = ((ofList l').get? k).or ((ofList l).get? k) := by
  have h : ofList (l ++ l') = (ofList l).update l' := by
    rw [ofList, update, List.foldl_append]
    rfl
  rw [h, get?_update]

theorem ext_get? (hkeys : d.keys = d'.keys) (h : ∀ k, d.get? k = d'.get? k) : d = d' := by
  have himage : ∀ d : Dict K V,
      d.entries.map (fun e => (e.1, some e.2)) = d.keys.map (fun k => (k, d.get? k)) := by
    intro d
    rw [keys, List.map_map]
    refine List.map_congr_left fun e he => ?_
    exact Prod.ext rfl (get?_eq_some_iff.mpr he).symm
  have hinj : Function.Injective (fun e : K × V => (e.1, some e.2)) := by
    rintro ⟨k, v⟩ ⟨k', v'⟩ he
    simpa using he
  refine ext (hinj.list_map ?_)
  show d.entries.map _ = d'.entries.map _
  rw [himage, himage, hkeys]
  exact List.map_congr_left fun k _ => Prod.ext rfl (h k)

theorem keys_set_congr (v v' : V) (hkeys : d.keys = d'.keys) :
    (d.set k v).keys = (d'.set k v').keys := by
  have hsome : (d.get? k).isSome = (d'.get? k).isSome := by
    rw [Bool.eq_iff_iff, ← mem_keys, ← mem_keys, hkeys]
  cases hget : d.get? k with
  | none =>
    rw [hget, Option.isSome_none] at hsome
    have hget' := Option.isSome_eq_false_iff.mp hsome.symm
    rw [Option.isNone_iff_eq_none] at hget'
    rw [keys, keys, entries_set_of_none hget, entries_set_of_none hget', List.map_append,
      List.map_append]
    exact congrArg (· ++ [k]) hkeys
  | some w =>
    rw [hget, Option.isSome_some] at hsome
    obtain ⟨w', hget'⟩ := Option.isSome_iff_exists.mp hsome.symm
    rw [keys_set_of_some hget, keys_set_of_some hget', hkeys]

theorem update_congr : ∀ {l : List (K × V)} {d d' : Dict K V}, k ∈ l.map Prod.fst →
    d.keys = d'.keys → (∀ k' ≠ k, d.get? k' = d'.get? k') → d.update l = d'.update l := by
  intro l
  induction l with
  | nil => intro d d' hk; cases hk
  | cons e l ih =>
    intro d d' hk hkeys hget
    show (d.set e.1 e.2).update l = (d'.set e.1 e.2).update l
    have hkeys' := keys_set_congr e.2 e.2 hkeys (k := e.1)
    have hget' : ∀ k' ≠ k, (d.set e.1 e.2).get? k' = (d'.set e.1 e.2).get? k' := by
      intro k' hne
      rw [get?_set, get?_set, hget k' hne]
    by_cases he : e.1 = k
    · rw [ext_get? hkeys' fun k' => ?_]
      by_cases hne : k' = k
      · rw [hne, ← he, get?_set_self, get?_set_self]
      · exact hget' k' hne
    · refine ih ?_ hkeys' hget'
      rw [List.map_cons, List.mem_cons] at hk
      exact hk.resolve_left (Ne.symm he)

theorem ofList_congr {l' : List (K × V)} (v v' : V) (hk : k ∈ l'.map Prod.fst) :
    ofList (l ++ (k, v) :: l') = ofList (l ++ (k, v') :: l') := by
  have happend : ∀ v, ofList (l ++ (k, v) :: l') = ((ofList l).set k v).update l' := by
    intro v
    rw [ofList, update, List.foldl_append]
    rfl
  rw [happend, happend]
  refine update_congr hk (keys_set_congr v v' rfl) fun k' hne => ?_
  rw [get?_set_ne _ _ (Ne.symm hne), get?_set_ne _ _ (Ne.symm hne)]

theorem filter_setEntries (p : K → Bool) (k : K) (v : V) (l : List (K × V)) :
    (setEntries k v l).filter (fun e => p e.1) =
      if p k then setEntries k v (l.filter (fun e => p e.1)) else l.filter (fun e => p e.1) := by
  induction l with
  | nil => by_cases h : p k = true <;> simp [setEntries, h]
  | cons e l ih =>
    by_cases he : e.1 = k
    · subst he
      by_cases hp : p e.1 = true <;> simp [setEntries, hp]
    · rw [setEntries, if_neg he, List.filter_cons, ih, List.filter_cons]
      by_cases hp : p e.1 = true
      · by_cases hk : p k = true <;> simp [setEntries, hp, hk, he]
      · by_cases hk : p k = true <;> simp [hp, hk]

theorem filter_entries_update (p : K → Bool) (l : List (K × V)) : ∀ {d d' : Dict K V},
    d.entries.filter (fun e => p e.1) = d'.entries.filter (fun e => p e.1) →
    (d.update l).entries.filter (fun e => p e.1) =
      (d'.update l).entries.filter (fun e => p e.1) := by
  induction l with
  | nil => intro d d' h; exact h
  | cons e l ih =>
    intro d d' h
    have hset : (d.set e.1 e.2).entries.filter (fun e => p e.1) =
        (d'.set e.1 e.2).entries.filter (fun e => p e.1) := by
      show (setEntries e.1 e.2 d.entries).filter _ = (setEntries e.1 e.2 d'.entries).filter _
      rw [filter_setEntries, filter_setEntries, h]
    exact ih hset

end Dict

end Lib

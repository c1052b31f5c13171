import Taskweavn.Lib.Dict
import Taskweavn.Lib.Sort
import Mathlib.Algebra.Order.Ring.Rat
import Mathlib.Data.String.Basic

/-!
# Python values in open dictionaries

Metadata dictionaries hold values of type `Any`.  `PyValue` is the part of them
that JSON can write: `None`, booleans, integers, finite floats, strings, lists,
tuples and dictionaries with string keys, given by their items in the order in
which they were inserted.

JSON has no tuples.  `jsonDoc` is what a value becomes when it is written as
JSON and read again, every tuple a list, and `JsonStable` says that this changes
nothing.  `pyEq` is `==`, which tells lists from tuples but not `True` from `1`.
-/

namespace Py

open Lib

inductive PyValue
  | none
  | bool (b : Bool)
  | int (n : ℤ)
  | float (x : ℚ)
  | str (s : String)
  | list (xs : List PyValue)
  | tuple (xs : List PyValue)
  | dict (items : List (String × PyValue))

namespace PyValue

/-! ### Decidable equality -/

mutual

def same : PyValue → PyValue → Bool
  | .none, .none => true
  | .bool a, .bool b => a == b
  | .int a, .int b => decide (a = b)
  | .float a, .float b => decide (a = b)
  | .str a, .str b => a == b
  | .list xs, .list ys => sameList xs ys
  | .tuple xs, .tuple ys => sameList xs ys
  | .dict xs, .dict ys => sameItems xs ys
  | _, _ => false

def sameList : List PyValue → List PyValue → Bool
  | [], [] => true
  | x :: xs, y :: ys => same x y && sameList xs ys
  | _, _ => false

def sameItems : List (String × PyValue) → List (String × PyValue) → Bool
  | [], [] => true
  | (k, x) :: xs, (k', y) :: ys => k == k' && same x y && sameItems xs ys
  | _, _ => false

end

mutual

theorem same_iff : ∀ a b : PyValue, same a b = true ↔ a = b
  | .none, b => by cases b <;> simp [same]
  | .bool _, b => by cases b <;> simp [same]
  | .int _, b => by cases b <;> simp [same]
  | .float _, b => by cases b <;> simp [same]
  | .str _, b => by cases b <;> simp [same]
  | .list xs, b => by cases b <;> simp [same, sameList_iff xs]
  | .tuple xs, b => by cases b <;> simp [same, sameList_iff xs]
  | .dict xs, b => by cases b <;> simp [same, sameItems_iff xs]

theorem sameList_iff : ∀ xs ys : List PyValue, sameList xs ys = true ↔ xs = ys
  | [], ys => by cases ys <;> simp [sameList]
  | x :: xs, ys => by cases ys <;> simp [sameList, same_iff x, sameList_iff xs]

theorem sameItems_iff : ∀ xs ys : List (String × PyValue), sameItems xs ys = true ↔ xs = ys
  | [], ys => by cases ys <;> simp [sameItems]
  | (k, x) :: xs, ys => by
    cases ys with
    | nil => simp [sameItems]
    | cons y ys =>
      obtain ⟨k', y⟩ := y
      simp [sameItems, same_iff x, sameItems_iff xs, and_assoc]

end

instance : DecidableEq PyValue := fun a b => decidable_of_iff _ (same_iff a b)

/-- `bool(value)` -/
def truthy : PyValue → Bool
  | .none => false
  | .bool b => b
  | .int n => decide (n ≠ 0)
  | .float x => decide (x ≠ 0)
  | .str s => decide (s ≠ "")
  | .list xs => !xs.isEmpty
  | .tuple xs => !xs.isEmpty
  | .dict items => !items.isEmpty

/-! ### Python equality

Dictionaries are compared without regard to the order of their items. -/

/-- The value of a number; `True` and `False` count as `1` and `0`. -/
def num : PyValue → Option ℚ
  | .bool b => some (if b then 1 else 0)
  | .int n => some n
  | .float x => some x
  | _ => Option.none

mutual

def pyEq : PyValue → PyValue → Bool
  | .none, .none => true
  | .str a, .str b => a == b
  | .list xs, .list ys => pyEqList xs ys
  | .tuple xs, .tuple ys => pyEqList xs ys
  | .dict xs, .dict ys => pyEqItems xs ys
  | a, b => match num a, num b with
    | some x, some y => decide (x = y)
    | _, _ => false

def pyEqList : List PyValue → List PyValue → Bool
  | [], [] => true
  | x :: xs, y :: ys => pyEq x y && pyEqList xs ys
  | _, _ => false

def pyEqItems : List (String × PyValue) → List (String × PyValue) → Bool
  | [], ys => ys.isEmpty
  | (k, x) :: xs, ys => match lookupEntries k ys with
    | some y => pyEq x y && pyEqItems xs (ys.eraseP (fun e => e.1 == k))
    | Option.none => false

end

/-! ### Through JSON and back -/

mutual

/-- A value after it was written as JSON and read again. -/
def jsonDoc : PyValue → PyValue
  | .list xs => .list (jsonDocs xs)
  | .tuple xs => .list (jsonDocs xs)
  | .dict items => .dict (jsonItems items)
  | v => v

def jsonDocs : List PyValue → List PyValue
  | [] => []
  | x :: xs => jsonDoc x :: jsonDocs xs

def jsonItems : List (String × PyValue) → List (String × PyValue)
  | [] => []
  | (k, x) :: xs => (k, jsonDoc x) :: jsonItems xs

end

mutual

/-- A value as `json.dumps` writes it with `sort_keys`. -/
def sortedDoc : PyValue → PyValue
  | .list xs => .list (sortedDocs xs)
  | .tuple xs => .list (sortedDocs xs)
  | .dict items => .dict (sortOn Prod.fst (sortedItems items))
  | v => v

def sortedDocs : List PyValue → List PyValue
  | [] => []
  | x :: xs => sortedDoc x :: sortedDocs xs

def sortedItems : List (String × PyValue) → List (String × PyValue)
  | [] => []
  | (k, x) :: xs => (k, sortedDoc x) :: sortedItems xs

end

/-- A dictionary as `json.dumps` writes it with `sort_keys`. -/
def sortedDict (d : Dict String PyValue) : Dict String PyValue :=
  Dict.ofList (sortOn Prod.fst (sortedItems d.entries))

theorem sortedItems_eq_map (items : List (String × PyValue)) :
    sortedItems items = items.map fun e => (e.1, e.2.sortedDoc) := by
  induction items with
  | nil => rfl
  | cons e items ih => exact congrArg ((e.1, e.2.sortedDoc) :: ·) ih

theorem get?_sortedDict (d : Dict String PyValue) (k : String) :
    (sortedDict d).get? k = (d.get? k).map sortedDoc := by
  have hperm := sortOn_perm Prod.fst (sortedItems d.entries)
  have hkeys : (sortedItems d.entries).map Prod.fst = d.entries.map Prod.fst := by
    rw [sortedItems_eq_map, List.map_map]
    rfl
  have hnodup : ((sortOn Prod.fst (sortedItems d.entries)).map Prod.fst).Nodup := by
    rw [(hperm.map Prod.fst).nodup_iff, hkeys]
    exact d.nodup
  refine Option.ext fun v => ?_
  rw [sortedDict, Dict.get?_ofList hnodup, hperm.mem_iff, sortedItems_eq_map, List.mem_map,
    Option.map_eq_some_iff]
  constructor
  · rintro ⟨⟨k', v'⟩, he, heq⟩
    obtain ⟨rfl, rfl⟩ := Prod.mk.inj heq
    exact ⟨v', Dict.get?_eq_some_iff.mpr he, rfl⟩
  · rintro ⟨v', hget, rfl⟩
    exact ⟨(k, v'), Dict.get?_eq_some_iff.mp hget, rfl⟩

theorem truthy_sortedDoc (v : PyValue) : v.sortedDoc.truthy = v.truthy := by
  cases v with
  | list xs => cases xs <;> rfl
  | tuple xs => cases xs <;> rfl
  | dict items =>
    have hlen : (sortOn Prod.fst (sortedItems items)).length = items.length := by
      rw [(sortOn_perm Prod.fst _).length_eq, sortedItems_eq_map, List.length_map]
    cases items with
    | nil => rfl
    | cons e items =>
      rw [sortedDoc, truthy, truthy]
      cases hsort : sortOn Prod.fst (sortedItems (e :: items)) with
      | nil =>
        rw [hsort] at hlen
        cases hlen
      | cons e' rest => rfl
  | _ => rw [sortedDoc] <;> intros <;> contradiction

theorem sortedDoc_eq_str_iff {v : PyValue} {s : String} : v.sortedDoc = .str s ↔ v = .str s := by
  cases v <;> simp [sortedDoc]

/-- Writing the value as JSON and reading it again gives the value. -/
def JsonStable (v : PyValue) : Prop := jsonDoc v = v

instance (v : PyValue) : Decidable (JsonStable v) := inferInstanceAs (Decidable (_ = _))

mutual

theorem jsonDoc_jsonDoc : ∀ v : PyValue, jsonDoc (jsonDoc v) = jsonDoc v
  | .none | .bool _ | .int _ | .float _ | .str _ => by simp [jsonDoc]
  | .list xs => by simp [jsonDoc, jsonDocs_jsonDocs xs]
  | .tuple xs => by simp [jsonDoc, jsonDocs_jsonDocs xs]
  | .dict items => by simp [jsonDoc, jsonItems_jsonItems items]

theorem jsonDocs_jsonDocs : ∀ xs : List PyValue, jsonDocs (jsonDocs xs) = jsonDocs xs
  | [] => by simp [jsonDocs]
  | x :: xs => by simp [jsonDocs, jsonDoc_jsonDoc x, jsonDocs_jsonDocs xs]

theorem jsonItems_jsonItems :
    ∀ xs : List (String × PyValue), jsonItems (jsonItems xs) = jsonItems xs
  | [] => by simp [jsonItems]
  | (k, x) :: xs => by simp [jsonItems, jsonDoc_jsonDoc x, jsonItems_jsonItems xs]

end

mutual

theorem pyEq_refl : ∀ v : PyValue, pyEq v v = true
  | .none | .bool _ | .int _ | .float _ | .str _ => by simp [pyEq, num]
  | .list xs => by simp [pyEq, pyEqList_refl xs]
  | .tuple xs => by simp [pyEq, pyEqList_refl xs]
  | .dict items => by simp [pyEq, pyEqItems_refl items]

theorem pyEqList_refl : ∀ xs : List PyValue, pyEqList xs xs = true
  | [] => by simp [pyEqList]
  | x :: xs => by simp [pyEqList, pyEq_refl x, pyEqList_refl xs]

theorem pyEqItems_refl : ∀ xs : List (String × PyValue), pyEqItems xs xs = true
  | [] => by simp [pyEqItems]
  | (k, x) :: xs => by simp [pyEqItems, lookupEntries, pyEq_refl x, pyEqItems_refl xs]

end

mutual

/-- A value equals what JSON makes of it exactly when JSON keeps it: a tuple is
never equal to a list. -/
theorem pyEq_jsonDoc : ∀ v : PyValue, pyEq (jsonDoc v) v = true ↔ jsonDoc v = v
  | .none | .bool _ | .int _ | .float _ | .str _ => by simp [jsonDoc, pyEq, num]
  | .list xs => by simp [jsonDoc, pyEq, pyEqList_jsonDocs xs]
  | .tuple xs => by simp [jsonDoc, pyEq, num]
  | .dict items => by simp [jsonDoc, pyEq, pyEqItems_jsonItems items]

theorem pyEqList_jsonDocs : ∀ xs : List PyValue, pyEqList (jsonDocs xs) xs = true ↔ jsonDocs xs = xs
  | [] => by simp [jsonDocs, pyEqList]
  | x :: xs => by simp [jsonDocs, pyEqList, pyEq_jsonDoc x, pyEqList_jsonDocs xs]

theorem pyEqItems_jsonItems :
    ∀ xs : List (String × PyValue), pyEqItems (jsonItems xs) xs = true ↔ jsonItems xs = xs
  | [] => by simp [jsonItems, pyEqItems]
  | (k, x) :: xs => by
    simp [jsonItems, pyEqItems, lookupEntries, pyEq_jsonDoc x, pyEqItems_jsonItems xs]

end

theorem jsonItems_eq_self {xs : List (String × PyValue)} :
    jsonItems xs = xs ↔ ∀ e ∈ xs, e.2.JsonStable := by
  induction xs with
  | nil => simp [jsonItems]
  | cons e xs ih =>
    obtain ⟨k, x⟩ := e
    simp [jsonItems, ih, JsonStable]

theorem mem_of_mem_eraseP {k : String} {y : PyValue} :
    ∀ {ys : List (String × PyValue)}, lookupEntries k ys = some y →
      ∀ e ∈ ys, e.2 = y ∨ e ∈ ys.eraseP (fun e => e.1 == k) := by
  intro ys
  induction ys with
  | nil => intro h; cases h
  | cons a ys ih =>
    intro h e he
    by_cases ha : a.1 = k
    · rw [lookupEntries, if_pos ha] at h
      rcases List.mem_cons.mp he with rfl | he
      · exact .inl (Option.some.inj h)
      · right
        rw [List.eraseP_cons_of_pos (by simpa using ha)]
        exact he
    · rw [lookupEntries, if_neg ha] at h
      rw [List.eraseP_cons_of_neg (by simpa using ha)]
      rcases List.mem_cons.mp he with rfl | he
      · exact .inr List.mem_cons_self
      · rcases ih h e he with hy | hm
        · exact .inl hy
        · exact .inr (List.mem_cons_of_mem _ hm)

mutual

theorem jsonStable_of_pyEq : ∀ a b : PyValue, pyEq a b = true → JsonStable a → JsonStable b
  | .none, b | .bool _, b | .int _, b | .float _, b | .str _, b => by
    intro h _
    cases b <;> simp [pyEq, num, JsonStable, jsonDoc] at h ⊢
  | .list xs, b => by
    intro h ha
    cases b <;> simp [pyEq, num] at h
    rename_i ys
    have hxs : jsonDocs xs = xs := by simpa [JsonStable, jsonDoc] using ha
    simpa [JsonStable, jsonDoc] using jsonStable_of_pyEqList xs ys h hxs
  | .tuple xs, b => by
    intro _ ha
    simp [JsonStable, jsonDoc] at ha
  | .dict xs, b => by
    intro h ha
    cases b <;> simp [pyEq, num] at h
    rename_i ys
    have hxs : jsonItems xs = xs := by simpa [JsonStable, jsonDoc] using ha
    simpa [JsonStable, jsonDoc] using jsonStable_of_pyEqItems xs ys h hxs

theorem jsonStable_of_pyEqList : ∀ xs ys : List PyValue, pyEqList xs ys = true →
    jsonDocs xs = xs → jsonDocs ys = ys
  | [], ys => by
    intro h _
    cases ys <;> simp [pyEqList, jsonDocs] at h ⊢
  | x :: xs, [] => by
    intro h _
    simp [pyEqList] at h
  | x :: xs, y :: ys => by
    intro h hx
    simp only [pyEqList, Bool.and_eq_true] at h
    simp only [jsonDocs, List.cons.injEq] at hx ⊢
    exact ⟨jsonStable_of_pyEq x y h.1 hx.1, jsonStable_of_pyEqList xs ys h.2 hx.2⟩

theorem jsonStable_of_pyEqItems : ∀ xs ys : List (String × PyValue), pyEqItems xs ys = true →
    jsonItems xs = xs → jsonItems ys = ys
  | [], ys => by
    intro h _
    cases ys <;> simp [pyEqItems, jsonItems] at h ⊢
  | (k, x) :: xs, ys => by
    intro h hx
    simp only [pyEqItems] at h
    simp only [jsonItems, List.cons.injEq, Prod.mk.injEq, true_and] at hx
    cases hl : lookupEntries k ys with
    | none => simp [hl] at h
    | some y =>
      simp only [hl, Bool.and_eq_true] at h
      have hy := jsonStable_of_pyEq x y h.1 hx.1
      have hrest := jsonStable_of_pyEqItems xs _ h.2 hx.2
      rw [jsonItems_eq_self] at hrest ⊢
      intro e he
      rcases mem_of_mem_eraseP hl e he with rfl | hm
      · exact hy
      · exact hrest e hm

end

end PyValue

end Py

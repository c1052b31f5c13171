import Taskweavn.Py.Value

/-!
# Documents with sorted keys

What `json.dumps` writes with `sort_keys` and `json.loads` reads back is `sortedDoc`.  A lookup in
the sorted document finds what it finds in the document (`lookupEntries_sortedItems`), and a
document that was sorted once stays as it is (`sortedDoc_sortedDoc`).
-/

namespace Py

open Lib

namespace PyValue

/-! ### Lookups -/

theorem lookupEntries_eq_head? {V : Type*} (k : String) (l : List (String × V)) :
    lookupEntries k l = ((l.filter (fun e => e.1 == k)).head?).map Prod.snd := by
  induction l with
  | nil => rfl
  | cons e l ih =>
    by_cases he : e.1 = k
    · rw [lookupEntries, if_pos he, List.filter_cons_of_pos (by simpa using he), List.head?_cons,
        Option.map_some]
    · rw [lookupEntries, if_neg he, List.filter_cons_of_neg (by simpa using he), ih]

theorem lookupEntries_sortOn {V : Type*} (k : String) (l : List (String × V)) :
    lookupEntries k (sortOn Prod.fst l) = lookupEntries k l := by
  have hsame : sortOn Prod.fst (l.filter (fun e => e.1 == k)) = l.filter (fun e => e.1 == k) := by
    apply sortOn_eq_self
    have hany : (l.filter (fun e => e.1 == k)).Pairwise fun _ _ => True :=
      List.pairwise_of_forall fun _ _ => trivial
    refine hany.imp_of_mem fun ha hb _ => le_of_eq ?_
    have hka := (List.mem_filter.mp ha).2
    have hkb := (List.mem_filter.mp hb).2
    exact (eq_of_beq hka).trans (eq_of_beq hkb).symm
  rw [lookupEntries_eq_head?, lookupEntries_eq_head?, filter_sortOn, hsame]

theorem lookupEntries_map_sortedDoc (k : String) (items : List (String × PyValue)) :
    lookupEntries k (sortedItems items) = (lookupEntries k items).map sortedDoc := by
  induction items with
  | nil => rfl
  | cons e items ih =>
    rw [sortedItems, lookupEntries, lookupEntries]
    split
    · rfl
    · exact ih

/-- **A lookup in the sorted document finds the sorted value.** -/
theorem lookupEntries_sortedItems (k : String) (items : List (String × PyValue)) :
    lookupEntries k (sortOn Prod.fst (sortedItems items)) =
      (lookupEntries k items).map sortedDoc := by
  rw [lookupEntries_sortOn, lookupEntries_map_sortedDoc]

/-! ### Sorting twice -/

theorem sortOn_sortOn {V : Type*} (l : List (String × V)) :
    sortOn Prod.fst (sortOn Prod.fst l) = sortOn Prod.fst l :=
  sortOn_eq_self (sortOn_pairwise Prod.fst l)

theorem sortedItems_sortOn (items : List (String × PyValue)) :
    sortedItems (sortOn Prod.fst items) = sortOn Prod.fst (sortedItems items) := by
  rw [sortedItems_eq_map, sortedItems_eq_map]
  exact map_sortOn fun _ _ _ _ => Iff.rfl

mutual

theorem sortedDoc_sortedDoc : ∀ v : PyValue, sortedDoc (sortedDoc v) = sortedDoc v
  | .list xs => congrArg PyValue.list (sortedDocs_sortedDocs xs)
  | .tuple xs => congrArg PyValue.list (sortedDocs_sortedDocs xs)
  | .dict items => by
    rw [sortedDoc, sortedDoc, sortedItems_sortOn, sortedItems_sortedItems, sortOn_sortOn]
  | .none => rfl
  | .bool _ => rfl
  | .int _ => rfl
  | .float _ => rfl
  | .str _ => rfl

theorem sortedDocs_sortedDocs : ∀ xs : List PyValue, sortedDocs (sortedDocs xs) = sortedDocs xs
  | [] => rfl
  | x :: xs => congrArg₂ List.cons (sortedDoc_sortedDoc x) (sortedDocs_sortedDocs xs)

theorem sortedItems_sortedItems :
    ∀ items : List (String × PyValue), sortedItems (sortedItems items) = sortedItems items
  | [] => rfl
  | (k, x) :: items =>
    congrArg₂ List.cons (congrArg (k, ·) (sortedDoc_sortedDoc x)) (sortedItems_sortedItems items)

end

end PyValue

end Py

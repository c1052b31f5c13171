import Mathlib.Data.List.Nodup
import Mathlib.Tactic.Common

/-!
# Patterns with holes

A pattern is a list of words and holes (`Slot`); a list fits it if it has the words of the pattern
in their places, and then the holes have values.  A table finds the first row whose pattern a list
fits and answers with the key of the row and the values by the names of the holes.

If the key and the holes that have a value tell which row it was (`Legible`), the answer tells
everything: two lists with the same answer are the same (`find_injective`).
-/

namespace Lib

/-- A word of a pattern, or a hole. -/
inductive Slot (α φ : Type)
  | word (a : α)
  | hole (f : φ)
deriving DecidableEq

structure SlotRow (κ α φ : Type) where
  key : κ
  slots : List (Slot α φ)
deriving DecidableEq

namespace Slot

variable {κ α φ : Type} {slots : List (Slot α φ)} {as vs : List α}

def holes : List (Slot α φ) → List φ
  | [] => []
  | word _ :: slots => holes slots
  | hole f :: slots => f :: holes slots

/-- A list that has the words of a pattern. -/
inductive Fits : List (Slot α φ) → List α → Prop
  | nil : Fits [] []
  | word {slots : List (Slot α φ)} {as : List α} (a : α) :
      Fits slots as → Fits (.word a :: slots) (a :: as)
  | hole {slots : List (Slot α φ)} {as : List α} (f : φ) (a : α) :
      Fits slots as → Fits (.hole f :: slots) (a :: as)

section

variable [DecidableEq α]

/-- The values of the holes, if a list fits. -/
def values : List (Slot α φ) → List α → Option (List α)
  | [], [] => some []
  | word w :: slots, a :: as => if a = w then values slots as else none
  | hole _ :: slots, a :: as => (values slots as).map (a :: ·)
  | [], _ :: _ => none
  | _ :: _, [] => none

/-- A pattern with values in its holes. -/
inductive Fills : List (Slot α φ) → List α → List α → Prop
  | nil : Fills [] [] []
  | word {slots : List (Slot α φ)} {vs as : List α} (a : α) :
      Fills slots vs as → Fills (.word a :: slots) vs (a :: as)
  | hole {slots : List (Slot α φ)} {vs as : List α} (f : φ) (a : α) :
      Fills slots vs as → Fills (.hole f :: slots) (a :: vs) (a :: as)

theorem values_eq_some_iff : ∀ {as vs : List α},
    values slots as = some vs ↔ Fills slots vs as := by
  induction slots with
  | nil =>
    intro as vs
    cases as with
    | nil => exact ⟨fun h => (by cases h; exact .nil), fun h => (by cases h; rfl)⟩
    | cons a as => exact ⟨fun h => (by cases h), fun h => (by cases h)⟩
  | cons slot slots ih =>
    intro as vs
    cases as with
    | nil => exact ⟨fun h => (by cases slot <;> cases h), fun h => (by cases h)⟩
    | cons a as =>
      cases slot with
      | word w =>
        rw [values]
        split
        · next h =>
          subst h
          rw [ih]
          exact ⟨.word a, fun h => by cases h; assumption⟩
        · next h => exact ⟨fun h' => (by cases h'), fun h' => (by cases h'; exact absurd rfl h)⟩
      | hole f =>
        rw [values, Option.map_eq_some_iff]
        constructor
        · rintro ⟨vs', hvs', rfl⟩
          exact .hole f a (ih.mp hvs')
        · intro h
          cases h with
          | hole _ _ h => exact ⟨_, ih.mpr h, rfl⟩

end

theorem Fills.fits (h : Fills slots vs as) : Fits slots as := by
  induction h with
  | nil => exact .nil
  | word a _ ih => exact .word a ih
  | hole f a _ ih => exact .hole f a ih

theorem Fits.exists_fills (h : Fits slots as) : ∃ vs, Fills slots vs as := by
  induction h with
  | nil => exact ⟨[], .nil⟩
  | word a _ ih =>
    obtain ⟨vs, hvs⟩ := ih
    exact ⟨vs, .word a hvs⟩
  | hole f a _ ih =>
    obtain ⟨vs, hvs⟩ := ih
    exact ⟨a :: vs, .hole f a hvs⟩

theorem Fills.length_eq (h : Fills slots vs as) : (holes slots).length = vs.length := by
  induction h with
  | nil => rfl
  | word a _ ih => exact ih
  | hole f a _ ih => exact congrArg (· + 1) ih

theorem Fills.mem (h : Fills slots vs as) : ∀ v ∈ vs, v ∈ as := by
  induction h with
  | nil => exact fun _ hv => hv
  | word a _ ih => exact fun v hv => List.mem_cons_of_mem _ (ih v hv)
  | hole f a _ ih =>
    intro v hv
    obtain rfl | hv := List.mem_cons.mp hv
    · exact List.mem_cons_self
    · exact List.mem_cons_of_mem _ (ih v hv)

theorem Fills.unique (h : Fills slots vs as) : ∀ {as' : List α}, Fills slots vs as' → as = as' := by
  induction h with
  | nil => intro as' h'; cases h'; rfl
  | word a _ ih => intro as' h'; cases h' with | word _ h' => rw [ih h']
  | hole f a _ ih => intro as' h'; cases h' with | hole _ _ h' => rw [ih h']

/-! ### Values by name -/

section

variable [DecidableEq φ]

def valueOf (fs : List φ) (vs : List α) (f : φ) : Option α := (fs.zip vs).lookup f

@[simp] theorem valueOf_cons (f g : φ) (fs : List φ) (v : α) (vs : List α) :
    valueOf (f :: fs) (v :: vs) g = if g = f then some v else valueOf fs vs g := by
  rw [valueOf, List.zip_cons_cons, List.lookup_cons]
  by_cases h : g = f
  · rw [beq_iff_eq.mpr h, if_pos h]
  · rw [beq_false_of_ne h, if_neg h]
    rfl

theorem valueOf_cons_self (f : φ) (fs : List φ) (v : α) (vs : List α) :
    valueOf (f :: fs) (v :: vs) f = some v := by
  rw [valueOf_cons, if_pos rfl]

theorem valueOf_cons_of_ne {f g : φ} (h : g ≠ f) (fs : List φ) (v : α) (vs : List α) :
    valueOf (f :: fs) (v :: vs) g = valueOf fs vs g := by
  rw [valueOf_cons, if_neg h]

theorem isSome_valueOf_iff {f : φ} : ∀ {fs : List φ} {vs : List α}, fs.length = vs.length →
    ((valueOf fs vs f).isSome ↔ f ∈ fs) := by
  intro fs
  induction fs with
  | nil => intro vs _; exact ⟨fun h => (by cases h), fun h => (by cases h)⟩
  | cons g fs ih =>
    intro vs hlen
    cases vs with
    | nil => cases hlen
    | cons v vs =>
      by_cases hfg : f = g
      · subst hfg
        rw [valueOf_cons_self]
        exact iff_of_true rfl List.mem_cons_self
      · rw [valueOf_cons_of_ne hfg, ih (Nat.succ.inj hlen), List.mem_cons, or_iff_right hfg]

theorem mem_of_valueOf {f : φ} {v : α} : ∀ {fs : List φ} {vs : List α},
    valueOf fs vs f = some v → v ∈ vs := by
  intro fs
  induction fs with
  | nil => intro vs h; cases h
  | cons g fs ih =>
    intro vs h
    cases vs with
    | nil => cases h
    | cons w vs =>
      by_cases hfg : f = g
      · rw [hfg, valueOf_cons_self] at h
        exact Option.some.inj h ▸ List.mem_cons_self
      · rw [valueOf_cons_of_ne hfg] at h
        exact List.mem_cons_of_mem _ (ih h)

theorem valueOf_injective : ∀ {fs : List φ} {vs vs' : List α}, fs.Nodup → fs.length = vs.length →
    fs.length = vs'.length → valueOf fs vs = valueOf fs vs' → vs = vs' := by
  intro fs
  induction fs with
  | nil =>
    intro vs vs' _ hlen hlen' _
    rw [List.eq_nil_of_length_eq_zero hlen.symm, List.eq_nil_of_length_eq_zero hlen'.symm]
  | cons f fs ih =>
    intro vs vs' hnodup hlen hlen' heq
    cases vs with
    | nil => cases hlen
    | cons v vs =>
      cases vs' with
      | nil => cases hlen'
      | cons v' vs' =>
        obtain ⟨hf, hnodup⟩ := List.nodup_cons.mp hnodup
        have hv := congrFun heq f
        rw [valueOf_cons_self, valueOf_cons_self] at hv
        rw [Option.some.inj hv, ih hnodup (Nat.succ.inj hlen) (Nat.succ.inj hlen')]
        funext g
        by_cases hg : g = f
        · subst hg
          have hnone : ∀ ws : List α, fs.length = ws.length → valueOf fs ws g = none := by
            intro ws hws
            exact Option.not_isSome_iff_eq_none.mp fun h => hf ((isSome_valueOf_iff hws).mp h)
          rw [hnone vs (Nat.succ.inj hlen), hnone vs' (Nat.succ.inj hlen')]
        · have hg' := congrFun heq g
          rwa [valueOf_cons_of_ne hg, valueOf_cons_of_ne hg] at hg'

end

/-! ### Tables -/

section

variable [DecidableEq α] [DecidableEq φ]

/-- What the first row answers whose pattern a list fits. -/
def find : List (SlotRow κ α φ) → List α → Option (κ × (φ → Option α))
  | [], _ => none
  | row :: rows, as =>
    match values row.slots as with
    | some vs => some (row.key, valueOf (holes row.slots) vs)
    | none => find rows as

/-- The key and the holes with a value tell which row it was. -/
structure Legible (rows : List (SlotRow κ α φ)) : Prop where
  nodup : ∀ row ∈ rows, (holes row.slots).Nodup
  distinct : ∀ row ∈ rows, ∀ row' ∈ rows, row.key = row'.key →
    (∀ f ∈ holes row.slots, f ∈ holes row'.slots) → (∀ f ∈ holes row'.slots, f ∈ holes row.slots) →
      row = row'

variable {rows : List (SlotRow κ α φ)} {as : List α}

theorem find_cons (row : SlotRow κ α φ) :
    find (row :: rows) as =
      ((values row.slots as).map fun vs => (row.key, valueOf (holes row.slots) vs)).or
        (find rows as) := by
  rw [find]
  cases values row.slots as <;> rfl

theorem find_append (rows' : List (SlotRow κ α φ)) :
    find (rows ++ rows') as = (find rows as).or (find rows' as) := by
  induction rows with
  | nil => rfl
  | cons row rows ih => rw [List.cons_append, find_cons, find_cons, ih, Option.or_assoc]

theorem exists_row_of_find {key : κ} {value : φ → Option α} (h : find rows as = some (key, value)) :
    ∃ row ∈ rows, ∃ vs, Fills row.slots vs as ∧ row.key = key ∧
      valueOf (holes row.slots) vs = value := by
  induction rows with
  | nil => cases h
  | cons row rows ih =>
    rw [find_cons, Option.or_eq_some_iff] at h
    obtain h | ⟨-, h⟩ := h
    · obtain ⟨vs, hvs, heq⟩ := Option.map_eq_some_iff.mp h
      obtain ⟨hkey, hvalue⟩ := Prod.mk.inj heq
      exact ⟨row, List.mem_cons_self, vs, values_eq_some_iff.mp hvs, hkey, hvalue⟩
    · obtain ⟨row', hrow', hfind⟩ := ih h
      exact ⟨row', List.mem_cons_of_mem _ hrow', hfind⟩

theorem isSome_find_iff : (find rows as).isSome ↔ ∃ row ∈ rows, Fits row.slots as := by
  induction rows with
  | nil => exact ⟨fun h => (by cases h), fun ⟨_, h, _⟩ => absurd h List.not_mem_nil⟩
  | cons row rows ih =>
    rw [find_cons, Option.isSome_or, Bool.or_eq_true, ih, Option.isSome_map,
      List.exists_mem_cons_iff]
    refine or_congr_left ?_
    rw [Option.isSome_iff_exists]
    exact ⟨fun ⟨vs, hvs⟩ => (values_eq_some_iff.mp hvs).fits, fun h =>
      h.exists_fills.imp fun vs hvs => values_eq_some_iff.mpr hvs⟩

theorem mem_of_find {key : κ} {value : φ → Option α} (h : find rows as = some (key, value)) {f : φ}
    {v : α} (hv : value f = some v) : v ∈ as := by
  obtain ⟨row, -, vs, hfills, -, rfl⟩ := exists_row_of_find h
  exact hfills.mem v (mem_of_valueOf hv)

/-- **The answer of a legible table gives the list back.** -/
theorem Legible.find_injective (hrows : Legible rows) {as' : List α} {key : κ}
    {value : φ → Option α} (h : find rows as = some (key, value))
    (h' : find rows as' = some (key, value)) : as = as' := by
  obtain ⟨row, hrow, vs, hfills, hkey, hvalue⟩ := exists_row_of_find h
  obtain ⟨row', hrow', vs', hfills', hkey', hvalue'⟩ := exists_row_of_find h'
  have hholes : ∀ f, f ∈ holes row.slots ↔ f ∈ holes row'.slots := by
    intro f
    rw [← isSome_valueOf_iff hfills.length_eq, hvalue, ← hvalue',
      isSome_valueOf_iff hfills'.length_eq]
  obtain rfl : row = row' := hrows.distinct row hrow row' hrow' (hkey.trans hkey'.symm)
    (fun f => (hholes f).mp) fun f => (hholes f).mpr
  have hvs : vs = vs' := valueOf_injective (hrows.nodup row hrow) hfills.length_eq
    hfills'.length_eq (hvalue.trans hvalue'.symm)
  subst hvs
  exact hfills.unique hfills'

end

end Slot

end Lib

import Taskweavn.Py.Value
import Taskweavn.Py.DateTime

/-!
# Model fields and their JSON

The program's records are pydantic models: a record is written as a JSON object
and validated field by field when it is read again.  A `Codec` is one kind of
field: how a value is dumped, how a JSON value is loaded, which values pass the
field's check, and what a value looks like after the trip.  Its law ties the four
together, so that a record's round trip is assembled from its fields.

Validation happens on reading only.  A record that was changed by `model_copy`
is dumped whatever it holds, and `Codec.load_dump` says what becomes of it.
-/

namespace Py

open Lib

/-- Why a JSON value is no record: the field that fails, a field that does not
belong, a value that is no object, or a rule of the record as a whole. -/
inductive ValidationError
  | field (name : String)
  | missing (name : String)
  | extra (name : String)
  | notObject
  | rule (message : String)
deriving DecidableEq, Repr

/-- One kind of field. -/
structure Codec (α : Type) where
  dump : α → PyValue
  load : PyValue → Option α
  accepts : α → Bool
  norm : α → α
  load_dump : ∀ a, load (dump a) = if accepts a then some (norm a) else none

namespace Codec

/-- `str = Field(min_length=1)` -/
def text : Codec String where
  dump s := .str s
  load
    | .str s => if s = "" then none else some s
    | _ => none
  accepts s := decide (s ≠ "")
  norm := id
  load_dump s := by by_cases h : s = "" <;> simp [h]

/-- `int = Field(ge=0)` -/
def nat : Codec ℕ where
  dump n := .int n
  load
    | .int n => if 0 ≤ n then some n.toNat else none
    | _ => none
  accepts _ := true
  norm := id
  load_dump n := by simp

def bool : Codec Bool where
  dump b := .bool b
  load
    | .bool b => some b
    | _ => none
  accepts _ := true
  norm := id
  load_dump _ := rfl

def datetime : Codec DateTime where
  dump d := .str d.jsonText
  load
    | .str s => DateTime.parseJson s
    | _ => none
  accepts _ := true
  norm := id
  load_dump d := by simp [DateTime.parseJson_jsonText]

/-- The strings of a JSON array. -/
def loadTexts : List PyValue → Option (List String)
  | [] => some []
  | .str s :: vs => (loadTexts vs).map (s :: ·)
  | _ => none

theorem loadTexts_map_str (l : List String) : loadTexts (l.map PyValue.str) = some l := by
  induction l with
  | nil => rfl
  | cons s l ih => simp [loadTexts, ih]

/-- `tuple[str, ...]` -/
def texts : Codec (List String) where
  dump l := .list (l.map PyValue.str)
  load
    | .list vs => loadTexts vs
    | _ => none
  accepts _ := true
  norm := id
  load_dump l := by simp [loadTexts_map_str]

/-- A `Literal` of strings. -/
def literal {α : Type} (toText : α → String) (ofText : String → Option α)
    (h : ∀ a, ofText (toText a) = some a) : Codec α where
  dump a := .str (toText a)
  load
    | .str s => ofText s
    | _ => none
  accepts _ := true
  norm := id
  load_dump a := by simp [h]

/-- The dictionary after a trip through JSON. -/
def metadataDoc (d : Dict String PyValue) : Dict String PyValue := d.map PyValue.jsonDoc

/-- `dict[str, Any]` -/
def metadata : Codec (Dict String PyValue) where
  dump d := .dict (metadataDoc d).entries
  load
    | .dict items => some (Dict.ofList items)
    | _ => none
  accepts _ := true
  norm := metadataDoc
  load_dump d := by
    simp [Dict.ofList_entries]

theorem metadataDoc_metadataDoc (d : Dict String PyValue) :
    metadataDoc (metadataDoc d) = metadataDoc d := by
  apply Dict.ext
  simp [metadataDoc, Dict.map, PyValue.jsonDoc_jsonDoc]

/-! ### Fields that may be absent -/

/-- A field that may be `None`. -/
def optional {α : Type} (c : Codec α) (hc : ∀ a, c.dump a ≠ .none) : Codec (Option α) where
  dump
    | none => .none
    | some a => c.dump a
  load v := if v = .none then some none else (c.load v).map some
  accepts
    | none => true
    | some a => c.accepts a
  norm := Option.map c.norm
  load_dump o := by
    cases o with
    | none => rfl
    | some a =>
      rw [if_neg (hc a), c.load_dump a]
      split <;> rfl

/-! ### Objects -/

/-- Load the field `name` of an object; a field with a default may be missing. -/
def field {α : Type} (c : Codec α) (items : List (String × PyValue)) (name : String)
    (default : Option α) : Except ValidationError α :=
  match lookupEntries name items with
  | some v =>
    match c.load v with
    | some a => .ok a
    | none => .error (.field name)
  | none =>
    match default with
    | some a => .ok a
    | none => .error (.missing name)

theorem field_dump {α : Type} (c : Codec α) {items : List (String × PyValue)} {name : String}
    {default : Option α} {a : α} (h : lookupEntries name items = some (c.dump a)) :
    c.field items name default =
      if c.accepts a then .ok (c.norm a) else .error (.field name) := by
  simp only [field, h, c.load_dump]
  by_cases ha : c.accepts a <;> simp [ha]

end Codec

theorem bind_eq_ok {ε α β : Type} {x : Except ε α} {f : α → Except ε β} {b : β} :
    x >>= f = .ok b ↔ ∃ a, x = .ok a ∧ f a = .ok b := by
  cases x with
  | error e => exact ⟨nofun, nofun⟩
  | ok a => exact ⟨fun h => ⟨a, rfl, h⟩, fun ⟨_, ha, h⟩ => by cases ha; exact h⟩

theorem mapError_eq_ok {ε ε' α : Type} {f : ε → ε'} {x : Except ε α} {a : α} :
    x.mapError f = .ok a ↔ x = .ok a := by
  cases x <;> simp [Except.mapError]

theorem exists_of_mem_mapM {ε α β : Type} {f : α → Except ε β} : ∀ {l : List α} {l' : List β},
    l.mapM f = .ok l' → ∀ b ∈ l', ∃ a ∈ l, f a = .ok b := by
  intro l
  induction l with
  | nil =>
    intro l' h b hb
    cases h
    cases hb
  | cons a l ih =>
    intro l' h b hb
    rw [List.mapM_cons] at h
    obtain ⟨b', hhead, h⟩ := bind_eq_ok.mp h
    obtain ⟨rest, hrest, h⟩ := bind_eq_ok.mp h
    cases h
    rcases List.mem_cons.mp hb with rfl | hb
    · exact ⟨a, List.mem_cons_self, hhead⟩
    · obtain ⟨a', ha', hf⟩ := ih hrest b hb
      exact ⟨a', List.mem_cons_of_mem a ha', hf⟩

theorem mapM_congr {ε α β : Type} {f g : α → Except ε β} : ∀ {l : List α},
    (∀ a ∈ l, f a = g a) → l.mapM f = l.mapM g := by
  intro l
  induction l with
  | nil =>
    intro _
    rfl
  | cons a l ih =>
    intro h
    rw [List.mapM_cons, List.mapM_cons, h a List.mem_cons_self,
      ih fun b hb => h b (List.mem_cons_of_mem _ hb)]

theorem mapM_eq_ok_iff {ε α β : Type} {f : α → Except ε β} : ∀ {l : List α} {l' : List β},
    l.mapM f = .ok l' ↔ List.Forall₂ (fun a b => f a = .ok b) l l' := by
  intro l
  induction l with
  | nil =>
    intro l'
    constructor
    · intro h
      cases h
      exact .nil
    · intro h
      cases h
      rfl
  | cons a l ih =>
    intro l'
    rw [List.mapM_cons, bind_eq_ok]
    constructor
    · rintro ⟨b, hb, h⟩
      obtain ⟨bs, hbs, h⟩ := bind_eq_ok.mp h
      cases h
      exact .cons hb (ih.mp hbs)
    · intro h
      cases h with
      | cons hb hbs => exact ⟨_, hb, bind_eq_ok.mpr ⟨_, ih.mpr hbs, rfl⟩⟩

theorem exists_of_mapM_error {ε α β : Type} {f : α → Except ε β} {e : ε} : ∀ {l : List α},
    l.mapM f = .error e → ∃ a ∈ l, f a = .error e := by
  intro l
  induction l with
  | nil =>
    intro h
    cases h
  | cons a l ih =>
    intro h
    rw [List.mapM_cons] at h
    cases ha : f a with
    | error e' =>
      rw [ha] at h
      cases h
      exact ⟨a, List.mem_cons_self, ha⟩
    | ok b =>
      rw [ha] at h
      cases hl : l.mapM f with
      | error e' =>
        have hrest : l.mapM f = .error e := by
          rw [hl] at h ⊢
          cases h
          rfl
        obtain ⟨a', ha', hf⟩ := ih hrest
        exact ⟨a', List.mem_cons_of_mem a ha', hf⟩
      | ok bs =>
        rw [hl] at h
        cases h

theorem exists_mapM {ε α β : Type} {f : α → Except ε β} {P : α → β → Prop} : ∀ {l : List α},
    (∀ a ∈ l, ∃ b, f a = .ok b ∧ P a b) → ∃ bs, l.mapM f = .ok bs ∧ List.Forall₂ P l bs := by
  intro l
  induction l with
  | nil => exact fun _ => ⟨[], rfl, .nil⟩
  | cons a l ih =>
    intro h
    obtain ⟨b, hb, hP⟩ := h a List.mem_cons_self
    obtain ⟨bs, hbs, hall⟩ := ih fun a' ha' => h a' (List.mem_cons_of_mem a ha')
    exact ⟨b :: bs, mapM_eq_ok_iff.mpr (.cons hb (mapM_eq_ok_iff.mp hbs)), .cons hP hall⟩

theorem mapM_eq_ok_map {ε α β : Type} {f : α → Except ε β} {g : α → β} {l : List α}
    (h : ∀ a ∈ l, f a = .ok (g a)) : l.mapM f = .ok (l.map g) := by
  rw [mapM_eq_ok_iff, List.forall₂_map_right_iff, List.forall₂_same]
  exact h

theorem exists_of_mem_forall₂ {α β : Type} {P : α → β → Prop} {as : List α} {bs : List β}
    (h : List.Forall₂ P as bs) {b : β} (hb : b ∈ bs) : ∃ a ∈ as, P a b := by
  induction h with
  | nil => cases hb
  | cons hP _ ih =>
    rcases List.mem_cons.mp hb with rfl | hb
    · exact ⟨_, List.mem_cons_self, hP⟩
    · obtain ⟨a, ha, hab⟩ := ih hb
      exact ⟨a, List.mem_cons_of_mem _ ha, hab⟩

theorem ite_error_bind {ε α β : Type} {c : Bool} {a : α} {e : ε} {f : α → Except ε β} :
    ((if c then Except.ok a else Except.error e) >>= f) =
      if c then f a else Except.error e := by
  cases c <;> rfl

theorem ite_error_eq_ok {ε α : Type} {c : Bool} {x : Except ε α} {e : ε} {b : α} :
    (if c then x else Except.error e) = Except.ok b ↔ c = true ∧ x = Except.ok b := by
  cases c <;> simp

/-- The first field of an object that is not among the record's own
(`extra="forbid"`). -/
def extraField (names : List String) (items : List (String × PyValue)) : Option String :=
  (items.find? (fun e => !names.contains e.1)).map Prod.fst

/-! ### Columns that may be empty -/

/-- Read a column that may be empty. -/
def readOptional {α β : Type} (read : α → Option β) : Option α → Option (Option β)
  | none => some none
  | some a => (read a).map some

theorem readOptional_map {α β : Type} {read : α → Option β} {write : β → α} {o : Option β}
    (h : ∀ b, o = some b → read (write b) = some b) : readOptional read (o.map write) = some o := by
  cases o with
  | none => rfl
  | some b => simp [readOptional, h b rfl]

end Py

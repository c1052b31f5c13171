import Mathlib.Data.List.Lex
import Mathlib.Order.Fin.Basic
import Taskweavn.Py.Text

/-!
# Strings with surrogates

A `str` is a sequence of code points, and the surrogates among them are no characters.  Such a
`str` is no text: it cannot be encoded, and a model refuses it for a field with a least length.
-/

namespace Py

/-- A `str` by its code points. -/
def PyStr := List (Fin 0x110000)
deriving DecidableEq

namespace PyStr

instance : Append PyStr := inferInstanceAs (Append (List (Fin 0x110000)))

/-- Code point by code point. -/
instance : LinearOrder PyStr := inferInstanceAs (LinearOrder (List (Fin 0x110000)))

def char? (n : Fin 0x110000) : Option Char :=
  if h : n.val.isValidChar then some (Char.ofNatAux n.val h) else none

theorem toNat_lt (c : Char) : c.toNat < 0x110000 := by
  rcases c.valid with h | h
  · exact h.trans (by decide)
  · exact h.2

def ofText (s : String) : PyStr := s.toList.map fun c => ⟨c.toNat, toNat_lt c⟩

/-- The text, if there are no surrogates. -/
def text? (s : PyStr) : Option String := (List.mapM char? s).map String.ofList

theorem text?_ofText (s : String) : (ofText s).text? = some s := by
  have h : ∀ cs : List Char,
      List.mapM char? (cs.map fun c => (⟨c.toNat, toNat_lt c⟩ : Fin 0x110000)) = some cs := by
    intro cs
    induction cs with
    | nil => rfl
    | cons c cs ih =>
      have hc : char? ⟨c.toNat, toNat_lt c⟩ = some c := dif_pos c.valid
      simp [hc, ih]
  rw [text?, ofText, h, Option.map_some, String.ofList_toList]

def space (n : Fin 0x110000) : Bool := (char? n).any isSpace

/-- `str.strip`; a surrogate is no white space. -/
def strip (s : PyStr) : PyStr := (List.dropWhile space s).rdropWhile space

/-- A surrogate. -/
def lone : PyStr := [(⟨0xD800, by decide⟩ : Fin 0x110000)]

end PyStr

end Py

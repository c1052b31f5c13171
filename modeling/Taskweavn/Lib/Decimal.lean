import Mathlib.Data.List.Lex
import Mathlib.Data.Char
import Mathlib.Tactic.Common
import Mathlib.Tactic.Ring

/-!
# Fixed-width decimal text

`pad k n` writes `n` with `k` decimal digits, most significant first.  Two
things make such text a good column to sort by: it can be read back
(`takeNat_pad`), and the lexicographic order of the texts is the order of the
numbers (`pad_lt_pad`).  `append_lt_append_iff` lifts the second fact to texts
that are put together from fields of fixed width.
-/

namespace Lib

/-! ### Lexicographic order of concatenations -/

theorem append_lt_append_iff {α : Type*} [LinearOrder α] {x x' : List α} :
    ∀ {a a' : List α}, a.length = a'.length → (a ++ x < a' ++ x' ↔ a < a' ∨ (a = a' ∧ x < x')) := by
  intro a
  induction a with
  | nil =>
    intro a' h
    rw [List.length_nil] at h
    rw [List.length_eq_zero_iff.mp h.symm]
    simp
  | cons c r ih =>
    intro a' h
    cases a' with
    | nil => simp at h
    | cons c' r' =>
      simp only [List.cons_append, List.cons_lt_cons_iff, ih (by simpa using h), List.cons.injEq]
      tauto

/-! ### Digits -/

/-- `n` in `k` decimal digits. -/
def pad : ℕ → ℕ → List Char
  | 0, _ => []
  | k + 1, n => pad k (n / 10) ++ [Nat.digitChar (n % 10)]

@[simp] theorem length_pad (k n : ℕ) : (pad k n).length = k := by
  induction k generalizing n with
  | zero => rfl
  | succ k ih => simp [pad, ih]

/-- The value of a decimal digit. -/
def digitVal (c : Char) : Option ℕ :=
  if '0' ≤ c ∧ c ≤ '9' then some (c.toNat - '0'.toNat) else none

theorem digitVal_digitChar : ∀ d < 10, digitVal (Nat.digitChar d) = some d := by decide

theorem digitChar_lt_iff : ∀ d < 10, ∀ e < 10, (Nat.digitChar d < Nat.digitChar e ↔ d < e) := by
  decide

/-- Read digits after those that gave `acc`. -/
def readDigits : ℕ → List Char → Option ℕ
  | acc, [] => some acc
  | acc, c :: cs => (digitVal c).bind (fun d => readDigits (acc * 10 + d) cs)

theorem readDigits_append (cs cs' : List Char) (acc : ℕ) :
    readDigits acc (cs ++ cs') = (readDigits acc cs).bind (fun n => readDigits n cs') := by
  induction cs generalizing acc with
  | nil => rfl
  | cons c cs ih =>
    simp only [List.cons_append, readDigits, ih]
    cases digitVal c <;> rfl

theorem readDigits_pad (k n acc : ℕ) (h : n < 10 ^ k) :
    readDigits acc (pad k n) = some (acc * 10 ^ k + n) := by
  induction k generalizing n with
  | zero =>
    rw [pow_zero] at h
    simp [pad, readDigits, Nat.lt_one_iff.mp h]
  | succ k ih =>
    have hd : n / 10 < 10 ^ k := by rw [pow_succ] at h; omega
    rw [pad, readDigits_append, ih _ hd, Option.bind_some, readDigits,
      digitVal_digitChar _ (Nat.mod_lt n (by decide)), Option.bind_some, readDigits]
    congr 1
    rw [pow_succ]
    have := Nat.div_add_mod n 10
    ring_nf at this ⊢
    omega

theorem pad_injective {k n m : ℕ} (hn : n < 10 ^ k) (hm : m < 10 ^ k) (h : pad k n = pad k m) :
    n = m := by
  have := readDigits_pad k n 0 hn
  rw [h, readDigits_pad k m 0 hm] at this
  simpa using this.symm

/-- **Fixed-width decimal text is ordered as the numbers are.** -/
theorem pad_lt_pad (k : ℕ) : ∀ n m : ℕ, n < 10 ^ k → m < 10 ^ k → (pad k n < pad k m ↔ n < m) := by
  induction k with
  | zero => intro n m hn hm; simp [pad]; omega
  | succ k ih =>
    intro n m hn hm
    rw [pow_succ] at hn hm
    have hn' : n / 10 < 10 ^ k := by omega
    have hm' : m / 10 < 10 ^ k := by omega
    have heq : pad k (n / 10) = pad k (m / 10) ↔ n / 10 = m / 10 :=
      ⟨pad_injective hn' hm', fun h => by rw [h]⟩
    have hlast : ([Nat.digitChar (n % 10)] < [Nat.digitChar (m % 10)]) ↔ n % 10 < m % 10 := by
      rw [List.cons_lt_cons_iff,
        digitChar_lt_iff _ (Nat.mod_lt n (by decide)) _ (Nat.mod_lt m (by decide))]
      simp
    rw [pad, pad, append_lt_append_iff (by simp), ih _ _ hn' hm', heq, hlast]
    omega

/-! ### Reading a field -/

/-- Read a field of `k` digits; the rest of the text is left over. -/
def takeNat (k : ℕ) (cs : List Char) : Option (ℕ × List Char) :=
  if k ≤ cs.length then (readDigits 0 (cs.take k)).map (fun n => (n, cs.drop k)) else none

theorem takeNat_pad {k n : ℕ} (h : n < 10 ^ k) (rest : List Char) :
    takeNat k (pad k n ++ rest) = some (n, rest) := by
  rw [takeNat, if_pos (by simp), List.take_left' (length_pad k n), List.drop_left' (length_pad k n),
    readDigits_pad k n 0 h]
  simp

/-- Skip one given character. -/
def takeChar (c : Char) : List Char → Option (List Char)
  | [] => none
  | c' :: cs => if c' = c then some cs else none

@[simp] theorem takeChar_cons (c : Char) (cs : List Char) : takeChar c (c :: cs) = some cs := by
  simp [takeChar]

end Lib

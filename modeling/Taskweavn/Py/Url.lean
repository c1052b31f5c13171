import Mathlib.Data.List.SplitBy
import Mathlib.Data.List.TakeWhile
import Taskweavn.Lib.Shrinking

/-!
# Paths of a URL

What `urlsplit` and `unquote` make of the path of a request.  The path begins with a slash and a
letter, so `urlsplit` finds neither a scheme nor a host in it: it drops tabs and line ends and cuts
at the first `#` and the first `?`.

`unquote` decodes the escapes of each stretch of ASCII characters to bytes and these as UTF-8, with
a replacement character for what is no character.  Texts get shorter wherever it changes them
(`shrinks_unquote`), and so does a path that is taken apart, decoded and put together again.
-/

namespace Py

open Lib

/-! ### Bytes as UTF-8 -/

/-- How many bytes follow a first byte, if a character begins with it. -/
def utf8More (first : ℕ) : Option ℕ :=
  if first < 0x80 then some 0
  else if 0xC2 ≤ first ∧ first ≤ 0xDF then some 1
  else if 0xE0 ≤ first ∧ first ≤ 0xEF then some 2
  else if 0xF0 ≤ first ∧ first ≤ 0xF4 then some 3
  else none

/-- Whether a byte may follow a first one directly. -/
def utf8Second (first b : ℕ) : Bool :=
  (if first = 0xE0 then 0xA0 else if first = 0xF0 then 0x90 else 0x80) ≤ b ∧
    b ≤ (if first = 0xED then 0x9F else if first = 0xF4 then 0x8F else 0xBF)

/-- The bytes that go on with a character that lacks `more` bytes. -/
def utf8Tail (first more : ℕ) : List ℕ → List ℕ
  | [] => []
  | b :: rest =>
    if utf8Second first b then b :: (rest.take (more - 1)).takeWhile fun b => 0x80 ≤ b ∧ b ≤ 0xBF
    else []

/-- The character that a first byte begins, and how many of the bytes after it are read with it. -/
def utf8Char (first : ℕ) (rest : List ℕ) : Char × ℕ :=
  match utf8More first with
  | none => (Char.ofNat 0xFFFD, 0)
  | some 0 => (Char.ofNat first, 0)
  | some more =>
    let tail := utf8Tail first more rest
    if tail.length = more then
      (Char.ofNat (tail.foldl (fun code b => code * 64 + b % 64) (first % 2 ^ (6 - more))), more)
    else (Char.ofNat 0xFFFD, tail.length)

/-- `bytes.decode("utf-8", "replace")`, when so many bytes have been read already. -/
def decodeUtf8 : ℕ → List ℕ → List Char
  | _, [] => []
  | 0, first :: rest => (utf8Char first rest).1 :: decodeUtf8 (utf8Char first rest).2 rest
  | skip + 1, _ :: rest => decodeUtf8 skip rest

theorem length_decodeUtf8_le (bytes : List ℕ) :
    ∀ skip, (decodeUtf8 skip bytes).length ≤ bytes.length := by
  induction bytes with
  | nil => intro skip; cases skip <;> exact le_rfl
  | cons b bytes ih =>
    intro skip
    cases skip with
    | zero => exact Nat.succ_le_succ (ih _)
    | succ skip => exact (ih skip).trans (Nat.le_succ _)

theorem decodeUtf8_ascii {text : List Char} (h : ∀ c ∈ text, c.toNat < 0x80) :
    decodeUtf8 0 (text.map Char.toNat) = text := by
  induction text with
  | nil => rfl
  | cons c text ih =>
    have hc : utf8Char c.toNat (text.map Char.toNat) = (c, 0) := by
      rw [utf8Char, utf8More, if_pos (h c List.mem_cons_self)]
      exact congrArg (·, 0) (Char.ofNat_toNat c)
    rw [List.map_cons, decodeUtf8, hc, ih fun d hd => h d (List.mem_cons_of_mem _ hd)]

/-! ### Escapes -/

/-- The value of a hexadecimal digit. -/
def hexValue (c : Char) : Option ℕ :=
  if '0' ≤ c ∧ c ≤ '9' then some (c.toNat - '0'.toNat)
  else if 'a' ≤ c ∧ c ≤ 'f' then some (c.toNat - 'a'.toNat + 10)
  else if 'A' ≤ c ∧ c ≤ 'F' then some (c.toNat - 'A'.toNat + 10)
  else none

def escapedByte (c a b : Char) : Option ℕ := do
  if c = '%' then return (← hexValue a) * 16 + (← hexValue b) else none

def unquoteToBytes : List Char → List ℕ
  | [] => []
  | [a] => [a.toNat]
  | [a, b] => [a.toNat, b.toNat]
  | c :: a :: b :: rest =>
    match escapedByte c a b with
    | some byte => byte :: unquoteToBytes rest
    | none => c.toNat :: unquoteToBytes (a :: b :: rest)

theorem unquoteToBytes_shorter (text : List Char) :
    unquoteToBytes text = text.map Char.toNat ∨ (unquoteToBytes text).length < text.length := by
  induction text using unquoteToBytes.induct with
  | case1 => exact Or.inl rfl
  | case2 a => exact Or.inl rfl
  | case3 a b => exact Or.inl rfl
  | case4 c a b rest byte hbyte ih =>
    refine Or.inr ?_
    have hle : (unquoteToBytes rest).length ≤ rest.length := by
      obtain heq | hlt := ih
      · rw [heq, List.length_map]
      · exact hlt.le
    rw [unquoteToBytes, hbyte]
    simp only [List.length_cons]
    omega
  | case5 c a b rest hnone ih =>
    rw [unquoteToBytes, hnone]
    exact ih.imp (congrArg (c.toNat :: ·)) Nat.succ_lt_succ

def isAscii (c : Char) : Bool := c.toNat < 0x80

/-- A stretch of characters that are all ASCII or all not. -/
def unquoteRun (run : List Char) : List Char :=
  if run.all isAscii then decodeUtf8 0 (unquoteToBytes run) else run

def unquote (text : List Char) : List Char :=
  if '%' ∈ text then (text.splitBy fun a b => isAscii a == isAscii b).flatMap unquoteRun else text

theorem shrinks_unquoteRun : Shrinks unquoteRun := by
  intro run
  rw [unquoteRun]
  split
  · next hascii =>
    obtain heq | hlt := unquoteToBytes_shorter run
    · rw [heq, decodeUtf8_ascii fun c hc => of_decide_eq_true (List.all_eq_true.mp hascii c hc)]
      exact Or.inl rfl
    · exact Or.inr ((length_decodeUtf8_le _ 0).trans_lt hlt)
  · exact Or.inl rfl

theorem shrinks_unquote : Shrinks unquote := by
  intro text
  rw [unquote]
  split
  · have hflat := List.flatten_splitBy (fun a b => isAscii a == isAscii b) text
    obtain hfixed | hlt := flatMap_shorter (u := id) shrinks_unquoteRun
      (text.splitBy fun a b => isAscii a == isAscii b)
    · rw [List.flatMap_congr hfixed, List.flatMap_id, hflat]
      exact Or.inl rfl
    · rw [List.flatMap_id, hflat] at hlt
      exact Or.inr hlt
  · exact Or.inl rfl

/-! ### Paths -/

/-- `urlsplit(path).path` -/
def urlPath (path : List Char) : List Char :=
  ((path.filter fun c => c ≠ '\t' ∧ c ≠ '\n' ∧ c ≠ '\r').takeWhile (· ≠ '#')).takeWhile (· ≠ '?')

/-- The parts of a path between its slashes, decoded. -/
def pathParts (path : List Char) : List (List Char) := (pieces '/' (urlPath path)).map unquote

theorem shrinks_urlPath : Shrinks urlPath :=
  Shrinks.of_sublist fun _ =>
    ((List.takeWhile_sublist _).trans (List.takeWhile_sublist _)).trans List.filter_sublist

/-- What ends a part of a path, or does not stay in it. -/
def pathReserved : List Char := ['/', '?', '#', '\t', '\n', '\r']

/-- A text that is the same as a part of a path, before and after it is decoded. -/
structure PlainPart (text : List Char) : Prop where
  unreserved : ∀ c ∈ text, c ∉ pathReserved
  unquoted : unquote text = text

instance (text : List Char) : Decidable (PlainPart text) :=
  decidable_of_iff (text.all (fun c => c ∉ pathReserved) = true ∧ unquote text = text)
    ⟨fun h => ⟨by simpa using h.1, h.2⟩, fun h => ⟨by simpa using h.unreserved, h.unquoted⟩⟩

theorem urlPath_eq_self {path : List Char} (h : ∀ c ∈ path, c = '/' ∨ c ∉ pathReserved) :
    urlPath path = path := by
  have hchar : ∀ c ∈ path, (c ≠ '\t' ∧ c ≠ '\n' ∧ c ≠ '\r') ∧ c ≠ '#' ∧ c ≠ '?' := by
    intro c hc
    obtain rfl | hc := h c hc
    · decide
    · simp only [pathReserved, List.mem_cons, not_or] at hc
      tauto
  rw [urlPath, List.filter_eq_self.mpr fun c hc => decide_eq_true (hchar c hc).1,
    List.takeWhile_eq_self_iff.mpr fun c hc => decide_eq_true (hchar c hc).2.1,
    List.takeWhile_eq_self_iff.mpr fun c hc => decide_eq_true (hchar c hc).2.2]

theorem unreserved_of_mem_urlPath {path : List Char} {c : Char} (h : c ∈ urlPath path) :
    c = '/' ∨ c ∉ pathReserved := by
  have hquery := List.mem_takeWhile_imp h
  have hmem := (List.takeWhile_sublist _).subset h
  have hfragment := List.mem_takeWhile_imp hmem
  have hkept := (List.mem_filter.mp ((List.takeWhile_sublist _).subset hmem)).2
  simp only [decide_eq_true_eq] at hquery hfragment hkept
  simp only [pathReserved, List.mem_cons, List.not_mem_nil, or_false, not_or]
  tauto

theorem unquoteToBytes_ne_nil {text : List Char} (h : text ≠ []) : unquoteToBytes text ≠ [] := by
  induction text using unquoteToBytes.induct with
  | case1 => exact absurd rfl h
  | case2 a => exact List.cons_ne_nil _ _
  | case3 a b => exact List.cons_ne_nil _ _
  | case4 c a b rest byte hbyte => rw [unquoteToBytes, hbyte]; exact List.cons_ne_nil _ _
  | case5 c a b rest hnone => rw [unquoteToBytes, hnone]; exact List.cons_ne_nil _ _

theorem unquoteRun_ne_nil {run : List Char} (h : run ≠ []) : unquoteRun run ≠ [] := by
  rw [unquoteRun]
  split
  · obtain ⟨b, bytes, hbytes⟩ := List.exists_cons_of_ne_nil (unquoteToBytes_ne_nil h)
    rw [hbytes]
    exact List.cons_ne_nil _ _
  · exact h

theorem unquote_ne_nil {text : List Char} (h : text ≠ []) : unquote text ≠ [] := by
  rw [unquote]
  split
  · intro hnil
    have hruns := List.flatMap_eq_nil_iff.mp hnil
    have hflat := List.flatten_splitBy (fun a b => isAscii a == isAscii b) text
    obtain ⟨run, hrun⟩ : ∃ run, run ∈ text.splitBy fun a b => isAscii a == isAscii b := by
      refine List.exists_mem_of_ne_nil _ fun hempty => h ?_
      rw [← hflat, hempty, List.flatten_nil]
    have hne : run ≠ [] := fun hempty =>
      List.nil_notMem_splitBy (fun a b => isAscii a == isAscii b) text (hempty ▸ hrun)
    exact unquoteRun_ne_nil hne (hruns run hrun)
  · exact h

theorem ne_nil_of_mem_pathParts {path p : List Char} (h : p ∈ pathParts path) : p ≠ [] := by
  obtain ⟨q, hq, rfl⟩ := List.mem_map.mp h
  exact unquote_ne_nil (not_mem_of_mem_pieces hq).1

theorem pathParts_rejoin {ps : List (List Char)}
    (h : ∀ p ∈ ps, p ≠ [] ∧ ∀ c ∈ p, c ∉ pathReserved) :
    pathParts (rejoin '/' ps) = ps.map unquote := by
  have hpath : urlPath (rejoin '/' ps) = rejoin '/' ps := by
    refine urlPath_eq_self fun c hc => ?_
    obtain ⟨p, hp, hc⟩ := List.mem_flatMap.mp hc
    exact (List.mem_cons.mp hc).imp id ((h p hp).2 c)
  rw [pathParts, hpath, pieces_rejoin fun p hp => ⟨(h p hp).1, fun hslash =>
    (h p hp).2 '/' hslash (by decide)⟩]

theorem urlPath_slash (path : List Char) : urlPath ('/' :: path) = '/' :: urlPath path := rfl

theorem length_rejoin_pathParts_le_succ (path : List Char) :
    (rejoin '/' (pathParts path)).length ≤ path.length + 1 := by
  have hle := @length_rejoin_map_pieces_le Char _ '/' _ shrinks_unquote (urlPath path)
  rw [pieces_cons_self] at hle
  exact hle.trans (Nat.succ_le_succ (shrinks_urlPath.length_le path))

theorem length_rejoin_pathParts_le (ps : List (List Char)) :
    (rejoin '/' (pathParts (rejoin '/' ps))).length ≤ (rejoin '/' ps).length := by
  cases ps with
  | nil => exact Nat.zero_le _
  | cons p ps =>
    rw [rejoin_cons, List.cons_append, pathParts, urlPath_slash]
    exact (length_rejoin_map_pieces_le shrinks_unquote _).trans
      (Nat.succ_le_succ (shrinks_urlPath.length_le _))

/-- **Only plain parts stay the same** when they are put together and taken apart again. -/
theorem plainPart_of_pathParts_eq {ps : List (List Char)} (h : pathParts (rejoin '/' ps) = ps) :
    ∀ p ∈ ps, PlainPart p := by
  rcases ps with - | ⟨p, ps'⟩
  · exact fun p hp => absurd hp List.not_mem_nil
  obtain ⟨path, hpath⟩ : ∃ path, rejoin '/' (p :: ps') = '/' :: path :=
    ⟨_, (rejoin_cons p ps').trans (List.cons_append)⟩
  rw [hpath, pathParts, urlPath_slash] at h
  obtain ⟨hjoin, hfixed⟩ | hlt := @rejoin_map_pieces Char _ '/' _ shrinks_unquote (urlPath path)
  · rw [List.map_congr_left hfixed, List.map_id'] at h
    intro q hq
    rw [← h] at hq
    refine ⟨fun c hc => ?_, hfixed q hq⟩
    have hmem : c ∈ '/' :: urlPath path := by
      rw [← hjoin]
      exact List.mem_flatMap.mpr ⟨q, hq, List.mem_cons_of_mem _ hc⟩
    rw [← urlPath_slash] at hmem
    refine (unreserved_of_mem_urlPath hmem).resolve_left fun hslash => ?_
    exact (not_mem_of_mem_pieces hq).2 (hslash ▸ hc)
  · -- the parts would be shorter than the path that they make
    have hle := shrinks_urlPath.length_le path
    rw [h, hpath] at hlt
    simp only [List.length_cons] at hlt
    omega

end Py

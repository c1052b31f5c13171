import Taskweavn.Py.Url

/-!
# Bytes read as characters, and their escapes

`bytes(text, "utf-8").decode("unicode_escape")` reads every byte of a text as the character of its
number, and takes escapes for the characters that they stand for.  Bytes are written as these
characters here.

A text is left as it is (`utf8Latin1_eq_self_iff`) exactly if it is ASCII.
-/

namespace Py

/-! ### Bytes as characters -/

/-- The bytes of a character, each as the character of its number. -/
def charLatin1 (c : Char) : List Char := (String.utf8EncodeChar c).map fun b => Char.ofNat b.toNat

/-- The bytes of a text, each as the character of its number. -/
def utf8Latin1 (text : List Char) : List Char := text.flatMap charLatin1

theorem toNat_ofNat_byte (b : UInt8) : (Char.ofNat b.toNat).toNat = b.toNat := by
  have hb : b.toNat < 256 := b.toNat_lt
  have hvalid : b.toNat.isValidChar := Or.inl (by omega)
  rw [Char.ofNat, dif_pos hvalid]
  rfl

theorem charLatin1_lt {c d : Char} (h : d ∈ charLatin1 c) : d.toNat < 256 := by
  obtain ⟨b, -, rfl⟩ := List.mem_map.mp h
  rw [toNat_ofNat_byte]
  exact b.toNat_lt

theorem charLatin1_of_isAscii {c : Char} (h : isAscii c = true) : charLatin1 c = [c] := by
  have hlt : c.toNat < 0x80 := of_decide_eq_true h
  have hle : c.val.toNat ≤ 0x7f := Nat.le_of_lt_succ hlt
  rw [charLatin1, String.utf8EncodeChar, if_pos hle, List.map_singleton, UInt8.toNat_ofNat',
    Nat.mod_eq_of_lt (by omega)]
  exact congrArg (fun c => [c]) (Char.ofNat_toNat c)

theorem isAscii_of_mem_charLatin1 {c d : Char} (h : isAscii c = false) (hd : d ∈ charLatin1 c) :
    isAscii d = false := by
  have hge : ¬c.val.toNat ≤ 0x7f := fun hle =>
    of_decide_eq_false h (Nat.lt_succ_of_le hle)
  obtain ⟨b, hb, rfl⟩ := List.mem_map.mp hd
  have hbyte : 0x80 ≤ b.toNat := by
    rw [String.utf8EncodeChar, if_neg hge] at hb
    split at hb
    · rcases List.mem_cons.mp hb with rfl | hb
      · rw [UInt8.toNat_ofNat']
        omega
      · rw [List.mem_singleton.mp hb, UInt8.toNat_ofNat']
        omega
    · split at hb
      · simp only [List.mem_cons, List.not_mem_nil, or_false] at hb
        rcases hb with rfl | rfl | rfl <;> rw [UInt8.toNat_ofNat'] <;> omega
      · simp only [List.mem_cons, List.not_mem_nil, or_false] at hb
        rcases hb with rfl | rfl | rfl | rfl <;> rw [UInt8.toNat_ofNat'] <;> omega
  rw [isAscii, toNat_ofNat_byte]
  exact decide_eq_false (by omega)

theorem two_le_length_charLatin1 {c : Char} (h : isAscii c = false) :
    2 ≤ (charLatin1 c).length := by
  have hge : ¬c.val.toNat ≤ 0x7f := fun hle =>
    of_decide_eq_false h (Nat.lt_succ_of_le hle)
  rw [charLatin1, List.length_map, String.utf8EncodeChar, if_neg hge]
  split
  · exact Nat.le_refl 2
  · split
    · exact Nat.le_succ 2
    · exact (Nat.le_succ 2).trans (Nat.le_succ 3)

theorem charLatin1_ne_nil (c : Char) : charLatin1 c ≠ [] := by
  rw [charLatin1, Ne, List.map_eq_nil_iff]
  exact String.utf8EncodeChar_ne_nil

theorem utf8Latin1_ascii {text : List Char} (h : ∀ c ∈ text, isAscii c = true) :
    utf8Latin1 text = text := by
  induction text with
  | nil => rfl
  | cons c text ih =>
    obtain ⟨hc, htext⟩ := List.forall_mem_cons.mp h
    rw [utf8Latin1, List.flatMap_cons, charLatin1_of_isAscii hc, ← utf8Latin1, ih htext]
    rfl

theorem isAscii_of_utf8Latin1 {text : List Char} (h : ∀ d ∈ utf8Latin1 text, isAscii d = true) :
    ∀ c ∈ text, isAscii c = true := by
  intro c hc
  by_contra hnot
  obtain ⟨d, ds, hd⟩ := List.exists_cons_of_ne_nil (charLatin1_ne_nil c)
  have hmem : d ∈ charLatin1 c := hd ▸ List.mem_cons_self
  have hfalse := isAscii_of_mem_charLatin1 (Bool.eq_false_iff.mpr hnot) hmem
  rw [h d (List.mem_flatMap.mpr ⟨c, hc, hmem⟩)] at hfalse
  cases hfalse

theorem utf8Latin1_eq_self_iff {text : List Char} :
    utf8Latin1 text = text ↔ ∀ c ∈ text, isAscii c = true := by
  constructor
  · intro heq
    have hlength : ∀ t : List Char, t.length ≤ (utf8Latin1 t).length ∧
        ((utf8Latin1 t).length = t.length → ∀ c ∈ t, isAscii c = true) := by
      intro t
      induction t with
      | nil => exact ⟨Nat.le_refl _, fun _ => List.forall_mem_nil _⟩
      | cons c t ih =>
        rw [utf8Latin1, List.flatMap_cons, ← utf8Latin1, List.length_append, List.length_cons,
          List.forall_mem_cons]
        cases hc : isAscii c with
        | true =>
          rw [charLatin1_of_isAscii hc, List.length_singleton]
          exact ⟨by omega, fun h => ⟨rfl, ih.2 (by omega)⟩⟩
        | false =>
          have := two_le_length_charLatin1 hc
          exact ⟨by omega, fun h => by omega⟩
    exact (hlength text).2 (congrArg List.length heq)
  · exact utf8Latin1_ascii

theorem utf8Latin1_eq_iff {text name : List Char} (h : ∀ c ∈ name, isAscii c = true) :
    utf8Latin1 text = name ↔ text = name := by
  constructor
  · rintro rfl
    exact (utf8Latin1_ascii (isAscii_of_utf8Latin1 h)).symm
  · rintro rfl
    exact utf8Latin1_ascii h

/-! ### Escapes -/

def simpleEscapes : List (Char × List Char) :=
  [('\n', []), ('\\', ['\\']), (Char.ofNat 39, [Char.ofNat 39]), ('"', ['"']),
    ('b', [Char.ofNat 8]),
    ('f', [Char.ofNat 12]), ('t', ['\t']), ('n', ['\n']), ('r', ['\r']), ('v', [Char.ofNat 11]),
    ('a', [Char.ofNat 7])]

def isOctalDigit (c : Char) : Bool := '0' ≤ c && c ≤ '7'

def octalValue (digits : List Char) : ℕ :=
  digits.foldl (fun n d => n * 8 + (d.toNat - '0'.toNat)) 0

section

-- what is made of a backslash with `x`, `u`, `U` or `N` behind it, or a character that is no
-- escape: the characters and how many of the text are read, if it is not an error
variable (other : List Char → Option (List Char × ℕ))

/-- What a backslash stands for, with the text behind it. -/
def escapeSequence (text : List Char) : Option (List Char × ℕ) :=
  match text with
  | [] => none
  | c :: _ =>
    match simpleEscapes.lookup c with
    | some chars => some (chars, 1)
    | none =>
      let digits := (text.take 3).takeWhile isOctalDigit
      if digits = [] then other text else some ([Char.ofNat (octalValue digits)], digits.length)

/-- `decode("unicode_escape")`, when so many characters have been read already. -/
def decodeUnicodeEscape : ℕ → List Char → Option (List Char)
  | _, [] => some []
  | skip + 1, _ :: text => decodeUnicodeEscape skip text
  | 0, c :: text =>
    if c = '\\' then
      (escapeSequence other text).bind fun e => (decodeUnicodeEscape e.2 text).map (e.1 ++ ·)
    else (decodeUnicodeEscape 0 text).map (c :: ·)

variable {other}

theorem decodeUnicodeEscape_cons {c : Char} (h : c ≠ '\\') (text : List Char) :
    decodeUnicodeEscape other 0 (c :: text) =
      (decodeUnicodeEscape other 0 text).map (c :: ·) := by
  rw [decodeUnicodeEscape, if_neg h]

theorem decodeUnicodeEscape_backslash : decodeUnicodeEscape other 0 ['\\'] = none := rfl

theorem decodeUnicodeEscape_simple {c : Char} {chars : List Char}
    (h : simpleEscapes.lookup c = some chars) (text : List Char) :
    decodeUnicodeEscape other 0 ('\\' :: c :: text) =
      (decodeUnicodeEscape other 0 text).map (chars ++ ·) := by
  rw [decodeUnicodeEscape, if_pos rfl, escapeSequence, h]
  rfl

theorem lookup_of_isOctalDigit {c : Char} (h : isOctalDigit c = true) :
    simpleEscapes.lookup c = none := by
  rw [List.lookup_eq_none_iff]
  intro entry hentry
  rw [bne_iff_ne]
  rintro rfl
  have hall : ∀ entry ∈ simpleEscapes, isOctalDigit entry.1 = false := by decide
  rw [hall entry hentry] at h
  cases h

theorem decodeUnicodeEscape_octal {a b c : Char} (ha : isOctalDigit a = true)
    (hb : isOctalDigit b = true) (hc : isOctalDigit c = true) (text : List Char) :
    decodeUnicodeEscape other 0 ('\\' :: a :: b :: c :: text) =
      (decodeUnicodeEscape other 0 text).map (Char.ofNat (octalValue [a, b, c]) :: ·) := by
  have hdigits : ((a :: b :: c :: text).take 3).takeWhile isOctalDigit = [a, b, c] := by
    simp [ha, hb, hc]
  rw [decodeUnicodeEscape, if_pos rfl, escapeSequence, lookup_of_isOctalDigit ha]
  simp only [hdigits]
  rfl

end

end Py

import Mathlib.Data.Bool.AllAny
import Taskweavn.Lib.Delimiter
import Taskweavn.Py.SplitLines
import Taskweavn.Py.UnicodeEscape

/-!
# Quoted path names

`git status` writes a path name in quotes if it has a space or a byte that must be escaped
(`quotePath`).  `_unquote_git_path` (`taskweavn/workspace_inspection/git_provider.py`) decodes the
escapes to the bytes of the name, each read as a character of its own (`unquote_quotePath`), and
does not read these bytes as UTF-8.
-/

namespace Taskweavn

open Lib Py

/-! ### Writing and reading a name -/

/-- The bytes that are escaped by a letter. -/
def quoteLetters : List (Char × Char) :=
  [('"', '"'), ('\\', '\\'), (Char.ofNat 7, 'a'), (Char.ofNat 8, 'b'), ('\t', 't'), ('\n', 'n'),
    (Char.ofNat 11, 'v'), (Char.ofNat 12, 'f'), ('\r', 'r')]

def octalChar (n : ℕ) : Char := Char.ofNat ('0'.toNat + n % 8)

def quoteByte (b : Char) : List Char :=
  match quoteLetters.lookup b with
  | some letter => ['\\', letter]
  | none =>
    if b.toNat < 0x20 ∨ 0x7f ≤ b.toNat then
      ['\\', octalChar (b.toNat / 64), octalChar (b.toNat / 8), octalChar b.toNat]
    else [b]

/-- The name is written in quotes. -/
def needsQuotes (path : List Char) : Bool := (utf8Latin1 path).any fun b =>
    b = ' ' || quoteByte b ≠ [b]

/-- What stands between the quotes. -/
def quotedBody (path : List Char) : List Char := (utf8Latin1 path).flatMap quoteByte

/-- A name as `git status` writes it. -/
def quotePath (path : List Char) : List Char :=
  if needsQuotes path then '"' :: (quotedBody path ++ ['"']) else path

def unquoteGitPath (other : List Char → Option (List Char × ℕ)) (path : List Char) : List Char :=
  if 2 ≤ path.length ∧ path.head? = some '"' ∧ path.getLast? = some '"' then
    (decodeUnicodeEscape other 0 (utf8Latin1 path.tail.dropLast)).getD path.tail.dropLast
  else path

/-- `" -> "` -/
def renameArrow : List Char := [' ', '-', '>', ' ']

/-! ### Escapes -/

theorem octalChar_spec (n : ℕ) : isOctalDigit (octalChar n) = true ∧
    (octalChar n).toNat = '0'.toNat + n % 8 ∧ octalChar n ∉ renameArrow := by
  have hall : ∀ k < 8, isOctalDigit (Char.ofNat ('0'.toNat + k)) = true ∧
      (Char.ofNat ('0'.toNat + k)).toNat = '0'.toNat + k ∧
        Char.ofNat ('0'.toNat + k) ∉ renameArrow := by decide
  exact hall (n % 8) (Nat.mod_lt n (by decide))

theorem octalValue_octalChar {n : ℕ} (h : n < 256) :
    octalValue [octalChar (n / 64), octalChar (n / 8), octalChar n] = n := by
  have hdigit : ∀ m, (octalChar m).toNat - '0'.toNat = m % 8 := fun m => by
    rw [(octalChar_spec m).2.1, Nat.add_sub_cancel_left]
  simp only [octalValue, List.foldl_cons, List.foldl_nil, hdigit]
  omega

theorem mem_quoteLetters_of_lookup {b letter : Char} (h : quoteLetters.lookup b = some letter) :
    (b, letter) ∈ quoteLetters := by
  obtain ⟨l₁, l₂, heq, -⟩ := List.lookup_eq_some_iff.mp h
  rw [heq]
  simp

theorem decode_quoteByte {other : List Char → Option (List Char × ℕ)} {b : Char}
    (hb : b.toNat < 256)
    (text : List Char) : decodeUnicodeEscape other 0 (quoteByte b ++ text) =
      (decodeUnicodeEscape other 0 text).map (b :: ·) := by
  rw [quoteByte]
  split
  · next letter hletter =>
    have hall : ∀ entry ∈ quoteLetters, simpleEscapes.lookup entry.2 = some [entry.1] := by decide
    exact decodeUnicodeEscape_simple (hall (b, letter) (mem_quoteLetters_of_lookup hletter)) text
  · next hnone =>
    split
    · refine (decodeUnicodeEscape_octal (octalChar_spec _).1 (octalChar_spec _).1
        (octalChar_spec _).1 text).trans ?_
      rw [octalValue_octalChar hb, Char.ofNat_toNat]
    · have hne : b ≠ '\\' := by
        rintro rfl
        cases hnone
      exact decodeUnicodeEscape_cons hne text

theorem decode_flatMap_quoteByte {other : List Char → Option (List Char × ℕ)} {bytes : List Char}
    (h : ∀ b ∈ bytes, b.toNat < 256) :
    decodeUnicodeEscape other 0 (bytes.flatMap quoteByte) = some bytes := by
  induction bytes with
  | nil => rfl
  | cons b bytes ih =>
    obtain ⟨hb, hbytes⟩ := List.forall_mem_cons.mp h
    rw [List.flatMap_cons, decode_quoteByte hb, ih hbytes]
    rfl

theorem lt_of_mem_utf8Latin1 {path : List Char} : ∀ b ∈ utf8Latin1 path, b.toNat < 256 := by
  intro b hb
  obtain ⟨c, -, hc⟩ := List.mem_flatMap.mp hb
  exact charLatin1_lt hc

/-- Only printable ASCII is written. -/
def Printable (c : Char) : Prop := 0x20 ≤ c.toNat ∧ c.toNat < 0x7f

theorem Printable.isAscii {c : Char} (h : Printable c) : isAscii c = true :=
  decide_eq_true (h.2.trans (by decide))

theorem Printable.isEnd {c : Char} (h : Printable c) : lineEnds.isEnd c = false := by
  have hall : ∀ c ∈ ['\n', '\r', Char.ofNat 0x0b, Char.ofNat 0x0c, Char.ofNat 0x1c, Char.ofNat 0x1d,
      Char.ofNat 0x1e, Char.ofNat 0x85, Char.ofNat 0x2028, Char.ofNat 0x2029],
      ¬(0x20 ≤ c.toNat ∧ c.toNat < 0x7f) := List.all_iff_forall_prop.mp (by decide)
  exact decide_eq_false fun hmem => hall c hmem h

theorem printable_octalChar (n : ℕ) : Printable (octalChar n) := by
  rw [Printable, (octalChar_spec n).2.1]
  have : '0'.toNat = 48 := rfl
  omega

theorem printable_quoteByte (b : Char) : ∀ c ∈ quoteByte b, Printable c := by
  have hslash : Printable '\\' := ⟨by decide, by decide⟩
  rw [quoteByte]
  split
  · next letter hletter =>
    have hall : ∀ entry ∈ quoteLetters, 0x20 ≤ entry.2.toNat ∧ entry.2.toNat < 0x7f := by decide
    have hprintable := hall (b, letter) (mem_quoteLetters_of_lookup hletter)
    simpa using ⟨hslash, hprintable⟩
  · split
    · intro c hc
      simp only [List.mem_cons, List.not_mem_nil, or_false] at hc
      rcases hc with rfl | rfl | rfl | rfl
      · exact hslash
      · exact printable_octalChar _
      · exact printable_octalChar _
      · exact printable_octalChar _
    · next hrange =>
      intro c hc
      rw [List.mem_singleton.mp hc, Printable]
      omega

theorem printable_quotedBody (path : List Char) : ∀ c ∈ quotedBody path, Printable c := by
  intro c hc
  obtain ⟨b, -, hb⟩ := List.mem_flatMap.mp hc
  exact printable_quoteByte b c hb

/-! ### A name without quotes -/

theorem of_not_needsQuotes {path : List Char} (h : needsQuotes path = false) :
    ∀ c ∈ path, Printable c ∧ c ≠ ' ' ∧ c ≠ '"' := by
  have hbytes : ∀ b ∈ utf8Latin1 path, b ≠ ' ' ∧ quoteByte b = [b] := by
    intro b hb
    have hnot := List.any_eq_false.mp h b hb
    rw [Bool.or_eq_true, decide_eq_true_iff, decide_eq_true_iff, not_or, not_not] at hnot
    exact hnot
  have hprintable : ∀ b ∈ utf8Latin1 path, Printable b := fun b hb =>
    printable_quoteByte b b ((hbytes b hb).2 ▸ List.mem_singleton.mpr rfl)
  have hself : utf8Latin1 path = path :=
    utf8Latin1_ascii (isAscii_of_utf8Latin1 fun d hd => (hprintable d hd).isAscii)
  rw [hself] at hbytes hprintable
  intro c hc
  refine ⟨hprintable c hc, (hbytes c hc).1, ?_⟩
  rintro rfl
  have hquote := (hbytes '"' hc).2
  cases hquote

theorem printable_quotePath (path : List Char) : ∀ c ∈ quotePath path, Printable c := by
  rw [quotePath]
  split
  · have hquote : Printable '"' := ⟨by decide, by decide⟩
    intro c hc
    rcases List.mem_cons.mp hc with rfl | hc
    · exact hquote
    · rcases List.mem_append.mp hc with hc | hc
      · exact printable_quotedBody path c hc
      · exact List.mem_singleton.mp hc ▸ hquote
  · next h => exact fun c hc => (of_not_needsQuotes (Bool.eq_false_iff.mpr h) c hc).1

theorem quotePath_ne_nil {path : List Char} (h : path ≠ []) : quotePath path ≠ [] := by
  rw [quotePath]
  split
  · exact List.cons_ne_nil _ _
  · exact h

/-- **A name is read as its bytes.** -/
theorem unquote_quotePath (other : List Char → Option (List Char × ℕ)) (path : List Char) :
    unquoteGitPath other (quotePath path) = utf8Latin1 path := by
  rw [quotePath]
  split
  · have hself : utf8Latin1 (quotedBody path) = quotedBody path :=
      utf8Latin1_ascii fun c hc => (printable_quotedBody path c hc).isAscii
    have hinner : ('"' :: (quotedBody path ++ ['"'])).tail.dropLast = quotedBody path :=
      List.dropLast_concat
    have hlast : ('"' :: (quotedBody path ++ ['"'])).getLast? = some '"' := by
      rw [← List.cons_append, List.getLast?_concat]
    rw [unquoteGitPath, if_pos ⟨by simp, rfl, hlast⟩, hinner, hself, quotedBody,
      decode_flatMap_quoteByte lt_of_mem_utf8Latin1]
    rfl
  · next h =>
    have hplain := of_not_needsQuotes (Bool.eq_false_iff.mpr h)
    rw [unquoteGitPath, if_neg, utf8Latin1_ascii fun c hc => (hplain c hc).1.isAscii]
    rintro ⟨-, hhead, -⟩
    exact (hplain '"' (List.mem_of_mem_head? hhead)).2.2 rfl

/-! ### The arrow of a rename -/

theorem spares_quoteByte : Spares renameArrow quoteByte where
  same := List.all_iff_forall_prop.mp (by decide)
  ne_nil := by
    intro b _
    rw [quoteByte]
    split
    · exact List.cons_ne_nil _ _
    · split <;> exact List.cons_ne_nil _ _
  notMem := by
    intro b hb
    have hslash : '\\' ∉ renameArrow := by decide
    rw [quoteByte]
    split
    · next letter hletter =>
      have hall : ∀ entry ∈ quoteLetters, entry.2 ∉ renameArrow := by decide
      have hnot := hall (b, letter) (mem_quoteLetters_of_lookup hletter)
      simpa using ⟨hslash, hnot⟩
    · split
      · intro c hc
        simp only [List.mem_cons, List.not_mem_nil, or_false] at hc
        rcases hc with rfl | rfl | rfl | rfl
        · exact hslash
        · exact (octalChar_spec _).2.2
        · exact (octalChar_spec _).2.2
        · exact (octalChar_spec _).2.2
      · intro c hc
        rw [List.mem_singleton.mp hc]
        exact hb

theorem spares_charLatin1 : Spares renameArrow charLatin1 where
  same := List.all_iff_forall_prop.mp (by decide)
  ne_nil := fun c _ => charLatin1_ne_nil c
  notMem := by
    intro c hc d hd
    cases hascii : isAscii c with
    | true =>
      rw [charLatin1_of_isAscii hascii] at hd
      rw [List.mem_singleton.mp hd]
      exact hc
    | false =>
      have hall : ∀ s ∈ renameArrow, isAscii s = true := List.all_iff_forall_prop.mp (by decide)
      intro hmem
      have hfalse := isAscii_of_mem_charLatin1 hascii hd
      rw [hall d hmem] at hfalse
      cases hfalse

theorem renameArrow_ne_nil : renameArrow ≠ [] := List.cons_ne_nil _ _

theorem arrow_infix_utf8Latin1 {path : List Char} :
    renameArrow <:+: utf8Latin1 path ↔ renameArrow <:+: path :=
  spares_charLatin1.infix_flatMap_iff renameArrow_ne_nil

theorem arrow_infix_quotedBody {path : List Char} :
    renameArrow <:+: quotedBody path ↔ renameArrow <:+: path :=
  (spares_quoteByte.infix_flatMap_iff renameArrow_ne_nil).trans arrow_infix_utf8Latin1

theorem arrow_infix_quoted {body v : List Char} :
    renameArrow <:+: '"' :: (body ++ '"' :: v) ↔ renameArrow <:+: body ∨ renameArrow <:+: v := by
  have hquote : '"' ∉ renameArrow := by decide
  rw [show '"' :: (body ++ '"' :: v) = [] ++ '"' :: (body ++ '"' :: v) from rfl,
    infix_append_cons_of_notMem hquote renameArrow_ne_nil,
    infix_append_cons_of_notMem hquote renameArrow_ne_nil, List.infix_nil,
    or_iff_right renameArrow_ne_nil]

theorem arrow_infix_quotePath_append {path v : List Char} :
    renameArrow <:+: quotePath path ++ v ↔ renameArrow <:+: path ∨ renameArrow <:+: v := by
  rw [quotePath]
  split
  · rw [List.cons_append, List.append_assoc, List.singleton_append, arrow_infix_quoted,
      arrow_infix_quotedBody]
  · next h =>
    have hplain := of_not_needsQuotes (Bool.eq_false_iff.mpr h)
    have hhead : ∀ c ∈ path, renameArrow.head? ≠ some c := fun c hc heq =>
      (hplain c hc).2.1 (Option.some.inj heq).symm
    rw [infix_append_of_head hhead renameArrow_ne_nil, or_iff_right]
    intro hin
    exact (hplain ' ' (hin.subset (by decide))).2.1 rfl

theorem arrow_infix_quotePath {path : List Char} :
    renameArrow <:+: quotePath path ↔ renameArrow <:+: path := by
  have happend := @arrow_infix_quotePath_append path []
  rw [List.append_nil, List.infix_nil, or_iff_left renameArrow_ne_nil] at happend
  exact happend

/-- **A name without an arrow is not cut, and the arrow behind it is the first one.** -/
theorem cutAt_quotePath {path : List Char} (h : ¬renameArrow <:+: path) (rest : List Char) :
    cutAt renameArrow (quotePath path ++ renameArrow ++ rest) = some (quotePath path, rest) := by
  refine cutAt_delimited (fun hin => ?_) renameArrow_ne_nil rest
  rcases arrow_infix_quotePath_append.mp hin with hin | hin
  · exact h hin
  · exact absurd hin.length_le (by decide)

/-! ### A name that is cut at an arrow in it -/

theorem notMem_quoteByte {b : Char} (h : b ≠ '"') : '"' ∉ quoteByte b := by
  have hslash : '"' ≠ '\\' := by decide
  rw [quoteByte]
  split
  · next letter hletter =>
    have hall : ∀ entry ∈ quoteLetters, entry.1 ≠ '"' → '"' ≠ entry.2 := by decide
    have hne := hall (b, letter) (mem_quoteLetters_of_lookup hletter) h
    exact List.not_mem_cons_of_ne_of_not_mem hslash
      (List.not_mem_cons_of_ne_of_not_mem hne List.not_mem_nil)
  · split
    · have hoctal : ∀ n, '"' ≠ octalChar n := by
        intro n heq
        have hdigit := (octalChar_spec n).1
        rw [← heq] at hdigit
        cases hdigit
      intro hmem
      simp only [List.mem_cons, List.not_mem_nil, or_false] at hmem
      rcases hmem with heq | heq | heq | heq
      · exact hslash heq
      · exact hoctal _ heq
      · exact hoctal _ heq
      · exact hoctal _ heq
    · exact List.not_mem_cons_of_ne_of_not_mem h.symm List.not_mem_nil

theorem decode_of_prefix {other : List Char → Option (List Char × ℕ)} {bytes u : List Char}
    (hbytes : ∀ b ∈ bytes, b.toNat < 256) (h : u ++ ['"'] <+: bytes.flatMap quoteByte) :
    decodeUnicodeEscape other 0 u = none := by
  induction bytes generalizing u with
  | nil =>
    exact absurd (List.prefix_nil.mp h)
      (List.append_ne_nil_of_right_ne_nil u (List.cons_ne_nil _ _))
  | cons b bytes ih =>
    obtain ⟨hb, hbytes⟩ := List.forall_mem_cons.mp hbytes
    rw [List.flatMap_cons] at h
    -- the part has all that is written for the first byte, or ends behind a backslash
    rcases List.prefix_or_prefix_of_prefix
      (List.prefix_append (quoteByte b) (bytes.flatMap quoteByte))
      ((List.prefix_append u ['"']).trans h) with hp | hp
    · obtain ⟨u', rfl⟩ := hp
      rw [List.append_assoc, List.prefix_append_right_inj] at h
      rw [decode_quoteByte hb, ih hbytes h]
      rfl
    · have hshort : u.length < (quoteByte b).length ∨ u = quoteByte b :=
        hp.length_le.lt_or_eq.imp_right hp.eq_of_length
      rcases hshort with hlt | rfl
      · have hin : u ++ ['"'] <+: quoteByte b :=
          List.prefix_of_prefix_length_le h (List.prefix_append _ _)
            (by simpa using Nat.succ_le_of_lt hlt)
        have hquote : b = '"' := by
          by_contra hne
          exact notMem_quoteByte hne (hin.subset (by simp))
        rw [hquote] at hin
        obtain rfl : u = ['\\'] := by
          obtain ⟨rest, hrest⟩ := hin
          cases u with
          | nil =>
            have hhead := (List.cons.inj hrest).1
            cases hhead
          | cons c u =>
            obtain ⟨rfl, htail⟩ := List.cons.inj hrest
            cases u with
            | nil => rfl
            | cons d u =>
              have hlength := congrArg List.length htail
              simp at hlength
        exact decodeUnicodeEscape_backslash
      · have hrest : ['"'] <+: bytes.flatMap quoteByte := by
          rw [List.prefix_append_right_inj] at h
          exact h
        have hnone := ih (u := []) hbytes hrest
        cases hnone

/-- **A name with an arrow in it is cut there, and no arrow is in its first part.** -/
theorem cutAt_quotePath_of_arrow {path : List Char} (h : renameArrow <:+: path)
    (other : List Char → Option (List Char × ℕ)) (rest : List Char) :
    ∃ a b, cutAt renameArrow (quotePath path ++ rest) = some (a, b) ∧ a ≠ [] ∧
      ¬renameArrow <:+: unquoteGitPath other a := by
  have hquoted : quotePath path = '"' :: quotedBody path ++ ['"'] := by
    rw [quotePath, if_pos]
    · rfl
    · by_contra hnot
      exact (of_not_needsQuotes (Bool.eq_false_iff.mpr hnot) ' ' (h.subset (by decide))).2.1 rfl
  obtain ⟨⟨a, b⟩, hcut⟩ : ∃ parts, cutAt renameArrow ('"' :: quotedBody path) = some parts := by
    rw [← Option.isSome_iff_exists, Option.isSome_iff_ne_none, Ne,
      cutAt_eq_none_iff renameArrow_ne_nil, not_not]
    exact List.infix_cons (arrow_infix_quotedBody.mpr h)
  obtain ⟨hparts, hfree⟩ := eq_of_cutAt renameArrow_ne_nil hcut
  have hne : a ≠ [] := by
    rintro rfl
    have hhead := (List.cons.inj hparts).1
    cases hhead
  refine ⟨a, b ++ ('"' :: rest), ?_, hne, ?_⟩
  · rw [hquoted, List.append_assoc, cutAt_append hcut renameArrow_ne_nil]
    rfl
  · rw [unquoteGitPath]
    split
    · next hquotes =>
      obtain ⟨c, a, rfl⟩ := List.exists_cons_of_ne_nil hne
      obtain ⟨u, hu⟩ : ∃ u, a = u ++ ['"'] := by
        refine List.getLast?_eq_some_iff.mp ?_
        have hlast := hquotes.2.2
        rw [List.getLast?_cons_of_ne_nil] at hlast
        · exact hlast
        · rintro rfl
          exact absurd hquotes.1 (Nat.not_succ_le_self 1)
      subst hu
      have hpre : u ++ ['"'] <+: quotedBody path := by
        refine ⟨renameArrow ++ b, ?_⟩
        rw [(List.cons.inj hparts).2, List.append_eq, List.append_eq, List.append_assoc,
          List.append_assoc, List.append_assoc]
      have hself : utf8Latin1 u = u := utf8Latin1_ascii fun d hd =>
        (printable_quotedBody path d (hpre.subset (List.mem_append_left _ hd))).isAscii
      rw [List.tail_cons, List.dropLast_concat, hself, decode_of_prefix lt_of_mem_utf8Latin1 hpre]
      exact fun hin => hfree (List.infix_cons (hin.trans (List.prefix_append u ['"']).isInfix))
    · exact hfree

end Taskweavn

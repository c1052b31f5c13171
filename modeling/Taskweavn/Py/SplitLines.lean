import Mathlib.Data.String.Basic
import Taskweavn.Lib.Lines

/-!
# Lines of a Python string

`str.splitlines` cuts at more characters than a line feed and a carriage return (`lineEnds`).
Beside it stand the other methods that look at a text character by character: `replace` and `count`
for a text of two characters, and the front of a text that fits in some bytes.
-/

namespace Py

open Lib

/-- Where `str.splitlines` cuts. -/
def lineEnds : LineEnds Char where
  isEnd c := c ∈ ['\n', '\r', Char.ofNat 0x0b, Char.ofNat 0x0c, Char.ofNat 0x1c, Char.ofNat 0x1d,
    Char.ofNat 0x1e, Char.ofNat 0x85, Char.ofNat 0x2028, Char.ofNat 0x2029]
  cr := '\r'
  lf := '\n'
  cr_ne_lf := by decide
  isEnd_cr := by decide
  isEnd_lf := by decide

/-- `str.splitlines` -/
def splitlines (text : String) : List String :=
  (lineEnds.lines text.toList).map fun l => String.ofList l.text

/-- `text.replace(ab, new)` for a text `ab` of two characters. -/
def replacePair (a b : Char) (new : List Char) : List Char → List Char
  | [] => []
  | [c] => [c]
  | c :: d :: rest =>
    if c = a ∧ d = b then new ++ replacePair a b new rest else c :: replacePair a b new (d :: rest)

/-- `text.count(ab)` for a text `ab` of two characters. -/
def countPair (a b : Char) : List Char → ℕ
  | [] => 0
  | [_] => 0
  | c :: d :: rest => if c = a ∧ d = b then countPair a b rest + 1 else countPair a b (d :: rest)

/-- `text.encode()[:n].decode(errors="ignore")` -/
def takeBytes : ℕ → List Char → List Char
  | _, [] => []
  | n, c :: text => if c.utf8Size ≤ n then c :: takeBytes (n - c.utf8Size) text else []

end Py

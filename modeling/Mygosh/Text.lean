/-
  File:      Mygosh/Text.lean
  Subject:   The functions of Go's `strings` and `path/filepath` that text checks are made of.

  A text is a sequence of code points; its length is the number of bytes of its UTF-8 form, as
  `len` counts it. Maps with text keys are association lists with distinct keys.
-/
import Mathlib.Data.List.AList
import Mathlib.Data.List.DropRight
import Mathlib.Data.List.Sort
import Mathlib.Tactic

namespace Mygosh

/-! ## 1. Texts -/

/-- `unicode.IsSpace`. -/
def isSpace (c : Char) : Bool :=
  [0x09, 0x0a, 0x0b, 0x0c, 0x0d, 0x20, 0x85, 0xa0, 0x1680, 0x2028, 0x2029, 0x202f, 0x205f,
    0x3000].contains c.toNat || (0x2000 ≤ c.toNat && c.toNat ≤ 0x200a)

/-- `strings.TrimSpace`. -/
def trimSpace (s : String) : String :=
  String.ofList ((s.toList.dropWhile isSpace).reverse.dropWhile isSpace).reverse

/-- `strings.ContainsRune`. -/
def containsRune (s : String) (c : Char) : Bool := s.toList.contains c

/-- `strings.ContainsAny`. -/
def containsAny (s chars : String) : Bool := s.toList.any (chars.toList.contains ·)

/-- The code point U+0000. -/
def nul : Char := Char.ofNat 0

/-- `len` of a string: its size in bytes. -/
def byteLength (s : String) : Nat := s.utf8ByteSize

/-- `slices.Sort` on texts. -/
def sortTexts (names : List String) : List String := names.insertionSort (· ≤ ·)

theorem mem_sortTexts {name : String} {names : List String} :
    name ∈ sortTexts names ↔ name ∈ names :=
  List.mem_insertionSort _

theorem sortTexts_sortTexts (names : List String) : sortTexts (sortTexts names) = sortTexts names :=
  (List.pairwise_insertionSort (· ≤ ·) names).insertionSort_eq

/-- What is left starts where the text without leading white space starts. -/
theorem trimSpace_trimSpace (s : String) : trimSpace (trimSpace s) = trimSpace s := by
  let l := s.toList.dropWhile isSpace
  let r := l.rdropWhile isSpace
  have hl : l.dropWhile isSpace = l := List.dropWhile_idempotent _ _
  have hr : r.dropWhile isSpace = r := by
    obtain ⟨rest, hrest⟩ : r <+: l := List.rdropWhile_prefix _ _
    cases hr : r with
    | nil => rfl
    | cons x tail =>
      rw [hr] at hrest
      rw [← hrest] at hl
      have hx := List.dropWhile_eq_self_iff.mp hl (by simp)
      exact List.dropWhile_cons_of_neg hx
  have htrim : trimSpace s = String.ofList r := rfl
  rw [htrim, trimSpace, String.toList_ofList, hr]
  exact congrArg String.ofList (List.rdropWhile_idempotent _ _)

/-! ## 2. Paths -/

/-- `filepath.IsAbs` on a Unix system. -/
def isAbs (path : String) : Bool := path.toList.head? = some '/'

/-- `strings.Split` at the separator of paths. -/
def splitPath (path : String) : List String := (path.toList.splitOn '/').map String.ofList

/-- `filepath.Base` on a Unix system: the last element, without trailing slashes. -/
def filepathBase (path : String) : String :=
  if path = "" then "."
  else
    let trimmed := path.toList.reverse.dropWhile (· = '/')
    let last := (trimmed.takeWhile (· ≠ '/')).reverse
    if last = [] then "/" else String.ofList last

/-- One element in the loop of `filepath.Clean`; `out` holds the elements so far, the last one first. -/
def cleanStep (rooted : Bool) (out : List String) (elem : String) : List String :=
  if elem = "" ∨ elem = "." then out
  else if elem = ".." then
    match out with
    | [] => if rooted then [] else [".."]
    | last :: rest => if last = ".." then ".." :: out else rest
  else elem :: out

/-- `filepath.Clean` on a Unix system. -/
def filepathClean (path : String) : String :=
  let elems := (path.toList.splitOn '/').map String.ofList
  let out := (elems.foldl (cleanStep (isAbs path)) []).reverse
  if isAbs path then "/" ++ "/".intercalate out
  else if out = [] then "." else "/".intercalate out

/-- `filepath.Join` of two elements on a Unix system. -/
def filepathJoin (a b : String) : String :=
  if a ≠ "" then filepathClean (a ++ "/" ++ b) else if b ≠ "" then filepathClean b else ""

/-- `filepath.Dir` on a Unix system. -/
def filepathDir (path : String) : String :=
  filepathClean (String.ofList (path.toList.reverse.dropWhile (· ≠ '/')).reverse)

/-! ## 3. Maps with text keys -/

/-- `map[string]string`. -/
abbrev TextMap := AList fun _ : String => String

/-- Every entry of a map with one key set is the new entry or an old one. -/
theorem TextMap.lookup_insert_eq {m : TextMap} {name key value v : String}
    (h : (m.insert key value).lookup name = some v) :
    name = key ∧ v = value ∨ name ≠ key ∧ m.lookup name = some v := by
  by_cases hk : name = key
  · subst hk
    rw [AList.lookup_insert] at h
    exact .inl ⟨rfl, (Option.some.inj h).symm⟩
  · rw [AList.lookup_insert_ne hk] at h
    exact .inr ⟨hk, h⟩

end Mygosh

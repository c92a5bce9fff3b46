/-
  File:      Mygosh/Lines.lean
  Subject:   Texts, their lines, and white space taken off their ends.

  A text is a list of symbols, a line is what stands between two separators. What one symbol of white
  space at either end of a text does not change, taking off all of it does not change: `trim_eq`.
-/
import Mathlib.Data.List.DropRight
import Mathlib.Tactic

namespace Mygosh

variable {α : Type} {space : α → Bool}

/-! ## 1. White space -/

/-- Only white space. -/
def Blank (space : α → Bool) (l : List α) : Prop := ∀ a ∈ l, space a = true

instance (l : List α) : Decidable (Blank space l) := inferInstanceAs (Decidable (∀ a ∈ l, _))

/-- White space is taken off both ends. -/
def trim (space : α → Bool) (l : List α) : List α := (l.dropWhile space).rdropWhile space

theorem blank_nil : Blank space ([] : List α) := fun _ h => nomatch h

theorem blank_cons {a : α} {l : List α} (ha : space a = true) : Blank space (a :: l) ↔ Blank space l := by
  simp [Blank, ha]

theorem blank_concat {a : α} {l : List α} (ha : space a = true) :
    Blank space (l ++ [a]) ↔ Blank space l := by
  simp [Blank, or_imp, forall_and, ha]

/-- **White space at the ends does not matter** to what a symbol of it at either end does not change. -/
theorem trim_eq {β : Type} {f : List α → β} (front : ∀ a l, space a = true → f (a :: l) = f l)
    (back : ∀ a l, space a = true → f (l ++ [a]) = f l) (l : List α) : f (trim space l) = f l := by
  have hfront : f (l.dropWhile space) = f l := by
    induction l with
    | nil => rfl
    | cons a l ih =>
      rw [List.dropWhile_cons]
      split_ifs with ha
      · rw [ih, front a l ha]
      · rfl
  rw [trim, ← hfront]
  generalize l.dropWhile space = m
  induction m using List.reverseRecOn with
  | nil => rfl
  | append_singleton m a ih =>
    rw [List.rdropWhile_concat]
    split_ifs with ha
    · rw [ih, back a m ha]
    · rfl

theorem trim_length_le (l : List α) : (trim space l).length ≤ l.length :=
  (List.rdropWhile_prefix ..).length_le.trans (List.dropWhile_suffix _).length_le

theorem trim_concat {a : α} (ha : space a = true) (l : List α) :
    trim space (l ++ [a]) = trim space l := by
  rw [trim, trim, List.dropWhile_append]
  split_ifs with hl
  · rw [List.dropWhile_cons_of_pos ha, List.isEmpty_iff.mp hl]
    rfl
  · exact List.rdropWhile_concat_pos _ _ _ ha

/-- What is left starts with no white space. -/
theorem trim_front (space : α → Bool) (l : List α) : (trim space l).dropWhile space = trim space l := by
  unfold trim
  cases h : l.dropWhile space with
  | nil => rfl
  | cons a m =>
    have ha : space a = false := by simpa [h] using List.head?_dropWhile_not space l
    cases hr : (a :: m).rdropWhile space with
    | nil => rfl
    | cons b n =>
      obtain ⟨rfl, -⟩ := List.cons_prefix_cons.mp (hr ▸ List.rdropWhile_prefix space (a :: m))
      rw [List.dropWhile_cons_of_neg (by simp [ha])]

/-! ## 2. Lines -/

/-- The last lines end the text. -/
theorem intercalate_suffix (sep : α) (L M : List (List α)) :
    [sep].intercalate M <:+ [sep].intercalate (L ++ M) := by
  induction L with
  | nil => exact List.suffix_rfl
  | cons l L ih =>
    rw [List.cons_append]
    by_cases h : L ++ M = []
    · rw [(List.append_eq_nil_iff.mp h).2]
      exact List.nil_suffix
    · rw [List.intercalate_cons_of_ne_nil h]
      exact ih.trans (List.suffix_append ..)

section Split

variable [DecidableEq α] {sep : α}

/-- **Lines first.** What holds of a text of one line, and of a line in front of a text of which it
    holds, holds of every text. -/
theorem lines_induction (sep : α) {P : List α → Prop} (last : ∀ l, sep ∉ l → P l)
    (more : ∀ l c, sep ∉ l → P c → P (l ++ sep :: c)) (c : List α) : P c := by
  by_cases h : sep ∈ c
  · obtain ⟨l, c', rfl, hl⟩ := List.eq_append_cons_of_mem h
    exact more l c' hl (lines_induction sep last more c')
  · exact last c h
termination_by c.length
decreasing_by
  have hc : c = l ++ sep :: c' := by assumption
  rw [hc]
  simp only [List.length_append, List.length_cons]
  omega

/-- No line holds a separator. -/
theorem sep_notMem_of_mem_splitOn {c : List α} : ∀ l ∈ c.splitOn sep, sep ∉ l := by
  induction c using lines_induction sep with
  | last l hl => rw [List.splitOn_eq_singleton hl]; simpa using hl
  | more l c hl ih =>
    rw [List.splitOn_append_cons_self, List.splitOn_eq_singleton hl]
    simpa using ⟨hl, ih⟩

/-- A symbol behind a text ends its last line, or begins an empty one. -/
theorem splitOn_concat (sep : α) (c : List α) (a : α) : ∃ L l, c.splitOn sep = L ++ [l] ∧
    (c ++ [a]).splitOn sep = L ++ if a = sep then [l, []] else [l ++ [a]] := by
  induction c using lines_induction sep with
  | last l hl =>
    refine ⟨[], l, List.splitOn_eq_singleton hl, ?_⟩
    split_ifs with ha
    · subst ha
      rw [List.splitOn_append_cons_self, List.splitOn_eq_singleton hl]
      rfl
    · exact List.splitOn_eq_singleton (by simpa [hl] using Ne.symm ha)
  | more l c hl ih =>
    obtain ⟨L, m, hc, hca⟩ := ih
    refine ⟨l :: L, m, ?_, ?_⟩
    · rw [List.splitOn_append_cons_self, List.splitOn_eq_singleton hl, hc]
      rfl
    · rw [List.append_assoc, List.cons_append, List.splitOn_append_cons_self,
        List.splitOn_eq_singleton hl, hca]
      rfl

end Split

end Mygosh

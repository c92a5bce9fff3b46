/-
  File:      Mygosh/Tally.lean
  Subject:   Sums over the cells of a heap that is filled in order.

  * `tally f g n` -- the weight `f` of the first `n` cells of `g`;
  * `tally_new`, `tally_set` -- what a new cell and a changed cell do to it;
  * `tally_extend` -- empty cells add nothing; `tally_change` -- one cell changes while new ones,
    which are empty, come into view;
  * `sum_insert_change` -- a sum over a set when one term, which may be new to the set, changes;
  * `sum_update` -- the same for the weights of a family of places, all but finitely many idle;
  * `sum_map_filterMap` -- a sum over selected values, as one over all.
-/
import Mathlib.Tactic
import Mathlib.Algebra.BigOperators.Group.Finset.Basic

namespace Mygosh

open Function (update update_self update_of_ne)

variable {α : Type} {f : α → Nat} {g g' : Nat → α} {n w : Nat} {x : α}

def tally (f : α → Nat) (g : Nat → α) (n : Nat) : Nat := ∑ v ∈ Finset.range n, f (g v)

theorem tally_congr (h : ∀ v < n, f (g' v) = f (g v)) : tally f g' n = tally f g n :=
  Finset.sum_congr rfl fun v hv => h v (Finset.mem_range.1 hv)

/-- Cells outside the first `n` do not count. -/
theorem tally_update_ge (h : n ≤ w) : tally f (update g w x) n = tally f g n :=
  tally_congr fun v hv => by rw [update_of_ne (by omega)]

theorem tally_new : tally f (update g n x) (n + 1) = tally f g n + f x := by
  unfold tally
  rw [Finset.sum_range_succ, update_self]
  exact congrArg (· + f x) (tally_update_ge (Nat.le_refl n))

theorem tally_set (h : w < n) :
    tally f (update g w x) n + f (g w) = tally f g n + f x := by
  induction n with
  | zero => exact absurd h (Nat.not_lt_zero w)
  | succ n ih =>
    rcases Nat.lt_succ_iff_lt_or_eq.1 h with hlt | rfl
    · have := ih hlt
      unfold tally at *
      rw [Finset.sum_range_succ, Finset.sum_range_succ, update_of_ne (by omega : n ≠ w)]
      omega
    · have := tally_new (f := f) (g := g) (n := w) (x := x)
      unfold tally at *
      rw [Finset.sum_range_succ _ w] at this ⊢
      rw [Finset.sum_range_succ (fun v => f (g v)) w]
      omega

theorem le_tally (h : w < n) : f (g w) ≤ tally f g n :=
  Finset.single_le_sum (f := fun v => f (g v)) (fun _ _ => Nat.zero_le _) (Finset.mem_range.2 h)

theorem tally_eq_zero (h : ∀ v < n, f (g v) = 0) : tally f g n = 0 :=
  Finset.sum_eq_zero fun v hv => h v (Finset.mem_range.1 hv)

/-- Empty cells add nothing. -/
theorem tally_extend {m : Nat} (hnm : n ≤ m) (h : ∀ v, n ≤ v → f (g v) = 0) :
    tally f g m = tally f g n := by
  unfold tally
  refine (Finset.sum_subset (Finset.range_subset_range.2 hnm) fun v _ hv => h v ?_).symm
  exact Nat.le_of_not_lt fun hlt => hv (Finset.mem_range.2 hlt)

/-- One cell changes, among the first `n` or from empty to empty, while more cells, all of them
    empty, come into view. -/
theorem tally_change {m : Nat} (hnm : n ≤ m) (hempty : ∀ v, n ≤ v → f (g v) = 0)
    (hw : w < n ∨ f x = 0) :
    tally f (update g w x) m + f (g w) = tally f g n + f x := by
  rcases Nat.lt_or_ge w n with hlt | hge
  · rw [tally_extend hnm fun v hv => ?_, tally_set hlt]
    rw [update_of_ne (by omega)]
    exact hempty v hv
  · have hx : f x = 0 := hw.resolve_left (Nat.not_lt.2 hge)
    rw [hempty w hge, hx, tally_extend hnm fun v hv => ?_, tally_update_ge hge]
    by_cases hv' : v = w
    · rw [hv', update_self, hx]
    · rw [update_of_ne hv', hempty v hv]

/-- A sum in which the term of `t` changes; a term outside the set counts nothing. -/
theorem sum_insert_change {ι : Type} [DecidableEq ι] {ts : Finset ι} {p q : ι → Nat} {t : ι}
    (h0 : t ∉ ts → p t = 0) (h : ∀ u, u ≠ t → q u = p u) :
    ∑ u ∈ insert t ts, q u + p t = ∑ u ∈ ts, p u + q t := by
  have herase : ∑ u ∈ ts.erase t, q u = ∑ u ∈ ts.erase t, p u :=
    Finset.sum_congr rfl fun u hu => h u (Finset.ne_of_mem_erase hu)
  by_cases ht : t ∈ ts
  · rw [Finset.insert_eq_of_mem ht, ← Finset.add_sum_erase ts q ht, ← Finset.add_sum_erase ts p ht,
      herase]
    omega
  · rw [Finset.sum_insert ht, h0 ht]
    rw [Finset.erase_eq_of_notMem ht] at herase
    omega

/-- **One of many moves.** Places outside `ts` are idle and weigh nothing; `t` goes to the place
    `x`, and the weight of the others stays. -/
theorem sum_update {ι σ : Type} [DecidableEq ι] {ts : Finset ι} {place : ι → σ} {idle x : σ}
    {p q : σ → Nat} {t : ι} (hts : ∀ u, u ∉ ts → place u = idle) (h0 : p idle = 0)
    (h : ∀ u, u ≠ t → q (place u) = p (place u)) :
    (∀ u, u ∉ insert t ts → update place t x u = idle) ∧
    p (place t) ≤ ∑ u ∈ ts, p (place u) ∧
    ∑ u ∈ insert t ts, q (update place t x u) + p (place t) = ∑ u ∈ ts, p (place u) + q x := by
  have hself : t ∉ ts → p (place t) = 0 := fun ht => by rw [hts t ht, h0]
  refine ⟨fun u hu => ?_, ?_, ?_⟩
  · obtain ⟨hut, hu⟩ := not_or.mp fun h => hu (Finset.mem_insert.mpr h)
    exact (update_of_ne hut _ _).trans (hts u hu)
  · by_cases ht : t ∈ ts
    · exact Finset.single_le_sum (f := fun u => p (place u)) (fun _ _ => Nat.zero_le _) ht
    · rw [hself ht]
      exact Nat.zero_le _
  · have hsum := sum_insert_change (q := fun u => q (update place t x u)) hself
      fun u hu => by rw [update_of_ne hu, h u hu]
    rwa [update_self] at hsum

/-- Values that are not selected weigh nothing. -/
theorem sum_map_filterMap {α β : Type} (f : α → Option β) (g : β → Nat) (l : List α) :
    ((l.filterMap f).map g).sum = (l.map fun x => ((f x).map g).getD 0).sum := by
  induction l with
  | nil => rfl
  | cons x l ih =>
    cases hx : f x with
    | none => simp [hx, ih]
    | some b => simp [hx, ih]

end Mygosh

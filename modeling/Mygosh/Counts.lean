/-
  File:      Mygosh/Counts.lean
  Subject:   Maps that count how often each key is held, with no entry for a key that is not.

  * `Counts m bag` -- the map holds exactly the multiplicities of the bag;
  * `Counts.add`, `Counts.remove` -- counting up, and counting down with the entry deleted at one;
  * `Counts.sum_eq` -- the counts add up to the size of the bag.
-/
import Mathlib.Data.List.AList
import Mathlib.Algebra.BigOperators.Group.Finset.Basic
import Mathlib.Data.Multiset.Count
import Mathlib.Tactic

namespace Mygosh

/-- A map to integers; a key without an entry reads as zero. -/
abbrev CountMap (ι : Type) := AList fun _ : ι => Int

variable {ι : Type} [DecidableEq ι]

def CountMap.get (m : CountMap ι) (i : ι) : Int := (m.lookup i).getD 0

def CountMap.sum (m : CountMap ι) : Int := (m.entries.map (·.2)).sum

def Counts (m : CountMap ι) (bag : Multiset ι) : Prop :=
  ∀ i, m.lookup i = if i ∈ bag then some (bag.count i : Int) else none

namespace Counts

variable {m : CountMap ι} {bag : Multiset ι} {i : ι}

theorem empty : Counts (∅ : CountMap ι) 0 := fun i => by simp

theorem get_eq (h : Counts m bag) (i : ι) : m.get i = bag.count i := by
  rw [CountMap.get, h i]
  split_ifs with hi
  · rfl
  · rw [Multiset.count_eq_zero_of_notMem hi]
    rfl

theorem mem_iff (h : Counts m bag) (i : ι) : i ∈ m ↔ i ∈ bag := by
  rw [← AList.lookup_isSome, h i]
  split_ifs with hi <;> simp [hi]

theorem add (h : Counts m bag) (i : ι) : Counts (m.insert i (m.get i + 1)) (i ::ₘ bag) := by
  intro j
  by_cases hj : j = i
  · subst hj
    rw [AList.lookup_insert, h.get_eq, if_pos (Multiset.mem_cons_self j bag),
      Multiset.count_cons_self]
    push_cast
    rfl
  · rw [AList.lookup_insert_ne hj, h j, Multiset.count_cons_of_ne hj]
    simp [hj]

theorem remove (h : Counts m bag) (hi : i ∈ bag) :
    Counts (if m.get i ≤ 1 then m.erase i else m.insert i (m.get i - 1)) (bag.erase i) := by
  have hpos : 1 ≤ bag.count i := Multiset.one_le_count_iff_mem.mpr hi
  have hcount : (bag.erase i).count i = bag.count i - 1 := Multiset.count_erase_self i bag
  intro j
  rw [h.get_eq]
  by_cases hj : j = i
  · subst hj
    split_ifs with hle hmem hmem
    -- the last one goes: no entry and nothing left in the bag
    · have := Multiset.one_le_count_iff_mem.mpr hmem
      omega
    · exact AList.lookup_erase j m
    · rw [AList.lookup_insert, hcount]
      push_cast [hpos]
      rfl
    · have := Multiset.count_eq_zero_of_notMem hmem
      omega
  · have hother : (if (bag.count i : Int) ≤ 1 then m.erase i
        else m.insert i ((bag.count i : Int) - 1)).lookup j = m.lookup j := by
      split_ifs
      · exact AList.lookup_erase_ne hj
      · exact AList.lookup_insert_ne hj
    rw [hother, h j, Multiset.count_erase_of_ne hj]
    simp only [Multiset.mem_erase_of_ne hj]

theorem sum_eq (h : Counts m bag) : m.sum = bag.card := by
  have hkeys : m.keys.toFinset = bag.toFinset := by
    ext i
    rw [List.mem_toFinset, Multiset.mem_toFinset, ← AList.mem_keys, h.mem_iff]
  have hentry : ∀ e ∈ m.entries, e.2 = bag.count e.1 := by
    intro e he
    have hlookup : m.lookup e.1 = some e.2 := AList.mem_lookup_iff.mpr he
    rw [← h.get_eq, CountMap.get, hlookup]
    rfl
  calc m.sum = (m.keys.map fun i => (bag.count i : Int)).sum := by
        rw [CountMap.sum, AList.keys, List.keys, List.map_map]
        exact congrArg List.sum (List.map_congr_left hentry)
    _ = ∑ i ∈ bag.toFinset, (bag.count i : Int) := by rw [← hkeys, List.sum_toFinset _ m.keys_nodup]
    _ = bag.card := by
        rw [← Nat.cast_sum, Multiset.toFinset_sum_count_eq]

end Counts

end Mygosh

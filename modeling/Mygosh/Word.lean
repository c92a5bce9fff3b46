/-
  File:      Mygosh/Word.lean
  Subject:   Unsigned machine words as natural numbers with explicit wrapping.

  A value of an unsigned type of width `w` is a natural number below `2 ^ w`. Addition and
  subtraction wrap modulo `2 ^ w`; the lemmas say when a wrap does not happen, which is all a
  proof about counters and windows needs.
-/
import Mathlib.Tactic

namespace Mygosh

/-- `math.MaxUint32`. -/
def maxUint32 : Nat := 4294967295

/-- `math.MaxUint64`. -/
def maxUint64 : Nat := 18446744073709551615

/-- Addition of two `uint32` values. -/
@[irreducible] def addU32 (a b : Nat) : Nat := (a + b) % 4294967296

/-- Subtraction of two `uint32` values; a deficit wraps round. -/
@[irreducible] def subU32 (a b : Nat) : Nat :=
  if b ≤ a then a - b else 4294967296 - (b - a) % 4294967296

/-- Addition of two `uint64` values. -/
@[irreducible] def addU64 (a b : Nat) : Nat := (a + b) % 18446744073709551616

/-- Subtraction of two `uint64` values; a deficit wraps round. -/
@[irreducible] def subU64 (a b : Nat) : Nat :=
  if b ≤ a then a - b else 18446744073709551616 - (b - a) % 18446744073709551616

theorem addU32_eq {a b : Nat} (h : a + b ≤ maxUint32) : addU32 a b = a + b := by
  unfold addU32 maxUint32 at *
  omega

theorem subU32_eq {a b : Nat} (hb : b ≤ a) : subU32 a b = a - b := by
  unfold subU32
  rw [if_pos hb]

theorem addU64_eq {a b : Nat} (h : a + b ≤ maxUint64) : addU64 a b = a + b := by
  unfold addU64 maxUint64 at *
  omega

theorem subU64_eq {a b : Nat} (hb : b ≤ a) : subU64 a b = a - b := by
  unfold subU64
  rw [if_pos hb]

end Mygosh

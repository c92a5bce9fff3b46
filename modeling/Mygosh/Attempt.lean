/-
  File:      Mygosh/Attempt.lean
  Subject:   Computations that return a value, refuse with an error, or panic.

  `Meets x P` says that `x` does not panic and returns exactly the values with `P`. `Meets.bind` and
  its companions give the condition of a composed computation from those of its parts, where a later
  part may rely on what the earlier ones have established.
-/
import Mathlib.Tactic

namespace Mygosh

/-- `none` is a panic. -/
def Attempt (ε α : Type) : Type := Option (Except ε α)

namespace Attempt

variable {ε α β : Type}

instance : Monad (Attempt ε) where
  pure a := some (.ok a)
  bind x f :=
    match x with
    | none => none
    | some (.error e) => some (.error e)
    | some (.ok a) => f a

/-- The computation returns `a`. -/
def Returns (x : Attempt ε α) (a : α) : Prop := x = some (.ok a)

def refuse (e : ε) : Attempt ε α := some (.error e)

/-- A check. -/
def ensure (c : Prop) [Decidable c] (e : ε) : Attempt ε Unit := if c then pure () else refuse e

/-- A partial operation that panics where it is not defined. -/
def ofOption (o : Option α) : Attempt ε α := o.map .ok

structure Meets (x : Attempt ε α) (P : α → Prop) : Prop where
  safe : x ≠ none
  returns : ∀ a, x.Returns a ↔ P a

variable {x : Attempt ε α} {P P' : α → Prop}

theorem Meets.congr (h : x.Meets P) (hP : ∀ a, P a ↔ P' a) : x.Meets P' :=
  ⟨h.safe, fun a => (h.returns a).trans (hP a)⟩

theorem meets_pure (a : α) : (pure a : Attempt ε α).Meets fun b => b = a := by
  refine ⟨(fun h => nomatch h), fun b => ?_⟩
  constructor
  · intro h
    exact (Except.ok.inj (Option.some.inj h)).symm
  · rintro rfl
    rfl

theorem meets_refuse (e : ε) : (refuse e : Attempt ε α).Meets fun _ => False :=
  ⟨(fun h => nomatch h), fun _ => ⟨(fun h => nomatch Option.some.inj h), False.elim⟩⟩

/-- **In sequence**: the second part is given a value that meets the condition of the first. -/
theorem Meets.bind {f : α → Attempt ε β} {Q : α → β → Prop} (hx : x.Meets P)
    (hf : ∀ a, P a → (f a).Meets (Q a)) : (x >>= f).Meets fun b => ∃ a, P a ∧ Q a b := by
  rcases x with - | e | a
  · exact absurd rfl hx.safe
  · have hnone : ∀ a, ¬P a := fun a ha => nomatch Option.some.inj ((hx.returns a).mpr ha)
    exact (meets_refuse e).congr fun b => ⟨False.elim, fun ⟨a, ha, _⟩ => hnone a ha⟩
  · have hP : ∀ b, P b ↔ b = a := fun b => (hx.returns b).symm.trans ((meets_pure a).returns b)
    refine (hf a ((hP a).mpr rfl)).congr fun b => ?_
    constructor
    · intro h
      exact ⟨a, (hP a).mpr rfl, h⟩
    · rintro ⟨a', ha', h⟩
      rwa [(hP a').mp ha'] at h

/-- Behind a check its condition is known. -/
theorem Meets.ensure {c : Prop} [Decidable c] {e : ε} {f : Unit → Attempt ε β} {Q : β → Prop}
    (hf : c → (f ()).Meets Q) : (Attempt.ensure c e >>= f).Meets fun b => c ∧ Q b := by
  unfold Attempt.ensure
  by_cases hc : c
  · rw [if_pos hc]
    exact (hf hc).congr fun b => ⟨fun h => ⟨hc, h⟩, And.right⟩
  · rw [if_neg hc]
    exact (meets_refuse e).congr fun b => ⟨False.elim, fun h => hc h.1⟩

end Attempt

end Mygosh

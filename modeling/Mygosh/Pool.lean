/-
  File:      Mygosh/Pool.lean
  Subject:   Any number of machines of one kind beside a state that they share.

  * `Pool` -- how a machine starts and steps, and how the shared state changes.
  * `Pool.lts` -- the system: a machine joins, the shared state changes, or one machine steps.
  * `Pool.forall_mem` -- what every step of a machine keeps holds of all machines in every run.
  * `Pool.path` -- where a machine can go on its own it can go inside the pool.
-/
import Mygosh.Lts

namespace Mygosh

structure Pool (σ β γ α ε : Type) where
  shared : σ
  share : σ → β → σ
  join : γ
  step : σ → γ → α → Option (γ × List ε)

namespace Pool

variable {σ β γ α ε : Type}

structure State (σ γ : Type) where
  shared : σ
  members : List γ

inductive Act (β α : Type) where
  | join
  | share (b : β)
  | member (i : Nat) (a : α)

/-- The machines run side by side; an event carries the number of the machine that shows it. -/
def lts (P : Pool σ β γ α ε) : Lts (State σ γ) (Act β α) (Nat × ε) where
  start := ⟨P.shared, []⟩
  step s
    | .join => some ({ s with members := s.members ++ [P.join] }, [])
    | .share b => some ({ s with shared := P.share s.shared b }, [])
    | .member i a =>
      match s.members[i]? with
      | none => none
      | some c => (P.step s.shared c a).map fun r =>
        ({ s with members := s.members.set i r.1 }, r.2.map (Prod.mk i))

/-- The condition `K` on the steps of machines. -/
def Meets (K : σ → γ → α → Prop) (s : State σ γ) : Act β α → Prop
  | .member i a => ∀ c ∈ s.members[i]?, K s.shared c a
  | _ => True

instance {K : σ → γ → α → Prop} [∀ x c a, Decidable (K x c a)] (s : State σ γ) :
    ∀ a : Act β α, Decidable (Meets K s a)
  | .join | .share _ => inferInstanceAs (Decidable True)
  | .member i a => inferInstanceAs (Decidable (∀ c ∈ s.members[i]?, K s.shared c a))

variable {P : Pool σ β γ α ε} {K : σ → γ → α → Prop} {s s' : State σ γ} {a : α} {c c' : γ} {i : Nat}
  {evs : List (Nat × ε)}

theorem step_member (hi : s.members[i]? = some c) {es : List ε}
    (hs : P.step s.shared c a = some (c', es)) :
    P.lts.step s (.member i a) =
      some ({ s with members := s.members.set i c' }, es.map (Prod.mk i)) := by
  simp only [lts, hi, hs, Option.map_some]

theorem of_step_member (h : P.lts.step s (.member i a) = some (s', evs)) :
    ∃ c c' es, s.members[i]? = some c ∧ P.step s.shared c a = some (c', es) ∧
      s' = { s with members := s.members.set i c' } ∧ evs = es.map (Prod.mk i) := by
  simp only [lts] at h
  split at h
  · cases h
  rename_i c hi
  obtain ⟨⟨c', es⟩, hs, heq⟩ := Option.map_eq_some_iff.mp h
  cases heq
  exact ⟨c, c', es, hi, hs, rfl, rfl⟩

theorem getElem?_set_member (hi : s.members[i]? = some c) : (s.members.set i c')[i]? = some c' :=
  List.getElem?_set_self (List.getElem?_eq_some_iff.mp hi).1

/-- **What every step of a machine keeps holds of all machines in every run.** -/
theorem forall_mem {I : γ → Prop} {tr : List (Nat × ε)} (h0 : I P.join)
    (hstep : ∀ {x c a c' es}, I c → K x c a → P.step x c a = some (c', es) → I c')
    (h : P.lts.Run (Meets K) tr s) : ∀ c ∈ s.members, I c := by
  refine h.invariant (I := fun _ s => ∀ c ∈ s.members, I c) (fun _ hc => (List.not_mem_nil hc).elim) ?_
  intro tr evs s s' a _ ih hK hs
  cases a with
  | join =>
    cases hs
    intro c hc
    rcases List.mem_append.mp hc with hc | hc
    · exact ih c hc
    · cases List.mem_singleton.mp hc
      exact h0
  | share b =>
    cases hs
    exact ih
  | member i a =>
    obtain ⟨c, c', es, hi, hcs, rfl, -⟩ := of_step_member hs
    have hc' : I c' := hstep (ih c (List.mem_of_getElem? hi)) (hK c hi) hcs
    intro d hd
    rcases List.mem_or_eq_of_mem_set hd with hd | rfl
    · exact ih d hd
    · exact hc'

/-- One machine, while the shared state is `x`. -/
def alone (P : Pool σ β γ α ε) (x : σ) : Lts γ α ε := ⟨P.join, P.step x⟩

/-- **Where a machine can go on its own it can go inside the pool.** -/
theorem path {tr : List ε} (hi : s.members[i]? = some c)
    (hp : (P.alone s.shared).Path (fun _ _ => True) c tr c') :
    P.lts.Path (fun _ _ => True) s (tr.map (Prod.mk i)) { s with members := s.members.set i c' } := by
  induction hp with
  | refl =>
    have hself : s.members.set i c = s.members := by
      obtain ⟨hlt, rfl⟩ := List.getElem?_eq_some_iff.mp hi
      exact List.set_getElem_self hlt
    rw [hself]
    exact .refl
  | @step tr es c₁ c₂ a hp _ hs ih =>
    have hnext := step_member (P := P) (s := { s with members := s.members.set i c₁ })
      (getElem?_set_member hi) hs
    rw [List.set_set] at hnext
    rw [List.map_append]
    exact .step ih trivial hnext

end Pool

end Mygosh

/-
  File:      Mygosh/Lts.lean
  Subject:   Labelled transition systems with a visible trace.

  * `Lts` -- a start state and a partial step function: an action either is not possible or
    leads to one state and shows a list of events.
  * `Lts.Run C tr s` -- some run shows `tr` and ends in `s`, and each of its steps meets the
    condition `C` on the state before it and the action.
  * `Run.invariant` -- the induction rule for a property of trace and state.
  * `Path C s tr s'` -- how a run goes on from `s`; `Run.keeps` is its induction rule.
  * `Explained Q tr` -- each event of a trace has what `Q` wants of the events before it.
  * `recording` -- the system with a record of what its steps did, which no step reads.
  * `replay` -- a list of actions as a run; `exists_run_of_replay` turns an evaluation of it into
    a statement about runs.
-/
import Mathlib.Tactic

namespace Mygosh

structure Lts (σ α ε : Type) where
  start : σ
  step : σ → α → Option (σ × List ε)

namespace Lts

variable {σ α ε : Type} (L : Lts σ α ε)

/-! ## 1. Runs -/

inductive Run (C : σ → α → Prop) : List ε → σ → Prop where
  | start : Run C [] L.start
  | step {tr evs : List ε} {s s' : σ} {a : α} (h : Run C tr s) (hc : C s a)
      (hs : L.step s a = some (s', evs)) : Run C (tr ++ evs) s'

variable {L} {C D : σ → α → Prop} {tr : List ε} {s : σ}

/-- **The invariant rule.** What holds at the start and is kept by every step that meets the
    condition holds at the end of every run. -/
theorem Run.invariant {I : List ε → σ → Prop} (h0 : I [] L.start)
    (hstep : ∀ {tr evs s s' a}, L.Run C tr s → I tr s → C s a → L.step s a = some (s', evs) →
      I (tr ++ evs) s')
    (h : L.Run C tr s) : I tr s := by
  induction h with
  | start => exact h0
  | step hr hc hs ih => exact hstep hr ih hc hs

/-- A weaker condition admits more runs. -/
theorem Run.mono (hCD : ∀ s a, C s a → D s a) (h : L.Run C tr s) : L.Run D tr s := by
  induction h with
  | start => exact .start
  | step _ hc hs ih => exact .step ih (hCD _ _ hc) hs

/-- A run goes on: from `s` it shows `tr` and comes to another state. -/
inductive Path (L : Lts σ α ε) (C : σ → α → Prop) (s : σ) : List ε → σ → Prop where
  | refl : Path L C s [] s
  | step {tr evs : List ε} {s₁ s₂ : σ} {a : α} (h : Path L C s tr s₁) (hc : C s₁ a)
      (hs : L.step s₁ a = some (s₂, evs)) : Path L C s (tr ++ evs) s₂

theorem Path.trans {tr tr' : List ε} {s₁ s' : σ} (h : L.Path C s tr s₁) (hp : L.Path C s₁ tr' s') :
    L.Path C s (tr ++ tr') s' := by
  induction hp with
  | refl => simpa using h
  | step _ hc hs ih => rw [← List.append_assoc]; exact .step ih hc hs

theorem Path.head {tr' evs : List ε} {s₁ s' : σ} {a : α} (hc : C s a)
    (hs : L.step s a = some (s₁, evs)) (hp : L.Path C s₁ tr' s') : L.Path C s (evs ++ tr') s' := by
  have hone : L.Path C s ([] ++ evs) s₁ := .step .refl hc hs
  exact hone.trans hp

theorem Run.path {tr' : List ε} {s' : σ} (h : L.Run C tr s) (hp : L.Path C s tr' s') :
    L.Run C (tr ++ tr') s' := by
  induction hp with
  | refl => simpa using h
  | step _ hc hs ih => rw [← List.append_assoc]; exact .step ih hc hs

/-- **What every step of a run keeps is kept from then on.** -/
theorem Run.keeps {P : σ → Prop} {tr' : List ε} {s' : σ} (h : L.Run C tr s) (hP : P s)
    (hstep : ∀ {tr evs s s' a}, L.Run C tr s → P s → C s a → L.step s a = some (s', evs) → P s')
    (hp : L.Path C s tr' s') : P s' := by
  induction hp with
  | refl => exact hP
  | step hp hc hs ih => exact hstep (h.path hp) ih hc hs

/-! ## 2. What comes before an event -/

section Explained

variable {Q : List ε → ε → Prop} {evs : List ε} {e : ε}

/-- Every event of the trace is explained, by `Q`, by the events before it. -/
def Explained (Q : List ε → ε → Prop) (tr : List ε) : Prop :=
  ∀ pre e post, tr = pre ++ e :: post → Q pre e

theorem Explained.nil : Explained Q [] := fun _ _ _ h => by simp at h

theorem Explained.append (h : Explained Q tr)
    (hevs : Explained (fun pre e => Q (tr ++ pre) e) evs) : Explained Q (tr ++ evs) := by
  intro pre e post heq
  rcases List.append_eq_append_iff.mp heq with ⟨mid, rfl, hmid⟩ | ⟨mid, rfl, hmid⟩
  · exact hevs mid e post hmid
  · cases mid with
    | nil => simpa using hevs [] e post hmid.symm
    | cons f mid =>
      obtain ⟨rfl, -⟩ := List.cons.inj hmid
      exact h pre e mid rfl

theorem Explained.left (h : Explained Q (tr ++ evs)) : Explained Q tr := by
  intro pre e post heq
  exact h pre e (post ++ evs) (by rw [heq]; simp)

theorem Explained.concat (h : Explained Q tr) (he : Q tr e) : Explained Q (tr ++ [e]) := by
  refine h.append fun pre f post heq => ?_
  cases pre with
  | nil =>
    obtain ⟨rfl, -⟩ := List.cons.inj heq
    simpa using he
  | cons g pre => simp at heq

theorem Explained.of_mem (h : Explained Q tr) (he : e ∈ tr) :
    ∃ pre post, tr = pre ++ e :: post ∧ Q pre e := by
  obtain ⟨pre, post, rfl⟩ := List.append_of_mem he
  exact ⟨pre, post, rfl, h pre e post rfl⟩

/-- The same, evaluated: `pre` has been shown, `tr` comes next. -/
def explainedFrom (q : List ε → ε → Bool) (pre : List ε) : List ε → Bool
  | [] => true
  | e :: tr => q pre e && explainedFrom q (pre ++ [e]) tr

theorem explained_of_check {q : List ε → ε → Bool} (hq : ∀ pre e, q pre e = true → Q pre e)
    {shown : List ε} (hs : Explained Q shown) (h : explainedFrom q shown tr = true) :
    Explained Q (shown ++ tr) := by
  induction tr generalizing shown with
  | nil => simpa using hs
  | cons e tr ih =>
    obtain ⟨he, ht⟩ := Bool.and_eq_true_iff.mp h
    simpa using ih (hs.concat (hq _ _ he)) ht

end Explained

/-! ## 3. Records -/

section Recording

variable {η : Type} {h₀ : η} {note : σ → σ → η → η}

/-- The system with a record, to which each step adds its note on the states before and after it. -/
def recording (L : Lts σ α ε) (h₀ : η) (note : σ → σ → η → η) : Lts (σ × η) α ε where
  start := (L.start, h₀)
  step x a := (L.step x.1 a).map fun r => ((r.1, note x.1 r.1 x.2), r.2)

theorem recording_step {x : σ × η} {a : α} {s' : σ} {k : η} {evs : List ε} :
    (L.recording h₀ note).step x a = some ((s', k), evs) ↔
      L.step x.1 a = some (s', evs) ∧ k = note x.1 s' x.2 := by
  simp only [recording, Option.map_eq_some_iff, Prod.mk.injEq, Prod.exists]
  constructor
  · rintro ⟨s₁, evs₁, hs, ⟨rfl, rfl⟩, rfl⟩
    exact ⟨hs, rfl⟩
  · rintro ⟨hs, rfl⟩
    exact ⟨s', evs, hs, ⟨rfl, rfl⟩, rfl⟩

/-- **Every run has a record, and records add no runs.** -/
theorem run_recording_iff : L.Run C tr s ↔
    ∃ k, (L.recording h₀ note).Run (fun x a => C x.1 a) tr (s, k) := by
  constructor
  · intro h
    induction h with
    | start => exact ⟨h₀, .start⟩
    | step _ hc hs ih =>
      obtain ⟨k, hk⟩ := ih
      exact ⟨_, .step hk hc (recording_step.mpr ⟨hs, rfl⟩)⟩
  · rintro ⟨k, h⟩
    have hrun := h.invariant (I := fun tr x => L.Run C tr x.1) .start
      fun {tr evs x x' a} _ ih hc hs => .step ih hc ((recording_step (x := x)).mp hs).1
    exact hrun

end Recording

/-! ## 4. Replaying a list of actions -/

variable (L)

/-- Run the actions `as` from a run that has shown `tr` and is in state `s`; `none` as soon as one
    of them is not possible or does not meet the condition. -/
def replay (C : σ → α → Prop) [∀ s a, Decidable (C s a)] (tr : List ε) (s : σ) :
    List α → Option (List ε × σ)
  | [] => some (tr, s)
  | a :: as =>
    if C s a then
      match L.step s a with
      | some (s', evs) => replay C (tr ++ evs) s' as
      | none => none
    else none

variable {L} [∀ s a, Decidable (C s a)]

theorem run_of_replay {as : List α} {tr' : List ε} {s' : σ} (h : L.Run C tr s)
    (hr : L.replay C tr s as = some (tr', s')) : L.Run C tr' s' := by
  induction as generalizing tr s with
  | nil =>
    simp only [replay, Option.some.injEq, Prod.mk.injEq] at hr
    obtain ⟨rfl, rfl⟩ := hr
    exact h
  | cons a as ih =>
    rw [replay] at hr
    split at hr
    · rename_i hc
      split at hr
      · rename_i s₁ evs hs
        exact ih (.step h hc hs) hr
      · cases hr
    · cases hr

theorem exists_replay {P : List ε → σ → Prop} [∀ tr s, Decidable (P tr s)] (as : List α)
    (h : (L.replay C [] L.start as).any (fun r => P r.1 r.2) = true) :
    ∃ tr s, L.replay C [] L.start as = some (tr, s) ∧ L.Run C tr s ∧ P tr s := by
  cases hr : L.replay C [] L.start as with
  | none => rw [hr] at h; cases h
  | some r =>
    rw [hr] at h
    exact ⟨r.1, r.2, rfl, run_of_replay .start hr, of_decide_eq_true h⟩

/-- **A replay that ends where `P` holds is a run that does.** -/
theorem exists_run_of_replay {P : List ε → σ → Prop} [∀ tr s, Decidable (P tr s)] (as : List α)
    (h : (L.replay C [] L.start as).any (fun r => P r.1 r.2) = true) :
    ∃ tr s, L.Run C tr s ∧ P tr s := by
  obtain ⟨tr, s, -, hrun, hP⟩ := exists_replay as h
  exact ⟨tr, s, hrun, hP⟩

/-- The same with one more action after the run, taken with the events `evs`. -/
theorem exists_step_of_replay [DecidableEq ε] {P : List ε → σ → Prop} [∀ tr s, Decidable (P tr s)]
    (as : List α) (a : α) (evs : List ε)
    (h : (L.replay C [] L.start as).any (fun r =>
      P r.1 r.2 ∧ (L.step r.2 a).any fun q => q.2 = evs) = true) :
    ∃ tr s s', L.Run C tr s ∧ L.step s a = some (s', evs) ∧ P tr s := by
  obtain ⟨tr, s, hrun, hP, hstep⟩ := exists_run_of_replay
    (P := fun tr s => P tr s ∧ (L.step s a).any fun q => q.2 = evs) as h
  obtain ⟨q, hq, he⟩ := (Option.any_eq_true _ _).mp hstep
  exact ⟨tr, s, q.1, hrun, by rw [hq, ← of_decide_eq_true he], hP⟩

end Lts

end Mygosh

/-
  File:      Mygosh/Session/Ended.lean
  Subject:   The end of a channel, as those who have seen it rely on it.

  * `Relies`, `recvEOF_of_step` -- how a goroutine gets to a section in which it relies on an end it
    has seen, and why `Recv` reports one;
  * `Ending`, `ending_run` -- a channel whose context has been cancelled, or is about to be, takes in
    nothing more and has nothing unread.
-/
import Mygosh.Session.Budget
import Mygosh.Session.Locals

namespace Mygosh.Mux

open Function (update update_self update_of_ne)
open Session

/-! ## 1. Who is where -/

/-- A worker that is handling the peer's close. -/
def Pc.handlesClose : Pc → Bool
  | .workRelease .close | .workClose | .workClosed _ => true
  | _ => false

/-- Counters at which a goroutine relies on what it has seen of a channel. -/
def Pc.relies : Pc → Bool
  | .recvCancel _ | .workRelease _ | .workClose | .workClosed _ => true
  | _ => false

/-- How a goroutine gets to such a counter. -/
inductive Relies (s : Session) (t : Tid) : Pc → Out → Prop where
  | no {pc o} (h : o.pc.relies = false) : Relies s t pc o
  | recvClosed {i} (hf : (s.chan i).frames = []) (hs : (s.chan i).state = .channelClosed) :
      Relies s t (.recvLoop i) ⟨s, .recvCancel i, []⟩
  | taken {i o ev rest} (ht : t = .worker i) (h : (s.chan i).events = ev :: rest)
      (hc : o.sess.chan i = { s.chan i with events := rest }) (hp : o.pc = .workRelease ev) :
      Relies s t .work o
  | close {o} (hp : o.pc = .workClose) : Relies s t (.workRelease .close) o
  | closed {i o} (ht : t = .worker i) (hf : (o.sess.chan i).frames = (s.chan i).frames)
      (hp : o.pc = .workClosed ((s.chan i).frames = [])) : Relies s t .workClose o

section Places

variable {cfg : Config} {s : Session} {t : Tid} {pc pc' : Pc} {o : Out} {i : Nat}

theorem Resumes.relies (h : Resumes pc) : pc.relies = false := by cases h <;> rfl

theorem moves_relies (h : Moves cfg s t pc pc') : Relies s t pc ⟨s, pc', []⟩ := by
  cases h with
  | start h => exact .no (by cases h <;> rfl)
  | shutdownOver => exact .no (downPc_resumes _).relies
  | requestGone => exact .no (droppedPc_resumes ..).relies
  | recvClosed hf hs => exact .recvClosed hf hs
  | _ => exact .no rfl

theorem relies_of_step (h : Effect cfg s t pc o) : Relies s t pc o := by
  cases h with
  | move h => exact moves_relies h
  | found _ _ h =>
    cases h with
    | channel ha => exact .no (by cases ha <;> rfl)
    | _ => exact .no rfl
  | refused | routeFails => exact .no rfl
  | send h =>
    cases h with
    | reserved | pushSync => exact .no rfl
    | _ => exact .no (contPc_resumes ..).relies
  | down h =>
    cases h with
    | queues => exact .no (downPc_resumes _).relies
    | _ => exact .no rfl
  | work h =>
    cases h with
    | taken he => exact .taken rfl he (update_self ..) rfl
    | close => exact .close rfl
    | @remoteClose i =>
      refine .closed rfl ?_ rfl
      show (update s.chan i _ i).frames = _
      rw [update_self]
      rfl
    | _ => exact .no rfl
  | close h =>
    cases h with
    | requestReleased => exact .no (droppedPc_resumes ..).relies
    | _ => exact .no rfl
  | _ h => cases h <;> exact .no rfl

theorem contEvents_recvEOF {e : Option Err} {k : Cont} : .recvEOF i ∉ contEvents e k := by
  cases k <;> cases e <;> simp [contEvents]

/-- Why `Recv` reports the end of a stream. -/
theorem recvEOF_of_step (h : Effect cfg s t pc o) (he : .recvEOF i ∈ o.events) :
    i ∈ pc.ids ∧ o.events = [.recvEOF i] ∧ (pc = .recvLoop i ∧ Ends s i ∧ o.sess = s ∨
      pc = .recvCancel i ∧ o.sess = s.cancelChannel i .channelClosed ∨
      (∃ gen, pc = .recvWait i gen) ∧ (s.chanCause i).isSome = true ∧ o.sess = s) := by
  cases h with
  | data h =>
    cases h with
    | recvEOF h =>
      cases List.mem_singleton.mp he
      exact ⟨List.mem_singleton.mpr rfl, rfl, .inl ⟨rfl, h, rfl⟩⟩
    | recvCancel =>
      cases List.mem_singleton.mp he
      exact ⟨List.mem_singleton.mpr rfl, rfl, .inr (.inl ⟨rfl, rfl⟩)⟩
    | recvDone hc =>
      cases List.mem_singleton.mp he
      exact ⟨List.mem_singleton.mpr rfl, rfl, .inr (.inr ⟨⟨_, rfl⟩, hc, rfl⟩)⟩
    | _ => simp at he
  | send h =>
    cases h with
    | pushAsync =>
      rcases List.mem_cons.mp he with he | he
      · cases he
      · exact absurd he contEvents_recvEOF
    | reserved | pushSync => simp at he
    | _ => exact absurd he contEvents_recvEOF
  | move | found | refused | routeFails => simp at he
  | _ h => cases h <;> simp at he

end Places

/-! ## 2. A channel that has ended -/

/-- The peer has closed, and nothing is left to read. -/
def Channel.Ended (c : Channel) : Prop := c.state = .channelClosed ∧ c.frames = []

/-- The close event comes with the closed state, and a cancelled context with an empty queue that
    stays empty. -/
structure Channel.Cut (c : Channel) : Prop where
  last : .close ∈ c.events → c.state = .channelClosed
  ctx : c.ctxErr ≠ none → c.state.dead = true ∧ c.frames = []

/-- A closed channel stays closed. -/
theorem Shift.closed_kept {j : Nat} {pc : Pc} {st st' : ChannelState} (h : Shift j pc st st')
    (hc : st = .channelClosed) : st' = .channelClosed := by
  subst hc
  cases h with
  | refl => rfl
  | eof h => cases h
  | closed => rfl
  | halfClosed h => cases h
  | undone h => rcases h with h | h <;> cases h

section Step

variable {cfg : Config} {s : Session} {t : Tid} {pc : Pc} {o : Out} {j : Nat}

/-- **A closed channel stays closed.** -/
theorem HoldAt.closed_kept (h : HoldAt cfg s t pc o j) (hs : (s.chan j).state = .channelClosed)
    (hj : j < s.nextLocalChannelID) : (o.sess.chan j).state = .channelClosed := by
  cases h with
  | keep _ hk hst => exact hst.closed_kept hs
  | cancel _ hc | take _ _ hc | recv _ _ hc =>
    rw [hc]
    exact hs
  | new hj' => exact absurd hj (Nat.not_lt.mpr hj')
  | add ha =>
    rw [hs] at ha
    cases ha
  | discard _ _ _ _ hs' => exact hs' hs

/-- **What has ended has ended for good.** -/
theorem Channel.Ended.step (h : HoldAt cfg s t pc o j) (hE : (s.chan j).Ended)
    (hj : j < s.nextLocalChannelID) : (o.sess.chan j).Ended := by
  refine ⟨h.closed_kept hE.1 hj, ?_⟩
  obtain ⟨hs, hf⟩ := hE
  cases h with
  | keep _ hk => exact hk.frames.trans hf
  | cancel _ hc | take _ _ hc =>
    rw [hc]
    exact hf
  | new hj' => exact absurd hj (Nat.not_lt.mpr hj')
  | add ha =>
    rw [hs] at ha
    cases ha
  | recv _ hf' =>
    rw [hf] at hf'
    cases hf'
  | discard _ hf' => exact hf'

/-- **Every step keeps it**, if a channel that is cancelled has ended. -/
theorem Channel.Cut.step (h : HoldAt cfg s t pc o j) (hC : (s.chan j).Cut)
    (hcancel : t = .worker j ∧ pc = .workClosed true ∨ pc = .recvCancel j → (s.chan j).Ended) :
    (o.sess.chan j).Cut := by
  cases h with
  | keep _ hk hs =>
    refine ⟨fun hl => hs.closed_kept (hC.last (hk.events ▸ hl)), fun hx => ?_⟩
    obtain ⟨hd, hf⟩ := hC.ctx (hk.ctx ▸ hx)
    exact ⟨hs.dead hd, hk.frames.trans hf⟩
  | cancel _ hc hp =>
    obtain ⟨hs, hf⟩ := hcancel hp
    rw [hc]
    exact ⟨hC.last, fun _ => ⟨congrArg ChannelState.dead hs, hf⟩⟩
  | new _ _ _ he hx =>
    refine ⟨fun hl => ?_, fun h => absurd hx h⟩
    rw [he] at hl
    cases hl
  | add hs ha =>
    -- what takes something in is not dead, so it has been neither cancelled nor closed
    have halive : (s.chan j).ctxErr = none := by
      by_contra hx
      exact absurd (hC.ctx hx).1 (Bool.eq_false_iff.mp (allows_alive hs))
    have hopen : .close ∉ (s.chan j).events := fun hl => by
      rw [hC.last hl] at hs
      cases hs
    cases ha with
    | frame _ hk =>
      exact ⟨fun hl => absurd (hk.events ▸ hl) hopen, fun h => absurd (hk.ctx.trans halive) h⟩
    | event hk hst =>
      refine ⟨fun hl => ?_, fun h => absurd (hk.ctx.trans halive) h⟩
      rw [hk.events] at hl
      have hev := List.mem_singleton.mp ((List.mem_append.mp hl).resolve_left hopen)
      exact hst.resolve_left fun h => h.2 hev.symm
  | take _ he hc =>
    rw [hc]
    exact ⟨fun hl => hC.last (he ▸ List.mem_cons_of_mem _ hl), hC.ctx⟩
  | recv _ hf hc =>
    rw [hc]
    refine ⟨hC.last, fun hx => ?_⟩
    rw [(hC.ctx hx).2] at hf
    cases hf
  | discard _ hf he hd hs => exact ⟨fun hl => hs (hC.last (he ▸ hl)), fun _ => ⟨hd, hf⟩⟩

end Step

/-! ## 3. Along a run -/

/-- **Who relies on the end of a channel is right.** -/
structure Ending (m : Machine) : Prop where
  cut : ∀ i, (m.sess.chan i).Cut
  handling : ∀ i, (m.pc (.worker i)).handlesClose = true → (m.sess.chan i).state = .channelClosed
  cancelNow : ∀ i, m.pc (.worker i) = .workClosed true → (m.sess.chan i).frames = []
  cancels : ∀ t i, m.pc t = .recvCancel i → (m.sess.chan i).Ended

theorem ending_start : Ending Machine.start where
  cut _ := ⟨fun h => absurd h List.not_mem_nil, fun h => absurd rfl h⟩
  handling _ h := by cases h
  cancelNow _ h := by cases h
  cancels _ _ h := by cases h

theorem Pc.handlesClose_relies {pc : Pc} (h : pc.handlesClose = true) : pc.relies = true := by
  cases pc <;> first | rfl | cases h

theorem Pc.handlesClose_role {pc : Pc} (h : pc.handlesClose = true) : pc.role = some .worker := by
  cases pc <;> first | rfl | cases h

/-- A worker at work is a worker of a channel that has been made. -/
theorem Pairing.worker_lt (hP : Pairing tr m) {i : Nat} (h : (m.pc (.worker i)).role = some .worker) :
    i < m.sess.nextLocalChannelID := by
  obtain ⟨p, hp⟩ := hP.worker i h
  exact hP.lt i p hp

section Ending

variable {cfg : Config} {tr : List Event} {m : Machine} {t : Tid} {o : Out}

/-- A channel whose context is about to be cancelled has ended. -/
theorem Ending.ended (hI : Ending m) {j : Nat}
    (hp : t = .worker j ∧ m.pc t = .workClosed true ∨ m.pc t = .recvCancel j) :
    (m.sess.chan j).Ended := by
  rcases hp with ⟨rfl, hp⟩ | hp
  · exact ⟨hI.handling j (by rw [hp]; rfl), hI.cancelNow j hp⟩
  · exact hI.cancels t j hp

theorem Ending.handling_step (hI : Ending m) (hP : Pairing tr m)
    (he : Effect cfg m.sess t (m.pc t) o) (hat : ∀ j, HoldAt cfg m.sess t (m.pc t) o j) (i : Nat)
    (h : (update m.pc t o.pc (.worker i)).handlesClose = true) :
    (o.sess.chan i).state = .channelClosed := by
  have hkept : (m.pc (.worker i)).handlesClose = true → (o.sess.chan i).state = .channelClosed :=
    fun h => (hat i).closed_kept (hI.handling i h) (hP.worker_lt (Pc.handlesClose_role h))
  by_cases hv : .worker i = t
  · subst hv
    rw [update_self] at h
    have hr := relies_of_step he
    generalize hpc : m.pc (.worker i) = pc at hr
    cases hr with
    | no hn => exact absurd (Pc.handlesClose_relies h) (Bool.eq_false_iff.mp hn)
    | recvClosed => cases h
    | @taken j _ ev rest ht hev hc hp =>
      cases ht
      rw [hp] at h
      cases ev with
      | close =>
        rw [hc]
        exact (hI.cut i).last (by rw [hev]; exact List.mem_cons_self)
      | _ => cases h
    | close | closed => exact hkept (by rw [hpc]; rfl)
  · rw [update_of_ne hv] at h
    exact hkept h

/-- The worker is told to cancel only if there is nothing unread. -/
theorem Ending.cancelNow_step (hI : Ending m) (hP : Pairing tr m)
    (he : Effect cfg m.sess t (m.pc t) o) (hat : ∀ j, HoldAt cfg m.sess t (m.pc t) o j) (i : Nat)
    (h : update m.pc t o.pc (.worker i) = .workClosed true) :
    (o.sess.chan i).frames = [] := by
  by_cases hv : .worker i = t
  · subst hv
    rw [update_self] at h
    have hr := relies_of_step he
    generalize hpc : m.pc (.worker i) = pc at hr
    cases hr with
    | no hn => rw [h] at hn; cases hn
    | recvClosed => cases h
    | taken _ _ _ hp | close hp => rw [hp] at h; cases h
    | @closed j _ ht hf hp =>
      cases ht
      rw [hp] at h
      exact hf.trans (of_decide_eq_true (Pc.workClosed.inj h))
  · rw [update_of_ne hv] at h
    have hhandles : (m.pc (.worker i)).handlesClose = true := by rw [h]; rfl
    have hE : (m.sess.chan i).Ended := ⟨hI.handling i hhandles, hI.cancelNow i h⟩
    exact (hE.step (hat i) (hP.worker_lt (Pc.handlesClose_role hhandles))).2

/-- `Recv` is about to cancel a channel that has ended. -/
theorem Ending.cancels_step (hI : Ending m) (hK : Known m)
    (he : Effect cfg m.sess t (m.pc t) o) (hat : ∀ j, HoldAt cfg m.sess t (m.pc t) o j)
    (v : Tid) (i : Nat) (h : update m.pc t o.pc v = .recvCancel i) :
    (o.sess.chan i).Ended := by
  by_cases hv : v = t
  · subst hv
    rw [update_self] at h
    have hr := relies_of_step he
    generalize hpc : m.pc v = pc at hr
    cases hr with
    | no hn => rw [h] at hn; cases hn
    | recvClosed hf hs => cases h; exact ⟨hs, hf⟩
    | taken _ _ _ hp | close hp | closed _ _ hp => rw [hp] at h; cases h
  · rw [update_of_ne hv] at h
    exact (hI.cancels v i h).step (hat i) (hK.locals v i (by rw [h]; exact List.mem_singleton.mpr rfl))

end Ending

/-- **Who relies on the end of a channel is right, along every run.** -/
theorem ending_run {cfg : Prepared} {C : Machine → Act → Prop} {tr : List Event} {m : Machine}
    (h : (Machine.lts cfg.config).Run C tr m) : Ending m := by
  refine Machine.run_invariant (I := fun _ m => Ending m) h ending_start fun {tr m a o} hr hI _ he => ?_
  have hat := hold_at cfg.fit (accounts_run hr).within he
  exact ⟨fun j => (hI.cut j).step (hat j) hI.ended, hI.handling_step (pairing_run hr) he hat,
    hI.cancelNow_step (pairing_run hr) he hat, hI.cancels_step (known_run hr) he hat⟩

end Mygosh.Mux

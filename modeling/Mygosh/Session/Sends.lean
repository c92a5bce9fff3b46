/-
  File:      Mygosh/Session/Sends.lean
  Subject:   A call of `Send` and the one write it makes.

  * `SendAt` -- what holds at every counter of a `Send`: before it has decided its frame there is
    no write of this call, afterwards there is exactly one;
  * `send_run` -- along every run; `send_written`: the call returned nil exactly when its frame is
    on the wire.
-/
import Mygosh.Session.Flow

namespace Mygosh.Mux

open Session

/-! ## 1. The counters of a `Send` -/

/-- Goroutine `t` has made no write. -/
def NoWrites (s : Session) (t : Tid) : Prop := ∀ w < s.nextWrite, (s.writes w).caller ≠ t

/-- Goroutine `t` has made one write, the frame of a `Send` on channel `i`. -/
structure OnlyWrite (s : Session) (t : Tid) (w i : Nat) (frame : Bytes) : Prop where
  lt : w < s.nextWrite
  caller : (s.writes w).caller = t
  chan : (s.writes w).chan = some i
  data : ∃ p, (s.writes w).envelope = .channelData p frame
  only : ∀ v < s.nextWrite, (s.writes v).caller = t → v = w

/-- No `Send` runs `shutdown` itself. -/
def NotSend : AfterShutdown → Prop
  | .ret (.send _ _ _ _) => False
  | _ => True

/-- A `Send` goes on with its write `w` in this way. -/
def SendCont (s : Session) (t : Tid) (w : Nat) : Cont → Prop
  | .channelData i frame => OnlyWrite s t w i frame
  | .disconnect d => NotSend d.k
  | _ => True

/-- The caller waits until its frame is on the connection. -/
def Cont.waits : Cont → Bool
  | .channelData _ _ | .windowAdjust _ _ => true
  | _ => false

/-- Data and window adjusts are never enqueued without waiting for them. -/
def SendMode (s : Session) (t : Tid) (w : Nat) (k : Cont) : Mode → Prop
  | .sync _ => SendCont s t w k
  | .async => SendCont s t w k ∧ k.waits = false

/-- Every write is by the same caller, for the same channel and of the same frame. -/
structure SameFrames (s s' : Session) : Prop where
  next : s'.nextWrite = s.nextWrite
  caller : ∀ v, (s'.writes v).caller = (s.writes v).caller
  chan : ∀ v, (s'.writes v).chan = (s.writes v).chan
  envelope : ∀ v, (s'.writes v).envelope = (s.writes v).envelope

/-- What holds at a counter of goroutine `t`. -/
def SendAt (s : Session) (t : Tid) : Pc → Prop
  | .start | .sendLoop _ _ | .sendWait _ _ _ => NoWrites s t
  | .ensure w _ k | .await w _ k => SendCont s t w k
  | .reserve w m k | .push w m k => SendMode s t w k m
  | .shutdown _ k => NotSend k
  | .shutCancel d | .shutChannels d | .shutGlobals d | .shutQueues d => NotSend d.k
  | .sendRefund i frame w _ => OnlyWrite s t w i frame ∧ (s.writes w).dead
  | .done (.send _ _ none e) => NoWrites s t ∧ e ≠ none
  | .done (.send i frame (some w) none) => OnlyWrite s t w i frame ∧ (s.writes w).place = .sent
  | .done (.send i frame (some w) (some _)) => OnlyWrite s t w i frame ∧ (s.writes w).dead
  | _ => True

/-! ## 2. A step of the goroutine itself -/

section Self

variable {cfg : Config} {tr : List Event} {m : Machine} {s s' : Session} {t : Tid} {pc pc' : Pc}
  {o : Out} {k : Cont} {w : Nat}

theorem SameFrames.of_update {v : Nat} {x : OutboundWrite} (hn : s'.nextWrite = s.nextWrite)
    (hs : s'.writes = Function.update s.writes v x) (hc : x.caller = (s.writes v).caller)
    (hch : x.chan = (s.writes v).chan) (he : x.envelope = (s.writes v).envelope) : SameFrames s s' where
  next := hn
  caller _ := by rw [hs]; exact update_proj OutboundWrite.caller hc
  chan _ := by rw [hs]; exact update_proj OutboundWrite.chan hch
  envelope _ := by rw [hs]; exact update_proj OutboundWrite.envelope he

theorem OnlyWrite.of_same {w i : Nat} {frame : Bytes} (h : OnlyWrite s t w i frame)
    (hs : SameFrames s s') : OnlyWrite s' t w i frame where
  lt := hs.next ▸ h.lt
  caller := (hs.caller w).trans h.caller
  chan := (hs.chan w).trans h.chan
  data := hs.envelope w ▸ h.data
  only v hv hc := h.only v (hs.next ▸ hv) ((hs.caller v).symm.trans hc)

/-- The first write of a goroutine is its only one. -/
theorem OnlyWrite.new {i p : Nat} {frame : Bytes} {x : OutboundWrite} (h : NoWrites s t)
    (hs : s'.writes = Function.update s.writes s.nextWrite x)
    (hn : s'.nextWrite = s.nextWrite + 1) (hc : x.caller = t) (hch : x.chan = some i)
    (he : x.envelope = .channelData p frame) : OnlyWrite s' t s.nextWrite i frame where
  lt := hn ▸ Nat.lt_succ_self _
  caller := by rw [hs, Function.update_self]; exact hc
  chan := by rw [hs, Function.update_self]; exact hch
  data := ⟨p, by rw [hs, Function.update_self]; exact he⟩
  only v hv hcv := by
    rw [hn] at hv
    refine (Nat.lt_succ_iff_lt_or_eq.1 hv).resolve_left fun hlt => h v hlt ?_
    rwa [hs, Function.update_of_ne (Nat.ne_of_lt hlt)] at hcv

theorem SendCont.of_same (h : SendCont s t w k) (hs : SameFrames s s') : SendCont s' t w k := by
  cases k with
  | channelData i frame => exact OnlyWrite.of_same h hs
  | _ => exact h

theorem SendMode.of_same {md : Mode} (h : SendMode s t w k md)
    (hs : SameFrames s s') : SendMode s' t w k md := by
  cases md with
  | sync x => exact SendCont.of_same h hs
  | async => exact ⟨SendCont.of_same h.1 hs, h.2⟩

theorem SendMode.cont {md : Mode} (h : SendMode s t w k md) : SendCont s t w k := by
  cases md with
  | sync x => exact h
  | async => exact h.1

/-- The frame was sent, or it is lost. -/
theorem sendAt_contPc {e : Option Err} (h : SendCont s t w k)
    (hn : e = none → k.waits = false ∨ (s.writes w).place = .sent)
    (hd : e ≠ none → (s.writes w).dead) : SendAt s t (contPc w e k) := by
  cases k with
  | channelData i frame =>
    cases e with
    | none => exact ⟨h, (hn rfl).resolve_left Bool.noConfusion⟩
    | some e => exact ⟨h, hd nofun⟩
  | globalRequest q typ p want | channelRequest i q typ p want => cases e <;> cases want <;> trivial
  | disconnect d => cases e <;> exact h
  | channelClose i k => cases e <;> cases k <;> trivial
  | _ => cases e <;> trivial

theorem sendAt_downPc {k : AfterShutdown} (h : NotSend k) : SendAt s t (downPc k) := by
  cases k with
  | ret r =>
    cases r with
    | send => exact h.elim
    | _ => trivial
  | _ => trivial

theorem moves_sendAt (h : Moves cfg s t pc pc') (hI : SendAt s t pc) : SendAt s t pc' := by
  cases h with
  | start h =>
    cases h with
    | sendFails => exact ⟨hI, nofun⟩
    | sendLoop => exact hI
    | _ => trivial
  | ensured => exact hI
  | shutdownOver => exact sendAt_downPc hI
  | channelsOver => exact hI
  | sendFails | sendLeave => exact ⟨hI, nofun⟩
  | sendBlocks | sendWake => exact hI
  | refundLost => exact hI
  | @requestGone i q typ p e => cases e <;> trivial
  | @closeOver i k => cases k <;> trivial
  | _ => trivial

theorem send_sendAt (hO : Outbox tr m) (h : SendEffect cfg m.sess pc o) (hpc : m.pc t = pc)
    (hI : SendAt m.sess t pc) : SendAt o.sess t o.pc := by
  cases h with
  | ensureFails =>
    exact sendAt_contPc (SendCont.of_same hI (.of_update rfl rfl rfl rfl rfl))
      (fun he => by cases he) fun _ => .inl (by simp [Session.dropWrite, Session.setWrite])
  | reserveFails | pushClosed | pushFull =>
    exact sendAt_contPc (SendCont.of_same (SendMode.cont hI) (.of_update rfl rfl rfl rfl rfl))
      (fun he => by cases he) fun _ => .inl (by simp [Session.dropWrite, Session.setWrite])
  | reserved => exact SendMode.of_same hI ⟨rfl, fun _ => rfl, fun _ => rfl, fun _ => rfl⟩
  | pushSync => exact SendCont.of_same hI (.of_update rfl rfl rfl rfl rfl)
  | pushAsync =>
    exact sendAt_contPc (SendCont.of_same hI.1 (.of_update rfl rfl rfl rfl rfl)) (fun _ => .inl hI.2)
      fun he => absurd rfl he
  | @awaited w x k e h =>
    -- the writer has reported, so the write is at the end its result names
    have hp := hO.result w (hO.awaits t w (by rw [hpc]; rfl)).1 e h
    refine sendAt_contPc hI (fun he => .inr ?_) fun he => .inl ?_
    · rw [hp, he]; rfl
    · cases e with
      | none => exact absurd rfl he
      | some e => exact hp
  | canceled =>
    exact sendAt_contPc (SendCont.of_same hI (.of_update rfl rfl rfl rfl rfl))
      (fun he => by cases he) fun _ => .inr (by simp [Session.cancelWrite, Session.setWrite])

/-- The goroutine that acts. -/
theorem effect_sendAt (hO : Outbox tr m) (h : Effect cfg m.sess t pc o) (hpc : m.pc t = pc)
    (hI : SendAt m.sess t pc) : SendAt o.sess t o.pc := by
  cases h with
  | move h => exact moves_sendAt h hI
  | found _ _ h =>
    cases h with
    | channel ha => cases ha <;> trivial
    | _ => trivial
  | refused | routeFails => trivial
  | send h => exact send_sendAt hO h hpc hI
  | down h =>
    cases h with
    | queues => exact sendAt_downPc hI
    | begin | cancel | channel | globals => exact hI
    | disconnect => exact ⟨hI, rfl⟩
    | activate | parent => exact hI
    | finalize => trivial
  | data h =>
    cases h with
    | send => exact OnlyWrite.new hI rfl rfl rfl rfl rfl
    | refund =>
      obtain ⟨hw, hd⟩ := hI
      exact ⟨hw.of_same (.of_update rfl rfl rfl rfl rfl),
        by simpa [Session.setWrite, OutboundWrite.dead] using hd⟩
    | _ => trivial
  | close h =>
    cases h with
    | @requestReleased _ _ _ _ e => cases e <;> trivial
    | @closeShut _ k | @closeArmed _ k => cases k <;> trivial
    | _ => trivial
  | _ h => cases h <;> trivial

end Self

/-! ## 3. A step of another goroutine, and whole runs -/

section Other

variable {cfg : Config} {tr : List Event} {m : Machine} {t u : Tid} {o : Out}

theorem NoWrites.other (h : NoWrites m.sess u) (hO : Outbox tr m)
    (hw : WriteStep m.sess t (m.pc t) o) (hu : u ≠ t) : NoWrites o.sess u := by
  intro w hlt hc
  rcases hw.born hlt with hlt' | ⟨-, _, _, _, _, hx⟩
  · exact h w hlt' ((hO.change hw w hlt').fixed.1.symm.trans hc)
  · rw [hx] at hc
    exact hu hc.symm

theorem OnlyWrite.other {w i : Nat} {frame : Bytes} (h : OnlyWrite m.sess u w i frame)
    (hO : Outbox tr m) (hw : WriteStep m.sess t (m.pc t) o) (hu : u ≠ t) :
    OnlyWrite o.sess u w i frame := by
  have hx := hO.change hw w h.lt
  refine ⟨h.lt.trans_le hw.next_le, hx.fixed.1.trans h.caller, hx.fixed.2.1.trans h.chan, ?_, ?_⟩
  · rw [hx.envelope_other (h.caller ▸ hu)]
    exact h.data
  · intro v hv hc
    rcases hw.born hv with hlt | ⟨-, _, _, _, _, hy⟩
    · exact h.only v hlt ((hO.change hw v hlt).fixed.1.symm.trans hc)
    · rw [hy] at hc
      exact absurd hc.symm hu

theorem SendCont.other {w : Nat} {k : Cont} (h : SendCont m.sess u w k) (hO : Outbox tr m)
    (hw : WriteStep m.sess t (m.pc t) o) (hu : u ≠ t) : SendCont o.sess u w k := by
  cases k with
  | channelData i frame => exact OnlyWrite.other h hO hw hu
  | _ => exact h

theorem SendAt.other {pc : Pc} (h : SendAt m.sess u pc) (hO : Outbox tr m)
    (hw : WriteStep m.sess t (m.pc t) o) (hu : u ≠ t) : SendAt o.sess u pc := by
  cases pc with
  | start | sendLoop | sendWait => exact NoWrites.other h hO hw hu
  | ensure | await => exact SendCont.other h hO hw hu
  | reserve w md k | push w md k =>
    cases md with
    | sync x => exact SendCont.other h hO hw hu
    | async => exact ⟨SendCont.other h.1 hO hw hu, h.2⟩
  | sendRefund i frame w e => exact ⟨h.1.other hO hw hu, (hO.change hw w h.1.lt).dead h.2⟩
  | done r =>
    cases r with
    | send i frame wo e =>
      cases wo with
      | none => exact ⟨h.1.other hO hw hu, h.2⟩
      | some w =>
        cases e with
        | none => exact ⟨h.1.other hO hw hu, ((hO.change hw w h.1.lt).keeps_sent h.2).1⟩
        | some e => exact ⟨h.1.other hO hw hu, (hO.change hw w h.1.lt).dead h.2⟩
    | _ => trivial
  | _ => exact h

end Other

/-- **At every counter of a `Send`, along every run.** -/
theorem send_run {cfg : Config} {C : Machine → Act → Prop} {tr : List Event} {m : Machine}
    (h : (Machine.lts cfg).Run C tr m) : ∀ t, SendAt m.sess t (m.pc t) := by
  refine Machine.run_invariant (I := fun _ m => ∀ t, SendAt m.sess t (m.pc t)) h ?_ ?_
  · exact fun t w hw => absurd hw (Nat.not_lt_zero w)
  · intro tr m a o hr hI _ he
    have hO := outbox_run hr
    exact forall_update (P := fun u pc => SendAt o.sess u pc) (effect_sendAt hO he rfl (hI a.tid))
      fun u hu => (hI u).other hO (write_step he) hu

/-- **A `Send` returned nil exactly if its frame, and nothing else of this call, is on the wire.** -/
theorem send_written {cfg : Config} {C : Machine → Act → Prop} {tr : List Event} {m : Machine}
    (h : (Machine.lts cfg).Run C tr m) {t : Tid} {i : Nat} {frame : Bytes} {wo : Option Nat}
    {e : Option Err} (hd : m.pc t = .done (.send i frame wo e)) :
    (e = none → ∃ w p, (w, .channelData p frame) ∈ written tr ∧ (m.sess.writes w).caller = t ∧
      (m.sess.writes w).chan = some i) ∧
    (e ≠ none → ∀ w env, (w, env) ∈ written tr → (m.sess.writes w).caller ≠ t) := by
  have hO := outbox_run h
  have hS := send_run h t
  rw [hd] at hS
  cases wo with
  | none => refine ⟨fun he => absurd he hS.2, fun _ w env hw => hS.1 w ((hO.sent w env).1 hw).1⟩
  | some w =>
    cases e with
    | none =>
      obtain ⟨hw, hp⟩ := hS
      obtain ⟨p, hdata⟩ := hw.data
      exact ⟨fun _ => ⟨w, p, (hO.sent w _).2 ⟨hw.lt, hp, hdata⟩, hw.caller, hw.chan⟩, nofun⟩
    | some e =>
      obtain ⟨hw, hdead⟩ := hS
      refine ⟨nofun, fun _ v env hv hc => ?_⟩
      obtain rfl := hw.only v ((hO.sent v env).1 hv).1 hc
      exact hO.not_written hdead env hv

end Mygosh.Mux

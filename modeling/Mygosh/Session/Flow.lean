/-
  File:      Mygosh/Session/Flow.lean
  Subject:   A goroutine that sends a frame, and the write that carries it.

  * `Pc.flow` -- the write a goroutine is sending, and how it goes on;
  * `Cont.sends` -- the frame and the channel of a write, as the continuation has them;
  * `flow_run` -- they agree along every run.
-/
import Mygosh.Session.Frames

namespace Mygosh.Mux

open Session

/-! ## 1. Flows -/

/-- The write a goroutine is preparing, sending or taking back, with its continuation. -/
def Pc.flow : Pc → Option (Nat × Cont)
  | .ensure w _ k | .reserve w _ k | .push w _ k | .await w _ k => some (w, k)
  | .sendRefund i frame w _ => some (w, .channelData i frame)
  | .closeWriteUndo i previous w _ => some (w, .channelEof i previous)
  | .workRespond m _ (some w) => some (w, .channelResult m.requestID)
  | _ => none

/-- What the write of a continuation carries, and for which channel. -/
def Cont.sends (cfg : Config) (t : Tid) : Cont → Envelope → Option Nat → Prop
  | .openChannel i typ p _, env, ch => ch = none ∧
      env = .channelOpen ⟨typ, i, cfg.initialWindow, cfg.maxPacketSize, p⟩
  | .globalRequest q typ p want, env, ch => ch = none ∧ env = .globalRequest ⟨q, typ, want, p⟩
  | .channelData i frame, env, ch => ch = some i ∧ ∃ p, env = .channelData p frame
  | .windowAdjust i _, env, ch => ch = some i ∧ ∃ p n, env = .channelWindowAdjust p n
  | .channelRequest i q typ payload want, env, ch => ch = some i ∧
      ∃ p, env = .channelRequest ⟨p, q, typ, want, payload⟩
  | .channelEof i previous, env, ch => ch = some i ∧ (∃ p, env = .channelEof p) ∧
      ∃ st, CloseWriteTo previous st
  | .channelClose i _, env, ch | .closeAck i, env, ch => ch = some i ∧ ∃ p, env = .channelClose p
  | .openAccept i, env, ch => ch = some i ∧ ∃ p a, env = .channelOpenResult p (.success a)
  | .openReject, env, ch | .openRejectAsync, env, ch => ch = none ∧
      ∃ p r, env = .channelOpenResult p (.reject r)
  | .channelResult q, env, ch => (∃ i, t = .worker i ∧ ch = some i) ∧
      ∃ p res, env = .channelResult p q res
  | .channelReject i q, env, ch => ch = some i ∧ ∃ p, env = .channelResult p q
      (.reject (resourceReject "channel request queue limit reached"))
  | .globalResult q, env, ch => ch = none ∧ ∃ res, env = .globalResult q res
  | .globalReject q, env, ch => ch = none ∧ env = .globalResult q
      (.reject (resourceReject "global request queue limit reached"))
  | .disconnect _, env, ch => ch = none ∧ env = .disconnect "protocol-error" "protocol error"

/-- How a goroutine comes to be sending write `w`. -/
inductive FlowStep (cfg : Config) (s : Session) (t : Tid) (w : Nat) (k : Cont) : Pc → Out → Prop where
  | goes {pc o} (h : pc.flow = some (w, k))
      (he : (o.sess.writes w).envelope = (s.writes w).envelope)
      (hc : (o.sess.writes w).chan = (s.writes w).chan)
      (hu : (o.sess.writes w).undone = (s.writes w).undone) : FlowStep cfg s t w k pc o
  | made {pc o} (h : k.sends cfg t (o.sess.writes w).envelope (o.sess.writes w).chan)
      (hu : (o.sess.writes w).undone = false) : FlowStep cfg s t w k pc o
  | fills {pc o q p r} (h : pc.flow = some (w, k)) (hk : k = .channelResult q)
      (he : (o.sess.writes w).envelope = .channelResult p q r)
      (hc : (o.sess.writes w).chan = (s.writes w).chan)
      (hu : (o.sess.writes w).undone = (s.writes w).undone) : FlowStep cfg s t w k pc o

section Step

variable {cfg : Config} {s : Session} {t : Tid} {pc : Pc} {o : Out} {w : Nat} {k : Cont}

theorem contPc_flow {v : Nat} {e : Option Err} {k' : Cont} (h : (contPc v e k').flow = some (w, k)) :
    w = v ∧ k = k' := by
  cases k' with
  | channelData | channelEof => cases e <;> cases h; exact ⟨rfl, rfl⟩
  | globalRequest q typ p want | channelRequest i q typ p want => cases e <;> cases want <;> cases h
  | _ => cases e <;> cases h

theorem downPc_flow (d : AfterShutdown) : (downPc d).flow = none := by cases d <;> rfl

theorem droppedPc_flow (i q : Nat) (typ : String) (p : Bytes) (e : Option Err) :
    (droppedPc i q typ p e).flow = none := by cases e <;> rfl

/-- The frame of a write that is dropped, queued or cancelled stays. -/
theorem FlowStep.of_update {v : Nat} {x : OutboundWrite} (h : pc.flow = some (w, k))
    (hs : o.sess.writes = Function.update s.writes v x)
    (he : x.envelope = (s.writes v).envelope) (hc : x.chan = (s.writes v).chan)
    (hu : x.undone = (s.writes v).undone) : FlowStep cfg s t w k pc o := by
  refine .goes h ?_ ?_ ?_ <;> rw [hs]
  · exact update_proj OutboundWrite.envelope he
  · exact update_proj OutboundWrite.chan hc
  · exact update_proj OutboundWrite.undone hu

theorem FlowStep.new {x : OutboundWrite} (hs : o.sess.writes = Function.update s.writes s.nextWrite x)
    (hw : w = s.nextWrite) (hu : x.undone = false) (h : k.sends cfg t x.envelope x.chan) :
    FlowStep cfg s t w k pc o := by
  refine .made ?_ ?_ <;> rw [hs, hw, Function.update_self]
  · exact h
  · exact hu

theorem send_flow (h : SendEffect cfg s pc o) (hf : o.pc.flow = some (w, k)) : FlowStep cfg s t w k pc o := by
  cases h with
  | reserved => exact .goes hf rfl rfl rfl
  | pushSync => exact .of_update hf rfl rfl rfl rfl
  | awaited =>
    obtain ⟨rfl, rfl⟩ := contPc_flow hf
    exact .goes rfl rfl rfl rfl
  | _ =>
    obtain ⟨rfl, rfl⟩ := contPc_flow hf
    exact .of_update rfl rfl rfl rfl rfl

/-- **A goroutine sends the write it was sending, or one its section has just made.** -/
theorem flow_step (h : Effect cfg s t pc o) (hf : o.pc.flow = some (w, k)) :
    FlowStep cfg s t w k pc o := by
  cases h with
  | move h =>
    cases h with
    | start h => cases h <;> cases hf
    | ensured => exact .goes hf rfl rfl rfl
    | shutdownOver => rw [downPc_flow] at hf; cases hf
    | requestGone => rw [droppedPc_flow] at hf; cases hf
    | _ => cases hf
  | found _ _ h =>
    cases h with
    | channel ha => cases ha <;> cases hf
    | _ => cases hf
  | refused | routeFails => cases hf
  | send h => exact send_flow h hf
  | down h =>
    cases h with
    | disconnect => cases hf; exact .new rfl rfl rfl ⟨rfl, rfl⟩
    | queues => rw [downPc_flow] at hf; cases hf
    | _ => cases hf
  | writer h => cases h <;> cases hf
  | inOpen h =>
    cases h with
    | limit | shut => cases hf; exact .new rfl rfl rfl ⟨rfl, _, _, rfl⟩
    | _ => cases hf
  | inFrame h =>
    cases h with
    | close => cases hf; exact .new rfl rfl rfl ⟨rfl, _, rfl⟩
    | _ => cases hf
  | inRequest h =>
    cases h with
    | requestRejected => cases hf; exact .new rfl rfl rfl ⟨rfl, _, rfl⟩
    | globalNoRoom | globalFull => cases hf; exact .new rfl rfl rfl ⟨rfl, rfl⟩
    | _ => cases hf
  | dispatch h =>
    cases h with
    | rejectShut | activated => cases hf; exact .new rfl rfl rfl ⟨rfl, _, _, rfl⟩
    | globalReply => cases hf; exact .new rfl rfl rfl ⟨rfl, _, rfl⟩
    | _ => cases hf
  | work h =>
    cases h with
    | ticket => cases hf; exact .new rfl rfl rfl ⟨⟨_, rfl, rfl⟩, _, _, rfl⟩
    | @respond i q p v r =>
      cases hf
      exact .fills rfl rfl
        (r := opResult r "channel-request-rejected" "channel request rejected") (p := p)
        (by simp [Session.setWrite]) (by simp [Session.setWrite]) (by simp [Session.setWrite])
    | _ => cases hf
  | «open» h =>
    cases h with
    | send | globalSend | globalAsk => cases hf; exact .new rfl rfl rfl ⟨rfl, rfl⟩
    | _ => cases hf
  | data h =>
    cases h with
    | send => cases hf; exact .new rfl rfl rfl ⟨rfl, _, rfl⟩
    | recvAdjust => cases hf; exact .new rfl rfl rfl ⟨rfl, _, _, rfl⟩
    | _ => cases hf
  | close h =>
    cases h with
    | requestSend | requestAsk | close => cases hf; exact .new rfl rfl rfl ⟨rfl, _, rfl⟩
    | closeWrite _ hs => cases hf; exact .new rfl rfl rfl ⟨rfl, ⟨_, rfl⟩, _, hs⟩
    | requestReleased => rw [droppedPc_flow] at hf; cases hf
    | _ => cases hf

end Step

/-! ## 2. Whole runs -/

/-- Every goroutine sends what its continuation says, and has not taken it back yet. -/
structure Flows (cfg : Config) (m : Machine) : Prop where
  sends : ∀ t w k, (m.pc t).flow = some (w, k) →
    k.sends cfg t (m.sess.writes w).envelope (m.sess.writes w).chan
  held : ∀ t w k, (m.pc t).flow = some (w, k) → (m.sess.writes w).undone = false

/-- A goroutine has made the write it sends. -/
theorem Outbox.flow {tr : List Event} {m : Machine} (hO : Outbox tr m) {t : Tid} {w : Nat} {k : Cont}
    (h : (m.pc t).flow = some (w, k)) : w < m.sess.nextWrite ∧ (m.sess.writes w).caller = t := by
  generalize hpc : m.pc t = pc at h
  cases pc with
  | ensure v x k' | reserve v x k' | push v x k' =>
    cases h
    have hx := hO.hand t w (by rw [hpc]; rfl)
    exact ⟨hx.lt, hx.caller⟩
  | workRespond q p wo =>
    cases wo with
    | none => cases h
    | some v =>
      cases h
      have hx := hO.hand t w (by rw [hpc]; rfl)
      exact ⟨hx.lt, hx.caller⟩
  | await v x k' =>
    cases h
    have hx := hO.awaits t w (by rw [hpc]; rfl)
    exact ⟨hx.1, hx.2.1⟩
  | sendRefund i frame v e | closeWriteUndo i st v e =>
    cases h
    have hx := hO.undoes t w (by rw [hpc]; rfl)
    exact ⟨hx.1, hx.2.1⟩
  | _ => cases h

/-- Nobody else fills in a frame. -/
theorem Change.envelope_other {t : Tid} {x x' : OutboundWrite} (h : Change t x x') (hc : x.caller ≠ t) :
    x'.envelope = x.envelope := by
  cases h with
  | fill hc' => exact absurd hc' hc
  | _ => rfl

/-- Nobody else takes a write back. -/
theorem Change.undone_other {t : Tid} {x x' : OutboundWrite} (h : Change t x x') (hc : x.caller ≠ t) :
    x'.undone = x.undone := by
  cases h with
  | undo hc' => exact absurd hc' hc
  | _ => rfl

theorem flows_start (cfg : Config) : Flows cfg Machine.start where
  sends _ _ _ h := by cases h
  held _ _ _ h := by cases h

theorem Flows.step {cfg : Config} {tr : List Event} {m : Machine} {t : Tid} {o : Out}
    (hI : Flows cfg m) (hO : Outbox tr m) (he : Effect cfg m.sess t (m.pc t) o) :
    Flows cfg ⟨o.sess, Function.update m.pc t o.pc⟩ where
  sends := by
    refine forall_update (P := fun u pc => ∀ w k, pc.flow = some (w, k) →
      k.sends cfg u (o.sess.writes w).envelope (o.sess.writes w).chan) (fun w k hf => ?_) ?_
    · cases flow_step he hf with
      | goes h henv hc => rw [henv, hc]; exact hI.sends t w k h
      | made h => exact h
      | fills h hk henv hc =>
        have hold := hI.sends t w k h
        subst hk
        rw [henv, hc]
        exact ⟨hold.1, _, _, rfl⟩
    · intro u hu w k hf
      obtain ⟨hlt, hcaller⟩ := hO.flow hf
      have hx := hO.change (write_step he) w hlt
      rw [hx.envelope_other (hcaller ▸ hu), hx.fixed.2.1]
      exact hI.sends u w k hf
  held := by
    refine forall_update (P := fun u pc => ∀ w k, pc.flow = some (w, k) →
      (o.sess.writes w).undone = false) (fun w k hf => ?_) ?_
    · cases flow_step he hf with
      | goes h _ _ hu | fills h _ _ _ hu => exact hu.trans (hI.held t w k h)
      | made _ hu => exact hu
    · intro u hu w k hf
      obtain ⟨hlt, hcaller⟩ := hO.flow hf
      rw [(hO.change (write_step he) w hlt).undone_other (hcaller ▸ hu)]
      exact hI.held u w k hf

/-- **What is sent agrees with the continuation, along every run.** -/
theorem flow_run {cfg : Config} {C : Machine → Act → Prop} {tr : List Event} {m : Machine}
    (h : (Machine.lts cfg).Run C tr m) : Flows cfg m := by
  refine Machine.run_invariant (I := fun _ m => Flows cfg m) h (flows_start cfg) ?_
  intro tr m a o hr hI _ he
  exact hI.step (outbox_run hr) he

end Mygosh.Mux

/-
  File:      Mygosh/Session/Locals.lean
  Subject:   What goroutines carry in their locals while a session is up.

  * `known_run` -- a channel id in a goroutine's locals has been given out.
  * `Machine.Up`, `up_of_step` -- a session that is up has been up before.
  * `exits_down` -- a worker of a session that is up exits because its channel's context ended.
-/
import Mygosh.Session.Pairing

namespace Mygosh.Mux

open Session

/-! ## 1. Channel ids -/

/-- The channels a goroutine has in its locals while it sends. -/
def Cont.ids : Cont → List Nat
  | .openChannel i .. | .channelData i _ | .windowAdjust i _ | .channelRequest i .. => [i]
  | .channelEof i _ | .channelClose i _ | .closeAck i | .openAccept i | .channelReject i _ => [i]
  | .disconnect d => d.chans
  | _ => []

/-- The channels a goroutine has in its locals; the worker's and the timer's own are in the `Tid`. -/
def Pc.ids : Pc → List Nat
  | .ensure _ _ k | .reserve _ _ k | .push _ _ k | .await _ _ k => k.ids
  | .shutCancel d | .shutChannels d | .shutGlobals d | .shutQueues d => d.chans
  | .inOpenAdd i _ | .inOpenReserve i _ | .inOpenQueue i _ | .inOpenRemove i _ => [i]
  | .inOpenShut i _ | .inOpenResult i _ | .inActivate i | .inStart i => [i]
  | .inRejectRemove i _ | .inRejectShut i _ | .inData i _ | .inAdjust i _ | .inEof i => [i]
  | .inClose i | .inCloseRemove i | .inRequest i _ | .inRequestFinish i .. => [i]
  | .inResult i .. | .inResultRelease i .. => [i]
  | .admitDecide i _ | .admitAbort i _ | .admitAbortShut i _ | .admitReject i .. => [i]
  | .admitRejectShut i .. | .admitAccept i .. | .admitActivate i .. => [i]
  | .openAdd i .. | .openSend i .. | .openRemove i .. | .openShut i .. | .openWait i .. => [i]
  | .abandon i .. | .sendLoop i _ | .sendWait i .. | .sendRefund i .. => [i]
  | .recvLoop i | .recvWait i _ | .recvCancel i | .requestLock i .. | .requestWait i .. => [i]
  | .requestDrop i .. | .requestRelease i .. | .requestError i .. | .closeWrite i => [i]
  | .closeWriteUndo i .. | .close i _ | .closeRemove i _ | .closeShut i _ | .closeArm i _ => [i]
  | _ => []

section Ids

variable {cfg : Config} {s : Session} {t : Tid} {pc pc' : Pc} {o : Out} {i : Nat}

theorem contPc_ids {w : Nat} {e : Option Err} {k : Cont} (h : i ∈ (contPc w e k).ids) :
    i ∈ k.ids := by
  cases k <;> cases e <;> simp only [contPc] at h <;> first
    | exact h
    | cases h
    | (split at h <;> first | exact h | cases h)

theorem downPc_ids (k : AfterShutdown) : (downPc k).ids = [] := by cases k <;> rfl

theorem droppedPc_ids {j q : Nat} {typ : String} {p : Bytes} {e : Option Err}
    (h : i ∈ (droppedPc j q typ p e).ids) : i = j := by
  cases e
  · exact List.mem_singleton.mp h
  · cases h

theorem starts_ids (h : Starts cfg s t pc) (hi : i ∈ pc.ids) : (s.chan i).handed = true := by
  cases h with
  | sendLoop hh | recvLoop hh | requestLock hh | closeWrite hh | close hh =>
    rwa [List.mem_singleton.mp hi]
  | _ => cases hi

theorem moves_ids (h : Moves cfg s t pc pc') (hi : i ∈ pc'.ids) :
    i ∈ pc.ids ∨ i ∈ s.channels ∨ (s.chan i).handed = true := by
  cases h with
  | start h => exact .inr (.inr (starts_ids h hi))
  | shutdownOver => rw [downPc_ids] at hi; cases hi
  | requestGone => exact .inl (List.mem_singleton.mpr (droppedPc_ids hi))
  | admitFound h =>
    rw [List.mem_singleton.mp hi]
    exact .inr (.inl (mem_of_lookupChannelByPeer h).2)
  | _ => first | exact .inl hi | cases hi

/-- **Where a channel id in a goroutine's locals comes from.** -/
theorem ids_of_step (h : Effect cfg s t pc o) (hi : i ∈ o.pc.ids) :
    i ∈ pc.ids ∨ i ∈ s.channels ∨ (s.chan i).handed = true ∨ i < o.sess.nextLocalChannelID := by
  cases h with
  | move h => exact (moves_ids h hi).imp_right fun h => h.imp_right .inl
  | found _ _ h =>
    cases h with
    | channel ha hc => cases ha <;> rw [List.mem_singleton.mp hi] <;> exact .inr (.inl hc)
    | _ => cases hi
  | refused | routeFails => cases hi
  | send h =>
    cases h with
    | reserved | pushSync => exact .inl hi
    | _ => exact .inl (contPc_ids hi)
  | down h =>
    cases h with
    | begin | disconnect => exact .inr (.inl hi)
    | channel => exact .inl (List.mem_filter.mp hi).1
    | queues => rw [downPc_ids] at hi; cases hi
    | cancel | globals => exact .inl hi
    | _ => cases hi
  | inOpen h =>
    cases h with
    | made => rw [List.mem_singleton.mp hi]; exact .inr (.inr (.inr (Nat.lt_succ_self _)))
    | _ => first | exact .inl hi | cases hi
  | «open» h =>
    cases h with
    | made => rw [List.mem_singleton.mp hi]; exact .inr (.inr (.inr (Nat.lt_succ_self _)))
    | _ => first | exact .inl hi | cases hi
  | close h =>
    cases h with
    | requestReleased => exact .inl (List.mem_singleton.mpr (droppedPc_ids hi))
    | _ => first | exact .inl hi | cases hi
  | _ h => cases h <;> first | exact .inl hi | cases hi

/-- A channel is handed to the application by its worker or by the `OpenChannel` that made it. -/
theorem handed_of_step (h : Effect cfg s t pc o) (hx : (o.sess.chan i).handed = true) :
    (s.chan i).handed = true ∨ (s.chan i).workerStarted = true ∨ ∃ typ p, pc = .openWait i typ p true := by
  cases chan_step h with
  | same hc =>
    rw [hc] at hx
    exact .inl hx
  | incoming hc | pending hc =>
    rw [hc] at hx
    by_cases hi : i = s.nextLocalChannelID
    · subst hi
      rw [Function.update_self] at hx
      cases hx
    · rw [Function.update_of_ne hi] at hx
      exact .inl hx
  | @touch _ _ j c evs hc _ _ ht =>
    rw [hc] at hx
    by_cases hi : i = j
    · subst hi
      rw [Function.update_self] at hx
      cases ht with
      | workerOpen _ hw => exact .inr (.inl hw)
      | openReturned => exact .inr (.inr ⟨_, _, rfl⟩)
      | request | requestRefused =>
        simp only [requestNoted] at hx
        split at hx <;> exact .inl hx
      | _ => exact .inl hx
    · rw [Function.update_of_ne hi] at hx
      exact .inl hx

end Ids

/-- **Goroutines and the application only know channels that have been made.** -/
structure Known (m : Machine) : Prop where
  locals : ∀ t, ∀ i ∈ (m.pc t).ids, i < m.sess.nextLocalChannelID
  handed : ∀ i, (m.sess.chan i).handed = true → i < m.sess.nextLocalChannelID

theorem Known.step {cfg : Config} {tr : List Event} {m : Machine} {t : Tid} {o : Out} (hK : Known m)
    (hP : Pairing tr m) (he : Effect cfg m.sess t (m.pc t) o) :
    Known ⟨o.sess, Function.update m.pc t o.pc⟩ where
  locals := by
    refine forall_update (P := fun _ pc => ∀ i ∈ pc.ids, i < o.sess.nextLocalChannelID)
      (fun i hi => ?_) fun u _ i hi => (hK.locals u i hi).trans_le (next_le he)
    rcases ids_of_step he hi with h | h | h | h
    · exact (hK.locals t i h).trans_le (next_le he)
    · exact (hP.channels i h).trans_le (next_le he)
    · exact (hK.handed i h).trans_le (next_le he)
    · exact h
  handed i hx := by
    refine Nat.lt_of_lt_of_le ?_ (next_le he)
    rcases handed_of_step he hx with h | h | ⟨typ, p, hpc⟩
    · exact hK.handed i h
    · obtain ⟨p, hp⟩ := hP.started i h
      exact hP.lt i p hp
    · exact hK.locals t i (hpc ▸ List.mem_singleton.mpr rfl)

theorem known_run {cfg : Config} {C : Machine → Act → Prop} {tr : List Event} {m : Machine}
    (h : (Machine.lts cfg).Run C tr m) : Known m := by
  refine Machine.run_invariant (I := fun _ m => Known m) h
    ⟨fun _ _ h => (List.not_mem_nil h).elim, fun _ h => Bool.noConfusion h⟩
    fun {tr m a o} hr hK _ he => ?_
  exact hK.step (pairing_run hr) he

/-! ## 2. A session that is up -/

/-- The session's context has not ended and nobody has begun to shut it down. -/
def Session.Up (s : Session) : Prop := s.ctxErr = none ∧ s.closing = false

instance (s : Session) : Decidable s.Up := inferInstanceAs (Decidable (_ ∧ _))

section Up

variable {cfg : Config} {s : Session} {t : Tid} {pc : Pc} {o : Out} {i : Nat}

theorem closing_kept (h : Effect cfg s t pc o) (hc : s.closing = true) : o.sess.closing = true := by
  cases h with
  | move | found | refused | routeFails => exact hc
  | down h =>
    cases h with
    | begin | disconnect => rfl
    | _ => exact hc
  | _ h => cases h <;> exact hc

/-- **The rule for invariants that hold until the session is shut down.** -/
theorem Machine.run_invariant_up {C : Machine → Act → Prop} {I : List Event → Machine → Prop}
    {tr : List Event} {m : Machine} (h : (Machine.lts cfg).Run C tr m) (hup : m.sess.closing = false)
    (h0 : I [] Machine.start)
    (hstep : ∀ {tr m a o}, (Machine.lts cfg).Run C tr m → m.sess.closing = false → I tr m → C m a →
      Effect cfg m.sess a.tid (m.pc a.tid) o → o.sess.closing = false →
      I (tr ++ o.events) ⟨o.sess, Function.update m.pc a.tid o.pc⟩) : I tr m := by
  revert hup
  refine Machine.run_invariant (I := fun tr m => m.sess.closing = false → I tr m) h (fun _ => h0)
    fun {tr m a o} hr hI hC he hup => ?_
  have hbefore : m.sess.closing = false :=
    Bool.eq_false_iff.mpr fun hc => Bool.noConfusion (hup.symm.trans (closing_kept he hc))
  exact hstep hr hbefore (hI hbefore) hC he hup

/-- **A session that is up has been up before.** -/
theorem up_of_step (h : Effect cfg s t pc o) (hu : o.sess.Up) : s.Up := by
  refine ⟨?_, Bool.eq_false_iff.mpr fun hc => ?_⟩
  · have hx := hu.1
    cases h with
    | move | found | refused | routeFails => exact hx
    | down h =>
      cases h with
      | cancel => exact (Option.or_eq_none_iff.mp hx).1
      | parent => cases hx
      | _ => exact hx
    | _ h => cases h <;> exact hx
  · exact Bool.eq_false_iff.mp hu.2 (closing_kept h hc)

def Cont.down : Cont → Bool
  | .disconnect _ => true
  | _ => false

/-- A goroutine in `shutdown`, past the section that lets one caller through. -/
def Pc.down : Pc → Bool
  | .ensure _ _ k | .reserve _ _ k | .push _ _ k | .await _ _ k => k.down
  | .shutCancel _ | .shutChannels _ | .shutGlobals _ | .shutQueues _ => true
  | _ => false

theorem contPc_down {w : Nat} {e : Option Err} {k : Cont} (h : (contPc w e k).down = true) :
    k.down = true := by
  cases k <;> cases e <;> simp only [contPc] at h <;> first
    | rfl
    | cases h
    | (split at h <;> cases h)

theorem downPc_down (k : AfterShutdown) : (downPc k).down = false := by cases k <;> rfl

theorem droppedPc_down (i q : Nat) (typ : String) (p : Bytes) (e : Option Err) :
    (droppedPc i q typ p e).down = false := by cases e <;> rfl

theorem down_of_step (h : Effect cfg s t pc o) (hd : o.pc.down = true) :
    pc.down = true ∨ o.sess.closing = true := by
  cases h with
  | move h =>
    cases h with
    | start h => cases h <;> cases hd
    | shutdownOver => rw [downPc_down] at hd; cases hd
    | requestGone => rw [droppedPc_down] at hd; cases hd
    | channelsOver => exact .inl rfl
    | ensured => exact .inl hd
    | _ => cases hd
  | found _ _ h =>
    cases h with
    | channel ha => cases ha <;> cases hd
    | _ => cases hd
  | refused | routeFails => cases hd
  | send h =>
    cases h with
    | reserved | pushSync => exact .inl hd
    | _ => exact .inl (contPc_down hd)
  | down h =>
    cases h with
    | begin | disconnect => exact .inr rfl
    | queues => rw [downPc_down] at hd; cases hd
    | cancel | channel | globals => exact .inl rfl
    | _ => cases hd
  | close h =>
    cases h with
    | requestReleased => rw [droppedPc_down] at hd; cases hd
    | _ => cases hd
  | _ h => cases h <;> cases hd

theorem down_run {C : Machine → Act → Prop} {tr : List Event} {m : Machine}
    (h : (Machine.lts cfg).Run C tr m) : ∀ t, (m.pc t).down = true → m.sess.closing = true := by
  refine Machine.run_invariant (I := fun _ m => ∀ t, (m.pc t).down = true → m.sess.closing = true) h
    (fun _ h => Bool.noConfusion h) fun {tr m a o} hr hI _ he => ?_
  refine forall_update (P := fun _ pc => pc.down = true → o.sess.closing = true) (fun hd => ?_)
    fun u _ hd => closing_kept he (hI u hd)
  rcases down_of_step he hd with hd | hc
  · exact closing_kept he (hI _ hd)
  · exact hc

/-! ## 3. The end of a worker -/

theorem contPc_exited {w : Nat} {e : Option Err} {k : Cont} : contPc w e k ≠ .exited := by
  intro h
  cases k <;> cases e <;> simp only [contPc] at h <;> first | cases h | (split at h <;> cases h)

/-- The places a worker can exit from. -/
theorem exits_from (h : Effect cfg s (.worker i) pc o) (hf : (Tid.worker i).fits pc)
    (hx : o.pc = .exited) : pc = .start ∨ pc = .work ∨ pc.down = true ∨ s.closing = true := by
  cases h with
  | move h =>
    cases h with
    | start => exact .inl rfl
    | shutdownOver hc => exact .inr (.inr (.inr hc))
    | workExit => exact .inr (.inl rfl)
    | dispExit | selectOver => cases hf _ rfl
    | @requestGone _ _ _ _ e => cases e <;> cases hx
    | _ => cases hx
  | found _ _ h =>
    cases h with
    | channel ha => cases ha <;> cases hx
    | _ => cases hx
  | refused | routeFails => cases hx
  | send h =>
    cases h with
    | reserved | pushSync => cases hx
    | _ => exact absurd hx contPc_exited
  | down h =>
    cases h with
    | queues => exact .inr (.inr (.inl rfl))
    | finalize => exact .inl rfl
    | _ => cases hx
  | close h =>
    cases h with
    | @requestReleased _ _ _ _ e => cases e <;> cases hx
    | _ => cases hx
  | _ h => cases h <;> cases hx

/-- **A worker of a session that is up exits because its channel's context has ended.** -/
theorem exits_canceled {c : Choice} (h : s.exec cfg (.worker i) c pc = some o) (hu : s.Up)
    (hf : (Tid.worker i).fits pc) (hd : pc.down = true → s.closing = true) (hx : o.pc = .exited) :
    (s.chan i).ctxErr ≠ none ∧ ((s.chan i).workerStarted = true ∨ pc = .work) := by
  have hcause : (s.chanCause i).isSome = true → (s.chan i).ctxErr ≠ none := fun hc => by
    unfold Session.chanCause at hc
    rw [hu.1, Option.or_none] at hc
    exact Option.isSome_iff_ne_none.mp hc
  have hopen : s.closing ≠ true := Bool.eq_false_iff.mp hu.2
  rcases exits_from (effect_of_exec h) hf hx with rfl | rfl | h' | h'
  · simp only [Session.exec, Session.begin] at h
    unfold Session.workStart at h
    split at h
    · split at h
      · rename_i hs
        split at h
        · exact ⟨hcause ‹_›, .inl hs.1⟩
        · cases h
          cases hx
      · cases h
    · rw [hu.1] at h
      split at h
      · rename_i hs
        cases hs.2
      · cases h
    · cases h
  · simp only [Session.exec] at h
    unfold Session.work at h
    split at h
    · split at h
      · cases h
      · cases h
        cases hx
    · split at h
      · exact ⟨hcause ‹_›, .inr rfl⟩
      · cases h
    · cases h
  · exact absurd (hd h') hopen
  · exact absurd h' hopen

end Up

end Mygosh.Mux

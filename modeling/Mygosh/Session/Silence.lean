/-
  File:      Mygosh/Session/Silence.lean
  Subject:   What a session still sends for a channel that the peer has closed.

  Three sections decide a frame for a channel without a look at its state: `Recv`, when what has been
  read reaches the threshold, the worker, when it takes a request that wants a reply, and the
  dispatcher, when it answers an open. And a frame that was decided before the close came in may get
  into its queue after it. In a run in which these sections let a closed channel be, and the close
  is processed with no frame under way to the queues, none follows it.
-/
import Mygosh.Session.Leak
import Mygosh.Session.States

namespace Mygosh.Mux

open Session

/-! ## 1. Sections that do not look at the state -/

/-- The section that is about to run decides no frame for a channel whose state is `ended`. -/
def Machine.abstains (cfg : Config) (ended : ChannelState → Bool) (m : Machine) (a : Act) : Bool :=
  match m.pc a.tid with
  | .recvLoop i =>
    match (m.sess.chan i).frames with
    | [] => true
    | frame :: _ => !ended (m.sess.chan i).state || adjustBytes cfg (m.sess.chan i) frame = 0
  | .workRequest q =>
    match a.tid with
    | .worker i => !ended (m.sess.chan i).state || !q.wantReply
    | _ => true
  | .admitActivate i _ _ => !ended (m.sess.chan i).state
  | _ => true

theorem canSend_alive {st : ChannelState} (h : st.canSendData = true) : st.dead = false := by
  cases st <;> first | rfl | cases h

section Decides

variable {cfg : Config} {ended : ChannelState → Bool} {m : Machine} {t : Tid} {c : Choice} {i : Nat}
  {env : Envelope} {after : After}

/-- **A frame is decided for a channel that has not ended.** -/
theorem Decides.not_ended (h : Decides cfg m.sess t (m.pc t) env after (some i))
    (hended : ∀ st, ended st = true → st.dead = true) (hC : m.abstains cfg ended ⟨t, c⟩ = true) :
    ended (m.sess.chan i).state = false := by
  -- the sections that look at the state
  have hlooks : (m.sess.chan i).state.dead = false → ended (m.sess.chan i).state = false := fun hd =>
    Bool.eq_false_iff.mpr fun ho => Bool.eq_false_iff.mp hd (hended _ ho)
  unfold Machine.abstains at hC
  generalize m.pc t = pc at h hC
  cases h with
  | openAccept => simpa using hC
  | data _ hs => exact hlooks (canSend_alive hs)
  | request hs | close hs | closeAck hs | requestLimit hs => exact hlooks (allows_alive hs)
  | eof hs => exact hlooks (closeWriteTo_alive hs)
  | adjust hf ha =>
    simp only [hf, Bool.or_eq_true, Bool.not_eq_true', decide_eq_true_eq] at hC
    exact hC.resolve_right (Nat.pos_iff_ne_zero.mp ha)
  | result ht hw =>
    subst ht
    simpa [hw] using hC

end Decides

/-! ## 2. The peer's close -/

/-- A step that lets a closed channel be; the peer's close is processed when every frame of the
    channel has got into its queue, or has been given up. -/
def Machine.respectsClose (cfg : Config) (m : Machine) (a : Act) : Bool :=
  m.abstains cfg (· = .channelClosed) a &&
    match m.pc a.tid with
    | .inCloseRemove i => (List.range m.sess.nextWrite).all fun w =>
      (m.sess.writes w).chan ≠ some i || (m.sess.writes w).place ≠ .hand
    | _ => true

/-- The receiver has the peer's close of a channel in hand. -/
def Cont.acks : Cont → Option Nat
  | .closeAck i => some i
  | _ => none

@[inherit_doc Cont.acks]
def Pc.acks : Pc → Option Nat
  | .ensure _ _ k | .reserve _ _ k | .push _ _ k | .await _ _ k => k.acks
  | .inCloseRemove i => some i
  | _ => none

section Acks

variable {cfg : Config} {s : Session} {t : Tid} {pc pc' : Pc} {o : Out} {i w : Nat}

theorem downPc_acks (k : AfterShutdown) : (downPc k).acks = none := by cases k <;> rfl

theorem droppedPc_acks (j q : Nat) (typ : String) (p : Bytes) (e : Option Err) :
    (droppedPc j q typ p e).acks = none := by cases e <;> rfl

theorem contPc_acks {e : Option Err} {k : Cont} (h : (contPc w e k).acks = some i) :
    k.acks = some i := by
  cases k <;> cases e <;> simp only [contPc] at h <;> first
    | exact h
    | cases h
    | (split at h <;> cases h)

theorem moves_acks (h : Moves cfg s t pc pc') (hi : pc'.acks = some i) : pc.acks = some i := by
  cases h with
  | start h => cases h <;> cases hi
  | ensured => exact hi
  | shutdownOver => rw [downPc_acks] at hi; cases hi
  | requestGone => rw [droppedPc_acks] at hi; cases hi
  | _ => cases hi

/-- The receiver takes up a close by setting the state. -/
theorem acks_of_step (h : Effect cfg s t pc o) (hi : o.pc.acks = some i) :
    pc.acks = some i ∨ (o.sess.chan i).state = .channelClosed := by
  cases h with
  | move h => exact .inl (moves_acks h hi)
  | found _ _ h =>
    cases h with
    | channel ha => cases ha <;> cases hi
    | _ => cases hi
  | refused | routeFails => cases hi
  | send h =>
    cases h with
    | reserved | pushSync => exact .inl hi
    | _ => exact .inl (contPc_acks hi)
  | down h =>
    cases h with
    | queues => rw [downPc_acks] at hi; cases hi
    | _ => cases hi
  | inFrame h =>
    cases h with
    | closeAcked | close =>
      cases hi
      exact .inr (update_state ..)
    | _ => cases hi
  | close h =>
    cases h with
    | requestReleased => rw [droppedPc_acks] at hi; cases hi
    | _ => cases hi
  | _ h => cases h <;> cases hi

/-- Only `enqueueWrite` puts a write in a queue. -/
theorem WriteStep.push_of_enqueued (h : WriteStep s t pc o) (he : .enqueued w ∈ o.events) :
    ∃ md k, pc = .push w md k := by
  have hw : w ∈ pushed o.events := List.mem_filterMap.mpr ⟨_, he, rfl⟩
  have hquiet : pushed o.events = [] → ∃ md k, pc = .push w md k := fun hq => by
    rw [hq] at hw
    cases hw
  cases h with
  | same _ _ _ _ _ _ hq | add _ _ _ _ _ _ _ _ _ hq | drop _ _ _ _ hq => exact hquiet hq.2
  | pushSync =>
    cases List.mem_singleton.mp hw
    exact ⟨_, _, rfl⟩
  | @pushAsync v k =>
    have hw' : w ∈ v :: pushed (contEvents none k) := hw
    rw [(contEvents_quiet none k).2] at hw'
    cases List.mem_singleton.mp hw'
    exact ⟨_, _, rfl⟩
  | awaited | cancel => exact hquiet (contEvents_quiet _ _).2
  | fill _ _ _ he' | popped _ _ he' | skip _ _ he' | ran _ _ he' | reported _ _ _ he'
  | undo _ _ _ _ he' => exact hquiet (by rw [he']; rfl)
  | popControl | popOutbound | claimed | claimFails | sent | sendFails => exact hquiet rfl

theorem contEvents_closeProcessed {e : Option Err} {k : Cont} :
    .closeProcessed i ∉ contEvents e k := by
  cases k <;> cases e <;> simp [contEvents]

theorem closeProcessed_of_step (h : Effect cfg s t pc o) (he : .closeProcessed i ∈ o.events) :
    pc = .inCloseRemove i := by
  cases h with
  | inFrame h =>
    cases h with
    | closeRemoved =>
      rcases List.mem_cons.mp he with he | he
      · cases he
        rfl
      · cases List.mem_singleton.mp he
    | _ => simp at he
  | send h =>
    cases h with
    | pushAsync =>
      rcases List.mem_cons.mp he with he | he
      · cases he
      · exact absurd he contEvents_closeProcessed
    | reserved | pushSync => simp at he
    | _ => exact absurd he contEvents_closeProcessed
  | move | found | refused | routeFails => simp at he
  | _ h => cases h <;> simp at he

end Acks

/-! ## 3. Along a run -/

/-- A frame that is put in a queue belongs to no channel whose close has been processed. -/
def AfterClose (s : Session) (pre : List Event) : Event → Prop
  | .enqueued w => w < s.nextWrite ∧ ∀ i, (s.writes w).chan = some i → .closeProcessed i ∉ pre
  | _ => True

/-- No frame of channel `i` is under way to the queues. -/
def Settles (s : Session) (i : Nat) : Prop :=
  ∀ w < s.nextWrite, (s.writes w).chan = some i → (s.writes w).place ≠ .hand

/-- **A close that has been processed is final.** -/
structure Hushed (tr : List Event) (m : Machine) : Prop where
  acks : ∀ t i, (m.pc t).acks = some i → (m.sess.chan i).state = .channelClosed
  still : ∀ i, .closeProcessed i ∈ tr → i < m.sess.nextLocalChannelID ∧
    (m.sess.chan i).state = .channelClosed ∧ Settles m.sess i
  queued : Lts.Explained (AfterClose m.sess) tr

theorem hushed_start : Hushed [] Machine.start where
  acks _ _ h := by cases h
  still _ h := by cases h
  queued := .nil

section Step

variable {cfg : Config} {tr : List Event} {m : Machine} {t : Tid} {c : Choice} {o : Out} {i : Nat}

theorem Pc.mem_ids_of_acks {pc : Pc} (h : pc.acks = some i) : i ∈ pc.ids := by
  have hcont : ∀ k : Cont, k.acks = some i → i ∈ k.ids := fun k hk => by
    cases k <;> cases hk
    exact List.mem_singleton.mpr rfl
  cases pc <;> first
    | exact hcont _ h
    | (cases h; done)
    | (cases h; exact List.mem_singleton.mpr rfl)

/-- A step that decides no frame for the channel brings none under way. -/
theorem Settles.step (hS : Settles m.sess i) (hO : Outbox tr m)
    (he : Effect cfg m.sess t (m.pc t) o)
    (hd : ∀ env after, ¬ Decides cfg m.sess t (m.pc t) env after (some i)) :
    Settles o.sess i := by
  intro w hw hc
  rcases (write_step he).born hw with hlt | ⟨rfl, env, after, waits, ch, hx⟩
  · have hchange := hO.change (write_step he) w hlt
    exact hchange.not_hand (hS w hlt (hchange.fixed.2.1.symm.trans hc))
  · exfalso
    cases frame_step he with
    | none hn => rw [hn] at hw; exact Nat.lt_irrefl _ hw
    | @decided _ _ _ ch _ hx' hdec =>
      rw [hx', Function.update_self] at hc
      have hch : ch = some i := hc
      exact hd _ _ (hch ▸ hdec)

/-- What has been put in a queue stays explained. -/
theorem AfterClose.kept {pre : List Event} {e : Event} (h : AfterClose m.sess pre e)
    (hO : Outbox tr m) (he : Effect cfg m.sess t (m.pc t) o) : AfterClose o.sess pre e := by
  cases e with
  | enqueued w =>
    refine ⟨h.1.trans_le (write_step he).next_le, fun i hc => h.2 i ?_⟩
    exact (hO.change (write_step he) w h.1).fixed.2.1.symm.trans hc
  | _ => trivial

/-- **Every step that respects the close keeps it.** -/
theorem Hushed.step (hI : Hushed tr m) (hO : Outbox tr m) (hK : Known m)
    (hC : m.respectsClose cfg ⟨t, c⟩ = true) (he : Effect cfg m.sess t (m.pc t) o)
    (hfwd : ∀ i, i < m.sess.nextLocalChannelID →
      (m.sess.chan i).state.Forward (o.sess.chan i).state) :
    Hushed (tr ++ o.events) ⟨o.sess, Function.update m.pc t o.pc⟩ := by
  obtain ⟨habs, hclear⟩ := Bool.and_eq_true_iff.mp hC
  have hacks : ∀ u i, (m.pc u).acks = some i → (o.sess.chan i).state = .channelClosed := fun u i h =>
    (hfwd i (hK.locals u i (Pc.mem_ids_of_acks h))).closed (hI.acks u i h)
  refine ⟨fun u i => ?_, fun i hi => ?_, ?_⟩
  · refine forall_update (P := fun _ pc => pc.acks = some i → (o.sess.chan i).state = .channelClosed)
      (fun h => ?_) (fun u _ => hacks u i) u
    rcases acks_of_step he h with h | h
    · exact hacks t i h
    · exact h
  · rcases List.mem_append.mp hi with hi | hi
    · obtain ⟨hlt, hst, hS⟩ := hI.still i hi
      refine ⟨hlt.trans_le (next_le he), (hfwd i hlt).closed hst, hS.step hO he fun env after hd => ?_⟩
      have := hd.not_ended (fun st h => by rw [of_decide_eq_true h]; rfl) habs
      exact of_decide_eq_false this hst
    · have hpc := closeProcessed_of_step he hi
      have hlt := hK.locals t i (by rw [hpc]; exact List.mem_singleton.mpr rfl)
      have hS : Settles m.sess i := fun w hw hc hp => by
        simp only [hpc, List.all_eq_true, List.mem_range] at hclear
        simpa [hc, hp] using hclear w hw
      refine ⟨hlt.trans_le (next_le he), hacks t i (by rw [hpc]; rfl), hS.step hO he fun env after hd => ?_⟩
      rw [hpc] at hd
      cases hd
  · refine Lts.Explained.append (fun pre e post heq => (hI.queued pre e post heq).kept hO he) ?_
    intro pre e post heq
    cases e with
    | enqueued w =>
      have hmem : .enqueued w ∈ o.events := heq ▸ List.mem_append_right _ List.mem_cons_self
      obtain ⟨md, k, hpc⟩ := (write_step he).push_of_enqueued hmem
      have hhand := hO.hand t w (by rw [hpc]; rfl)
      refine ⟨hhand.lt.trans_le (write_step he).next_le, fun i hc hdone => ?_⟩
      have hc' := (hO.change (write_step he) w hhand.lt).fixed.2.1.symm.trans hc
      rcases List.mem_append.mp hdone with hdone | hdone
      · exact (hI.still i hdone).2.2 w hhand.lt hc' hhand.place
      · have := closeProcessed_of_step he (heq ▸ List.mem_append_left _ hdone)
        rw [hpc] at this
        cases this
    | _ => trivial

end Step

/-- **Nothing is produced for a channel after its close handshake**: once the peer's close has been
    processed, no frame of the channel is put in a queue. -/
theorem silent_after_close {cfg : Config} {tr : List Event} {m : Machine}
    (h : (Machine.lts cfg).Run (fun m a => m.respectsClose cfg a = true) tr m) :
    Lts.Explained (AfterClose m.sess) tr := by
  suffices hI : Hushed tr m from hI.queued
  refine h.invariant (I := Hushed) hushed_start fun {tr evs m m' a} hr hI hC hs => ?_
  have hfwd := fun i hi => (state_forward (i := i) hr hs hi).1
  obtain ⟨o, hx, rfl, rfl⟩ := Machine.exec_of_step hs
  exact hI.step (outbox_run hr) (known_run hr) hC (effect_of_exec hx) hfwd

/-- The peer sends a byte and closes; the byte is read after the close. -/
theorem silent_after_close_byte : ∃ tr m,
    (Machine.lts narrow.config).Run (fun m a => m.respectsClose narrow.config a = true) tr m ∧
    .closeProcessed 0 ∈ tr ∧ .recvFrame 0 [7] ∈ tr ∧ Lts.Explained (AfterClose m.sess) tr := by
  obtain ⟨tr, m, h, hclose, hret⟩ := Lts.exists_run_of_replay (L := Machine.lts narrow.config)
    (C := fun m a => m.respectsClose narrow.config a = true)
    (P := fun tr _ => .closeProcessed 0 ∈ tr ∧ .recvFrame 0 [7] ∈ tr)
    (incomingChannel ++ peerData ++ peerClose ++ (Tid.call 0).does [.api (.recv 0), .go])
    (by decide +kernel)
  exact ⟨tr, m, h, hclose, hret, silent_after_close h⟩

/-- **A credit for a closed channel.** The peer sends a full window and closes. Reading what it sent
    makes the session grant the window again; and a peer that has seen its close acknowledged ends
    its session when the grant comes in. -/
theorem credit_after_close :
    (∃ pre m, (Machine.lts narrow.config).Run (fun _ _ => True) (pre ++ [.enqueued 2]) m ∧
      (m.sess.writes 2).envelope = .channelWindowAdjust 0 4 ∧
      ¬ AfterClose m.sess pre (.enqueued 2)) ∧
    ∃ tr m, (Machine.lts narrow.config).Run (fun _ _ => True) tr m ∧ .closeCalled 0 ∈ tr ∧
      .closeProcessed 0 ∈ tr ∧ .received (.channelWindowAdjust 0 4) ∈ tr ∧
      .routeFailed (.protocol (.adjustUnknownChannel 0)) ∈ tr := by
  refine ⟨?_, ?_⟩
  · obtain ⟨tr, m, h, htr, henv, hc, hclose⟩ := Lts.exists_run_of_replay
      (L := Machine.lts narrow.config) (C := fun _ _ => True)
      (P := fun tr m => tr = tr.dropLast ++ [.enqueued 2] ∧
        (m.sess.writes 2).envelope = .channelWindowAdjust 0 4 ∧ (m.sess.writes 2).chan = some 0 ∧
        .closeProcessed 0 ∈ tr.dropLast)
      (incomingChannel ++ Tid.receiver.does [.frame (.channelData 0 [1, 2, 3, 4]), .go] ++
        peerClose ++ (Tid.call 0).does [.api (.recv 0), .go, .go, .go, .go]) (by decide +kernel)
    exact ⟨tr.dropLast, m, htr ▸ h, henv, fun ha => ha.2 0 hc hclose⟩
  · obtain ⟨tr, m, h, hcall, hclose, hrecv, hfail⟩ := Lts.exists_run_of_replay
      (L := Machine.lts narrow.config) (C := fun _ _ => True)
      (P := fun tr _ => .closeCalled 0 ∈ tr ∧ .closeProcessed 0 ∈ tr ∧
        .received (.channelWindowAdjust 0 4) ∈ tr ∧
        .routeFailed (.protocol (.adjustUnknownChannel 0)) ∈ tr)
      (Tid.env.does [.activate] ++ Tid.receiver.does [.go] ++ Tid.writer.does [.go] ++
        (Tid.call 0).does [.api (.openChannel "t" []), .go, .go, .go, .go, .go, .go] ++
        Tid.writer.does [.go, .outbound, .go, .go, .ok, .go, .go] ++ (Tid.call 0).does [.result] ++
        Tid.receiver.does [.frame (.channelOpenResult 0 (.success ⟨0, 4, 4, []⟩)), .go, .go, .go] ++
        (Tid.call 0).does [.result] ++
        (Tid.call 1).does [.api (.close 0), .go, .go, .go, .go] ++
        Tid.receiver.does [.frame (.channelClose 0), .go, .go,
          .frame (.channelWindowAdjust 0 4)]) (by decide +kernel)
    exact ⟨tr, m, h, hcall, hclose, hrecv, hfail⟩

end Mygosh.Mux

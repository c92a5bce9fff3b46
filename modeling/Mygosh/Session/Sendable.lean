/-
  File:      Mygosh/Session/Sendable.lean
  Subject:   A session does not queue a frame the connection refuses.

  * `Pc.Vetted`, `Session.Vetted` -- what goroutines, queues and channels carry has passed the checks
    that were made where it came in: the schema for what the peer sent, `validateTypeAndPayload`
    for what the application passed, `validateResponse` for what a handler returned;
  * `Decides.admissible` -- every frame a section makes from that is admissible;
  * `Sendable`, `sendable_run` -- the byte budget refuses what is too long for a `uint32`, so what is
    queued meets the schema and fits a chunk.
-/
import Mygosh.Session.Encoding
import Mygosh.Session.Frames
import Mygosh.Session.Budget
import Mygosh.Session.Locals

namespace Mygosh.Mux

open Function (update update_self update_of_ne update_apply)
open Session

/-! ## 1. What goroutines and queues carry -/

def ChannelOpen.Vetted (m : ChannelOpen) : Prop :=
  m.senderChannelID ≤ maxUint64 ∧ m.maxPacketSize ≤ 24576

def DispatchTask.Vetted : DispatchTask → Prop
  | .channelOpen m => m.Vetted
  | .globalRequest m => m.requestID ≤ maxUint64

def ChannelEvent.Vetted : ChannelEvent → Prop
  | .request m => m.requestID ≤ maxUint64
  | _ => True

/-- What a goroutine has in its locals, from the check on to the frame that is made of it. -/
def Pc.Vetted : Pc → Prop
  | .inOpen m | .inOpenAdd _ m | .inOpenReserve _ m | .inOpenQueue _ m => m.Vetted
  | .inOpenRemove _ m | .inOpenShut _ m | .admitLookup m | .admitDecide _ m => m.Vetted
  | .inOpenResult _ (.success a) => a.senderChannelID ≤ maxUint64 ∧ a.maxPacketSize ≤ 24576
  | .inRequest _ m | .workRequest m => m.requestID ≤ maxUint64
  | .workRespond m p _ => m.requestID ≤ maxUint64 ∧ p ≤ maxUint64
  | .workRelease ev => ev.Vetted
  | .inGlobal m | .inGlobalReserve m | .inGlobalQueue m | .handleGlobal m => m.requestID ≤ maxUint64
  | .dispRelease task => task.Vetted
  | .admitReject _ m d | .admitRejectShut _ m d | .admitAccept _ m d | .admitActivate _ m d =>
    m.Vetted ∧ Answered d.code d.message d.payload
  | .openReserve typ p | .openAdd _ typ p | .openSend _ typ p => Typed typ p
  | .globalNew typ p _ | .requestLock _ typ p _ => Typed typ p
  | .sendLoop _ frame | .sendWait _ frame _ => frame ≠ []
  | _ => True

structure Channel.Vetted (c : Channel) : Prop where
  peer : c.peerID ≤ maxUint64
  request : c.nextRequestID ≤ maxUint64
  packet : c.maxRemotePacket ≤ 24576
  events : ∀ ev ∈ c.events, ev.Vetted

structure Session.Vetted (s : Session) : Prop where
  chans : ∀ i, (s.chan i).Vetted
  nextLocal : s.nextLocalChannelID ≤ maxUint64
  nextGlobal : s.nextGlobalRequestID ≤ maxUint64
  tasks : ∀ task ∈ s.dispatchQueue, task.Vetted

section Carried

variable {cfg : Prepared} {s : Session} {t : Tid} {pc pc' : Pc} {o : Out}

theorem contPc_vetted (w : Nat) (e : Option Err) (k : Cont) : (contPc w e k).Vetted := by
  cases k <;> cases e <;> first
    | exact True.intro
    | (simp only [contPc]; split <;> exact True.intro)

theorem downPc_vetted (k : AfterShutdown) : (downPc k).Vetted := by cases k <;> exact True.intro

theorem droppedPc_vetted (i q : Nat) (typ : String) (p : Bytes) (e : Option Err) :
    (droppedPc i q typ p e).Vetted := by cases e <;> exact True.intro

theorem starts_vetted (h : Starts cfg.config s t pc) : pc.Vetted := by
  cases h with
  | openReserve h | globalNew h => exact typed_of_validate h
  | requestLock _ h => exact typed_of_validate h
  | sendLoop _ hne => exact hne
  | _ => exact True.intro

theorem moves_vetted (h : Moves cfg.config s t pc pc') (hs : s.Vetted) (hp : pc.Vetted) :
    pc'.Vetted := by
  cases h with
  | start h => exact starts_vetted h
  | shutdownOver => exact downPc_vetted _
  | requestGone => exact droppedPc_vetted ..
  | workRequest => exact ⟨hp, (hs.chans _).peer⟩
  | inOpenNoRoom | inGlobal | admitFound | sendBlocks | sendWake => exact hp
  | _ => exact True.intro

/-- A frame off the connection is within the schema. -/
theorem finds_vetted {env : Envelope} (hv : env.valid = true) (h : Finds cfg.config s env pc) :
    pc.Vetted := by
  cases h with
  | «open» =>
    simp only [Envelope.valid, isU64, windowOk, Bool.and_eq_true, decide_eq_true_eq] at hv
    exact ⟨hv.1.1.2, hv.1.2.2⟩
  | channel ha =>
    cases ha with
    | @openResult i res =>
      cases res with
      | success a =>
        simp only [Envelope.valid, OpenResult.valid, isU64, windowOk, Bool.and_eq_true,
          decide_eq_true_eq] at hv
        exact ⟨hv.2.1.1, hv.2.1.2.2⟩
      | reject | unset => exact True.intro
    | request =>
      simp only [Envelope.valid, isU64, Bool.and_eq_true, decide_eq_true_eq] at hv
      exact hv.1.1.2
    | _ => exact True.intro
  | global =>
    simp only [Envelope.valid, isU64, Bool.and_eq_true, decide_eq_true_eq] at hv
    exact hv.1.1
  | globalResult => exact True.intro

/-- **What a goroutine carries stays vetted.** -/
theorem locals_vetted (h : Effect cfg.config s t pc o) (hs : s.Vetted) (hp : pc.Vetted) :
    o.pc.Vetted := by
  cases h with
  | move h => exact moves_vetted h hs hp
  | found hv _ h => exact finds_vetted hv h
  | refused | routeFails => exact True.intro
  | send h =>
    cases h with
    | reserved | pushSync => exact True.intro
    | _ => exact contPc_vetted ..
  | down h =>
    cases h with
    | queues => exact downPc_vetted _
    | _ => exact True.intro
  | writer h | data h => cases h <;> exact True.intro
  | inOpen h =>
    cases h with
    | made | added | reserved | full | removed => exact hp
    | _ => exact True.intro
  | inFrame h => cases h <;> exact True.intro
  | inRequest h =>
    cases h with
    | global | globalReserved => exact hp
    | _ => exact True.intro
  | dispatch h =>
    cases h with
    | taken hq => exact hs.tasks _ (hq ▸ List.mem_cons_self)
    | «open» | global | rejectRemoved | accepted => exact hp
    | decideAccept _ hv | decideReject _ hv => exact ⟨hp, answered_of_validate hv⟩
    | _ => exact True.intro
  | work h =>
    cases h with
    | @taken i _ _ hq => exact (hs.chans i).events _ (hq ▸ List.mem_cons_self)
    | request => exact hp
    | @ticket i _ _ => exact ⟨hp, (hs.chans i).peer⟩
    | _ => exact True.intro
  | «open» h =>
    cases h with
    | made | added => exact hp
    | _ => exact True.intro
  | close h =>
    cases h with
    | requestReleased => exact droppedPc_vetted ..
    | _ => exact True.intro

/-- A changed channel, if the change keeps what its frames are made of. -/
theorem Channel.Vetted.of_eq {c c' : Channel} (h : c.Vetted) (hp : c'.peerID = c.peerID)
    (hq : c'.nextRequestID = c.nextRequestID) (hm : c'.maxRemotePacket = c.maxRemotePacket)
    (he : ∀ ev ∈ c'.events, ev ∈ c.events ∨ ev.Vetted) : c'.Vetted where
  peer := hp ▸ h.peer
  request := hq ▸ h.request
  packet := hm ▸ h.packet
  events ev hev := (he ev hev).elim (h.events ev) id

theorem requestNoted_keeps_frames (s : Session) (i : Nat) (m : RequestMsg) :
    (requestNoted s i m).peerID = (s.chan i).peerID ∧
      (requestNoted s i m).nextRequestID = (s.chan i).nextRequestID ∧
      (requestNoted s i m).maxRemotePacket = (s.chan i).maxRemotePacket ∧
      (requestNoted s i m).events = (s.chan i).events := by
  unfold requestNoted
  split <;> exact ⟨rfl, rfl, rfl, rfl⟩

/-- An event put at the end of a channel's queue. -/
theorem events_append {evs : List ChannelEvent} {new : ChannelEvent} (h : new.Vetted) :
    ∀ ev ∈ evs ++ [new], ev ∈ evs ∨ ev.Vetted := by
  intro ev hev
  rcases List.mem_append.mp hev with hev | hev
  · exact .inl hev
  · exact .inr (List.mem_singleton.mp hev ▸ h)

theorem touch_vetted {i : Nat} {evs : List Event} {c : Channel}
    (h : Touch cfg.config s t i pc evs c) (hc : (s.chan i).Vetted) (hp : pc.Vetted) : c.Vetted := by
  cases h with
  | opened => exact ⟨hp.1, hc.request, hp.2, hc.events⟩
  | eof | close => exact hc.of_eq rfl rfl rfl (events_append True.intro)
  | request =>
    obtain ⟨hpeer, hnext, hpacket, hevents⟩ := requestNoted_keeps_frames s i _
    refine hc.of_eq hpeer hnext hpacket ?_
    rw [hevents]
    exact events_append hp
  | requestRefused =>
    obtain ⟨hpeer, hnext, hpacket, hevents⟩ := requestNoted_keeps_frames s i _
    exact hc.of_eq hpeer hnext hpacket fun ev hev => .inl (hevents ▸ hev)
  | eventTaken _ h => exact hc.of_eq rfl rfl rfl fun ev hev => .inl (h ▸ List.mem_cons_of_mem _ hev)
  | requestID hn => exact ⟨hc.peer, Nat.lt_of_le_of_ne hc.request hn, hc.packet, hc.events⟩
  | requestAsk _ _ hn => exact ⟨hc.peer, Nat.lt_of_le_of_ne hc.request hn, hc.packet, hc.events⟩
  | _ => exact ⟨hc.peer, hc.request, hc.packet, hc.events⟩

theorem newPendingChannel_vetted (t : Tid) (typ : String) : (newPendingChannel t typ).Vetted :=
  ⟨Nat.zero_le _, Nat.zero_le _, Nat.zero_le _, fun _ h => (List.not_mem_nil h).elim⟩

theorem chans_vetted (h : Effect cfg.config s t pc o) (hs : s.Vetted) (hp : pc.Vetted) (i : Nat) :
    (o.sess.chan i).Vetted := by
  have hput : ∀ {j c}, o.sess.chan = update s.chan j c → c.Vetted →
      (o.sess.chan i).Vetted := by
    intro j c hc hv
    rw [hc, update_apply]
    split
    · exact hv
    · exact hs.chans i
  cases chan_step h with
  | same hc => exact hc ▸ hs.chans i
  | incoming hc => exact hput hc ⟨hp.1, Nat.zero_le _, hp.2, fun _ h => (List.not_mem_nil h).elim⟩
  | pending hc => exact hput hc (newPendingChannel_vetted ..)
  | touch hc _ _ ht => exact hput hc (touch_vetted ht (hs.chans _) hp)

theorem nextLocal_vetted (h : Effect cfg.config s t pc o) (hn : s.nextLocalChannelID ≤ maxUint64) :
    o.sess.nextLocalChannelID ≤ maxUint64 := by
  cases chan_step h with
  | same _ hx | touch _ hx => rwa [hx]
  | incoming _ hx _ _ hl | pending _ hx _ _ hl => rw [hx]; exact Nat.lt_of_le_of_ne hn hl

theorem nextGlobal_vetted (h : Effect cfg.config s t pc o)
    (hg : s.nextGlobalRequestID ≤ maxUint64) : o.sess.nextGlobalRequestID ≤ maxUint64 := by
  cases h with
  | move | found | refused | routeFails => exact hg
  | «open» h =>
    cases h with
    | globalLimit hn | globalSend hn => exact Nat.lt_of_le_of_ne hg hn
    | globalAsk _ hn => exact Nat.lt_of_le_of_ne hg hn
    | _ => exact hg
  | _ h => cases h <;> exact hg

theorem tasks_vetted (h : Effect cfg.config s t pc o) (hs : s.Vetted) (hp : pc.Vetted) :
    ∀ task ∈ o.sess.dispatchQueue, task.Vetted := by
  have hput : ∀ {new : DispatchTask}, new.Vetted →
      ∀ task ∈ s.dispatchQueue ++ [new], task.Vetted := by
    intro new hv task ht
    rcases List.mem_append.mp ht with ht | ht
    · exact hs.tasks task ht
    · exact List.mem_singleton.mp ht ▸ hv
  cases h with
  | move | found | refused | routeFails => exact hs.tasks
  | inOpen h =>
    cases h with
    | @queued i m => exact @hput (.channelOpen m) hp
    | _ => exact hs.tasks
  | inRequest h =>
    cases h with
    | @globalQueued m => exact @hput (.globalRequest m) hp
    | _ => exact hs.tasks
  | dispatch h =>
    cases h with
    | taken hq => exact fun task ht => hs.tasks task (hq ▸ List.mem_cons_of_mem _ ht)
    | _ => exact hs.tasks
  | _ h => cases h <;> exact hs.tasks

/-- **What the session holds stays vetted.** -/
theorem session_vetted (h : Effect cfg.config s t pc o) (hs : s.Vetted) (hp : pc.Vetted) :
    o.sess.Vetted where
  chans := chans_vetted h hs hp
  nextLocal := nextLocal_vetted h hs.nextLocal
  nextGlobal := nextGlobal_vetted h hs.nextGlobal
  tasks := tasks_vetted h hs hp

end Carried

/-! ## 2. The frames that are made of it -/

section Made

variable {cfg : Prepared} {s : Session} {t : Tid} {pc : Pc} {o : Out} {env : Envelope} {w : Nat}

theorem adjustBytes_le (cfg : Config) (c : Channel) (frame : Bytes) :
    adjustBytes cfg c frame ≤ maxUint32 := by
  unfold adjustBytes addU32 maxUint32
  dsimp only
  split <;> omega

/-- The session's own rejection. -/
theorem resourceReject_within {message : String} (h : len message ≤ hardMaxMessageLength)
    (hne : message ≠ "") : Within 28816 (OpResult.reject (resourceReject message)).size
      (OpResult.reject (resourceReject message)).valid :=
  (reject_within (r := resourceReject message) (resourceReject_answered h) hne).delimited (by decide)

/-- **Every frame a section makes is admissible**, except for the one a worker makes before it asks
    its handler, whose result is still to come. -/
theorem Decides.admissible {after : After} {ch : Option Nat} (h : Decides cfg.config s t pc env after ch)
    (hs : s.Vetted) (hp : pc.Vetted) (hk : ∀ i ∈ pc.ids, i < s.nextLocalChannelID) :
    env.Admissible ∨ ∃ m, pc = .workRequest m := by
  have hid : ∀ {i}, i ∈ pc.ids → i ≤ maxUint64 := fun hi => (hk _ hi).le.trans hs.nextLocal
  have hpeer := fun i => (hs.chans i).peer
  cases h with
  | openSend => exact .inl (channelOpen_admissible hp (hid List.mem_cons_self) cfg.windowOk)
  | openAccept =>
    exact .inl (accept_admissible hp.1.1 (hid List.mem_cons_self) cfg.windowOk hp.2.payload)
  | openReject =>
    exact .inl (openReject_admissible hp.1.1 (hp.2.normalized (by decide) (by decide))
      (normalizeReject_ne (by decide)))
  | openLimit h =>
    rcases h with ⟨rfl, rfl⟩ | ⟨rfl, rfl⟩
    all_goals exact .inl (openReject_admissible hp.1 (resourceReject_answered (by decide)) (by decide))
  | @data i frame _ _ hlen =>
    exact .inl (channelData_admissible (hpeer i) hp (hlen.trans (hs.chans i).packet))
  | adjust _ h => exact .inl (windowAdjust_admissible (hpeer _) h (adjustBytes_le ..))
  | request => exact .inl (channelRequest_admissible (hpeer _) (hs.chans _).request hp)
  | eof => exact .inl (eof_admissible (hpeer _))
  | close | closeAck => exact .inl (close_admissible (hpeer _))
  | requestLimit =>
    exact .inl (channelResult_admissible (hpeer _) hp (resourceReject_within (by decide) (by decide)))
  | @result _ m => exact .inr ⟨m, rfl⟩
  | globalRequest => exact .inl (globalRequest_admissible hs.nextGlobal hp)
  | globalResult _ hv =>
    exact .inl (globalResult_admissible hp
      (opResult_within (answered_of_validate hv) (by decide) (by decide) (by decide)))
  | globalLimit h =>
    refine .inl (globalResult_admissible ?_ (resourceReject_within (by decide) (by decide)))
    rcases h with rfl | rfl <;> exact hp
  | disconnect => exact .inl disconnect_admissible

/-- A worker's answer: the frame is complete, or the write is dropped. -/
theorem respond_admissible {m : RequestMsg} {p : Nat}
    (h : Effect cfg.config s t (.workRespond m p (some w)) o)
    (hp : (Pc.workRespond m p (some w)).Vetted) :
    (o.sess.writes w).envelope.Admissible ∨ (o.sess.writes w).place = .dropped := by
  generalize hpc : Pc.workRespond m p (some w) = pc at h
  cases h with
  | move h => cases h <;> cases hpc
  | found | refused => cases hpc
  | routeFails h => cases h <;> cases hpc
  | work h =>
    cases h with
    | respondFails =>
      cases hpc
      exact .inr (by simp only [dropWrite, setWrite, update_self])
    | respond hv =>
      cases hpc
      left
      simp only [setWrite, update_self]
      exact channelResult_admissible hp.2 hp.1
        (opResult_within (answered_of_validate hv) (by decide) (by decide) (by decide))
    | _ => cases hpc
  | _ h => cases h <;> cases hpc

/-- The write a worker makes before it asks its handler stays in its hand. -/
theorem ticket_of_step {m : RequestMsg} (h : Effect cfg.config s t (.workRequest m) o)
    (hn : o.sess.nextWrite = s.nextWrite + 1) : ∃ p, o.pc = .workRespond m p (some s.nextWrite) := by
  generalize hpc : Pc.workRequest m = pc at h
  cases h with
  | move h =>
    -- no reply is wanted: no write is made
    cases h <;> cases hpc
    exact absurd hn (Nat.ne_of_lt (Nat.lt_succ_self _))
  | found | refused => cases hpc
  | routeFails h => cases h <;> cases hpc
  | work h =>
    cases h with
    | ticket => cases hpc; exact ⟨_, rfl⟩
    | _ => cases hpc
  | _ h => cases h <;> cases hpc

/-- A write that is reserved for has gone through the byte budget. -/
theorem reserved_of_step {md : Mode} {k : Cont} (h : Effect cfg.config s t pc o)
    (hp : o.pc = .push w md k) : pc = .reserve w md k ∧ o.sess.writes = s.writes ∧
      ∃ b, s.budget.reserveQueueBudget cfg.config.limits 1 (s.writes w).size = some b := by
  -- a goroutine that goes on after a send, a `shutdown` or a dropped request has no write in hand
  have hidle : ¬ Idle o.pc := fun hi => by rw [hp] at hi; cases hi.hand
  cases h with
  | move h =>
    cases h with
    | start h => cases h <;> cases hp
    | shutdownOver => exact (hidle (idle_downPc _)).elim
    | requestGone => exact (hidle (idle_droppedPc ..)).elim
    | _ => cases hp
  | found _ _ h =>
    cases h with
    | channel ha => cases ha <;> cases hp
    | _ => cases hp
  | refused | routeFails => cases hp
  | send h =>
    cases h with
    | reserved hb => cases hp; exact ⟨rfl, rfl, _, hb⟩
    | pushSync => cases hp
    | _ => exact (hidle (idle_contPc ..)).elim
  | down h =>
    cases h with
    | queues => exact (hidle (idle_downPc _)).elim
    | _ => cases hp
  | close h =>
    cases h with
    | requestReleased => exact (hidle (idle_droppedPc ..)).elim
    | _ => cases hp
  | _ h => cases h <;> cases hp

end Made

/-! ## 3. Every write -/

/-- A dropped write stays dropped. -/
theorem Change.dropped {t : Tid} {x x' : OutboundWrite} (h : Change t x x')
    (hp : x.place = .dropped) : x'.place = .dropped := by
  cases h with
  | keep | fill | cancel | report | undo => exact hp
  | drop | skip | fails => rfl
  | push _ hp' | start _ hp' | sent _ hp' => rw [hp] at hp'; cases hp'
  | pop _ hp' => rw [hp] at hp'; rcases hp' with hp' | hp' <;> cases hp'

/-- A write leaves the hand of its caller by `enqueueWrite`, if it is not dropped. -/
theorem Outbox.pushed_of_left {tr : List Event} {m : Machine} {t : Tid} {o : Out} {w : Nat}
    (hI : Outbox tr m) (h : WriteStep m.sess t (m.pc t) o)
    (hp : (m.sess.writes w).place = .hand) (hn : (o.sess.writes w).place ≠ .hand)
    (hd : (o.sess.writes w).place ≠ .dropped) : ∃ md k, m.pc t = .push w md k := by
  have hkept : ∀ {v x}, o.sess.writes = update m.sess.writes v x →
      (v = w → x.place = .hand ∨ x.place = .dropped) → ∃ md k, m.pc t = .push w md k := by
    intro v x hx hv
    by_cases hvw : w = v
    · subst hvw
      rw [hx, update_self] at hn hd
      exact (hv rfl).elim (fun h => (hn h).elim) fun h => (hd h).elim
    · rw [hx, update_of_ne hvw] at hn
      exact (hn hp).elim
  generalize hpc : m.pc t = pc at h hkept
  cases h with
  | same hs | popped hs | ran hs => exact absurd (hs.writes ▸ hp) hn
  | awaited | claimFails => exact absurd hp hn
  | add _ _ hw => exact hkept hw fun _ => .inl rfl
  | drop _ hs => exact hkept hs.writes fun _ => .inr rfl
  | fill _ hs => exact hkept hs.writes fun hv => .inl (hv ▸ hp)
  | undo _ hs => exact hkept hs.writes fun hv => .inl (hv ▸ hp)
  | reported hs => exact hkept hs.writes fun hv => .inl (hv ▸ hp)
  | cancel | claimed => exact hkept rfl fun hv => .inl (hv ▸ hp)
  | skip hs => exact hkept hs.writes fun _ => .inr rfl
  | sendFails => exact hkept rfl fun _ => .inr rfl
  | @pushSync v x k =>
    by_cases hvw : w = v
    · subst hvw
      exact ⟨_, _, rfl⟩
    · exact hkept rfl fun hv => (hvw hv.symm).elim
  | @pushAsync v k =>
    by_cases hvw : w = v
    · subst hvw
      exact ⟨_, _, rfl⟩
    · exact hkept rfl fun hv => (hvw hv.symm).elim
  | @popControl v rest b q _ hq =>
    refine hkept rfl fun hv => ?_
    have hx := (hI.control.2 v (hq ▸ List.mem_cons_self)).place
    rw [hv, hp] at hx
    cases hx
  | @popOutbound v rest b q hq =>
    refine hkept rfl fun hv => ?_
    have hx := (hI.outbound.2 v (hq ▸ List.mem_cons_self)).place
    rw [hv, hp] at hx
    cases hx
  | @sent v b q =>
    refine hkept rfl fun hv => ?_
    have hx : AtWriter m.sess _ _ v := hpc ▸ hI.staged t
    have hplace := hx.place
    rw [hv, hp] at hplace
    cases hplace

/-- **The frames of a session**, and what they are made of. -/
structure Sendable (m : Machine) : Prop where
  sess : m.sess.Vetted
  locals : ∀ t, (m.pc t).Vetted
  made : ∀ w < m.sess.nextWrite, (m.sess.writes w).envelope.Admissible ∨
    (m.sess.writes w).place = .dropped ∨ ∃ t q p, m.pc t = .workRespond q p (some w)
  reserved : ∀ t w md k, m.pc t = .push w md k → (m.sess.writes w).envelope.sendable = true
  queued : ∀ w < m.sess.nextWrite, (m.sess.writes w).place ≠ .hand →
    (m.sess.writes w).place ≠ .dropped → (m.sess.writes w).envelope.sendable = true

theorem sendable_start : Sendable Machine.start where
  sess := ⟨fun _ => newPendingChannel_vetted .., Nat.zero_le _, Nat.zero_le _,
    fun _ h => (List.not_mem_nil h).elim⟩
  locals _ := True.intro
  made _ h := absurd h (Nat.not_lt_zero _)
  reserved _ _ _ _ h := by cases h
  queued _ h := absurd h (Nat.not_lt_zero _)

section Step

variable {cfg : Prepared} {tr : List Event} {m : Machine} {t : Tid} {o : Out}

/-- The frame that `enqueueWrite` is called with is admissible. -/
theorem Sendable.handed (hS : Sendable m) (hI : Outbox tr m) {w : Nat} {md : Mode} {k : Cont}
    (hpc : m.pc t = .reserve w md k) : (m.sess.writes w).envelope.Admissible := by
  have hx := hI.hand t w (by rw [hpc]; rfl)
  rcases hS.made w hx.lt with h | h | ⟨u, q, p, hu⟩
  · exact h
  · rw [hx.place] at h
    cases h
  · -- a worker that still waits for its handler would be the caller
    have hy := hI.hand u w (by rw [hu]; rfl)
    have hut : u = t := hy.caller.symm.trans hx.caller
    rw [hut, hpc] at hu
    cases hu

/-- The whole byte budget is below what a `uint32` can hold. -/
theorem Prepared.bytes_le (cfg : Prepared) : cfg.config.limits.maxQueuedBytesTotal ≤ maxUint32 := by
  have h : cfg.config.limits.maxQueuedBytesTotal ≤ hardMaxQueuedBytesTotal :=
    @Prepared.limit_le cfg "max queued bytes total" _ _ (by simp [Limits.checks])
  exact h.trans (by decide)

/-- What is reserved for fits the byte budget as a whole. -/
theorem size_le_of_reserved {b b' : Budget} {n : Nat} (hB : b.Within cfg.config.limits)
    (h : b.reserveQueueBudget cfg.config.limits 1 n = some b') :
    n ≤ cfg.config.limits.maxQueuedBytesTotal := by
  obtain ⟨hq, hle, -⟩ := reserveQueueBudget_eq cfg.fit hB h
  have hbytes := hle .bytes
  rw [hq .bytes] at hbytes
  exact (Nat.le_add_left _ _).trans hbytes

/-- What the byte budget takes is sendable. -/
theorem Sendable.reserved_self (hS : Sendable m) (hI : Outbox tr m)
    (hB : m.sess.budget.Within cfg.config.limits) (h : Effect cfg.config m.sess t (m.pc t) o)
    {w : Nat} {md : Mode} {k : Cont} (hp : o.pc = .push w md k) :
    (o.sess.writes w).envelope.sendable = true := by
  obtain ⟨hpc, hw, b, hb⟩ := reserved_of_step h hp
  rw [hw]
  exact hS.handed hI hpc ((size_le_of_reserved hB hb).trans cfg.bytes_le)

theorem Sendable.made_step (hS : Sendable m) (hI : Outbox tr m) (hK : Known m)
    (h : Effect cfg.config m.sess t (m.pc t) o) {w : Nat} (hw : w < o.sess.nextWrite) :
    (o.sess.writes w).envelope.Admissible ∨ (o.sess.writes w).place = .dropped ∨
      ∃ u q p, update m.pc t o.pc u = .workRespond q p (some w) := by
  by_cases hlt : w < m.sess.nextWrite
  · by_cases hresp : ∃ q p, m.pc t = .workRespond q p (some w)
    · obtain ⟨q, p, hpc⟩ := hresp
      have hv := hS.locals t
      rw [hpc] at h hv
      exact (respond_admissible h hv).imp_right .inl
    · have henv : (o.sess.writes w).envelope = (m.sess.writes w).envelope :=
        ((write_step h).envelope hlt).resolve_right
          fun ⟨_, q, p, _, _, hpc, _, _⟩ => hresp ⟨q, p, hpc⟩
      rcases hS.made w hlt with ha | hd | ⟨u, q, p, hu⟩
      · exact .inl (henv ▸ ha)
      · exact .inr (.inl ((hI.change (write_step h) w hlt).dropped hd))
      · have hut : u ≠ t := fun hut => hresp ⟨q, p, hut ▸ hu⟩
        exact .inr (.inr ⟨u, q, p, by rwa [update_of_ne hut]⟩)
  · cases frame_step h with
    | none hn => rw [hn] at hw; exact absurd hw hlt
    | decided hn hx hdec =>
      have hwn : w = m.sess.nextWrite := by omega
      subst hwn
      rw [hx, update_self]
      rcases hdec.admissible hS.sess (hS.locals t) (hK.locals t) with ha | ⟨q, hpc⟩
      · exact .inl ha
      · rw [hpc] at h
        obtain ⟨p, hp⟩ := ticket_of_step h hn
        exact .inr (.inr ⟨t, q, p, by rw [update_self, hp]⟩)

theorem Sendable.queued_step (hS : Sendable m) (hI : Outbox tr m)
    (h : Effect cfg.config m.sess t (m.pc t) o) {w : Nat} (hw : w < o.sess.nextWrite)
    (hn : (o.sess.writes w).place ≠ .hand) (hd : (o.sess.writes w).place ≠ .dropped) :
    (o.sess.writes w).envelope.sendable = true := by
  have hstep := write_step h
  rcases hstep.born hw with hlt | ⟨-, _, _, _, _, hx⟩
  · have hc := hI.change hstep w hlt
    by_cases hp : (m.sess.writes w).place = .hand
    · obtain ⟨md, k, hpc⟩ := hI.pushed_of_left hstep hp hn hd
      have henv : (o.sess.writes w).envelope = (m.sess.writes w).envelope :=
        (hstep.envelope hlt).resolve_right fun ⟨_, q, p, _, _, hpc', _, _⟩ => by
          rw [hpc] at hpc'
          cases hpc'
      rw [henv]
      exact hS.reserved t w md k hpc
    · rw [hc.envelope hp]
      exact hS.queued w hlt hp fun hdrop => hd (hc.dropped hdrop)
  · rw [hx] at hn
    exact absurd rfl hn

/-- **Every step keeps it.** -/
theorem Sendable.step (hS : Sendable m) (hI : Outbox tr m) (hK : Known m)
    (hB : m.sess.budget.Within cfg.config.limits) (h : Effect cfg.config m.sess t (m.pc t) o) :
    Sendable ⟨o.sess, update m.pc t o.pc⟩ where
  sess := session_vetted h hS.sess (hS.locals t)
  locals := forall_update (P := fun _ pc => pc.Vetted) (locals_vetted h hS.sess (hS.locals t))
    fun u _ => hS.locals u
  made _ hw := hS.made_step hI hK h hw
  reserved := by
    refine forall_update (P := fun _ pc => ∀ w md k, pc = .push w md k →
      (o.sess.writes w).envelope.sendable = true)
      (fun w md k hp => hS.reserved_self hI hB h hp) fun u hu w md k hp => ?_
    have hx := hI.hand u w (by rw [hp]; rfl)
    rw [(hI.change (write_step h) w hx.lt).hand hx.place (hx.caller ▸ hu)]
    exact hS.reserved u w md k hp
  queued _ hw hn hd := hS.queued_step hI h hw hn hd

end Step

theorem sendable_run {cfg : Prepared} {C : Machine → Act → Prop} {tr : List Event} {m : Machine}
    (h : (Machine.lts cfg.config).Run C tr m) : Sendable m := by
  refine Machine.run_invariant (I := fun _ m => Sendable m) h sendable_start
    fun {tr m a o} hr hS _ he => ?_
  exact hS.step (outbox_run hr) (known_run hr) (accounts_run hr).within he

/-- **No frame a session queues is refused for its content.** In every run with an accepted
    configuration, what is in a queue, at the writer or on the connection meets the schema and
    fits a chunk once it is encrypted; so does what the writer is about to hand to `SendProto`.
    A frame `enqueueWrite` is called with does as well, or is larger than the whole byte budget
    and refused: the checks compare lengths as `uint32`, so they pass a length of `2 ^ 32`. -/
theorem queued_frames_sendable {cfg : Prepared} {C : Machine → Act → Prop} {tr : List Event}
    {m : Machine} (h : (Machine.lts cfg.config).Run C tr m) :
    (∀ w < m.sess.nextWrite, (m.sess.writes w).place ≠ .hand →
      (m.sess.writes w).place ≠ .dropped → (m.sess.writes w).envelope.valid = true ∧
        (m.sess.writes w).envelope.size + tagSize ≤ maxPayloadSize) ∧
    (∀ t w c o, m.pc t = .sending w c o → (m.sess.writes w).envelope.valid = true ∧
      (m.sess.writes w).envelope.size + tagSize ≤ maxPayloadSize) ∧
    ∀ t w md k, m.pc t = .reserve w md k → ((m.sess.writes w).envelope.valid = true ∧
      (m.sess.writes w).envelope.size + tagSize ≤ maxPayloadSize) ∨
      cfg.config.limits.maxQueuedBytesTotal < (m.sess.writes w).envelope.size ∧
        m.sess.budget.reserveQueueBudget cfg.config.limits 1 (m.sess.writes w).envelope.size =
          none := by
  have hS := sendable_run h
  have hI := outbox_run h
  have hB := (accounts_run h).within
  refine ⟨fun w hw hn hd => sendable_iff.mp (hS.queued w hw hn hd), fun t w c o hpc => ?_,
    fun t w md k hpc => ?_⟩
  · have hx : AtWriter m.sess _ _ w := hpc ▸ hI.staged t
    exact sendable_iff.mp (hS.queued w hx.lt (by rw [hx.place]; nofun) (by rw [hx.place]; nofun))
  · by_cases hle : (m.sess.writes w).envelope.size ≤ cfg.config.limits.maxQueuedBytesTotal
    · exact .inl (sendable_iff.mp (hS.handed hI hpc (hle.trans cfg.bytes_le)))
    · exact .inr ⟨Nat.lt_of_not_le hle, Option.eq_none_iff_forall_not_mem.mpr fun b hb =>
        hle (size_le_of_reserved hB hb)⟩

/-- A global request is at the writer. -/
theorem queued_frames_sendable_request : ∃ tr m,
    (Machine.lts narrow.config).Run (fun _ _ => True) tr m ∧ 0 < m.sess.nextWrite ∧
    (m.sess.writes 0).place = .writer ∧ (m.sess.writes 0).envelope.valid = true ∧
    (m.sess.writes 0).envelope.size + tagSize ≤ maxPayloadSize := by
  obtain ⟨tr, m, h, hlt, hplace⟩ := Lts.exists_run_of_replay (L := Machine.lts narrow.config)
    (C := fun _ _ => True) (P := fun _ m => 0 < m.sess.nextWrite ∧ (m.sess.writes 0).place = .writer)
    (Tid.env.does [.activate] ++
      (Tid.call 0).does [.api (.sendGlobalRequest "t" [7] false), .go, .go, .go, .go] ++
      Tid.writer.does [.go, .go, .outbound, .go, .go]) (by decide +kernel)
  exact ⟨tr, m, h, hlt, hplace, (queued_frames_sendable h).1 0 hlt (by rw [hplace]; nofun)
    (by rw [hplace]; nofun)⟩

end Mygosh.Mux

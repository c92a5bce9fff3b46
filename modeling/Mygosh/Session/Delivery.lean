/-
  File:      Mygosh/Session/Delivery.lean
  Subject:   What the receiver accepts for a channel is handed to its handler.

  * `noteAccepted` -- the record of the events put into the queue of each channel;
  * `handedOver` -- the events a trace shows being handed to the handler;
  * `FeedStep`, `feed_step` -- every step of a session, as far as the queue of one channel and the
    hand of its worker are concerned;
  * `Fed` -- what was accepted is what was handed over, what the worker holds and what is queued;
  * `handler_events_delivered` -- nothing is left behind unless somebody cancels the context of the
    channel while events are queued; `handler_events_lost` is a `Recv` that does, and
    `left_attended` says where the worker is while something is left.
-/
import Mygosh.Session.Dormant
import Mygosh.Session.Owners

namespace Mygosh.Mux

open Function (update update_self update_of_ne update_eq_self)
open Session

/-! ## 1. Accepted and handed over -/

/-- What a step has put behind the events that were queued for channel `i`. -/
def arrivals (s s' : Session) (i : Nat) : List ChannelEvent :=
  (s'.chan i).events.drop (s.chan i).events.length

def noteAccepted (m m' : Machine) (log : Nat → List ChannelEvent) : Nat → List ChannelEvent :=
  fun i => log i ++ arrivals m.sess m'.sess i

/-- A session with the record of the events its receiver has accepted for each channel. -/
def Machine.recorded (cfg : Config) : Lts (Machine × (Nat → List ChannelEvent)) Act Event :=
  (Machine.lts cfg).recording (fun _ => []) noteAccepted

/-- The event that a call of the handler of channel `i` hands over. -/
def Event.hands (i : Nat) : Event → Option ChannelEvent
  | .onRequest j m _ => if j = i then some (.request m) else none
  | .onEOF j => if j = i then some .eof else none
  | .onClose j => if j = i then some .close else none
  | _ => none

def handedOver (i : Nat) (tr : List Event) : List ChannelEvent := tr.filterMap (Event.hands i)

/-- The event a worker has taken off the queue and not handed over yet. -/
def Pc.holding : Pc → List ChannelEvent
  | .workRelease ev => [ev]
  | .workRequest m | .workRespond m _ _ => [.request m]
  | .workClose => [.close]
  | _ => []

/-- What has been accepted for channel `i` and not been handed over. -/
def Machine.left (m : Machine) (i : Nat) : List ChannelEvent :=
  (m.pc (.worker i)).holding ++ (m.sess.chan i).events

/-- The channel whose context the next section cancels; the worker's own, at the end of
    `handleRemoteClose`, and those of `Session.shutdown` are left out. -/
def Pc.cancels : Pc → Option Nat
  | .recvCancel i | .close i _ | .closeShut i _ | .openShut i _ _ _ => some i
  | .admitAbortShut i _ | .admitRejectShut i _ _ | .inOpenShut i _ | .inRejectShut i _ => some i
  | _ => none

/-- The context of channel `i` is cancelled only when no event is queued for it. -/
def Machine.careful (i : Nat) (m : Machine) (a : Act) : Bool :=
  (m.pc a.tid).cancels ≠ some i || (m.sess.chan i).events.isEmpty

/-! ## 2. One step -/

/-- The ways a step can touch the queue of channel `i`, its context and the hand of its worker. -/
inductive FeedStep (s : Session) (t : Tid) (i : Nat) (pc : Pc) (o : Out) : Prop where
  | keep (he : (o.sess.chan i).events = (s.chan i).events)
      (hx : (o.sess.chan i).ctxErr = (s.chan i).ctxErr) (hh : handedOver i o.events = [])
      (hp : t = .worker i → o.pc.holding = pc.holding)
  | new (hi : s.nextLocalChannelID ≤ i) (he : (o.sess.chan i).events = [])
      (hx : (o.sess.chan i).ctxErr = none) (hh : handedOver i o.events = [])
      (hp : t = .worker i → o.pc.holding = pc.holding)
  | accept {ev} (hs : (s.chan i).state.allowsRequests = true)
      (he : (o.sess.chan i).events = (s.chan i).events ++ [ev])
      (hx : (o.sess.chan i).ctxErr = (s.chan i).ctxErr)
      (hc : ev = .close → (o.sess.chan i).state = .channelClosed) (hh : handedOver i o.events = [])
      (hp : t = .worker i → o.pc.holding = pc.holding)
  | take {ev rest} (ht : t = .worker i) (he : (s.chan i).events = ev :: rest)
      (he' : (o.sess.chan i).events = rest) (hx : (o.sess.chan i).ctxErr = (s.chan i).ctxErr)
      (hp : pc.holding = []) (hp' : o.pc.holding = [ev]) (hh : handedOver i o.events = [])
  | hand {ev} (ht : t = .worker i) (he : (o.sess.chan i).events = (s.chan i).events)
      (hx : (o.sess.chan i).ctxErr = (s.chan i).ctxErr) (hp : pc.holding = [ev])
      (hp' : o.pc.holding = []) (hh : handedOver i o.events = [ev])
  | shut (he : (o.sess.chan i).events = (s.chan i).events)
      (hx : (s.chan i).ctxErr ≠ none → (o.sess.chan i).ctxErr ≠ none)
      (hc : pc.cancels = some i ∨ pc.down = true) (hd : (o.sess.chan i).state.dead = true)
      (hh : handedOver i o.events = []) (hp : t = .worker i → o.pc.holding = pc.holding)
  | cancel (he : (o.sess.chan i).events = (s.chan i).events)
      (hx : (s.chan i).ctxErr ≠ none → (o.sess.chan i).ctxErr ≠ none)
      (hc : pc = .recvCancel i ∨ t = .worker i ∧ pc = .workClosed true)
      (hh : handedOver i o.events = []) (hp : t = .worker i → o.pc.holding = pc.holding)

section Classify

variable {cfg : Config} {s : Session} {t : Tid} {pc pc' : Pc} {o : Out} {i j : Nat} {c : Channel}

/-- A step that changes channel `j` is none for the others. -/
theorem FeedStep.of_update (h : o.sess.chan = update s.chan j c)
    (hh : i ≠ j → handedOver i o.events = [])
    (hp : i ≠ j → t = .worker i → o.pc.holding = pc.holding)
    (hj : i = j → o.sess.chan i = c → FeedStep s t i pc o) : FeedStep s t i pc o := by
  by_cases hij : i = j
  · exact hj hij (by rw [h, hij, update_self])
  · exact .keep (by rw [h, update_of_ne hij]) (by rw [h, update_of_ne hij]) (hh hij) (hp hij)

/-- A change of a channel that leaves its queue and its context. -/
theorem FeedStep.touch (h : o.sess.chan = update s.chan j c)
    (he : c.events = (s.chan j).events) (hx : c.ctxErr = (s.chan j).ctxErr)
    (hh : handedOver i o.events = []) (hp : o.pc.holding = pc.holding) : FeedStep s t i pc o :=
  .keep (by rw [h]; exact update_proj Channel.events he)
    (by rw [h]; exact update_proj Channel.ctxErr hx) hh fun _ => hp

/-- `Channel.shutdown` and `Close`. -/
theorem FeedStep.shuts (h : o.sess.chan = update s.chan j c)
    (he : c.events = (s.chan j).events) (hd : c.state.dead = true)
    (hx : (s.chan j).ctxErr ≠ none → c.ctxErr ≠ none)
    (hc : pc.cancels = some j ∨ pc.down = true) (hh : handedOver i o.events = [])
    (hp : o.pc.holding = pc.holding) : FeedStep s t i pc o := by
  refine .of_update h (fun _ => hh) (fun _ _ => hp) fun hij hci => ?_
  subst hij
  exact .shut (by rw [hci, he]) (by rwa [hci]) hc (by rwa [hci]) hh fun _ => hp

theorem FeedStep.shutdown {e : Err} (h : o.sess.chan =
      update s.chan j ((((s.chan j).pendingFailed e).shut e).canceled s.ctxErr e))
    (hc : pc.cancels = some j ∨ pc.down = true) (hh : handedOver i o.events = [])
    (hp : o.pc.holding = pc.holding) : FeedStep s t i pc o :=
  .shuts h rfl (shut_dead _ e) (canceled_ctx _ _ e) hc hh hp

theorem FeedStep.accepts {ev : ChannelEvent} (h : o.sess.chan = update s.chan j c)
    (hs : (s.chan j).state.allowsRequests = true) (he : c.events = (s.chan j).events ++ [ev])
    (hx : c.ctxErr = (s.chan j).ctxErr) (hc : ev = .close → c.state = .channelClosed)
    (hh : handedOver i o.events = []) (hp : o.pc.holding = pc.holding) : FeedStep s t i pc o := by
  refine .of_update h (fun _ => hh) (fun _ _ => hp) fun hij hci => ?_
  subst hij
  exact .accept hs (by rw [hci, he]) (by rw [hci, hx]) (by rw [hci]; exact hc) hh fun _ => hp

theorem Resumes.holding (h : Resumes pc) : pc.holding = [] := by cases h <;> rfl

theorem contEvents_handedOver (e : Option Err) (k : Cont) : handedOver i (contEvents e k) = [] := by
  cases k <;> cases e <;> rfl

theorem moves_holding (h : Moves cfg s t pc pc') : pc'.holding = pc.holding := by
  cases h with
  | start h => cases h <;> rfl
  | shutdownOver => exact (downPc_resumes _).holding
  | requestGone => exact (droppedPc_resumes ..).holding
  | _ => rfl

theorem send_feed (h : SendEffect cfg s pc o) : FeedStep s t i pc o := by
  cases h with
  | reserved | pushSync => exact .keep rfl rfl rfl fun _ => rfl
  | pushAsync => exact .keep rfl rfl (contEvents_handedOver none _) fun _ => (contPc_resumes ..).holding
  | _ => exact .keep rfl rfl (contEvents_handedOver ..) fun _ => (contPc_resumes ..).holding

theorem down_feed (h : DownEffect s t pc o) : FeedStep s t i pc o := by
  cases h with
  | channel => exact .shutdown rfl (.inr rfl) rfl rfl
  | queues => exact .keep rfl rfl rfl fun _ => (downPc_resumes _).holding
  | _ => exact .keep rfl rfl rfl fun _ => rfl

theorem writer_feed (h : WriterEffect s pc o) : FeedStep s t i pc o := by
  cases h with
  | skipRequest | finishRequest | startWorker => exact .touch rfl rfl rfl rfl rfl
  | _ => exact .keep rfl rfl rfl fun _ => rfl

/-- A new channel has nothing queued. -/
theorem FeedStep.made (h : o.sess.chan = update s.chan s.nextLocalChannelID c)
    (he : c.events = []) (hx : c.ctxErr = none) (hh : handedOver i o.events = [])
    (hp : o.pc.holding = pc.holding) : FeedStep s t i pc o := by
  refine .of_update h (fun _ => hh) (fun _ _ => hp) fun hij hci => ?_
  exact .new (Nat.le_of_eq hij.symm) (by rw [hci, he]) (by rw [hci, hx]) hh fun _ => hp

theorem inOpen_feed (h : InOpenEffect cfg s t pc o) : FeedStep s t i pc o := by
  cases h with
  | made => exact .made rfl rfl rfl rfl rfl
  | added | activated | removed | rejectRemoved | resultFails | opened | rejected =>
    exact .touch rfl rfl rfl rfl rfl
  | started => exact .touch (putOpenResult_chan rfl) rfl rfl rfl rfl
  | shut => exact .shutdown rfl (.inl rfl) rfl rfl
  | @rejectShut j e =>
    exact .shuts (putOpenResult_chan rfl) rfl (shut_dead _ e) (canceled_ctx _ _ e) (.inl rfl) rfl
      rfl
  | _ => exact .keep rfl rfl rfl fun _ => rfl

theorem inFrame_feed (h : InEffect cfg s t pc o) : FeedStep s t i pc o := by
  cases h with
  | eof hs => exact .accepts rfl hs.allows rfl rfl nofun rfl rfl
  | close hs => exact .accepts rfl hs rfl rfl (fun _ => rfl) rfl rfl
  | _ => exact .touch rfl rfl rfl rfl rfl

theorem inRequest_feed (h : InRequestEffect cfg s t pc o) : FeedStep s t i pc o := by
  cases h with
  | @request j m _ hs =>
    have hk := (requestNoted_keeps (s := s) (i := j) (m := m)).1
    exact .accepts rfl hs (congrArg (· ++ [.request m]) hk.events) hk.ctx nofun rfl rfl
  | @requestRejected j m | @requestLimit j m =>
    have hk := (requestNoted_keeps (s := s) (i := j) (m := m)).1
    exact .touch rfl hk.events hk.ctx rfl rfl
  | requestFinish | result | resultPut => exact .touch rfl rfl rfl rfl rfl
  | _ => exact .keep rfl rfl rfl fun _ => rfl

theorem dispatch_feed (h : DispatchEffect cfg s t pc o) : FeedStep s t i pc o := by
  cases h with
  | abortRemoved | rejectRemoved | activated | accepted => exact .touch rfl rfl rfl rfl rfl
  | abortShut | rejectShut => exact .shutdown rfl (.inl rfl) rfl rfl
  | _ => exact .keep rfl rfl rfl fun _ => rfl

/-- What a worker hands over is handed to the handler of its own channel. -/
theorem FeedStep.handsOver {ev : ChannelEvent} (ht : t = .worker j)
    (he : o.sess.chan = update s.chan j c) (hev : c.events = (s.chan j).events)
    (hx : c.ctxErr = (s.chan j).ctxErr) (hp : pc.holding = [ev]) (hp' : o.pc.holding = [])
    (hh : ∀ i, handedOver i o.events = if j = i then [ev] else []) : FeedStep s t i pc o := by
  refine .of_update he (fun hij => ?_) (fun hij ht' => ?_) fun hij hci => ?_
  · rw [hh, if_neg (Ne.symm hij)]
  · exact absurd (Tid.worker.inj (ht'.symm.trans ht)) hij
  · subst hij
    exact .hand ht (by rw [hci, hev]) (by rw [hci, hx]) hp hp' (by rw [hh, if_pos rfl])

theorem handedOver_one (i : Nat) {e : Event} {ev : ChannelEvent}
    (h : e.hands i = if j = i then some ev else none) :
    handedOver i [e] = if j = i then [ev] else [] := by
  by_cases hij : j = i
  · rw [if_pos hij] at h ⊢
    simp [handedOver, h]
  · rw [if_neg hij] at h ⊢
    simp [handedOver, h]

theorem work_feed (h : WorkEffect cfg s t pc o) : FeedStep s t i pc o := by
  cases h with
  | start | finishFails | finish | timeout | timeoutRemoved => exact .touch rfl rfl rfl rfl rfl
  | @taken j ev rest he =>
    refine .of_update rfl (fun _ => rfl) (fun hij ht => ?_) fun hij hci => ?_
    · exact absurd (Tid.worker.inj ht).symm hij
    · subst hij
      exact .take rfl he (by rw [hci]) (by rw [hci]) rfl rfl rfl
  | eof | noReply | respondFails | respond =>
    exact .handsOver rfl (update_eq_self ..).symm rfl rfl rfl rfl fun i =>
      handedOver_one i rfl
  | remoteClose => exact .handsOver rfl rfl rfl rfl rfl rfl fun i => handedOver_one i rfl
  | request | close | ticket | keep => exact .keep rfl rfl rfl fun _ => rfl
  | @cancel j =>
    refine .of_update rfl (fun _ => rfl) (fun _ _ => rfl) fun hij hci => ?_
    subst hij
    exact .cancel (by rw [hci]; rfl) (by rw [hci]; exact canceled_ctx _ _ _)
      (.inr ⟨rfl, rfl⟩) rfl fun _ => rfl

theorem open_feed (h : OpenEffect cfg s t pc o) : FeedStep s t i pc o := by
  cases h with
  | made => exact .made rfl rfl rfl rfl rfl
  | added | removed | opened | abandoned => exact .touch rfl rfl rfl rfl rfl
  | shut => exact .shutdown rfl (.inl rfl) rfl rfl
  | _ => exact .keep rfl rfl rfl fun _ => rfl

theorem data_feed (h : DataEffect cfg s t pc o) : FeedStep s t i pc o := by
  cases h with
  | send | refund | recv | recvAdjust => exact .touch rfl rfl rfl rfl rfl
  | @recvCancel j =>
    refine .of_update rfl (fun _ => rfl) (fun _ _ => rfl) fun hij hci => ?_
    subst hij
    exact .cancel (by rw [hci]; rfl) (by rw [hci]; exact canceled_ctx _ _ _) (.inl rfl) rfl
      fun _ => rfl
  | _ => exact .keep rfl rfl rfl fun _ => rfl

theorem close_feed (h : CloseEffect cfg s t pc o) : FeedStep s t i pc o := by
  cases h with
  | requestReleased => exact .keep rfl rfl rfl fun _ => (droppedPc_resumes ..).holding
  | close => exact .shuts rfl rfl rfl (canceled_ctx _ _ .channelClosed) (.inl rfl) rfl rfl
  | closeShut => exact .shutdown rfl (.inl rfl) rfl rfl
  | _ => exact .touch rfl rfl rfl rfl rfl

/-- **Every step of a session, as far as the queue of one channel is concerned.** -/
theorem feed_step (h : Effect cfg s t pc o) (i : Nat) : FeedStep s t i pc o := by
  cases h with
  | move h => exact .keep rfl rfl rfl fun _ => moves_holding h
  | found _ _ h =>
    cases h with
    | channel ha => exact .keep rfl rfl rfl fun _ => by cases ha <;> rfl
    | _ => exact .keep rfl rfl rfl fun _ => rfl
  | refused => exact .keep rfl rfl rfl fun _ => rfl
  | routeFails h => exact .keep rfl rfl rfl fun _ => by cases h <;> rfl
  | send h => exact send_feed h
  | down h => exact down_feed h
  | writer h => exact writer_feed h
  | inOpen h => exact inOpen_feed h
  | inFrame h => exact inFrame_feed h
  | inRequest h => exact inRequest_feed h
  | dispatch h => exact dispatch_feed h
  | work h => exact work_feed h
  | «open» h => exact open_feed h
  | data h => exact data_feed h
  | close h => exact close_feed h

theorem FeedStep.ctx_kept (h : FeedStep s t i pc o) (hi : i < s.nextLocalChannelID)
    (hx : (s.chan i).ctxErr ≠ none) : (o.sess.chan i).ctxErr ≠ none := by
  cases h with
  | keep _ hx' | accept _ _ hx' | take _ _ _ hx' | hand _ _ hx' => rwa [hx']
  | new hi' => exact absurd hi (Nat.not_lt.mpr hi')
  | shut _ hx' | cancel _ hx' => exact hx' hx

end Classify

/-! ## 3. What was accepted -/

/-- **What was accepted for channel `i`** has been handed over, is in its worker's hand, or is
    queued, in this order. A close is the last event that is accepted. -/
structure Fed (i : Nat) (tr : List Event) (m : Machine) (log : List ChannelEvent) : Prop where
  order : log = handedOver i tr ++ m.left i
  unmade : m.sess.nextLocalChannelID ≤ i → log = []
  last : .close ∈ log → (m.sess.chan i).state = .channelClosed ∧ .close ∉ log.dropLast
  closed : ∀ b, m.pc (.worker i) = .workClosed b → .close ∈ handedOver i tr
  recvCancel : ∀ t, m.pc t = .recvCancel i → (m.sess.chan i).state = .channelClosed

theorem fed_start (i : Nat) : Fed i [] Machine.start [] where
  order := rfl
  unmade _ := rfl
  last h := nomatch h
  closed _ h := nomatch h
  recvCancel _ h := nomatch h

section Step

variable {cfg : Config} {tr : List Event} {m : Machine} {t : Tid} {c : Choice} {o : Out} {i : Nat}
  {log : List ChannelEvent}

theorem handedOver_append (tr evs : List Event) :
    handedOver i (tr ++ evs) = handedOver i tr ++ handedOver i evs := List.filterMap_append ..

theorem Fed.lt (hF : Fed i tr m log) (h : log ≠ []) : i < m.sess.nextLocalChannelID :=
  Nat.lt_of_not_le fun hi => h (hF.unmade hi)

/-- Once the close has been handed over nothing is left. -/
theorem Fed.over (hF : Fed i tr m log) (h : .close ∈ handedOver i tr) :
    (m.sess.chan i).state = .channelClosed ∧ m.left i = [] := by
  have hmem : .close ∈ log := by rw [hF.order]; exact List.mem_append_left _ h
  obtain ⟨hs, hlast⟩ := hF.last hmem
  refine ⟨hs, by_contra fun hne => hlast ?_⟩
  rw [hF.order, List.dropLast_append_of_ne_nil hne]
  exact List.mem_append_left _ h

theorem holding_kept (hp : t = .worker i → o.pc.holding = (m.pc t).holding) :
    (update m.pc t o.pc (.worker i)).holding = (m.pc (.worker i)).holding := by
  by_cases ht : t = .worker i
  · subst ht
    rw [update_self, hp rfl]
  · rw [update_of_ne (Ne.symm ht)]

theorem arrivals_same {s s' : Session} (h : (s'.chan i).events = (s.chan i).events) :
    arrivals s s' i = [] := by
  unfold arrivals
  rw [h, List.drop_length]

/-- **A step keeps the balance**: what it hands over and leaves is what was left and arrives. -/
theorem FeedStep.balance (h : FeedStep m.sess t i (m.pc t) o)
    (hfresh : m.sess.nextLocalChannelID ≤ i → (m.sess.chan i).events = []) :
    m.left i ++ arrivals m.sess o.sess i =
      handedOver i o.events ++ (⟨o.sess, update m.pc t o.pc⟩ : Machine).left i := by
  unfold Machine.left
  dsimp only
  cases h with
  | keep he _ hh hp | shut he _ _ _ hh hp | cancel he _ _ hh hp =>
    rw [arrivals_same he, hh, holding_kept hp, he, List.append_nil, List.nil_append]
  | new hi he _ hh hp =>
    have he' := he.trans (hfresh hi).symm
    rw [arrivals_same he', hh, holding_kept hp, he', List.append_nil, List.nil_append]
  | accept _ he _ _ hh hp =>
    unfold arrivals
    rw [he, List.drop_left, hh, holding_kept hp, List.append_assoc, List.nil_append]
  | take ht he he' _ hp hp' hh =>
    subst ht
    unfold arrivals
    rw [he', he, hp, hh, update_self, hp', List.drop_eq_nil_of_le (by simp)]
    simp
  | hand ht he _ hp hp' hh =>
    subst ht
    rw [arrivals_same he, hh, he, hp, update_self, hp']
    simp

/-- Nothing arrives at a channel that has been closed. -/
theorem FeedStep.arrivals_cases {s : Session} {pc : Pc} (h : FeedStep s t i pc o)
    (hfresh : s.nextLocalChannelID ≤ i → (s.chan i).events = []) :
    arrivals s o.sess i = [] ∨ ∃ ev, arrivals s o.sess i = [ev] ∧
      (s.chan i).state.allowsRequests = true ∧ (ev = .close → (o.sess.chan i).state = .channelClosed) := by
  cases h with
  | keep he | shut he | cancel he | hand _ he => exact .inl (arrivals_same he)
  | new hi he => exact .inl (arrivals_same (he.trans (hfresh hi).symm))
  | take _ he he' =>
    unfold arrivals
    rw [he', he]
    exact .inl (List.drop_eq_nil_of_le (by simp))
  | accept hs he _ hc =>
    unfold arrivals
    rw [he, List.drop_left]
    exact .inr ⟨_, rfl, hs, hc⟩

/-- A worker gets to the end of `handleRemoteClose` by handing the close over. -/
theorem FeedStep.closes {b : Bool} (h : FeedStep m.sess (.worker i) i (m.pc (.worker i)) o)
    (he : Effect cfg m.sess (.worker i) (m.pc (.worker i)) o) (hp : o.pc = .workClosed b) :
    .close ∈ handedOver i o.events := by
  have hpc : m.pc (.worker i) = .workClose := by
    have hr := relies_of_step he
    generalize m.pc (.worker i) = pc at hr ⊢
    cases hr with
    | no hn => rw [hp] at hn; cases hn
    | recvClosed => cases hp
    | taken _ _ _ hp' | close hp' => rw [hp'] at hp; cases hp
    | closed => rfl
  have hchange : o.pc.holding ≠ (m.pc (.worker i)).holding := by rw [hpc, hp]; nofun
  cases h with
  | keep _ _ _ hp' | new _ _ _ _ hp' | accept _ _ _ _ _ hp' | shut _ _ _ _ _ hp'
  | cancel _ _ _ _ hp' => exact absurd (hp' rfl) hchange
  | take _ _ _ _ hp' => rw [hpc] at hp'; cases hp'
  | hand _ _ _ hp' _ hh =>
    rw [hpc] at hp'
    obtain rfl := List.singleton_inj.mp hp'
    rw [hh]
    exact List.mem_singleton.mpr rfl

/-- **Every step keeps what was accepted.** -/
theorem Fed.step (hF : Fed i tr m log) (hP : Pairing tr m) (hK : Known m)
    (he : Effect cfg m.sess t (m.pc t) o)
    (hfwd : i < m.sess.nextLocalChannelID → (m.sess.chan i).state.Forward (o.sess.chan i).state) :
    Fed i (tr ++ o.events) ⟨o.sess, update m.pc t o.pc⟩ (log ++ arrivals m.sess o.sess i) := by
  have hstep := feed_step he i
  have hfresh : m.sess.nextLocalChannelID ≤ i → (m.sess.chan i).events = [] := fun hi => by
    have hnil := hF.order.symm.trans (hF.unmade hi)
    exact (List.append_eq_nil_iff.mp (List.append_eq_nil_iff.mp hnil).2).2
  refine ⟨?_, fun hi => ?_, fun hmem => ?_, fun b hb => ?_, fun v hv => ?_⟩
  · rw [hF.order, handedOver_append, List.append_assoc, List.append_assoc, hstep.balance hfresh]
  · have hi' := (next_le he).trans hi
    rw [hF.unmade hi', List.nil_append]
    rcases hstep.arrivals_cases hfresh with h | ⟨ev, -, hs, -⟩
    · exact h
    · exact absurd (hP.allows_lt hs) (Nat.not_lt.mpr hi')
  · rcases hstep.arrivals_cases hfresh with h | ⟨ev, h, hs, hc⟩ <;> rw [h] at hmem ⊢
    · rw [List.append_nil] at hmem ⊢
      obtain ⟨hs, hlast⟩ := hF.last hmem
      exact ⟨(hfwd (hF.lt (List.ne_nil_of_mem hmem))).closed hs, hlast⟩
    · -- an open channel has accepted no close before
      have hnew : .close ∉ log := fun hmem => by
        rw [(hF.last hmem).1] at hs
        cases hs
      rw [List.dropLast_concat]
      have hev := (List.mem_append.mp hmem).resolve_left hnew
      exact ⟨hc (List.mem_singleton.mp hev).symm, hnew⟩
  · rw [handedOver_append]
    by_cases ht : t = .worker i
    · subst ht
      have hb' : o.pc = .workClosed b := (update_self ..).symm.trans hb
      exact List.mem_append_right _ (hstep.closes he hb')
    · exact List.mem_append_left _ (hF.closed b ((update_of_ne (Ne.symm ht) ..).symm.trans hb))
  · by_cases hvt : v = t
    · subst hvt
      have hv' : o.pc = .recvCancel i := (update_self ..).symm.trans hv
      have hr := relies_of_step he
      generalize m.pc v = pc at hr
      cases hr with
      | no hn => rw [hv'] at hn; cases hn
      | recvClosed _ hs => cases hv'; exact hs
      | taken _ _ _ hp | close hp | closed _ _ hp => rw [hp] at hv'; cases hv'
    · have hv' := (update_of_ne hvt ..).symm.trans hv
      have hlt := hK.locals v i (by rw [hv']; exact List.mem_singleton.mpr rfl)
      exact (hfwd hlt).closed (hF.recvCancel v hv')

end Step

/-- What the record of a run says, whatever its steps are. -/
theorem fed_run {cfg : Config} {C : Machine → Act → Prop} {tr : List Event}
    {x : Machine × (Nat → List ChannelEvent)} {i : Nat}
    (h : (Machine.recorded cfg).Run (fun x a => C x.1 a) tr x) : Fed i tr x.1 (x.2 i) := by
  refine h.invariant (I := fun tr x => Fed i tr x.1 (x.2 i)) (fed_start i)
    fun {tr evs x x' a} hr hF _ hs => ?_
  obtain ⟨hs, hlog⟩ := Lts.recording_step.mp hs
  have hrun := Lts.run_recording_iff.mpr ⟨x.2, hr⟩
  rw [hlog]
  have hfwd := fun hi => (state_forward (i := i) hrun hs hi).1
  obtain ⟨o, he, hsess, hpc, rfl⟩ := Machine.effect_of_step hs
  obtain ⟨⟨s', pc'⟩, log'⟩ := x'
  cases hsess
  cases hpc
  exact hF.step (pairing_run hrun) (known_run hrun) he hfwd

/-! ## 4. Who leaves -/

/-- A channel of a session that is up: its context has ended only if nothing is queued and nothing
    can come, and its worker has left only if the context has ended. -/
structure Tended (i : Nat) (m : Machine) : Prop where
  ctx : m.sess.Up → (m.sess.chan i).ctxErr ≠ none → i < m.sess.nextLocalChannelID ∧
    (m.sess.chan i).events = [] ∧ (m.sess.chan i).state.dead = true
  exited : m.sess.Up → m.pc (.worker i) = .exited → (m.sess.chan i).ctxErr ≠ none

section Tended

variable {cfg : Config} {tr : List Event} {m : Machine} {t : Tid} {c : Choice} {o : Out} {i : Nat}
  {log : List ChannelEvent}

theorem cancels_ids {pc : Pc} (h : pc.cancels = some i) : i ∈ pc.ids := by
  cases pc <;> cases h <;> exact List.mem_singleton.mpr rfl

theorem Machine.careful_events (h : m.careful i ⟨t, c⟩ = true) (hc : (m.pc t).cancels = some i) :
    (m.sess.chan i).events = [] := by
  unfold Machine.careful at h
  simpa [hc] using h

/-- **Every careful step keeps it.** -/
theorem Tended.step (hT : Tended i m) (hF : Fed i tr m log) (hO : Outbox tr m) (hK : Known m)
    (hdown : ∀ t, (m.pc t).down = true → m.sess.closing = true)
    (hcare : m.careful i ⟨t, c⟩ = true) (hx : m.sess.exec cfg t c (m.pc t) = some o)
    (hfwd : i < m.sess.nextLocalChannelID → (m.sess.chan i).state.Forward (o.sess.chan i).state) :
    Tended i ⟨o.sess, update m.pc t o.pc⟩ := by
  have he := effect_of_exec hx
  have hstep := feed_step he i
  -- a context that had ended already
  have hended : m.sess.Up → (m.sess.chan i).ctxErr ≠ none →
      (o.sess.chan i).events = (m.sess.chan i).events → i < o.sess.nextLocalChannelID ∧
        (o.sess.chan i).events = [] ∧ (o.sess.chan i).state.dead = true := fun hu hctx hev => by
    obtain ⟨hlt, hnil, hd⟩ := hT.ctx hu hctx
    exact ⟨hlt.trans_le (next_le he), hev.trans hnil, (hfwd hlt).dead hd⟩
  refine ⟨fun hup hctx => ?_, fun hup hgone => ?_⟩
  · have hu : m.sess.Up := up_of_step he hup
    have hctx' : (o.sess.chan i).ctxErr ≠ none := hctx
    cases hstep with
    | keep hev hx' | hand _ hev hx' => exact hended hu (hx' ▸ hctx') hev
    | new _ _ hx' => exact absurd hx' hctx'
    | accept hs _ hx' =>
      have hd := (hT.ctx hu (hx' ▸ hctx')).2.2
      rw [allows_alive hs] at hd
      cases hd
    | take _ hev _ hx' =>
      have hnil := (hT.ctx hu (hx' ▸ hctx')).2.1
      rw [hev] at hnil
      cases hnil
    | shut hev _ hc hd =>
      rcases hc with hc | hc
      · have hlt := hK.locals t i (cancels_ids hc)
        exact ⟨hlt.trans_le (next_le he), hev.trans (Machine.careful_events hcare hc), hd⟩
      · exact absurd (hdown t hc) (Bool.eq_false_iff.mp hu.2)
    | cancel hev _ hc =>
      have hdead : (m.sess.chan i).state = .channelClosed → i < m.sess.nextLocalChannelID →
          (o.sess.chan i).state.dead = true := fun hs hlt => (hfwd hlt).dead (by rw [hs]; rfl)
      rcases hc with hc | ⟨rfl, hc⟩
      · have hlt := hK.locals t i (by rw [hc]; exact List.mem_singleton.mpr rfl)
        exact ⟨hlt.trans_le (next_le he),
          hev.trans (Machine.careful_events hcare (by rw [hc]; rfl)),
          hdead (hF.recvCancel t hc) hlt⟩
      · have hclose := hF.closed true hc
        obtain ⟨hs, hleft⟩ := hF.over hclose
        have hlt := hF.lt (List.ne_nil_of_mem (hF.order ▸ List.mem_append_left _ hclose))
        exact ⟨hlt.trans_le (next_le he), hev.trans (List.append_eq_nil_iff.mp hleft).2,
          hdead hs hlt⟩
  · have hu : m.sess.Up := up_of_step he hup
    have hctx : (m.sess.chan i).ctxErr ≠ none := by
      by_cases ht : t = .worker i
      · subst ht
        have hgone' : o.pc = .exited := (update_self ..).symm.trans hgone
        exact (exits_canceled hx hu (hO.fits _) (hdown _) hgone').1
      · exact hT.exited hu ((update_of_ne (Ne.symm ht) ..).symm.trans hgone)
    exact hstep.ctx_kept (hT.ctx hu hctx).1 hctx

end Tended

theorem tended_run {cfg : Config} {tr : List Event} {x : Machine × (Nat → List ChannelEvent)}
    {i : Nat} (h : (Machine.recorded cfg).Run (fun x a => x.1.careful i a = true) tr x) :
    Tended i x.1 := by
  refine h.invariant (I := fun _ x => Tended i x.1)
    ⟨fun _ h => absurd rfl h, fun _ h => nomatch (h : Pc.start = .exited)⟩
    fun {tr evs x x' a} hr hT hC hs => ?_
  have hF := fed_run (C := fun m a => m.careful i a = true) hr (i := i)
  have hrun : (Machine.lts cfg).Run (fun m a => m.careful i a = true) tr x.1 :=
    Lts.run_recording_iff.mpr ⟨x.2, hr⟩
  obtain ⟨hs, -⟩ := Lts.recording_step.mp hs
  have hfwd := fun hi => (state_forward (i := i) hrun hs hi).1
  obtain ⟨o, hx, hx', rfl⟩ := Machine.exec_of_step hs
  obtain ⟨x', log'⟩ := x'
  cases hx'
  exact hT.step hF (outbox_run hrun) (known_run hrun) (down_run hrun) hC hx hfwd

/-! ## 5. Who starts -/

/-- The goroutine is about to start the worker of channel `i`, or to shut the session down. -/
def Pc.begins (i : Nat) : Pc → Bool
  | .inActivate j | .inStart j | .admitActivate j _ _ => j = i
  | .shutdown _ _ => true
  | _ => false

/-- The worker of channel `i` has been started; or the frame that accepts the channel has been made,
    with whose writing it starts; or a goroutine is about to start it. -/
def Machine.Begun (m : Machine) (i : Nat) : Prop :=
  (m.sess.chan i).workerStarted = true ∨ m.sess.Accepted i ∨ ∃ t, (m.pc t).begins i = true

section Begins

variable {cfg : Config} {s : Session} {t : Tid} {pc : Pc} {o : Out} {i : Nat}

theorem started_kept (h : Effect cfg s t pc o) (hi : i < s.nextLocalChannelID)
    (hw : (s.chan i).workerStarted = true) : (o.sess.chan i).workerStarted = true := by
  cases chan_step h with
  | same h => rw [h]; exact hw
  | incoming h | pending h => rw [h, update_of_ne hi.ne]; exact hw
  | @touch _ _ j _ _ h _ _ ht =>
    rw [h]
    by_cases hj : i = j
    · subst hj
      rw [update_self]
      cases ht with
      | request | requestRefused => unfold requestNoted; split <;> exact hw
      | started | startWorker => rfl
      | _ => exact hw
    · rw [update_of_ne hj]
      exact hw

/-- A channel is open once somebody is about to start its worker. -/
theorem opens_of_step (h : Effect cfg s t pc o) (ha : (o.sess.chan i).state.allowsRequests = true) :
    (s.chan i).state.allowsRequests = true ∨ o.pc.begins i = true := by
  replace ha : (cores o.sess i).state.allowsRequests = true := ha
  show (cores s i).state.allowsRequests = true ∨ _
  have hhalf : ∀ {st st'}, CloseWriteTo st st' → st.allowsRequests = true := fun h => by cases h <;> rfl
  cases core_at h i with
  | same hc => exact .inl (hc ▸ ha)
  | incoming _ hc | pending _ hc => rw [hc] at ha; cases ha
  | turn hc _ ht =>
    rw [hc] at ha
    cases ht with
    | openFails | data | take => exact .inl ha
    | eof hs => exact .inl hs.allows
    | closeWrite hs => exact .inl (hhalf hs)
    | undo hs => rcases hs with hs | hs <;> exact .inl (by rw [hs]; rfl)
    | opened | accept =>
      refine .inr ?_
      cases h with
      | move h | inOpen h | dispatch h | routeFails h => cases h <;> simp [Pc.begins]
      | _ => rename_i h; cases h
    | shut =>
      rw [show _ = (cores s i).state.shut from rfl, ChannelState.shut] at ha
      split at ha <;> cases ha
    | _ => cases ha

theorem begins_step (h : Effect cfg s t pc o) (hb : pc.begins i = true) (hu : o.sess.closing = false) :
    (o.sess.chan i).workerStarted = true ∨ o.sess.Accepted i ∨ o.pc.begins i = true := by
  cases pc with
  | shutdown =>
    cases h with
    | move h => cases h with | shutdownOver hc => exact Bool.noConfusion (hu.symm.trans hc)
    | down h => cases h <;> cases hu
    | _ h => cases h
  | inActivate =>
    cases h with
    | inOpen h | routeFails h => cases h; first | exact .inr (.inr rfl) | exact .inr (.inr hb)
    | _ h => cases h
  | admitActivate =>
    cases h with
    | move h => cases h; exact .inr (.inr rfl)
    | dispatch h =>
      cases h
      cases of_decide_eq_true hb
      refine .inr (.inl ⟨s.nextWrite, Nat.lt_succ_self _, ?_⟩)
      show (update s.writes s.nextWrite _ s.nextWrite).after = .startWorker _
      rw [update_self]
    | _ h => cases h
  | inStart =>
    cases h with
    | inOpen h =>
      cases h
      cases of_decide_eq_true hb
      exact .inl (by simp [putOpenResult, startChannelWorker, setChan])
    | _ h => cases h
  | _ => cases hb

/-- Only calls return, unless the session is being shut down. -/
theorem worker_done {r : Ret} (h : Effect cfg s (.worker i) pc o) (hf : (Tid.worker i).fits pc)
    (hx : o.pc = .done r) : pc.down = true ∨ s.closing = true := by
  have hcont : ∀ {w e k}, k.role ≠ some .call → contPc w e k ≠ .done r := fun {w e k} hk hp => by
    cases k <;> first | exact hk rfl | (cases e <;> cases hp)
  cases h with
  | move h =>
    cases h with
    | start h => cases h; cases hx
    | shutdownOver hc => exact .inr hc
    | _ => first | (cases hx; done) | cases hf _ rfl
  | found _ _ h =>
    cases h with
    | channel ha => cases ha <;> cases hx
    | _ => cases hx
  | refused | routeFails => cases hx
  | send h =>
    cases h with
    | reserved | pushSync => cases hx
    | _ => exact absurd hx (hcont fun hk => nomatch hf _ hk)
  | down h =>
    cases h with
    | queues => exact .inl rfl
    | _ => cases hx
  | _ h => cases h <;> first | (cases hx; done) | cases hf _ rfl

theorem activated_kept (h : Effect cfg s t pc o) (ha : s.activated = true) :
    o.sess.activated = true := by
  cases h with
  | move | found | refused | routeFails => exact ha
  | down h => cases h <;> first | exact ha | rfl
  | _ h => cases h <;> exact ha

theorem activate_activates (hp : Asleep pc) (h : s.exec cfg t .activate pc = some o) :
    o.sess.activated = true := by
  cases pc with
  | start => cases t <;> cases h; rfl
  | _ => first | cases h | exact hp.elim

end Begins

section Runs

variable {cfg : Config} {C : Machine → Act → Prop} {tr : List Event} {m : Machine} {i : Nat}

theorem dormant_run (h : (Machine.lts cfg).Run C tr m) : m.sess.activated = true ∨ Dormant m := by
  refine h.invariant (I := fun _ m => m.sess.activated = true ∨ Dormant m) (.inr .start)
    fun {tr evs m m' a} _ hI _ hs => ?_
  rcases hI with ha | hD
  · obtain ⟨o, he, hsess, -⟩ := Machine.effect_of_step hs
    exact .inl (hsess ▸ activated_kept he ha)
  · by_cases hc : a.choice = .activate
    · obtain ⟨o, hx, rfl, -⟩ := Machine.exec_of_step hs
      exact .inl (activate_activates (hD.asleep a.tid) (hc ▸ hx))
    · exact .inr (hD.step hc hs).1

theorem worker_done_run (h : (Machine.lts cfg).Run C tr m) (hu : m.sess.Up) :
    ∀ r, m.pc (.worker i) ≠ .done r := by
  refine Machine.run_invariant_up (I := fun _ m => ∀ r, m.pc (.worker i) ≠ .done r) h hu.2 nofun
    fun {tr m a o} hr hup hI _ he _ r hx => ?_
  by_cases ht : .worker i = a.tid
  · have hdone : o.pc = .done r := (update_self a.tid o.pc m.pc).symm.trans (ht ▸ hx)
    refine Bool.eq_false_iff.mp hup ((worker_done (ht ▸ he) ((outbox_run hr).fits _) hdone).elim ?_ id)
    exact ht ▸ down_run hr _
  · exact hI r ((update_of_ne ht ..).symm.trans hx)

/-- The worker of a channel that is open, or has events queued, has been started or will be. -/
theorem begun_run (h : (Machine.lts cfg).Run C tr m) (hu : m.sess.Up) :
    (m.sess.chan i).state.allowsRequests = true ∨ (m.sess.chan i).events ≠ [] → m.Begun i := by
  refine Machine.run_invariant_up (I := fun _ m => (m.sess.chan i).state.allowsRequests = true ∨
    (m.sess.chan i).events ≠ [] → m.Begun i) h hu.2 (fun h => h.elim nofun fun h => absurd rfl h)
    fun {tr m a o} hr _ hI _ he hup hx => ?_
  have hself : o.pc.begins i = true → ∃ v, (update m.pc a.tid o.pc v).begins i = true := fun h =>
    ⟨a.tid, by rwa [update_self]⟩
  by_cases hQ : (m.sess.chan i).state.allowsRequests = true ∨ (m.sess.chan i).events ≠ []
  · rcases hI hQ with hw | hacc | ⟨v, hv⟩
    · have hP := pairing_run hr
      exact .inl (started_kept he ((hP.started i hw).elim fun p hp => hP.lt i p hp) hw)
    · exact .inr (.inl (hacc.kept (outbox_run hr) he))
    · by_cases hvt : v = a.tid
      · exact (begins_step he (hvt ▸ hv) hup).imp_right (·.imp_right hself)
      · exact .inr (.inr ⟨v, (congrArg (Pc.begins i) (update_of_ne hvt ..)).trans hv⟩)
  · obtain ⟨hs, hev⟩ := not_or.mp hQ
    refine .inr (.inr (hself ?_))
    rcases hx with hx | hx
    · exact (opens_of_step he hx).resolve_left hs
    · exfalso
      cases feed_step he i with
      | accept hs' => exact hs hs'
      | take _ he' => exact hev (by rw [he']; nofun)
      | new _ he' => exact hx he'
      | keep he' | hand _ he' | shut he' | cancel he' => exact hev (he' ▸ hx)

end Runs

/-! ## 6. Delivery -/

/-- The worker of channel `i` is in its loop, or has been started and may enter it. -/
def Machine.atWork (m : Machine) (i : Nat) : Prop :=
  (m.pc (.worker i)).role = some .worker ∨
    m.pc (.worker i) = .start ∧ (m.sess.chan i).workerStarted = true ∧ m.sess.activated = true

/-- A caller of `sendEnvelope` that waits for the writer. -/
def Pc.waits : Pc → Bool
  | .await .. => true
  | _ => false

/-- Some choice lets goroutine `t` take a step. -/
def Machine.Enabled (cfg : Config) (m : Machine) (t : Tid) : Prop :=
  ∃ c, ((Machine.lts cfg).step m ⟨t, c⟩).isSome = true

theorem Machine.enabled_of_exec {cfg : Config} {m : Machine} {t : Tid} (c : Choice)
    (h : (m.sess.exec cfg t c (m.pc t)).isSome = true) : m.Enabled cfg t := by
  refine ⟨c, ?_⟩
  obtain ⟨o, ho⟩ := Option.isSome_iff_exists.mp h
  simp only [Machine.lts, Machine.step, ho]
  rfl

/-- A worker with something left to do that does not wait for the writer can go on. -/
theorem Machine.worker_enabled {cfg : Config} {m : Machine} {i : Nat} (hw : m.atWork i)
    (hleft : m.left i ≠ []) (hwaits : (m.pc (.worker i)).waits = false) :
    m.Enabled cfg (.worker i) := by
  rcases hw with hrole | ⟨hpc, hstarted, hactive⟩
  · cases hpc : m.pc (.worker i) with
    | work =>
      refine Machine.enabled_of_exec .go ?_
      have hev : (m.sess.chan i).events ≠ [] := fun h => hleft (by
        unfold Machine.left
        rw [hpc, h]
        rfl)
      rw [hpc]
      simp only [Session.exec, Session.work]
      cases hq : (m.sess.chan i).events with
      | nil => exact absurd hq hev
      | cons ev rest => rfl
    | workRespond =>
      refine Machine.enabled_of_exec (.answer ⟨true, [], "", ""⟩) ?_
      rw [hpc]
      rfl
    | await => rw [hpc] at hwaits; cases hwaits
    | _ =>
      first
        | (rw [hpc] at hrole; cases hrole; done)
        | (refine Machine.enabled_of_exec .go ?_; rw [hpc]; rfl)
  · refine Machine.enabled_of_exec .go ?_
    rw [hpc]
    simp only [Session.exec, Session.begin, Session.workStart]
    rw [if_pos ⟨hstarted, hactive⟩]
    split <;> rfl

/-- **Somebody sees to what is left**: the worker is at work or may enter its loop; or it will, when
    the frame that accepts the channel is written; or a goroutine is about to start it or to shut the
    session down. -/
theorem left_attended {cfg : Config} {tr : List Event} {m : Machine} {log : Nat → List ChannelEvent}
    {i : Nat} (h : (Machine.recorded cfg).Run (fun x a => x.1.careful i a = true) tr (m, log))
    (hu : m.sess.Up) (hleft : m.left i ≠ []) :
    m.atWork i ∨ m.pc (.worker i) = .start ∧ (m.sess.chan i).workerStarted = false ∧
      m.sess.Accepted i ∨ ∃ t, (m.pc t).begins i = true := by
  have hrun : (Machine.lts cfg).Run (fun m a => m.careful i a = true) tr m :=
    Lts.run_recording_iff.mpr ⟨log, h⟩
  have hdown : (m.pc (.worker i)).down ≠ true := fun hd =>
    Bool.eq_false_iff.mp hu.2 (down_run hrun _ hd)
  have hleft' : (m.pc (.worker i)).holding ++ (m.sess.chan i).events ≠ [] := hleft
  cases hr : (m.pc (.worker i)).role with
  | some r =>
    obtain rfl : .worker = r := (outbox_run hrun).fits _ r hr
    exact .inl (.inl hr)
  | none =>
    cases hpc : m.pc (.worker i) <;> rw [hpc] at hr hdown hleft'
    case start =>
      by_cases hw : (m.sess.chan i).workerStarted = true
      · refine .inl (.inr ⟨hpc, hw, (dormant_run hrun).resolve_right fun hD => ?_⟩)
        rw [(hD.sess.idle i).2.1] at hw
        cases hw
      · exact .inr (((begun_run hrun hu (.inr hleft')).resolve_left hw).imp_left fun hacc =>
          ⟨rfl, Bool.eq_false_iff.mpr hw, hacc⟩)
    case exited =>
      have hT : Tended i m := tended_run h
      exact absurd (hT.ctx hu (hT.exited hu hpc)).2.1 hleft'
    case done r => exact absurd hpc (worker_done_run hrun hu r)
    case shutdown => exact .inr (.inr ⟨.worker i, by rw [hpc]; rfl⟩)
    case ensure k | reserve k | push k | await k =>
      cases k <;> first | exact absurd rfl hdown | cases hr
    all_goals first | exact absurd rfl hdown | cases hr

/-- **Handler events are delivered**, if the context of the channel is never cancelled while events
    are queued for it. In every state of such a run in which the session is up, what was accepted
    has been handed over once and in this order, up to what is left; the close at most once, and
    exactly once when it was accepted and nothing is left; a worker that has left has left nothing
    behind; and one that is at work with something left can go on, unless it waits for the writer. -/
theorem handler_events_delivered {cfg : Config} {tr : List Event} {m : Machine}
    {log : Nat → List ChannelEvent} {i : Nat}
    (h : (Machine.recorded cfg).Run (fun x a => x.1.careful i a = true) tr (m, log))
    (hu : m.sess.Up) :
    log i = handedOver i tr ++ m.left i ∧
    (handedOver i tr).count .close ≤ 1 ∧
    (.close ∈ log i → m.left i = [] → (handedOver i tr).count .close = 1) ∧
    (m.pc (.worker i) = .exited → handedOver i tr = log i) ∧
    (m.left i ≠ [] → m.atWork i → (m.pc (.worker i)).waits = false → m.Enabled cfg (.worker i)) := by
  have hF : Fed i tr m (log i) := fed_run (C := fun m a => m.careful i a = true) h
  have hT : Tended i m := tended_run h
  have hcount : (log i).count .close ≤ 1 := by
    by_cases hc : .close ∈ log i
    · have hne := List.ne_nil_of_mem hc
      rw [← List.dropLast_append_getLast hne, List.count_append,
        List.count_eq_zero_of_not_mem (hF.last hc).2, Nat.zero_add]
      exact List.count_le_length
    · rw [List.count_eq_zero_of_not_mem hc]
      exact Nat.zero_le _
  have hle : (handedOver i tr).count .close ≤ (log i).count .close := by
    rw [hF.order, List.count_append]
    exact Nat.le_add_right ..
  refine ⟨hF.order, hle.trans hcount, fun hc hleft => ?_, fun hgone => ?_,
    fun hleft hw hwaits => Machine.worker_enabled hw hleft hwaits⟩
  · have heq : log i = handedOver i tr := by rw [hF.order, hleft, List.append_nil]
    rw [← heq]
    exact Nat.le_antisymm hcount (List.count_pos_iff.mpr hc)
  · have hnil : (m.sess.chan i).events = [] := (hT.ctx hu (hT.exited hu hgone)).2.1
    rw [hF.order]
    unfold Machine.left
    rw [hnil, hgone]
    simp [Pc.holding]

/-- The peer sends a request on channel 0 and closes it. -/
def requestThenClose : List Act :=
  incomingChannel ++ Tid.receiver.does [.frame (.channelRequest ⟨0, 1, "r", false, []⟩), .go] ++
    peerClose

/-- The worker hands over a request and the close, and leaves. -/
theorem handler_events_delivered_closed : ∃ tr m log,
    (Machine.recorded narrow.config).Run (fun x a => x.1.careful 0 a = true) tr (m, log) ∧
    m.sess.Up ∧ m.pc (.worker 0) = .exited ∧
    log 0 = [.request ⟨0, 1, "r", false, []⟩, .close] ∧ handedOver 0 tr = log 0 := by
  obtain ⟨tr, x, h, hu, hw, hlog⟩ := Lts.exists_run_of_replay (L := Machine.recorded narrow.config)
    (C := fun x a => x.1.careful 0 a = true)
    (P := fun tr x => x.1.sess.Up ∧ (x.1.pc (.worker 0)).gone = true ∧
      x.2 0 = [.request ⟨0, 1, "r", false, []⟩, .close])
    (requestThenClose ++ (Tid.worker 0).does [.go, .go, .go, .answer ⟨true, [], "", ""⟩, .go, .go,
      .go, .go, .chanDone]) (by decide +kernel)
  obtain ⟨m, log⟩ := x
  have hgone := Pc.eq_exited hw
  exact ⟨tr, m, log, h, hu, hgone, hlog, (handler_events_delivered h hu).2.2.2.1 hgone⟩

/-- **Recv takes the handler's events away.** The peer's request and its close have been accepted;
    a `Recv` reports the end of the channel and cancels its context, and the worker, whose `select`
    may take either branch, leaves. The session is up and the handler has been told nothing. -/
theorem handler_events_lost : ∃ tr m log,
    (Machine.recorded narrow.config).Run (fun _ _ => True) tr (m, log) ∧ m.sess.Up ∧
    (∀ e ∈ tr, e ≠ .closeCalled 0) ∧ .recvEOF 0 ∈ tr ∧
    log 0 = [.request ⟨0, 1, "r", false, []⟩, .close] ∧ handedOver 0 tr = [] ∧
    m.pc (.worker 0) = .exited := by
  obtain ⟨tr, x, h, hu, hc, hr, hlog, hh, hw⟩ := Lts.exists_run_of_replay
    (L := Machine.recorded narrow.config) (C := fun _ _ => True)
    (P := fun tr x => x.1.sess.Up ∧ (∀ e ∈ tr, e ≠ .closeCalled 0) ∧ .recvEOF 0 ∈ tr ∧
      x.2 0 = [.request ⟨0, 1, "r", false, []⟩, .close] ∧ handedOver 0 tr = [] ∧
      (x.1.pc (.worker 0)).gone = true)
    (requestThenClose ++ (Tid.call 0).does [.api (.recv 0), .go, .go] ++
      (Tid.worker 0).does [.chanDone]) (by decide +kernel)
  exact ⟨tr, x.1, x.2, h, hu, hc, hr, hlog, hh, Pc.eq_exited hw⟩

end Mygosh.Mux

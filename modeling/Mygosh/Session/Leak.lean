/-
  File:      Mygosh/Session/Leak.lean
  Subject:   What a finished channel still holds of the session's budget.

  A channel's counter is given back frame by frame (`Recv`), event by event (the worker) or as a
  whole (`Close`, `shutdown`). Three orders of steps leave something behind for good:

  * `Close` on a channel the peer has closed returns at once, whatever is still unread;
  * a `Recv` that reports the end of such a channel cancels its context, and the worker may leave
    with events queued;
  * a `CloseWrite` that could not send puts back the state it found, over an EOF that has come in
    since, so that data is taken in after the end has been reported.

  In a run without these steps (`Machine.tidy`) a finished channel holds nothing.
-/
import Mygosh.Session.Ended

namespace Mygosh.Mux

open Function (update update_self update_of_ne)
open Session

/-! ## 1. What the state of a channel says -/

/-- Nothing has come in yet, or everything has been thrown away. -/
def ChannelState.idle : ChannelState → Bool
  | .channelOpening | .channelClosing | .channelFailed => true
  | _ => false

/-- No data is taken in any more. -/
def ChannelState.spent : ChannelState → Bool
  | .channelRemoteEOF | .channelBothEOF | .channelClosing | .channelClosed | .channelFailed => true
  | _ => false

/-- The application has nothing left to receive. -/
def Channel.Drained (c : Channel) : Prop := c.frames = [] ∧ c.state.spent = true

/-- The peer has closed and the worker has nothing left to take. -/
def Channel.Over (c : Channel) : Prop := c.state = .channelClosed ∧ c.events = []

/-- A `CloseWrite` that goes back puts back the state it replaced. -/
def Undoes (j : Nat) (pc : Pc) (st : ChannelState) : Prop :=
  ∀ st' w e, pc = .closeWriteUndo j st' w e →
    st = .channelLocalEOF ∨ st = .channelBothEOF → CloseWriteTo st' st

section State

variable {j : Nat} {pc : Pc} {st st' : ChannelState}

theorem dead_spent (h : st.dead = true) : st.spent = true := by
  cases st <;> first | rfl | cases h

theorem allows_busy (h : st.allowsRequests = true) : st.idle = false := by
  cases st <;> first | rfl | cases h

theorem EofTo.busy (h : EofTo st st') : st'.idle = false := by cases h <;> rfl

theorem EofTo.spent (h : EofTo st st') : st'.spent = true := by cases h <;> rfl

theorem Shift.idle_of (h : Shift j pc st st') (hu : Undoes j pc st) (hi : st'.idle = true) :
    st.idle = true := by
  cases h with
  | refl => exact hi
  | failed => rfl
  | opened | closed | acked => cases hi
  | eof h => exact absurd (h.busy.symm.trans hi) Bool.noConfusion
  | halfClosed h => cases h <;> cases hi
  | undone h => cases hu _ _ _ rfl h <;> cases hi

theorem Shift.spent_kept (h : Shift j pc st st') (hu : Undoes j pc st) (hs : st.spent = true) :
    st'.spent = true := by
  cases h with
  | refl => exact hs
  | failed | closed | acked => rfl
  | opened => cases hs
  | eof h => exact h.spent
  | halfClosed h =>
    cases h with
    | «open» => cases hs
    | remoteEOF => rfl
  | undone h =>
    cases hu _ _ _ rfl h with
    | «open» => cases hs
    | remoteEOF => rfl

end State

/-- **What a channel's state says about what it holds.** -/
structure Channel.Sound (c : Channel) (b : Measure → Nat) : Prop where
  idle : c.state.idle = true → c.frames = [] ∧ ∀ u, b u = 0
  last : .close ∈ c.events → c.state = .channelClosed ∧ .close ∉ c.events.dropLast
  err : c.sessionErr ≠ none → c.state.dead = true
  ctx : c.ctxErr ≠ none → c.state.dead = true ∧ c.frames = [] ∧ ((∀ u, b u = 0) ∨ c.Over)

section Sound

variable {cfg : Config} {s : Session} {t : Tid} {pc : Pc} {o : Out} {j : Nat}

/-- A channel that takes in requests has been neither cancelled nor closed. -/
theorem Channel.Sound.allows {c : Channel} {b : Measure → Nat} (h : c.Sound b)
    (hs : c.state.allowsRequests = true) :
    c.ctxErr = none ∧ c.sessionErr = none ∧ .close ∉ c.events := by
  have hdead := Bool.eq_false_iff.mp (allows_alive hs)
  refine ⟨?_, ?_, fun hc => ?_⟩
  · by_contra hx
    exact hdead (h.ctx hx).1
  · by_contra hx
    exact hdead (h.err hx)
  · rw [(h.last hc).1] at hs
    cases hs

/-- What takes something in is not idle. -/
theorem Channel.Adds.busy {c c' : Channel} {n : Nat} (h : c.Adds c' n)
    (hs : c.state.allowsRequests = true) : c'.state.idle = false := by
  cases h with
  | frame hr hk hst =>
    rw [hst]
    exact allows_busy hs
  | event hk hst =>
    rcases hst with ⟨hst | hst, -⟩ | hst
    · rw [hst]
      exact allows_busy hs
    · exact hst.busy
    · rw [hst]
      rfl

/-- **Every step keeps it**, if a cancelled channel is over and a `CloseWrite` goes back to the state
    it replaced. -/
theorem Channel.Sound.step (h : HoldAt cfg s t pc o j)
    (hS : (s.chan j).Sound fun u => s.budget.held u j) (hu : Undoes j pc (s.chan j).state)
    (hcancel : t = .worker j ∧ pc = .workClosed true ∨ pc = .recvCancel j →
      (s.chan j).Over ∧ (s.chan j).frames = [])
    (hfresh : s.nextLocalChannelID ≤ j → ∀ u, s.budget.held u j = 0) :
    (o.sess.chan j).Sound fun u => o.sess.budget.held u j := by
  have hzero : (∀ u, o.sess.budget.held u j ≤ s.budget.held u j) →
      (∀ u, s.budget.held u j = 0) → ∀ u, o.sess.budget.held u j = 0 := fun hb h u =>
    Nat.eq_zero_of_le_zero (h u ▸ hb u)
  cases h with
  | keep hb hk hs =>
    have hle := fun u => (hb u).trans_le (Nat.sub_le ..)
    refine ⟨fun hi => ?_, fun hc => ?_, fun hx => ?_, fun hx => ?_⟩
    · obtain ⟨hf, h0⟩ := hS.idle (hs.idle_of hu hi)
      exact ⟨hk.frames.trans hf, hzero hle h0⟩
    · rw [hk.events] at hc ⊢
      exact ⟨hs.closed_kept (hS.last hc).1, (hS.last hc).2⟩
    · exact hs.dead (hS.err (hk.err ▸ hx))
    · obtain ⟨hd, hf, h0⟩ := hS.ctx (hk.ctx ▸ hx)
      refine ⟨hs.dead hd, hk.frames.trans hf, h0.imp (hzero hle) fun ho => ?_⟩
      exact ⟨hs.closed_kept ho.1, hk.events.trans ho.2⟩
  | cancel hb hc hp =>
    obtain ⟨ho, hf⟩ := hcancel hp
    rw [hc]
    refine ⟨fun hi => ?_, hS.last, hS.err, fun _ => ⟨?_, hf, .inr ho⟩⟩
    · obtain ⟨hf, h0⟩ := hS.idle hi
      exact ⟨hf, hzero (fun u => (hb u).le) h0⟩
    · show (s.chan j).state.dead = true
      rw [ho.1]
      rfl
  | new hj hb hf he hx hx' =>
    refine ⟨fun _ => ⟨hf, fun u => (hb u).trans (hfresh hj u)⟩, fun hc => ?_, fun h => absurd hx' h,
      fun h => absurd hx h⟩
    rw [he] at hc
    cases hc
  | add hs ha =>
    obtain ⟨hx, hx', hlast⟩ := hS.allows hs
    have hbusy := Bool.eq_false_iff.mp (ha.busy hs)
    cases ha with
    | frame hr hk hst =>
      exact ⟨fun hi => absurd hi hbusy, fun hc => absurd (hk.events ▸ hc) hlast,
        fun h => absurd (hk.err.trans hx') h, fun h => absurd (hk.ctx.trans hx) h⟩
    | event hk hst =>
      refine ⟨fun hi => absurd hi hbusy, fun hc => ?_, fun h => absurd (hk.err.trans hx') h,
        fun h => absurd (hk.ctx.trans hx) h⟩
      rw [hk.events] at hc ⊢
      rcases List.mem_append.mp hc with hc | hc
      · exact absurd hc hlast
      · obtain rfl := List.mem_singleton.mp hc
        rw [List.dropLast_concat]
        exact ⟨hst.resolve_left fun h => h.2 rfl, hlast⟩
  | take hb he hc =>
    rw [hc]
    refine ⟨fun hi => ?_, fun hl => ?_, hS.err, fun hx => ?_⟩
    · obtain ⟨hf, h0⟩ := hS.idle hi
      exact ⟨hf, hzero (fun u => (hb u).le) h0⟩
    · obtain ⟨hst, hd⟩ := hS.last (he ▸ List.mem_cons_of_mem _ hl)
      refine ⟨hst, fun hmem => hd ?_⟩
      rw [he, List.dropLast_cons_of_ne_nil (List.ne_nil_of_mem hl)]
      exact List.mem_cons_of_mem _ hmem
    · obtain ⟨hd, hf, h0⟩ := hS.ctx hx
      refine ⟨hd, hf, .inl (hzero (fun u => (hb u).le) (h0.resolve_right fun ho => ?_))⟩
      rw [ho.2] at he
      cases he
  | recv hb hf hc =>
    rw [hc]
    refine ⟨fun hi => ?_, hS.last, hS.err, fun hx => ?_⟩
    · rw [(hS.idle hi).1] at hf
      cases hf
    · rw [(hS.ctx hx).2.1] at hf
      cases hf
  | discard hb hf he hd hs =>
    refine ⟨fun _ => ⟨hf, hb⟩, fun hc => ?_, fun _ => hd, fun _ => ⟨hd, hf, .inl hb⟩⟩
    rw [he] at hc ⊢
    exact ⟨hs (hS.last hc).1, (hS.last hc).2⟩

/-- **What has been drained stays so.** -/
theorem Channel.Drained.step (h : HoldAt cfg s t pc o j) (hD : (s.chan j).Drained)
    (hu : Undoes j pc (s.chan j).state) (hj : j < s.nextLocalChannelID) :
    (o.sess.chan j).Drained := by
  obtain ⟨hf, hs⟩ := hD
  cases h with
  | keep _ hk hst => exact ⟨hk.frames.trans hf, hst.spent_kept hu hs⟩
  | cancel _ hc =>
    rw [hc]
    exact ⟨hf, hs⟩
  | new hj' => exact absurd hj (Nat.not_lt.mpr hj')
  | add ha' ha =>
    cases ha with
    | frame hr =>
      cases hc : (s.chan j).state <;> rw [hc] at hs hr <;> first | cases hs; done | cases hr
    | event hk hst =>
      refine ⟨hk.frames.trans hf, ?_⟩
      rcases hst with ⟨hst | hst, -⟩ | hst
      · rwa [hst]
      · exact hst.spent
      · rw [hst]
        rfl
  | take _ _ hc =>
    rw [hc]
    exact ⟨hf, hs⟩
  | recv _ hf' =>
    rw [hf] at hf'
    cases hf'
  | discard _ hf' _ hd => exact ⟨hf', dead_spent hd⟩

/-- **A channel that is over stays so.** -/
theorem Channel.Over.step (h : HoldAt cfg s t pc o j) (hO : (s.chan j).Over)
    (hj : j < s.nextLocalChannelID) : (o.sess.chan j).Over := by
  refine ⟨h.closed_kept hO.1 hj, ?_⟩
  obtain ⟨hs, he⟩ := hO
  cases h with
  | keep _ hk => exact hk.events.trans he
  | cancel _ hc | recv _ _ hc =>
    rw [hc]
    exact he
  | new hj' => exact absurd hj (Nat.not_lt.mpr hj')
  | add ha =>
    rw [hs] at ha
    cases ha
  | take _ he' =>
    rw [he] at he'
    cases he'
  | discard _ _ he' => exact he'.trans he

/-- A channel's context that has ended stays so. -/
theorem HoldAt.ctx_kept (h : HoldAt cfg s t pc o j) (hx : (s.chan j).ctxErr ≠ none)
    (hj : j < s.nextLocalChannelID) : (o.sess.chan j).ctxErr ≠ none := by
  cases h with
  | keep _ hk => rwa [hk.ctx]
  | cancel _ hc =>
    rw [hc]
    exact canceled_ctx _ _ _ hx
  | new hj' => exact absurd hj (Nat.not_lt.mpr hj')
  | add _ ha =>
    cases ha with
    | frame _ hk => rwa [hk.ctx]
    | event hk => rwa [hk.ctx]
  | take _ _ hc | recv _ _ hc =>
    rw [hc]
    exact hx
  | discard _ _ _ _ _ hx' => exact hx' hx

end Sound

/-! ## 2. Who has closed -/

/-- A `Close` of the application that is past its section, or has returned. -/
def Ret.closes : Ret → Option Nat
  | .close i _ => some i
  | _ => none

def AfterShutdown.closes : AfterShutdown → Option Nat
  | .ret r => r.closes
  | .exit => none

def Cont.closes : Cont → Option Nat
  | .channelClose i .api => some i
  | .disconnect d => d.k.closes
  | _ => none

@[inherit_doc Ret.closes]
def Pc.closes : Pc → Option Nat
  | .done r => r.closes
  | .ensure _ _ k | .reserve _ _ k | .push _ _ k | .await _ _ k => k.closes
  | .shutdown _ k => k.closes
  | .shutCancel d | .shutChannels d | .shutGlobals d | .shutQueues d => d.k.closes
  | .closeRemove i .api | .closeShut i .api | .closeArm i .api => some i
  | _ => none

section Places

variable {cfg : Config} {s : Session} {t : Tid} {pc pc' : Pc} {o : Out} {i : Nat}

theorem contPc_closes (w : Nat) (e : Option Err) (k : Cont) : (contPc w e k).closes = k.closes := by
  cases k with
  | channelClose i k => cases k <;> cases e <;> rfl
  | globalRequest | channelRequest => cases e <;> simp only [contPc] <;> split <;> rfl
  | _ => cases e <;> rfl

theorem downPc_closes (k : AfterShutdown) : (downPc k).closes = k.closes := by cases k <;> rfl

theorem droppedPc_closes (i q : Nat) (typ : String) (p : Bytes) (e : Option Err) :
    (droppedPc i q typ p e).closes = none := by cases e <;> rfl

theorem moves_closes (h : Moves cfg s t pc pc') (hc : pc'.closes = some i) :
    pc.closes = some i ∨ pc = .close i .api := by
  cases h with
  | start h => cases h <;> cases hc
  | shutdownOver => exact .inl ((downPc_closes _).symm.trans hc)
  | requestGone => rw [droppedPc_closes] at hc; cases hc
  | channelsOver | ensured => exact .inl hc
  | @closeOver j k =>
    cases k with
    | api => cases hc; exact .inr rfl
    | abandoned => cases hc
  | _ => cases hc

/-- A `Close` gets past its section in one step. -/
theorem closes_of_step (h : Effect cfg s t pc o) (hc : o.pc.closes = some i) :
    pc.closes = some i ∨ pc = .close i .api := by
  cases h with
  | move h => exact moves_closes h hc
  | found _ _ h =>
    cases h with
    | channel ha => cases ha <;> cases hc
    | _ => cases hc
  | refused | routeFails => cases hc
  | send h =>
    cases h with
    | reserved | pushSync => exact .inl hc
    | _ => exact .inl ((contPc_closes ..).symm.trans hc)
  | down h =>
    cases h with
    | begin | disconnect | cancel | channel | globals => exact .inl hc
    | queues => exact .inl ((downPc_closes _).symm.trans hc)
    | _ => cases hc
  | close h =>
    cases h with
    | requestReleased => rw [droppedPc_closes] at hc; cases hc
    | @closeOpening j k | @close j k =>
      cases k with
      | api => cases hc; exact .inr rfl
      | abandoned => cases hc
    | @closeRemoved j k | @closeShut j k | @closeArmed j k =>
      cases k with
      | api => exact .inl hc
      | abandoned => cases hc
    | _ => cases hc
  | _ h => cases h <;> cases hc

end Places

/-! ## 3. Runs without the three steps -/

/-- A step after which nothing is left behind: a `Close` of a channel the peer has closed finds
    nothing unread, a `Recv` that reports the end of such a channel finds no event queued, and a
    `CloseWrite` that goes back finds the state it set. -/
def Machine.tidy (m : Machine) (a : Act) : Bool :=
  match m.pc a.tid with
  | .close i .api => (m.sess.chan i).state ≠ .channelClosed || (m.sess.chan i).frames.isEmpty
  | .recvCancel i => (m.sess.chan i).events.isEmpty
  | .closeWriteUndo i previous _ _ =>
    match (m.sess.chan i).state with
    | .channelLocalEOF => previous = .channelOpen
    | .channelBothEOF => previous = .channelRemoteEOF
    | _ => true
  | _ => true

/-- The invariant of such runs. -/
structure Settled (tr : List Event) (m : Machine) : Prop where
  sound : ∀ i, (m.sess.chan i).Sound fun u => m.sess.budget.held u i
  handling : ∀ i, (m.pc (.worker i)).handlesClose = true → (m.sess.chan i).Over
  cancelNow : ∀ i, m.pc (.worker i) = .workClosed true → (m.sess.chan i).frames = []
  cancels : ∀ t i, m.pc t = .recvCancel i →
    (m.sess.chan i).state = .channelClosed ∧ (m.sess.chan i).Drained
  closes : ∀ t i, (m.pc t).closes = some i → i < m.sess.nextLocalChannelID ∧ (m.sess.chan i).Drained
  eof : m.sess.Up → ∀ i, .recvEOF i ∈ tr → i < m.sess.nextLocalChannelID ∧ (m.sess.chan i).Drained
  exited : m.sess.Up → ∀ i, m.pc (.worker i) = .exited →
    i < m.sess.nextLocalChannelID ∧ (m.sess.chan i).ctxErr ≠ none

theorem settled_start : Settled [] Machine.start where
  sound _ := ⟨fun _ => ⟨rfl, fun u => by cases u <;> rfl⟩, nofun, fun h => absurd rfl h,
    fun h => absurd rfl h⟩
  handling _ h := nomatch h
  cancelNow _ h := nomatch h
  cancels _ _ h := nomatch h
  closes _ _ h := nomatch h
  eof _ _ h := nomatch h
  exited _ _ h := nomatch h

section Settled

variable {cfg : Config} {tr : List Event} {m : Machine} {t : Tid} {c : Choice} {o : Out}

theorem tidy_undoes (h : m.tidy ⟨t, c⟩ = true) (j : Nat) :
    Undoes j (m.pc t) (m.sess.chan j).state := by
  intro st' w e hpc hst
  unfold Machine.tidy at h
  simp only [hpc] at h
  rcases hst with hst | hst <;> rw [hst] at h ⊢
  · obtain rfl := of_decide_eq_true h
    exact .open
  · obtain rfl := of_decide_eq_true h
    exact .remoteEOF

/-- A channel whose context is about to be cancelled is over and has nothing unread. -/
theorem Settled.cancelled (hI : Settled tr m) (h : m.tidy ⟨t, c⟩ = true) {j : Nat}
    (hp : t = .worker j ∧ m.pc t = .workClosed true ∨ m.pc t = .recvCancel j) :
    (m.sess.chan j).Over ∧ (m.sess.chan j).frames = [] := by
  rcases hp with ⟨rfl, hp⟩ | hp
  · exact ⟨hI.handling j (by rw [hp]; rfl), hI.cancelNow j hp⟩
  · obtain ⟨hs, hd⟩ := hI.cancels t j hp
    unfold Machine.tidy at h
    simp only [hp] at h
    exact ⟨⟨hs, List.isEmpty_iff.mp h⟩, hd.1⟩

/-- A `Close` leaves a drained channel. -/
theorem Settled.close (hI : Settled tr m) (h : m.tidy ⟨t, c⟩ = true) {i : Nat}
    (hpc : m.pc t = .close i .api) (he : Effect cfg m.sess t (m.pc t) o) :
    (o.sess.chan i).Drained := by
  unfold Machine.tidy at h
  simp only [hpc] at h
  rw [hpc] at he
  have hidle := (hI.sound i).idle
  cases he with
  | move h' =>
    cases h' with
    | closeOver hs hs' =>
      show (m.sess.chan i).Drained
      cases hst : (m.sess.chan i).state <;> rw [hst] at hs hs' hidle h <;> first
        | cases hs; done
        | exact absurd rfl hs'
        | exact ⟨(hidle rfl).1, by rw [hst]; rfl⟩
        | exact ⟨List.isEmpty_iff.mp h, by rw [hst]; rfl⟩
  | close h' =>
    cases h' with
    | closeOpening hs =>
      show (update m.sess.chan i _ i).Drained
      rw [update_self]
      exact ⟨(hidle (by rw [hs]; rfl)).1, rfl⟩
    | close =>
      show (update m.sess.chan i _ i).Drained
      rw [update_self]
      exact ⟨rfl, rfl⟩
  | routeFails h' => cases h'
  | send h' | down h' | writer h' | inOpen h' | inFrame h' | inRequest h' | dispatch h' | work h'
  | «open» h' | data h' => cases h'

/-- `Recv` reports the end of a drained channel. -/
theorem Settled.recvEOF (hI : Settled tr m) (hu : m.sess.Up) {i : Nat}
    (he : Effect cfg m.sess t (m.pc t) o) (hev : .recvEOF i ∈ o.events) : (m.sess.chan i).Drained := by
  rcases (recvEOF_of_step he hev).2.2 with ⟨-, hends, -⟩ | ⟨hpc, -⟩ | ⟨-, hc, -⟩
  · cases hends with
    | state hf hr hc =>
      refine ⟨hf, ?_⟩
      cases hst : (m.sess.chan i).state <;> rw [hst] at hr <;> first | rfl | cases hr
    | session hf hx => exact ⟨hf, dead_spent ((hI.sound i).err (by rw [hx]; nofun))⟩
  · exact (hI.cancels t i hpc).2
  · unfold Session.chanCause at hc
    rw [hu.1, Option.or_none] at hc
    obtain ⟨hd, hf, -⟩ := (hI.sound i).ctx (Option.isSome_iff_ne_none.mp hc)
    exact ⟨hf, dead_spent hd⟩

/-- The close event is the last one, so that the worker takes it off a queue of one. -/
theorem Channel.Sound.close_taken {ch : Channel} {b : Measure → Nat} {rest : List ChannelEvent}
    (h : ch.Sound b) (he : ch.events = .close :: rest) :
    ch.state = .channelClosed ∧ rest = [] := by
  obtain ⟨hs, hd⟩ := h.last (by rw [he]; exact List.mem_cons_self)
  refine ⟨hs, by_contra fun hne => hd ?_⟩
  rw [he, List.dropLast_cons_of_ne_nil hne]
  exact List.mem_cons_self

/-- The worker handles the peer's close when nothing else is left for it. -/
theorem Settled.handling_step (hI : Settled tr m) (hP : Pairing tr m)
    (he : Effect cfg m.sess t (m.pc t) o) (hat : ∀ j, HoldAt cfg m.sess t (m.pc t) o j) (i : Nat)
    (h : (update m.pc t o.pc (.worker i)).handlesClose = true) :
    (o.sess.chan i).Over := by
  have hkept : (m.pc (.worker i)).handlesClose = true → (o.sess.chan i).Over := fun h =>
    (hI.handling i h).step (hat i) (hP.worker_lt (Pc.handlesClose_role h))
  by_cases hv : .worker i = t
  · subst hv
    rw [update_self] at h
    have hr := relies_of_step he
    generalize hpc : m.pc (.worker i) = pc at hr
    cases hr with
    | no hn => exact absurd (Pc.handlesClose_relies h) (Bool.eq_false_iff.mp hn)
    | recvClosed => cases h
    | @taken j _ ev rest ht hev hc hp =>
      cases ht
      rw [hp] at h
      cases ev with
      | close =>
        obtain ⟨hs, rfl⟩ := (hI.sound i).close_taken hev
        rw [hc]
        exact ⟨hs, rfl⟩
      | _ => cases h
    | close | closed => exact hkept (by rw [hpc]; rfl)
  · rw [update_of_ne hv] at h
    exact hkept h

/-- **Every tidy step keeps the invariant.** -/
theorem Settled.step (hI : Settled tr m) (hf : cfg.limits.Fit) (hA : Accounts cfg m)
    (hO : Outbox tr m) (hP : Pairing tr m) (hK : Known m)
    (hdown : ∀ t, (m.pc t).down = true → m.sess.closing = true) (ht : m.tidy ⟨t, c⟩ = true)
    (hx : m.sess.exec cfg t c (m.pc t) = some o)
    (hE : Ending ⟨o.sess, update m.pc t o.pc⟩) :
    Settled (tr ++ o.events) ⟨o.sess, update m.pc t o.pc⟩ := by
  have he := effect_of_exec hx
  have hat : ∀ j, HoldAt cfg m.sess t (m.pc t) o j := hold_at hf hA.within he
  have hu := tidy_undoes ht
  have hdrained : ∀ i, i < m.sess.nextLocalChannelID ∧ (m.sess.chan i).Drained →
      i < o.sess.nextLocalChannelID ∧ (o.sess.chan i).Drained := fun i h =>
    ⟨h.1.trans_le (next_le he), h.2.step (hat i) (hu i) h.1⟩
  refine ⟨fun j => ?_, hI.handling_step hP he hat, hE.cancelNow, fun v i hc => ?_,
    fun v i hc => ?_, fun hup i hev => ?_, fun hup i hpc => ?_⟩
  · exact (hI.sound j).step (hat j) (hu j) (hI.cancelled ht) fun hj u => hA.fresh u j hj
  · obtain ⟨hs, hf⟩ := hE.cancels v i hc
    exact ⟨hs, hf, congrArg ChannelState.spent hs⟩
  · refine forall_update (P := fun _ pc => pc.closes = some i →
      i < o.sess.nextLocalChannelID ∧ (o.sess.chan i).Drained) (fun hc => ?_)
      (fun u _ hc => hdrained i (hI.closes u i hc)) v hc
    rcases closes_of_step he hc with hc | hpc
    · exact hdrained i (hI.closes t i hc)
    · have hlt := hK.locals t i (by rw [hpc]; exact List.mem_singleton.mpr rfl)
      exact ⟨hlt.trans_le (next_le he), hI.close ht hpc he⟩
  · have hup' := up_of_step he hup
    rcases List.mem_append.mp hev with hev | hev
    · exact hdrained i (hI.eof hup' i hev)
    · exact hdrained i ⟨hK.locals t i (recvEOF_of_step he hev).1, hI.recvEOF hup' he hev⟩
  · have hup' := up_of_step he hup
    have hctx : i < m.sess.nextLocalChannelID ∧ (m.sess.chan i).ctxErr ≠ none := by
      by_cases hv : .worker i = t
      · subst hv
        have hgone : o.pc = .exited := (update_self ..).symm.trans hpc
        obtain ⟨hctx, hw | hw⟩ := exits_canceled hx hup' (hO.fits _) (hdown _) hgone
        · obtain ⟨p, hp⟩ := hP.started i hw
          exact ⟨hP.lt i p hp, hctx⟩
        · exact ⟨hP.worker_lt (by rw [hw]; rfl), hctx⟩
      · exact hI.exited hup' i ((update_of_ne hv ..).symm.trans hpc)
    exact ⟨hctx.1.trans_le (next_le he), (hat i).ctx_kept hctx.2 hctx.1⟩

end Settled

theorem settled_run {cfg : Prepared} {tr : List Event} {m : Machine}
    (h : (Machine.lts cfg.config).Run (fun m a => m.tidy a = true) tr m) : Settled tr m := by
  refine h.invariant (I := Settled) settled_start fun {tr evs m m' a} hr hI hC hs => ?_
  have hE := ending_run (hr.step hC hs)
  obtain ⟨o, hx, rfl, rfl⟩ := Machine.exec_of_step hs
  exact hI.step cfg.fit (accounts_run hr) (outbox_run hr) (pairing_run hr) (known_run hr)
    (down_run hr) hC hx hE

/-! ## 4. Finished channels -/

/-- **A finished channel**: it has left the session's table, the application has closed it or has
    been told of its end, and its worker has exited or has nothing left to do. -/
structure Finished (tr : List Event) (m : Machine) (i : Nat) : Prop where
  removed : i ∉ m.sess.channels
  owner : (∃ t, (m.pc t).closes = some i) ∨ .recvEOF i ∈ tr
  worker : m.pc (.worker i) = .exited ∨
    (m.sess.chan i).events = [] ∧ (m.pc (.worker i)).releases = none

section Finished

variable {tr : List Event} {m : Machine} {i : Nat}

/-- A channel with nothing unread, nothing queued and nothing in its worker's hand holds nothing. -/
theorem Machine.Holding.held_zero (h : m.Holding i) (hf : (m.sess.chan i).frames = [])
    (he : (m.sess.chan i).events = []) (hr : (m.pc (.worker i)).releases = none) (u : Measure) :
    m.sess.budget.held u i = 0 := by
  have hstock : m.stock u i = 0 := by
    unfold Machine.stock Channel.load Pc.due
    rw [hf, he, hr]
    rfl
  exact Nat.eq_zero_of_le_zero (hstock ▸ h.upper u)

theorem Settled.finished (hI : Settled tr m) (hH : ∀ i, m.Holding i) (hu : m.sess.Up)
    (h : Finished tr m i) (u : Measure) : m.sess.budget.held u i = 0 := by
  have hD : (m.sess.chan i).Drained := by
    rcases h.owner with ⟨t, ht⟩ | hev
    · exact (hI.closes t i ht).2
    · exact (hI.eof hu i hev).2
  rcases h.worker with hx | ⟨he, hr⟩
  · rcases ((hI.sound i).ctx (hI.exited hu i hx).2).2.2 with h0 | hO
    · exact h0 u
    · exact (hH i).held_zero hD.1 hO.2 (by rw [hx]; rfl) u
  · exact (hH i).held_zero hD.1 he hr u

end Finished

/-- **A finished channel gives its budget back**, in every run of tidy steps in which the session
    stays up: its counters are zero, and when all channels made so far are finished no part of the
    session's budget is a channel's. -/
theorem finished_releases {cfg : Prepared} {tr : List Event} {m : Machine}
    (h : (Machine.lts cfg.config).Run (fun m a => m.tidy a = true) tr m) (hu : m.sess.Up) :
    (∀ i, Finished tr m i → ∀ u, m.sess.budget.held u i = 0) ∧
    ((∀ i < m.sess.nextLocalChannelID, Finished tr m i) → ∀ u, m.sess.channelTotal u = 0) := by
  have hfin : ∀ i, Finished tr m i → ∀ u, m.sess.budget.held u i = 0 := fun i hi =>
    (settled_run h).finished (holding_run h) hu hi
  exact ⟨hfin, fun hall u => tally_eq_zero fun i hi => hfin i (hall i hi) u⟩

/-- A session is activated, and the peer opens a channel. -/
def incomingChannel : List Act :=
  Tid.env.does [.activate] ++ Tid.receiver.does [.go] ++ Tid.dispatcher.does [.go] ++
  Tid.writer.does [.go] ++
  Tid.receiver.does [.frame (.channelOpen ⟨"t", 0, 4, 4, []⟩), .go, .go, .go, .go] ++
  Tid.dispatcher.does [.go, .go, .go, .answer ⟨true, [], "", ""⟩, .go, .go, .go, .go, .go] ++
  Tid.writer.does [.go, .outbound, .go, .go, .ok, .go, .go] ++ Tid.dispatcher.does [.result] ++
  (Tid.worker 0).does [.go]

/-- The peer sends a byte. -/
def peerData : List Act := Tid.receiver.does [.frame (.channelData 0 [7]), .go]

/-- The peer closes the channel, and the close is acknowledged. -/
def peerClose : List Act := Tid.receiver.does [.frame (.channelClose 0), .go, .go, .go, .go]

theorem Pc.eq_exited {pc : Pc} (h : pc.gone = true) : pc = .exited := by
  cases pc <;> first | rfl | cases h

/-- A channel is used, closed and finished, and its byte has been charged for and given back. -/
theorem finished_releases_closed : ∃ tr m,
    (Machine.lts narrow.config).Run (fun m a => m.tidy a = true) tr m ∧ m.sess.Up ∧
    .accepted 0 [7] ∈ tr ∧ Finished tr m 0 ∧ ∀ u, m.sess.budget.held u 0 = 0 := by
  obtain ⟨tr, m, h, hu, hacc, hn, hc, hw⟩ := Lts.exists_run_of_replay (L := Machine.lts narrow.config)
    (C := fun m a => m.tidy a = true)
    (P := fun tr m => m.sess.Up ∧ .accepted 0 [7] ∈ tr ∧ 0 ∉ m.sess.channels ∧
      (m.pc (.call 0)).closes = some 0 ∧ (m.pc (.worker 0)).gone = true)
    (incomingChannel ++ peerData ++
      (Tid.call 0).does [.api (.close 0), .go, .go, .go, .go] ++
      Tid.receiver.does [.frame (.channelClose 0), .go, .go] ++ (Tid.worker 0).does [.chanDone])
    (by decide +kernel)
  have hfin : Finished tr m 0 := ⟨hn, .inl ⟨_, hc⟩, .inl (Pc.eq_exited hw)⟩
  exact ⟨tr, m, h, hu, hacc, hfin, (finished_releases h hu).1 0 hfin⟩

/-- A configuration with room for two frames in the whole session. -/
def cramped : Prepared where
  config := ⟨4, 4, 4, 1, 1, ⟨8, 8, 8, 8, 8, 2, 2, 1024, 4096, 64, 64, 64, 64⟩⟩
  inRange := by decide
  defaulted := by decide
  accepted := rfl

/-- **Three ways to leave something behind.** `Close` after the peer's close does not look at what
    is unread; `Recv` cancels under the worker, which then leaves with a request and the close
    queued; and a `CloseWrite` that found no room for its frame takes back an EOF that `Recv` has
    already reported. -/
theorem finished_channel_leaks :
    (∃ tr m, (Machine.lts narrow.config).Run (fun _ _ => True) tr m ∧ m.sess.Up ∧
      Finished tr m 0 ∧ m.sess.budget.held .frames 0 = 1 ∧ m.sess.budget.held .bytes 0 = 1) ∧
    (∃ tr m, (Machine.lts narrow.config).Run (fun _ _ => True) tr m ∧ m.sess.Up ∧
      Finished tr m 0 ∧ m.sess.budget.held .frames 0 = 2) ∧
    ∃ tr m, (Machine.lts cramped.config).Run (fun _ _ => True) tr m ∧ m.sess.Up ∧
      Finished tr m 0 ∧ m.sess.budget.held .frames 0 = 1 := by
  refine ⟨?_, ?_, ?_⟩
  · obtain ⟨tr, m, h, hu, hn, hc, he, hr, hb⟩ := Lts.exists_run_of_replay
      (L := Machine.lts narrow.config) (C := fun _ _ => True)
      (P := fun _ m => m.sess.Up ∧ 0 ∉ m.sess.channels ∧
        (m.pc (.call 0)).closes = some 0 ∧ (m.sess.chan 0).events = [] ∧
        (m.pc (.worker 0)).releases = none ∧ m.sess.budget.held .frames 0 = 1 ∧
        m.sess.budget.held .bytes 0 = 1)
      (incomingChannel ++ peerData ++ peerClose ++ (Tid.worker 0).does [.go, .go, .go, .go] ++
        (Tid.call 0).does [.api (.close 0), .go]) (by decide +kernel)
    exact ⟨tr, m, h, hu, ⟨hn, .inl ⟨_, hc⟩, .inr ⟨he, hr⟩⟩, hb⟩
  · obtain ⟨tr, m, h, hu, hn, hev, hw, hb⟩ := Lts.exists_run_of_replay
      (L := Machine.lts narrow.config) (C := fun _ _ => True)
      (P := fun tr m => m.sess.Up ∧ 0 ∉ m.sess.channels ∧ .recvEOF 0 ∈ tr ∧
        (m.pc (.worker 0)).gone = true ∧ m.sess.budget.held .frames 0 = 2)
      (incomingChannel ++
        Tid.receiver.does [.frame (.channelRequest ⟨0, 1, "r", false, []⟩), .go] ++ peerClose ++
        (Tid.call 0).does [.api (.recv 0), .go, .go] ++ (Tid.worker 0).does [.chanDone])
      (by decide +kernel)
    exact ⟨tr, m, h, hu, ⟨hn, .inr hev, .inl (Pc.eq_exited hw)⟩, hb⟩
  · obtain ⟨tr, m, h, hu, hn, hev, he, hr, hb⟩ := Lts.exists_run_of_replay
      (L := Machine.lts cramped.config) (C := fun _ _ => True)
      (P := fun tr m => m.sess.Up ∧ 0 ∉ m.sess.channels ∧ .recvEOF 0 ∈ tr ∧
        (m.sess.chan 0).events = [] ∧ (m.pc (.worker 0)).releases = none ∧
        m.sess.budget.held .frames 0 = 1)
      (incomingChannel ++
        -- a global request takes the first of two places, the peer's EOF the second
        (Tid.call 0).does [.api (.sendGlobalRequest "t" [] false), .go, .go, .go, .go] ++
        (Tid.call 1).does [.api (.closeWrite 0), .go, .go] ++
        Tid.receiver.does [.frame (.channelEof 0), .go] ++
        -- no room for the EOF frame; `Recv` reports the peer's EOF before it is taken back
        (Tid.call 1).does [.go] ++ (Tid.call 2).does [.api (.recv 0), .go] ++
        (Tid.worker 0).does [.go, .go] ++ (Tid.call 1).does [.go] ++ peerData ++
        Tid.writer.does [.go, .outbound, .go, .go, .ok, .go, .go] ++
        Tid.receiver.does [.frame (.channelClose 0), .go] ++ (Tid.worker 0).does [.go, .go] ++
        Tid.receiver.does [.go, .go, .go] ++ (Tid.worker 0).does [.go, .go]) (by decide +kernel)
    exact ⟨tr, m, h, hu, ⟨hn, .inr hev, .inr ⟨he, hr⟩⟩, hb⟩

end Mygosh.Mux

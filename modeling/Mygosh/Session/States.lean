/-
  File:      Mygosh/Session/States.lean
  Subject:   The states a channel goes through.

  * `terminal_states_absorb` -- a channel that is closing, closed or failed stays so, one that is
    closed stays closed, and none goes back to opening.
  * `ChannelState.after` -- what the peer's frames do to the state, and `closeWrite_rollback_iff`:
    when a `CloseWrite` that fails puts back what it found, and when it forgets the peer's EOF.
-/
import Mygosh.Session.Flow
import Mygosh.Session.Leak

namespace Mygosh.Mux

open Session

/-! ## 1. Terminal states -/

section Forward

variable {cfg : Config} {s : Session} {t : Tid} {pc : Pc} {o : Out} {i : Nat} {evs : List Event}

/-- The state has gone on from `st` to `st'`. -/
structure ChannelState.Forward (st st' : ChannelState) : Prop where
  dead : st.dead = true → st'.dead = true
  closed : st = .channelClosed → st' = .channelClosed
  opened : st ≠ .channelOpening → st' ≠ .channelOpening

theorem ChannelState.Forward.refl (st : ChannelState) : st.Forward st := ⟨id, id, id⟩

theorem ChannelState.Forward.trans {st₁ st₂ st₃ : ChannelState} (h : st₁.Forward st₂)
    (h' : st₂.Forward st₃) : st₁.Forward st₃ :=
  ⟨fun hd => h'.dead (h.dead hd), fun hc => h'.closed (h.closed hc), fun ho => h'.opened (h.opened ho)⟩

/-- A state that is not dead may become any but opening. -/
theorem ChannelState.Forward.of_alive {st st' : ChannelState} (h : st.dead = false)
    (h' : st' ≠ .channelOpening) : st.Forward st' where
  dead hd := by rw [h] at hd; cases hd
  closed hc := by rw [hc] at h; cases h
  opened _ := h'

theorem EofTo.forward {st st' : ChannelState} (h : EofTo st st') : st.Forward st' := by
  cases h <;> exact .of_alive rfl nofun

theorem CloseWriteTo.forward {st st' : ChannelState} (h : CloseWriteTo st st') : st.Forward st' := by
  cases h <;> exact .of_alive rfl nofun

theorem ChannelState.forward_shut (st : ChannelState) : st.Forward st.shut := by
  cases st <;> exact ⟨fun _ => rfl, by decide, by decide⟩

theorem ChannelState.dead_still {st : ChannelState} (h : st.dead = true) :
    st.canSendData = false ∧ st.canReceiveData = false ∧ st.allowsRequests = false := by
  cases st <;> first | exact ⟨rfl, rfl, rfl⟩ | cases h

/-- One section takes the state of a channel forward, if a `CloseWrite` that goes back does not go
    back to opening. -/
theorem Turn.forward {c c' : Core} (h : Turn cfg t i c pc evs c')
    (hu : ∀ st w e, pc = .closeWriteUndo i st w e → st ≠ .channelOpening) :
    c.state.Forward c'.state := by
  cases h with
  | shut => exact ChannelState.forward_shut c.state
  | opened hs | rejected hs | abandoned hs | closeOpening hs | accept hs =>
    exact .of_alive (by rw [hs]; rfl) nofun
  | openFails | data | take => exact .refl _
  | eof hs => exact hs.forward
  | closeWrite hs => exact hs.forward
  | undo hs =>
    refine .of_alive ?_ (hu _ _ _ rfl)
    rcases hs with hs | hs <;> rw [hs] <;> rfl
  | closeAcked hs | timeout _ hs => rw [hs]; exact ⟨fun _ => rfl, nofun, nofun⟩
  | remoteClose hs | closing hs => exact .of_alive (allows_alive hs) nofun

/-- One step takes the state of a channel that has been made forward. -/
theorem Flows.forward {m : Machine} (hF : Flows cfg m) (he : Effect cfg m.sess t (m.pc t) o)
    (hi : i < m.sess.nextLocalChannelID) :
    (m.sess.chan i).state.Forward (o.sess.chan i).state := by
  have hstate : ∀ s : Session, (s.chan i).state = (cores s i).state := fun _ => rfl
  rw [hstate, hstate]
  generalize hpc : m.pc t = pc at he
  cases core_at he i with
  | same h => rw [h]; exact .refl _
  | incoming hj | pending hj => exact absurd hi (hj ▸ Nat.lt_irrefl _)
  | turn h _ ht =>
    rw [h]
    refine ht.forward fun st w e hp => ?_
    -- the state it goes back to is one a `CloseWrite` has found
    obtain ⟨-, -, st', hst⟩ := hF.sends t w (.channelEof i st) (by rw [hpc, hp]; rfl)
    cases hst <;> nofun

theorem state_forward {tr : List Event} {m m' : Machine} {a : Act} {C : Machine → Act → Prop}
    (hr : (Machine.lts cfg).Run C tr m) (hs : (Machine.lts cfg).step m a = some (m', evs))
    (hi : i < m.sess.nextLocalChannelID) :
    (m.sess.chan i).state.Forward (m'.sess.chan i).state ∧ i < m'.sess.nextLocalChannelID := by
  obtain ⟨o, he, hsess, hpc, rfl⟩ := Machine.effect_of_step hs
  rw [hsess]
  exact ⟨(flow_run hr).forward he hi, hi.trans_le (next_le he)⟩

end Forward

/-- **Terminal states absorb.** A channel that has been made: once closing, closed or failed it
    sends, receives and answers nothing any more, a closed one does not fail, and what has left
    opening is never opening again. -/
theorem terminal_states_absorb {cfg : Config} {C : Machine → Act → Prop} {tr later : List Event}
    {m m' : Machine} {i : Nat} (h : (Machine.lts cfg).Run C tr m) (hi : i < m.sess.nextLocalChannelID)
    (hp : (Machine.lts cfg).Path C m later m') :
    ((m.sess.chan i).state.dead = true →
      (m'.sess.chan i).state.dead = true ∧ (m'.sess.chan i).state.canSendData = false ∧
        (m'.sess.chan i).state.canReceiveData = false ∧
        (m'.sess.chan i).state.allowsRequests = false) ∧
    ((m.sess.chan i).state = .channelClosed → (m'.sess.chan i).state = .channelClosed) ∧
    ((m.sess.chan i).state ≠ .channelOpening → (m'.sess.chan i).state ≠ .channelOpening) := by
  have hf : (m.sess.chan i).state.Forward (m'.sess.chan i).state ∧ i < m'.sess.nextLocalChannelID := by
    refine h.keeps (P := fun m' => (m.sess.chan i).state.Forward (m'.sess.chan i).state ∧
      i < m'.sess.nextLocalChannelID) ⟨.refl _, hi⟩ ?_ hp
    intro tr evs m₁ m₂ a hr hk _ hs
    obtain ⟨hf, hi'⟩ := state_forward hr hs hk.2
    exact ⟨hk.1.trans hf, hi'⟩
  exact ⟨fun hd => ⟨hf.1.dead hd, ChannelState.dead_still (hf.1.dead hd)⟩, hf.1.closed, hf.1.opened⟩

/-- A channel of the peer's is closed here and by the peer. -/
theorem terminal_states_absorb_closed : ∃ tr m,
    (Machine.lts narrow.config).Run (fun _ _ => True) tr m ∧
    (m.sess.chan 0).state = .channelClosed ∧
    ∀ later m', (Machine.lts narrow.config).Path (fun _ _ => True) m later m' →
      (m'.sess.chan 0).state = .channelClosed := by
  obtain ⟨tr, m, h, hi, hs⟩ := Lts.exists_run_of_replay (L := Machine.lts narrow.config)
    (C := fun _ _ => True)
    (P := fun _ m => 0 < m.sess.nextLocalChannelID ∧ (m.sess.chan 0).state = .channelClosed)
    (incomingChannel ++ (Tid.call 0).does [.api (.close 0), .go, .go, .go, .go] ++
      Tid.receiver.does [.frame (.channelClose 0), .go, .go]) (by decide +kernel)
  exact ⟨tr, m, h, hs, fun later m' hpath => (terminal_states_absorb h hi hpath).2.1 hs⟩

/-! ## 2. A CloseWrite that fails -/

/-- What the peer sends on a channel. -/
inductive Remote where
  | data (data : Bytes)
  | eof
  | close
  deriving DecidableEq, Repr

/-- The receiver's section for a frame of the peer's. -/
def Session.deliver (cfg : Config) (s : Session) (t : Tid) (i : Nat) : Remote → Session
  | .data data => (s.inData cfg i data).sess
  | .eof => (s.inEof cfg i).sess
  | .close => (s.inClose cfg t i).sess

/-- The peer's frames are delivered to channel `i` one after the other; in between everything but
    the state of the channel may change. -/
inductive Delivered (cfg : Config) (t : Tid) (i : Nat) : Session → List Remote → Session → Prop where
  | nil {s s' : Session} (h : (s'.chan i).state = (s.chan i).state) : Delivered cfg t i s [] s'
  | cons {s s₁ s' : Session} {op : Remote} {ops : List Remote}
      (h : (s₁.chan i).state = ((s.deliver cfg t i op).chan i).state)
      (hd : Delivered cfg t i s₁ ops s') : Delivered cfg t i s (op :: ops) s'

/-- What a frame of the peer's does to the state. -/
def ChannelState.after : ChannelState → Remote → ChannelState
  | st, .data _ => st
  | .channelOpen, .eof => .channelRemoteEOF
  | .channelLocalEOF, .eof => .channelBothEOF
  | st, .eof => st
  | st, .close => if st.allowsRequests ∨ st = .channelClosing then .channelClosed else st

/-- What a channel knows of the peer: its EOF, whether data may come, its close. -/
def ChannelState.knows (st : ChannelState) : Bool × Bool × Bool :=
  (st = .channelRemoteEOF || st = .channelBothEOF, st.canReceiveData, st = .channelClosed)

section Rollback

variable {cfg : Config} {s s' : Session} {t : Tid} {i : Nat} {ops : List Remote} {op : Remote}

theorem update_state (f : Nat → Channel) (c : Channel) : (Function.update f i c i).state = c.state := by
  rw [Function.update_self]

theorem putEvent_state {c : Channel} {ev : ChannelEvent} {s₁ : Session}
    (h : s.putEvent cfg i c ev = some s₁) : (s₁.chan i).state = c.state := by
  rcases putEvent_cases cfg s i c ev with hn | ⟨b, -, hp⟩
  · rw [h] at hn; cases hn
  · rw [h] at hp
    cases hp
    exact update_state ..

theorem inData_state {data : Bytes} : ((s.inData cfg i data).sess.chan i).state = (s.chan i).state := by
  unfold Session.inData
  extract_lets c size
  split_ifs
  · rfl
  · rfl
  · rfl
  · split
    · rfl
    · exact update_state ..

theorem inEof_state : ((s.inEof cfg i).sess.chan i).state = (s.chan i).state.after .eof := by
  cases hst : (s.chan i).state with
  | channelOpen | channelLocalEOF =>
    simp only [Session.inEof, hst]
    split
    · exact putEvent_state ‹_›
    · exact update_state ..
  | _ => simp only [Session.inEof, hst]; exact hst

theorem inClose_state : ((s.inClose cfg t i).sess.chan i).state = (s.chan i).state.after .close := by
  cases hst : (s.chan i).state with
  | channelOpen | channelLocalEOF | channelRemoteEOF | channelBothEOF =>
    simp only [Session.inClose, hst]
    split
    · exact putEvent_state ‹_›
    · exact update_state ..
  | channelClosing => simp only [Session.inClose, hst]; exact update_state ..
  | _ => simp only [Session.inClose, hst]; exact hst

theorem deliver_state : ((s.deliver cfg t i op).chan i).state = (s.chan i).state.after op := by
  cases op with
  | data => exact inData_state
  | eof => exact inEof_state
  | close => exact inClose_state

theorem Delivered.state (h : Delivered cfg t i s ops s') :
    (s'.chan i).state = ops.foldl ChannelState.after (s.chan i).state := by
  induction h with
  | nil h => exact h
  | cons h _ ih => rw [ih, h, deliver_state]; rfl

theorem foldl_after_closed : ops.foldl ChannelState.after .channelClosed = .channelClosed := by
  induction ops with
  | nil => rfl
  | cons op ops ih => cases op <;> exact ih

/-- The state of an open channel after some frames: closed after a close, else with the EOF noted. -/
theorem foldl_after {st : ChannelState} (h : st.allowsRequests = true) :
    ops.foldl ChannelState.after st =
      if .close ∈ ops then .channelClosed else if .eof ∈ ops then st.after .eof else st := by
  induction ops generalizing st with
  | nil => rfl
  | cons op ops ih =>
    cases op with
    | data data =>
      have hdata : st.after (.data data) = st := by cases st <;> rfl
      rw [List.foldl_cons, hdata, ih h]
      simp
    | eof =>
      have heof : (st.after .eof).allowsRequests = true := by cases st <;> first | rfl | cases h
      have htwice : (st.after .eof).after .eof = st.after .eof := by cases st <;> rfl
      rw [List.foldl_cons, ih heof, htwice, ite_self]
      simp
    | close =>
      have hclose : st.after .close = .channelClosed := if_pos (.inl h)
      rw [List.foldl_cons, hclose, foldl_after_closed, if_pos List.mem_cons_self]

theorem closeWriteUndo_state {previous : ChannelState} {w : Nat} {e : Err} :
    ((s.closeWriteUndo i previous w e).sess.chan i).state =
      if (s.chan i).state = .channelLocalEOF ∨ (s.chan i).state = .channelBothEOF then previous
      else (s.chan i).state := by
  unfold Session.closeWriteUndo
  extract_lets c
  split_ifs
  · exact update_state ..
  · rfl

theorem closeWrite_state {u : Tid} {st : ChannelState} (he : s.channelErrorLocked i = none)
    (h : CloseWriteTo (s.chan i).state st) : ((s.closeWrite u i).sess.chan i).state = st := by
  generalize hst : (s.chan i).state = previous at h
  cases h <;> simp only [Session.closeWrite, he, hst] <;> exact update_state ..

theorem closeWrite_refused {u : Tid} {e : Err}
    (h : (s.closeWrite u i).pc = .done (.closeWrite i (some e))) : (s.closeWrite u i).sess = s := by
  cases he : s.channelErrorLocked i with
  | some e' => simp only [Session.closeWrite, he]
  | none =>
    cases hst : (s.chan i).state with
    | channelOpen | channelRemoteEOF => simp only [Session.closeWrite, he, hst] at h; cases h
    | _ => simp only [Session.closeWrite, he, hst]

/-- **When a failed CloseWrite leaves the receive direction alone.** Frames of the peer's come in
    between its state change and its rollback; compared with the same frames without the call the
    channel knows the same of the peer unless the channel was open, the peer's EOF was among them
    and its close was not. A `CloseWrite` that is refused at once changes nothing. -/
theorem closeWrite_rollback_iff {st : ChannelState} {s₂ : Session} {u : Tid} {w : Nat} {e : Err} :
    ((s.closeWrite u i).pc = .done (.closeWrite i (some e)) → (s.closeWrite u i).sess = s) ∧
    (s.channelErrorLocked i = none → CloseWriteTo (s.chan i).state st →
      Delivered cfg t i (s.closeWrite u i).sess ops s₂ → Delivered cfg t i s ops s' →
        (((s₂.closeWriteUndo i (s.chan i).state w e).sess.chan i).state.knows =
            (s'.chan i).state.knows ↔
          (s.chan i).state = .channelRemoteEOF ∨ .eof ∉ ops ∨ .close ∈ ops)) := by
  refine ⟨closeWrite_refused, fun he hto hd hd' => ?_⟩
  rw [closeWriteUndo_state, hd.state, hd'.state, closeWrite_state he hto]
  generalize (s.chan i).state = previous at hto ⊢
  cases hto with
  | «open» =>
    rw [foldl_after rfl, foldl_after rfl]
    by_cases hc : .close ∈ ops <;> by_cases hf : .eof ∈ ops <;> simp only [hc, hf] <;> decide
  | remoteEOF =>
    rw [foldl_after rfl, foldl_after rfl]
    by_cases hc : .close ∈ ops <;> by_cases hf : .eof ∈ ops <;> simp only [hc, hf] <;> decide

end Rollback

/-- A session with one open channel. -/
def oneOpen : Session := Session.bind.setChan 0 { (default : Channel) with state := .channelOpen }

/-- The peer's EOF and its close come in between: the channel is closed with and without the call. -/
theorem closeWrite_rollback_iff_closed :
    (((((oneOpen.closeWrite (.call 0) 0).sess.deliver narrow.config .receiver 0 .eof).deliver
        narrow.config .receiver 0 .close).closeWriteUndo 0 .channelOpen 0 .resourceLimit).sess.chan
          0).state.knows =
      (((oneOpen.deliver narrow.config .receiver 0 .eof).deliver narrow.config .receiver 0 .close).chan
        0).state.knows := by
  have hd : ∀ s : Session, Delivered narrow.config .receiver 0 s [.eof, .close]
      ((s.deliver narrow.config .receiver 0 .eof).deliver narrow.config .receiver 0 .close) :=
    fun s => .cons rfl (.cons rfl (.nil rfl))
  have h := (@closeWrite_rollback_iff narrow.config oneOpen _ .receiver 0 [.eof, .close]
    .channelLocalEOF _ (.call 0) 0 .resourceLimit).2 rfl .open (hd _) (hd _)
  exact h.mpr (.inr (.inr (by decide)))

/-- What a `CloseWrite` has returned. -/
def Pc.closeWriteErr : Pc → Option Err
  | .done (.closeWrite _ e) => e
  | _ => none

/-- A global request takes one of two places in the queues, the peer's EOF the other while a
    `CloseWrite` is under way; it finds no room for its frame and goes back. -/
def lostEof : List Act :=
  incomingChannel ++ (Tid.call 0).does [.api (.sendGlobalRequest "t" [] false), .go, .go, .go, .go] ++
  (Tid.call 1).does [.api (.closeWrite 0), .go, .go] ++
  Tid.receiver.does [.frame (.channelEof 0), .go] ++ (Tid.call 1).does [.go, .go]

/-- **A failed CloseWrite forgets the peer's EOF.** The session is up and the call has returned an
    error: the channel is open, and data would be received. Without the call it knows of the EOF. -/
theorem failed_closeWrite_forgets_eof :
    (∃ tr m, (Machine.lts cramped.config).Run (fun _ _ => True) tr m ∧
      (Machine.lts cramped.config).replay (fun _ _ => True) [] Machine.start lostEof = some (tr, m) ∧
      m.sess.Up ∧ (m.pc (.call 1)).closeWriteErr = some .resourceLimit ∧
      (m.sess.chan 0).state.knows = (false, true, false)) ∧
    ∃ tr m, (Machine.lts cramped.config).Run (fun _ _ => True) tr m ∧
      (Machine.lts cramped.config).replay (fun _ _ => True) [] Machine.start
        (lostEof.filter (·.tid ≠ .call 1)) = some (tr, m) ∧
      m.sess.Up ∧ (m.sess.chan 0).state.knows = (true, false, false) := by
  constructor
  · obtain ⟨tr, m, hr, h, hp⟩ := Lts.exists_replay (L := Machine.lts cramped.config)
      (C := fun _ _ => True)
      (P := fun _ m => m.sess.Up ∧ (m.pc (.call 1)).closeWriteErr = some .resourceLimit ∧
        (m.sess.chan 0).state.knows = (false, true, false)) lostEof (by decide +kernel)
    exact ⟨tr, m, h, hr, hp⟩
  · obtain ⟨tr, m, hr, h, hp⟩ := Lts.exists_replay (L := Machine.lts cramped.config)
      (C := fun _ _ => True)
      (P := fun _ m => m.sess.Up ∧ (m.sess.chan 0).state.knows = (true, false, false))
      (lostEof.filter (·.tid ≠ .call 1)) (by decide +kernel)
    exact ⟨tr, m, h, hr, hp⟩

end Mygosh.Mux

/-
  File:      Mygosh/Session/Accounts.lean
  Subject:   The queue budget: what its operations do to the counters, and what a step does to it.

  * `Measure` -- the budget counts frames and bytes, by the same rules;
  * `Within` -- the counters are within the limits; the operations keep that and do not wrap;
  * `Item`, `Pc.item` -- what the session's queues hold, and what a goroutine has reserved room for
    or taken from a queue and not released yet;
  * `BudgetStep`, `budget_step` -- every step of a session, as far as the budget is concerned.
-/
import Mygosh.Session.Life

namespace Mygosh.Mux

open Function (update)
open Session

/-! ## 1. Two measures -/

inductive Measure where
  | frames
  | bytes
  deriving DecidableEq, Repr

/-- What one frame of `n` bytes counts. -/
def Measure.weigh : Measure → Nat → Nat
  | .frames, _ => 1
  | .bytes, n => n

namespace Budget

/-- The session's counter. -/
def queued (b : Budget) : Measure → Nat
  | .frames => b.queuedFrames
  | .bytes => b.queuedBytes

/-- The counter of channel `i`. -/
def held (b : Budget) : Measure → Nat → Nat
  | .frames => b.chanFrames
  | .bytes => b.chanBytes

end Budget

namespace Limits

def total (lim : Limits) : Measure → Nat
  | .frames => lim.maxQueuedFramesTotal
  | .bytes => lim.maxQueuedBytesTotal

def perChannel (lim : Limits) : Measure → Nat
  | .frames => lim.maxQueuedFramesPerChannel
  | .bytes => lim.maxQueuedBytesPerChannel

/-- The limits fit the Go types of the counters. -/
structure Fit (lim : Limits) : Prop where
  framesTotal : lim.maxQueuedFramesTotal ≤ maxUint32
  bytesTotal : lim.maxQueuedBytesTotal ≤ maxUint64
  framesPer : lim.maxQueuedFramesPerChannel ≤ maxUint32
  bytesPer : lim.maxQueuedBytesPerChannel ≤ maxUint64

end Limits

/-- The counters are within the limits. -/
structure Budget.Within (lim : Limits) (b : Budget) : Prop where
  total : ∀ u, b.queued u ≤ lim.total u
  perChannel : ∀ u i, b.held u i ≤ lim.perChannel u

/-! ## 2. The operations -/

section Operations

variable {lim : Limits} {b b' : Budget} {i j n : Nat}

/-- A reservation in the session's counters. -/
theorem reserveQueueBudget_eq (hf : lim.Fit) (hw : b.Within lim)
    (h : b.reserveQueueBudget lim 1 n = some b') :
    (∀ u, b'.queued u = b.queued u + u.weigh n) ∧ (∀ u, b'.queued u ≤ lim.total u) ∧
      b'.held = b.held := by
  have hframes := hw.total .frames
  have hbytes := hw.total .bytes
  have htotal := hf.framesTotal
  have hbtotal := hf.bytesTotal
  simp only [Budget.queued, Limits.total] at hframes hbytes
  unfold Budget.reserveQueueBudget at h
  rw [subU32_eq hframes, subU64_eq hbytes] at h
  split_ifs at h with h1 h2
  cases h
  rw [addU32_eq (by omega), addU64_eq (by omega)]
  refine ⟨fun u => ?_, fun u => ?_, rfl⟩
  · cases u <;> rfl
  · cases u <;> simp only [Budget.queued, Limits.total] <;> omega

theorem reserveQueueBudget_held (h : b.reserveQueueBudget lim 1 n = some b') (u : Measure) :
    b'.held u = b.held u := by
  unfold Budget.reserveQueueBudget at h
  split_ifs at h
  cases h
  cases u <;> rfl

/-- A release from the session's counters stops at zero. -/
theorem releaseQueueBudget_queued (u : Measure) (b : Budget) (frames bytes : Nat) :
    (b.releaseQueueBudget frames bytes).queued u = b.queued u - match u with
      | .frames => frames
      | .bytes => bytes := by
  unfold Budget.releaseQueueBudget
  cases u <;> simp only [Budget.queued] <;> split <;> omega

theorem releaseQueueBudget_held (u : Measure) (b : Budget) (frames bytes : Nat) :
    (b.releaseQueueBudget frames bytes).held u = b.held u := by
  unfold Budget.releaseQueueBudget
  cases u <;> rfl

theorem release_queued (u : Measure) (b : Budget) (n : Nat) :
    (b.releaseQueueBudget 1 n).queued u = b.queued u - u.weigh n := by
  rw [releaseQueueBudget_queued]
  cases u <;> rfl

/-- A reservation in a channel's counters, and in the session's with them. -/
theorem reserveQueuedLocked_eq (hf : lim.Fit) (hw : b.Within lim)
    (h : b.reserveQueuedLocked lim i 1 n = some b') :
    (∀ u, b'.queued u = b.queued u + u.weigh n) ∧ (∀ u, b'.queued u ≤ lim.total u) ∧
      (∀ u, b'.held u = update (b.held u) i (b.held u i + u.weigh n)) ∧
      ∀ u, b.held u i + u.weigh n ≤ lim.perChannel u := by
  have hframes := hw.perChannel .frames i
  have hbytes := hw.perChannel .bytes i
  have hper := hf.framesPer
  have hbper := hf.bytesPer
  simp only [Budget.held, Limits.perChannel] at hframes hbytes
  unfold Budget.reserveQueuedLocked at h
  rw [subU32_eq hframes, subU64_eq hbytes] at h
  split_ifs at h with h1 h2
  split at h
  · cases h
  · rename_i b₁ hb
    obtain ⟨hq, ht, -⟩ := reserveQueueBudget_eq hf hw hb
    cases h
    rw [addU32_eq (by omega), addU64_eq (by omega)]
    refine ⟨fun u => ?_, fun u => ?_, fun u => ?_, fun u => ?_⟩
    · rw [← hq u]
      cases u <;> rfl
    · refine Nat.le_trans (Nat.le_of_eq ?_) (ht u)
      cases u <;> rfl
    · cases u <;> rfl
    · cases u <;> simp only [Budget.held, Limits.perChannel, Measure.weigh] <;> omega

/-- A release from a channel's counters: both levels give up the same. -/
theorem releaseQueuedLocked_eq (u : Measure) (b : Budget) (i n : Nat) :
    (b.releaseQueuedLocked i 1 n).queued u = b.queued u - min (u.weigh n) (b.held u i) ∧
      (b.releaseQueuedLocked i 1 n).held u = update (b.held u) i (b.held u i - u.weigh n) := by
  unfold Budget.releaseQueuedLocked
  rw [releaseQueueBudget_queued, releaseQueueBudget_held]
  cases u <;> simp only [Budget.queued, Budget.held, Measure.weigh] <;>
    refine ⟨by split <;> omega, congrArg _ ?_⟩ <;> split <;> omega

/-- All a channel holds is given back. -/
theorem discardQueuedLocked_eq (u : Measure) (b : Budget) (i : Nat) :
    (b.discardQueuedLocked i).queued u = b.queued u - b.held u i ∧
      (b.discardQueuedLocked i).held u = update (b.held u) i 0 := by
  unfold Budget.discardQueuedLocked
  rw [releaseQueueBudget_queued, releaseQueueBudget_held]
  cases u <;> exact ⟨rfl, rfl⟩

end Operations

/-! ## 3. Items -/

/-- What the session's own queues hold. -/
inductive Item where
  | write (w : Nat)
  | task (d : DispatchTask)
  deriving DecidableEq, Repr

def Item.size (s : Session) : Item → Nat
  | .write w => (s.writes w).size
  | .task d => d.size

/-- The contents of `dispatchQueue`, `controlQueue` and `outboundQueue`. -/
def Session.items (s : Session) : List Item :=
  s.dispatchQueue.map .task ++ (s.controlQueue.map .write ++ s.outboundQueue.map .write)

/-- An item that a goroutine has reserved room for and not queued, or taken and not released. -/
def Pc.item : Pc → Option Item
  | .push w _ _ => some (.write w)
  | .inOpenQueue _ m => some (.task (.channelOpen m))
  | .inGlobalQueue m => some (.task (.globalRequest m))
  | .dispRelease d => some (.task d)
  | .popped w _ _ => some (.write w)
  | _ => none

theorem Resumes.item {pc : Pc} (h : Resumes pc) : pc.item = none := by cases h <;> rfl

/-- The ways a step can touch the budget. -/
inductive BudgetStep (cfg : Config) (s : Session) (pc : Pc) (o : Out) : Prop where
  | keep (hb : o.sess.budget = s.budget) (hq : o.sess.items = s.items) (hi : pc.item = none)
      (hi' : o.pc.item = none)
  | reserve {x} (hb : s.budget.reserveQueueBudget cfg.limits 1 (x.size s) = some o.sess.budget)
      (hx : x.size o.sess = x.size s) (hq : o.sess.items = s.items) (hi : pc.item = none)
      (hi' : o.pc.item = some x)
  | release {x} (hb : o.sess.budget = s.budget.releaseQueueBudget 1 (x.size s))
      (hq : o.sess.items = s.items) (hi : pc.item = some x) (hi' : o.pc.item = none)
  | put {x} (hb : o.sess.budget = s.budget) (hq : o.sess.items.Perm (x :: s.items))
      (hi : pc.item = some x) (hi' : o.pc.item = none)
  | take {x} (hb : o.sess.budget = s.budget) (hq : s.items.Perm (x :: o.sess.items))
      (hi : pc.item = none) (hi' : o.pc.item = some x)
  | charge {i n} (hs : (s.chan i).state.allowsRequests = true)
      (hb : s.budget.reserveQueuedLocked cfg.limits i 1 n = some o.sess.budget)
      (hq : o.sess.items = s.items) (hi : pc.item = none) (hi' : o.pc.item = none)
  | discharge {i n} (hb : o.sess.budget = s.budget.releaseQueuedLocked i 1 n)
      (hq : o.sess.items = s.items) (hi : pc.item = none) (hi' : o.pc.item = none)
  | discard {i} (hb : o.sess.budget = s.budget.discardQueuedLocked i)
      (hq : o.sess.items = s.items) (hi : pc.item = none) (hi' : o.pc.item = none)
  | refuse {i n b} (hr : s.budget.reserveQueuedLocked cfg.limits i 1 n = some b)
      (hb : o.sess.budget = b.releaseQueuedLocked i 1 n)
      (hq : o.sess.items = s.items) (hi : pc.item = none) (hi' : o.pc.item = none)

section Classify

variable {cfg : Config} {s : Session} {t : Tid} {pc pc' : Pc} {o : Out}

theorem starts_item (h : Starts cfg s t pc) : pc.item = none := by cases h <;> rfl

theorem moves_item (h : Moves cfg s t pc pc') : pc.item = none ∧ pc'.item = none := by
  cases h with
  | start h => exact ⟨rfl, starts_item h⟩
  | shutdownOver => exact ⟨rfl, (downPc_resumes _).item⟩
  | requestGone => exact ⟨rfl, (droppedPc_resumes ..).item⟩
  | _ => exact ⟨rfl, rfl⟩

theorem finds_item {env : Envelope} (h : Finds cfg s env pc) : pc.item = none := by
  cases h with
  | channel ha => cases ha <;> rfl
  | _ => rfl

theorem routeFails_item {e : Err} (h : RouteFails s pc e) : pc.item = none := by cases h <;> rfl

theorem send_budget (h : SendEffect cfg s pc o) : BudgetStep cfg s pc o := by
  cases h with
  | ensureFails | reserveFails | awaited | canceled =>
    exact .keep rfl rfl rfl (contPc_resumes ..).item
  | @reserved w m k b hb => exact .reserve (x := .write w) hb rfl rfl rfl rfl
  | pushClosed | pushFull => exact .release rfl rfl rfl (contPc_resumes ..).item
  | @pushSync w x k =>
    refine .put (x := .write w) rfl ?_ rfl rfl
    simp only [Session.items, Session.enqueued, List.map_append, List.map_cons, List.map_nil,
      ← List.append_assoc]
    exact List.perm_append_singleton _ _
  | @pushAsync w k =>
    refine .put (x := .write w) rfl ?_ rfl (contPc_resumes ..).item
    simp only [Session.items, Session.enqueued, List.map_append, List.map_cons, List.map_nil]
    rw [List.append_assoc, List.singleton_append, ← List.append_assoc, ← List.append_assoc]
    exact List.perm_middle

theorem writer_budget (h : WriterEffect s pc o) : BudgetStep cfg s pc o := by
  have control : ∀ {w rest}, s.controlQueue = w :: rest →
      s.items.Perm (.write w :: (s.popControl w rest).items) := fun {w rest} h => by
    simp only [Session.items, Session.popControl, h, List.map_cons, List.cons_append]
    exact List.perm_middle
  cases h with
  | takeControl h | takeControlLater h => exact .take rfl (control h) rfl rfl
  | @takeOutbound w rest c h =>
    refine .take (x := .write w) rfl ?_ rfl rfl
    simp only [Session.items, Session.popOutbound, h, List.map_cons, ← List.append_assoc]
    exact List.perm_middle
  | @popped w c o => exact .release (x := .write w) rfl rfl rfl rfl
  | _ => exact .keep rfl rfl rfl rfl

theorem dispatch_budget (h : DispatchEffect cfg s t pc o) : BudgetStep cfg s pc o := by
  cases h with
  | @taken task rest h =>
    refine .take (x := .task task) rfl ?_ rfl rfl
    simp only [Session.items, h, List.map_cons, List.cons_append]
    exact List.Perm.refl _
  | «open» | global => exact .release rfl rfl rfl rfl
  | abortShut | rejectShut => exact .discard rfl rfl rfl rfl
  | _ => exact .keep rfl rfl rfl rfl

/-- A task at the end of the dispatch queue. -/
theorem items_dispatch (s : Session) (task : DispatchTask) :
    ({ s with dispatchQueue := s.dispatchQueue ++ [task] } : Session).items.Perm
      (.task task :: s.items) := by
  simp only [Session.items, List.map_append, List.map_cons, List.map_nil, List.append_assoc,
    List.singleton_append]
  exact List.perm_middle

theorem inOpen_budget (h : InOpenEffect cfg s t pc o) : BudgetStep cfg s pc o := by
  cases h with
  | @reserved i m b hb => exact .reserve (x := .task (.channelOpen m)) hb rfl rfl rfl rfl
  | @queued i m => exact .put rfl (items_dispatch s (.channelOpen m)) rfl rfl
  | @full i m => exact .release (x := .task (.channelOpen m)) rfl rfl rfl rfl
  | shut | rejectShut => exact .discard rfl rfl rfl rfl
  | _ => exact .keep rfl rfl rfl rfl

/-- An event that found no room leaves the budget as it was, or reserved and gave back. -/
theorem eventRefused_budget {i : Nat} {c : Channel} {ev : ChannelEvent}
    (hb : o.sess.budget = (s.eventRefused cfg i c ev).budget) (hq : o.sess.items = s.items)
    (hi : pc.item = none) (hi' : o.pc.item = none) : BudgetStep cfg s pc o := by
  unfold Session.eventRefused at hb
  dsimp only at hb
  split at hb
  · exact .keep hb hq hi hi'
  · exact .refuse ‹_› hb hq hi hi'

theorem canReceiveData_allows {st : ChannelState} (h : st.canReceiveData = true) :
    st.allowsRequests = true := by
  cases st <;> first | rfl | cases h

theorem EofTo.allows {st st' : ChannelState} (h : EofTo st st') : st.allowsRequests = true := by
  cases h <;> rfl

theorem inFrame_budget (h : InEffect cfg s t pc o) : BudgetStep cfg s pc o := by
  cases h with
  | data hs _ _ hb => exact .charge (canReceiveData_allows hs) hb rfl rfl rfl
  | eof hs hb => exact .charge hs.allows hb rfl rfl rfl
  | close hs hb => exact .charge hs hb rfl rfl rfl
  | eofFull => exact eventRefused_budget rfl rfl rfl rfl
  | closeFull => exact eventRefused_budget rfl rfl rfl rfl
  | _ => exact .keep rfl rfl rfl rfl

theorem inRequest_budget (h : InRequestEffect cfg s t pc o) : BudgetStep cfg s pc o := by
  cases h with
  | request hs _ hb => exact .charge hs hb rfl rfl rfl
  | @requestRejected i m => exact eventRefused_budget (c := requestNoted s i m) rfl rfl rfl rfl
  | requestLimit => exact eventRefused_budget rfl rfl rfl rfl
  | @globalReserved m b hb => exact .reserve (x := .task (.globalRequest m)) hb rfl rfl rfl rfl
  | @globalQueued m => exact .put rfl (items_dispatch s (.globalRequest m)) rfl rfl
  | @globalFull m | @globalLimit m => exact .release (x := .task (.globalRequest m)) rfl rfl rfl rfl
  | _ => exact .keep rfl rfl rfl rfl

theorem close_budget (h : CloseEffect cfg s t pc o) : BudgetStep cfg s pc o := by
  cases h with
  | requestReleased => exact .keep rfl rfl rfl (droppedPc_resumes ..).item
  | close => exact .discard rfl rfl rfl rfl
  | closeShut => exact .discard rfl rfl rfl rfl
  | _ => exact .keep rfl rfl rfl rfl

/-- **Every step of a session, as far as the budget is concerned.** -/
theorem budget_step (h : Effect cfg s t pc o) : BudgetStep cfg s pc o := by
  cases h with
  | move h => exact .keep rfl rfl (moves_item h).1 (moves_item h).2
  | found _ _ h => exact .keep rfl rfl rfl (finds_item h)
  | refused => exact .keep rfl rfl rfl rfl
  | routeFails h => exact .keep rfl rfl (routeFails_item h) rfl
  | send h => exact send_budget h
  | down h =>
    cases h with
    | channel => exact .discard rfl rfl rfl rfl
    | queues => exact .keep rfl rfl rfl (downPc_resumes _).item
    | _ => exact .keep rfl rfl rfl rfl
  | writer h => exact writer_budget h
  | inOpen h => exact inOpen_budget h
  | inFrame h => exact inFrame_budget h
  | inRequest h => exact inRequest_budget h
  | dispatch h => exact dispatch_budget h
  | work h =>
    cases h with
    | request | eof | close => exact .discharge rfl rfl rfl rfl
    | _ => exact .keep rfl rfl rfl rfl
  | «open» h =>
    cases h with
    | shut => exact .discard rfl rfl rfl rfl
    | _ => exact .keep rfl rfl rfl rfl
  | data h =>
    cases h with
    | recv | recvAdjust => exact .discharge rfl rfl rfl rfl
    | _ => exact .keep rfl rfl rfl rfl
  | close h => exact close_budget h

end Classify

/-! ## 4. What a channel holds -/

/-- No frame and no event is taken in any more. -/
def ChannelState.dead : ChannelState → Bool
  | .channelClosing | .channelClosed | .channelFailed => true
  | _ => false

/-- The event a worker has taken and not released. -/
def Pc.releases : Pc → Option ChannelEvent
  | .workRelease ev => some ev
  | _ => none

theorem Resumes.releases {pc : Pc} (h : Resumes pc) : pc.releases = none := by cases h <;> rfl

/-- Frames, events and the errors of a channel stay. -/
structure Channel.Keeps (c c' : Channel) : Prop where
  frames : c'.frames = c.frames
  events : c'.events = c.events
  ctx : c'.ctxErr = c.ctxErr
  err : c'.sessionErr = c.sessionErr

/-- The ways the state of channel `i` can change while nothing it holds does. -/
inductive Shift (i : Nat) : Pc → ChannelState → ChannelState → Prop where
  | refl {pc st} : Shift i pc st st
  | opened {pc} : Shift i pc .channelOpening .channelOpen
  | failed {pc} : Shift i pc .channelOpening .channelFailed
  | eof {pc st st'} (h : EofTo st st') : Shift i pc st st'
  | closed {pc st} (h : st.allowsRequests = true) : Shift i pc st .channelClosed
  | acked {pc} : Shift i pc .channelClosing .channelClosed
  | halfClosed {pc st st'} (h : CloseWriteTo st st') : Shift i pc st st'
  | undone {st st' w e} (h : st = .channelLocalEOF ∨ st = .channelBothEOF) :
      Shift i (.closeWriteUndo i st' w e) st st'

/-- A frame or an event of `n` bytes is added to a channel. -/
inductive Channel.Adds (c c' : Channel) : Nat → Prop where
  | frame {data} (hs : c.state.canReceiveData = true)
      (hk : ({ c with frames := c.frames ++ [data] } : Channel).Keeps c') (hst : c'.state = c.state) :
      Adds c c' (toU32 data.length)
  | event {ev : ChannelEvent} (hk : ({ c with events := c.events ++ [ev] } : Channel).Keeps c')
      (hst : (c'.state = c.state ∨ EofTo c.state c'.state) ∧ ev ≠ .close ∨
        c'.state = .channelClosed) :
      Adds c c' ev.size

/-- The ways a step can touch what the channels hold. -/
inductive HoldStep (cfg : Config) (s : Session) (t : Tid) : Pc → Out → Prop where
  | same {pc o} (hb : ∀ u, o.sess.budget.held u = s.budget.held u) (hc : o.sess.chan = s.chan)
      (hr : pc.releases = none) (hr' : o.pc.releases = none) : HoldStep cfg s t pc o
  | touch {pc o i c} (hb : ∀ u, o.sess.budget.held u = s.budget.held u)
      (hc : o.sess.chan = update s.chan i c) (hk : (s.chan i).Keeps c)
      (hs : Shift i pc (s.chan i).state c.state)
      (hr : pc.releases = none) (hr' : o.pc.releases = none) : HoldStep cfg s t pc o
  | cancel {pc o i} (hb : ∀ u, o.sess.budget.held u = s.budget.held u)
      (hc : o.sess.chan = update s.chan i ((s.chan i).canceled s.ctxErr .channelClosed))
      (hp : t = .worker i ∧ pc = .workClosed true ∨ pc = .recvCancel i)
      (hr : pc.releases = none) (hr' : o.pc.releases = none) : HoldStep cfg s t pc o
  | new {pc o c} (hb : ∀ u, o.sess.budget.held u = s.budget.held u)
      (hc : o.sess.chan = update s.chan s.nextLocalChannelID c) (hf : c.frames = [])
      (he : c.events = []) (hs : c.state = .channelOpening) (hx : c.ctxErr = none)
      (hx' : c.sessionErr = none) (hr : pc.releases = none) (hr' : o.pc.releases = none) :
      HoldStep cfg s t pc o
  | add {pc o i c n} (hs : (s.chan i).state.allowsRequests = true)
      (hb : s.budget.reserveQueuedLocked cfg.limits i 1 n = some o.sess.budget)
      (hc : o.sess.chan = update s.chan i c) (ha : (s.chan i).Adds c n)
      (hr : pc.releases = none) (hr' : o.pc.releases = none) : HoldStep cfg s t pc o
  | refuse {pc o i c} {ev : ChannelEvent} (hc : o.sess.chan = update s.chan i c)
      (hk : (s.chan i).Keeps c) (hs : Shift i pc (s.chan i).state c.state)
      (hb : o.sess.budget = (s.eventRefused cfg i c ev).budget)
      (hr : pc.releases = none) (hr' : o.pc.releases = none) : HoldStep cfg s t pc o
  | take {i o ev rest} (ht : t = .worker i) (hb : o.sess.budget = s.budget)
      (he : (s.chan i).events = ev :: rest)
      (hc : o.sess.chan = update s.chan i { s.chan i with events := rest })
      (hp : o.pc = .workRelease ev) : HoldStep cfg s t .work o
  | release {i o ev} (ht : t = .worker i)
      (hb : o.sess.budget = s.budget.releaseQueuedLocked i 1 ev.size) (hc : o.sess.chan = s.chan)
      (hr' : o.pc.releases = none) : HoldStep cfg s t (.workRelease ev) o
  | recv {i o frame rest} (hf : (s.chan i).frames = frame :: rest)
      (hb : o.sess.budget = s.budget.releaseQueuedLocked i 1 frame.length)
      (hc : o.sess.chan = update s.chan i (takeFrame cfg (s.chan i) frame rest))
      (hr' : o.pc.releases = none) : HoldStep cfg s t (.recvLoop i) o
  | discard {pc o i c} (hb : o.sess.budget = s.budget.discardQueuedLocked i)
      (hc : o.sess.chan = update s.chan i c) (hf : c.frames = [])
      (he : c.events = (s.chan i).events) (hd : c.state.dead = true)
      (hs : (s.chan i).state = .channelClosed → c.state = .channelClosed)
      (hx : (s.chan i).ctxErr ≠ none → c.ctxErr ≠ none)
      (hr : pc.releases = none) (hr' : o.pc.releases = none) : HoldStep cfg s t pc o

theorem allows_alive {st : ChannelState} (h : st.allowsRequests = true) : st.dead = false := by
  cases st <;> first | rfl | cases h

theorem closeWriteTo_alive {st st' : ChannelState} (h : CloseWriteTo st st') : st.dead = false := by
  cases h <;> rfl

/-- A dead channel stays dead. -/
theorem Shift.dead {i : Nat} {pc : Pc} {st st' : ChannelState} (h : Shift i pc st st')
    (hd : st.dead = true) : st'.dead = true := by
  have alive : ∀ {st : ChannelState}, st.dead = false → st.dead = true → st'.dead = true :=
    fun h hd => absurd (h.symm.trans hd) Bool.noConfusion
  cases h with
  | refl => exact hd
  | opened => cases hd
  | failed | acked => rfl
  | eof h => exact alive (allows_alive h.allows) hd
  | closed h => exact alive (allows_alive h) hd
  | halfClosed h => exact alive (closeWriteTo_alive h) hd
  | undone h => rcases h with rfl | rfl <;> cases hd

section Classify

variable {cfg : Config} {s : Session} {t : Tid} {pc pc' : Pc} {o : Out}

theorem starts_releases (h : Starts cfg s t pc) : pc.releases = none := by cases h <;> rfl

theorem moves_releases (h : Moves cfg s t pc pc') : pc.releases = none ∧ pc'.releases = none := by
  cases h with
  | start h => exact ⟨rfl, starts_releases h⟩
  | shutdownOver => exact ⟨rfl, (downPc_resumes _).releases⟩
  | requestGone => exact ⟨rfl, (droppedPc_resumes ..).releases⟩
  | _ => exact ⟨rfl, rfl⟩

theorem finds_releases {env : Envelope} (h : Finds cfg s env pc) : pc.releases = none := by
  cases h with
  | channel ha => cases ha <;> rfl
  | _ => rfl

theorem routeFails_releases {e : Err} (h : RouteFails s pc e) : pc.releases = none := by
  cases h <;> rfl

theorem shut_dead (c : Channel) (e : Err) : (c.shut e).state.dead = true := by
  unfold Channel.shut
  dsimp only
  split <;> rfl

theorem shut_closed (c : Channel) (e : Err) (h : c.state = .channelClosed) :
    (c.shut e).state = .channelClosed := if_pos h

/-- A context that has ended stays ended. -/
theorem canceled_ctx (c : Channel) (x : Option Err) (e : Err) (h : c.ctxErr ≠ none) :
    (c.canceled x e).ctxErr ≠ none := by
  unfold Channel.canceled
  dsimp only
  split
  · exact h
  · nofun

/-- `Channel.shutdown`. -/
theorem HoldStep.shut {i : Nat} {e : Err} (hb : o.sess.budget = s.budget.discardQueuedLocked i)
    (hc : o.sess.chan = update s.chan i ((((s.chan i).pendingFailed e).shut e).canceled s.ctxErr e))
    (hr : pc.releases = none) (hr' : o.pc.releases = none) : HoldStep cfg s t pc o :=
  .discard hb hc rfl rfl (shut_dead _ e) (shut_closed _ e) (canceled_ctx _ _ e) hr hr'

/-- Only other fields of a channel change. -/
theorem HoldStep.other {i : Nat} {c : Channel} (hb : o.sess.budget = s.budget)
    (hc : o.sess.chan = update s.chan i c) (hk : (s.chan i).Keeps c)
    (hs : c.state = (s.chan i).state) (hr : pc.releases = none) (hr' : o.pc.releases = none) :
    HoldStep cfg s t pc o :=
  .touch (fun _ => by rw [hb]) hc hk (hs ▸ .refl) hr hr'

theorem send_hold (h : SendEffect cfg s pc o) : HoldStep cfg s t pc o := by
  cases h with
  | ensureFails | reserveFails | awaited | canceled =>
    exact .same (fun _ => rfl) rfl rfl (contPc_resumes ..).releases
  | reserved hb => exact .same (reserveQueueBudget_held hb) rfl rfl rfl
  | pushClosed | pushFull =>
    exact .same (fun u => releaseQueueBudget_held u ..) rfl rfl (contPc_resumes ..).releases
  | pushSync => exact .same (fun _ => rfl) rfl rfl rfl
  | pushAsync => exact .same (fun _ => rfl) rfl rfl (contPc_resumes ..).releases

theorem writer_hold (h : WriterEffect s pc o) : HoldStep cfg s t pc o := by
  cases h with
  | popped => exact .same (fun u => releaseQueueBudget_held u ..) rfl rfl rfl
  | skipRequest | finishRequest | startWorker =>
    exact .other rfl rfl ⟨rfl, rfl, rfl, rfl⟩ rfl rfl rfl
  | _ => exact .same (fun _ => rfl) rfl rfl rfl

theorem inOpen_hold (h : InOpenEffect cfg s t pc o) : HoldStep cfg s t pc o := by
  cases h with
  | made => exact .new (fun _ => rfl) rfl rfl rfl rfl rfl rfl rfl rfl
  | reserved hb => exact .same (reserveQueueBudget_held hb) rfl rfl rfl
  | full => exact .same (fun u => releaseQueueBudget_held u ..) rfl rfl rfl
  | limit | queued => exact .same (fun _ => rfl) rfl rfl rfl
  | shut => exact .shut rfl rfl rfl rfl
  | @rejectShut i e =>
    exact .discard rfl (putOpenResult_chan rfl) rfl rfl (shut_dead _ e) (shut_closed _ e)
      (canceled_ctx _ _ e) rfl rfl
  | opened hs => exact .touch (fun _ => rfl) rfl ⟨rfl, rfl, rfl, rfl⟩ (hs ▸ .opened) rfl rfl
  | rejected hs => exact .touch (fun _ => rfl) rfl ⟨rfl, rfl, rfl, rfl⟩ (hs ▸ .failed) rfl rfl
  | started => exact .other rfl (putOpenResult_chan rfl) ⟨rfl, rfl, rfl, rfl⟩ rfl rfl rfl
  | added | removed | resultFails | activated | rejectRemoved =>
    exact .other rfl rfl ⟨rfl, rfl, rfl, rfl⟩ rfl rfl rfl

theorem inFrame_hold (h : InEffect cfg s t pc o) : HoldStep cfg s t pc o := by
  cases h with
  | data hs _ _ hb =>
    exact .add (canReceiveData_allows hs) hb rfl (.frame hs ⟨rfl, rfl, rfl, rfl⟩ rfl) rfl rfl
  | adjust | closeRemoved => exact .other rfl rfl ⟨rfl, rfl, rfl, rfl⟩ rfl rfl rfl
  | eof hs hb =>
    exact .add hs.allows hb rfl (.event ⟨rfl, rfl, rfl, rfl⟩ (.inl ⟨.inr hs, nofun⟩)) rfl rfl
  | close hs hb => exact .add hs hb rfl (.event ⟨rfl, rfl, rfl, rfl⟩ (.inr rfl)) rfl rfl
  | eofFull hs => exact .refuse rfl ⟨rfl, rfl, rfl, rfl⟩ (.eof hs) rfl rfl rfl
  | closeFull hs => exact .refuse rfl ⟨rfl, rfl, rfl, rfl⟩ (.closed hs) rfl rfl rfl
  | closeAcked hs => exact .touch (fun _ => rfl) rfl ⟨rfl, rfl, rfl, rfl⟩ (hs ▸ .acked) rfl rfl

theorem requestNoted_keeps {i : Nat} {m : RequestMsg} :
    (s.chan i).Keeps (requestNoted s i m) ∧ (requestNoted s i m).state = (s.chan i).state := by
  unfold requestNoted
  split <;> exact ⟨⟨rfl, rfl, rfl, rfl⟩, rfl⟩

theorem inRequest_hold (h : InRequestEffect cfg s t pc o) : HoldStep cfg s t pc o := by
  cases h with
  | @request i m b hs _ hb =>
    obtain ⟨hk, hst⟩ := requestNoted_keeps (s := s) (i := i) (m := m)
    refine .add hs hb rfl (.event ⟨hk.frames, ?_, hk.ctx, hk.err⟩ (.inl ⟨.inl hst, nofun⟩)) rfl rfl
    show (requestNoted s i m).events ++ _ = _
    rw [hk.events]
  | @requestRejected i m | @requestLimit i m =>
    obtain ⟨hk, hst⟩ := requestNoted_keeps (s := s) (i := i) (m := m)
    exact .refuse rfl hk (hst ▸ .refl) rfl rfl rfl
  | requestFinish | result | resultPut => exact .other rfl rfl ⟨rfl, rfl, rfl, rfl⟩ rfl rfl rfl
  | globalReserved hb => exact .same (reserveQueueBudget_held hb) rfl rfl rfl
  | globalFull | globalLimit => exact .same (fun u => releaseQueueBudget_held u ..) rfl rfl rfl
  | _ => exact .same (fun _ => rfl) rfl rfl rfl

theorem dispatch_hold (h : DispatchEffect cfg s t pc o) : HoldStep cfg s t pc o := by
  cases h with
  | «open» | global => exact .same (fun u => releaseQueueBudget_held u ..) rfl rfl rfl
  | abortRemoved | rejectRemoved | activated =>
    exact .other rfl rfl ⟨rfl, rfl, rfl, rfl⟩ rfl rfl rfl
  | abortShut | rejectShut => exact .shut rfl rfl rfl rfl
  | accepted hs => exact .touch (fun _ => rfl) rfl ⟨rfl, rfl, rfl, rfl⟩ (hs ▸ .opened) rfl rfl
  | _ => exact .same (fun _ => rfl) rfl rfl rfl

theorem work_hold (h : WorkEffect cfg s t pc o) : HoldStep cfg s t pc o := by
  cases h with
  | taken he => exact .take rfl rfl he rfl rfl
  | request | eof | close => exact .release rfl rfl rfl rfl
  | timeout _ hs => exact .touch (fun _ => rfl) rfl ⟨rfl, rfl, rfl, rfl⟩ (hs ▸ .acked) rfl rfl
  | cancel => exact .cancel (fun _ => rfl) rfl (.inl ⟨rfl, rfl⟩) rfl rfl
  | start | finishFails | finish | remoteClose | timeoutRemoved =>
    exact .other rfl rfl ⟨rfl, rfl, rfl, rfl⟩ rfl rfl rfl
  | _ => exact .same (fun _ => rfl) rfl rfl rfl

theorem open_hold (h : OpenEffect cfg s t pc o) : HoldStep cfg s t pc o := by
  cases h with
  | made => exact .new (fun _ => rfl) rfl rfl rfl rfl rfl rfl rfl rfl
  | added | removed | opened => exact .other rfl rfl ⟨rfl, rfl, rfl, rfl⟩ rfl rfl rfl
  | shut => exact .shut rfl rfl rfl rfl
  | abandoned hs => exact .touch (fun _ => rfl) rfl ⟨rfl, rfl, rfl, rfl⟩ (hs ▸ .failed) rfl rfl
  | _ => exact .same (fun _ => rfl) rfl rfl rfl

theorem data_hold (h : DataEffect cfg s t pc o) : HoldStep cfg s t pc o := by
  cases h with
  | send | refund => exact .other rfl rfl ⟨rfl, rfl, rfl, rfl⟩ rfl rfl rfl
  | recvCancel => exact .cancel (fun _ => rfl) rfl (.inr rfl) rfl rfl
  | recv hf | recvAdjust hf => exact .recv hf rfl rfl rfl
  | _ => exact .same (fun _ => rfl) rfl rfl rfl

theorem close_hold (h : CloseEffect cfg s t pc o) : HoldStep cfg s t pc o := by
  cases h with
  | requestReleased => exact .same (fun _ => rfl) rfl rfl (droppedPc_resumes ..).releases
  | closeWrite _ hs => exact .touch (fun _ => rfl) rfl ⟨rfl, rfl, rfl, rfl⟩ (.halfClosed hs) rfl rfl
  | undone hs => exact .touch (fun _ => rfl) rfl ⟨rfl, rfl, rfl, rfl⟩ (.undone hs) rfl rfl
  | closeOpening hs => exact .touch (fun _ => rfl) rfl ⟨rfl, rfl, rfl, rfl⟩ (hs ▸ .failed) rfl rfl
  | close hs =>
    refine .discard rfl rfl rfl rfl rfl (fun h => ?_) (canceled_ctx _ _ .channelClosed) rfl rfl
    rw [h] at hs
    cases hs
  | closeShut => exact .shut rfl rfl rfl rfl
  | requestLimit | requestSend | requestAsk | requestDropped | closeRemoved | closeArmed =>
    exact .other rfl rfl ⟨rfl, rfl, rfl, rfl⟩ rfl rfl rfl

/-- **Every step of a session, as far as what the channels hold is concerned.** -/
theorem hold_step (h : Effect cfg s t pc o) : HoldStep cfg s t pc o := by
  cases h with
  | move h => exact .same (fun _ => rfl) rfl (moves_releases h).1 (moves_releases h).2
  | found _ _ h => exact .same (fun _ => rfl) rfl rfl (finds_releases h)
  | refused => exact .same (fun _ => rfl) rfl rfl rfl
  | routeFails h => exact .same (fun _ => rfl) rfl (routeFails_releases h) rfl
  | send h => exact send_hold h
  | down h =>
    cases h with
    | channel => exact .shut rfl rfl rfl rfl
    | queues => exact .same (fun _ => rfl) rfl rfl (downPc_resumes _).releases
    | _ => exact .same (fun _ => rfl) rfl rfl rfl
  | writer h => exact writer_hold h
  | inOpen h => exact inOpen_hold h
  | inFrame h => exact inFrame_hold h
  | inRequest h => exact inRequest_hold h
  | dispatch h => exact dispatch_hold h
  | work h => exact work_hold h
  | «open» h => exact open_hold h
  | data h => exact data_hold h
  | close h => exact close_hold h

end Classify

end Mygosh.Mux

/-
  File:      Mygosh/Session/Life.lean
  Subject:   The life of a channel: what a step does to the channels of a session.

  * `Touch` -- the ways a section changes one channel, with its guards and what it shows;
  * `ChanStep`, `chan_step` -- every step of a session, as far as channels are concerned;
  * `Core` -- the fields that decide what can be sent and received; `Turn`, `core_step` -- the same
    for cores, in which most sections change nothing.
-/
import Mygosh.Session.Outbox

namespace Mygosh.Mux

open Function (update update_self update_of_ne update_eq_self update_idem)
open Session

/-! ## 1. What a section does to a channel -/

section

variable (cfg : Config) (s : Session) (t : Tid) (i : Nat)

/-- The counters at which `Channel.shutdown` runs on channel `i`; `shutdown` of the session runs it on
    every channel of the table. -/
def Pc.shuts : Pc → Bool
  | .shutChannels _ => true
  | .inOpenShut j _ | .inRejectShut j _ | .admitAbortShut j _ | .admitRejectShut j _ _ => j = i
  | .openShut j _ _ _ | .closeShut j _ => j = i
  | _ => false

/-- A change of channel `i` by goroutine `t` at a counter: what it shows, and the channel after it. -/
inductive Touch : Pc → List Event → Channel → Prop where
  | slotPending {pc} (h : (∃ m, pc = .inOpenAdd i m) ∨ ∃ typ p, pc = .openAdd i typ p) :
      Touch pc [] { s.chan i with slot := .channelSlotPending }
  | slotActive {pc} (hs : (s.chan i).slot = .channelSlotPending)
      (h : pc = .inActivate i ∨ ∃ m d, pc = .admitActivate i m d) :
      Touch pc [] { s.chan i with slot := .channelSlotActive }
  | slotFreed {pc evs} (he : evs = [] ∨ evs = [.closeProcessed i, .routed]) :
      Touch pc evs { s.chan i with
        slot := if i ∈ s.channels then .channelSlotNone else (s.chan i).slot }
  | shut {pc e} (hp : pc.shuts i = true) :
      Touch pc [] ((((s.chan i).pendingFailed e).shut e).canceled s.ctxErr e)
  | rejectShut {e} : Touch (.inRejectShut i e) [.routed]
      { (((s.chan i).pendingFailed e).shut e).canceled s.ctxErr e with
        openResult :=
          ((((s.chan i).pendingFailed e).shut e).canceled s.ctxErr e).openResult.or (some (some e)) }
  | openFails {res e} (hs : (s.chan i).state = .channelOpening) (hw : (s.chan i).openWait = true) :
      Touch (.inOpenResult i res) [.routeFailed e] { s.chan i with openWait := false }
  | opened {a} (hs : (s.chan i).state = .channelOpening) (hw : (s.chan i).openWait = true) :
      Touch (.inOpenResult i (.success a))
        [.answered i a, .channelOpened i a.senderChannelID cfg.initialWindow a.initialWindow
          cfg.maxPacketSize a.maxPacketSize] (openedChannel cfg (s.chan i) a)
  | rejected {r} (hs : (s.chan i).state = .channelOpening) (hw : (s.chan i).openWait = true) :
      Touch (.inOpenResult i (.reject r)) [] { s.chan i with
        openWait := false, state := .channelFailed, gen := (s.chan i).gen + 1 }
  | started : Touch (.inStart i) [.routed] { s.chan i with
      workerStarted := true, openResult := (s.chan i).openResult.or (some none) }
  | startWorker {w b q} (h : (s.writes w).after = .startWorker i) :
      Touch (.written w none b q) [] { s.chan i with workerStarted := true }
  | data {data} (hs : (s.chan i).state.canReceiveData = true)
      (hp : toU32 data.length ≤ (s.chan i).maxLocalPacket)
      (hw : toU32 data.length ≤ (s.chan i).localWindow) :
      Touch (.inData i data) [.accepted i data, .routed] { s.chan i with
        localWindow := subU32 (s.chan i).localWindow (toU32 data.length)
        frames := (s.chan i).frames ++ [data]
        gen := (s.chan i).gen + 1 }
  | adjust {n} (hs : (s.chan i).state.allowsRequests = true)
      (h : n ≤ subU32 maxUint32 (s.chan i).remoteWindow) :
      Touch (.inAdjust i n) [.adjusted i n, .routed] { s.chan i with
        remoteWindow := addU32 (s.chan i).remoteWindow n, gen := (s.chan i).gen + 1 }
  | eof {st} (hs : EofTo (s.chan i).state st) : Touch (.inEof i) [.routed] { s.chan i with
      state := st, gen := (s.chan i).gen + 1, events := (s.chan i).events ++ [.eof] }
  | eofFull {st} (hs : EofTo (s.chan i).state st) :
      Touch (.inEof i) [.routeFailed .resourceLimit] { s.chan i with
        state := st, gen := (s.chan i).gen + 1 }
  | closeAcked (hs : (s.chan i).state = .channelClosing) : Touch (.inClose i) [] { s.chan i with
      state := .channelClosed, gen := (s.chan i).gen + 1 }
  | close (hs : (s.chan i).state.allowsRequests = true) : Touch (.inClose i) [] { s.chan i with
      state := .channelClosed, gen := (s.chan i).gen + 1, events := (s.chan i).events ++ [.close] }
  | closeFull (hs : (s.chan i).state.allowsRequests = true) :
      Touch (.inClose i) [.routeFailed .resourceLimit] { s.chan i with
        state := .channelClosed, gen := (s.chan i).gen + 1 }
  | request {m} (hs : (s.chan i).state.allowsRequests = true)
      (hn : m.wantReply = true → m.requestID ∉ (s.chan i).incomingRequestIDs) :
      Touch (.inRequest i m) [.routed] { requestNoted s i m with
        events := (requestNoted s i m).events ++ [.request m] }
  | requestRefused {m evs} (he : evs = [] ∨ evs = [.routeFailed .resourceLimit]) :
      Touch (.inRequest i m) evs (requestNoted s i m)
  | finishRequest {pc q evs} (he : evs = [] ∨ ∃ e, evs = [.routeFailed e]) : Touch pc evs { s.chan i with
      incomingRequestIDs := (s.chan i).incomingRequestIDs.filter (· ≠ q) }
  | result {q res} (h : q ∈ (s.chan i).pendingRequests) : Touch (.inResult i q res) [] { s.chan i with
      pendingRequests := (s.chan i).pendingRequests.filter (· ≠ q) }
  | resultPut {q res r} (h : decodeResult cfg.limits res .resultPayload (.invalidResult q i)
        .invalidRejection = .ok r) : Touch (.inResultRelease i q res) [.routed] { s.chan i with
      replies := update (s.chan i).replies q (((s.chan i).replies q).or (some (.response r))) }
  | accept {m d} (hs : (s.chan i).state = .channelOpening) : Touch (.admitAccept i m d)
      [.channelOpened i (s.chan i).peerID (s.chan i).localWindow (s.chan i).remoteWindow
        (s.chan i).maxLocalPacket (s.chan i).maxRemotePacket] { s.chan i with
      state := .channelOpen, gen := (s.chan i).gen + 1 }
  | workerOpen (ht : t = .worker i) (hw : (s.chan i).workerStarted = true) :
      Touch .start [.onOpen i] { s.chan i with handed := true }
  | eventTaken {ev rest} (ht : t = .worker i) (h : (s.chan i).events = ev :: rest) :
      Touch .work [] { s.chan i with events := rest }
  | pendingFailed (ht : t = .worker i) : Touch .workClose [.onClose i]
      ((s.chan i).pendingFailed .channelClosed)
  | canceled {pc evs} (he : evs = [] ∨ evs = [.recvEOF i]) :
      Touch pc evs ((s.chan i).canceled s.ctxErr .channelClosed)
  | timeout (ht : t = .timer i) (ha : (s.chan i).timerArmed = true)
      (hs : (s.chan i).state = .channelClosing) : Touch .start [] { s.chan i with
      state := .channelClosed, gen := (s.chan i).gen + 1 }
  | openReturned {typ p} (h : (s.chan i).openResult = some none) :
      Touch (.openWait i typ p true) [] { s.chan i with handed := true }
  | abandoned {typ p e} (hs : (s.chan i).state = .channelOpening) :
      Touch (.abandon i typ p e) [] { s.chan i with
        state := .channelFailed, openWait := false, gen := (s.chan i).gen + 1 }
  | send {frame} (he : s.channelErrorLocked i = none) (hs : (s.chan i).state.canSendData = true)
      (hp : frame.length ≤ (s.chan i).maxRemotePacket)
      (h : toU32 frame.length ≤ (s.chan i).remoteWindow) : Touch (.sendLoop i frame) [] { s.chan i with
      remoteWindow := subU32 (s.chan i).remoteWindow (toU32 frame.length) }
  | refund {frame w e} (h : toU32 frame.length ≤ subU32 maxUint32 (s.chan i).remoteWindow) :
      Touch (.sendRefund i frame w e) [] { s.chan i with
        remoteWindow := addU32 (s.chan i).remoteWindow (toU32 frame.length)
        gen := (s.chan i).gen + 1 }
  | take {frame rest} (hf : (s.chan i).frames = frame :: rest) :
      Touch (.recvLoop i) [.recvFrame i frame] (takeFrame cfg (s.chan i) frame rest)
  | requestID {typ p want} (hn : (s.chan i).nextRequestID ≠ maxUint64) :
      Touch (.requestLock i typ p want) [] { s.chan i with
      nextRequestID := (s.chan i).nextRequestID + 1 }
  | requestAsk {typ p} (he : s.channelErrorLocked i = none)
      (hs : (s.chan i).state.allowsRequests = true)
      (hn : (s.chan i).nextRequestID ≠ maxUint64) :
      Touch (.requestLock i typ p true) [] { s.chan i with
        nextRequestID := (s.chan i).nextRequestID + 1
        pendingRequests := (s.chan i).pendingRequests.insert (s.chan i).nextRequestID }
  | requestDropped {q typ p e} (h : q ∈ (s.chan i).pendingRequests) :
      Touch (.requestDrop i q typ p e) [] { s.chan i with
        pendingRequests := (s.chan i).pendingRequests.filter (· ≠ q) }
  | closeWrite {st} (he : s.channelErrorLocked i = none)
      (hs : CloseWriteTo (s.chan i).state st) : Touch (.closeWrite i) [] { s.chan i with
      state := st, gen := (s.chan i).gen + 1 }
  | undone {st w e}
      (hs : (s.chan i).state = .channelLocalEOF ∨ (s.chan i).state = .channelBothEOF) :
      Touch (.closeWriteUndo i st w e) [] { s.chan i with state := st, gen := (s.chan i).gen + 1 }
  | closeOpening {k} (hs : (s.chan i).state = .channelOpening) :
      Touch (.close i k) [.closeCalled i] { s.chan i with
        state := .channelFailed, gen := (s.chan i).gen + 1 }
  | closing {k} (hs : (s.chan i).state.allowsRequests = true) :
      Touch (.close i k) [.closeCalled i]
        (((s.chan i).pendingFailed .channelClosed).closing.canceled s.ctxErr .channelClosed)
  | timerArmed {k} : Touch (.closeArm i k) [] { s.chan i with timerArmed := true }

end

/-- Events that tell of a change of a channel. -/
def Event.ofChannel : Event → Bool
  | .incoming .. | .answered .. | .channelOpened .. | .accepted .. | .adjusted .. => true
  | .recvFrame .. => true
  | _ => false

/-- The ways a step can touch the channels. -/
inductive ChanStep (cfg : Config) (s : Session) (t : Tid) : Pc → Out → Prop where
  | same {pc o} (h : o.sess.chan = s.chan)
      (hn : o.sess.nextLocalChannelID = s.nextLocalChannelID)
      (he : o.events.filter Event.ofChannel = []) : ChanStep cfg s t pc o
  | incoming {m o}
      (h : o.sess.chan = update s.chan s.nextLocalChannelID (newIncomingChannel cfg m))
      (hn : o.sess.nextLocalChannelID = s.nextLocalChannelID + 1)
      (hp : o.pc = .inOpenAdd s.nextLocalChannelID m)
      (he : o.events = [.incoming s.nextLocalChannelID m])
      (hl : s.nextLocalChannelID ≠ maxUint64) : ChanStep cfg s t (.inOpen m) o
  | pending {typ p o}
      (h : o.sess.chan = update s.chan s.nextLocalChannelID (newPendingChannel t typ))
      (hn : o.sess.nextLocalChannelID = s.nextLocalChannelID + 1)
      (hp : o.pc = .openAdd s.nextLocalChannelID typ p) (he : o.events = [])
      (hl : s.nextLocalChannelID ≠ maxUint64) : ChanStep cfg s t (.openReserve typ p) o
  | touch {pc o i c evs} (h : o.sess.chan = update s.chan i c)
      (hn : o.sess.nextLocalChannelID = s.nextLocalChannelID) (he : o.events = evs)
      (ht : Touch cfg s t i pc evs c) : ChanStep cfg s t pc o

section Classify

variable {cfg : Config} {s : Session} {t : Tid} {pc pc' : Pc} {o : Out}

theorem contEvents_ofChannel (e : Option Err) (k : Cont) :
    (contEvents e k).filter Event.ofChannel = [] := by
  cases k <;> cases e <;> rfl

/-- A value for the waiting `OpenChannel`, put after another change of the channel. -/
theorem putOpenResult_chan {s₁ : Session} {i : Nat} {c : Channel} {e : Option Err}
    (h : s₁.chan = update s.chan i c) : (s₁.putOpenResult i e).chan =
      update s.chan i { c with openResult := c.openResult.or (some e) } := by
  unfold Session.putOpenResult Session.setChan
  rw [h, update_self, update_idem]

theorem send_chan (h : SendEffect cfg s pc o) : ChanStep cfg s t pc o := by
  cases h with
  | ensureFails | reserveFails | pushClosed | pushFull | awaited | canceled =>
    exact .same rfl rfl (contEvents_ofChannel ..)
  | reserved | pushSync => exact .same rfl rfl rfl
  | pushAsync => exact .same rfl rfl (contEvents_ofChannel none _)

theorem down_chan (h : DownEffect s t pc o) : ChanStep cfg s t pc o := by
  cases h with
  | channel => exact .touch rfl rfl rfl (.shut rfl)
  | _ => exact .same rfl rfl rfl

theorem writer_chan (h : WriterEffect s pc o) : ChanStep cfg s t pc o := by
  cases h with
  | skipRequest | finishRequest => exact .touch rfl rfl rfl (.finishRequest (.inl rfl))
  | startWorker h => exact .touch rfl rfl rfl (.startWorker h)
  | _ => exact .same rfl rfl rfl

theorem inOpen_chan (h : InOpenEffect cfg s t pc o) : ChanStep cfg s t pc o := by
  cases h with
  | made hn => exact .incoming rfl rfl rfl rfl hn
  | added => exact .touch rfl rfl rfl (.slotPending (.inl ⟨_, rfl⟩))
  | activated hs => exact .touch rfl rfl rfl (.slotActive hs (.inl rfl))
  | removed | rejectRemoved => exact .touch rfl rfl rfl (.slotFreed (.inl rfl))
  | shut => exact .touch rfl rfl rfl (.shut (decide_eq_true rfl))
  | resultFails hs hw => exact .touch rfl rfl rfl (.openFails hs hw)
  | opened hs hw => exact .touch rfl rfl rfl (.opened hs hw)
  | rejected hs hw => exact .touch rfl rfl rfl (.rejected hs hw)
  | started => exact .touch (putOpenResult_chan rfl) rfl rfl .started
  | rejectShut => exact .touch (putOpenResult_chan rfl) rfl rfl .rejectShut
  | _ => exact .same rfl rfl rfl

theorem inFrame_chan (h : InEffect cfg s t pc o) : ChanStep cfg s t pc o := by
  cases h with
  | data hs hp hw => exact .touch rfl rfl rfl (.data hs hp hw)
  | adjust hs h => exact .touch rfl rfl rfl (.adjust hs h)
  | eof hs => exact .touch rfl rfl rfl (.eof hs)
  | eofFull hs => exact .touch rfl rfl rfl (.eofFull hs)
  | closeAcked hs => exact .touch rfl rfl rfl (.closeAcked hs)
  | close hs => exact .touch rfl rfl rfl (.close hs)
  | closeFull hs => exact .touch rfl rfl rfl (.closeFull hs)
  | closeRemoved => exact .touch rfl rfl rfl (.slotFreed (.inr rfl))

theorem inRequest_chan (h : InRequestEffect cfg s t pc o) : ChanStep cfg s t pc o := by
  cases h with
  | request hs hn => exact .touch rfl rfl rfl (.request hs hn)
  | requestRejected => exact .touch rfl rfl rfl (.requestRefused (.inl rfl))
  | requestLimit => exact .touch rfl rfl rfl (.requestRefused (.inr rfl))
  | requestFinish => exact .touch rfl rfl rfl (.finishRequest (.inr ⟨_, rfl⟩))
  | result h => exact .touch rfl rfl rfl (.result h)
  | resultPut h => exact .touch rfl rfl rfl (.resultPut h)
  | _ => exact .same rfl rfl rfl

theorem dispatch_chan (h : DispatchEffect cfg s t pc o) : ChanStep cfg s t pc o := by
  cases h with
  | abortRemoved | rejectRemoved => exact .touch rfl rfl rfl (.slotFreed (.inl rfl))
  | activated hs => exact .touch rfl rfl rfl (.slotActive hs (.inr ⟨_, _, rfl⟩))
  | abortShut | rejectShut => exact .touch rfl rfl rfl (.shut (decide_eq_true rfl))
  | accepted hs => exact .touch rfl rfl rfl (.accept hs)
  | _ => exact .same rfl rfl rfl

theorem work_chan (h : WorkEffect cfg s t pc o) : ChanStep cfg s t pc o := by
  cases h with
  | start hw => exact .touch rfl rfl rfl (.workerOpen rfl hw)
  | taken h => exact .touch rfl rfl rfl (.eventTaken rfl h)
  | finishFails | finish => exact .touch rfl rfl rfl (.finishRequest (.inl rfl))
  | remoteClose => exact .touch rfl rfl rfl (.pendingFailed rfl)
  | cancel => exact .touch rfl rfl rfl (.canceled (.inl rfl))
  | timeout ha hs => exact .touch rfl rfl rfl (.timeout rfl ha hs)
  | timeoutRemoved => exact .touch rfl rfl rfl (.slotFreed (.inl rfl))
  | _ => exact .same rfl rfl rfl

theorem open_chan (h : OpenEffect cfg s t pc o) : ChanStep cfg s t pc o := by
  cases h with
  | made hn => exact .pending rfl rfl rfl rfl hn
  | added => exact .touch rfl rfl rfl (.slotPending (.inr ⟨_, _, rfl⟩))
  | removed => exact .touch rfl rfl rfl (.slotFreed (.inl rfl))
  | opened h => exact .touch rfl rfl rfl (.openReturned h)
  | shut => exact .touch rfl rfl rfl (.shut (decide_eq_true rfl))
  | abandoned hs => exact .touch rfl rfl rfl (.abandoned hs)
  | _ => exact .same rfl rfl rfl

theorem data_chan (h : DataEffect cfg s t pc o) : ChanStep cfg s t pc o := by
  cases h with
  | send he hs hp h => exact .touch rfl rfl rfl (.send he hs hp h)
  | refund h => exact .touch rfl rfl rfl (.refund h)
  | recvCancel => exact .touch rfl rfl rfl (.canceled (.inr rfl))
  | recv hf | recvAdjust hf => exact .touch rfl rfl rfl (.take hf)
  | _ => exact .same rfl rfl rfl

theorem close_chan (h : CloseEffect cfg s t pc o) : ChanStep cfg s t pc o := by
  cases h with
  | requestLimit hn | requestSend _ _ hn => exact .touch rfl rfl rfl (.requestID hn)
  | requestAsk he hs _ _ hn => exact .touch rfl rfl rfl (.requestAsk he hs hn)
  | requestDropped h => exact .touch rfl rfl rfl (.requestDropped h)
  | requestReleased => exact .same rfl rfl rfl
  | closeWrite he hs => exact .touch rfl rfl rfl (.closeWrite he hs)
  | undone hs => exact .touch rfl rfl rfl (.undone hs)
  | closeOpening hs => exact .touch rfl rfl rfl (.closeOpening hs)
  | close hs => exact .touch rfl rfl rfl (.closing hs)
  | closeRemoved => exact .touch rfl rfl rfl (.slotFreed (.inl rfl))
  | closeShut => exact .touch rfl rfl rfl (.shut (decide_eq_true rfl))
  | closeArmed => exact .touch rfl rfl rfl .timerArmed

/-- **Every step of a session, as far as channels are concerned.** -/
theorem chan_step (h : Effect cfg s t pc o) : ChanStep cfg s t pc o := by
  cases h with
  | move | found | refused | routeFails => exact .same rfl rfl rfl
  | send h => exact send_chan h
  | down h => exact down_chan h
  | writer h => exact writer_chan h
  | inOpen h => exact inOpen_chan h
  | inFrame h => exact inFrame_chan h
  | inRequest h => exact inRequest_chan h
  | dispatch h => exact dispatch_chan h
  | work h => exact work_chan h
  | «open» h => exact open_chan h
  | data h => exact data_chan h
  | close h => exact close_chan h

end Classify

/-! ## 2. Cores -/

/-- The fields of a channel its stream depends on. -/
structure Core where
  peerID : Nat
  state : ChannelState
  openWait : Bool
  localWindow : Nat
  maxLocalPacket : Nat
  maxRemotePacket : Nat
  pendingWindowBytes : Nat
  frames : List Bytes
  creator : Tid
  deriving DecidableEq, Repr

def Channel.core (c : Channel) : Core :=
  ⟨c.peerID, c.state, c.openWait, c.localWindow, c.maxLocalPacket, c.maxRemotePacket,
    c.pendingWindowBytes, c.frames, c.creator⟩

def cores (s : Session) : Nat → Core := fun j => (s.chan j).core

theorem cores_update (g : Nat → Channel) (i : Nat) (c : Channel) :
    (fun j => (update g i c j).core) = update (fun j => (g j).core) i c.core := by
  funext j
  by_cases hj : j = i
  · subst hj
    rw [update_self, update_self]
  · rw [update_of_ne hj, update_of_ne hj]

/-- The cores after one channel has been replaced. -/
theorem cores_of_chan {s s' : Session} {i : Nat} {c : Channel}
    (h : s'.chan = update s.chan i c) : cores s' = update (cores s) i c.core := by
  unfold cores
  rw [h]
  exact cores_update ..

theorem cores_same {s s' : Session} {i : Nat} {c : Channel}
    (h : s'.chan = update s.chan i c) (hc : c.core = (s.chan i).core) :
    cores s' = cores s := by
  rw [cores_of_chan h, hc]
  exact update_eq_self i (cores s)

/-- The state after a channel has been shut. -/
def ChannelState.shut (st : ChannelState) : ChannelState :=
  if st = .channelClosed then .channelClosed else .channelFailed

/-- The core of a channel whose first frame has been taken. -/
def Core.take (cfg : Config) (c : Core) (frame : Bytes) (rest : List Bytes) : Core :=
  { c with
    frames := rest
    localWindow := addU32 c.localWindow (toU32 frame.length)
    pendingWindowBytes :=
      if addU32 c.pendingWindowBytes (toU32 frame.length) ≥ cfg.windowAdjustThreshold then 0
      else addU32 c.pendingWindowBytes (toU32 frame.length) }

/-! ## 3. What a section does to a core -/

/-- A change of the core of channel `i` by goroutine `t` at a counter: what it shows, and the new
    core. -/
inductive Turn (cfg : Config) (t : Tid) (i : Nat) (c : Core) : Pc → List Event → Core → Prop where
  | shut {pc evs} (he : evs = [] ∨ evs = [.routed]) (hp : pc.shuts i = true) : Turn cfg t i c pc evs
      { c with state := c.state.shut, frames := [], openWait := false }
  | openFails {res e} (hs : c.state = .channelOpening) (hw : c.openWait = true) :
      Turn cfg t i c (.inOpenResult i res) [.routeFailed e] { c with openWait := false }
  | opened {a} (hs : c.state = .channelOpening) (hw : c.openWait = true) :
      Turn cfg t i c (.inOpenResult i (.success a))
        [.answered i a, .channelOpened i a.senderChannelID cfg.initialWindow a.initialWindow
          cfg.maxPacketSize a.maxPacketSize]
        { c with
          openWait := false
          peerID := a.senderChannelID
          localWindow := cfg.initialWindow
          maxLocalPacket := cfg.maxPacketSize
          maxRemotePacket := a.maxPacketSize
          state := .channelOpen }
  | rejected {r} (hs : c.state = .channelOpening) (hw : c.openWait = true) :
      Turn cfg t i c (.inOpenResult i (.reject r)) []
        { c with openWait := false, state := .channelFailed }
  | abandoned {typ p e} (hs : c.state = .channelOpening) :
      Turn cfg t i c (.abandon i typ p e) [] { c with openWait := false, state := .channelFailed }
  | closeOpening {k} (hs : c.state = .channelOpening) :
      Turn cfg t i c (.close i k) [.closeCalled i] { c with state := .channelFailed }
  | accept {m d w} (hs : c.state = .channelOpening) :
      Turn cfg t i c (.admitAccept i m d)
        [.channelOpened i c.peerID c.localWindow w c.maxLocalPacket c.maxRemotePacket]
        { c with state := .channelOpen }
  | data {data} (hs : c.state.canReceiveData = true) (hp : toU32 data.length ≤ c.maxLocalPacket)
      (hw : toU32 data.length ≤ c.localWindow) :
      Turn cfg t i c (.inData i data) [.accepted i data, .routed]
        { c with
          localWindow := subU32 c.localWindow (toU32 data.length)
          frames := c.frames ++ [data] }
  | take {frame rest} (hf : c.frames = frame :: rest) :
      Turn cfg t i c (.recvLoop i) [.recvFrame i frame] (c.take cfg frame rest)
  | eof {st evs} (hs : EofTo c.state st) (he : evs = [.routed] ∨ evs = [.routeFailed .resourceLimit]) :
      Turn cfg t i c (.inEof i) evs { c with state := st }
  | closeWrite {st} (hs : CloseWriteTo c.state st) :
      Turn cfg t i c (.closeWrite i) [] { c with state := st }
  | undo {st w e} (hs : c.state = .channelLocalEOF ∨ c.state = .channelBothEOF) :
      Turn cfg t i c (.closeWriteUndo i st w e) [] { c with state := st }
  | closeAcked (hs : c.state = .channelClosing) :
      Turn cfg t i c (.inClose i) [] { c with state := .channelClosed }
  | remoteClose {evs} (hs : c.state.allowsRequests = true)
      (he : evs = [] ∨ evs = [.routeFailed .resourceLimit]) :
      Turn cfg t i c (.inClose i) evs { c with state := .channelClosed }
  | timeout (ht : t = .timer i) (hs : c.state = .channelClosing) :
      Turn cfg t i c .start [] { c with state := .channelClosed }
  | closing {k} (hs : c.state.allowsRequests = true) :
      Turn cfg t i c (.close i k) [.closeCalled i] { c with state := .channelClosing, frames := [] }

/-- Events that tell of a change of a core. -/
def Event.ofCore : Event → Bool
  | .incoming .. | .answered .. | .channelOpened .. | .accepted .. | .recvFrame .. => true
  | _ => false

/-- The channel whose core an event tells of. -/
def Event.coreOf : Event → Option Nat
  | .incoming i _ | .answered i _ | .channelOpened i _ _ _ _ _ | .accepted i _ => some i
  | .recvFrame i _ => some i
  | _ => none

theorem Turn.coreOf {cfg : Config} {t : Tid} {i : Nat} {c c' : Core} {pc : Pc} {evs : List Event}
    (h : Turn cfg t i c pc evs c') {e : Event} (he : e ∈ evs) {j : Nat}
    (hj : e.coreOf = some j) : j = i := by
  have hall : ∀ e ∈ evs, e.coreOf = none ∨ e.coreOf = some i := by
    cases h with
    | shut h | eof _ h | remoteClose _ h => rcases h with rfl | rfl <;> simp [Event.coreOf]
    | _ => simp [Event.coreOf]
  rcases hall e he with h | h <;> rw [h] at hj <;> cases hj
  rfl

/-- The ways a step can touch the cores. -/
inductive CoreStep (cfg : Config) (s : Session) (t : Tid) : Pc → Out → Prop where
  | same {pc o} (hc : cores o.sess = cores s)
      (hn : o.sess.nextLocalChannelID = s.nextLocalChannelID)
      (he : o.events.filter Event.ofCore = []) : CoreStep cfg s t pc o
  | incoming {m o} (hc : cores o.sess = update (cores s) s.nextLocalChannelID
        (newIncomingChannel cfg m).core)
      (hn : o.sess.nextLocalChannelID = s.nextLocalChannelID + 1)
      (hp : o.pc = .inOpenAdd s.nextLocalChannelID m)
      (he : o.events = [.incoming s.nextLocalChannelID m]) : CoreStep cfg s t (.inOpen m) o
  | pending {typ p o} (hc : cores o.sess = update (cores s) s.nextLocalChannelID
        (newPendingChannel t typ).core)
      (hn : o.sess.nextLocalChannelID = s.nextLocalChannelID + 1)
      (hp : o.pc = .openAdd s.nextLocalChannelID typ p) (he : o.events = []) :
      CoreStep cfg s t (.openReserve typ p) o
  | turn {pc o i c evs} (hc : cores o.sess = update (cores s) i c)
      (hn : o.sess.nextLocalChannelID = s.nextLocalChannelID) (he : o.events = evs)
      (h : Turn cfg t i (cores s i) pc evs c) : CoreStep cfg s t pc o

/-- What a step does to the core of one channel. -/
inductive CoreAt (cfg : Config) (s : Session) (t : Tid) (j : Nat) : Pc → Out → Prop where
  | same {pc o} (h : cores o.sess j = cores s j) (he : ∀ e ∈ o.events, e.coreOf ≠ some j) :
      CoreAt cfg s t j pc o
  | incoming {m o} (hj : j = s.nextLocalChannelID)
      (h : cores o.sess j = (newIncomingChannel cfg m).core) (he : o.events = [.incoming j m]) :
      CoreAt cfg s t j (.inOpen m) o
  | pending {typ p o} (hj : j = s.nextLocalChannelID)
      (h : cores o.sess j = (newPendingChannel t typ).core) (he : o.events = []) :
      CoreAt cfg s t j (.openReserve typ p) o
  | turn {pc o c evs} (h : cores o.sess j = c) (he : o.events = evs)
      (ht : Turn cfg t j (cores s j) pc evs c) : CoreAt cfg s t j pc o

section Classify

variable {cfg : Config} {s : Session} {t : Tid} {pc : Pc} {o : Out}

theorem CoreStep.of_touch {i : Nat} {c : Channel} {evs : List Event}
    (h : o.sess.chan = update s.chan i c)
    (hn : o.sess.nextLocalChannelID = s.nextLocalChannelID) (he : o.events = evs)
    (ht : Turn cfg t i (cores s i) pc evs c.core) : CoreStep cfg s t pc o :=
  .turn (cores_of_chan h) hn he ht

theorem requestNoted_core {i : Nat} {m : RequestMsg} :
    (requestNoted s i m).core = (s.chan i).core := by
  unfold requestNoted
  split <;> rfl

/-- **Every step of a session, as far as cores are concerned.** -/
theorem core_step (h : Effect cfg s t pc o) : CoreStep cfg s t pc o := by
  have hq : ∀ {evs : List Event}, evs.filter Event.ofChannel = [] → evs.filter Event.ofCore = [] := by
    intro evs he
    refine List.filter_eq_nil_iff.2 fun e hm => ?_
    have := List.filter_eq_nil_iff.1 he e hm
    cases e <;> first | exact this | exact nofun
  cases chan_step h with
  | same h hn he => exact .same (by unfold cores; rw [h]) hn (hq he)
  | incoming h hn hp he => exact .incoming (cores_of_chan h) hn hp he
  | pending h hn hp he => exact .pending (cores_of_chan h) hn hp he
  | touch h hn hevs ht =>
    cases ht with
    | shut hp => exact .of_touch h hn hevs (.shut (.inl rfl) hp)
    | rejectShut => exact .of_touch h hn hevs (.shut (.inr rfl) (decide_eq_true rfl))
    | openFails hs hw => exact .of_touch h hn hevs (.openFails hs hw)
    | opened hs hw => exact .of_touch h hn hevs (.opened hs hw)
    | rejected hs hw => exact .of_touch h hn hevs (.rejected hs hw)
    | data hs hp hw => exact .of_touch h hn hevs (.data hs hp hw)
    | eof hs => exact .of_touch h hn hevs (.eof hs (.inl rfl))
    | eofFull hs => exact .of_touch h hn hevs (.eof hs (.inr rfl))
    | closeAcked hs => exact .of_touch h hn hevs (.closeAcked hs)
    | close hs => exact .of_touch h hn hevs (.remoteClose hs (.inl rfl))
    | closeFull hs => exact .of_touch h hn hevs (.remoteClose hs (.inr rfl))
    | accept hs => exact .of_touch h hn hevs (.accept hs)
    | timeout ht _ hs => exact .of_touch h hn hevs (.timeout ht hs)
    | abandoned hs => exact .of_touch h hn hevs (.abandoned hs)
    | take hf => exact .of_touch h hn hevs (.take hf)
    | closeWrite _ hs => exact .of_touch h hn hevs (.closeWrite hs)
    | undone hs => exact .of_touch h hn hevs (.undo hs)
    | closeOpening hs => exact .of_touch h hn hevs (.closeOpening hs)
    | closing hs => exact .of_touch h hn hevs (.closing hs)
    | request => exact .same (cores_same h requestNoted_core) hn (by rw [hevs]; rfl)
    | requestRefused he =>
      exact .same (cores_same h requestNoted_core) hn (by rcases he with rfl | rfl <;> rw [hevs] <;> rfl)
    | slotFreed he => exact .same (cores_same h rfl) hn (by rcases he with rfl | rfl <;> rw [hevs] <;> rfl)
    | finishRequest he =>
      exact .same (cores_same h rfl) hn (by rcases he with rfl | ⟨e, rfl⟩ <;> rw [hevs] <;> rfl)
    | canceled he => exact .same (cores_same h rfl) hn (by rcases he with rfl | rfl <;> rw [hevs] <;> rfl)
    | _ => exact .same (cores_same h rfl) hn (by rw [hevs]; rfl)

theorem core_at (h : Effect cfg s t pc o) (j : Nat) : CoreAt cfg s t j pc o := by
  cases core_step h with
  | same hc _ he =>
    refine .same (by rw [hc]) fun e hm => ?_
    have := List.filter_eq_nil_iff.1 he e hm
    cases e <;> first | exact absurd rfl this | exact nofun
  | incoming hc _ _ he =>
    by_cases hj : j = s.nextLocalChannelID
    · exact .incoming hj (by rw [hc, hj, update_self]) (hj ▸ he)
    · refine .same (by rw [hc, update_of_ne hj]) fun e hm hj' => ?_
      rw [he, List.mem_singleton] at hm
      subst hm
      exact hj (Option.some.inj hj').symm
  | pending hc _ _ he =>
    by_cases hj : j = s.nextLocalChannelID
    · exact .pending hj (by rw [hc, hj, update_self]) he
    · refine .same (by rw [hc, update_of_ne hj]) fun e hm => ?_
      rw [he] at hm
      cases hm
  | @turn _ _ i c evs hc _ he ht =>
    by_cases hj : j = i
    · subst hj
      exact .turn (by rw [hc, update_self]) he ht
    · exact .same (by rw [hc, update_of_ne hj]) fun e hm hj' =>
        hj (ht.coreOf (he ▸ hm) hj')

theorem next_le (h : Effect cfg s t pc o) : s.nextLocalChannelID ≤ o.sess.nextLocalChannelID := by
  cases core_step h with
  | same _ hn | turn _ hn => exact hn.ge
  | incoming _ hn | pending _ hn => rw [hn]; exact Nat.le_succ _

end Classify

end Mygosh.Mux

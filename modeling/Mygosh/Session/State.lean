/-
  File:      Mygosh/Session/State.lean
  Subject:   The state of one session: the fields of `Session`, `Channel` and `outboundWrite`, and
             the goroutines that work on them.

  * Objects the code reaches by pointer live in two heaps, `chan` (channels by their local id,
    which is never given out twice) and `writes` (outbound writes by a running number).
  * A map is the list of its keys (`channels`, `pendingRequests`, ...) or of its pairs
    (`peerChannelIDs`); a Go channel of capacity one that is written once and read once is an
    `Option`.
  * A goroutine is a program counter `Pc`, with its local variables as arguments. Between two
    counters lies one section under a lock, the sections nested in it included.
  * Fields marked "history" are never read by the code; they record what has happened to an
    object, for the statements about runs.
-/
import Mygosh.Session.Message
import Mathlib.Logic.Function.Basic

namespace Mygosh.Mux

/-! ## 1. Goroutines and writes -/

/-- The goroutines of a session. `call n` is an application goroutine inside one API call,
    `late n` the `n`th goroutine started only to run `shutdown`. -/
inductive Tid where
  | receiver
  | dispatcher
  | writer
  | worker (i : Nat)
  | timer (i : Nat)
  | call (n : Nat)
  | late (n : Nat)
  | finalizer
  | env
  deriving DecidableEq, Repr

/-- `ChannelResponse`, `GlobalResponse` and `ChannelOpenDecision` (less its handler). -/
structure Response where
  ok : Bool
  payload : Bytes
  code : String
  message : String
  deriving DecidableEq, Repr

/-- `channelWaitResult` and `globalWaitResult`. -/
inductive WaitResult where
  | response (r : Response)
  | err (e : Err)
  deriving DecidableEq, Repr

/-- `writeQueued`, `writeStarted`, `writeCanceled`, `writeDone`. -/
inductive WriteState where
  | writeQueued
  | writeStarted
  | writeCanceled
  | writeDone
  deriving DecidableEq, Repr

/-- The callback `after` of an outbound write. -/
inductive After where
  | nothing
  | startWorker (i : Nat)
  | finishRequest (i requestID : Nat)
  | finishGlobal (requestID : Nat)
  deriving DecidableEq, Repr

/-- History: where a frame is on its way to the connection. -/
inductive Place where
  | hand
  | control
  | outbound
  | writer
  | sent
  | dropped
  deriving DecidableEq, Repr

/-- `outboundWrite`. `waits` says that it has a `result` channel, `result` is that channel's
    buffer. History: `chan`, the channel whose section decided the frame, `caller`, the goroutine
    that made it, `place`, and `undone`, set once the caller has taken back what it had changed in
    the channel when it decided the frame: the bytes of a `Send`, the state of a `CloseWrite`. -/
structure OutboundWrite where
  envelope : Envelope
  after : After
  waits : Bool
  state : WriteState
  result : Option (Option Err)
  chan : Option Nat
  caller : Tid
  place : Place
  undone : Bool
  deriving DecidableEq, Repr

instance : Inhabited OutboundWrite :=
  ⟨⟨.unset, .nothing, false, .writeQueued, none, none, .env, .dropped, false⟩⟩

/-- The size an outbound write is charged with. -/
def OutboundWrite.size (w : OutboundWrite) : Nat := w.envelope.size

/-! ## 2. Channels -/

/-- `channelSlot`. -/
inductive ChannelSlot where
  | channelSlotNone
  | channelSlotPending
  | channelSlotActive
  deriving DecidableEq, Repr

/-- `channelEvent` with its kind. -/
inductive ChannelEvent where
  | request (m : RequestMsg)
  | eof
  | close
  deriving DecidableEq, Repr

def ChannelEvent.size : ChannelEvent → Nat
  | .request m => m.size
  | .eof => 1
  | .close => 1

/-- `Channel`, less its two queue counters, which are in `Budget`. `openResult` is the buffer of
    `openWait`, `replies` those of the request waiters; `gen` counts the replacements of `stateCh`
    by `signalLocked`.
    History: `creator`, and `handed`, set once the application has been given the channel. -/
structure Channel where
  peerID : Nat
  typ : String
  slot : ChannelSlot
  ctxErr : Option Err
  state : ChannelState
  openWait : Bool
  openResult : Option (Option Err)
  localWindow : Nat
  remoteWindow : Nat
  maxLocalPacket : Nat
  maxRemotePacket : Nat
  pendingWindowBytes : Nat
  nextRequestID : Nat
  pendingRequests : List Nat
  replies : Nat → Option WaitResult
  incomingRequestIDs : List Nat
  frames : List Bytes
  sessionErr : Option Err
  gen : Nat
  events : List ChannelEvent
  workerStarted : Bool
  timerArmed : Bool
  handed : Bool
  creator : Tid

/-- `newPendingChannel`. -/
def newPendingChannel (t : Tid) (typ : String) : Channel where
  peerID := 0
  typ := typ
  slot := .channelSlotNone
  ctxErr := none
  state := .channelOpening
  openWait := true
  openResult := none
  localWindow := 0
  remoteWindow := 0
  maxLocalPacket := 0
  maxRemotePacket := 0
  pendingWindowBytes := 0
  nextRequestID := 0
  pendingRequests := []
  replies := fun _ => none
  incomingRequestIDs := []
  frames := []
  sessionErr := none
  gen := 0
  events := []
  workerStarted := false
  timerArmed := false
  handed := false
  creator := t

/-- `newIncomingChannel`. -/
def newIncomingChannel (cfg : Config) (m : ChannelOpen) : Channel :=
  { newPendingChannel .receiver m.channelType with
    peerID := m.senderChannelID
    openWait := false
    localWindow := cfg.initialWindow
    remoteWindow := m.initialWindow
    maxLocalPacket := cfg.maxPacketSize
    maxRemotePacket := m.maxPacketSize }

instance : Inhabited Channel := ⟨newPendingChannel .env ""⟩

/-! ## 3. Sessions -/

/-- `dispatchTask`. -/
inductive DispatchTask where
  | channelOpen (m : ChannelOpen)
  | globalRequest (m : GlobalMsg)
  deriving DecidableEq, Repr

def DispatchTask.size : DispatchTask → Nat
  | .channelOpen m => m.size
  | .globalRequest m => m.size

/-- The queue budget: `queuedFrames` and `queuedBytes` of the session and, by local id, of its
    channels. -/
structure Budget where
  queuedFrames : Nat
  queuedBytes : Nat
  chanFrames : Nat → Nat
  chanBytes : Nat → Nat

/-- `Session`. `ctxErr` is the cause the session context was cancelled with, `late` the arguments
    of the `shutdown` goroutines started so far, `shutDone` whether `shutdownOnce` has returned. -/
structure Session where
  activated : Bool
  ctxErr : Option Err
  nextLocalChannelID : Nat
  chan : Nat → Channel
  channels : List Nat
  peerChannelIDs : List (Nat × Nat)
  activeChannels : Nat
  pendingOpens : Nat
  nextGlobalRequestID : Nat
  pendingGlobal : List Nat
  globalReplies : Nat → Option WaitResult
  incomingGlobalRequests : List Nat
  pendingChannelRequests : Nat
  closeErr : Option Err
  closing : Bool
  shutDone : Bool
  budget : Budget
  queuesClosed : Bool
  dispatchQueue : List DispatchTask
  controlQueue : List Nat
  outboundQueue : List Nat
  nextWrite : Nat
  writes : Nat → OutboundWrite
  late : List (Option Err)
  finalizing : Bool
  connClosed : Bool

/-- The session `Bind` returns, before its goroutines run. -/
def Session.bind : Session where
  activated := false
  ctxErr := none
  nextLocalChannelID := 0
  chan := fun _ => default
  channels := []
  peerChannelIDs := []
  activeChannels := 0
  pendingOpens := 0
  nextGlobalRequestID := 0
  pendingGlobal := []
  globalReplies := fun _ => none
  incomingGlobalRequests := []
  pendingChannelRequests := 0
  closeErr := none
  closing := false
  shutDone := false
  budget := ⟨0, 0, fun _ => 0, fun _ => 0⟩
  queuesClosed := false
  dispatchQueue := []
  controlQueue := []
  outboundQueue := []
  nextWrite := 0
  writes := fun _ => default
  late := []
  finalizing := false
  connClosed := false

/-! ## 4. Program counters -/

/-- The context a synchronous send is made with. -/
inductive SendCtx where
  | background
  | caller
  | session
  | channel (i : Nat)
  deriving DecidableEq, Repr

/-- The two ways into `enqueueWrite`: `sendEnvelopeAfter` (ordinary queue, waits) and
    `sendEnvelopeAsyncAfter`, which every caller uses with `control = true`. -/
inductive Mode where
  | sync (c : SendCtx)
  | async
  deriving DecidableEq, Repr

/-- What an API call returned. A `Send` also names the write it decided, if it got that far. -/
inductive Ret where
  | openChannel (typ : String) (payload : Bytes) (r : Except Err Nat)
  | globalRequest (typ : String) (payload : Bytes) (requestID : Option Nat)
      (r : Except Err (Option Response))
  | send (i : Nat) (frame : Bytes) (w : Option Nat) (e : Option Err)
  | recv (i : Nat) (r : Except Err Bytes)
  | recvEOF (i : Nat)
  | request (i : Nat) (typ : String) (payload : Bytes) (requestID : Option Nat)
      (r : Except Err (Option Response))
  | closeWrite (i : Nat) (e : Option Err)
  | close (i : Nat) (e : Option Err)
  | sessionClose

/-- Who called `Channel.Close`: the application, or `abandonOpen` on behalf of an `OpenChannel`
    that then returns an error. -/
inductive CloseFor where
  | api
  | abandoned (typ : String) (payload : Bytes) (e : Err)
  deriving DecidableEq, Repr

/-- What follows a call of `shutdown`. -/
inductive AfterShutdown where
  | exit
  | ret (r : Ret)

/-- The locals of a running `shutdown`. -/
structure Down where
  cause : Option Err
  closeErr : Err
  chans : List Nat
  globals : List Nat
  k : AfterShutdown

/-- What follows an `enqueueWrite` (and, for a synchronous send, the wait for its result). -/
inductive Cont where
  | openChannel (i : Nat) (typ : String) (payload : Bytes) (waitCh : Bool)
  | globalRequest (requestID : Nat) (typ : String) (payload : Bytes) (wantReply : Bool)
  | channelData (i : Nat) (frame : Bytes)
  | windowAdjust (i : Nat) (frame : Bytes)
  | channelRequest (i requestID : Nat) (typ : String) (payload : Bytes) (wantReply : Bool)
  | channelEof (i : Nat) (previous : ChannelState)
  | channelClose (i : Nat) (k : CloseFor)
  | closeAck (i : Nat)
  | openAccept (i : Nat)
  | openReject
  | openRejectAsync
  | channelResult (requestID : Nat)
  | channelReject (i requestID : Nat)
  | globalResult (requestID : Nat)
  | globalReject (requestID : Nat)
  | disconnect (d : Down)

/-- Program counters, grouped by the function they lie in. -/
inductive Pc where
  | start
  | exited
  | done (r : Ret)
  -- sendEnvelopeAfter, enqueueWrite
  | ensure (w : Nat) (c : SendCtx) (k : Cont)
  | reserve (w : Nat) (m : Mode) (k : Cont)
  | push (w : Nat) (m : Mode) (k : Cont)
  | await (w : Nat) (c : SendCtx) (k : Cont)
  -- shutdown
  | shutdown (e : Option Err) (k : AfterShutdown)
  | shutCancel (d : Down)
  | shutChannels (d : Down)
  | shutGlobals (d : Down)
  | shutQueues (d : Down)
  -- receiverLoop, routeEnvelope
  | recv
  | inOpen (m : ChannelOpen)
  | inOpenAdd (i : Nat) (m : ChannelOpen)
  | inOpenReserve (i : Nat) (m : ChannelOpen)
  | inOpenQueue (i : Nat) (m : ChannelOpen)
  | inOpenRemove (i : Nat) (m : ChannelOpen)
  | inOpenShut (i : Nat) (m : ChannelOpen)
  | inOpenResult (i : Nat) (res : OpenResult)
  | inActivate (i : Nat)
  | inStart (i : Nat)
  | inRejectRemove (i : Nat) (e : Err)
  | inRejectShut (i : Nat) (e : Err)
  | inData (i : Nat) (data : Bytes)
  | inAdjust (i : Nat) (n : Nat)
  | inEof (i : Nat)
  | inClose (i : Nat)
  | inCloseRemove (i : Nat)
  | inRequest (i : Nat) (m : RequestMsg)
  | inRequestFinish (i requestID : Nat) (e : Err)
  | inResult (i requestID : Nat) (res : OpResult)
  | inResultRelease (i requestID : Nat) (res : OpResult)
  | inGlobal (m : GlobalMsg)
  | inGlobalReserve (m : GlobalMsg)
  | inGlobalQueue (m : GlobalMsg)
  | inGlobalFinish (requestID : Nat) (e : Err)
  | inGlobalResult (requestID : Nat) (res : OpResult)
  -- dispatchLoop
  | disp
  | dispRelease (task : DispatchTask)
  | admitLookup (m : ChannelOpen)
  | admitDecide (i : Nat) (m : ChannelOpen)
  | admitAbort (i : Nat) (e : Err)
  | admitAbortShut (i : Nat) (e : Err)
  | admitReject (i : Nat) (m : ChannelOpen) (d : Response)
  | admitRejectShut (i : Nat) (m : ChannelOpen) (d : Response)
  | admitAccept (i : Nat) (m : ChannelOpen) (d : Response)
  | admitActivate (i : Nat) (m : ChannelOpen) (d : Response)
  | handleGlobal (m : GlobalMsg)
  | globalFinish (requestID : Nat) (e : Option Err)
  -- writerLoop; the flags say which of its two queue variables are still non-nil
  | select (c o : Bool)
  | selectBoth (c o : Bool)
  | popped (w : Nat) (c o : Bool)
  | claim (w : Nat) (c o : Bool)
  | skip (w : Nat) (c o : Bool)
  | sending (w : Nat) (c o : Bool)
  | written (w : Nat) (e : Option Err) (c o : Bool)
  | report (w : Nat) (e : Option Err) (c o : Bool)
  -- Channel.loop
  | work
  | workRelease (ev : ChannelEvent)
  | workRequest (m : RequestMsg)
  | workRespond (m : RequestMsg) (peerID : Nat) (w : Option Nat)
  | workFinish (requestID : Nat) (e : Option Err)
  | workClose
  | workClosed (cancelNow : Bool)
  -- awaitCloseTimeout
  | timeoutRemove
  -- OpenChannelWithHandler, abandonOpen
  | openReserve (typ : String) (payload : Bytes)
  | openAdd (i : Nat) (typ : String) (payload : Bytes)
  | openSend (i : Nat) (typ : String) (payload : Bytes)
  | openRemove (i : Nat) (typ : String) (payload : Bytes) (e : Err)
  | openShut (i : Nat) (typ : String) (payload : Bytes) (e : Err)
  | openWait (i : Nat) (typ : String) (payload : Bytes) (waitCh : Bool)
  | abandon (i : Nat) (typ : String) (payload : Bytes) (e : Err)
  -- SendGlobalRequest
  | globalNew (typ : String) (payload : Bytes) (wantReply : Bool)
  | globalWait (requestID : Nat) (typ : String) (payload : Bytes)
  | globalDrop (requestID : Nat) (typ : String) (payload : Bytes) (e : Err)
  -- Send, Recv
  | sendLoop (i : Nat) (frame : Bytes)
  | sendWait (i : Nat) (frame : Bytes) (gen : Nat)
  | sendRefund (i : Nat) (frame : Bytes) (w : Nat) (e : Err)
  | recvLoop (i : Nat)
  | recvWait (i : Nat) (gen : Nat)
  | recvCancel (i : Nat)
  -- SendRequest
  | requestLock (i : Nat) (typ : String) (payload : Bytes) (wantReply : Bool)
  | requestWait (i requestID : Nat) (typ : String) (payload : Bytes)
  | requestDrop (i requestID : Nat) (typ : String) (payload : Bytes) (e : Option Err)
  | requestRelease (i requestID : Nat) (typ : String) (payload : Bytes) (e : Option Err)
  | requestError (i requestID : Nat) (typ : String) (payload : Bytes)
  -- CloseWrite, Close
  | closeWrite (i : Nat)
  | closeWriteUndo (i : Nat) (previous : ChannelState) (w : Nat) (e : Err)
  | close (i : Nat) (k : CloseFor)
  | closeRemove (i : Nat) (k : CloseFor)
  | closeShut (i : Nat) (k : CloseFor)
  | closeArm (i : Nat) (k : CloseFor)

def Pc.gone : Pc → Bool
  | .exited => true
  | _ => false

/-! ## 5. Events -/

/-- What a step lets an observer of the session see. -/
inductive Event where
  | received (env : Envelope)
  | routed
  | routeFailed (e : Err)
  | enqueued (w : Nat)
  | wrote (w : Nat) (env : Envelope)
  | incoming (i : Nat) (m : ChannelOpen)
  | answered (i : Nat) (a : ChannelOpenAccept)
  | channelOpened (i peerID localWindow remoteWindow maxLocalPacket maxRemotePacket : Nat)
  | onChannelOpen (i : Nat) (m : ChannelOpen) (d : Response)
  | onRequest (i : Nat) (m : RequestMsg) (r : Response)
  | onGlobalRequest (m : GlobalMsg) (r : Response)
  | onOpen (i : Nat)
  | onEOF (i : Nat)
  | onClose (i : Nat)
  | accepted (i : Nat) (data : Bytes)
  | adjusted (i n : Nat)
  | recvFrame (i : Nat) (data : Bytes)
  | recvEOF (i : Nat)
  | closeCalled (i : Nat)
  | closeProcessed (i : Nat)
  deriving DecidableEq, Repr

/-- The outcome of a section: the new state, the goroutine's next counter, and the events. -/
structure Out where
  sess : Session
  pc : Pc
  events : List Event

end Mygosh.Mux

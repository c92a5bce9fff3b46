/-
  File:      Mygosh/Session/Enqueue.lean
  Subject:   The choices a step leaves open, `sendEnvelope` with `enqueueWrite`, and `shutdown`.

  A section is a function from the session to an `Out`: the session after it, the counter of the
  goroutine after it, and what it made visible. Where a goroutine can block or a `select` has
  several ready branches the section takes a `Choice` and returns an `Option`.
-/
import Mygosh.Session.Ops

namespace Mygosh.Mux

/-! ## 1. Choices -/

/-- The calls an application makes. -/
inductive Api where
  | openChannel (typ : String) (payload : Bytes)
  | sendGlobalRequest (typ : String) (payload : Bytes) (wantReply : Bool)
  | send (i : Nat) (frame : Bytes)
  | recv (i : Nat)
  | sendRequest (i : Nat) (typ : String) (payload : Bytes) (wantReply : Bool)
  | closeWrite (i : Nat)
  | close (i : Nat)
  | sessionClose
  deriving DecidableEq, Repr

/-- What a step leaves open: the only way on (`go`), the call that is made, the frame or the end
    of the stream that is read, the ready branch of a `select`, the outcome of a write, the
    answer of a handler, the next key of a `range` over a map. -/
inductive Choice where
  | go
  | api (a : Api)
  | frame (env : Envelope)
  | eof
  | readErr
  | result
  | ctxDone
  | sessDone
  | chanDone
  | wake
  | control
  | outbound
  | ok
  | fail
  | answer (r : Response)
  | pick (i : Nat)
  | activate
  | parentCancel (n : Nat)
  deriving DecidableEq, Repr

namespace Session

/-! ## 2. `sendEnvelopeAfter` and `enqueueWrite` -/

/-- `routeEnvelope` returned nil: the receiver reads the next frame. -/
def routed (s : Session) : Out := ⟨s, .recv, [.routed]⟩

/-- `routeEnvelope` returned an error: `shutdown`, and the receiver ends. -/
def routeFailed (s : Session) (e : Err) : Out := ⟨s, .shutdown (some e) .exit, [.routeFailed e]⟩

/-- The result of an `OpenChannel` that gave up, or nil from `Close` itself. -/
def closeRet (i : Nat) (e : Option Err) : CloseFor → Ret
  | .api => .close i e
  | .abandoned typ payload e' => .openChannel typ payload (.error e')

/-- Where the caller of `sendEnvelope` goes on when write `w` has ended with error `e`. -/
def contPc (w : Nat) : Option Err → Cont → Pc
  | some e, .openChannel i typ p _ => .openRemove i typ p e
  | none, .openChannel i typ p wc => .openWait i typ p wc
  | some e, .globalRequest q typ p want =>
    if want then .globalDrop q typ p e else .done (.globalRequest typ p (some q) (.error e))
  | none, .globalRequest q typ p want =>
    if want then .globalWait q typ p else .done (.globalRequest typ p (some q) (.ok none))
  | some e, .channelData i frame => .sendRefund i frame w e
  | none, .channelData i frame => .done (.send i frame (some w) none)
  | some e, .windowAdjust i frame => .shutdown (some (.sendAdjust e)) (.ret (.recv i (.ok frame)))
  | none, .windowAdjust i frame => .done (.recv i (.ok frame))
  | some e, .channelRequest i q typ p want =>
    if want then .requestDrop i q typ p (some e)
    else .done (.request i typ p (some q) (.error e))
  | none, .channelRequest i q typ p want =>
    if want then .requestWait i q typ p else .done (.request i typ p (some q) (.ok none))
  | some e, .channelEof i previous => .closeWriteUndo i previous w e
  | none, .channelEof i _ => .done (.closeWrite i none)
  | some e, .channelClose i k => .shutdown (some (.enqueueClose e)) (.ret (closeRet i (some e) k))
  | none, .channelClose i k => .closeArm i k
  | some e, .closeAck _ => .shutdown (some (.enqueueCloseAck e)) .exit
  | none, .closeAck i => .inCloseRemove i
  | some e, .openAccept i => .admitAbort i e
  | none, .openAccept _ => .disp
  | some e, .openReject => .shutdown (some e) .exit
  | none, .openReject => .disp
  | some e, .openRejectAsync => .shutdown (some e) .exit
  | none, .openRejectAsync => .recv
  | e, .channelResult q => .workFinish q e
  | some e, .channelReject i q => .inRequestFinish i q e
  | none, .channelReject _ _ => .recv
  | e, .globalResult q => .globalFinish q e
  | some e, .globalReject q => .inGlobalFinish q e
  | none, .globalReject _ => .recv
  | _, .disconnect d => .shutCancel d

/-- The receiver is in `routeEnvelope` while it enqueues an answer of its own. -/
def contEvents : Option Err → Cont → List Event
  | some e, .closeAck _ => [.routeFailed (.enqueueCloseAck e)]
  | some e, .openRejectAsync => [.routeFailed e]
  | none, .openRejectAsync => [.routed]
  | none, .channelReject _ _ => [.routed]
  | none, .globalReject _ => [.routed]
  | _, _ => []

def resume (s : Session) (w : Nat) (e : Option Err) (k : Cont) : Out :=
  ⟨s, contPc w e k, contEvents e k⟩

/-- The `ensureActive` of `sendEnvelopeAfter`. -/
def ensure (s : Session) (w : Nat) (c : SendCtx) (k : Cont) : Out :=
  match s.ensureActive with
  | some e => (s.dropWrite w).resume w (some e) k
  | none => ⟨s, .reserve w (.sync c) k, []⟩

/-- `enqueueWrite`, first section: the budget. -/
def reserve (cfg : Config) (s : Session) (w : Nat) (m : Mode) (k : Cont) : Out :=
  match s.budget.reserveQueueBudget cfg.limits 1 (s.writes w).size with
  | none => (s.dropWrite w).resume w (some .resourceLimit) k
  | some b => ⟨{ s with budget := b }, .push w m k, []⟩

/-- The state with write `w` at the end of its queue. -/
def enqueued (s : Session) (w : Nat) : Mode → Session
  | .sync _ =>
    { s.setWrite w { s.writes w with place := .outbound } with
      outboundQueue := s.outboundQueue ++ [w] }
  | .async =>
    { s.setWrite w { s.writes w with place := .control } with
      controlQueue := s.controlQueue ++ [w] }

/-- `enqueueWrite`, second section (`queueMu`). A queue has room for `MaxQueuedFramesTotal`. -/
def push (cfg : Config) (s : Session) (w : Nat) (m : Mode) (k : Cont) : Out :=
  let freed : Session := { s with budget := s.budget.releaseQueueBudget 1 (s.writes w).size }
  let queue := match m with
    | .sync _ => s.outboundQueue
    | .async => s.controlQueue
  if s.queuesClosed then (freed.dropWrite w).resume w (some s.closeCause) k
  else if queue.length < cfg.limits.maxQueuedFramesTotal then
    let s1 := s.enqueued w m
    match m with
    | .sync c => ⟨s1, .await w c k, [.enqueued w]⟩
    | .async =>
      let o := s1.resume w none k
      { o with events := .enqueued w :: o.events }
  else
    let full : Session := { freed with late := s.late ++ [some .outboundExhausted] }
    (full.dropWrite w).resume w (some .outboundExhausted) k

/-- The write is claimed by its own caller, so that the writer will skip it. -/
def cancelWrite (s : Session) (w : Nat) : Session :=
  s.setWrite w { s.writes w with state := .writeCanceled }

/-- The `select` of `sendEnvelopeAfter`. A context branch whose compare-and-swap fails goes
    round the loop and changes nothing. -/
def await (s : Session) (w : Nat) (c : SendCtx) (k : Cont) : Choice → Option Out
  | .result => (s.writes w).result.map fun e => s.resume w e k
  | .ctxDone =>
    match s.ctxDone c with
    | some e =>
      if (s.writes w).state = .writeQueued then some ((s.cancelWrite w).resume w (some e) k)
      else none
    | none => none
  | .sessDone =>
    if s.ctxErr.isSome ∧ (s.writes w).state = .writeQueued then
      some ((s.cancelWrite w).resume w (some s.closeCause) k)
    else none
  | _ => none

/-! ## 3. `shutdown` -/

/-- Where the caller of `shutdown` goes on. -/
def downPc : AfterShutdown → Pc
  | .exit => .exited
  | .ret r => .done r

/-- The first section of `shutdown` (`mu`): the tables are emptied. -/
def shutdownTables (s : Session) (closeErr : Err) : Session :=
  { s with
    closeErr := some closeErr
    closing := true
    pendingGlobal := []
    incomingGlobalRequests := []
    channels := []
    peerChannelIDs := []
    activeChannels := 0
    pendingOpens := 0
    pendingChannelRequests := 0 }

/-- `shutdown`: `shutdownOnce` lets one caller through; the others wait for it. -/
def shutdown (s : Session) (t : Tid) (cause : Option Err) (k : AfterShutdown) : Option Out :=
  if s.closing = false then
    let closeErr := cause.getD .sessionClosed
    let d : Down := ⟨cause, closeErr, s.channels, s.pendingGlobal, k⟩
    let s1 := s.shutdownTables closeErr
    if closeErr.isProtocol then
      some ⟨s1.addWrite t none false (.disconnect "protocol-error" "protocol error") .nothing,
        .reserve s.nextWrite .async (.disconnect d), []⟩
    else some ⟨s1, .shutCancel d, []⟩
  else if s.shutDone then some ⟨s, downPc k, []⟩
  else none

/-- `s.cancel(closeErr)`. -/
def shutCancel (s : Session) (d : Down) : Out :=
  ⟨{ s with ctxErr := s.ctxErr.or (some d.closeErr) }, .shutChannels d, []⟩

/-- The loop over the channels; a map is ranged over in any order. -/
def shutChannels (s : Session) (d : Down) : Choice → Option Out
  | .pick i =>
    if i ∈ d.chans then
      some ⟨s.channelShutdown i d.closeErr,
        .shutChannels { d with chans := d.chans.filter (· ≠ i) }, []⟩
    else none
  | .go => if d.chans = [] then some ⟨s, .shutGlobals d, []⟩ else none
  | _ => none

/-- The pending global requests fail. -/
def shutGlobals (s : Session) (d : Down) : Out :=
  ⟨{ s with globalReplies := fun q =>
      if q ∈ d.globals ∧ s.globalReplies q = none then some (.err d.closeErr)
      else s.globalReplies q }, .shutQueues d, []⟩

/-- The queues are closed, `finalize` is started, and `shutdownOnce` returns. -/
def shutQueues (s : Session) (d : Down) : Out :=
  ⟨{ s with queuesClosed := true, finalizing := true, shutDone := true }, downPc d.k, []⟩

end Session

end Mygosh.Mux

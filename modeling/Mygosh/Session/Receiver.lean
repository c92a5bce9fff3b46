/-
  File:      Mygosh/Session/Receiver.lean
  Subject:   The receiver: `receiverLoop`, `routeEnvelope` and the handlers it calls, each cut
             at its locks.
-/
import Mygosh.Session.Enqueue

namespace Mygosh.Mux

namespace Session

/-! ## 1. The receiver: `routeEnvelope` up to its first section -/

/-- The lookup every channel frame starts with. -/
def lookup (s : Session) (i : Nat) (unknown : ProtocolError) (found : Pc) : Out :=
  if i ∈ s.channels then ⟨s, found, []⟩ else s.routeFailed (.protocol unknown)

def routeEnvelope (cfg : Config) (s : Session) : Envelope → Out
  | .channelOpen m =>
    match validateTypeAndPayload cfg.limits m.channelType m.payload with
    | some e => s.routeFailed (.protocol (.invalidChannelOpen e))
    | none => ⟨s, .inOpen m, []⟩
  | .channelOpenResult i res => s.lookup i (.openResultUnknownChannel i) (.inOpenResult i res)
  | .channelData i data =>
    if i ∈ s.channels ∧ data = [] then s.routeFailed (.protocol (.emptyData i))
    else s.lookup i (.dataUnknownChannel i) (.inData i data)
  | .channelWindowAdjust i n => s.lookup i (.adjustUnknownChannel i) (.inAdjust i n)
  | .channelEof i => s.lookup i (.eofUnknownChannel i) (.inEof i)
  | .channelClose i => s.lookup i (.closeUnknownChannel i) (.inClose i)
  | .channelRequest m =>
    match validateTypeAndPayload cfg.limits m.requestType m.payload with
    | some e => s.routeFailed (.protocol (.invalidChannelRequest e))
    | none => s.lookup m.recipientChannelID (.requestUnknownChannel m.recipientChannelID)
        (.inRequest m.recipientChannelID m)
  | .channelResult i q res => s.lookup i (.resultUnknownChannel i) (.inResult i q res)
  | .globalRequest m =>
    match validateTypeAndPayload cfg.limits m.requestType m.payload with
    | some e => s.routeFailed (.protocol (.invalidGlobalRequest e))
    | none => ⟨s, .inGlobal m, []⟩
  | .globalResult q res => ⟨s, .inGlobalResult q res, []⟩
  | .disconnect code message =>
    match validateResponse cfg.limits code message [] with
    | some e => s.routeFailed (.protocol (.invalidDisconnect e))
    | none => s.routeFailed (.remoteDisconnect code message)
  | .unset => s.routeFailed (.protocol .unsupportedFrame)

/-- `receiverLoop`: read a frame the schema admits, or the end of the connection. -/
def receive (cfg : Config) (s : Session) : Choice → Option Out
  | .frame env =>
    if env.valid ∧ s.connClosed = false then
      let o := s.routeEnvelope cfg env
      some { o with events := .received env :: o.events }
    else none
  | .eof => some ⟨s, .shutdown none .exit, []⟩
  | .readErr =>
    if s.ctxErr.isSome then some ⟨s, .shutdown (some s.closeCause) .exit, []⟩
    else some ⟨s, .shutdown (some .receiveFrame) .exit, []⟩
  | _ => none

/-! ## 2. `enqueueIncomingOpen` -/

/-- The session with the channel `c` under the next local id. -/
def channelMade (s : Session) (c : Channel) : Session :=
  { s.setChan s.nextLocalChannelID c with nextLocalChannelID := s.nextLocalChannelID + 1 }

/-- `reserveLocalChannelID`, and the channel that is made with the id. -/
def reserveLocalChannelID (s : Session) (c : Channel) : Except Err Session :=
  if s.nextLocalChannelID = maxUint64 then .error .channelIDsExhausted
  else .ok (s.channelMade c)

def inOpen (cfg : Config) (s : Session) (m : ChannelOpen) : Out :=
  match s.reserveLocalChannelID (newIncomingChannel cfg m) with
  | .error e => s.routeFailed e
  | .ok s1 => ⟨s1, .inOpenAdd s.nextLocalChannelID m, [.incoming s.nextLocalChannelID m]⟩

/-- `sendChannelOpenRejectAsync`, up to `enqueueWrite`. -/
def rejectOpenAsync (s : Session) (t : Tid) (peerID : Nat) (message : String) : Out :=
  ⟨s.addWrite t none false (.channelOpenResult peerID (.reject (resourceReject message))) .nothing,
    .reserve s.nextWrite .async .openRejectAsync, []⟩

def inOpenAdd (cfg : Config) (s : Session) (t : Tid) (i : Nat) (m : ChannelOpen) : Out :=
  match s.addPendingChannel cfg.limits i (some m.senderChannelID) with
  | .error .resourceLimit => s.rejectOpenAsync t m.senderChannelID "channel limit reached"
  | .error e => s.routeFailed e
  | .ok s1 => ⟨s1, .inOpenReserve i m, []⟩

/-- `enqueueDispatch`, first section. -/
def inOpenReserve (cfg : Config) (s : Session) (i : Nat) (m : ChannelOpen) : Out :=
  match s.budget.reserveQueueBudget cfg.limits 1 (DispatchTask.channelOpen m).size with
  | none => ⟨s, .inOpenRemove i m, []⟩
  | some b => ⟨{ s with budget := b }, .inOpenQueue i m, []⟩

/-- `enqueueDispatch`, the send on the queue. -/
def inOpenQueue (cfg : Config) (s : Session) (i : Nat) (m : ChannelOpen) : Out :=
  if s.dispatchQueue.length < cfg.limits.maxQueuedFramesTotal then
    routed { s with dispatchQueue := s.dispatchQueue ++ [.channelOpen m] }
  else
    ⟨{ s with budget := s.budget.releaseQueueBudget 1 (DispatchTask.channelOpen m).size },
      .inOpenRemove i m, []⟩

/-- A task that found no room: the channel goes, and the peer is told. -/
def inOpenShut (s : Session) (t : Tid) (i : Nat) (m : ChannelOpen) : Out :=
  (s.channelShutdown i .resourceLimit).rejectOpenAsync t m.senderChannelID
    "channel queue limit reached"

/-! ## 3. `handleChannelOpenResult` -/

/-- The fields an accepted open fills in. -/
def openedChannel (cfg : Config) (c : Channel) (a : ChannelOpenAccept) : Channel :=
  { c with
    openWait := false
    peerID := a.senderChannelID
    localWindow := cfg.initialWindow
    remoteWindow := a.initialWindow
    maxLocalPacket := cfg.maxPacketSize
    maxRemotePacket := a.maxPacketSize
    state := .channelOpen
    gen := c.gen + 1 }

/-- The section under the channel's lock, with `reservePeerChannelID` inside it. -/
def inOpenResult (cfg : Config) (s : Session) (i : Nat) (res : OpenResult) : Out :=
  let c := s.chan i
  if c.state ≠ .channelOpening ∨ c.openWait = false then
    s.routeFailed (.protocol (.duplicateOpenResult i))
  else
    let s1 := s.setChan i { c with openWait := false }
    match res with
    | .success a =>
      if toU32 a.payload.length > cfg.limits.maxControlPayload then
        s1.routeFailed (.protocol .openResultPayload)
      else if a.senderChannelID ∈ s.peerIDs then
        s1.routeFailed (.protocol (.duplicatePeerChannel a.senderChannelID))
      else
        ⟨{ s.setChan i (openedChannel cfg c a) with
            peerChannelIDs := (a.senderChannelID, i) :: s.peerChannelIDs },
          .inActivate i,
          [.answered i a, .channelOpened i a.senderChannelID cfg.initialWindow a.initialWindow
            cfg.maxPacketSize a.maxPacketSize]⟩
    | .reject r =>
      match validateResponse cfg.limits r.code r.message r.payload with
      | some e => s1.routeFailed (.protocol (.invalidOpenRejection e))
      | none =>
        ⟨s.setChan i { c with openWait := false, state := .channelFailed, gen := c.gen + 1 },
          .inRejectRemove i (.openRejected r.message), []⟩
    | .unset => s1.routeFailed (.protocol (.invalidOpenResult i))

def inActivate (s : Session) (i : Nat) : Out :=
  match s.activateChannel i with
  | .error e => s.routeFailed e
  | .ok s1 => ⟨s1, .inStart i, []⟩

/-- A value for the waiting `OpenChannel`. -/
def putOpenResult (s : Session) (i : Nat) (e : Option Err) : Session :=
  s.setChan i { s.chan i with openResult := (s.chan i).openResult.or (some e) }

def startChannelWorker (s : Session) (i : Nat) : Session :=
  s.setChan i { s.chan i with workerStarted := true }

/-! ## 4. Data, windows, EOF and close from the peer -/

/-- `handleChannelData`, under the channel's lock. -/
def inData (cfg : Config) (s : Session) (i : Nat) (data : Bytes) : Out :=
  let c := s.chan i
  let size := toU32 data.length
  if c.state.canReceiveData = false then s.routeFailed (.protocol (.dataInState i c.state))
  else if size > c.maxLocalPacket then
    s.routeFailed (.protocol (.exceededMaxPacket i size c.maxLocalPacket))
  else if size > c.localWindow then
    s.routeFailed (.protocol (.exceededWindow i size c.localWindow))
  else match s.budget.reserveQueuedLocked cfg.limits i 1 size with
    | none => s.routeFailed .resourceLimit
    | some b =>
      ⟨({ s with budget := b } : Session).setChan i { c with
          localWindow := subU32 c.localWindow size
          frames := c.frames ++ [data]
          gen := c.gen + 1 },
        .recv, [.accepted i data, .routed]⟩

/-- `handleChannelWindowAdjust`, under the channel's lock. -/
def inAdjust (s : Session) (i n : Nat) : Out :=
  let c := s.chan i
  if c.state.allowsRequests = false then s.routeFailed (.protocol (.adjustInState i c.state))
  else if subU32 maxUint32 c.remoteWindow < n then
    s.routeFailed (.protocol (.remoteWindowOverflow i))
  else
    ⟨s.setChan i { c with remoteWindow := addU32 c.remoteWindow n, gen := c.gen + 1 },
      .recv, [.adjusted i n, .routed]⟩

/-- The session with event `ev` queued for the worker of channel `i`. -/
def eventPut (s : Session) (b : Budget) (i : Nat) (c : Channel) (ev : ChannelEvent) : Session :=
  { s with
    budget := b
    chan := Function.update s.chan i { c with events := c.events ++ [ev] } }

/-- An event for the channel's worker; `none` is `errResourceLimit`. -/
def putEvent (cfg : Config) (s : Session) (i : Nat) (c : Channel) (ev : ChannelEvent) :
    Option Session :=
  match s.budget.reserveQueuedLocked cfg.limits i 1 ev.size with
  | none => none
  | some b =>
    if c.events.length < cfg.limits.maxQueuedFramesPerChannel then some (s.eventPut b i c ev)
    else none

/-- The session when an event found no room: where only the queue was full, the budget it was
    reserved in has been given back. -/
def eventRefused (cfg : Config) (s : Session) (i : Nat) (c : Channel) (ev : ChannelEvent) :
    Session :=
  { s with
    budget := match s.budget.reserveQueuedLocked cfg.limits i 1 ev.size with
      | none => s.budget
      | some b => b.releaseQueuedLocked i 1 ev.size
    chan := Function.update s.chan i c }

/-- `enqueueChannelEOF`, under the channel's lock. -/
def inEof (cfg : Config) (s : Session) (i : Nat) : Out :=
  let c := s.chan i
  let onward (state : ChannelState) : Out :=
    let c1 := { c with state := state, gen := c.gen + 1 }
    match s.putEvent cfg i c1 .eof with
    | some s1 => s1.routed
    | none => (s.eventRefused cfg i c1 .eof).routeFailed .resourceLimit
  match c.state with
  | .channelOpen => onward .channelRemoteEOF
  | .channelLocalEOF => onward .channelBothEOF
  | .channelRemoteEOF | .channelBothEOF => s.routeFailed (.protocol (.duplicateEOF i))
  | state => s.routeFailed (.protocol (.eofInState i state))

/-- `enqueueChannelClose`, under the channel's lock. -/
def inClose (cfg : Config) (s : Session) (t : Tid) (i : Nat) : Out :=
  let c := s.chan i
  let c1 := { c with state := .channelClosed, gen := c.gen + 1 }
  match c.state with
  | .channelClosing => ⟨s.setChan i c1, .inCloseRemove i, []⟩
  | .channelOpen | .channelLocalEOF | .channelRemoteEOF | .channelBothEOF =>
    match s.putEvent cfg i c1 .close with
    | some s1 =>
      ⟨s1.addWrite t (some i) false (.channelClose c.peerID) .nothing,
        .reserve s.nextWrite .async (.closeAck i), []⟩
    | none => (s.eventRefused cfg i c1 .close).routeFailed .resourceLimit
  | .channelOpening => s.routeFailed (.protocol (.closeBeforeOpen i))
  | state => s.routeFailed (.protocol (.duplicateClose i state))

def inCloseRemove (s : Session) (i : Nat) : Out :=
  ⟨s.removeChannel i, .recv, [.closeProcessed i, .routed]⟩

/-! ## 5. Requests and results from the peer -/

/-- `finishIncomingRequest` of a request that wanted a reply. -/
def finishIncomingRequest (s : Session) (i q : Nat) : Session :=
  s.setChan i { s.chan i with
    incomingRequestIDs := (s.chan i).incomingRequestIDs.filter (· ≠ q) }

/-- `finishIncomingGlobal` of a request that wanted a reply. -/
def finishIncomingGlobal (s : Session) (q : Nat) : Session :=
  { s with incomingGlobalRequests := s.incomingGlobalRequests.filter (· ≠ q) }

/-- `enqueueChannelRequest`, under the channel's lock. The two ways a limit can refuse the event
    differ in the budget only. -/
def inRequest (cfg : Config) (s : Session) (t : Tid) (i : Nat) (m : RequestMsg) : Out :=
  let c := s.chan i
  if c.state.allowsRequests = false then s.routeFailed (.protocol (.requestInState i c.state))
  else if m.wantReply ∧ m.requestID ∈ c.incomingRequestIDs then
    s.routeFailed (.protocol (.duplicateRequest m.requestID i))
  else
    let c1 := if m.wantReply then
        { c with incomingRequestIDs := c.incomingRequestIDs.insert m.requestID } else c
    match s.putEvent cfg i c1 (.request m) with
    | some s1 => s1.routed
    | none =>
      let s1 := s.eventRefused cfg i c1 (.request m)
      if m.wantReply then
        ⟨s1.addWrite t (some i) false
            (.channelResult c.peerID m.requestID
              (.reject (resourceReject "channel request queue limit reached")))
            (.finishRequest i m.requestID),
          .reserve s.nextWrite .async (.channelReject i m.requestID), []⟩
      else s1.routeFailed .resourceLimit

/-- What a result says to its waiter; an error is a protocol error. -/
def decodeResult (lim : Limits) (res : OpResult) (tooLong invalid : ProtocolError)
    (rejection : LimitError → ProtocolError) : Except ProtocolError Response :=
  match res with
  | .success payload =>
    if toU32 payload.length > lim.maxControlPayload then .error tooLong
    else .ok ⟨true, payload, "", ""⟩
  | .reject r =>
    match validateResponse lim r.code r.message r.payload with
    | some e => .error (rejection e)
    | none => .ok ⟨false, r.payload, r.code, r.message⟩
  | .unset => .error invalid

/-- `handleChannelResult`, under the channel's lock. -/
def inResult (s : Session) (i q : Nat) (res : OpResult) : Out :=
  let c := s.chan i
  if q ∈ c.pendingRequests then
    ⟨s.setChan i { c with pendingRequests := c.pendingRequests.filter (· ≠ q) },
      .inResultRelease i q res, []⟩
  else s.routeFailed (.protocol (.resultUnknownRequest q i))

/-- `releasePendingChannelRequest`, then the waiter gets its result. -/
def inResultRelease (cfg : Config) (s : Session) (i q : Nat) (res : OpResult) : Out :=
  let s1 : Session := { s with pendingChannelRequests := s.pendingChannelRequests - 1 }
  match decodeResult cfg.limits res .resultPayload (.invalidResult q i) .invalidRejection with
  | .error e => s1.routeFailed (.protocol e)
  | .ok r =>
    (s1.setChan i { s.chan i with
      replies := Function.update (s.chan i).replies q
        (((s.chan i).replies q).or (some (.response r))) }).routed

/-- `enqueueGlobalRequest`, the duplicate test. -/
def inGlobal (s : Session) (m : GlobalMsg) : Out :=
  if m.wantReply then
    if m.requestID ∈ s.incomingGlobalRequests then
      s.routeFailed (.protocol (.duplicateGlobalRequest m.requestID))
    else ⟨{ s with incomingGlobalRequests := s.incomingGlobalRequests.insert m.requestID },
      .inGlobalReserve m, []⟩
  else ⟨s, .inGlobalReserve m, []⟩

/-- A global request that found no room. -/
def refuseGlobal (s : Session) (t : Tid) (m : GlobalMsg) : Out :=
  if m.wantReply then
    ⟨s.addWrite t none false
        (.globalResult m.requestID (.reject (resourceReject "global request queue limit reached")))
        (.finishGlobal m.requestID),
      .reserve s.nextWrite .async (.globalReject m.requestID), []⟩
  else s.routeFailed .resourceLimit

def inGlobalReserve (cfg : Config) (s : Session) (t : Tid) (m : GlobalMsg) : Out :=
  match s.budget.reserveQueueBudget cfg.limits 1 (DispatchTask.globalRequest m).size with
  | none => s.refuseGlobal t m
  | some b => ⟨{ s with budget := b }, .inGlobalQueue m, []⟩

def inGlobalQueue (cfg : Config) (s : Session) (t : Tid) (m : GlobalMsg) : Out :=
  if s.dispatchQueue.length < cfg.limits.maxQueuedFramesTotal then
    routed { s with dispatchQueue := s.dispatchQueue ++ [.globalRequest m] }
  else
    refuseGlobal { s with budget :=
      s.budget.releaseQueueBudget 1 (DispatchTask.globalRequest m).size } t m

/-- `handleGlobalResult`. -/
def inGlobalResult (cfg : Config) (s : Session) (q : Nat) (res : OpResult) : Out :=
  if q ∈ s.pendingGlobal then
    let s1 : Session := { s with pendingGlobal := s.pendingGlobal.filter (· ≠ q) }
    match decodeResult cfg.limits res .globalResultPayload (.invalidGlobalResult q)
        .invalidGlobalRejection with
    | .error e => s1.routeFailed (.protocol e)
    | .ok r =>
      routed { s1 with
        globalReplies := Function.update s.globalReplies q
          ((s.globalReplies q).or (some (.response r))) }
  else s.routeFailed (.protocol (.globalResultUnknownRequest q))

end Session

end Mygosh.Mux

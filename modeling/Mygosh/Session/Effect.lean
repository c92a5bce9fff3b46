/-
  File:      Mygosh/Session/Effect.lean
  Subject:   What a step can do, said once: the rules of the session's step relation, and the
             theorem that `Session.exec` takes no other step.

  * `Moves` -- the goroutine goes on, the session stays as it is and nothing is visible;
  * `RouteFails` -- `routeEnvelope` returns an error and has changed nothing;
  * `Finds`, `Refuses` -- where a frame that has just been read is taken, or why it is not;
  * `Effect` -- all steps. A rule names the guard the section has tested and the session after
    it; every invariant is proved by going through these rules;
  * `effect_of_exec` -- the inversion of `Session.exec`.
-/
import Mygosh.Session.Step

namespace Mygosh.Mux

open Session

/-! ## 1. Steps that change nothing but the counter -/

section

variable (cfg : Config) (s : Session)

/-- A goroutine starts: a loop, an API call, or a `shutdown` in a goroutine of its own. -/
inductive Starts : Tid → Pc → Prop where
  | receiver : Starts .receiver .recv
  | dispatcher : Starts .dispatcher .disp
  | writer : Starts .writer (.select true true)
  | exit {t} : Starts t .exited
  | late {n e} (h : s.late[n]? = some e) : Starts (.late n) (.shutdown e .exit)
  | openFails {n typ p e} : Starts (.call n) (.done (.openChannel typ p (.error e)))
  | openReserve {n typ p} (h : validateTypeAndPayload cfg.limits typ p = none) :
      Starts (.call n) (.openReserve typ p)
  | globalFails {n typ p e} : Starts (.call n) (.done (.globalRequest typ p none (.error e)))
  | globalNew {n typ p want} (h : validateTypeAndPayload cfg.limits typ p = none) :
      Starts (.call n) (.globalNew typ p want)
  | sendFails {n i frame e} : Starts (.call n) (.done (.send i frame none (some e)))
  | sendLoop {n i frame} (hh : (s.chan i).handed = true) (hne : frame ≠ [])
      (hle : frame.length ≤ maxUint32) : Starts (.call n) (.sendLoop i frame)
  | recvLoop {n i} (hh : (s.chan i).handed = true) : Starts (.call n) (.recvLoop i)
  | requestFails {n i typ p e} : Starts (.call n) (.done (.request i typ p none (.error e)))
  | requestLock {n i typ p want} (hh : (s.chan i).handed = true)
      (h : validateTypeAndPayload cfg.limits typ p = none) :
      Starts (.call n) (.requestLock i typ p want)
  | closeWrite {n i} (hh : (s.chan i).handed = true) : Starts (.call n) (.closeWrite i)
  | close {n i} (hh : (s.chan i).handed = true) : Starts (.call n) (.close i .api)
  | sessionClose {n} : Starts (.call n) (.shutdown (some .canceled) (.ret .sessionClose))

/-- The goroutine goes on, the session stays as it is, and nothing is visible. -/
inductive Moves (t : Tid) : Pc → Pc → Prop where
  | start {pc} (h : Starts cfg s t pc) : Moves t .start pc
  | ensured {w x k} (h : s.ensureActive = none) : Moves t (.ensure w x k) (.reserve w (.sync x) k)
  | shutdownOver {e k} (hc : s.closing = true) (h : s.shutDone = true) :
      Moves t (.shutdown e k) (downPc k)
  | channelsOver {d} (h : d.chans = []) : Moves t (.shutChannels d) (.shutGlobals d)
  | eof : Moves t .recv (.shutdown none .exit)
  | readErr {e} : Moves t .recv (.shutdown (some e) .exit)
  | inOpenNoRoom {i m} : Moves t (.inOpenReserve i m) (.inOpenRemove i m)
  | inGlobal {m} (h : m.wantReply = false) : Moves t (.inGlobal m) (.inGlobalReserve m)
  | dispExit : Moves t .disp .exited
  | admitFound {m i} (h : s.lookupChannelByPeer m.senderChannelID = some i) :
      Moves t (.admitLookup m) (.admitDecide i m)
  | admitGone {m} (h : s.lookupChannelByPeer m.senderChannelID = none) :
      Moves t (.admitLookup m)
        (.shutdown (some (.protocol (.pendingChannelDisappeared m.senderChannelID))) .exit)
  | admitChanged {i m d} (h : (s.chan i).state ≠ .channelOpening) :
      Moves t (.admitAccept i m d) (.shutdown (some (.protocol (.changedDuringAdmission i))) .exit)
  | admitNotPending {i m d e} (h : s.activateChannel i = .error e) :
      Moves t (.admitActivate i m d) (.shutdown (some e) .exit)
  | selectClosed {o} (hq : s.controlQueue = []) (h : s.queuesClosed = true) :
      Moves t (.select true o) (.select false o)
  | selectEmpty {c o} (hq : c = true → s.controlQueue = []) (h : c = true ∨ o = true) :
      Moves t (.select c o) (.selectBoth c o)
  | selectOver : Moves t (.select false false) .exited
  | controlClosed {o} (hq : s.controlQueue = []) (h : s.queuesClosed = true) :
      Moves t (.selectBoth true o) (.select false o)
  | outboundClosed {c} (hq : s.outboundQueue = []) (h : s.queuesClosed = true) :
      Moves t (.selectBoth c true) (.select c false)
  | claimFails {w c o} (h : (s.writes w).state ≠ .writeQueued) :
      Moves t (.claim w c o) (.skip w c o)
  | written {w e c o} (h : (s.writes w).after = .nothing ∨
        ∃ i, (s.writes w).after = .startWorker i ∧ e ≠ none) :
      Moves t (.written w e c o) (.report w e c o)
  | workExit : Moves t .work .exited
  | workRequest {i m} (ht : t = .worker i) (h : m.wantReply = false) :
      Moves t (.workRequest m) (.workRespond m (s.chan i).peerID none)
  | openReserveFails {typ p e} :
      Moves t (.openReserve typ p) (.done (.openChannel typ p (.error e)))
  | openAddFails {i typ p e} : Moves t (.openAdd i typ p) (.done (.openChannel typ p (.error e)))
  | openFailed {i typ p e} (h : (s.chan i).openResult = some (some e)) :
      Moves t (.openWait i typ p true) (.done (.openChannel typ p (.error e)))
  | openAbandon {i typ p wc e} : Moves t (.openWait i typ p wc) (.abandon i typ p e)
  | abandonOpened {i typ p e} (h : (s.chan i).state ≠ .channelOpening) :
      Moves t (.abandon i typ p e) (.close i (.abandoned typ p e))
  | globalExhausted {typ p want e} :
      Moves t (.globalNew typ p want) (.done (.globalRequest typ p none (.error e)))
  | globalReply {q typ p r} (h : s.globalReplies q = some (.response r)) :
      Moves t (.globalWait q typ p) (.done (.globalRequest typ p (some q) (.ok (some r))))
  | globalFailed {q typ p e} (h : s.globalReplies q = some (.err e)) :
      Moves t (.globalWait q typ p) (.done (.globalRequest typ p (some q) (.error e)))
  | globalLeave {q typ p e} : Moves t (.globalWait q typ p) (.globalDrop q typ p e)
  | sendFails {i frame e} : Moves t (.sendLoop i frame) (.done (.send i frame none (some e)))
  | sendBlocks {i frame} (hs : (s.chan i).state.canSendData = true)
      (hp : frame.length ≤ (s.chan i).maxRemotePacket)
      (h : (s.chan i).remoteWindow < toU32 frame.length) :
      Moves t (.sendLoop i frame) (.sendWait i frame (s.chan i).gen)
  | sendLeave {i frame gen e} :
      Moves t (.sendWait i frame gen) (.done (.send i frame none (some e)))
  | sendWake {i frame gen} (h : (s.chan i).gen ≠ gen) :
      Moves t (.sendWait i frame gen) (.sendLoop i frame)
  | refundLost {i frame w e} (h : subU32 maxUint32 (s.chan i).remoteWindow < toU32 frame.length) :
      Moves t (.sendRefund i frame w e) (.done (.send i frame (some w) (some e)))
  | recvClosed {i} (hf : (s.chan i).frames = []) (h : (s.chan i).state = .channelClosed) :
      Moves t (.recvLoop i) (.recvCancel i)
  | recvFails {i e} : Moves t (.recvLoop i) (.done (.recv i (.error e)))
  | recvBlocks {i} : Moves t (.recvLoop i) (.recvWait i (s.chan i).gen)
  | recvLeave {i gen e} : Moves t (.recvWait i gen) (.done (.recv i (.error e)))
  | recvWake {i gen} : Moves t (.recvWait i gen) (.recvLoop i)
  | requestFails {i typ p want e} :
      Moves t (.requestLock i typ p want) (.done (.request i typ p none (.error e)))
  | requestReply {i q typ p r} (h : (s.chan i).replies q = some (.response r)) :
      Moves t (.requestWait i q typ p) (.done (.request i typ p (some q) (.ok (some r))))
  | requestFailed {i q typ p e} (h : (s.chan i).replies q = some (.err e)) :
      Moves t (.requestWait i q typ p) (.done (.request i typ p (some q) (.error e)))
  | requestLeave {i q typ p e} : Moves t (.requestWait i q typ p) (.requestDrop i q typ p e)
  | requestGone {i q typ p e} (h : q ∉ (s.chan i).pendingRequests) :
      Moves t (.requestDrop i q typ p e) (droppedPc i q typ p e)
  | requestError {i q typ p e} :
      Moves t (.requestError i q typ p) (.done (.request i typ p (some q) (.error e)))
  | requestNoError {i q typ p} (h : s.channelErrorLocked i = none) :
      Moves t (.requestError i q typ p) (.done (.request i typ p (some q) (.ok none)))
  | closeWriteOver {i e} : Moves t (.closeWrite i) (.done (.closeWrite i e))
  | undoOver {i st w e} (h : (s.chan i).state ≠ .channelLocalEOF)
      (h' : (s.chan i).state ≠ .channelBothEOF) :
      Moves t (.closeWriteUndo i st w e) (.done (.closeWrite i (some e)))
  | closeOver {i k} (h : (s.chan i).state.allowsRequests = false)
      (h' : (s.chan i).state ≠ .channelOpening) : Moves t (.close i k) (.done (closeRet i none k))

/-! ## 2. Frames that are read, and why `routeEnvelope` gives up -/

/-- The channel a frame is addressed to, the error if it is unknown, and the handler's counter. -/
inductive Addressed : Envelope → Nat → ProtocolError → Pc → Prop where
  | openResult {i res} : Addressed (.channelOpenResult i res) i (.openResultUnknownChannel i)
      (.inOpenResult i res)
  | data {i data} : Addressed (.channelData i data) i (.dataUnknownChannel i) (.inData i data)
  | adjust {i n} : Addressed (.channelWindowAdjust i n) i (.adjustUnknownChannel i) (.inAdjust i n)
  | eof {i} : Addressed (.channelEof i) i (.eofUnknownChannel i) (.inEof i)
  | close {i} : Addressed (.channelClose i) i (.closeUnknownChannel i) (.inClose i)
  | request {m} : Addressed (.channelRequest m) m.recipientChannelID
      (.requestUnknownChannel m.recipientChannelID) (.inRequest m.recipientChannelID m)
  | result {i q res} : Addressed (.channelResult i q res) i (.resultUnknownChannel i)
      (.inResult i q res)

/-- Where the handler of a frame starts. -/
inductive Finds : Envelope → Pc → Prop where
  | open {m} (h : validateTypeAndPayload cfg.limits m.channelType m.payload = none) :
      Finds (.channelOpen m) (.inOpen m)
  | channel {env i e pc} (ha : Addressed env i e pc) (h : i ∈ s.channels)
      (hd : ∀ data, env = .channelData i data → data ≠ [])
      (hv : ∀ m, env = .channelRequest m →
        validateTypeAndPayload cfg.limits m.requestType m.payload = none) : Finds env pc
  | global {m} (h : validateTypeAndPayload cfg.limits m.requestType m.payload = none) :
      Finds (.globalRequest m) (.inGlobal m)
  | globalResult {q res} : Finds (.globalResult q res) (.inGlobalResult q res)

/-- Why a frame does not get as far as its handler's first section. -/
inductive Refuses : Envelope → Err → Prop where
  | open {m e} (h : validateTypeAndPayload cfg.limits m.channelType m.payload = some e) :
      Refuses (.channelOpen m) (.protocol (.invalidChannelOpen e))
  | channel {env i e pc} (ha : Addressed env i e pc) (h : i ∉ s.channels) :
      Refuses env (.protocol e)
  | empty {i} (h : i ∈ s.channels) : Refuses (.channelData i []) (.protocol (.emptyData i))
  | request {m e} (h : validateTypeAndPayload cfg.limits m.requestType m.payload = some e) :
      Refuses (.channelRequest m) (.protocol (.invalidChannelRequest e))
  | global {m e} (h : validateTypeAndPayload cfg.limits m.requestType m.payload = some e) :
      Refuses (.globalRequest m) (.protocol (.invalidGlobalRequest e))
  | disconnect {code message e} (h : validateResponse cfg.limits code message [] = some e) :
      Refuses (.disconnect code message) (.protocol (.invalidDisconnect e))
  | remote {code message} : Refuses (.disconnect code message) (.remoteDisconnect code message)
  | unset : Refuses .unset (.protocol .unsupportedFrame)

/-- A handler returns an error and has changed nothing. -/
inductive RouteFails : Pc → Err → Prop where
  | noIDs {m} : RouteFails (.inOpen m) .channelIDsExhausted
  | duplicatePeer {i m} (h : m.senderChannelID ∈ s.peerIDs) :
      RouteFails (.inOpenAdd i m) (.protocol (.duplicatePeerChannel m.senderChannelID))
  | duplicateOpenResult {i res}
      (h : (s.chan i).state ≠ .channelOpening ∨ (s.chan i).openWait = false) :
      RouteFails (.inOpenResult i res) (.protocol (.duplicateOpenResult i))
  | notActivated {i e} (h : s.activateChannel i = .error e) : RouteFails (.inActivate i) e
  | dataInState {i data} (h : (s.chan i).state.canReceiveData = false) :
      RouteFails (.inData i data) (.protocol (.dataInState i (s.chan i).state))
  | exceededMaxPacket {i data} (h : (s.chan i).maxLocalPacket < toU32 data.length) :
      RouteFails (.inData i data)
        (.protocol (.exceededMaxPacket i (toU32 data.length) (s.chan i).maxLocalPacket))
  | exceededWindow {i data} (hs : (s.chan i).state.canReceiveData = true)
      (h : (s.chan i).localWindow < toU32 data.length) :
      RouteFails (.inData i data)
        (.protocol (.exceededWindow i (toU32 data.length) (s.chan i).localWindow))
  | dataLimit {i data} : RouteFails (.inData i data) .resourceLimit
  | adjustInState {i n} (h : (s.chan i).state.allowsRequests = false) :
      RouteFails (.inAdjust i n) (.protocol (.adjustInState i (s.chan i).state))
  | windowOverflow {i n} (hs : (s.chan i).state.allowsRequests = true)
      (h : subU32 maxUint32 (s.chan i).remoteWindow < n) :
      RouteFails (.inAdjust i n) (.protocol (.remoteWindowOverflow i))
  | duplicateEOF {i} (h : (s.chan i).state = .channelRemoteEOF ∨ (s.chan i).state = .channelBothEOF) :
      RouteFails (.inEof i) (.protocol (.duplicateEOF i))
  | eofInState {i} (h : (s.chan i).state.allowsRequests = false) :
      RouteFails (.inEof i) (.protocol (.eofInState i (s.chan i).state))
  | closeBeforeOpen {i} (h : (s.chan i).state = .channelOpening) :
      RouteFails (.inClose i) (.protocol (.closeBeforeOpen i))
  | duplicateClose {i st} (hs : (s.chan i).state = st)
      (h : st = .channelClosed ∨ st = .channelFailed) :
      RouteFails (.inClose i) (.protocol (.duplicateClose i st))
  | requestInState {i m} (h : (s.chan i).state.allowsRequests = false) :
      RouteFails (.inRequest i m) (.protocol (.requestInState i (s.chan i).state))
  | duplicateRequest {i m} (hw : m.wantReply = true)
      (h : m.requestID ∈ (s.chan i).incomingRequestIDs) :
      RouteFails (.inRequest i m) (.protocol (.duplicateRequest m.requestID i))
  | resultUnknown {i q res} (h : q ∉ (s.chan i).pendingRequests) :
      RouteFails (.inResult i q res) (.protocol (.resultUnknownRequest q i))
  | duplicateGlobal {m} (hw : m.wantReply = true) (h : m.requestID ∈ s.incomingGlobalRequests) :
      RouteFails (.inGlobal m) (.protocol (.duplicateGlobalRequest m.requestID))
  | globalLimit {m} (hw : m.wantReply = false) : RouteFails (.inGlobalReserve m) .resourceLimit
  | globalUnknown {q res} (h : q ∉ s.pendingGlobal) :
      RouteFails (.inGlobalResult q res) (.protocol (.globalResultUnknownRequest q))

/-! ## 3. Writes, `shutdown`, the environment -/

/-- `sendEnvelopeAfter` and `enqueueWrite`. -/
inductive SendEffect : Pc → Out → Prop where
  | ensureFails {w x k e} (h : s.ensureActive = some e) :
      SendEffect (.ensure w x k) ⟨s.dropWrite w, contPc w (some e) k, contEvents (some e) k⟩
  | reserveFails {w m k} : SendEffect (.reserve w m k)
      ⟨s.dropWrite w, contPc w (some .resourceLimit) k, contEvents (some .resourceLimit) k⟩
  | reserved {w m k b} (hb : s.budget.reserveQueueBudget cfg.limits 1 (s.writes w).size = some b) :
      SendEffect (.reserve w m k) ⟨{ s with budget := b }, .push w m k, []⟩
  | pushClosed {w m k} (h : s.queuesClosed = true) : SendEffect (.push w m k)
      ⟨({ s with budget := s.budget.releaseQueueBudget 1 (s.writes w).size } : Session).dropWrite w,
        contPc w (some s.closeCause) k, contEvents (some s.closeCause) k⟩
  | pushSync {w x k} (h : s.queuesClosed = false) : SendEffect (.push w (.sync x) k)
      ⟨s.enqueued w (.sync x), .await w x k, [.enqueued w]⟩
  | pushAsync {w k} (h : s.queuesClosed = false) : SendEffect (.push w .async k)
      ⟨s.enqueued w .async, contPc w none k, .enqueued w :: contEvents none k⟩
  | pushFull {w m k} : SendEffect (.push w m k)
      ⟨({ s with
            budget := s.budget.releaseQueueBudget 1 (s.writes w).size
            late := s.late ++ [some .outboundExhausted] } : Session).dropWrite w,
        contPc w (some .outboundExhausted) k, contEvents (some .outboundExhausted) k⟩
  | awaited {w x k e} (h : (s.writes w).result = some e) :
      SendEffect (.await w x k) ⟨s, contPc w e k, contEvents e k⟩
  | canceled {w x k e} (h : (s.writes w).state = .writeQueued)
      (hx : s.ctxDone x = some e ∨ s.ctxErr.isSome = true) :
      SendEffect (.await w x k) ⟨s.cancelWrite w, contPc w (some e) k, contEvents (some e) k⟩

/-- `shutdown`, `Activate`, the parent context, `finalize`. -/
inductive DownEffect (t : Tid) : Pc → Out → Prop where
  | begin {e k} (h : s.closing = false) (hp : (e.getD .sessionClosed).isProtocol = false) :
      DownEffect t (.shutdown e k)
        ⟨s.shutdownTables (e.getD .sessionClosed),
          .shutCancel ⟨e, e.getD .sessionClosed, s.channels, s.pendingGlobal, k⟩, []⟩
  | disconnect {e k} (h : s.closing = false) (hp : (e.getD .sessionClosed).isProtocol = true) :
      DownEffect t (.shutdown e k)
        ⟨(s.shutdownTables (e.getD .sessionClosed)).addWrite t none false
            (.disconnect "protocol-error" "protocol error") .nothing,
          .reserve s.nextWrite .async
            (.disconnect ⟨e, e.getD .sessionClosed, s.channels, s.pendingGlobal, k⟩), []⟩
  | cancel {d} : DownEffect t (.shutCancel d)
      ⟨{ s with ctxErr := s.ctxErr.or (some d.closeErr) }, .shutChannels d, []⟩
  | channel {d i} (h : i ∈ d.chans) : DownEffect t (.shutChannels d)
      ⟨s.channelShutdown i d.closeErr, .shutChannels { d with chans := d.chans.filter (· ≠ i) }, []⟩
  | globals {d} : DownEffect t (.shutGlobals d)
      ⟨{ s with globalReplies := fun q =>
          if q ∈ d.globals ∧ s.globalReplies q = none then some (.err d.closeErr)
          else s.globalReplies q }, .shutQueues d, []⟩
  | queues {d} : DownEffect t (.shutQueues d)
      ⟨{ s with queuesClosed := true, finalizing := true, shutDone := true }, downPc d.k, []⟩
  | activate (ht : t = .env) : DownEffect t .start ⟨{ s with activated := true }, .start, []⟩
  | parent {n} (ht : t = .env) (h : s.ctxErr = none) : DownEffect t .start
      ⟨{ s with ctxErr := some (.parent n), late := s.late ++ [some (.parent n)] }, .start, []⟩
  | finalize (ht : t = .finalizer) (h : s.finalizing = true) : DownEffect t .start
      ⟨{ s with connClosed := true }, .exited, []⟩

/-- `writerLoop`. -/
inductive WriterEffect : Pc → Out → Prop where
  | takeControl {w rest o} (h : s.controlQueue = w :: rest) :
      WriterEffect (.select true o) ⟨s.popControl w rest, .popped w true o, []⟩
  | takeControlLater {w rest o} (h : s.controlQueue = w :: rest) :
      WriterEffect (.selectBoth true o) ⟨s.popControl w rest, .popped w true o, []⟩
  | takeOutbound {w rest c} (h : s.outboundQueue = w :: rest) :
      WriterEffect (.selectBoth c true) ⟨s.popOutbound w rest, .popped w c true, []⟩
  | popped {w c o} : WriterEffect (.popped w c o)
      ⟨{ s with budget := s.budget.releaseQueueBudget 1 (s.writes w).size }, .claim w c o, []⟩
  | claimed {w c o} (h : (s.writes w).state = .writeQueued) : WriterEffect (.claim w c o)
      ⟨s.setWrite w { s.writes w with state := .writeStarted }, .sending w c o, []⟩
  | skip {w c o} (h : (s.writes w).after = .nothing ∨ ∃ i, (s.writes w).after = .startWorker i) :
      WriterEffect (.skip w c o)
        ⟨s.setWrite w { s.writes w with
          place := .dropped, result := putResult (s.writes w) (some .canceled) }, .select c o, []⟩
  | skipRequest {w c o i q} (h : (s.writes w).after = .finishRequest i q) :
      WriterEffect (.skip w c o)
        ⟨(s.finishIncomingRequest i q).setWrite w { s.writes w with
          place := .dropped, result := putResult (s.writes w) (some .canceled) }, .select c o, []⟩
  | skipGlobal {w c o q} (h : (s.writes w).after = .finishGlobal q) : WriterEffect (.skip w c o)
        ⟨(s.finishIncomingGlobal q).setWrite w { s.writes w with
          place := .dropped, result := putResult (s.writes w) (some .canceled) }, .select c o, []⟩
  | sent {w c o} (hv : (s.writes w).envelope.valid = true) (hc : s.connClosed = false) :
      WriterEffect (.sending w c o)
        ⟨s.setWrite w { s.writes w with place := .sent }, .written w none c o,
          [.wrote w (s.writes w).envelope]⟩
  | sendFails {w c o} : WriterEffect (.sending w c o)
      ⟨s.dropWrite w, .written w (some .sendEnvelope) c o, []⟩
  | startWorker {w c o i} (h : (s.writes w).after = .startWorker i) :
      WriterEffect (.written w none c o) ⟨s.startChannelWorker i, .report w none c o, []⟩
  | finishRequest {w e c o i q} (h : (s.writes w).after = .finishRequest i q) :
      WriterEffect (.written w e c o) ⟨s.finishIncomingRequest i q, .report w e c o, []⟩
  | finishGlobal {w e c o q} (h : (s.writes w).after = .finishGlobal q) :
      WriterEffect (.written w e c o) ⟨s.finishIncomingGlobal q, .report w e c o, []⟩
  | reported {w c o} : WriterEffect (.report w none c o)
      ⟨s.setWrite w { s.writes w with
        state := .writeDone, result := putResult (s.writes w) none }, .select c o, []⟩
  | reportFails {w e c o} : WriterEffect (.report w (some e) c o)
      ⟨s.setWrite w { s.writes w with
        state := .writeDone, result := putResult (s.writes w) (some e) },
        .shutdown (some e) .exit, []⟩

/-! ## 4. The receiver -/

/-- Opens: `enqueueIncomingOpen` and `handleChannelOpenResult`. -/
inductive InOpenEffect (t : Tid) : Pc → Out → Prop where
  | made {m} (hn : s.nextLocalChannelID ≠ maxUint64) : InOpenEffect t (.inOpen m)
      ⟨s.channelMade (newIncomingChannel cfg m), .inOpenAdd s.nextLocalChannelID m,
        [.incoming s.nextLocalChannelID m]⟩
  | limit {i m} : InOpenEffect t (.inOpenAdd i m)
      ⟨s.addWrite t none false (.channelOpenResult m.senderChannelID
          (.reject (resourceReject "channel limit reached"))) .nothing,
        .reserve s.nextWrite .async .openRejectAsync, []⟩
  | added {i m} (hp : s.pendingOpens < cfg.limits.maxPendingOpens)
      (hm : addU32 s.activeChannels s.pendingOpens < cfg.limits.maxChannels)
      (hu : m.senderChannelID ∉ s.peerIDs) : InOpenEffect t (.inOpenAdd i m)
      ⟨s.pendingAdded i (some m.senderChannelID), .inOpenReserve i m, []⟩
  | reserved {i m b}
      (hb : s.budget.reserveQueueBudget cfg.limits 1 (DispatchTask.channelOpen m).size = some b) :
      InOpenEffect t (.inOpenReserve i m) ⟨{ s with budget := b }, .inOpenQueue i m, []⟩
  | queued {i m} : InOpenEffect t (.inOpenQueue i m)
      ⟨{ s with dispatchQueue := s.dispatchQueue ++ [.channelOpen m] }, .recv, [.routed]⟩
  | full {i m} : InOpenEffect t (.inOpenQueue i m)
      ⟨{ s with budget := s.budget.releaseQueueBudget 1 (DispatchTask.channelOpen m).size },
        .inOpenRemove i m, []⟩
  | removed {i m} : InOpenEffect t (.inOpenRemove i m) ⟨s.removeChannel i, .inOpenShut i m, []⟩
  | shut {i m} : InOpenEffect t (.inOpenShut i m)
      ⟨(s.channelShutdown i .resourceLimit).addWrite t none false
          (.channelOpenResult m.senderChannelID
            (.reject (resourceReject "channel queue limit reached"))) .nothing,
        .reserve s.nextWrite .async .openRejectAsync, []⟩
  | resultFails {i res e} (hs : (s.chan i).state = .channelOpening)
      (hw : (s.chan i).openWait = true) : InOpenEffect t (.inOpenResult i res)
      ⟨s.setChan i { s.chan i with openWait := false },
        .shutdown (some (.protocol e)) .exit, [.routeFailed (.protocol e)]⟩
  | opened {i a} (hs : (s.chan i).state = .channelOpening) (hw : (s.chan i).openWait = true)
      (hu : a.senderChannelID ∉ s.peerIDs) : InOpenEffect t (.inOpenResult i (.success a))
      ⟨{ s.setChan i (openedChannel cfg (s.chan i) a) with
          peerChannelIDs := (a.senderChannelID, i) :: s.peerChannelIDs }, .inActivate i,
        [.answered i a, .channelOpened i a.senderChannelID cfg.initialWindow a.initialWindow
          cfg.maxPacketSize a.maxPacketSize]⟩
  | rejected {i r} (hs : (s.chan i).state = .channelOpening) (hw : (s.chan i).openWait = true) :
      InOpenEffect t (.inOpenResult i (.reject r))
      ⟨s.setChan i { s.chan i with
          openWait := false, state := .channelFailed, gen := (s.chan i).gen + 1 },
        .inRejectRemove i (.openRejected r.message), []⟩
  | activated {i} (h : (s.chan i).slot = .channelSlotPending) (hp : s.pendingOpens ≠ 0) :
      InOpenEffect t (.inActivate i) ⟨s.slotActivated i, .inStart i, []⟩
  | started {i} : InOpenEffect t (.inStart i)
      ⟨(s.startChannelWorker i).putOpenResult i none, .recv, [.routed]⟩
  | rejectRemoved {i e} : InOpenEffect t (.inRejectRemove i e)
      ⟨s.removeChannel i, .inRejectShut i e, []⟩
  | rejectShut {i e} : InOpenEffect t (.inRejectShut i e)
      ⟨(s.channelShutdown i e).putOpenResult i (some e), .recv, [.routed]⟩

/-- The states a channel takes when the peer's EOF comes in. -/
inductive EofTo : ChannelState → ChannelState → Prop where
  | open : EofTo .channelOpen .channelRemoteEOF
  | localEOF : EofTo .channelLocalEOF .channelBothEOF

/-- Frames of an open channel. -/
inductive InEffect (t : Tid) : Pc → Out → Prop where
  | data {i data b} (hs : (s.chan i).state.canReceiveData = true)
      (hp : toU32 data.length ≤ (s.chan i).maxLocalPacket)
      (hw : toU32 data.length ≤ (s.chan i).localWindow)
      (hb : s.budget.reserveQueuedLocked cfg.limits i 1 (toU32 data.length) = some b) :
      InEffect t (.inData i data)
      ⟨({ s with budget := b } : Session).setChan i { s.chan i with
          localWindow := subU32 (s.chan i).localWindow (toU32 data.length)
          frames := (s.chan i).frames ++ [data]
          gen := (s.chan i).gen + 1 }, .recv, [.accepted i data, .routed]⟩
  | adjust {i n} (hs : (s.chan i).state.allowsRequests = true)
      (h : n ≤ subU32 maxUint32 (s.chan i).remoteWindow) : InEffect t (.inAdjust i n)
      ⟨s.setChan i { s.chan i with
          remoteWindow := addU32 (s.chan i).remoteWindow n, gen := (s.chan i).gen + 1 },
        .recv, [.adjusted i n, .routed]⟩
  | eof {i st b} (hs : EofTo (s.chan i).state st)
      (hb : s.budget.reserveQueuedLocked cfg.limits i 1 ChannelEvent.eof.size = some b) :
      InEffect t (.inEof i)
      ⟨s.eventPut b i { s.chan i with state := st, gen := (s.chan i).gen + 1 } .eof,
        .recv, [.routed]⟩
  | eofFull {i st} (hs : EofTo (s.chan i).state st) : InEffect t (.inEof i)
      ⟨s.eventRefused cfg i { s.chan i with state := st, gen := (s.chan i).gen + 1 } .eof,
        .shutdown (some .resourceLimit) .exit, [.routeFailed .resourceLimit]⟩
  | closeAcked {i} (hs : (s.chan i).state = .channelClosing) : InEffect t (.inClose i)
      ⟨s.setChan i { s.chan i with state := .channelClosed, gen := (s.chan i).gen + 1 },
        .inCloseRemove i, []⟩
  | close {i b} (hs : (s.chan i).state.allowsRequests = true)
      (hb : s.budget.reserveQueuedLocked cfg.limits i 1 ChannelEvent.close.size = some b) :
      InEffect t (.inClose i)
      ⟨(s.eventPut b i { s.chan i with state := .channelClosed, gen := (s.chan i).gen + 1 }
          .close).addWrite t (some i) false (.channelClose (s.chan i).peerID) .nothing,
        .reserve s.nextWrite .async (.closeAck i), []⟩
  | closeFull {i} (hs : (s.chan i).state.allowsRequests = true) : InEffect t (.inClose i)
      ⟨s.eventRefused cfg i { s.chan i with state := .channelClosed, gen := (s.chan i).gen + 1 }
          .close,
        .shutdown (some .resourceLimit) .exit, [.routeFailed .resourceLimit]⟩
  | closeRemoved {i} : InEffect t (.inCloseRemove i)
      ⟨s.removeChannel i, .recv, [.closeProcessed i, .routed]⟩

/-- The channel after a request has been noted in `incomingRequestIDs`, if it wants a reply. -/
def requestNoted (s : Session) (i : Nat) (m : RequestMsg) : Channel :=
  if m.wantReply then
    { s.chan i with incomingRequestIDs := (s.chan i).incomingRequestIDs.insert m.requestID }
  else s.chan i

/-- Requests and results. -/
inductive InRequestEffect (t : Tid) : Pc → Out → Prop where
  | request {i m b} (hs : (s.chan i).state.allowsRequests = true)
      (hn : m.wantReply = true → m.requestID ∉ (s.chan i).incomingRequestIDs)
      (hb : s.budget.reserveQueuedLocked cfg.limits i 1 (ChannelEvent.request m).size = some b) :
      InRequestEffect t (.inRequest i m)
        ⟨s.eventPut b i (requestNoted s i m) (.request m), .recv, [.routed]⟩
  | requestRejected {i m} (hs : (s.chan i).state.allowsRequests = true) (hw : m.wantReply = true)
      (hn : m.requestID ∉ (s.chan i).incomingRequestIDs) : InRequestEffect t (.inRequest i m)
      ⟨(s.eventRefused cfg i (requestNoted s i m) (.request m)).addWrite t (some i) false
          (.channelResult (s.chan i).peerID m.requestID
            (.reject (resourceReject "channel request queue limit reached")))
          (.finishRequest i m.requestID),
        .reserve s.nextWrite .async (.channelReject i m.requestID), []⟩
  | requestLimit {i m} (hw : m.wantReply = false) : InRequestEffect t (.inRequest i m)
      ⟨s.eventRefused cfg i (requestNoted s i m) (.request m),
        .shutdown (some .resourceLimit) .exit, [.routeFailed .resourceLimit]⟩
  | requestFinish {i q e} : InRequestEffect t (.inRequestFinish i q e)
      ⟨s.finishIncomingRequest i q, .shutdown (some e) .exit, [.routeFailed e]⟩
  | result {i q res} (h : q ∈ (s.chan i).pendingRequests) : InRequestEffect t (.inResult i q res)
      ⟨s.setChan i { s.chan i with
          pendingRequests := (s.chan i).pendingRequests.filter (· ≠ q) },
        .inResultRelease i q res, []⟩
  | resultFails {i q res e} (h : decodeResult cfg.limits res .resultPayload (.invalidResult q i)
        .invalidRejection = .error e) : InRequestEffect t (.inResultRelease i q res)
      ⟨{ s with pendingChannelRequests := s.pendingChannelRequests - 1 },
        .shutdown (some (.protocol e)) .exit, [.routeFailed (.protocol e)]⟩
  | resultPut {i q res r} (h : decodeResult cfg.limits res .resultPayload (.invalidResult q i)
        .invalidRejection = .ok r) : InRequestEffect t (.inResultRelease i q res)
      ⟨({ s with pendingChannelRequests := s.pendingChannelRequests - 1 } : Session).setChan i
          { s.chan i with
            replies := Function.update (s.chan i).replies q
              (((s.chan i).replies q).or (some (.response r))) }, .recv, [.routed]⟩
  | global {m} (hw : m.wantReply = true) (h : m.requestID ∉ s.incomingGlobalRequests) :
      InRequestEffect t (.inGlobal m)
        ⟨{ s with incomingGlobalRequests := s.incomingGlobalRequests.insert m.requestID },
          .inGlobalReserve m, []⟩
  | globalReserved {m b}
      (hb : s.budget.reserveQueueBudget cfg.limits 1 (DispatchTask.globalRequest m).size = some b) :
      InRequestEffect t (.inGlobalReserve m) ⟨{ s with budget := b }, .inGlobalQueue m, []⟩
  | globalQueued {m} : InRequestEffect t (.inGlobalQueue m)
      ⟨{ s with dispatchQueue := s.dispatchQueue ++ [.globalRequest m] }, .recv, [.routed]⟩
  | globalNoRoom {m} (hw : m.wantReply = true) : InRequestEffect t (.inGlobalReserve m)
      ⟨s.addWrite t none false (.globalResult m.requestID
          (.reject (resourceReject "global request queue limit reached")))
          (.finishGlobal m.requestID),
        .reserve s.nextWrite .async (.globalReject m.requestID), []⟩
  | globalFull {m} (hw : m.wantReply = true) : InRequestEffect t (.inGlobalQueue m)
      ⟨({ s with budget := s.budget.releaseQueueBudget 1 (DispatchTask.globalRequest m).size } :
          Session).addWrite t none false (.globalResult m.requestID
          (.reject (resourceReject "global request queue limit reached")))
          (.finishGlobal m.requestID),
        .reserve s.nextWrite .async (.globalReject m.requestID), []⟩
  | globalLimit {m} (hw : m.wantReply = false) : InRequestEffect t (.inGlobalQueue m)
      ⟨{ s with budget := s.budget.releaseQueueBudget 1 (DispatchTask.globalRequest m).size },
        .shutdown (some .resourceLimit) .exit,
        [.routeFailed .resourceLimit]⟩
  | globalFinish {q e} : InRequestEffect t (.inGlobalFinish q e)
      ⟨s.finishIncomingGlobal q, .shutdown (some e) .exit, [.routeFailed e]⟩
  | globalResultFails {q res e} (hq : q ∈ s.pendingGlobal)
      (h : decodeResult cfg.limits res .globalResultPayload (.invalidGlobalResult q)
        .invalidGlobalRejection = .error e) : InRequestEffect t (.inGlobalResult q res)
      ⟨{ s with pendingGlobal := s.pendingGlobal.filter (· ≠ q) },
        .shutdown (some (.protocol e)) .exit, [.routeFailed (.protocol e)]⟩
  | globalResultPut {q res r} (hq : q ∈ s.pendingGlobal)
      (h : decodeResult cfg.limits res .globalResultPayload (.invalidGlobalResult q)
        .invalidGlobalRejection = .ok r) : InRequestEffect t (.inGlobalResult q res)
      ⟨{ s with
          pendingGlobal := s.pendingGlobal.filter (· ≠ q)
          globalReplies := Function.update s.globalReplies q
            ((s.globalReplies q).or (some (.response r))) }, .recv, [.routed]⟩

/-! ## 5. The dispatcher and the channel workers -/

/-- `handleChannelOpen` and `handleGlobalRequest`. -/
inductive DispatchEffect (t : Tid) : Pc → Out → Prop where
  | taken {task rest} (h : s.dispatchQueue = task :: rest) : DispatchEffect t .disp
      ⟨{ s with dispatchQueue := rest }, .dispRelease task, []⟩
  | open {m} : DispatchEffect t (.dispRelease (.channelOpen m))
      ⟨{ s with budget := s.budget.releaseQueueBudget 1 (DispatchTask.channelOpen m).size },
        .admitLookup m, []⟩
  | global {m} : DispatchEffect t (.dispRelease (.globalRequest m))
      ⟨{ s with budget := s.budget.releaseQueueBudget 1 (DispatchTask.globalRequest m).size },
        .handleGlobal m, []⟩
  | decideFails {i m d e} : DispatchEffect t (.admitDecide i m)
      ⟨s, .admitAbort i e, [.onChannelOpen i m d]⟩
  | decideAccept {i m d} (h : d.ok = true)
      (hv : validateResponse cfg.limits d.code d.message d.payload = none) :
      DispatchEffect t (.admitDecide i m)
      ⟨s, .admitAccept i m d, [.onChannelOpen i m d]⟩
  | decideReject {i m d} (h : d.ok = false)
      (hv : validateResponse cfg.limits d.code d.message d.payload = none) :
      DispatchEffect t (.admitDecide i m)
      ⟨s, .admitReject i m d, [.onChannelOpen i m d]⟩
  | abortRemoved {i e} : DispatchEffect t (.admitAbort i e)
      ⟨s.removeChannel i, .admitAbortShut i e, []⟩
  | abortShut {i e} : DispatchEffect t (.admitAbortShut i e)
      ⟨s.channelShutdown i e, .shutdown (some e) .exit, []⟩
  | rejectRemoved {i m d} : DispatchEffect t (.admitReject i m d)
      ⟨s.removeChannel i, .admitRejectShut i m d, []⟩
  | rejectShut {i m d} : DispatchEffect t (.admitRejectShut i m d)
      ⟨(s.channelShutdown i .channelClosed).addWrite t none true
          (.channelOpenResult m.senderChannelID (.reject
            ⟨normalizeReject d.code "channel-open-rejected",
              normalizeReject d.message "channel open rejected", d.payload⟩)) .nothing,
        .ensure s.nextWrite .session .openReject, []⟩
  | accepted {i m d} (h : (s.chan i).state = .channelOpening) : DispatchEffect t (.admitAccept i m d)
      ⟨s.setChan i { s.chan i with state := .channelOpen, gen := (s.chan i).gen + 1 },
        .admitActivate i m d,
        [.channelOpened i (s.chan i).peerID (s.chan i).localWindow (s.chan i).remoteWindow
          (s.chan i).maxLocalPacket (s.chan i).maxRemotePacket]⟩
  | activated {i m d} (h : (s.chan i).slot = .channelSlotPending) (hp : s.pendingOpens ≠ 0) :
      DispatchEffect t (.admitActivate i m d)
      ⟨(s.slotActivated i).addWrite t (some i) true (.channelOpenResult m.senderChannelID
          (.success ⟨i, cfg.initialWindow, cfg.maxPacketSize, d.payload⟩)) (.startWorker i),
        .ensure s.nextWrite .session (.openAccept i), []⟩
  | globalNoReply {m r} (hw : m.wantReply = false) : DispatchEffect t (.handleGlobal m)
      ⟨s, .disp, [.onGlobalRequest m r]⟩
  | globalFails {m r e} : DispatchEffect t (.handleGlobal m)
      ⟨s, .globalFinish m.requestID (some e), [.onGlobalRequest m r]⟩
  | globalReply {m r} (hw : m.wantReply = true)
      (hv : validateResponse cfg.limits r.code r.message r.payload = none) :
      DispatchEffect t (.handleGlobal m)
      ⟨s.addWrite t none true (.globalResult m.requestID
          (opResult r "global-request-rejected" "global request rejected")) .nothing,
        .ensure s.nextWrite .session (.globalResult m.requestID), [.onGlobalRequest m r]⟩
  | globalFinishFails {q e} : DispatchEffect t (.globalFinish q (some e))
      ⟨s.finishIncomingGlobal q, .shutdown (some e) .exit, []⟩
  | globalFinish {q} : DispatchEffect t (.globalFinish q none) ⟨s.finishIncomingGlobal q, .disp, []⟩

/-- `Channel.loop` and `awaitCloseTimeout` of channel `i`. -/
inductive WorkEffect : Tid → Pc → Out → Prop where
  | start {i} (hw : (s.chan i).workerStarted = true) : WorkEffect (.worker i) .start
      ⟨s.setChan i { s.chan i with handed := true }, .work, [.onOpen i]⟩
  | taken {i ev rest} (h : (s.chan i).events = ev :: rest) : WorkEffect (.worker i) .work
      ⟨s.setChan i { s.chan i with events := rest }, .workRelease ev, []⟩
  | request {i m} : WorkEffect (.worker i) (.workRelease (.request m))
      ⟨{ s with budget := s.budget.releaseQueuedLocked i 1 (ChannelEvent.request m).size },
        .workRequest m, []⟩
  | eof {i} : WorkEffect (.worker i) (.workRelease .eof)
      ⟨{ s with budget := s.budget.releaseQueuedLocked i 1 ChannelEvent.eof.size },
        .work, [.onEOF i]⟩
  | close {i} : WorkEffect (.worker i) (.workRelease .close)
      ⟨{ s with budget := s.budget.releaseQueuedLocked i 1 ChannelEvent.close.size },
        .workClose, []⟩
  | ticket {i m} (hw : m.wantReply = true) : WorkEffect (.worker i) (.workRequest m)
      ⟨s.addWrite (.worker i) (some i) true
          (.channelResult (s.chan i).peerID m.requestID .unset) .nothing,
        .workRespond m (s.chan i).peerID (some s.nextWrite), []⟩
  | noReply {i m p r} : WorkEffect (.worker i) (.workRespond m p none)
      ⟨s, .work, [.onRequest i m r]⟩
  | respondFails {i m p w r e} : WorkEffect (.worker i) (.workRespond m p (some w))
      ⟨s.dropWrite w, .workFinish m.requestID (some e), [.onRequest i m r]⟩
  | respond {i m p w r} (hv : validateResponse cfg.limits r.code r.message r.payload = none) :
      WorkEffect (.worker i) (.workRespond m p (some w))
      ⟨s.setWrite w { s.writes w with
          envelope := .channelResult p m.requestID
            (opResult r "channel-request-rejected" "channel request rejected") },
        .ensure w (.channel i) (.channelResult m.requestID), [.onRequest i m r]⟩
  | finishFails {i q e} : WorkEffect (.worker i) (.workFinish q (some e))
      ⟨s.finishIncomingRequest i q, .shutdown (some e) .exit, []⟩
  | finish {i q} : WorkEffect (.worker i) (.workFinish q none)
      ⟨s.finishIncomingRequest i q, .work, []⟩
  | remoteClose {i} : WorkEffect (.worker i) .workClose
      ⟨s.failPendingRequestsLocked i .channelClosed, .workClosed ((s.chan i).frames = []),
        [.onClose i]⟩
  | cancel {i} : WorkEffect (.worker i) (.workClosed true)
      ⟨s.cancelChannel i .channelClosed, .work, []⟩
  | keep {i} : WorkEffect (.worker i) (.workClosed false) ⟨s, .work, []⟩
  | timeout {i} (ha : (s.chan i).timerArmed = true) (h : (s.chan i).state = .channelClosing) :
      WorkEffect (.timer i) .start
      ⟨s.setChan i { s.chan i with state := .channelClosed, gen := (s.chan i).gen + 1 },
        .timeoutRemove, []⟩
  | timeoutRemoved {i} : WorkEffect (.timer i) .timeoutRemove ⟨s.removeChannel i, .exited, []⟩

/-! ## 6. The calls of the application -/

/-- `OpenChannelWithHandler` and `SendGlobalRequest`. -/
inductive OpenEffect (t : Tid) : Pc → Out → Prop where
  | made {typ p} (hn : s.nextLocalChannelID ≠ maxUint64) : OpenEffect t (.openReserve typ p)
      ⟨s.channelMade (newPendingChannel t typ), .openAdd s.nextLocalChannelID typ p, []⟩
  | added {i typ p} (hp : s.pendingOpens < cfg.limits.maxPendingOpens)
      (hm : addU32 s.activeChannels s.pendingOpens < cfg.limits.maxChannels) :
      OpenEffect t (.openAdd i typ p) ⟨s.pendingAdded i none, .openSend i typ p, []⟩
  | send {i typ p} : OpenEffect t (.openSend i typ p)
      ⟨s.addWrite t none true
          (.channelOpen ⟨typ, i, cfg.initialWindow, cfg.maxPacketSize, p⟩) .nothing,
        .ensure s.nextWrite .caller (.openChannel i typ p (s.chan i).openWait), []⟩
  | removed {i typ p e} : OpenEffect t (.openRemove i typ p e)
      ⟨s.removeChannel i, .openShut i typ p e, []⟩
  | shut {i typ p e} : OpenEffect t (.openShut i typ p e)
      ⟨s.channelShutdown i e, .done (.openChannel typ p (.error e)), []⟩
  | opened {i typ p} (h : (s.chan i).openResult = some none) : OpenEffect t (.openWait i typ p true)
      ⟨s.setChan i { s.chan i with handed := true }, .done (.openChannel typ p (.ok i)), []⟩
  | abandoned {i typ p e} (h : (s.chan i).state = .channelOpening) :
      OpenEffect t (.abandon i typ p e)
      ⟨s.setChan i { s.chan i with
          state := .channelFailed, openWait := false, gen := (s.chan i).gen + 1 },
        .openRemove i typ p e, []⟩
  | globalLimit {typ p} (hn : s.nextGlobalRequestID ≠ maxUint64) :
      OpenEffect t (.globalNew typ p true)
      ⟨{ s with nextGlobalRequestID := s.nextGlobalRequestID + 1 },
        .done (.globalRequest typ p none (.error .pendingGlobalLimit)), []⟩
  | globalSend {typ p} (hn : s.nextGlobalRequestID ≠ maxUint64) :
      OpenEffect t (.globalNew typ p false)
      ⟨({ s with nextGlobalRequestID := s.nextGlobalRequestID + 1 } : Session).addWrite t none true
          (.globalRequest ⟨s.nextGlobalRequestID, typ, false, p⟩) .nothing,
        .ensure s.nextWrite .caller (.globalRequest s.nextGlobalRequestID typ p false), []⟩
  | globalAsk {typ p} (hl : toU32 s.pendingGlobal.length < cfg.limits.maxPendingGlobalRequests)
      (hn : s.nextGlobalRequestID ≠ maxUint64) : OpenEffect t (.globalNew typ p true)
      ⟨({ s with
            nextGlobalRequestID := s.nextGlobalRequestID + 1
            pendingGlobal := s.pendingGlobal.insert s.nextGlobalRequestID } : Session).addWrite t
          none true (.globalRequest ⟨s.nextGlobalRequestID, typ, true, p⟩) .nothing,
        .ensure s.nextWrite .caller (.globalRequest s.nextGlobalRequestID typ p true), []⟩
  | globalDropped {q typ p e} : OpenEffect t (.globalDrop q typ p e)
      ⟨{ s with pendingGlobal := s.pendingGlobal.filter (· ≠ q) },
        .done (.globalRequest typ p (some q) (.error e)), []⟩

/-- Why `Recv` reports the end of the stream. -/
inductive Ends (i : Nat) : Prop where
  | state (hf : (s.chan i).frames = []) (h : (s.chan i).state.readEOF = true)
      (hc : (s.chan i).state ≠ .channelClosed)
  | session {e} (hf : (s.chan i).frames = []) (h : (s.chan i).sessionErr = some e)
      (he : e.is .sessionClosed = true)

/-- `Send` and `Recv`. -/
inductive DataEffect (t : Tid) : Pc → Out → Prop where
  | send {i frame} (he : s.channelErrorLocked i = none)
      (hs : (s.chan i).state.canSendData = true)
      (hp : frame.length ≤ (s.chan i).maxRemotePacket)
      (h : toU32 frame.length ≤ (s.chan i).remoteWindow) : DataEffect t (.sendLoop i frame)
      ⟨(s.setChan i { s.chan i with
            remoteWindow := subU32 (s.chan i).remoteWindow (toU32 frame.length) }).addWrite t
          (some i) true (.channelData (s.chan i).peerID frame) .nothing,
        .ensure s.nextWrite .caller (.channelData i frame), []⟩
  | refund {i frame w e} (h : toU32 frame.length ≤ subU32 maxUint32 (s.chan i).remoteWindow) :
      DataEffect t (.sendRefund i frame w e)
      ⟨(s.setChan i { s.chan i with
            remoteWindow := addU32 (s.chan i).remoteWindow (toU32 frame.length)
            gen := (s.chan i).gen + 1 }).setWrite w { s.writes w with undone := true },
        .done (.send i frame (some w) (some e)), []⟩
  | recv {i frame rest} (hf : (s.chan i).frames = frame :: rest)
      (h : adjustBytes cfg (s.chan i) frame = 0) : DataEffect t (.recvLoop i)
      ⟨({ s with budget := s.budget.releaseQueuedLocked i 1 frame.length } : Session).setChan i
          (takeFrame cfg (s.chan i) frame rest),
        .done (.recv i (.ok frame)), [.recvFrame i frame]⟩
  | recvAdjust {i frame rest} (hf : (s.chan i).frames = frame :: rest)
      (h : 0 < adjustBytes cfg (s.chan i) frame) : DataEffect t (.recvLoop i)
      ⟨(({ s with budget := s.budget.releaseQueuedLocked i 1 frame.length } : Session).setChan i
            (takeFrame cfg (s.chan i) frame rest)).addWrite t (some i) true
          (.channelWindowAdjust (s.chan i).peerID (adjustBytes cfg (s.chan i) frame)) .nothing,
        .ensure s.nextWrite .background (.windowAdjust i frame), [.recvFrame i frame]⟩
  | recvEOF {i} (h : Ends s i) : DataEffect t (.recvLoop i) ⟨s, .done (.recvEOF i), [.recvEOF i]⟩
  | recvCancel {i} : DataEffect t (.recvCancel i)
      ⟨s.cancelChannel i .channelClosed, .done (.recvEOF i), [.recvEOF i]⟩
  | recvDone {i gen} (hc : (s.chanCause i).isSome = true)
      (h : ∀ e, s.channelErrorLocked i = some e →
        e.is .sessionClosed = true ∨ e.is .channelClosed = true) :
      DataEffect t (.recvWait i gen) ⟨s, .done (.recvEOF i), [.recvEOF i]⟩

/-- The states a channel takes with `CloseWrite`. -/
inductive CloseWriteTo : ChannelState → ChannelState → Prop where
  | open : CloseWriteTo .channelOpen .channelLocalEOF
  | remoteEOF : CloseWriteTo .channelRemoteEOF .channelBothEOF

/-- `SendRequest`, `CloseWrite` and `Close`. -/
inductive CloseEffect (t : Tid) : Pc → Out → Prop where
  | requestLimit {i typ p e} (hn : (s.chan i).nextRequestID ≠ maxUint64) :
      CloseEffect t (.requestLock i typ p true)
      ⟨s.setChan i { s.chan i with nextRequestID := (s.chan i).nextRequestID + 1 },
        .done (.request i typ p none (.error e)), []⟩
  | requestSend {i typ p} (he : s.channelErrorLocked i = none)
      (hs : (s.chan i).state.allowsRequests = true)
      (hn : (s.chan i).nextRequestID ≠ maxUint64) : CloseEffect t (.requestLock i typ p false)
      ⟨(s.setChan i { s.chan i with nextRequestID := (s.chan i).nextRequestID + 1 }).addWrite t
          (some i) true
          (.channelRequest ⟨(s.chan i).peerID, (s.chan i).nextRequestID, typ, false, p⟩) .nothing,
        .ensure s.nextWrite .caller (.channelRequest i (s.chan i).nextRequestID typ p false), []⟩
  | requestAsk {i typ p} (he : s.channelErrorLocked i = none)
      (hs : (s.chan i).state.allowsRequests = true)
      (hp : toU32 (s.chan i).pendingRequests.length <
        cfg.limits.maxPendingChannelRequestsPerChannel)
      (hl : s.pendingChannelRequests < cfg.limits.maxPendingChannelRequests)
      (hn : (s.chan i).nextRequestID ≠ maxUint64) :
      CloseEffect t (.requestLock i typ p true)
      ⟨({ s.setChan i { s.chan i with
              nextRequestID := (s.chan i).nextRequestID + 1
              pendingRequests :=
                (s.chan i).pendingRequests.insert (s.chan i).nextRequestID } with
            pendingChannelRequests := s.pendingChannelRequests + 1 } : Session).addWrite t
          (some i) true
          (.channelRequest ⟨(s.chan i).peerID, (s.chan i).nextRequestID, typ, true, p⟩) .nothing,
        .ensure s.nextWrite .caller (.channelRequest i (s.chan i).nextRequestID typ p true), []⟩
  | requestDropped {i q typ p e} (h : q ∈ (s.chan i).pendingRequests) :
      CloseEffect t (.requestDrop i q typ p e)
      ⟨s.setChan i { s.chan i with
          pendingRequests := (s.chan i).pendingRequests.filter (· ≠ q) },
        .requestRelease i q typ p e, []⟩
  | requestReleased {i q typ p e} : CloseEffect t (.requestRelease i q typ p e)
      ⟨{ s with pendingChannelRequests := s.pendingChannelRequests - 1 }, droppedPc i q typ p e, []⟩
  | closeWrite {i st} (he : s.channelErrorLocked i = none)
      (hs : CloseWriteTo (s.chan i).state st) : CloseEffect t (.closeWrite i)
      ⟨(s.setChan i { s.chan i with state := st, gen := (s.chan i).gen + 1 }).addWrite t (some i)
          true (.channelEof (s.chan i).peerID) .nothing,
        .ensure s.nextWrite .background (.channelEof i (s.chan i).state), []⟩
  | undone {i st w e}
      (h : (s.chan i).state = .channelLocalEOF ∨ (s.chan i).state = .channelBothEOF) :
      CloseEffect t (.closeWriteUndo i st w e)
      ⟨(s.setChan i { s.chan i with state := st, gen := (s.chan i).gen + 1 }).setWrite w
          { s.writes w with undone := true }, .done (.closeWrite i (some e)), []⟩
  | closeOpening {i k} (h : (s.chan i).state = .channelOpening) : CloseEffect t (.close i k)
      ⟨s.setChan i { s.chan i with state := .channelFailed, gen := (s.chan i).gen + 1 },
        .closeRemove i k, [.closeCalled i]⟩
  | close {i k} (h : (s.chan i).state.allowsRequests = true) : CloseEffect t (.close i k)
      ⟨(s.closeBegun i).addWrite t (some i) false (.channelClose (s.chan i).peerID) .nothing,
        .reserve s.nextWrite .async (.channelClose i k), [.closeCalled i]⟩
  | closeRemoved {i k} : CloseEffect t (.closeRemove i k) ⟨s.removeChannel i, .closeShut i k, []⟩
  | closeShut {i k} : CloseEffect t (.closeShut i k)
      ⟨s.channelShutdown i .channelClosed, .done (closeRet i none k), []⟩
  | closeArmed {i k} : CloseEffect t (.closeArm i k)
      ⟨s.setChan i { s.chan i with timerArmed := true }, .done (closeRet i none k), []⟩

/-! ## 7. All steps -/

/-- **What goroutine `t` at a counter can do.** -/
inductive Effect (t : Tid) : Pc → Out → Prop where
  | move {pc pc'} (h : Moves cfg s t pc pc') : Effect t pc ⟨s, pc', []⟩
  | found {env pc} (hv : env.valid = true) (hc : s.connClosed = false) (h : Finds cfg s env pc) :
      Effect t .recv ⟨s, pc, [.received env]⟩
  | refused {env e} (hv : env.valid = true) (hc : s.connClosed = false)
      (h : Refuses cfg s env e) :
      Effect t .recv ⟨s, .shutdown (some e) .exit, [.received env, .routeFailed e]⟩
  | routeFails {pc e} (h : RouteFails s pc e) :
      Effect t pc ⟨s, .shutdown (some e) .exit, [.routeFailed e]⟩
  | send {pc o} (h : SendEffect cfg s pc o) : Effect t pc o
  | down {pc o} (h : DownEffect s t pc o) : Effect t pc o
  | writer {pc o} (h : WriterEffect s pc o) : Effect t pc o
  | inOpen {pc o} (h : InOpenEffect cfg s t pc o) : Effect t pc o
  | inFrame {pc o} (h : InEffect cfg s t pc o) : Effect t pc o
  | inRequest {pc o} (h : InRequestEffect cfg s t pc o) : Effect t pc o
  | dispatch {pc o} (h : DispatchEffect cfg s t pc o) : Effect t pc o
  | work {pc o} (h : WorkEffect cfg s t pc o) : Effect t pc o
  | open {pc o} (h : OpenEffect cfg s t pc o) : Effect t pc o
  | data {pc o} (h : DataEffect cfg s t pc o) : Effect t pc o
  | close {pc o} (h : CloseEffect cfg s t pc o) : Effect t pc o

end

end Mygosh.Mux

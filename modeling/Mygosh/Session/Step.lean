/-
  File:      Mygosh/Session/Step.lean
  Subject:   One step of a session: a goroutine passes the section it is at.

  `exec cfg t s c pc` runs the section goroutine `t` is about to enter at counter `pc`. What the
  scheduler, the peer, the application, a handler or a `select` decides is the argument `c`;
  the result is `none` where the goroutine is blocked or has no such choice.
-/
import Mygosh.Lts
import Mygosh.Session.Calls

namespace Mygosh.Mux

namespace Session

/-! ## 1. The start of a call -/

/-- An API call up to its first section. Channel methods can be called once the application has
    the channel. -/
def call (cfg : Config) (s : Session) : Api → Option Out
  | .openChannel typ p =>
    match validateTypeAndPayload cfg.limits typ p with
    | some e => some ⟨s, .done (.openChannel typ p (.error (.limit e))), []⟩
    | none =>
      match s.ensureActive with
      | some e => some ⟨s, .done (.openChannel typ p (.error e)), []⟩
      | none => some ⟨s, .openReserve typ p, []⟩
  | .sendGlobalRequest typ p want =>
    match validateTypeAndPayload cfg.limits typ p with
    | some e => some ⟨s, .done (.globalRequest typ p none (.error (.limit e))), []⟩
    | none =>
      match s.ensureActive with
      | some e => some ⟨s, .done (.globalRequest typ p none (.error e)), []⟩
      | none => some ⟨s, .globalNew typ p want, []⟩
  | .send i frame =>
    if (s.chan i).handed then
      if frame = [] then some ⟨s, .done (.send i frame none (some .emptyFrame)), []⟩
      else if frame.length > maxUint32 then
        some ⟨s, .done (.send i frame none (some (.frameTooLarge frame.length))), []⟩
      else some ⟨s, .sendLoop i frame, []⟩
    else none
  | .recv i => if (s.chan i).handed then some ⟨s, .recvLoop i, []⟩ else none
  | .sendRequest i typ p want =>
    if (s.chan i).handed then
      match validateTypeAndPayload cfg.limits typ p with
      | some e => some ⟨s, .done (.request i typ p none (.error (.limit e))), []⟩
      | none => some ⟨s, .requestLock i typ p want, []⟩
    else none
  | .closeWrite i => if (s.chan i).handed then some ⟨s, .closeWrite i, []⟩ else none
  | .close i => if (s.chan i).handed then some ⟨s, .close i .api, []⟩ else none
  | .sessionClose => some ⟨s, .shutdown (some .canceled) (.ret .sessionClose), []⟩

/-- `waitForActivation`, then the loop. -/
def waitForActivation (s : Session) (loop : Pc) : Choice → Option Out
  | .go => if s.activated then some ⟨s, loop, []⟩ else none
  | .sessDone => if s.ctxErr.isSome then some ⟨s, .exited, []⟩ else none
  | _ => none

/-- The environment: `Activate`, and the end of the parent context, whose `AfterFunc` runs
    `shutdown` in a goroutine of its own. -/
def environment (s : Session) : Choice → Option Out
  | .activate => some ⟨{ s with activated := true }, .start, []⟩
  | .parentCancel n =>
    if s.ctxErr = none then
      some ⟨{ s with ctxErr := some (.parent n), late := s.late ++ [some (.parent n)] }, .start, []⟩
    else none
  | _ => none

/-- The first section of each goroutine. -/
def begin (cfg : Config) (s : Session) : Tid → Choice → Option Out
  | .receiver, c => s.waitForActivation .recv c
  | .dispatcher, c => s.waitForActivation .disp c
  | .writer, c => s.waitForActivation (.select true true) c
  | .worker i, c => s.workStart i c
  | .timer i, c => s.timeout i c
  | .call _, .api a => s.call cfg a
  | .late n, .go => (s.late[n]?).map fun e => ⟨s, .shutdown e .exit, []⟩
  | .finalizer, .go => if s.finalizing then some ⟨{ s with connClosed := true }, .exited, []⟩ else none
  | .env, c => s.environment c
  | _, _ => none

/-! ## 2. One step -/

/-- A section with one way on. -/
def only (o : Out) : Choice → Option Out
  | .go => some o
  | _ => none

/-- The answer a handler gives. -/
def onAnswer (f : Response → Out) : Choice → Option Out
  | .answer r => some (f r)
  | _ => none

def exec (cfg : Config) (t : Tid) (s : Session) (c : Choice) : Pc → Option Out
  | .start => s.begin cfg t c
  | .exited | .done _ => none
  | .ensure w x k => only (s.ensure w x k) c
  | .reserve w m k => only (s.reserve cfg w m k) c
  | .push w m k => only (s.push cfg w m k) c
  | .await w x k => s.await w x k c
  | .shutdown e k => if c = .go then s.shutdown t e k else none
  | .shutCancel d => only (s.shutCancel d) c
  | .shutChannels d => s.shutChannels d c
  | .shutGlobals d => only (s.shutGlobals d) c
  | .shutQueues d => only (s.shutQueues d) c
  | .recv => s.receive cfg c
  | .inOpen m => only (s.inOpen cfg m) c
  | .inOpenAdd i m => only (s.inOpenAdd cfg t i m) c
  | .inOpenReserve i m => only (s.inOpenReserve cfg i m) c
  | .inOpenQueue i m => only (s.inOpenQueue cfg i m) c
  | .inOpenRemove i m => only ⟨s.removeChannel i, .inOpenShut i m, []⟩ c
  | .inOpenShut i m => only (s.inOpenShut t i m) c
  | .inOpenResult i res => only (s.inOpenResult cfg i res) c
  | .inActivate i => only (s.inActivate i) c
  | .inStart i => only ((s.startChannelWorker i).putOpenResult i none).routed c
  | .inRejectRemove i e => only ⟨s.removeChannel i, .inRejectShut i e, []⟩ c
  | .inRejectShut i e => only ((s.channelShutdown i e).putOpenResult i (some e)).routed c
  | .inData i data => only (s.inData cfg i data) c
  | .inAdjust i n => only (s.inAdjust i n) c
  | .inEof i => only (s.inEof cfg i) c
  | .inClose i => only (s.inClose cfg t i) c
  | .inCloseRemove i => only (s.inCloseRemove i) c
  | .inRequest i m => only (s.inRequest cfg t i m) c
  | .inRequestFinish i q e => only ((s.finishIncomingRequest i q).routeFailed e) c
  | .inResult i q res => only (s.inResult i q res) c
  | .inResultRelease i q res => only (s.inResultRelease cfg i q res) c
  | .inGlobal m => only (s.inGlobal m) c
  | .inGlobalReserve m => only (s.inGlobalReserve cfg t m) c
  | .inGlobalQueue m => only (s.inGlobalQueue cfg t m) c
  | .inGlobalFinish q e => only ((s.finishIncomingGlobal q).routeFailed e) c
  | .inGlobalResult q res => only (s.inGlobalResult cfg q res) c
  | .disp => s.dispatch c
  | .dispRelease task => only (s.dispRelease task) c
  | .admitLookup m => only (s.admitLookup m) c
  | .admitDecide i m => onAnswer (s.admitDecide cfg i m) c
  | .admitAbort i e => only ⟨s.removeChannel i, .admitAbortShut i e, []⟩ c
  | .admitAbortShut i e => only ((s.channelShutdown i e).taskFailed e) c
  | .admitReject i m d => only ⟨s.removeChannel i, .admitRejectShut i m d, []⟩ c
  | .admitRejectShut i m d => only (s.admitRejectShut t i m d) c
  | .admitAccept i m d => only (s.admitAccept i m d) c
  | .admitActivate i m d => only (s.admitActivate cfg t i m d) c
  | .handleGlobal m => onAnswer (s.handleGlobal cfg t m) c
  | .globalFinish q e => only (s.globalFinish q e) c
  | .select b o => if c = .go then s.select b o else none
  | .selectBoth b o => s.selectBoth b o c
  | .popped w b o => only (s.popped w b o) c
  | .claim w b o => only (s.claim w b o) c
  | .skip w b o => only (s.skip w b o) c
  | .sending w b o => s.sending w b o c
  | .written w e b o => only (s.written w e b o) c
  | .report w e b o => only (s.report w e b o) c
  | .work => match t with
      | .worker i => s.work i c
      | _ => none
  | .workRelease ev => match t with
      | .worker i => only (s.workRelease i ev) c
      | _ => none
  | .workRequest m => match t with
      | .worker i => only (s.workRequest t i m) c
      | _ => none
  | .workRespond m p w => match t with
      | .worker i => onAnswer (s.workRespond cfg i m p w) c
      | _ => none
  | .workFinish q e => match t with
      | .worker i => only (s.workFinish i q e) c
      | _ => none
  | .workClose => match t with
      | .worker i => only (s.workClose i) c
      | _ => none
  | .workClosed b => match t with
      | .worker i => only (s.workClosed i b) c
      | _ => none
  | .timeoutRemove => match t with
      | .timer i => only ⟨s.removeChannel i, .exited, []⟩ c
      | _ => none
  | .openReserve typ p => only (s.openReserve t typ p) c
  | .openAdd i typ p => only (s.openAdd cfg i typ p) c
  | .openSend i typ p => only (s.openSend cfg t i typ p) c
  | .openRemove i typ p e => only ⟨s.removeChannel i, .openShut i typ p e, []⟩ c
  | .openShut i typ p e => only ⟨s.channelShutdown i e, .done (.openChannel typ p (.error e)), []⟩ c
  | .openWait i typ p b => s.openWait i typ p b c
  | .abandon i typ p e => only (s.abandon i typ p e) c
  | .globalNew typ p want => only (s.globalNew cfg t typ p want) c
  | .globalWait q typ p => s.globalWait q typ p c
  | .globalDrop q typ p e => only (s.globalDrop q typ p e) c
  | .sendLoop i frame => only (s.sendLoop t i frame) c
  | .sendWait i frame gen => s.sendWait i frame gen c
  | .sendRefund i frame w e => only (s.sendRefund i frame w e) c
  | .recvLoop i => only (s.recvLoop cfg t i) c
  | .recvWait i gen => s.recvWait i gen c
  | .recvCancel i => only (s.recvCancel i) c
  | .requestLock i typ p want => only (s.requestLock cfg t i typ p want) c
  | .requestWait i q typ p => s.requestWait i q typ p c
  | .requestDrop i q typ p e => only (s.requestDrop i q typ p e) c
  | .requestRelease i q typ p e => only (s.requestRelease i q typ p e) c
  | .requestError i q typ p => only (s.requestError i q typ p) c
  | .closeWrite i => only (s.closeWrite t i) c
  | .closeWriteUndo i st w e => only (s.closeWriteUndo i st w e) c
  | .close i k => only (s.close t i k) c
  | .closeRemove i k => only ⟨s.removeChannel i, .closeShut i k, []⟩ c
  | .closeShut i k => only ⟨s.channelShutdown i .channelClosed, .done (closeRet i none k), []⟩ c
  | .closeArm i k => only ⟨s.setChan i { s.chan i with timerArmed := true },
      .done (closeRet i none k), []⟩ c

end Session

/-- A session with its goroutines. -/
structure Machine where
  sess : Session
  pc : Tid → Pc

/-- `Bind`: nothing has run yet. -/
def Machine.start : Machine := ⟨Session.bind, fun _ => .start⟩

/-- Who takes the next step, and what it decides. -/
structure Act where
  tid : Tid
  choice : Choice
  deriving DecidableEq, Repr

/-- One goroutine takes several steps in a row. -/
def Tid.does (t : Tid) (cs : List Choice) : List Act := cs.map fun c => ⟨t, c⟩

/-- One step of a session: one goroutine passes one section. -/
def Machine.step (cfg : Config) (m : Machine) (a : Act) : Option (Machine × List Event) :=
  match m.sess.exec cfg a.tid a.choice (m.pc a.tid) with
  | none => none
  | some o => some (⟨o.sess, Function.update m.pc a.tid o.pc⟩, o.events)

/-- A session under an arbitrary peer, application and scheduler. -/
def Machine.lts (cfg : Config) : Lts Machine Act Event := ⟨Machine.start, Machine.step cfg⟩

end Mygosh.Mux

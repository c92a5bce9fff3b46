/-
  File:      Mygosh/Session/Loops.lean
  Subject:   The other goroutines a session starts: the dispatcher, the writer, the channel
             workers and the close timers.
-/
import Mygosh.Session.Receiver

namespace Mygosh.Mux

namespace Session

/-! ## 1. The dispatcher: `handleChannelOpen` and `handleGlobalRequest` -/

/-- An error from a task: `shutdown`, and the dispatcher ends. -/
def taskFailed (s : Session) (e : Err) : Out := ⟨s, .shutdown (some e) .exit, []⟩

def dispatch (s : Session) : Choice → Option Out
  | .go =>
    match s.dispatchQueue with
    | [] => none
    | task :: rest => some ⟨{ s with dispatchQueue := rest }, .dispRelease task, []⟩
  | .sessDone => if s.ctxErr.isSome then some ⟨s, .exited, []⟩ else none
  | _ => none

def dispRelease (s : Session) (task : DispatchTask) : Out :=
  let s1 : Session := { s with budget := s.budget.releaseQueueBudget 1 task.size }
  match task with
  | .channelOpen m => ⟨s1, .admitLookup m, []⟩
  | .globalRequest m => ⟨s1, .handleGlobal m, []⟩

def admitLookup (s : Session) (m : ChannelOpen) : Out :=
  match s.lookupChannelByPeer m.senderChannelID with
  | none => s.taskFailed (.protocol (.pendingChannelDisappeared m.senderChannelID))
  | some i => ⟨s, .admitDecide i m, []⟩

/-- `OnChannelOpen` returns its decision. -/
def admitDecide (cfg : Config) (s : Session) (i : Nat) (m : ChannelOpen) (d : Response) : Out :=
  match validateResponse cfg.limits d.code d.message d.payload with
  | some e => ⟨s, .admitAbort i (.limit e), [.onChannelOpen i m d]⟩
  | none =>
    if d.ok then ⟨s, .admitAccept i m d, [.onChannelOpen i m d]⟩
    else ⟨s, .admitReject i m d, [.onChannelOpen i m d]⟩

/-- The channel goes, and the peer is sent the rejection. -/
def admitRejectShut (s : Session) (t : Tid) (i : Nat) (m : ChannelOpen) (d : Response) : Out :=
  let s1 := s.channelShutdown i .channelClosed
  ⟨s1.addWrite t none true
      (.channelOpenResult m.senderChannelID (.reject ⟨normalizeReject d.code "channel-open-rejected",
        normalizeReject d.message "channel open rejected", d.payload⟩)) .nothing,
    .ensure s1.nextWrite .session .openReject, []⟩

def admitAccept (s : Session) (i : Nat) (m : ChannelOpen) (d : Response) : Out :=
  let c := s.chan i
  if c.state ≠ .channelOpening then s.taskFailed (.protocol (.changedDuringAdmission i))
  else
    ⟨s.setChan i { c with state := .channelOpen, gen := c.gen + 1 }, .admitActivate i m d,
      [.channelOpened i c.peerID c.localWindow c.remoteWindow c.maxLocalPacket c.maxRemotePacket]⟩

def admitActivate (cfg : Config) (s : Session) (t : Tid) (i : Nat) (m : ChannelOpen)
    (d : Response) : Out :=
  match s.activateChannel i with
  | .error e => s.taskFailed e
  | .ok s1 =>
    ⟨s1.addWrite t (some i) true
        (.channelOpenResult m.senderChannelID
          (.success ⟨i, cfg.initialWindow, cfg.maxPacketSize, d.payload⟩)) (.startWorker i),
      .ensure s1.nextWrite .session (.openAccept i), []⟩

/-- `OnGlobalRequest` returns its response. -/
def handleGlobal (cfg : Config) (s : Session) (t : Tid) (m : GlobalMsg) (r : Response) : Out :=
  if m.wantReply = false then ⟨s, .disp, [.onGlobalRequest m r]⟩
  else match validateResponse cfg.limits r.code r.message r.payload with
    | some e => ⟨s, .globalFinish m.requestID (some (.limit e)), [.onGlobalRequest m r]⟩
    | none =>
      ⟨s.addWrite t none true
          (.globalResult m.requestID
            (opResult r "global-request-rejected" "global request rejected")) .nothing,
        .ensure s.nextWrite .session (.globalResult m.requestID), [.onGlobalRequest m r]⟩

/-- The deferred `finishIncomingGlobal` of `handleGlobalRequest`. -/
def globalFinish (s : Session) (q : Nat) (e : Option Err) : Out :=
  let s1 := s.finishIncomingGlobal q
  match e with
  | some e => s1.taskFailed e
  | none => ⟨s1, .disp, []⟩

/-! ## 2. The writer -/

/-- The state with the head of a queue taken by the writer. -/
def popControl (s : Session) (w : Nat) (rest : List Nat) : Session :=
  { s.setWrite w { s.writes w with place := .writer } with controlQueue := rest }

def popOutbound (s : Session) (w : Nat) (rest : List Nat) : Session :=
  { s.setWrite w { s.writes w with place := .writer } with outboundQueue := rest }

/-- The receive on the control queue; `empty` is what an empty open queue leads to. -/
def takeControl (s : Session) (o : Bool) (empty : Option Out) : Option Out :=
  match s.controlQueue with
  | w :: rest => some ⟨s.popControl w rest, .popped w true o, []⟩
  | [] => if s.queuesClosed then some ⟨s, .select false o, []⟩ else empty

def takeOutbound (s : Session) (c : Bool) : Option Out :=
  match s.outboundQueue with
  | w :: rest => some ⟨s.popOutbound w rest, .popped w c true, []⟩
  | [] => if s.queuesClosed then some ⟨s, .select c false, []⟩ else none

/-- The head of the loop of `writerLoop` and its first `select`. -/
def select (s : Session) (c o : Bool) : Option Out :=
  if c then s.takeControl o (some ⟨s, .selectBoth c o, []⟩)
  else if o then some ⟨s, .selectBoth c o, []⟩
  else some ⟨s, .exited, []⟩

/-- The second `select`, in which either queue may win. -/
def selectBoth (s : Session) (c o : Bool) : Choice → Option Out
  | .control => if c then s.takeControl o none else none
  | .outbound => if o then s.takeOutbound c else none
  | _ => none

def popped (s : Session) (w : Nat) (c o : Bool) : Out :=
  ⟨{ s with budget := s.budget.releaseQueueBudget 1 (s.writes w).size }, .claim w c o, []⟩

/-- The compare-and-swap from queued to started. -/
def claim (s : Session) (w : Nat) (c o : Bool) : Out :=
  if (s.writes w).state = .writeQueued then
    ⟨s.setWrite w { s.writes w with state := .writeStarted }, .sending w c o, []⟩
  else ⟨s, .skip w c o, []⟩

/-- The callback of a write. -/
def runAfter (s : Session) (e : Option Err) : After → Session
  | .nothing => s
  | .startWorker i => if e.isSome then s else s.startChannelWorker i
  | .finishRequest i q => s.finishIncomingRequest i q
  | .finishGlobal q => s.finishIncomingGlobal q

/-- The buffer of a write's result channel after one more non-blocking send. -/
def putResult (x : OutboundWrite) (e : Option Err) : Option (Option Err) :=
  if x.waits then x.result.or (some e) else x.result

/-- A cancelled write is skipped. -/
def skip (s : Session) (w : Nat) (c o : Bool) : Out :=
  let s1 := s.runAfter (some .canceled) (s.writes w).after
  ⟨s1.setWrite w { s1.writes w with
      place := .dropped, result := putResult (s1.writes w) (some .canceled) }, .select c o, []⟩

/-- `wire.SendProto`: it validates the envelope, so only a valid one reaches the connection. -/
def sending (s : Session) (w : Nat) (c o : Bool) : Choice → Option Out
  | .ok =>
    if (s.writes w).envelope.valid ∧ s.connClosed = false then
      some ⟨s.setWrite w { s.writes w with place := .sent }, .written w none c o,
        [.wrote w (s.writes w).envelope]⟩
    else none
  | .fail => some ⟨s.dropWrite w, .written w (some .sendEnvelope) c o, []⟩
  | _ => none

def written (s : Session) (w : Nat) (e : Option Err) (c o : Bool) : Out :=
  ⟨s.runAfter e (s.writes w).after, .report w e c o, []⟩

def report (s : Session) (w : Nat) (e : Option Err) (c o : Bool) : Out :=
  let s1 := s.setWrite w { s.writes w with
    state := .writeDone, result := putResult (s.writes w) e }
  match e with
  | some e => ⟨s1, .shutdown (some e) .exit, []⟩
  | none => ⟨s1, .select c o, []⟩

/-! ## 3. Channel workers and the close timer -/

/-- The start of `Channel.loop`: `OnOpen` gives the application the channel. -/
def workStart (s : Session) (i : Nat) : Choice → Option Out
  | .go =>
    if (s.chan i).workerStarted ∧ s.activated then
      if (s.chanCause i).isSome then some ⟨s, .exited, []⟩
      else some ⟨s.setChan i { s.chan i with handed := true }, .work, [.onOpen i]⟩
    else none
  | .sessDone => if (s.chan i).workerStarted ∧ s.ctxErr.isSome then some ⟨s, .exited, []⟩ else none
  | _ => none

def work (s : Session) (i : Nat) : Choice → Option Out
  | .go =>
    match (s.chan i).events with
    | [] => none
    | ev :: rest => some ⟨s.setChan i { s.chan i with events := rest }, .workRelease ev, []⟩
  | .chanDone => if (s.chanCause i).isSome then some ⟨s, .exited, []⟩ else none
  | _ => none

def workRelease (s : Session) (i : Nat) (ev : ChannelEvent) : Out :=
  let s1 : Session := { s with budget := s.budget.releaseQueuedLocked i 1 ev.size }
  match ev with
  | .request m => ⟨s1, .workRequest m, []⟩
  | .eof => ⟨s1, .work, [.onEOF i]⟩
  | .close => ⟨s1, .workClose, []⟩

/-- `handleRequest`, the section that reads the peer's id. The result it will send is already
    on its way from here on, with the outcome still open. -/
def workRequest (s : Session) (t : Tid) (i : Nat) (m : RequestMsg) : Out :=
  let p := (s.chan i).peerID
  if m.wantReply then
    ⟨s.addWrite t (some i) true (.channelResult p m.requestID .unset) .nothing,
      .workRespond m p (some s.nextWrite), []⟩
  else ⟨s, .workRespond m p none, []⟩

/-- `OnRequest` returns its response. -/
def workRespond (cfg : Config) (s : Session) (i : Nat) (m : RequestMsg) (p : Nat)
    (w : Option Nat) (r : Response) : Out :=
  match w with
  | none => ⟨s, .work, [.onRequest i m r]⟩
  | some w =>
    match validateResponse cfg.limits r.code r.message r.payload with
    | some e => ⟨s.dropWrite w, .workFinish m.requestID (some (.limit e)), [.onRequest i m r]⟩
    | none =>
      ⟨s.setWrite w { s.writes w with
          envelope := .channelResult p m.requestID
            (opResult r "channel-request-rejected" "channel request rejected") },
        .ensure w (.channel i) (.channelResult m.requestID), [.onRequest i m r]⟩

/-- The deferred `finishIncomingRequest` of `handleRequest`. -/
def workFinish (s : Session) (i q : Nat) (e : Option Err) : Out :=
  let s1 := s.finishIncomingRequest i q
  match e with
  | some e => ⟨s1, .shutdown (some e) .exit, []⟩
  | none => ⟨s1, .work, []⟩

/-- `handleRemoteClose`: the section under the channel's lock, after which `OnClose` is called. -/
def workClose (s : Session) (i : Nat) : Out :=
  ⟨s.failPendingRequestsLocked i .channelClosed, .workClosed ((s.chan i).frames = []), [.onClose i]⟩

/-- The rest of `handleRemoteClose` when `OnClose` has returned. -/
def workClosed (s : Session) (i : Nat) (cancelNow : Bool) : Out :=
  ⟨if cancelNow then s.cancelChannel i .channelClosed else s, .work, []⟩

/-- `awaitCloseTimeout`: the timer fires, or the session ends. -/
def timeout (s : Session) (i : Nat) : Choice → Option Out
  | .go =>
    if (s.chan i).timerArmed then
      if (s.chan i).state ≠ .channelClosing then some ⟨s, .exited, []⟩
      else some ⟨s.setChan i { s.chan i with
          state := .channelClosed, gen := (s.chan i).gen + 1 }, .timeoutRemove, []⟩
    else none
  | .sessDone => if (s.chan i).timerArmed ∧ s.ctxErr.isSome then some ⟨s, .exited, []⟩ else none
  | _ => none

end Session

end Mygosh.Mux

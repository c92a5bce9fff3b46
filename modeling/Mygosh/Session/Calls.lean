/-
  File:      Mygosh/Session/Calls.lean
  Subject:   The calls of the application: `OpenChannel`, `SendGlobalRequest`, `Send`, `Recv`,
             `SendRequest`, `CloseWrite` and `Close`, each cut at its locks.
-/
import Mygosh.Session.Loops

namespace Mygosh.Mux

namespace Session

/-! ## 1. `OpenChannelWithHandler` and `SendGlobalRequest` -/

def openReserve (s : Session) (t : Tid) (typ : String) (p : Bytes) : Out :=
  match s.reserveLocalChannelID (newPendingChannel t typ) with
  | .error e => ⟨s, .done (.openChannel typ p (.error e)), []⟩
  | .ok s1 => ⟨s1, .openAdd s.nextLocalChannelID typ p, []⟩

def openAdd (cfg : Config) (s : Session) (i : Nat) (typ : String) (p : Bytes) : Out :=
  match s.addPendingChannel cfg.limits i none with
  | .error e => ⟨s, .done (.openChannel typ p (.error e)), []⟩
  | .ok s1 => ⟨s1, .openSend i typ p, []⟩

/-- `waitCh := ch.openWait`, then the open frame is made and handed to `sendEnvelope`. -/
def openSend (cfg : Config) (s : Session) (t : Tid) (i : Nat) (typ : String) (p : Bytes) : Out :=
  ⟨s.addWrite t none true
      (.channelOpen ⟨typ, i, cfg.initialWindow, cfg.maxPacketSize, p⟩) .nothing,
    .ensure s.nextWrite .caller (.openChannel i typ p (s.chan i).openWait), []⟩

def openWait (s : Session) (i : Nat) (typ : String) (p : Bytes) (waitCh : Bool) :
    Choice → Option Out
  | .result =>
    if waitCh then
      match (s.chan i).openResult with
      | none => none
      | some (some e) => some ⟨s, .done (.openChannel typ p (.error e)), []⟩
      | some none => some ⟨s.setChan i { s.chan i with handed := true },
          .done (.openChannel typ p (.ok i)), []⟩
    else none
  | .ctxDone => some ⟨s, .abandon i typ p .context, []⟩
  | .sessDone => if s.ctxErr.isSome then some ⟨s, .abandon i typ p s.closeCause, []⟩ else none
  | _ => none

/-- `abandonOpen`: an open that is still pending fails, a channel that is already open is
    closed. -/
def abandon (s : Session) (i : Nat) (typ : String) (p : Bytes) (e : Err) : Out :=
  let c := s.chan i
  if c.state = .channelOpening then
    ⟨s.setChan i { c with state := .channelFailed, openWait := false, gen := c.gen + 1 },
      .openRemove i typ p e, []⟩
  else ⟨s, .close i (.abandoned typ p e), []⟩

def globalNew (cfg : Config) (s : Session) (t : Tid) (typ : String) (p : Bytes) (want : Bool) :
    Out :=
  let q := s.nextGlobalRequestID
  if q = maxUint64 then ⟨s, .done (.globalRequest typ p none (.error .globalIDsExhausted)), []⟩
  else
    let s1 : Session := { s with nextGlobalRequestID := q + 1 }
    if want ∧ toU32 s.pendingGlobal.length ≥ cfg.limits.maxPendingGlobalRequests then
      ⟨s1, .done (.globalRequest typ p none (.error .pendingGlobalLimit)), []⟩
    else
      let s2 : Session := if want then { s1 with pendingGlobal := s.pendingGlobal.insert q } else s1
      ⟨s2.addWrite t none true (.globalRequest ⟨q, typ, want, p⟩) .nothing,
        .ensure s.nextWrite .caller (.globalRequest q typ p want), []⟩

def globalWait (s : Session) (q : Nat) (typ : String) (p : Bytes) : Choice → Option Out
  | .result =>
    match s.globalReplies q with
    | none => none
    | some (.response r) => some ⟨s, .done (.globalRequest typ p (some q) (.ok (some r))), []⟩
    | some (.err e) => some ⟨s, .done (.globalRequest typ p (some q) (.error e)), []⟩
  | .ctxDone => some ⟨s, .globalDrop q typ p .context, []⟩
  | .sessDone => if s.ctxErr.isSome then some ⟨s, .globalDrop q typ p s.closeCause, []⟩ else none
  | _ => none

/-- `removeGlobalWaiter`, then the error is returned. -/
def globalDrop (s : Session) (q : Nat) (typ : String) (p : Bytes) (e : Err) : Out :=
  ⟨{ s with pendingGlobal := s.pendingGlobal.filter (· ≠ q) },
    .done (.globalRequest typ p (some q) (.error e)), []⟩

/-! ## 2. `Send` and `Recv` -/

/-- The loop body of `Send`, under the channel's lock. -/
def sendLoop (s : Session) (t : Tid) (i : Nat) (frame : Bytes) : Out :=
  let c := s.chan i
  match s.channelErrorLocked i with
  | some e => ⟨s, .done (.send i frame none (some e)), []⟩
  | none =>
    if c.state.canSendData = false then
      if c.state = .channelLocalEOF ∨ c.state = .channelBothEOF then
        ⟨s, .done (.send i frame none (some .channelWriteEOF)), []⟩
      else ⟨s, .done (.send i frame none (some .channelClosed)), []⟩
    else if frame.length > c.maxRemotePacket then
      ⟨s, .done (.send i frame none
        (some (.frameExceedsPacket frame.length c.maxRemotePacket))), []⟩
    else if toU32 frame.length ≤ c.remoteWindow then
      ⟨(s.setChan i { c with
          remoteWindow := subU32 c.remoteWindow (toU32 frame.length) }).addWrite t (some i) true
          (.channelData c.peerID frame) .nothing,
        .ensure s.nextWrite .caller (.channelData i frame), []⟩
    else ⟨s, .sendWait i frame c.gen, []⟩

/-- `Send` blocked on the window. -/
def sendWait (s : Session) (i : Nat) (frame : Bytes) (gen : Nat) : Choice → Option Out
  | .ctxDone => some ⟨s, .done (.send i frame none (some .context)), []⟩
  | .chanDone =>
    if (s.chanCause i).isSome then
      some ⟨s, .done (.send i frame none (some ((s.channelErrorLocked i).getD .channelClosed))), []⟩
    else none
  | .wake => if (s.chan i).gen ≠ gen then some ⟨s, .sendLoop i frame, []⟩ else none
  | _ => none

/-- `Send` puts the bytes of a frame that was not written back. -/
def sendRefund (s : Session) (i : Nat) (frame : Bytes) (w : Nat) (e : Err) : Out :=
  let c := s.chan i
  let n := toU32 frame.length
  if subU32 maxUint32 c.remoteWindow ≥ n then
    ⟨(s.setChan i { c with remoteWindow := addU32 c.remoteWindow n, gen := c.gen + 1 }).setWrite w
      { s.writes w with undone := true }, .done (.send i frame (some w) (some e)), []⟩
  else ⟨s, .done (.send i frame (some w) (some e)), []⟩

/-- The channel of `Recv` with its first frame taken and the window credited. -/
def takeFrame (cfg : Config) (c : Channel) (frame : Bytes) (rest : List Bytes) : Channel :=
  let size := toU32 frame.length
  let pending := addU32 c.pendingWindowBytes size
  { c with
    frames := rest
    localWindow := addU32 c.localWindow size
    pendingWindowBytes := if pending ≥ cfg.windowAdjustThreshold then 0 else pending }

/-- The bytes `Recv` grants the peer with this frame, if any. -/
def adjustBytes (cfg : Config) (c : Channel) (frame : Bytes) : Nat :=
  let pending := addU32 c.pendingWindowBytes (toU32 frame.length)
  if pending ≥ cfg.windowAdjustThreshold then pending else 0

/-- The loop body of `Recv`, under the channel's lock. -/
def recvLoop (cfg : Config) (s : Session) (t : Tid) (i : Nat) : Out :=
  let c := s.chan i
  match c.frames with
  | frame :: rest =>
    let freed : Session := { s with budget := s.budget.releaseQueuedLocked i 1 frame.length }
    let s1 := freed.setChan i (takeFrame cfg c frame rest)
    let adjust := adjustBytes cfg c frame
    if adjust > 0 then
      ⟨s1.addWrite t (some i) true (.channelWindowAdjust c.peerID adjust) .nothing,
        .ensure s.nextWrite .background (.windowAdjust i frame), [.recvFrame i frame]⟩
    else ⟨s1, .done (.recv i (.ok frame)), [.recvFrame i frame]⟩
  | [] =>
    if c.state.readEOF then
      if c.state = .channelClosed then ⟨s, .recvCancel i, []⟩
      else ⟨s, .done (.recvEOF i), [.recvEOF i]⟩
    else match c.sessionErr with
      | some e =>
        if e.is .sessionClosed then ⟨s, .done (.recvEOF i), [.recvEOF i]⟩
        else ⟨s, .done (.recv i (.error e)), []⟩
      | none => ⟨s, .recvWait i c.gen, []⟩

/-- The cancellation after which `Recv` reports the end of a closed channel. -/
def recvCancel (s : Session) (i : Nat) : Out :=
  ⟨s.cancelChannel i .channelClosed, .done (.recvEOF i), [.recvEOF i]⟩

/-- `Recv` blocked on an empty queue. -/
def recvWait (s : Session) (i gen : Nat) : Choice → Option Out
  | .ctxDone => some ⟨s, .done (.recv i (.error .context)), []⟩
  | .chanDone =>
    if (s.chanCause i).isSome then
      match s.channelErrorLocked i with
      | some e =>
        if e.is .sessionClosed ∨ e.is .channelClosed then
          some ⟨s, .done (.recvEOF i), [.recvEOF i]⟩
        else some ⟨s, .done (.recv i (.error e)), []⟩
      | none => some ⟨s, .done (.recvEOF i), [.recvEOF i]⟩
    else none
  | .wake => if (s.chan i).gen ≠ gen then some ⟨s, .recvLoop i, []⟩ else none
  | _ => none

/-! ## 3. `SendRequest` -/

/-- `SendRequest`, under the channel's lock, with `reservePendingChannelRequest` inside it. -/
def requestLock (cfg : Config) (s : Session) (t : Tid) (i : Nat) (typ : String) (p : Bytes)
    (want : Bool) : Out :=
  let c := s.chan i
  let q := c.nextRequestID
  let refused (s : Session) (e : Err) : Out := ⟨s, .done (.request i typ p none (.error e)), []⟩
  match s.channelErrorLocked i with
  | some e => refused s e
  | none =>
    if c.state.allowsRequests = false then refused s .channelClosed
    else if q = maxUint64 then refused s .requestIDsExhausted
    else
      let c1 := { c with nextRequestID := q + 1 }
      if want ∧ toU32 c.pendingRequests.length ≥ cfg.limits.maxPendingChannelRequestsPerChannel then
        refused (s.setChan i c1) .pendingRequestsPerChannel
      else if want ∧ s.pendingChannelRequests ≥ cfg.limits.maxPendingChannelRequests then
        refused (s.setChan i c1) .pendingRequestLimit
      else
        let s1 : Session := if want then
            { s.setChan i { c1 with pendingRequests := c.pendingRequests.insert q } with
              pendingChannelRequests := s.pendingChannelRequests + 1 }
          else s.setChan i c1
        ⟨s1.addWrite t (some i) true (.channelRequest ⟨c.peerID, q, typ, want, p⟩) .nothing,
          .ensure s.nextWrite .caller (.channelRequest i q typ p want), []⟩

def requestWait (s : Session) (i q : Nat) (typ : String) (p : Bytes) : Choice → Option Out
  | .result =>
    match (s.chan i).replies q with
    | none => none
    | some (.response r) => some ⟨s, .done (.request i typ p (some q) (.ok (some r))), []⟩
    | some (.err e) => some ⟨s, .done (.request i typ p (some q) (.error e)), []⟩
  | .ctxDone => some ⟨s, .requestDrop i q typ p (some .context), []⟩
  | .chanDone => if (s.chanCause i).isSome then some ⟨s, .requestDrop i q typ p none, []⟩ else none
  | _ => none

/-- Where `SendRequest` goes on after `removePendingRequest`: it ends with `e`, or with the
    channel's own error, which it reads last. -/
def droppedPc (i q : Nat) (typ : String) (p : Bytes) : Option Err → Pc
  | some e => .done (.request i typ p (some q) (.error e))
  | none => .requestError i q typ p

/-- `removePendingRequest`, under the channel's lock. -/
def requestDrop (s : Session) (i q : Nat) (typ : String) (p : Bytes) (e : Option Err) : Out :=
  let c := s.chan i
  if q ∈ c.pendingRequests then
    ⟨s.setChan i { c with pendingRequests := c.pendingRequests.filter (· ≠ q) },
      .requestRelease i q typ p e, []⟩
  else ⟨s, droppedPc i q typ p e, []⟩

def requestRelease (s : Session) (i q : Nat) (typ : String) (p : Bytes) (e : Option Err) : Out :=
  ⟨{ s with pendingChannelRequests := s.pendingChannelRequests - 1 }, droppedPc i q typ p e, []⟩

/-- A nil `channelError` here would be a call that returns neither a response nor an error. -/
def requestError (s : Session) (i q : Nat) (typ : String) (p : Bytes) : Out :=
  match s.channelErrorLocked i with
  | some e => ⟨s, .done (.request i typ p (some q) (.error e)), []⟩
  | none => ⟨s, .done (.request i typ p (some q) (.ok none)), []⟩

/-! ## 4. `CloseWrite` and `Close` -/

/-- `CloseWrite`, under the channel's lock. -/
def closeWrite (s : Session) (t : Tid) (i : Nat) : Out :=
  let c := s.chan i
  let onward (state : ChannelState) : Out :=
    ⟨(s.setChan i { c with state := state, gen := c.gen + 1 }).addWrite t (some i) true
        (.channelEof c.peerID) .nothing,
      .ensure s.nextWrite .background (.channelEof i c.state), []⟩
  match s.channelErrorLocked i with
  | some e => ⟨s, .done (.closeWrite i (some e)), []⟩
  | none =>
    match c.state with
    | .channelOpen => onward .channelLocalEOF
    | .channelRemoteEOF => onward .channelBothEOF
    | .channelLocalEOF | .channelBothEOF => ⟨s, .done (.closeWrite i none), []⟩
    | _ => ⟨s, .done (.closeWrite i (some .channelClosed)), []⟩

/-- The rollback of a `CloseWrite` whose frame was not written. -/
def closeWriteUndo (s : Session) (i : Nat) (previous : ChannelState) (w : Nat) (e : Err) : Out :=
  let c := s.chan i
  if c.state = .channelLocalEOF ∨ c.state = .channelBothEOF then
    ⟨(s.setChan i { c with state := previous, gen := c.gen + 1 }).setWrite w
      { s.writes w with undone := true }, .done (.closeWrite i (some e)), []⟩
  else ⟨s, .done (.closeWrite i (some e)), []⟩

/-- The section of `Close` on an open channel. -/
def closeBegun (s : Session) (i : Nat) : Session :=
  { s with
    chan := Function.update s.chan i
      (((s.chan i).pendingFailed .channelClosed).closing.canceled s.ctxErr .channelClosed)
    budget := s.budget.discardQueuedLocked i
    pendingChannelRequests := s.pendingChannelRequests - (s.chan i).pendingRequests.length }

/-- `Close`, under the channel's lock. -/
def close (s : Session) (t : Tid) (i : Nat) (k : CloseFor) : Out :=
  let c := s.chan i
  match c.state with
  | .channelClosing | .channelClosed | .channelFailed => ⟨s, .done (closeRet i none k), []⟩
  | .channelOpening =>
    ⟨s.setChan i { c with state := .channelFailed, gen := c.gen + 1 }, .closeRemove i k,
      [.closeCalled i]⟩
  | _ =>
    ⟨(s.closeBegun i).addWrite t (some i) false (.channelClose c.peerID) .nothing,
      .reserve s.nextWrite .async (.channelClose i k), [.closeCalled i]⟩

end Session

end Mygosh.Mux

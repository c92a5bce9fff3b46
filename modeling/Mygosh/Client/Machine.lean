/-
  File:      Mygosh/Client/Machine.lean
  Subject:   The command client (`app/client/command/client.go`, `run.go`): one run of `Run`.

  Five goroutines share the client: `Run` itself, the receive loop, the stdin forwarder, the
  forwarder of resizes and the one that closes the client when the command's context ends. An action
  is one lock section or one call of one of them, or a move of the outside: the peer delivers a frame
  or closes the channel, the user cancels. The channel below is its queue and the two ways it closes:
  frames that were queued stay readable after the peer's close, and a local close drops them.
-/
import Mygosh.Command.Server

namespace Mygosh.Client

open Mux (Bytes sizeDelimited sizeScalar)
open Command (ServerFrame Exit ExitResult Stream chunkedFrames)

/-! ## 1. Server events and errors -/

/-- The errors the client tells apart; the others are their text. -/
inductive ClientError where
  | startRejected (code message : String)
  | exitStatus (status : Int)
  | exitSignal (signal : String)
  | runtime (message : String)
  | other (message : String)
  deriving DecidableEq, Repr

/-- `terminalResult`. -/
def terminalResult (result : ExitResult) : Option ClientError :=
  if result.runtimeFailure ≠ "" then some (.runtime result.runtimeFailure)
  else if result.signal ≠ "" then some (.exitSignal result.signal)
  else if result.status ≠ 0 then some (.exitStatus result.status)
  else none

/-- `ServerEvent`. -/
inductive ServerEvent where
  | startResult (accepted : Bool) (code message : String)
  | output (x : Stream) (data : Bytes)
  | exit (result : ExitResult)
  deriving DecidableEq, Repr

/-- The exit result of a decoded frame. -/
def decodeExit : Exit → ExitResult
  | .status v => ⟨v, "", ""⟩
  | .signal name => ⟨0, name, ""⟩
  | .runtimeFailure message => ⟨0, "", message⟩

/-- `DecodeServerEvent`; `none` is a frame that `unmarshalMessage` refuses. -/
def decodeServerEvent : Option ServerFrame → Except String ServerEvent
  | none => .error "decode command message"
  | some (.startResult accepted code message) =>
    if accepted && (code ≠ "" || message ≠ "") then
      .error "accepted start result contains rejection details"
    else .ok (.startResult accepted code message)
  | some (.stdout data) => .ok (.output .stdout data)
  | some (.stderr data) => .ok (.output .stderr data)
  | some (.exit result) => .ok (.exit (decodeExit result))

/-! ## 2. State -/

/-- `clientState`. -/
inductive ClientState where
  | idle
  | starting
  | running
  | exited
  | closed
  deriving DecidableEq, Repr

inductive Tid where
  | run
  | reader
  | input
  | resizer
  | canceller
  deriving DecidableEq, Repr

/-- How a read of the local stdin ended: more follows (also after `EINTR`), its end (`io.EOF`, `EIO`),
    an end without an error (closed, cancelled, `EPIPE`), or another error. -/
inductive InputEnd where
  | more
  | eof
  | quiet
  | failed
  deriving DecidableEq, Repr

/-- The parts of `finish`. -/
inductive Stage where
  | claim
  | record
  | closeConn
  | signal
  deriving DecidableEq, Repr

/-- Where a goroutine is. -/
inductive Pc where
  /-- not started, or returned -/
  | off
  /-- `Run` and `start` -/
  | begin
  | sendStart
  | awaitStarted
  | openInput
  | waiting
  /-- `receiveLoop` and `handleServerEvent` -/
  | receiving
  | handling (frame : Option ServerFrame)
  | accepting
  | reporting (result : Option ClientError)
  | writing (x : Stream)
  | recording (result : Option ClientError)
  /-- `forwardInput`, `writeStdin` and `closeStdin` -/
  | reading
  | stdin (data : Bytes) (after : InputEnd)
  | sendStdin (chunks : List Bytes) (after : InputEnd)
  | stdinEof
  | sendEof
  /-- the goroutine that forwards resizes -/
  | resizing
  | resize (rows columns : Nat)
  | sendResize
  /-- `cancelCommand` after an error -/
  | cancelling
  /-- waits for the end of the command's context -/
  | armed
  /-- `finish`, and where its caller goes on -/
  | finish (stage : Stage) (err : Option ClientError) (next : Pc)
  deriving DecidableEq, Repr

structure State where
  state : ClientState
  hasPTY : Bool
  stdinEOF : Bool
  /-- the sinks are not nil -/
  sink : Stream → Bool
  /-- the channel `started`, with room for one -/
  started : Option (Option ClientError)
  done : Bool
  waitErr : Option ClientError
  /-- `close`, the `sync.Once` of `finish`, has been entered -/
  once : Bool
  /-- the channel: its queue, closed by the peer, closed here -/
  frames : List (Option ServerFrame)
  remoteClosed : Bool
  localClosed : Bool
  /-- the command's context has ended -/
  cancelled : Bool
  pc : Tid → Pc

def State.start : State where
  state := .idle
  hasPTY := false
  stdinEOF := false
  sink _ := false
  started := none
  done := false
  waitErr := none
  once := false
  frames := []
  remoteClosed := false
  localClosed := false
  cancelled := false
  pc
    | .run => .begin
    | .canceller => .armed
    | _ => .off

def State.goto (s : State) (t : Tid) (pc : Pc) : State :=
  { s with pc := Function.update s.pc t pc }

@[simp] theorem goto_pc_self {s : State} {t : Tid} {pc : Pc} : (s.goto t pc).pc t = pc :=
  Function.update_self ..

theorem goto_pc_of_ne {s : State} {t u : Tid} {pc : Pc} (h : u ≠ t) : (s.goto t pc).pc u = s.pc u :=
  Function.update_of_ne h ..

/-- The call `c.finish(err)` of a goroutine that goes on at `next`. -/
def State.finish (s : State) (t : Tid) (err : Option ClientError) (next : Pc) : State :=
  s.goto t (.finish .claim err next)

/-! ## 3. Actions and events -/

inductive Act where
  /-- `start` up to the launch of the receive loop; `pty` is whether the request has one -/
  | start (pty : Bool)
  | sendStart (ok : Bool)
  | takeStarted
  | startCancelled
  /-- `NewPollReader`, and the launch of the forwarders; `raw` is whether the terminal is hooked -/
  | openInput (ok raw : Bool)
  | wait
  /-- `ReceiveFrame` returns the next frame, or fails -/
  | receive (ok : Bool)
  | handle
  | accept
  | report
  | write (ok : Bool)
  | record
  | read (data : Bytes) (after : InputEnd)
  | stdin
  | sendStdin (ok : Bool)
  | stdinEof
  | sendEof (ok : Bool)
  | resized (rows columns : Nat)
  | stopResizing
  | resize
  | sendResize (ok : Bool)
  | cancelCommand (t : Tid)
  | onCancel
  | finish (t : Tid)
  | deliver (frame : Option ServerFrame)
  | peerClose
  | cancel
  deriving DecidableEq, Repr

inductive Event where
  /-- a frame was accepted into the queue; the client's state then -/
  | queued (frame : Option ServerFrame) (state : ClientState)
  /-- `wait` returned -/
  | waited (result : Option ClientError)
  deriving DecidableEq, Repr

/-! ## 4. The steps -/

def protocolError (message : String) : Option ClientError := some (.other message)

def canceled : Option ClientError := some (.other "context canceled")

/-- The name of an output in the client's errors. -/
def streamName : Stream → String
  | .stdout => "stdout"
  | .stderr => "stderr"

/-- The decision of `handleServerEvent` on what it has read under the lock. -/
def State.handleServerEvent (s : State) : ServerEvent → State
  | .startResult accepted code message =>
    if s.state ≠ .starting then
      s.finish .reader (protocolError "duplicate or out-of-order start result") .off
    else if accepted then s.goto .reader .accepting
    else s.goto .reader (.reporting (some (.startRejected code message)))
  | .output x _ =>
    if s.state ≠ .running then
      s.finish .reader
        (protocolError (streamName x ++ " before start acceptance or after exit")) .off
    else if x = .stderr && s.hasPTY then
      s.finish .reader (protocolError "stderr is not legal for a PTY command") .off
    else if !s.sink x then
      s.finish .reader (protocolError (streamName x ++ " sink is not configured")) .off
    else s.goto .reader (.writing x)
  | .exit result =>
    if s.state ≠ .running then
      s.finish .reader (protocolError "duplicate or out-of-order exit") .off
    else s.goto .reader (.recording (terminalResult result))

/-- A received frame is decoded and looked at. -/
def State.handle (s : State) (frame : Option ServerFrame) : State :=
  match decodeServerEvent frame with
  | .error err => s.finish .reader (protocolError ("invalid server frame: " ++ err)) .off
  | .ok event => s.handleServerEvent event

/-- The parts of `finish`: a second caller waits for the first. -/
def State.finishStep (s : State) (t : Tid) (err : Option ClientError) (next : Pc) :
    Stage → Option State
  | .claim =>
    if !s.once then some ({ s with once := true }.goto t (.finish .record err next))
    else if s.done then some (s.goto t next)
    else none
  | .record =>
    some ({ s with
      waitErr := if s.waitErr = none then err else s.waitErr
      started := if s.state = ClientState.starting && s.started = none then some err else s.started
      state := if s.state = ClientState.exited then .exited else .closed }.goto t
        (.finish .closeConn err next))
  | .closeConn =>
    some ((if s.remoteClosed then s else { s with localClosed := true, frames := [] }).goto t
      (.finish .signal err next))
  | .signal => some ({ s with done := true }.goto t next)

/-- Where the forwarder goes on after what it has read. -/
def InputEnd.next : InputEnd → Pc
  | .more => .reading
  | .eof => .stdinEof
  | .quiet => .off
  | .failed => .cancelling

/-- A window change that `EncodeClientWindowChange` accepts. -/
def windowChangeFits (maximum rows columns : Nat) : Bool :=
  0 < rows && rows ≤ 65535 && 0 < columns && columns ≤ 65535 &&
    (maximum = 0 || sizeDelimited (sizeScalar rows + sizeScalar columns) ≤ maximum)

/-- A step of `Run`. -/
def State.runStep (s : State) : Pc → Act → Option (State × List Event)
  | .begin, .start pty =>
    if s.state ≠ .idle then some (s.finish .run canceled .off, [])
    else some (({ s with state := .starting, hasPTY := pty, sink := fun _ => true }.goto
      .reader .receiving).goto .run .sendStart, [])
  | .sendStart, .sendStart ok =>
    if ok then some (s.goto .run .awaitStarted, [])
    else some (s.finish .run (some (.other "send command start")) .off, [])
  | .awaitStarted, .takeStarted =>
    match s.started with
    | none => none
    | some none => some ({ s with started := none }.goto .run .openInput, [])
    | some (some _) => some ({ s with started := none }.finish .run canceled .off, [])
  | .awaitStarted, .startCancelled =>
    if s.cancelled then some (s.finish .run canceled .off, []) else none
  | .openInput, .openInput ok raw =>
    if !ok then some (s.finish .run canceled .off, [])
    else
      let s := (s.goto .input .reading).goto .run .waiting
      some (if raw && s.hasPTY then s.goto .resizer .resizing else s, [])
  | .waiting, .wait =>
    if s.done then
      some ({ s with cancelled := true }.finish .run canceled .off, [.waited s.waitErr])
    else none
  | _, _ => none

/-- A step of the receive loop. -/
def State.readerStep (s : State) : Pc → Act → Option State
  | .receiving, .receive ok =>
    match ok, s.frames with
    | true, frame :: frames => some ({ s with frames := frames }.goto .reader (.handling frame))
    | false, [] => some (s.finish .reader (some (.other "receive command frame")) .off)
    | _, _ => none
  | .handling frame, .handle => some (s.handle frame)
  | .accepting, .accept => some ({ s with state := .running }.goto .reader (.reporting none))
  | .reporting result, .report =>
    if s.started ≠ none then none
    else
      let s := { s with started := some result }
      match result with
      | none => some (s.goto .reader .receiving)
      | some err => some (s.finish .reader (some err) .off)
  | .writing x, .write ok =>
    if ok then some (s.goto .reader .receiving)
    else some (s.finish .reader (some (.other ("write command " ++ streamName x))) .off)
  | .recording result, .record =>
    some ({ s with state := .exited, waitErr := result }.finish .reader result .receiving)
  | _, _ => none

/-- A step of the stdin forwarder, `maximum` being `MaxSendFrameSize`. -/
def State.inputStep (maximum : Nat) (s : State) : Pc → Act → Option State
  | .reading, .read data after =>
    if data = [] then some (s.goto .input after.next) else some (s.goto .input (.stdin data after))
  | .stdin data after, .stdin =>
    if s.state ≠ .running || s.stdinEOF then some (s.goto .input .cancelling)
    else
      match chunkedFrames data maximum with
      | none => some (s.goto .input .cancelling)
      | some chunks => some (s.goto .input (.sendStdin chunks after))
  | .sendStdin chunks after, .sendStdin ok =>
    match chunks with
    | [] => if ok then some (s.goto .input after.next) else none
    | _ :: chunks =>
      if ok then some (s.goto .input (.sendStdin chunks after))
      else some (s.finish .input (some (.other "send command stdin")) .cancelling)
  | .stdinEof, .stdinEof =>
    if s.state ≠ .running || s.stdinEOF then some (s.goto .input .cancelling)
    else
      let s := { s with stdinEOF := true }
      if maximum = 0 || 2 ≤ maximum then some (s.goto .input .sendEof)
      else some (s.goto .input .cancelling)
  | .sendEof, .sendEof ok => some (s.goto .input (if ok then .off else .cancelling))
  | _, _ => none

/-- A step of the goroutine that forwards resizes. -/
def State.resizerStep (maximum : Nat) (s : State) : Pc → Act → Option State
  | .resizing, .resized rows columns => some (s.goto .resizer (.resize rows columns))
  | .resizing, .stopResizing => some (s.goto .resizer .off)
  | .resize rows columns, .resize =>
    if s.state ≠ .running || !s.hasPTY || !windowChangeFits maximum rows columns then
      some (s.goto .resizer .cancelling)
    else some (s.goto .resizer .sendResize)
  | .sendResize, .sendResize ok => some (s.goto .resizer (if ok then .resizing else .cancelling))
  | _, _ => none

/-- A step that every goroutine may take, or one of the outside. -/
def State.commonStep (s : State) : Act → Option (State × List Event)
  | .cancelCommand t =>
    match s.pc t with
    | .cancelling => some ({ s with cancelled := true }.goto t .off, [])
    | _ => none
  | .onCancel =>
    match s.pc .canceller with
    | .armed => if s.cancelled then some (s.finish .canceller canceled .off, []) else none
    | _ => none
  | .finish t =>
    match s.pc t with
    | .finish stage err next => (s.finishStep t err next stage).map (·, [])
    | _ => none
  | .deliver frame =>
    if s.remoteClosed || s.localClosed then none
    else some ({ s with frames := s.frames ++ [frame] }, [.queued frame s.state])
  | .peerClose => if s.remoteClosed then none else some ({ s with remoteClosed := true }, [])
  | .cancel => some ({ s with cancelled := true }, [])
  | _ => none

/-- One step of the client and its surroundings. -/
def State.step (maximum : Nat) (s : State) (a : Act) : Option (State × List Event) :=
  match a with
  | .start _ | .sendStart _ | .takeStarted | .startCancelled | .openInput _ _ | .wait =>
    s.runStep (s.pc .run) a
  | .receive _ | .handle | .accept | .report | .write _ | .record =>
    (s.readerStep (s.pc .reader) a).map (·, [])
  | .read _ _ | .stdin | .sendStdin _ | .stdinEof | .sendEof _ =>
    (s.inputStep maximum (s.pc .input) a).map (·, [])
  | .resized _ _ | .stopResizing | .resize | .sendResize _ =>
    (s.resizerStep maximum (s.pc .resizer) a).map (·, [])
  | _ => s.commonStep a

/-- `Run` over a connection with the given maximum frame size. -/
def client (maximum : Nat) : Lts State Act Event where
  start := .start
  step := State.step maximum

end Mygosh.Client

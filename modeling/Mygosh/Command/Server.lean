/-
  File:      Mygosh/Command/Server.lean
  Subject:   `Serve` (`lib/command/server.go`): one command protocol instance and its goroutines.

  Five goroutines share the state: the main one, a copier for each output of the process, the reader
  of client frames and the one that waits for the process. An action is one step of one of them, or of
  the outside: the connection, the process, the timer and the propagation of a context's end to its
  children. What the outside decides is part of the action: which frame arrives, what a read returns,
  whether `SendFrame` or a call on the process succeeds. `SendFrame` may succeed in any state here; a
  theorem that needs more of the connection says so in the condition on its runs.
-/
import Mygosh.Command.Codec
import Mygosh.Lts

namespace Mygosh.Command

open Mux (Bytes)
open Server (StartRequest)

/-! ## 1. State -/

/-- An output of the process. -/
inductive Stream where
  | stdout
  | stderr
  deriving DecidableEq, Repr

/-- How a read ended: more may follow, `io.EOF`, or another error. -/
inductive ReadEnd where
  | more
  | eof
  | failed (err : String)
  deriving DecidableEq, Repr

/-- Where a copier is. A finished one has sent its result to `outputs`. -/
inductive CopyPc where
  | idle
  | reading
  | sending (chunks : List Bytes) (after : ReadEnd)
  | finished (result : Option String)
  deriving DecidableEq, Repr

/-- Where the reader of client frames is; `none` is a frame that does not decode. -/
inductive InputPc where
  | idle
  | receiving
  | handling (frame : Option ClientFrame)
  | finished
  deriving DecidableEq, Repr

/-- Where the main goroutine is. -/
inductive MainPc where
  | receiving
  | starting (request : StartRequest)
  | rejecting
  | accepting (readers : Stream → Bool)
  | abandoning
  | running
  | draining
  | exiting
  | returned

/-- The process as the server sees it. -/
inductive Process where
  | absent
  | alive
  | exited (result : ExitResult)
  deriving DecidableEq, Repr

structure State where
  main : MainPc
  copier : Stream → CopyPc
  input : InputPc
  waiting : Bool
  /-- `process.Stdout()` and `process.Stderr()` are not nil -/
  readers : Stream → Bool
  hasPTY : Bool
  stdinEOF : Bool
  /-- the channels `outputs`, `inputResult` and `exitResult` -/
  outputs : List (Option String)
  inputResult : Option String
  exitResult : Option ExitResult
  pendingOutputs : Nat
  protocolFailure : Option String
  processResult : ExitResult
  /-- the contexts of the connection, of the input and of the outputs have ended -/
  connDone : Bool
  inputDone : Bool
  outputDone : Bool
  process : Process
  /-- the process still reads its stdin -/
  reads : Bool
  terminated : Bool

def State.start : State where
  main := .receiving
  copier _ := .idle
  input := .idle
  waiting := false
  readers _ := false
  hasPTY := false
  stdinEOF := false
  outputs := []
  inputResult := none
  exitResult := none
  pendingOutputs := 0
  protocolFailure := none
  processResult := ⟨0, "", ""⟩
  connDone := false
  inputDone := false
  outputDone := false
  process := .absent
  reads := true
  terminated := false

/-! ## 2. Actions and events -/

/-- What `starter.Start` returns: an error, no process, or a process with these outputs. -/
inductive StartOutcome where
  | failed
  | nothing
  | running (readers : Stream → Bool)

inductive Act where
  /-- `ReceiveFrame` of the first frame: an error, or a frame -/
  | first (frame : Option (Option ClientFrame))
  | start (outcome : StartOutcome)
  /-- `SendFrame` of the start result -/
  | result (ok : Bool)
  /-- the cases of the two select statements -/
  | takeInput
  | takeOutput
  | takeExit
  | takeConn
  | takeTimer
  | drained
  /-- `SendFrame` of the exit -/
  | exit (ok : Bool)
  | read (x : Stream) (data : Bytes) (after : ReadEnd)
  | send (x : Stream) (ok : Bool)
  | report (x : Stream)
  | receive (frame : Option (Option ClientFrame))
  /-- the call on the process that a client frame asks for -/
  | handle (ok : Bool)
  | wait
  | endConn
  | endInput
  | endOutput
  | stopReading
  | die (result : ExitResult)

inductive Event where
  | received (frame : Option ClientFrame)
  | started (request : StartRequest)
  | sent (frame : ServerFrame)
  | read (x : Stream) (data : Bytes) (after : ReadEnd)
  deriving DecidableEq

/-! ## 3. The goroutines -/

def genericRuntimeMessage : String :=
  "command terminated because of a protocol or runtime failure"

/-- The closure `fail`: the first failure is kept and terminates the process. -/
def State.fail (s : State) (err : String) : State :=
  match s.protocolFailure with
  | some _ => s
  | none => { s with protocolFailure := some err, terminated := true }

/-- The frame `sendStartResult` sends. -/
def startResultFrame (accepted : Bool) : ServerFrame :=
  if accepted then .startResult true "" ""
  else .startResult false "start-rejected" "command could not be started"

/-- The result `Serve` reports: a failure hides the one of the process. -/
def State.reported (s : State) : ExitResult :=
  match s.protocolFailure with
  | some _ => ⟨0, "", genericRuntimeMessage⟩
  | none => s.processResult

/-- The frame a copier sends for a chunk. -/
def outputFrame : Stream → Bytes → ServerFrame
  | .stdout, data => .stdout data
  | .stderr, data => .stderr data

/-- The first frame, checked to be a start request. -/
def State.first (s : State) : Option (Option ClientFrame) → State × List Event
  | none => ({ s with main := .returned }, [])
  | some (some (.start start)) =>
    match decodeStart start with
    | .error _ => ({ s with main := .rejecting }, [.received (some (.start start))])
    | .ok request =>
      ({ s with main := .starting request, hasPTY := request.pty.isSome },
        [.received (some (.start start))])
  | some frame => ({ s with main := .rejecting }, [.received frame])

/-- After the acceptance: the goroutines are started. A reader that is nil has reached its end. -/
def State.spawn (s : State) (readers : Stream → Bool) : State :=
  { s with
    main := .running
    copier := fun
      | .stdout => if readers .stdout then .reading else .sending [] .eof
      | .stderr => if readers .stderr then .reading else .idle
    readers := readers
    pendingOutputs := if readers .stderr then 2 else 1
    input := .receiving
    waiting := true }

/-- A copier ends and sends its result. -/
def State.finish (s : State) (x : Stream) (result : Option String) : State :=
  { s with
    copier := Function.update s.copier x (.finished result)
    outputs := s.outputs ++ [result] }

/-- The reader of client frames ends and sends its error. -/
def State.endInput (s : State) (err : String) : State :=
  { s with input := .finished, inputResult := some err }

/-- The switch of `receiveInput` on a frame; `ok` is what the call on the process returns. -/
def State.handle (s : State) (ok : Bool) : Option ClientFrame → State
  | none => s.endInput "invalid client frame"
  | some (.start _) => s.endInput "duplicate start"
  | some (.stdin _) =>
    if s.stdinEOF then s.endInput "stdin after EOF"
    else if ok then { s with input := .receiving }
    else s.endInput "write process stdin"
  | some .stdinEof =>
    if s.stdinEOF then s.endInput "duplicate stdin EOF"
    else if ok then { s with input := .receiving, stdinEOF := true }
    else { s with stdinEOF := true }.endInput "close process stdin"
  | some (.windowChange _ _) =>
    if !s.hasPTY then s.endInput "window change requires PTY"
    else if ok then { s with input := .receiving }
    else s.endInput "resize process PTY"

/-! ## 4. One step -/

/-- A step of the main goroutine that takes an output's result. -/
def State.takeOutput (s : State) : Option State :=
  match s.outputs with
  | [] => none
  | result :: rest =>
    let s := { s with outputs := rest, pendingOutputs := s.pendingOutputs - 1 }
    match result with
    | none => some s
    | some err => some (if s.outputDone then s else s.fail err)

/-- The two branches that leave the drain loop early. -/
def State.cut (s : State) (err : String) : State :=
  { s.fail err with outputDone := true, pendingOutputs := 0 }

/-- The deferred cancellations. -/
def State.leave (s : State) : State :=
  { s with main := .returned, inputDone := true, outputDone := true }

/-- The steps of the main goroutine, `maximum` being `MaxSendFrameSize`. -/
def State.mainStep (maximum : Nat) (s : State) : MainPc → Act → Option (State × List Event)
  | .receiving, .first frame => some (s.first frame)
  | .starting request, .start outcome =>
    match outcome with
    | .failed | .nothing => some ({ s with main := .rejecting }, [.started request])
    | .running readers =>
      some ({ s with main := .accepting readers, process := .alive }, [.started request])
  | .rejecting, .result ok =>
    if !ok then some ({ s with main := .returned }, [])
    else if (startResultFrame false).fits maximum then
      some ({ s with main := .returned }, [.sent (startResultFrame false)])
    else none
  | .accepting readers, .result ok =>
    if !ok then some ({ s with main := .abandoning, terminated := true }, [])
    else if (startResultFrame true).fits maximum then
      some (s.spawn readers, [.sent (startResultFrame true)])
    else none
  | .abandoning, .takeExit =>
    match s.process with
    | .exited _ => some ({ s with main := .returned }, [])
    | _ => none
  | .running, .takeInput =>
    match s.inputResult with
    | none => none
    | some err =>
      some (if s.inputDone then { s with inputResult := none }
        else { s with inputResult := none }.fail err, [])
  | .running, .takeOutput => s.takeOutput.map (·, [])
  | .running, .takeExit =>
    match s.exitResult with
    | none => none
    | some result =>
      some ({ s with main := .draining, exitResult := none, processResult := result
                     inputDone := true }, [])
  | .running, .takeConn => if s.connDone then some (s.fail "connection ended", []) else none
  | .draining, .takeOutput => if s.pendingOutputs = 0 then none else s.takeOutput.map (·, [])
  | .draining, .takeTimer =>
    if s.pendingOutputs = 0 then none else some (s.cut "context deadline exceeded", [])
  | .draining, .takeConn =>
    if s.pendingOutputs = 0 || !s.connDone then none else some (s.cut "connection ended", [])
  | .draining, .drained =>
    if s.pendingOutputs = 0 then some ({ s with main := .exiting }, []) else none
  | .exiting, .exit ok =>
    if !ok then some (s.leave, [])
    else if (ServerFrame.exit (exitMessage s.reported)).fits maximum then
      some (s.leave, [.sent (.exit (exitMessage s.reported))])
    else none
  | _, _ => none

/-- The steps of a copier. -/
def State.copyStep (maximum : Nat) (s : State) (x : Stream) :
    CopyPc → Act → Option (State × List Event)
  | .reading, .read _ data after =>
    if data.length > 32768 then none
    else
      match chunkedFrames data maximum with
      | none => some (s.finish x (some "maximum command frame size cannot carry data"),
          [.read x data after])
      | some chunks =>
        some ({ s with copier := Function.update s.copier x (.sending chunks after) },
          [.read x data after])
  | .sending (chunk :: chunks) after, .send _ ok =>
    if ok then
      some ({ s with copier := Function.update s.copier x (.sending chunks after) },
        [.sent (outputFrame x chunk)])
    else some (s.finish x (some "send frame"), [])
  | .sending [] after, .report _ =>
    match after with
    | .more => some ({ s with copier := Function.update s.copier x .reading }, [])
    | .eof => some (s.finish x none, [])
    | .failed err => some (s.finish x (some err), [])
  | _, _ => none

/-- The steps of the other goroutines and of the outside. -/
def State.otherStep (s : State) : Act → Option State
  | .receive frame =>
    match s.input, frame with
    | .receiving, none => some (s.endInput "receive frame")
    | .receiving, some frame => some { s with input := .handling frame }
    | _, _ => none
  | .handle ok =>
    match s.input with
    | .handling frame => some (s.handle ok frame)
    | _ => none
  | .wait =>
    match s.waiting, s.process with
    | true, .exited result => some { s with waiting := false, exitResult := some result }
    | _, _ => none
  | .endConn => some { s with connDone := true }
  | .endInput => if s.connDone then some { s with inputDone := true } else none
  | .endOutput => if s.connDone then some { s with outputDone := true } else none
  | .stopReading => some { s with reads := false }
  | .die result =>
    match s.process with
    | .alive => some { s with process := .exited result, reads := false }
    | _ => none
  | _ => none

/-- One step of the server and its surroundings. -/
def State.step (maximum : Nat) (s : State) (a : Act) : Option (State × List Event) :=
  match a with
  | .read x _ _ | .send x _ | .report x => s.copyStep maximum x (s.copier x) a
  | .receive _ | .handle _ | .wait | .endConn | .endInput | .endOutput | .stopReading | .die _ =>
    (s.otherStep a).map (·, [])
  | _ => s.mainStep maximum s.main a

/-- `Serve` over a connection with the given maximum frame size. -/
def serve (maximum : Nat) : Lts State Act Event where
  start := .start
  step := State.step maximum

/-- The first steps of an accepted shell whose process has both outputs. -/
def launch : List Act :=
  [.first (some (some (.start ⟨none, none, []⟩))), .start (.running fun _ => true), .result true]

end Mygosh.Command

/-
  File:      Mygosh/Daemon/Serve.lean
  Subject:   `runDaemon` with `serveConnection` (`app/server`), and the connection's `runtime` from
             `newRuntime` to the end (`lib/establish`).

  Each connection has a goroutine in `serveConnection`, the watcher that `newRuntime` starts, the
  handshake timer, the callback of the authentication deadline and, once accepted, a session. The
  runtime and the pending server are those of `Establish/Pending.lean`; `serveConnection` is here,
  with `BeginAccept`, which runs before there is a pending server. What the peer, the files and the
  policy decide is free. Connections share nothing but the daemon's context.
-/
import Mygosh.Establish.Pending
import Mygosh.Pool

namespace Mygosh

/-- `done` of a session is closed: `finalize` has closed the connection, and the goroutines of the
    wait group, the workers among them, have returned. -/
def Mux.Machine.over (m : Mux.Machine) : Bool :=
  (m.pc .finalizer).gone && (m.pc .receiver).gone && (m.pc .dispatcher).gone && (m.pc .writer).gone &&
    (List.range m.sess.nextLocalChannelID).all fun i =>
      !(m.sess.chan i).workerStarted || (m.pc (.worker i)).gone

namespace Daemon

open Establish (State)

/-! ## 1. State -/

/-- Where `serveConnection` is. -/
inductive Pc where
  /-- `BeginAccept`, up to the handshake -/
  | beginAccept
  | newRuntime
  /-- `RunWithTimeout` -/
  | runCause
  | setHandshaking
  | startTimer
  | handshake
  | handshakeCause (ok : Bool)
  /-- the rest of `BeginAccept` -/
  | setOwner
  | setAuthPending
  | withTimeout
  | beginServer
  | stopAuth
  | cancelAuth
  /-- `runtime.Close` on its two error paths -/
  | failing
  | failed
  | authorize
  | newRegistry
  | prepare
  | reject
  | rejecting
  | accept
  | accepting
  | wait
  /-- the deferred calls -/
  | closeSession
  | closePending
  | closing
  | returned
  deriving DecidableEq, Repr

/-- A connection: its `serveConnection`, the runtime with the pending server, and whether the
    handshake timer and the deadline's context exist. -/
structure Conn where
  pc : Pc
  runtime : Option State
  timer : Bool
  authCtx : Bool

def Conn.start : Conn := ⟨.beginAccept, none, false, false⟩

/-- `newRuntime`. Its owner is the connection below the transport, which closing the transport
    closes; a context whose parent has ended is born cancelled. The pending server is not there yet
    and its fields have their zero values. -/
def newRuntime (ctxErr : Option Nat) : State :=
  { State.start with
    runErr := ctxErr.map .parent
    afterFunc := .stopped
    phase := .accepted }

/-! ## 2. `serveConnection` -/

/-- `session.Config{}`, as `Prepare` completes it. -/
def sessionConfig : Mux.Config :=
  Mux.Config.withDefaults ⟨0, 0, 0, 0, 0, ⟨0, 0, 0, 0, 0, 0, 0, 0, 0, 0, 0, 0, 0⟩⟩

/-- What a section of `serveConnection` does to the runtime, and where it goes on. The decision and
    the two calls of `Close` run as goroutine `call 0` and `call 1` of the pending server. -/
def serveSection (cfg : Mux.Config) (r : State) (ok : Bool) :
    Pc → Option (State × Pc × List Establish.Event)
  | .runCause => some (r, if r.runErr.isSome then .failing else .setHandshaking, [])
  | .setHandshaking => some ({ r with phase := .handshaking }, .startTimer, [])
  | .startTimer => some (r, if r.owner = none then .failing else .handshake, [])
  | .handshake => some (r, .handshakeCause ok, [])
  | .handshakeCause done =>
    some (r, if r.runErr.isSome ∨ done = false then .failing else .setOwner, [])
  | .setOwner => some ({ r with owner := some .transport }, .setAuthPending, [])
  | .setAuthPending => some ({ r with phase := .authPending }, .withTimeout, [])
  | .withTimeout => some ({ r with authErr := r.runErr, afterFunc := .armed }, .beginServer, [])
  | .beginServer => some (r, if ok then .authorize else .stopAuth, [])
  | .stopAuth =>
    some ({ r with afterFunc := if r.afterFunc = .armed then .stopped else r.afterFunc },
      .cancelAuth, [])
  | .cancelAuth => some ((r.endAuth .canceled).1, .failing, (r.endAuth .canceled).2)
  | .failing => some (r.goto (.call 0) (.fail .canceled .background), .failed, [])
  | .failed => if r.pc (.call 0) = .done then some (r, .returned, []) else none
  | .authorize => some (r, if ok then .newRegistry else .reject, [])
  | .newRegistry => some (r, if ok then .prepare else .reject, [])
  | .prepare => some (r, if ok then .accept else .reject, [])
  | .reject => (r.step cfg (.reject 0)).map fun x => (x.1, .rejecting, x.2)
  | .rejecting => if r.pc (.call 0) = .done then some (r, .closePending, []) else none
  | .accept => (r.step cfg (.accept 0 true)).map fun x => (x.1, .accepting, x.2)
  -- `Accept` has returned no error where it has handed the session over
  | .accepting =>
    if r.pc (.call 0) = .done then some (r, if r.transferred then .wait else .closePending, [])
    else none
  | .wait => if r.sess.any (·.over) then some (r, .closeSession, []) else none
  -- `shutdownOnce` has run, or this call waits for it
  | .closeSession => if r.sess.any (·.sess.shutDone) then some (r, .closePending, []) else none
  | .closePending => (r.step cfg (.close 1)).map fun x => (x.1, .closing, x.2)
  | .closing => if r.pc (.call 1) = .done then some (r, .returned, []) else none
  | .beginAccept | .newRuntime | .returned => none

/-- The next section of `serveConnection`. -/
def Conn.serve (cfg : Mux.Config) (ctxErr : Option Nat) (c : Conn) (ok : Bool) :
    Option (Conn × List Establish.Event) :=
  match c.runtime with
  | none =>
    match c.pc with
    | .beginAccept => some ({ c with pc := if ctxErr.isSome then .returned else .newRuntime }, [])
    | .newRuntime => some ({ c with pc := .runCause, runtime := some (newRuntime ctxErr) }, [])
    | _ => none
  | some r =>
    (serveSection cfg r ok c.pc).map fun x =>
      ({ pc := x.2.1
         runtime := some x.1
         timer := c.timer || decide (c.pc = .startTimer ∧ r.owner ≠ none)
         authCtx := c.authCtx || decide (c.pc = .withTimeout) }, x.2.2)

/-! ## 3. The other goroutines of a connection -/

/-- What can happen beside `serveConnection`. The context of the runtime ends with the daemon's, the
    session's with the runtime's; the timer rings once it is started, also where `stopTimer` came too
    late; the deadline's context and its callback are there from `withTimeout` on. -/
def Conn.admits (c : Conn) (r : State) (ctxErr : Option Nat) : Establish.Act → Bool
  | .accept _ _ | .reject _ | .close _ => false
  | .parentCancel n => decide (ctxErr = some n)
  | .expire | .propagate | .fire => c.authCtx
  | .ring => c.timer
  | .session a =>
    match a.choice with
    | .parentCancel _ => r.runErr.isSome
    | _ => true
  | .next _ _ | .watch => true

def Conn.background (cfg : Mux.Config) (ctxErr : Option Nat) (c : Conn) (a : Establish.Act) :
    Option (Conn × List Establish.Event) :=
  match c.runtime with
  | none => none
  | some r =>
    if c.admits r ctxErr a then (r.step cfg a).map fun x => ({ c with runtime := some x.1 }, x.2)
    else none

/-! ## 4. The daemon -/

inductive ConnAct where
  | serve (ok : Bool)
  | background (a : Establish.Act)

def Conn.step (cfg : Mux.Config) (ctxErr : Option Nat) (c : Conn) :
    ConnAct → Option (Conn × List Establish.Event)
  | .serve ok => c.serve cfg ctxErr ok
  | .background a => c.background cfg ctxErr a

/-- `runDaemon`: a connection is admitted, the daemon's context ends with cause `n`, or something
    happens on a connection. -/
def daemon (cfg : Mux.Config) : Pool (Option Nat) Nat Conn ConnAct Establish.Event where
  shared := none
  share ctxErr n := ctxErr.or (some n)
  join := .start
  step := Conn.step cfg

end Daemon

end Mygosh

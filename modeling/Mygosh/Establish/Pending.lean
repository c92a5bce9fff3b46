/-
  File:      Mygosh/Establish/Pending.lean
  Subject:   `PendingServer` (`lib/establish/server.go`), the decision of `PendingServerAuth`
             (`lib/auth/server_auth.go`), and the connection's `runtime` (`lib/establish/runtime.go`).

  Any number of calls of `Accept`, `Reject` and `Close` run at once, with the callback of the
  authentication deadline, a handshake timer that `stopTimer` came too late for, and the watcher of
  the connection's context. An action is one lock section or one call of one of them. The session
  that `Accept` binds is the machine of `Session/Step.lean`; it takes its own steps from then on, and
  `Activate` is a step of `Accept`. The configuration is that of the prepared session.
-/
import Mygosh.Session.Dormant

namespace Mygosh.Establish

/-! ## 1. State -/

/-- `pendingState`. -/
inductive PendingState where
  | pendingUndecided
  | pendingAccepted
  | pendingRejected
  | pendingClosed
  deriving DecidableEq, Repr

/-- `lifecyclePhase`. -/
inductive Lifecycle where
  | accepted
  | handshaking
  | authPending
  | postAuthStarting
  | active
  | closing
  | closed
  deriving DecidableEq, Repr

/-- Errors and causes of contexts. -/
inductive Err where
  | decisionMade
  | deadlineExceeded
  | canceled
  | parent (n : Nat)
  | prepare
  | sendAuthOK
  | sendAuthReject
  | wrongState
  | closeOwner
  deriving DecidableEq, Repr

/-- What the connection's runtime closes. -/
inductive Owner where
  | transport
  | session
  deriving DecidableEq, Repr

/-- The callback that `context.AfterFunc` has registered. -/
inductive AfterFunc where
  | armed
  | fired
  | stopped
  deriving DecidableEq, Repr

inductive Tid where
  | call (n : Nat)
  | callback
  | timer
  | watcher
  deriving DecidableEq, Repr

/-- What a goroutine returns; a background one returns nothing. -/
inductive Ret where
  | accept (err : Option Err)
  | reject (errs : List Err)
  | close (err : Option Err)
  | background
  deriving DecidableEq, Repr

/-- Who runs `completeAuthDeadline`: `Reject` has the error of its answer, `Close` whether there is a
    server. -/
inductive Caller where
  | accept
  | reject (err : Option Err)
  | close (server : Bool)
  deriving DecidableEq, Repr

/-- Where a goroutine is. -/
inductive Pc where
  | idle
  /-- `Accept` after its claim -/
  | acceptPrepare
  | acceptCheck
  | acceptPhase
  | acceptBind
  | acceptOwner
  /-- `completeAuthDeadline` -/
  | stopAuth (k : Caller)
  | readCause (k : Caller)
  | cancelAuth (k : Caller) (cause : Option Err)
  /-- `PendingServerAuth.Accept`, and what follows it -/
  | acceptDecide
  | acceptSend
  | acceptAdvance
  | acceptActivate
  | acceptFinal
  | acceptRelease
  | acceptTransfer
  /-- `PendingServerAuth.Reject` -/
  | rejectDecide
  | rejectSend
  /-- `runtime.Fail` and `closeCurrentOwner` -/
  | fail (cause : Err) (ret : Ret)
  | failCancel (cause : Err) (ret : Ret)
  | takeOwner (ret : Ret)
  | closeOwner (owner : Owner) (ret : Ret)
  | done
  deriving DecidableEq, Repr

structure State where
  state : PendingState
  /-- `server` is not nil -/
  server : Bool
  transferred : Bool
  /-- `decided` of the pending authentication, and its machine's last transition -/
  decided : Bool
  authenticated : Bool
  /-- the causes of the deadline's context and of the runtime's -/
  authErr : Option Err
  runErr : Option Err
  afterFunc : AfterFunc
  owner : Option Owner
  phase : Lifecycle
  terminal : Option Err
  connClosed : Bool
  sess : Option Mux.Machine
  pc : Tid → Pc

/-- `BeginAccept` has verified the client. -/
def State.start : State where
  state := .pendingUndecided
  server := false
  transferred := false
  decided := false
  authenticated := false
  authErr := none
  runErr := none
  afterFunc := .armed
  owner := some .transport
  phase := .authPending
  terminal := none
  connClosed := false
  sess := none
  pc _ := .idle

def State.goto (s : State) (t : Tid) (pc : Pc) : State :=
  { s with pc := Function.update s.pc t pc }

/-- The error of the owner's `Close` joins what `Reject` and `Close` return. -/
def Ret.closeErr : Ret → Ret
  | .reject errs => .reject (errs ++ [.closeOwner])
  | .close _ => .close (some .closeOwner)
  | r => r

/-! ## 2. Actions and events -/

inductive Act where
  /-- the calls; `own` is whether `Accept` is given a prepared session -/
  | accept (n : Nat) (own : Bool)
  | reject (n : Nat)
  | close (n : Nat)
  /-- the next section of a goroutine; `ok` is whether what it calls succeeds -/
  | next (t : Tid) (ok : Bool)
  /-- the deadline passes, the parent's context ends, an end reaches the deadline's context -/
  | expire
  | parentCancel (n : Nat)
  | propagate
  /-- the callback, the timer and the watcher start -/
  | fire
  | ring
  | watch
  /-- a step of the bound session -/
  | session (a : Mux.Act)

inductive Event where
  | claimed (n : Nat) (next : PendingState)
  /-- the deadline's context has ended; `completeAuthDeadline` reads its cause -/
  | ended (cause : Err)
  | evaluated (n : Nat) (k : Caller) (cause : Option Err)
  /-- an answer is sent, and whether that succeeds -/
  | sentOK (n : Nat) (ok : Bool)
  | sentReject (n : Nat) (ok : Bool)
  | activated (n : Nat)
  | returned (n : Nat) (ret : Ret)
  | session (e : Mux.Event)
  deriving DecidableEq

/-- What a call's goroutine shows when it returns. -/
def Tid.returns : Tid → Ret → List Event
  | .call n, ret => [.returned n ret]
  | _, _ => []

/-! ## 3. The sections -/

/-- A frame can still be sent. -/
def State.connOpen (s : State) : Bool :=
  !s.connClosed && !(s.sess.any fun m => m.sess.connClosed)

/-- `claim`. -/
def State.claim (s : State) (n : Nat) (next : PendingState) (pc : Pc) (refused : Ret) :
    State × List Event :=
  if s.state ≠ .pendingUndecided then
    (s.goto (.call n) .done, [.returned n refused])
  else ({ s with state := next }.goto (.call n) pc, [.claimed n next])

/-- The first section of `Close`. -/
def State.closeCall (s : State) (n : Nat) : State × List Event :=
  if s.state = .pendingClosed ∨ s.transferred = true then
    (s.goto (.call n) .done, [.returned n (.close none)])
  else if s.state = .pendingUndecided then
    ({ s with state := .pendingClosed }.goto (.call n) (.stopAuth (.close s.server)),
      [.claimed n .pendingClosed])
  else (s.goto (.call n) (.stopAuth (.close s.server)), [])

/-- A goroutine returns. -/
def State.ret (s : State) (t : Tid) (r : Ret) : State × List Event := (s.goto t .done, t.returns r)

/-- What follows `completeAuthDeadline`. -/
def Caller.after (cause : Option Err) : Caller → Pc
  | .accept =>
    match cause with
    | some e => .fail e (.accept (some e))
    | none => .acceptDecide
  | .reject err => .fail .canceled (.reject (err.toList ++ cause.toList))
  | .close server =>
    if server then .closeOwner .session (.close none) else .fail .canceled (.close none)

/-- The deadline's context ends, unless it has. -/
def State.endAuth (s : State) (cause : Err) : State × List Event :=
  match s.authErr with
  | some _ => (s, [])
  | none => ({ s with authErr := some cause }, [.ended cause])

/-- The next section of a goroutine. -/
def State.section (s : State) (t : Tid) (ok : Bool) : Pc → Option (State × List Event)
  | .acceptPrepare =>
    if ok then some (s.goto t .acceptCheck, [])
    else some (s.goto t (.fail .prepare (.accept (some .prepare))), [])
  | .acceptCheck =>
    match s.authErr with
    | some e => some (s.goto t (.fail e (.accept (some e))), [])
    | none => some (s.goto t .acceptPhase, [])
  | .acceptPhase => some ({ s with phase := .postAuthStarting }.goto t .acceptBind, [])
  | .acceptBind =>
    match s.runErr with
    | some e => some (s.goto t (.fail e (.accept (some e))), [])
    | none => some ({ s with sess := some Mux.Machine.start }.goto t .acceptOwner, [])
  | .acceptOwner => some ({ s with owner := some .session }.goto t (.stopAuth .accept), [])
  | .stopAuth k =>
    some ({ s with afterFunc := if s.afterFunc = AfterFunc.armed then .stopped else s.afterFunc }.goto t
      (.readCause k), [])
  | .readCause k =>
    match t with
    | .call n => some (s.goto t (.cancelAuth k s.authErr), [.evaluated n k s.authErr])
    | _ => none
  | .cancelAuth k cause =>
    let r := s.endAuth .canceled
    some (r.1.goto t (k.after cause), r.2)
  | .acceptDecide =>
    if s.decided then some (s.goto t (.fail .decisionMade (.accept (some .decisionMade))), [])
    else some ({ s with decided := true }.goto t .acceptSend, [])
  | .acceptSend =>
    match t with
    | .call n =>
      if ok then
        if s.connOpen then some (s.goto t .acceptAdvance, [.sentOK n true]) else none
      else some (s.goto t (.fail .sendAuthOK (.accept (some .sendAuthOK))), [.sentOK n false])
    | _ => none
  | .acceptAdvance =>
    if s.authenticated then some (s.goto t (.fail .wrongState (.accept (some .wrongState))), [])
    else some ({ s with authenticated := true }.goto t .acceptActivate, [])
  | .acceptActivate =>
    match t, s.sess with
    | .call n, some m =>
      some ({ s with sess := some { m with sess := { m.sess with activated := true } } }.goto t
        .acceptFinal, [.activated n])
    | _, _ => none
  | .acceptFinal =>
    match s.runErr with
    | some e => some (s.goto t (.fail e (.accept (some e))), [])
    | none => some (s.goto t .acceptRelease, [])
  | .acceptRelease =>
    some ({ s with owner := none
                   phase := if s.phase = Lifecycle.closing ∨ s.phase = Lifecycle.closed then s.phase
                     else .active }.goto t .acceptTransfer, [])
  | .acceptTransfer => some ({ s with server := true, transferred := true }.ret t (.accept none))
  | .rejectDecide =>
    if s.decided then some (s.goto t (.stopAuth (.reject (some .decisionMade))), [])
    else some ({ s with decided := true }.goto t .rejectSend, [])
  | .rejectSend =>
    match t with
    | .call n =>
      if ok then
        if s.connOpen then some (s.goto t (.stopAuth (.reject none)), [.sentReject n true])
        else none
      else some (s.goto t (.stopAuth (.reject (some .sendAuthReject))), [.sentReject n false])
    | _ => none
  | .fail cause ret =>
    some ({ s with terminal := s.terminal.or (some cause), phase := .closing }.goto t
      (.failCancel cause ret), [])
  | .failCancel cause ret =>
    some ({ s with runErr := s.runErr.or (some cause) }.goto t (.takeOwner ret), [])
  | .takeOwner ret =>
    let s' := { s with owner := none, phase := if s.phase = Lifecycle.closing then .closed else s.phase }
    match s.owner with
    | none => some (s'.ret t ret)
    | some owner => some (s'.goto t (.closeOwner owner ret), [])
  | .closeOwner owner ret =>
    some ({ s with connClosed := s.connClosed || decide (owner = Owner.transport) }.ret t
      (if ok then ret else ret.closeErr))
  | .idle | .done => none

/-! ## 4. One step -/

/-- A step of the bound session other than its activation. -/
def State.sessionStep (cfg : Mux.Config) (s : State) (a : Mux.Act) : Option (State × List Event) :=
  match s.sess with
  | none => none
  | some m =>
    if a.choice = .activate then none
    else (m.step cfg a).map fun r => ({ s with sess := some r.1 }, r.2.map .session)

def State.step (cfg : Mux.Config) (s : State) : Act → Option (State × List Event)
  | .accept n own =>
    if s.pc (.call n) ≠ .idle then none
    else some (s.claim n .pendingAccepted (if own then .acceptCheck else .acceptPrepare)
      (.accept (some .decisionMade)))
  | .reject n =>
    if s.pc (.call n) ≠ .idle then none
    else some (s.claim n .pendingRejected .rejectDecide (.reject [.decisionMade]))
  | .close n => if s.pc (.call n) ≠ .idle then none else some (s.closeCall n)
  | .next t ok => s.section t ok (s.pc t)
  | .expire => some (s.endAuth .deadlineExceeded)
  | .parentCancel n => some ({ s with runErr := s.runErr.or (some (.parent n)) }, [])
  | .propagate => s.runErr.map s.endAuth
  | .fire =>
    match s.afterFunc, s.authErr with
    | .armed, some e =>
      some ({ s with afterFunc := .fired }.goto .callback (.fail e .background), [])
    | _, _ => none
  | .ring =>
    if s.pc .timer ≠ .idle then none
    else some (s.goto .timer (.fail .deadlineExceeded .background), [])
  | .watch =>
    if s.runErr.isSome = true ∧ s.pc .watcher = .idle then
      some (s.goto .watcher (.takeOwner .background), [])
    else none
  | .session a => s.sessionStep cfg a

/-- A verified client under concurrent decisions. -/
def pending (cfg : Mux.Config) : Lts State Act Event where
  start := .start
  step := State.step cfg

end Mygosh.Establish

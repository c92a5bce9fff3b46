/-
  File:      Mygosh/Process/Runner.lean
  Subject:   A running process (`app/server/process/runner.go`): `wait`, `Terminate`, `terminate` and
             `Wait` as goroutines over one record.

  An action is one lock section, one channel operation or one system call of one goroutine. The process
  group is not restricted: `Kill(group, 0)` may find it or not at any time, the timer may fire at any
  tick, and `cmd.Wait` returns when and what it likes. `terminate` runs in up to two goroutines, in
  that of `wait` and in the one that `Terminate` starts.
-/
import Mygosh.Command.Codec
import Mygosh.Lts

namespace Mygosh.Runner

open Function (update)
open Command (ExitResult)

/-! ## 1. Results -/

/-- What `cmd.Wait` can return besides nil: another error than an `ExitError`, one without a status of
    this system, the end by a signal with its name and its text, or an exit status. -/
inductive WaitErr where
  | other
  | noStatus
  | signaled (name text : String)
  | exited (status : Int)
  deriving DecidableEq, Repr

/-- `exitResult`. -/
def exitResult : Option WaitErr → ExitResult
  | none => ⟨0, "", ""⟩
  | some .other => ⟨0, "", "process wait failed"⟩
  | some .noStatus => ⟨0, "", "process status is unavailable"⟩
  | some (.signaled name text) => ⟨0, if name = "" then text else name, ""⟩
  | some (.exited status) => ⟨status, "", ""⟩

/-! ## 2. State -/

/-- `sync.Once`. -/
inductive Once where
  | fresh
  | running
  | finished
  deriving DecidableEq, Repr

/-- `runningProcess`, the fields its end depends on; `process` is the id in `cmd.Process`. -/
structure RunningProcess where
  process : Option Nat
  stdinClosed : Bool
  processWaitDone : Bool
  done : Bool
  result : ExitResult
  terminating : Bool
  completed : Bool
  doneOnce : Bool
  terminateOnce : Once
  deriving DecidableEq, Repr

/-- Where `terminate` is. -/
inductive LoopPc where
  | idle
  | closeStdin
  | checkProcess
  | sigterm
  | poll
  | select
  | sigkill
  | awaitWait
  | complete
  | closeDone
  | ended
  deriving DecidableEq, Repr

/-- Where `wait` is. -/
inductive WaiterPc where
  | cmdWait
  | store (result : ExitResult)
  | announce
  | check
  | looping (l : LoopPc)
  | ended
  deriving DecidableEq, Repr

/-- Where a call of `Terminate` is. -/
inductive CallPc where
  | idle
  | enter
  | lock
  | spawn
  | leave
  | returned
  deriving DecidableEq, Repr

/-- Where the goroutine of `Start` is that watches the context. -/
inductive WatcherPc where
  | select
  | calling (c : CallPc)
  | ended
  deriving DecidableEq, Repr

/-- Where a call of `Wait` is. -/
inductive WaitPc where
  | idle
  | awaitDone
  | read
  | returned
  deriving DecidableEq, Repr

structure State where
  proc : RunningProcess
  ctxDone : Bool
  waiter : WaiterPc
  watcher : WatcherPc
  /-- the goroutine that `Terminate` starts -/
  loop : LoopPc
  calls : Nat → CallPc
  waits : Nat → WaitPc

/-- `Start` has started the process and its two goroutines. -/
def State.start (pid : Nat) : State where
  proc := ⟨some pid, false, false, false, ⟨0, "", ""⟩, false, false, false, .fresh⟩
  ctxDone := false
  waiter := .cmdWait
  watcher := .select
  loop := .idle
  calls _ := .idle
  waits _ := .idle

/-! ## 3. Actions and events -/

/-- What a step leaves open: the only way on (`go`), what `cmd.Wait` returns, what `Kill(group, 0)`
    finds, the ready branch of a `select`. -/
inductive Choice where
  | go
  | exited (err : Option WaitErr)
  | gone
  | alive
  | timer
  | tick
  | ctxDone
  | procDone
  deriving DecidableEq, Repr

inductive Signal where
  | sigterm
  | sigkill
  deriving DecidableEq, Repr

inductive Event where
  | reaped (err : Option WaitErr)
  | stored (result : ExitResult)
  | signal (sig : Signal)
  | completed
  | closedDone
  | returned (n : Nat) (result : ExitResult)
  deriving DecidableEq, Repr

inductive Act where
  /-- the context ends; calls of `Terminate` and `Wait` are made -/
  | cancel
  | terminate (n : Nat)
  | wait (n : Nat)
  /-- the next section of a goroutine -/
  | waiter (c : Choice)
  | watcher (c : Choice)
  | loop (c : Choice)
  | call (n : Nat)
  | waiting (n : Nat)
  deriving DecidableEq, Repr

/-! ## 4. The sections -/

/-- `terminate`. -/
def loopSection (p : RunningProcess) :
    LoopPc → Choice → Option (RunningProcess × LoopPc × List Event)
  | .closeStdin, .go => some ({ p with stdinClosed := true }, .checkProcess, [])
  | .checkProcess, .go =>
    match p.process with
    | none => some (p, .complete, [])
    | some _ => some (p, .sigterm, [])
  | .sigterm, .go => some (p, .poll, [.signal .sigterm])
  | .poll, .gone => some (p, .awaitWait, [])
  | .poll, .alive => some (p, .select, [])
  | .select, .timer => some (p, .sigkill, [])
  | .select, .tick => some (p, .poll, [])
  | .sigkill, .go => some (p, .awaitWait, [.signal .sigkill])
  | .awaitWait, .go => if p.processWaitDone then some (p, .complete, []) else none
  | .complete, .go => some ({ p with completed := true }, .closeDone, [.completed])
  | .closeDone, .go =>
    if p.doneOnce then some (p, .ended, [])
    else some ({ p with doneOnce := true, done := true }, .ended, [.closedDone])
  | _, _ => none

/-- `wait`. -/
def waiterSection (p : RunningProcess) :
    WaiterPc → Choice → Option (RunningProcess × WaiterPc × List Event)
  | .cmdWait, .exited err => some (p, .store (exitResult err), [.reaped err])
  | .store result, .go => some ({ p with result := result }, .announce, [.stored result])
  | .announce, .go => some ({ p with processWaitDone := true }, .check, [])
  | .check, .go =>
    if p.terminating then some (p, .ended, [])
    else some ({ p with terminating := true }, .looping .closeStdin, [])
  | .looping l, c => (loopSection p l c).map fun r => (r.1, .looping r.2.1, r.2.2)
  | _, _ => none

/-- `Terminate`, with what becomes of the goroutine it starts. -/
def callSection (p : RunningProcess) (loop : LoopPc) :
    CallPc → Option (RunningProcess × LoopPc × CallPc)
  | .enter =>
    match p.terminateOnce with
    | .fresh => some ({ p with terminateOnce := .running }, loop, .lock)
    | .running => none
    | .finished => some (p, loop, .returned)
  | .lock =>
    if p.completed then some (p, loop, .leave)
    else some ({ p with terminating := true }, loop, .spawn)
  | .spawn => some (p, .closeStdin, .leave)
  | .leave => some ({ p with terminateOnce := .finished }, loop, .returned)
  | _ => none

/-- One action. -/
def State.step (s : State) : Act → Option (State × List Event)
  | .cancel => some ({ s with ctxDone := true }, [])
  | .terminate n =>
    if s.calls n = .idle then some ({ s with calls := update s.calls n .enter }, [])
    else none
  | .wait n =>
    if s.waits n = .idle then some ({ s with waits := update s.waits n .awaitDone }, [])
    else none
  | .waiter c =>
    (waiterSection s.proc s.waiter c).map fun r => ({ s with proc := r.1, waiter := r.2.1 }, r.2.2)
  | .watcher c =>
    match s.watcher, c with
    | .select, .ctxDone =>
      if s.ctxDone then some ({ s with watcher := .calling .enter }, []) else none
    | .select, .procDone => if s.proc.done then some ({ s with watcher := .ended }, []) else none
    | .calling pc, .go =>
      (callSection s.proc s.loop pc).map fun r =>
        ({ s with proc := r.1, loop := r.2.1, watcher := .calling r.2.2 }, [])
    | _, _ => none
  | .loop c =>
    (loopSection s.proc s.loop c).map fun r => ({ s with proc := r.1, loop := r.2.1 }, r.2.2)
  | .call n =>
    (callSection s.proc s.loop (s.calls n)).map fun r =>
      ({ s with proc := r.1, loop := r.2.1, calls := update s.calls n r.2.2 }, [])
  | .waiting n =>
    match s.waits n with
    | .awaitDone =>
      if s.proc.done then some ({ s with waits := update s.waits n .read }, []) else none
    | .read => some ({ s with waits := update s.waits n .returned }, [.returned n s.proc.result])
    | _ => none

/-- The process with the id `pid`. -/
def runner (pid : Nat) : Lts State Act Event := ⟨.start pid, State.step⟩

/-! ## 5. What a section does -/

section Effects

variable {p p' : RunningProcess} {l l' : LoopPc} {evs : List Event}

inductive LoopEffect (p : RunningProcess) :
    LoopPc → RunningProcess → LoopPc → List Event → Prop where
  | closeStdin : LoopEffect p .closeStdin { p with stdinClosed := true } .checkProcess []
  | noProcess (h : p.process = none) : LoopEffect p .checkProcess p .complete []
  | hasProcess : LoopEffect p .checkProcess p .sigterm []
  | sigterm : LoopEffect p .sigterm p .poll [.signal .sigterm]
  | gone : LoopEffect p .poll p .awaitWait []
  | alive : LoopEffect p .poll p .select []
  | timer : LoopEffect p .select p .sigkill []
  | tick : LoopEffect p .select p .poll []
  | sigkill : LoopEffect p .sigkill p .awaitWait [.signal .sigkill]
  | reaped (h : p.processWaitDone = true) : LoopEffect p .awaitWait p .complete []
  | complete : LoopEffect p .complete { p with completed := true } .closeDone [.completed]
  | closeDone (h : p.doneOnce = false) :
      LoopEffect p .closeDone { p with doneOnce := true, done := true } .ended [.closedDone]
  | closedBefore (h : p.doneOnce = true) : LoopEffect p .closeDone p .ended []

theorem loopSection_effect {c : Choice} (h : loopSection p l c = some (p', l', evs)) :
    LoopEffect p l p' l' evs := by
  unfold loopSection at h
  split at h
  · cases h; exact .closeStdin
  · split at h
    · cases h; exact .noProcess ‹_›
    · cases h; exact .hasProcess
  · cases h; exact .sigterm
  · cases h; exact .gone
  · cases h; exact .alive
  · cases h; exact .timer
  · cases h; exact .tick
  · cases h; exact .sigkill
  · split_ifs at h with hw
    cases h
    exact .reaped hw
  · cases h; exact .complete
  · split_ifs at h with ho
    · cases h; exact .closedBefore ho
    · cases h; exact .closeDone (Bool.eq_false_iff.mpr ho)
  · cases h

inductive WaiterEffect (p : RunningProcess) :
    WaiterPc → RunningProcess → WaiterPc → List Event → Prop where
  | reaped (err : Option WaitErr) :
      WaiterEffect p .cmdWait p (.store (exitResult err)) [.reaped err]
  | stored (result : ExitResult) :
      WaiterEffect p (.store result) { p with result := result } .announce [.stored result]
  | announced : WaiterEffect p .announce { p with processWaitDone := true } .check []
  | taken (h : p.terminating = true) : WaiterEffect p .check p .ended []
  | terminates (h : p.terminating = false) :
      WaiterEffect p .check { p with terminating := true } (.looping .closeStdin) []
  | loop {p' : RunningProcess} {l l' : LoopPc} {evs : List Event} (h : LoopEffect p l p' l' evs) :
      WaiterEffect p (.looping l) p' (.looping l') evs

theorem waiterSection_effect {w w' : WaiterPc} {c : Choice}
    (h : waiterSection p w c = some (p', w', evs)) : WaiterEffect p w p' w' evs := by
  unfold waiterSection at h
  split at h
  · cases h; exact .reaped _
  · cases h; exact .stored _
  · cases h; exact .announced
  · split_ifs at h with ht
    · cases h; exact .taken ht
    · cases h; exact .terminates (Bool.eq_false_iff.mpr ht)
  · obtain ⟨⟨q, k, es⟩, hloop, heq⟩ := Option.map_eq_some_iff.mp h
    cases heq
    exact .loop (loopSection_effect hloop)
  · cases h

inductive CallEffect (p : RunningProcess) (l : LoopPc) :
    CallPc → RunningProcess → LoopPc → CallPc → Prop where
  | first (h : p.terminateOnce = .fresh) :
      CallEffect p l .enter { p with terminateOnce := .running } l .lock
  | later (h : p.terminateOnce = .finished) : CallEffect p l .enter p l .returned
  | tooLate (h : p.completed = true) : CallEffect p l .lock p l .leave
  | mark (h : p.completed = false) : CallEffect p l .lock { p with terminating := true } l .spawn
  | spawn : CallEffect p l .spawn p .closeStdin .leave
  | leave : CallEffect p l .leave { p with terminateOnce := .finished } l .returned

theorem callSection_effect {c c' : CallPc} (h : callSection p l c = some (p', l', c')) :
    CallEffect p l c p' l' c' := by
  unfold callSection at h
  split at h
  · split at h
    · cases h; exact .first ‹_›
    · cases h
    · cases h; exact .later ‹_›
  · split_ifs at h with hc
    · cases h; exact .tooLate hc
    · cases h; exact .mark (Bool.eq_false_iff.mpr hc)
  · cases h; exact .spawn
  · cases h; exact .leave
  · cases h

/-- **One step**, by the goroutine that takes it. -/
inductive StepEffect (s : State) : State → List Event → Prop where
  | cancel : StepEffect s { s with ctxDone := true } []
  | terminate (n : Nat) (h : s.calls n = .idle) :
      StepEffect s { s with calls := update s.calls n .enter } []
  | wait (n : Nat) (h : s.waits n = .idle) :
      StepEffect s { s with waits := update s.waits n .awaitDone } []
  | waiter {p' : RunningProcess} {w' : WaiterPc} {evs : List Event}
      (h : WaiterEffect s.proc s.waiter p' w' evs) :
      StepEffect s { s with proc := p', waiter := w' } evs
  | loop {p' : RunningProcess} {l' : LoopPc} {evs : List Event}
      (h : LoopEffect s.proc s.loop p' l' evs) : StepEffect s { s with proc := p', loop := l' } evs
  | watch {w' : WatcherPc} (h : s.watcher = .select) (hw : w' = .calling .enter ∨ w' = .ended) :
      StepEffect s { s with watcher := w' } []
  | watcherCall {p' : RunningProcess} {l' : LoopPc} {c c' : CallPc}
      (hw : s.watcher = .calling c) (h : CallEffect s.proc s.loop c p' l' c') :
      StepEffect s { s with proc := p', loop := l', watcher := .calling c' } []
  | call (n : Nat) {p' : RunningProcess} {l' : LoopPc} {c' : CallPc}
      (h : CallEffect s.proc s.loop (s.calls n) p' l' c') :
      StepEffect s { s with proc := p', loop := l', calls := update s.calls n c' } []
  | await (n : Nat) (h : s.waits n = .awaitDone) (hdone : s.proc.done = true) :
      StepEffect s { s with waits := update s.waits n .read } []
  | read (n : Nat) (h : s.waits n = .read) :
      StepEffect s { s with waits := update s.waits n .returned } [.returned n s.proc.result]

theorem step_effect {s s' : State} {a : Act} (h : s.step a = some (s', evs)) :
    StepEffect s s' evs := by
  cases a with
  | cancel => cases h; exact .cancel
  | terminate n =>
    simp only [State.step] at h
    split_ifs at h with hn
    cases h
    exact .terminate n hn
  | wait n =>
    simp only [State.step] at h
    split_ifs at h with hn
    cases h
    exact .wait n hn
  | waiter c =>
    obtain ⟨⟨p', w', es⟩, hw, heq⟩ := Option.map_eq_some_iff.mp h
    cases heq
    exact .waiter (waiterSection_effect hw)
  | loop c =>
    obtain ⟨⟨p', l', es⟩, hl, heq⟩ := Option.map_eq_some_iff.mp h
    cases heq
    exact .loop (loopSection_effect hl)
  | call n =>
    obtain ⟨⟨p', l', c'⟩, hc, heq⟩ := Option.map_eq_some_iff.mp h
    cases heq
    exact .call n (callSection_effect hc)
  | watcher c =>
    simp only [State.step] at h
    split at h
    · split_ifs at h with hctx
      cases h
      exact .watch ‹_› (.inl rfl)
    · split_ifs at h with hdone
      cases h
      exact .watch ‹_› (.inr rfl)
    · obtain ⟨⟨p', l', c'⟩, hc, heq⟩ := Option.map_eq_some_iff.mp h
      cases heq
      exact .watcherCall ‹_› (callSection_effect hc)
    · cases h
  | waiting n =>
    simp only [State.step] at h
    split at h
    · split_ifs at h with hdone
      cases h
      exact .await n ‹_› hdone
    · cases h
      exact .read n ‹_›
    · cases h

end Effects

end Mygosh.Runner

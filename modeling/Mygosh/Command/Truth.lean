/-
  File:      Mygosh/Command/Truth.lean
  Subject:   The exit a server reports is the one its process ended with.

  The surroundings are as the protocol wants them: the client sends legal frames and keeps its channel
  open, the process ends on its own and its outputs end in time. A write to the process's stdin may
  fail when the process reads no more, and so may a resize once the end of the output has closed the
  terminal. Such an error, seen before the exit, replaces the result of the process; the theorem says
  what holds in runs without it.
-/
import Mygosh.Command.Trace

namespace Mygosh.Command

open Mux (Bytes)

/-! ## 1. The surroundings -/

/-- A frame the client may send after its start. -/
def State.legal (s : State) : Option ClientFrame → Bool
  | some (.stdin _) | some .stdinEof => !s.stdinEOF
  | some (.windowChange _ _) => s.hasPTY
  | _ => false

/-- A read of the output has ended, or its last data is being sent. -/
def CopyPc.ended : CopyPc → Bool
  | .sending _ .more => false
  | .sending _ _ | .finished _ => true
  | _ => false

/-- The terminal is closed: `eofOnPTYClose` closes it when a read ends, and it is the stdin as well. -/
def State.hungUp (s : State) : Bool := s.hasPTY && (s.copier .stdout).ended

/-- The call on the process that the frame asks for may fail: its context has ended, the terminal it
    is for is closed, or it is a write to a process that reads no more. -/
def State.mayFail (s : State) : Option ClientFrame → Bool
  | some (.stdin _) => s.inputDone || s.hungUp || !s.reads
  | some (.windowChange _ _) => s.inputDone || s.hungUp
  | _ => s.inputDone

/-- What a client that follows the protocol, its connection and a process that ends on its own do. -/
def Cooperates (s : State) : Act → Bool
  | .endConn | .takeTimer => false
  | .receive none => s.inputDone
  | .receive (some frame) => s.legal frame
  | .handle ok =>
    match s.input with
    | .handling frame => ok || s.mayFail frame
    | _ => true
  | .read _ _ (.failed _) => false
  | .send _ ok => ok
  | .die _ => !s.terminated
  | _ => true

/-- Until the server has seen the exit, stdin is written to a process that reads it, and a terminal is
    written to and resized while it is open. -/
def Reaches (s : State) : Act → Bool
  | .handle _ =>
    match s.input with
    | .handling (some (.stdin _)) => s.inputDone || !s.hungUp && s.reads
    | .handling (some (.windowChange _ _)) => s.inputDone || !s.hungUp
    | _ => true
  | _ => true

/-! ## 2. Nothing fails -/

/-- No failure has been seen and none is under way. -/
structure Unfailed (s : State) : Prop where
  conn : s.connDone = false
  failure : s.protocolFailure = none
  outputs : ∀ result ∈ s.outputs, result = none
  copiers : ∀ x chunks err, s.copier x ≠ .sending chunks (.failed err)
  input : ∀ err, s.inputResult = some err → s.inputDone = true
  legal : ∀ frame, s.input = .handling frame → s.legal frame = true
  early : s.main = .receiving → s.input = .idle

section Unfailed

variable {maximum : Nat} {s s' : State} {a : Act} {evs : List Event}

/-- A handled frame is answered without an error, or after the exit has been seen. -/
theorem Unfailed.handled {frame : Option ClientFrame} {ok : Bool} (hU : Unfailed s)
    (h : s.input = .handling frame) (hc : Cooperates s (.handle ok) = true)
    (hr : Reaches s (.handle ok) = true) : Unfailed (s.handle ok frame) := by
  have hlegal := hU.legal frame h
  have hok : ok = true ∨ s.inputDone = true := by
    simp only [Cooperates, Reaches, h] at hc hr
    rcases frame with _ | _ | _ | _ | _
    all_goals simp only [State.mayFail] at hc hr
    all_goals grind
  have hearly : s.main ≠ .receiving := fun hm => by
    rw [hU.early hm] at h
    cases h
  have hend : s.inputDone = true → ∀ e err, Unfailed ({ s with stdinEOF := e }.endInput err) :=
    fun hd e err => ⟨hU.conn, hU.failure, hU.outputs, hU.copiers, fun _ _ => hd,
      (fun _ h => nomatch h), fun hm => absurd hm hearly⟩
  have hnext : ∀ e, Unfailed { s with stdinEOF := e, input := .receiving } := fun e =>
    ⟨hU.conn, hU.failure, hU.outputs, hU.copiers, hU.input, (fun _ h => nomatch h),
      fun hm => absurd hm hearly⟩
  rcases frame with _ | _ | _ | _ | _
  case none => cases hlegal
  case some.start => cases hlegal
  case some.stdin data =>
    simp only [State.legal, Bool.not_eq_true'] at hlegal
    simp only [State.handle]
    rw [if_neg (Bool.eq_false_iff.mp hlegal)]
    split_ifs with ho
    · exact hnext s.stdinEOF
    · exact hend (hok.resolve_left ho) s.stdinEOF _
  case some.stdinEof =>
    simp only [State.legal, Bool.not_eq_true'] at hlegal
    simp only [State.handle]
    rw [if_neg (Bool.eq_false_iff.mp hlegal)]
    split_ifs with ho
    · exact hnext true
    · exact hend (hok.resolve_left ho) true _
  case some.windowChange rows columns =>
    simp only [State.legal] at hlegal
    simp only [State.handle]
    rw [if_neg (by rw [hlegal]; decide)]
    split_ifs with ho
    · exact hnext s.stdinEOF
    · exact hend (hok.resolve_left ho) s.stdinEOF _

/-- What `Unfailed` depends on, for steps of the main goroutine and of the outside. -/
theorem Unfailed.congr (hU : Unfailed s) (hconn : s'.connDone = s.connDone)
    (hf : s'.protocolFailure = s.protocolFailure) (ho : s'.outputs ⊆ s.outputs)
    (hc : s'.copier = s.copier) (hr : s'.inputResult = none ∨ s'.inputResult = s.inputResult)
    (hd : s.inputDone = true → s'.inputDone = true) (hi : s'.input = s.input)
    (he : s'.stdinEOF = s.stdinEOF) (hp : s.main ≠ .receiving → s'.hasPTY = s.hasPTY)
    (hm : s'.main = .receiving → s.main = .receiving) : Unfailed s' where
  conn := hconn.trans hU.conn
  failure := hf.trans hU.failure
  outputs result h := hU.outputs result (ho h)
  copiers := by
    rw [hc]
    exact hU.copiers
  input err h := by
    rcases hr with hr | hr <;> rw [hr] at h
    · cases h
    · exact hd (hU.input err h)
  legal frame h := by
    rw [hi] at h
    have hmain : s.main ≠ .receiving := fun hm => by
      rw [hU.early hm] at h
      cases h
    have := hU.legal frame h
    unfold State.legal at this ⊢
    rw [he, hp hmain]
    exact this
  early h := hi.trans (hU.early (hm h))

/-- A copier goes on. -/
theorem Unfailed.update {x : Stream} {pc : CopyPc} (hU : Unfailed s)
    (hpc : ∀ chunks err, pc ≠ .sending chunks (.failed err)) :
    Unfailed { s with copier := Function.update s.copier x pc } where
  __ := hU
  copiers y chunks err := by
    by_cases hy : y = x
    · subst hy
      simp only [Function.update_self]
      exact hpc chunks err
    · simp only [Function.update_of_ne hy]
      exact hU.copiers y chunks err

/-- A copier ends well. -/
theorem Unfailed.finish {x : Stream} (hU : Unfailed s) : Unfailed (s.finish x none) where
  __ := @Unfailed.update s x (.finished none) hU fun _ _ h => nomatch h
  outputs result h := (List.mem_append.mp h).elim (hU.outputs result) List.mem_singleton.mp

theorem Unfailed.step (hU : Unfailed s) (hmax : 5 ≤ maximum) (hc : Cooperates s a = true)
    (hr : Reaches s a = true) (he : Effect maximum s a s' evs) : Unfailed s' := by
  cases he with
  | @unchunked x data after err h hn =>
    have hsome := @chunkedFrames_isSome data maximum hmax
    rw [hn] at hsome
    cases hsome
  | @read x data after chunks h =>
    refine hU.update fun chunks' err heq => ?_
    cases heq
    cases hc
  | sent h =>
    refine hU.update fun chunks' err heq => ?_
    cases heq
    exact hU.copiers _ _ _ h
  | more => exact hU.update fun _ _ heq => by cases heq
  | eof => exact hU.finish
  | unsent => cases hc
  | failed h => exact absurd h (hU.copiers _ _ _)
  | handled h => exact hU.handled h hc hr
  | input h hi =>
    -- an error of the reader is not looked at once the exit has been seen
    have hd := hU.input _ hi
    rw [State.inputTaken, if_pos hd]
    exact hU.congr rfl rfl (fun _ => id) rfl (.inl rfl) id rfl rfl (fun _ => rfl) id
  | @output result rest h ho =>
    have hnone : result = none := hU.outputs result (ho ▸ List.mem_cons_self)
    subst hnone
    exact hU.congr rfl rfl (ho ▸ fun _ => List.mem_cons_of_mem _) rfl (.inr rfl) id rfl rfl
      (fun _ => rfl) id
  | conn h hd | endInput hd | endOutput hd => rw [hU.conn] at hd; cases hd
  | cut h hp ha =>
    rcases ha with rfl | ⟨-, hd⟩
    · cases hc
    · rw [hU.conn] at hd
      cases hd
  | endConn => cases hc
  | @accepted readers h =>
    refine ⟨hU.conn, hU.failure, hU.outputs, fun x chunks err hx => ?_, hU.input,
      (fun _ h => by cases h), fun hm => by cases hm⟩
    cases x with
    | stdout =>
      simp only [State.spawn] at hx
      split_ifs at hx
      cases hx
    | stderr =>
      simp only [State.spawn] at hx
      split_ifs at hx
  | receivedInput h =>
    refine ⟨hU.conn, hU.failure, hU.outputs, hU.copiers, hU.input, fun frame hf => ?_, fun hm => ?_⟩
    · cases hf
      exact hc
    · rw [hU.early hm] at h
      cases h
  | unreceivedInput h =>
    refine ⟨hU.conn, hU.failure, hU.outputs, hU.copiers, fun _ _ => hc, (fun _ h => by cases h),
      fun hm => ?_⟩
    rw [hU.early hm] at h
    cases h
  | exited =>
    exact hU.congr rfl rfl (fun _ => id) rfl (.inr rfl) (fun _ => rfl) rfl rfl (fun _ => rfl)
      fun hm => by cases hm
  | unsentExit | sentExit =>
    exact hU.congr rfl rfl (fun _ => id) rfl (.inr rfl) (fun _ => rfl) rfl rfl (fun _ => rfl)
      fun hm => by cases hm
  | requested h =>
    exact hU.congr rfl rfl (fun _ => id) rfl (.inr rfl) id rfl rfl (fun hm => absurd h hm)
      fun hm => by cases hm
  | unreceived | refused | unstarted | launched | unrejected | rejected | unaccepted | abandoned
  | drained =>
    exact hU.congr rfl rfl (fun _ => id) rfl (.inr rfl) id rfl rfl (fun _ => rfl)
      fun hm => by cases hm
  | waited | stopReading | died =>
    exact hU.congr rfl rfl (fun _ => id) rfl (.inr rfl) id rfl rfl (fun _ => rfl) id

end Unfailed

/-! ## 3. The exit -/

/-- **The exit is truthful.** In every run in which what the client sends still reaches the process, until
    the server has seen the exit. -/
theorem exit_truthful {maximum : Nat} {tr : List Event} {s s' : State} {result : Exit}
    (hmax : 5 ≤ maximum)
    (h : (serve maximum).Run (fun s a => Cooperates s a = true ∧ Reaches s a = true) tr s)
    (hs : (serve maximum).step s (.exit true) = some (s', [.sent (.exit result)])) :
    ∃ r, s.process = .exited r ∧ result = exitMessage r := by
  have hU : Unfailed s := by
    refine h.invariant (I := fun _ s => Unfailed s) ?_ ?_
    · exact ⟨rfl, rfl, (fun _ h => nomatch h), (fun _ _ _ h => nomatch h), (fun _ h => nomatch h),
        (fun _ h => nomatch h), fun _ => rfl⟩
    · intro tr evs s s' a _ hU hc hs
      exact hU.step hmax hc.1 hc.2 (effect_of_step hs)
  obtain ⟨-, -, -, hW⟩ := books_run h
  have he : Effect maximum s (.exit true) s' [.sent (.exit result)] := effect_of_step hs
  obtain ⟨hm, hev⟩ := he.exit_eq
  cases hev
  refine ⟨s.processResult, hW.taken (.inr hm), ?_⟩
  simp only [State.reported, hU.failure]

/-- A process reads a line of input and ends with status 3. -/
theorem exit_truthful_status :
    ∃ tr s s', (serve 64).Run (fun s a => Cooperates s a = true ∧ Reaches s a = true) tr s ∧
      (serve 64).step s (.exit true) = some (s', [.sent (.exit (.status 3))]) ∧
      ∃ r, s.process = .exited r ∧ .status 3 = exitMessage r := by
  obtain ⟨tr, s, s', hrun, hs, -⟩ := Lts.exists_step_of_replay (L := serve 64)
    (C := fun s a => Cooperates s a = true ∧ Reaches s a = true) (P := fun _ _ => True)
    (launch ++ ([.receive (some (some (.stdin [10]))), .handle true, .read .stdout [] .eof,
      .report .stdout, .read .stderr [] .eof, .report .stderr, .die ⟨3, "", ""⟩, .wait, .takeExit,
      .takeOutput, .takeOutput, .drained] : List Act)) (.exit true) [.sent (.exit (.status 3))]
    (by decide +kernel)
  exact ⟨tr, s, s', hrun, hs, exit_truthful (by decide) hrun hs⟩

/-- The process ends with status 0 while a line of input is on its way: the write fails, the server
    sees the error before the exit and reports a runtime failure. -/
theorem exit_hidden_by_stdin :
    ∃ tr s, (serve 128).Run (fun s a => Cooperates s a = true) tr s ∧
      s.process = .exited ⟨0, "", ""⟩ ∧
      frames tr = [startResultFrame true, .exit (.runtimeFailure genericRuntimeMessage)] ∧
      .runtimeFailure genericRuntimeMessage ≠ exitMessage ⟨0, "", ""⟩ := by
  obtain ⟨tr, s, hrun, hexit, hframes⟩ := Lts.exists_run_of_replay (L := serve 128)
    (C := fun s a => Cooperates s a = true)
    (P := fun tr s => s.process = .exited ⟨0, "", ""⟩ ∧
      frames tr = [startResultFrame true, .exit (.runtimeFailure genericRuntimeMessage)])
    (launch ++ ([.receive (some (some (.stdin [10]))), .die ⟨0, "", ""⟩, .handle false, .takeInput,
      .wait, .takeExit, .read .stdout [] .eof, .report .stdout, .read .stderr [] .eof,
      .report .stderr, .takeOutput, .takeOutput, .drained, .exit true] : List Act)) (by decide +kernel)
  exact ⟨tr, s, hrun, hexit, hframes, by decide⟩

end Mygosh.Command

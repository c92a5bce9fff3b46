/-
  File:      Mygosh/Client/Effect.lean
  Subject:   What one step of the client can do.

  Most steps only move one goroutine; they are `Move`. The others change the shared fields too, each
  with its own constructor of `Effect`. The step function is unfolded in this file only.
-/
import Mygosh.Client.Machine

namespace Mygosh.Client

open Mux (Bytes)
open Command (ServerFrame Stream chunkedFrames)

/-! ## 1. The ways through the code -/

/-- One goroutine goes on and nothing else changes. -/
inductive Move (maximum : Nat) (s : State) : Act → Tid → Pc → Prop where
  | restarted {pty : Bool} (h : s.pc .run = .begin) (hs : s.state ≠ .idle) :
      Move maximum s (.start pty) .run (.finish .claim canceled .off)
  | sentStart (h : s.pc .run = .sendStart) : Move maximum s (.sendStart true) .run .awaitStarted
  | unsentStart {err : Option ClientError} (h : s.pc .run = .sendStart) :
      Move maximum s (.sendStart false) .run (.finish .claim err .off)
  | gaveUp (h : s.pc .run = .awaitStarted) (hc : s.cancelled = true) :
      Move maximum s .startCancelled .run (.finish .claim canceled .off)
  | unopened {raw : Bool} (h : s.pc .run = .openInput) :
      Move maximum s (.openInput false raw) .run (.finish .claim canceled .off)
  | unreceived {err : Option ClientError} (h : s.pc .reader = .receiving) (hf : s.frames = []) :
      Move maximum s (.receive false) .reader (.finish .claim err .off)
  | written {x : Stream} (h : s.pc .reader = .writing x) : Move maximum s (.write true) .reader .receiving
  | unwritten {x : Stream} {err : Option ClientError} (h : s.pc .reader = .writing x) :
      Move maximum s (.write false) .reader (.finish .claim err .off)
  | readNothing {after : InputEnd} (h : s.pc .input = .reading) :
      Move maximum s (.read [] after) .input after.next
  | read {data : Bytes} {after : InputEnd} (h : s.pc .input = .reading) (hd : data ≠ []) :
      Move maximum s (.read data after) .input (.stdin data after)
  | stdinRefused {data : Bytes} {after : InputEnd} (h : s.pc .input = .stdin data after)
      (hs : s.state ≠ .running ∨ s.stdinEOF = true ∨ chunkedFrames data maximum = none) :
      Move maximum s .stdin .input .cancelling
  | stdin {data : Bytes} {after : InputEnd} {chunks : List Bytes} (h : s.pc .input = .stdin data after)
      (hs : s.state = .running) (he : s.stdinEOF = false)
      (hc : chunkedFrames data maximum = some chunks) :
      Move maximum s .stdin .input (.sendStdin chunks after)
  | stdinDone {after : InputEnd} (h : s.pc .input = .sendStdin [] after) :
      Move maximum s (.sendStdin true) .input after.next
  | sentStdin {chunk : Bytes} {chunks : List Bytes} {after : InputEnd}
      (h : s.pc .input = .sendStdin (chunk :: chunks) after) :
      Move maximum s (.sendStdin true) .input (.sendStdin chunks after)
  | unsentStdin {chunks : List Bytes} {after : InputEnd} {err : Option ClientError}
      (h : s.pc .input = .sendStdin chunks after) :
      Move maximum s (.sendStdin false) .input (.finish .claim err .cancelling)
  | eofRefused (h : s.pc .input = .stdinEof) (hs : s.state ≠ .running ∨ s.stdinEOF = true) :
      Move maximum s .stdinEof .input .cancelling
  | sentEof (h : s.pc .input = .sendEof) : Move maximum s (.sendEof true) .input .off
  | unsentEof (h : s.pc .input = .sendEof) : Move maximum s (.sendEof false) .input .cancelling
  | resized {rows columns : Nat} (h : s.pc .resizer = .resizing) :
      Move maximum s (.resized rows columns) .resizer (.resize rows columns)
  | stopped (h : s.pc .resizer = .resizing) : Move maximum s .stopResizing .resizer .off
  | resizeRefused {rows columns : Nat} (h : s.pc .resizer = .resize rows columns)
      (hs : s.state ≠ .running ∨ s.hasPTY = false ∨ windowChangeFits maximum rows columns = false) :
      Move maximum s .resize .resizer .cancelling
  | resize {rows columns : Nat} (h : s.pc .resizer = .resize rows columns) (hs : s.state = .running) :
      Move maximum s .resize .resizer .sendResize
  | sentResize (h : s.pc .resizer = .sendResize) : Move maximum s (.sendResize true) .resizer .resizing
  | unsentResize (h : s.pc .resizer = .sendResize) :
      Move maximum s (.sendResize false) .resizer .cancelling
  | onCancel (h : s.pc .canceller = .armed) (hc : s.cancelled = true) :
      Move maximum s .onCancel .canceller (.finish .claim canceled .off)
  | passed {t : Tid} {err : Option ClientError} {next : Pc} (h : s.pc t = .finish .claim err next)
      (ho : s.once = true) (hd : s.done = true) : Move maximum s (.finish t) t next

/-- **One step, by the way it takes through the code.** -/
inductive Effect (maximum : Nat) (s : State) : Act → State → List Event → Prop where
  | moved {a : Act} {t : Tid} {pc : Pc} (hm : Move maximum s a t pc) :
      Effect maximum s a (s.goto t pc) []
  | started {pty : Bool} (h : s.pc .run = .begin) (hs : s.state = .idle) :
      Effect maximum s (.start pty)
        (({ s with state := .starting, hasPTY := pty, sink := fun _ => true }.goto
          .reader .receiving).goto .run .sendStart) []
  | launched (h : s.pc .run = .awaitStarted) (hs : s.started = some none) :
      Effect maximum s .takeStarted ({ s with started := none }.goto .run .openInput) []
  | refused {err : ClientError} (h : s.pc .run = .awaitStarted) (hs : s.started = some (some err)) :
      Effect maximum s .takeStarted ({ s with started := none }.finish .run canceled .off) []
  | opened {raw : Bool} (h : s.pc .run = .openInput) :
      Effect maximum s (.openInput true raw)
        (if raw && s.hasPTY then ((s.goto .input .reading).goto .run .waiting).goto .resizer .resizing
          else (s.goto .input .reading).goto .run .waiting) []
  | waited (h : s.pc .run = .waiting) (hd : s.done = true) :
      Effect maximum s .wait ({ s with cancelled := true }.finish .run canceled .off)
        [.waited s.waitErr]
  | received {frame : Option ServerFrame} {frames : List (Option ServerFrame)}
      (h : s.pc .reader = .receiving) (hf : s.frames = frame :: frames) :
      Effect maximum s (.receive true)
        ({ s with frames := frames }.goto .reader (.handling frame)) []
  | handled {frame : Option ServerFrame} (h : s.pc .reader = .handling frame) :
      Effect maximum s .handle (s.handle frame) []
  | accepted (h : s.pc .reader = .accepting) :
      Effect maximum s .accept ({ s with state := .running }.goto .reader (.reporting none)) []
  | reported (h : s.pc .reader = .reporting none) (hs : s.started = none) :
      Effect maximum s .report ({ s with started := some none }.goto .reader .receiving) []
  | rejected {err : ClientError} (h : s.pc .reader = .reporting (some err)) (hs : s.started = none) :
      Effect maximum s .report
        ({ s with started := some (some err) }.finish .reader (some err) .off) []
  | recorded {result : Option ClientError} (h : s.pc .reader = .recording result) :
      Effect maximum s .record
        ({ s with state := .exited, waitErr := result }.finish .reader result .receiving) []
  | stdinEof (h : s.pc .input = .stdinEof) (hs : s.state = .running) :
      Effect maximum s .stdinEof
        ({ s with stdinEOF := true }.goto .input
          (if maximum = 0 || 2 ≤ maximum then .sendEof else .cancelling)) []
  | cancelCommand {t : Tid} (h : s.pc t = .cancelling) :
      Effect maximum s (.cancelCommand t) ({ s with cancelled := true }.goto t .off) []
  | claimed {t : Tid} {err : Option ClientError} {next : Pc} (h : s.pc t = .finish .claim err next)
      (ho : s.once = false) :
      Effect maximum s (.finish t) ({ s with once := true }.goto t (.finish .record err next)) []
  | finishRecorded {t : Tid} {err : Option ClientError} {next : Pc}
      (h : s.pc t = .finish .record err next) :
      Effect maximum s (.finish t)
        ({ s with
          waitErr := if s.waitErr = none then err else s.waitErr
          started := if s.state = ClientState.starting && s.started = none then some err else s.started
          state := if s.state = ClientState.exited then .exited else .closed }.goto t
            (.finish .closeConn err next)) []
  | connClosed {t : Tid} {err : Option ClientError} {next : Pc}
      (h : s.pc t = .finish .closeConn err next) :
      Effect maximum s (.finish t)
        ((if s.remoteClosed then s else { s with localClosed := true, frames := [] }).goto t
          (.finish .signal err next)) []
  | signalled {t : Tid} {err : Option ClientError} {next : Pc}
      (h : s.pc t = .finish .signal err next) :
      Effect maximum s (.finish t) ({ s with done := true }.goto t next) []
  | delivered {frame : Option ServerFrame} (hr : s.remoteClosed = false) (hl : s.localClosed = false) :
      Effect maximum s (.deliver frame) { s with frames := s.frames ++ [frame] }
        [.queued frame s.state]
  | peerClosed (hr : s.remoteClosed = false) :
      Effect maximum s .peerClose { s with remoteClosed := true } []
  | cancelled : Effect maximum s .cancel { s with cancelled := true } []

/-- Where the receive loop goes after its look at a frame. -/
inductive Looks (s : State) : Pc → Prop where
  | refuses {err : Option ClientError} : Looks s (.finish .claim err .off)
  | accepts (hs : s.state = .starting) : Looks s .accepting
  | rejects {err : ClientError} (hs : s.state = .starting) : Looks s (.reporting (some err))
  | writes {x : Stream} (hs : s.state = .running) : Looks s (.writing x)
  | ends {result : Option ClientError} (hs : s.state = .running) : Looks s (.recording result)

theorem handle_looks (s : State) (frame : Option ServerFrame) :
    ∃ pc, s.handle frame = s.goto .reader pc ∧ Looks s pc := by
  unfold State.handle
  split
  · exact ⟨_, rfl, .refuses⟩
  · rename_i event _
    cases event with
    | startResult accepted code message =>
      simp only [State.handleServerEvent]
      split_ifs with hs
      · exact ⟨_, rfl, .refuses⟩
      · exact ⟨_, rfl, .accepts (not_not.mp hs)⟩
      · exact ⟨_, rfl, .rejects (not_not.mp hs)⟩
    | output x data =>
      simp only [State.handleServerEvent]
      split_ifs with hs
      · exact ⟨_, rfl, .refuses⟩
      · exact ⟨_, rfl, .refuses⟩
      · exact ⟨_, rfl, .refuses⟩
      · exact ⟨_, rfl, .writes (not_not.mp hs)⟩
    | exit result =>
      simp only [State.handleServerEvent]
      split_ifs with hs
      · exact ⟨_, rfl, .refuses⟩
      · exact ⟨_, rfl, .ends (not_not.mp hs)⟩

/-! ## 2. Every step is one of these -/

variable {maximum : Nat} {s s' : State} {a : Act} {evs : List Event}

theorem run_effect (hs : s.runStep (s.pc .run) a = some (s', evs)) : Effect maximum s a s' evs := by
  unfold State.runStep at hs
  split at hs
  case h_1 h =>
    split_ifs at hs with hi
    · cases hs; exact .moved (.restarted h hi)
    · cases hs; exact .started h (not_not.mp hi)
  case h_2 ok h =>
    cases ok with
    | true => cases hs; exact .moved (.sentStart h)
    | false => cases hs; exact .moved (.unsentStart h)
  case h_3 h =>
    split at hs
    · cases hs
    · rename_i hst; cases hs; exact .launched h hst
    · rename_i hst; cases hs; exact .refused h hst
  case h_4 h =>
    split_ifs at hs with hc
    cases hs
    exact .moved (.gaveUp h hc)
  case h_5 ok raw h =>
    cases ok with
    | false => cases hs; exact .moved (.unopened h)
    | true => cases hs; exact .opened h
  case h_6 h =>
    split_ifs at hs with hd
    cases hs
    exact .waited h hd
  case h_7 => cases hs

theorem reader_effect (hs : s.readerStep (s.pc .reader) a = some s') : Effect maximum s a s' [] := by
  unfold State.readerStep at hs
  split at hs
  case h_1 h =>
    split at hs
    · rename_i hf; cases hs; exact .received h hf
    · rename_i hf; cases hs; exact .moved (.unreceived h hf)
    · cases hs
  case h_2 h => cases hs; exact .handled h
  case h_3 h => cases hs; exact .accepted h
  case h_4 result h =>
    split_ifs at hs with hst
    cases result with
    | none => cases hs; exact .reported h (not_not.mp hst)
    | some err => cases hs; exact .rejected h (not_not.mp hst)
  case h_5 ok h =>
    cases ok with
    | true => cases hs; exact .moved (.written h)
    | false => cases hs; exact .moved (.unwritten h)
  case h_6 h => cases hs; exact .recorded h
  case h_7 => cases hs

theorem input_effect (hs : s.inputStep maximum (s.pc .input) a = some s') :
    Effect maximum s a s' [] := by
  unfold State.inputStep at hs
  split at hs
  case h_1 data after h =>
    split_ifs at hs with hd
    · subst hd; cases hs; exact .moved (.readNothing h)
    · cases hs; exact .moved (.read h hd)
  case h_2 data after h =>
    split_ifs at hs with hr
    · cases hs
      refine .moved (.stdinRefused h ?_)
      simp only [Bool.or_eq_true, decide_eq_true_eq] at hr
      exact hr.imp id .inl
    · simp only [Bool.or_eq_true, decide_eq_true_eq, not_or, not_not, Bool.not_eq_true] at hr
      split at hs
      · rename_i hc; cases hs; exact .moved (.stdinRefused h (.inr (.inr hc)))
      · rename_i hc; cases hs; exact .moved (.stdin h hr.1 hr.2 hc)
  case h_3 chunks after ok h =>
    split at hs
    · split_ifs at hs with hok
      subst hok
      cases hs
      exact .moved (.stdinDone h)
    · cases ok with
      | true => cases hs; exact .moved (.sentStdin h)
      | false => cases hs; exact .moved (.unsentStdin h)
  case h_4 h =>
    split_ifs at hs with hr hm
    · cases hs
      refine .moved (.eofRefused h ?_)
      simpa only [Bool.or_eq_true, decide_eq_true_eq] using hr
    all_goals
      simp only [Bool.or_eq_true, decide_eq_true_eq, not_or, not_not, Bool.not_eq_true] at hr
      have he : Effect maximum s .stdinEof _ [] := .stdinEof h hr.1
      cases hs
      simpa only [hm, if_true, if_false, Bool.false_eq_true] using he
  case h_5 ok h =>
    cases ok with
    | true => cases hs; exact .moved (.sentEof h)
    | false => cases hs; exact .moved (.unsentEof h)
  case h_6 => cases hs

theorem resizer_effect (hs : s.resizerStep maximum (s.pc .resizer) a = some s') :
    Effect maximum s a s' [] := by
  unfold State.resizerStep at hs
  split at hs
  case h_1 h => cases hs; exact .moved (.resized h)
  case h_2 h => cases hs; exact .moved (.stopped h)
  case h_3 rows columns h =>
    split_ifs at hs with hr
    · cases hs
      refine .moved (.resizeRefused h ?_)
      simpa only [Bool.or_eq_true, decide_eq_true_eq, Bool.not_eq_true', or_assoc] using hr
    · cases hs
      simp only [Bool.or_eq_true, decide_eq_true_eq, not_or, not_not] at hr
      exact .moved (.resize h hr.1.1)
  case h_4 ok h =>
    cases ok with
    | true => cases hs; exact .moved (.sentResize h)
    | false => cases hs; exact .moved (.unsentResize h)
  case h_5 => cases hs

theorem finish_effect {t : Tid} {stage : Stage} {err : Option ClientError} {next : Pc}
    (h : s.pc t = .finish stage err next) (hs : s.finishStep t err next stage = some s') :
    Effect maximum s (.finish t) s' [] := by
  cases stage with
  | claim =>
    simp only [State.finishStep] at hs
    split_ifs at hs with ho hd
    · cases hs; exact .claimed h (by simpa using ho)
    · cases hs; exact .moved (.passed h (by simpa using ho) hd)
  | record => cases hs; exact .finishRecorded h
  | closeConn => cases hs; exact .connClosed h
  | signal => cases hs; exact .signalled h

theorem common_effect (hs : s.commonStep a = some (s', evs)) : Effect maximum s a s' evs := by
  unfold State.commonStep at hs
  split at hs
  case h_1 =>
    split at hs
    · rename_i h; cases hs; exact .cancelCommand h
    · cases hs
  case h_2 =>
    split at hs
    · rename_i h
      split_ifs at hs with hc
      cases hs
      exact .moved (.onCancel h hc)
    · cases hs
  case h_3 =>
    split at hs
    · rename_i h
      obtain ⟨s₁, hs₁, he⟩ := Option.map_eq_some_iff.mp hs
      cases he
      exact finish_effect h hs₁
    · cases hs
  case h_4 =>
    split_ifs at hs with hc
    cases hs
    simp only [Bool.or_eq_true, not_or, Bool.not_eq_true] at hc
    exact .delivered hc.1 hc.2
  case h_5 =>
    split_ifs at hs with hc
    cases hs
    exact .peerClosed (by simpa using hc)
  case h_6 => cases hs; exact .cancelled
  case h_7 => cases hs

/-- **Every step is one of these.** -/
theorem effect_of_step (hs : s.step maximum a = some (s', evs)) : Effect maximum s a s' evs := by
  unfold State.step at hs
  split at hs
  case h_7 | h_8 | h_9 | h_10 | h_11 | h_12 =>
    obtain ⟨s₁, hs₁, he⟩ := Option.map_eq_some_iff.mp hs
    cases he
    exact reader_effect hs₁
  case h_13 | h_14 | h_15 | h_16 | h_17 =>
    obtain ⟨s₁, hs₁, he⟩ := Option.map_eq_some_iff.mp hs
    cases he
    exact input_effect hs₁
  case h_18 | h_19 | h_20 | h_21 =>
    obtain ⟨s₁, hs₁, he⟩ := Option.map_eq_some_iff.mp hs
    cases he
    exact resizer_effect hs₁
  case h_22 => exact common_effect hs
  all_goals exact run_effect hs

end Mygosh.Client

/-
  File:      Mygosh/Command/Effect.lean
  Subject:   What one step of `Serve` can do.

  One constructor for each way through the code, with the guard it passed and the state it leaves.
  The step function is unfolded in this file only.
-/
import Mygosh.Command.Server

namespace Mygosh.Command

open Mux (Bytes)
open Server (StartRequest)

/-- The state after an output's result has been taken. -/
def State.taken (s : State) (result : Option String) (rest : List (Option String)) : State :=
  let s := { s with outputs := rest, pendingOutputs := s.pendingOutputs - 1 }
  match result with
  | none => s
  | some err => if s.outputDone then s else s.fail err

/-- The state after the input's error has been taken. -/
def State.inputTaken (s : State) (err : String) : State :=
  if s.inputDone then { s with inputResult := none } else { s with inputResult := none }.fail err

/-! ## 1. The ways through the code -/

/-- **One step, by the way it takes through the code.** -/
inductive Effect (maximum : Nat) (s : State) : Act → State → List Event → Prop where
  | unreceived (h : s.main = .receiving) :
      Effect maximum s (.first none) { s with main := .returned } []
  | refused {frame : Option ClientFrame} (h : s.main = .receiving)
      (hd : ∀ start request, frame = some (.start start) → decodeStart start ≠ .ok request) :
      Effect maximum s (.first (some frame)) { s with main := .rejecting } [.received frame]
  | requested {start : Start} {request : StartRequest} (h : s.main = .receiving)
      (hd : decodeStart start = .ok request) :
      Effect maximum s (.first (some (some (.start start))))
        { s with main := .starting request, hasPTY := request.pty.isSome }
        [.received (some (.start start))]
  | unstarted {request : StartRequest} {outcome : StartOutcome} (h : s.main = .starting request) :
      Effect maximum s (.start outcome) { s with main := .rejecting } [.started request]
  | launched {request : StartRequest} {readers : Stream → Bool} (h : s.main = .starting request) :
      Effect maximum s (.start (.running readers))
        { s with main := .accepting readers, process := .alive } [.started request]
  | unrejected (h : s.main = .rejecting) :
      Effect maximum s (.result false) { s with main := .returned } []
  | rejected (h : s.main = .rejecting) :
      Effect maximum s (.result true) { s with main := .returned } [.sent (startResultFrame false)]
  | unaccepted {readers : Stream → Bool} (h : s.main = .accepting readers) :
      Effect maximum s (.result false) { s with main := .abandoning, terminated := true } []
  | accepted {readers : Stream → Bool} (h : s.main = .accepting readers) :
      Effect maximum s (.result true) (s.spawn readers) [.sent (startResultFrame true)]
  | abandoned (h : s.main = .abandoning) :
      Effect maximum s .takeExit { s with main := .returned } []
  | input {err : String} (h : s.main = .running) (hi : s.inputResult = some err) :
      Effect maximum s .takeInput (s.inputTaken err) []
  | output {result : Option String} {rest : List (Option String)}
      (h : s.main = .running ∨ s.main = .draining ∧ s.pendingOutputs ≠ 0)
      (ho : s.outputs = result :: rest) :
      Effect maximum s .takeOutput (s.taken result rest) []
  | exited {result : ExitResult} (h : s.main = .running) (hx : s.exitResult = some result) :
      Effect maximum s .takeExit
        { s with main := .draining, exitResult := none, processResult := result, inputDone := true }
        []
  | conn (h : s.main = .running) (hc : s.connDone = true) :
      Effect maximum s .takeConn (s.fail "connection ended") []
  | cut {a : Act} {err : String} (h : s.main = .draining) (hp : s.pendingOutputs ≠ 0)
      (ha : a = .takeTimer ∨ a = .takeConn ∧ s.connDone = true) :
      Effect maximum s a (s.cut err) []
  | drained (h : s.main = .draining) (hp : s.pendingOutputs = 0) :
      Effect maximum s .drained { s with main := .exiting } []
  | unsentExit (h : s.main = .exiting) : Effect maximum s (.exit false) s.leave []
  | sentExit (h : s.main = .exiting) :
      Effect maximum s (.exit true) s.leave [.sent (.exit (exitMessage s.reported))]
  | read {x : Stream} {data : Bytes} {after : ReadEnd} {chunks : List Bytes}
      (h : s.copier x = .reading) (hc : chunkedFrames data maximum = some chunks) :
      Effect maximum s (.read x data after)
        { s with copier := Function.update s.copier x (.sending chunks after) }
        [.read x data after]
  | unchunked {x : Stream} {data : Bytes} {after : ReadEnd} {err : String}
      (h : s.copier x = .reading) (hc : chunkedFrames data maximum = none) :
      Effect maximum s (.read x data after) (s.finish x (some err)) [.read x data after]
  | sent {x : Stream} {chunk : Bytes} {chunks : List Bytes} {after : ReadEnd}
      (h : s.copier x = .sending (chunk :: chunks) after) :
      Effect maximum s (.send x true)
        { s with copier := Function.update s.copier x (.sending chunks after) }
        [.sent (outputFrame x chunk)]
  | unsent {x : Stream} {chunks : List Bytes} {after : ReadEnd} {err : String}
      (h : s.copier x = .sending chunks after) :
      Effect maximum s (.send x false) (s.finish x (some err)) []
  | more {x : Stream} (h : s.copier x = .sending [] .more) :
      Effect maximum s (.report x) { s with copier := Function.update s.copier x .reading } []
  | eof {x : Stream} (h : s.copier x = .sending [] .eof) :
      Effect maximum s (.report x) (s.finish x none) []
  | failed {x : Stream} {err : String} (h : s.copier x = .sending [] (.failed err)) :
      Effect maximum s (.report x) (s.finish x (some err)) []
  | unreceivedInput {err : String} (h : s.input = .receiving) :
      Effect maximum s (.receive none) (s.endInput err) []
  | receivedInput {frame : Option ClientFrame} (h : s.input = .receiving) :
      Effect maximum s (.receive (some frame)) { s with input := .handling frame } []
  | handled {frame : Option ClientFrame} {ok : Bool} (h : s.input = .handling frame) :
      Effect maximum s (.handle ok) (s.handle ok frame) []
  | waited {result : ExitResult} (hw : s.waiting = true) (h : s.process = .exited result) :
      Effect maximum s .wait { s with waiting := false, exitResult := some result } []
  | endConn : Effect maximum s .endConn { s with connDone := true } []
  | endInput (hc : s.connDone = true) : Effect maximum s .endInput { s with inputDone := true } []
  | endOutput (hc : s.connDone = true) :
      Effect maximum s .endOutput { s with outputDone := true } []
  | stopReading : Effect maximum s .stopReading { s with reads := false } []
  | died {result : ExitResult} (h : s.process = .alive) :
      Effect maximum s (.die result) { s with process := .exited result, reads := false } []

variable {maximum : Nat} {s s' : State} {evs : List Event}

theorem first_effect {frame : Option (Option ClientFrame)} (h : s.main = .receiving) :
    Effect maximum s (.first frame) (s.first frame).1 (s.first frame).2 := by
  rcases frame with _ | _ | frame
  · exact .unreceived h
  · exact .refused h fun _ _ hf => nomatch hf
  cases frame with
  | start start =>
    simp only [State.first]
    cases hd : decodeStart start with
    | error e =>
      refine .refused h fun st request hf => ?_
      cases hf
      rw [hd]
      exact fun h => nomatch h
    | ok request => exact .requested h hd
  | stdin | stdinEof | windowChange => exact .refused h fun _ _ hf => nomatch hf

theorem takeOutput_effect (h : s.main = .running ∨ s.main = .draining ∧ s.pendingOutputs ≠ 0)
    (hs : s.takeOutput.map (·, ([] : List Event)) = some (s', evs)) :
    Effect maximum s .takeOutput s' evs := by
  obtain ⟨s₁, hs₁, he⟩ := Option.map_eq_some_iff.mp hs
  cases he
  unfold State.takeOutput at hs₁
  split at hs₁
  · cases hs₁
  · rename_i result rest ho
    have hstate : s' = s.taken result rest := by
      unfold State.taken
      cases result <;> exact (Option.some.inj hs₁).symm
    rw [hstate]
    exact .output h ho

theorem main_effect {a : Act} (hs : s.mainStep maximum s.main a = some (s', evs)) :
    Effect maximum s a s' evs := by
  unfold State.mainStep at hs
  split at hs
  case h_1 frame h =>
    have heq := Option.some.inj hs
    have he : Effect maximum s (.first frame) (s.first frame).1 (s.first frame).2 := first_effect h
    rw [heq] at he
    exact he
  case h_2 h =>
    split at hs
    · cases hs; exact .unstarted h
    · cases hs; exact .unstarted h
    · cases hs; exact .launched h
  case h_3 ok h =>
    cases ok with
    | false => cases hs; exact .unrejected h
    | true =>
      simp only [Bool.not_true, Bool.false_eq_true, if_false] at hs
      split_ifs at hs
      cases hs
      exact .rejected h
  case h_4 ok h =>
    cases ok with
    | false => cases hs; exact .unaccepted h
    | true =>
      simp only [Bool.not_true, Bool.false_eq_true, if_false] at hs
      split_ifs at hs
      cases hs
      exact .accepted h
  case h_5 h =>
    split at hs
    · cases hs; exact .abandoned h
    · cases hs
  case h_6 h =>
    split at hs
    · cases hs
    · rename_i hi
      cases hs
      exact .input h hi
  case h_7 h => exact takeOutput_effect (.inl h) hs
  case h_8 h =>
    split at hs
    · cases hs
    · rename_i hx
      cases hs
      exact .exited h hx
  case h_9 h =>
    split_ifs at hs with hc
    cases hs
    exact .conn h hc
  case h_10 h =>
    split_ifs at hs with hp
    exact takeOutput_effect (.inr ⟨h, hp⟩) hs
  case h_11 h =>
    split_ifs at hs with hp
    cases hs
    exact .cut h hp (.inl rfl)
  case h_12 h =>
    split_ifs at hs with hp
    cases hs
    simp only [Bool.or_eq_true, decide_eq_true_eq, Bool.not_eq_true', not_or,
      Bool.not_eq_false] at hp
    exact .cut h hp.1 (.inr ⟨rfl, hp.2⟩)
  case h_13 h =>
    split_ifs at hs with hp
    cases hs
    exact .drained h hp
  case h_14 ok h =>
    cases ok with
    | false => cases hs; exact .unsentExit h
    | true =>
      simp only [Bool.not_true, Bool.false_eq_true, if_false] at hs
      split_ifs at hs
      cases hs
      exact .sentExit h
  case h_15 => cases hs

section Copier

variable {x : Stream}

theorem read_effect {data : Bytes} {after : ReadEnd}
    (hs : s.copyStep maximum x (s.copier x) (.read x data after) = some (s', evs)) :
    Effect maximum s (.read x data after) s' evs := by
  cases h : s.copier x with
  | reading =>
    rw [h] at hs
    simp only [State.copyStep] at hs
    split_ifs at hs
    split at hs
    · rename_i hc
      cases hs
      exact .unchunked h hc
    · rename_i hc
      cases hs
      exact .read h hc
  | idle | finished => rw [h] at hs; cases hs
  | sending chunks e => rw [h] at hs; cases chunks <;> cases hs

theorem send_effect {ok : Bool}
    (hs : s.copyStep maximum x (s.copier x) (.send x ok) = some (s', evs)) :
    Effect maximum s (.send x ok) s' evs := by
  cases h : s.copier x with
  | idle | reading | finished => rw [h] at hs; cases hs
  | sending chunks e =>
    rw [h] at hs
    cases chunks with
    | nil => cases hs
    | cons chunk chunks =>
      cases ok with
      | true => cases hs; exact .sent h
      | false => cases hs; exact .unsent h

theorem report_effect
    (hs : s.copyStep maximum x (s.copier x) (.report x) = some (s', evs)) :
    Effect maximum s (.report x) s' evs := by
  cases h : s.copier x with
  | idle | reading | finished => rw [h] at hs; cases hs
  | sending chunks e =>
    rw [h] at hs
    cases chunks with
    | nil =>
      cases e with
      | more => cases hs; exact .more h
      | eof => cases hs; exact .eof h
      | failed err => cases hs; exact .failed h
    | cons chunk chunks => cases hs

end Copier

theorem other_effect {a : Act} (hs : s.otherStep a = some s') : Effect maximum s a s' [] := by
  unfold State.otherStep at hs
  split at hs
  · split at hs
    · rename_i h; cases hs; exact .unreceivedInput h
    · rename_i h; cases hs; exact .receivedInput h
    · cases hs
  · split at hs
    · rename_i h; cases hs; exact .handled h
    · cases hs
  · split at hs
    · rename_i hw hp; cases hs; exact .waited hw hp
    · cases hs
  · cases hs; exact .endConn
  · split_ifs at hs with hc; cases hs; exact .endInput hc
  · split_ifs at hs with hc; cases hs; exact .endOutput hc
  · cases hs; exact .stopReading
  · split at hs
    · rename_i h; cases hs; exact .died h
    · cases hs
  · cases hs

/-- **Every step is one of these.** -/
theorem effect_of_step {a : Act} (hs : s.step maximum a = some (s', evs)) :
    Effect maximum s a s' evs := by
  unfold State.step at hs
  split at hs
  · exact read_effect hs
  · exact send_effect hs
  · exact report_effect hs
  case h_12 => exact main_effect hs
  all_goals
    obtain ⟨s₁, hs₁, he⟩ := Option.map_eq_some_iff.mp hs
    cases he
    exact other_effect hs₁

/-! ## 2. What the helpers change -/

theorem fail_eq (s : State) (err : String) :
    ∃ f t, s.fail err = { s with protocolFailure := f, terminated := t } ∧ f ≠ none := by
  cases h : s.protocolFailure with
  | none => exact ⟨some err, true, by simp only [State.fail, h], Option.some_ne_none _⟩
  | some e =>
    refine ⟨some e, s.terminated, ?_, Option.some_ne_none _⟩
    simp only [State.fail, h]
    rw [← h]

theorem inputTaken_eq (s : State) (err : String) :
    ∃ f t, s.inputTaken err =
        { s with inputResult := none, protocolFailure := f, terminated := t } ∧
      (s.protocolFailure ≠ none → f ≠ none) ∧
      (s.inputDone = true → f = s.protocolFailure) := by
  unfold State.inputTaken
  split_ifs with h
  · exact ⟨_, _, rfl, id, fun _ => rfl⟩
  · obtain ⟨f, t, hf, hne⟩ := fail_eq { s with inputResult := none } err
    exact ⟨f, t, hf, fun _ => hne, fun hd => absurd hd h⟩

theorem taken_eq (s : State) (result : Option String) (rest : List (Option String)) :
    ∃ f t, s.taken result rest =
        { s with outputs := rest, pendingOutputs := s.pendingOutputs - 1
                 protocolFailure := f, terminated := t } ∧
      (s.protocolFailure ≠ none → f ≠ none) ∧
      (result = none → f = s.protocolFailure) ∧
      (result ≠ none → s.outputDone = true ∨ f ≠ none) := by
  unfold State.taken
  cases result with
  | none => exact ⟨_, _, rfl, id, fun _ => rfl, fun h => absurd rfl h⟩
  | some err =>
    dsimp only
    split_ifs with h
    · exact ⟨_, _, rfl, id, (fun h => nomatch h), fun _ => .inl h⟩
    · obtain ⟨f, t, hf, hne⟩ := fail_eq
        { s with outputs := rest, pendingOutputs := s.pendingOutputs - 1 } err
      exact ⟨f, t, hf, fun _ => hne, (fun h => nomatch h), fun _ => .inr hne⟩

theorem cut_eq (s : State) (err : String) :
    ∃ f t, s.cut err = { s with protocolFailure := f, terminated := t, outputDone := true
                                pendingOutputs := 0 } ∧ f ≠ none := by
  obtain ⟨f, t, hf, hne⟩ := fail_eq s err
  exact ⟨f, t, by unfold State.cut; rw [hf], hne⟩

theorem handle_eq (s : State) (ok : Bool) (frame : Option ClientFrame) :
    ∃ i e r, s.handle ok frame = { s with input := i, stdinEOF := e, inputResult := r } := by
  unfold State.handle State.endInput
  split
  · exact ⟨_, _, _, rfl⟩
  · exact ⟨_, _, _, rfl⟩
  all_goals
    split_ifs
    all_goals exact ⟨_, _, _, rfl⟩

/-! ## 3. A step, seen by the copiers -/

/-- An event of a copier: a read, or a frame with output. -/
def Event.ofCopier : Event → Bool
  | .read _ _ _ | .sent (.stdout _) | .sent (.stderr _) => true
  | _ => false

/-- One step of one copier. -/
inductive CopyMove (maximum : Nat) (x : Stream) : CopyPc → List Event → CopyPc → Prop where
  | read {data : Bytes} {after : ReadEnd} {chunks : List Bytes}
      (hc : chunkedFrames data maximum = some chunks) :
      CopyMove maximum x .reading [.read x data after] (.sending chunks after)
  | unchunked {data : Bytes} {after : ReadEnd} {err : String}
      (hc : chunkedFrames data maximum = none) :
      CopyMove maximum x .reading [.read x data after] (.finished (some err))
  | sent {chunk : Bytes} {chunks : List Bytes} {after : ReadEnd} :
      CopyMove maximum x (.sending (chunk :: chunks) after) [.sent (outputFrame x chunk)]
        (.sending chunks after)
  | unsent {chunks : List Bytes} {after : ReadEnd} {err : String} :
      CopyMove maximum x (.sending chunks after) [] (.finished (some err))
  | more : CopyMove maximum x (.sending [] .more) [] .reading
  | eof : CopyMove maximum x (.sending [] .eof) [] (.finished none)
  | failed {err : String} : CopyMove maximum x (.sending [] (.failed err)) [] (.finished (some err))

/-- What a step is for the copiers: nothing, their start, or a step of one of them. -/
inductive CopyView (maximum : Nat) (s s' : State) (evs : List Event) : Prop where
  | quiet (hc : s'.copier = s.copier) (hr : s'.readers = s.readers)
      (he : ∀ e ∈ evs, e.ofCopier = false)
  | spawned {readers : Stream → Bool} (h : s.main = .accepting readers) (hs : s' = s.spawn readers)
      (he : evs = [.sent (startResultFrame true)])
  | moved {x : Stream} {pc : CopyPc} (hc : s'.copier = Function.update s.copier x pc)
      (hr : s'.readers = s.readers) (hm : CopyMove maximum x (s.copier x) evs pc)

theorem Effect.copyView {a : Act} (he : Effect maximum s a s' evs) : CopyView maximum s s' evs := by
  have hnil : ∀ e ∈ ([] : List Event), e.ofCopier = false := fun _ h => nomatch h
  have hone : ∀ {e : Event}, e.ofCopier = false → ∀ e' ∈ [e], e'.ofCopier = false :=
    fun h _ he' => List.mem_singleton.mp he' ▸ h
  cases he with
  | accepted h => exact .spawned h rfl rfl
  | read h hc => exact .moved rfl rfl (h ▸ .read hc)
  | unchunked h hc => exact .moved rfl rfl (h ▸ .unchunked hc)
  | sent h => exact .moved rfl rfl (h ▸ .sent)
  | unsent h => exact .moved rfl rfl (h ▸ .unsent)
  | more h => exact .moved rfl rfl (h ▸ .more)
  | eof h => exact .moved rfl rfl (h ▸ .eof)
  | failed h => exact .moved rfl rfl (h ▸ .failed)
  | input =>
    obtain ⟨f, t, hs, -⟩ := inputTaken_eq s _
    rw [hs]
    exact .quiet rfl rfl hnil
  | @output result rest =>
    obtain ⟨f, t, hs, -⟩ := taken_eq s result rest
    rw [hs]
    exact .quiet rfl rfl hnil
  | conn =>
    obtain ⟨f, t, hs, -⟩ := fail_eq s "connection ended"
    rw [hs]
    exact .quiet rfl rfl hnil
  | @cut _ err =>
    obtain ⟨f, t, hs, -⟩ := cut_eq s err
    rw [hs]
    exact .quiet rfl rfl hnil
  | @handled frame ok =>
    obtain ⟨i, e, r, hs⟩ := handle_eq s ok frame
    rw [hs]
    exact .quiet rfl rfl hnil
  | refused | requested | unstarted | launched | rejected | sentExit =>
    exact .quiet rfl rfl (hone rfl)
  | _ => exact .quiet rfl rfl hnil

/-! ## 4. A step, seen by the main goroutine -/

/-- One move of the main goroutine from place to place, with what it emits. -/
inductive MainMove : MainPc → List Event → MainPc → Prop where
  | unreceived : MainMove .receiving [] .returned
  | refused {frame : Option ClientFrame} : MainMove .receiving [.received frame] .rejecting
  | requested {start : Start} {request : StartRequest} (hd : decodeStart start = .ok request) :
      MainMove .receiving [.received (some (.start start))] (.starting request)
  | unstarted {request : StartRequest} : MainMove (.starting request) [.started request] .rejecting
  | launched {request : StartRequest} {readers : Stream → Bool} :
      MainMove (.starting request) [.started request] (.accepting readers)
  | unrejected : MainMove .rejecting [] .returned
  | rejected : MainMove .rejecting [.sent (startResultFrame false)] .returned
  | unaccepted {readers : Stream → Bool} : MainMove (.accepting readers) [] .abandoning
  | accepted {readers : Stream → Bool} :
      MainMove (.accepting readers) [.sent (startResultFrame true)] .running
  | abandoned : MainMove .abandoning [] .returned
  | exited : MainMove .running [] .draining
  | drained : MainMove .draining [] .exiting
  | unsentExit : MainMove .exiting [] .returned
  | sentExit {result : Exit} : MainMove .exiting [.sent (.exit result)] .returned

/-- What a step is for the main goroutine: nothing, a step of a copier, or a move of its own. -/
inductive MainView (maximum : Nat) (s s' : State) (evs : List Event) : Prop where
  | stays (hm : s'.main = s.main) (he : evs = [])
  | copies {x : Stream} {pc : CopyPc} (hm : s'.main = s.main)
      (hc : s'.copier = Function.update s.copier x pc)
      (hmove : CopyMove maximum x (s.copier x) evs pc)
  | moves (hmove : MainMove s.main evs s'.main)

theorem Effect.mainView {a : Act} (he : Effect maximum s a s' evs) : MainView maximum s s' evs := by
  cases he with
  | unreceived h => exact .moves (h ▸ .unreceived)
  | refused h => exact .moves (h ▸ .refused)
  | requested h hd => exact .moves (h ▸ .requested hd)
  | unstarted h => exact .moves (h ▸ .unstarted)
  | launched h => exact .moves (h ▸ .launched)
  | unrejected h => exact .moves (h ▸ .unrejected)
  | rejected h => exact .moves (h ▸ .rejected)
  | unaccepted h => exact .moves (h ▸ .unaccepted)
  | accepted h => exact .moves (h ▸ .accepted)
  | abandoned h => exact .moves (h ▸ .abandoned)
  | exited h => exact .moves (h ▸ .exited)
  | drained h => exact .moves (h ▸ .drained)
  | unsentExit h => exact .moves (h ▸ .unsentExit)
  | sentExit h => exact .moves (h ▸ .sentExit)
  | read h hc => exact .copies rfl rfl (h ▸ .read hc)
  | unchunked h hc => exact .copies rfl rfl (h ▸ .unchunked hc)
  | sent h => exact .copies rfl rfl (h ▸ .sent)
  | unsent h => exact .copies rfl rfl (h ▸ .unsent)
  | more h => exact .copies rfl rfl (h ▸ .more)
  | eof h => exact .copies rfl rfl (h ▸ .eof)
  | failed h => exact .copies rfl rfl (h ▸ .failed)
  | input =>
    obtain ⟨f, t, hs, -⟩ := inputTaken_eq s _
    rw [hs]
    exact .stays rfl rfl
  | @output result rest =>
    obtain ⟨f, t, hs, -⟩ := taken_eq s result rest
    rw [hs]
    exact .stays rfl rfl
  | conn =>
    obtain ⟨f, t, hs, -⟩ := fail_eq s "connection ended"
    rw [hs]
    exact .stays rfl rfl
  | @cut _ err =>
    obtain ⟨f, t, hs, -⟩ := cut_eq s err
    rw [hs]
    exact .stays rfl rfl
  | @handled frame ok =>
    obtain ⟨i, e, r, hs⟩ := handle_eq s ok frame
    rw [hs]
    exact .stays rfl rfl
  | unreceivedInput | receivedInput | waited | endConn | endInput | endOutput | stopReading | died =>
    exact .stays rfl rfl

end Mygosh.Command

/-
  File:      Mygosh/Command/Trace.lean
  Subject:   The frames a server sends, over every run.

  A server sends one rejection, or an acceptance, output and one exit. The order of the last two rests
  on the copiers having ended when the exit is sent. The two branches that leave the drain loop early
  do not wait for them, and a cancelled context does not keep `SendFrame` from succeeding; the theorem
  says what holds in runs that take these branches only when the copiers have ended.
-/
import Mygosh.Command.Output

namespace Mygosh.Command

open Mux (Bytes)
open Server (StartRequest)

/-! ## 1. The frames of a trace -/

def Event.frame : Event → Option ServerFrame
  | .sent frame => some frame
  | _ => none

/-- The frames handed to `SendFrame` successfully, in order. -/
def frames (tr : List Event) : List ServerFrame := tr.filterMap Event.frame

def ServerFrame.isOutput : ServerFrame → Bool
  | .stdout _ | .stderr _ => true
  | _ => false

/-- An acceptance followed by output only. -/
def Accepted (fs : List ServerFrame) : Prop :=
  ∃ outs, (∀ f ∈ outs, f.isOutput = true) ∧ fs = startResultFrame true :: outs

/-- Nothing, one rejection, an acceptance with output, or that with an exit at its end. -/
def WellFormed (fs : List ServerFrame) : Prop :=
  fs = [] ∨ fs = [startResultFrame false] ∨ Accepted fs ∨ ∃ gs e, Accepted gs ∧ fs = gs ++ [.exit e]

/-- The starter was called once, right after a first frame that is a valid start. -/
def StartedOnce (tr : List Event) : Prop :=
  ∃ start request rest, decodeStart start = .ok request ∧
    tr = .received (some (.start start)) :: .started request :: rest ∧ ∀ r, .started r ∉ rest

/-- The starter was not called, or once after a valid start. -/
def StarterOk (tr : List Event) : Prop := (∀ r, .started r ∉ tr) ∨ StartedOnce tr

/-- The exit is the last frame. -/
theorem WellFormed.exit_last {fs : List ServerFrame} {e : Exit} (h : WellFormed fs)
    (he : .exit e ∈ fs) : ∃ e', fs.getLast? = some (.exit e') := by
  have hout : ∀ {gs : List ServerFrame}, Accepted gs → .exit e ∉ gs := by
    rintro _ ⟨outs, ho, rfl⟩ hm
    rcases List.mem_cons.mp hm with hm | hm
    · cases hm
    · cases ho _ hm
  rcases h with rfl | rfl | h | ⟨gs, e', -, rfl⟩
  · cases he
  · cases List.mem_singleton.mp he
  · exact absurd he (hout h)
  · exact ⟨e', List.getLast?_concat⟩

section Frames

variable {maximum : Nat} {s s' : State} {a : Act} {tr evs : List Event} {x : Stream}

@[simp] theorem frames_append : frames (tr ++ evs) = frames tr ++ frames evs :=
  List.filterMap_append

theorem Accepted.append {fs gs : List ServerFrame} (h : Accepted fs)
    (hg : ∀ f ∈ gs, f.isOutput = true) : Accepted (fs ++ gs) := by
  obtain ⟨outs, ho, rfl⟩ := h
  exact ⟨outs ++ gs, List.forall_mem_append.mpr ⟨ho, hg⟩, rfl⟩

theorem StarterOk.append (h : StarterOk tr) (he : ∀ r, .started r ∉ evs) :
    StarterOk (tr ++ evs) := by
  rcases h with h | ⟨start, request, rest, hd, rfl, hr⟩
  · exact .inl fun r hm => (List.mem_append.mp hm).elim (h r) (he r)
  · exact .inr ⟨start, request, rest ++ evs, hd, rfl,
      fun r hm => (List.mem_append.mp hm).elim (hr r) (he r)⟩

/-- A copier sends output and calls no starter. -/
theorem CopyMove.frames {pc pc' : CopyPc} (hm : CopyMove maximum x pc evs pc') :
    (∀ f ∈ frames evs, f.isOutput = true) ∧ ∀ r, .started r ∉ evs := by
  cases hm with
  | sent => cases x <;> simp [Command.frames, Event.frame, outputFrame, ServerFrame.isOutput]
  | _ => simp [Command.frames, Event.frame]

theorem CopyMove.busy {pc pc' : CopyPc} (hm : CopyMove maximum x pc evs pc') : pc.busy = 1 := by
  cases hm <;> rfl

/-- Only the copier of stderr sends its frames. -/
theorem CopyMove.not_stderr {pc pc' : CopyPc} (hm : CopyMove maximum .stdout pc evs pc')
    (data : Bytes) : .stderr data ∉ Command.frames evs := by
  cases hm <;> simp [Command.frames, Event.frame, outputFrame]

/-! ## 2. What the main goroutine has sent where it is -/

/-- The calls of the starter, by the place of the main goroutine. -/
def StartPhase (tr : List Event) : MainPc → Prop
  | .receiving => tr = []
  | .starting request => ∃ start, decodeStart start = .ok request ∧
      tr = [.received (some (.start start))]
  | _ => StarterOk tr

/-- The frames sent, by the place of the main goroutine. -/
def FramePhase (tr : List Event) : MainPc → Prop
  | .running | .draining | .exiting => Accepted (frames tr)
  | .returned => WellFormed (frames tr)
  | _ => frames tr = []

/-- No copier is left when the exit is sent, if the drain loop is not left early. -/
def Stopped (s : State) : Prop :=
  match s.main with
  | .draining => s.pendingOutputs = s.owed ∨ ∀ x, (s.copier x).busy = 0
  | .exiting | .returned => ∀ x, (s.copier x).busy = 0
  | _ => True

/-- The select cases that leave the drain loop early. -/
def Act.cuts : Act → Bool
  | .takeTimer | .takeConn => true
  | _ => false

/-- The drain loop is left early only when no copier is running any more. -/
def DrainsFully (s : State) (a : Act) : Prop :=
  a.cuts = true → s.main = .draining → ∀ x, (s.copier x).busy = 0

theorem busy_eq_zero (h : s.owed = 0) : (s.copier x).busy = 0 := by
  unfold State.owed at h
  cases x <;> omega

/-- What `Stopped` depends on. -/
theorem Stopped.congr (hS : Stopped s) (hm : s'.main = s.main) (hc : s'.copier = s.copier)
    (ho : s'.outputs = s.outputs) (hp : s'.pendingOutputs = s.pendingOutputs) : Stopped s' := by
  have howed : s'.owed = s.owed := by
    unfold State.owed
    rw [hc, ho]
  unfold Stopped at hS ⊢
  rw [hm, howed, hp, hc]
  exact hS

/-- A busy copier may move on or send its result. -/
theorem Stopped.copier (hS : Stopped s) (hb : (s.copier x).busy = 1) (hm : s'.main = s.main)
    (ho : s'.owed = s.owed) (hp : s'.pendingOutputs = s.pendingOutputs) : Stopped s' := by
  have hbusy : ¬ ∀ y, (s.copier y).busy = 0 := fun h => by
    rw [h x] at hb
    cases hb
  unfold Stopped at hS ⊢
  rw [hm, ho, hp]
  cases hs : s.main <;> simp only [hs] at hS ⊢
  case draining => exact .inl (hS.resolve_right hbusy)
  case exiting | returned => exact absurd hS hbusy

theorem Stopped.step (hS : Stopped s) (hA : Accounts s) (hc : DrainsFully s a)
    (he : Effect maximum s a s' evs) : Stopped s' := by
  cases he with
  | unreceived h | unrejected h | rejected h | abandoned h =>
    simp only [Accounts, h] at hA
    exact fun x => busy_eq_zero (owed_eq_zero hA)
  | refused | requested | unstarted | launched | unaccepted | accepted => trivial
  | exited h =>
    simp only [Accounts, h] at hA
    exact .inl hA
  | drained h hp =>
    simp only [Stopped, h, hp] at hS
    exact hS.elim (fun h0 x => busy_eq_zero h0.symm) id
  | unsentExit h | sentExit h =>
    simp only [Stopped, h] at hS
    exact hS
  | @output result rest h ho =>
    obtain ⟨f, t, hs, -⟩ := taken_eq s result rest
    rw [hs]
    rcases h with h | ⟨h, hp⟩
    · simp only [Stopped, h]
    · simp only [Stopped, h] at hS ⊢
      rcases hS with hS | hS
      · left
        have howed : s.owed = rest.length + 1 + (s.copier .stdout).busy + (s.copier .stderr).busy := by
          unfold State.owed
          rw [ho]
          rfl
        simp only [State.owed]
        omega
      · exact .inr hS
  | @cut _ err h hp ha =>
    obtain ⟨f, t, hs, -⟩ := cut_eq s err
    rw [hs]
    simp only [Stopped, h]
    exact .inr (hc (by rcases ha with rfl | ⟨rfl, -⟩ <;> rfl) h)
  | input =>
    obtain ⟨f, t, hs, -⟩ := inputTaken_eq s _
    rw [hs]
    exact hS.congr rfl rfl rfl rfl
  | conn =>
    obtain ⟨f, t, hs, -⟩ := fail_eq s "connection ended"
    rw [hs]
    exact hS.congr rfl rfl rfl rfl
  | read h | sent h | more h =>
    exact hS.copier (by rw [h]; rfl) rfl (owed_update (by rw [h]; rfl)) rfl
  | unchunked h | unsent h | eof h | failed h =>
    exact hS.copier (by rw [h]; rfl) rfl (owed_finish (by rw [h]; rfl)) rfl
  | @handled frame ok =>
    obtain ⟨i, e, r, hs⟩ := handle_eq s ok frame
    rw [hs]
    exact hS.congr rfl rfl rfl rfl
  | unreceivedInput | receivedInput | waited | endConn | endInput | endOutput | stopReading | died =>
    exact hS.congr rfl rfl rfl rfl

/-! ## 3. One step -/

theorem StartPhase.starterOk {pc : MainPc} (h : StartPhase tr pc) : StarterOk tr := by
  cases pc with
  | receiving => exact .inl fun r hm => by rw [show tr = [] from h] at hm; cases hm
  | starting request =>
    obtain ⟨start, -, rfl⟩ := h
    exact .inl fun r hm => by simp at hm
  | _ => exact h

theorem FramePhase.wellFormed {pc : MainPc} (h : FramePhase tr pc) : WellFormed (frames tr) := by
  cases pc with
  | running | draining | exiting => exact .inr (.inr (.inl h))
  | returned => exact h
  | _ => exact .inl h

/-- A copier that moves is neither idle nor finished. -/
theorem CopyMove.ne_idle {pc pc' : CopyPc} (hm : CopyMove maximum x pc evs pc') : pc ≠ .idle := by
  rintro rfl
  cases hm

/-- The starter is called at one place, which the main goroutine passes once. -/
theorem MainMove.startPhase {pc pc' : MainPc} (hm : MainMove pc evs pc') (h : StartPhase tr pc) :
    StartPhase (tr ++ evs) pc' := by
  have hok := h.starterOk
  cases hm with
  | @requested start request hd =>
    rw [show tr = [] from h]
    exact ⟨start, hd, rfl⟩
  | unstarted | launched =>
    obtain ⟨start, hd, rfl⟩ := h
    exact .inr ⟨start, _, [], hd, rfl, fun _ h => nomatch h⟩
  | _ => exact hok.append (by simp)

theorem StartPhase.step (h : StartPhase tr s.main) (hA : Accounts s)
    (he : Effect maximum s a s' evs) : StartPhase (tr ++ evs) s'.main := by
  cases he.mainView with
  | stays hm hev =>
    rw [hm, hev, List.append_nil]
    exact h
  | @copies x pc hm hc hmove =>
    have hok := h.starterOk.append hmove.frames.2
    rw [hm]
    cases hs : s.main with
    | receiving | starting => simp only [Accounts, hs] at hA; exact absurd (hA.2 x) hmove.ne_idle
    | _ => exact hok
  | moves hmove => exact hmove.startPhase h

theorem MainMove.framePhase {pc pc' : MainPc} (hm : MainMove pc evs pc') (h : FramePhase tr pc) :
    FramePhase (tr ++ evs) pc' := by
  cases hm with
  | refused | requested | unstarted | launched | unaccepted =>
    simpa [FramePhase, Command.frames, Event.frame] using h
  | unreceived | unrejected | abandoned => exact .inl (by rw [List.append_nil]; exact h)
  | rejected =>
    refine .inr (.inl ?_)
    rw [frames_append, show frames tr = [] from h]
    rfl
  | accepted =>
    refine ⟨[], (fun _ h => nomatch h), ?_⟩
    rw [frames_append, show frames tr = [] from h]
    rfl
  | exited | drained =>
    rw [List.append_nil]
    exact h
  | unsentExit =>
    rw [List.append_nil]
    exact .inr (.inr (.inl h))
  | sentExit => exact .inr (.inr (.inr ⟨frames tr, _, h, frames_append⟩))

theorem FramePhase.step (h : FramePhase tr s.main) (hA : Accounts s) (hS : Stopped s)
    (he : Effect maximum s a s' evs) : FramePhase (tr ++ evs) s'.main := by
  cases he.mainView with
  | stays hm hev =>
    rw [hm, hev, List.append_nil]
    exact h
  | @copies x pc hm hc hmove =>
    -- a copier runs only between the acceptance and the exit
    rw [hm]
    cases hs : s.main <;> simp only [Accounts, Stopped, FramePhase, hs] at hA hS h ⊢
    case running | draining | exiting =>
      rw [frames_append]
      exact h.append hmove.frames.1
    case returned =>
      have hb := hmove.busy
      rw [hS x] at hb
      cases hb
    all_goals exact absurd (hA.2 x) hmove.ne_idle
  | moves hmove => exact hmove.framePhase h

/-- A process without stderr has no copier and no frames for it. -/
def NoStderr (tr : List Event) (s : State) : Prop :=
  s.readers .stderr = false → s.copier .stderr = .idle ∧ ∀ data, .stderr data ∉ frames tr

theorem NoStderr.step (hN : NoStderr tr s) (hA : Accounts s) (hL : Ledgers tr s)
    (he : Effect maximum s a s' evs) : NoStderr (tr ++ evs) s' := by
  have happend : ∀ {evs : List Event}, (∀ data, ServerFrame.stderr data ∉ frames evs) →
      (∀ data, ServerFrame.stderr data ∉ frames tr) →
      ∀ data, ServerFrame.stderr data ∉ frames (tr ++ evs) := fun h h' data hm => by
    rw [frames_append] at hm
    exact (List.mem_append.mp hm).elim (h' data) (h data)
  intro hno
  cases he.copyView with
  | quiet hc hr hev =>
    rw [hr] at hno
    rw [hc]
    refine ⟨(hN hno).1, happend (fun data hm => ?_) (hN hno).2⟩
    obtain ⟨e, he', hf⟩ := List.mem_filterMap.mp hm
    have := hev e he'
    cases e <;> cases hf
    cases this
  | @spawned readers h hs hev =>
    -- before the goroutines are started no output is known, so nothing was sent for stderr
    subst hs hev
    simp only [Accounts, h] at hA
    have hread : s.readers .stderr = false := by
      have := hL .stderr
      rw [hA.2] at this
      exact this.2.2
    exact ⟨if_neg (Bool.eq_false_iff.mp hno),
      happend (by simp [Command.frames, Event.frame, startResultFrame]) (hN hread).2⟩
  | @moved x pc hc hr hmove =>
    rw [hr] at hno
    obtain ⟨hidle, hsent⟩ := hN hno
    cases x with
    | stderr => exact absurd hidle hmove.ne_idle
    | stdout =>
      rw [hc, Function.update_of_ne (by decide)]
      exact ⟨hidle, happend hmove.not_stderr hsent⟩

end Frames

/-- The starter's calls and the frames for stderr, in every run. -/
theorem starts_run {maximum : Nat} {C : State → Act → Prop} {tr : List Event} {s : State}
    (h : (serve maximum).Run C tr s) : StartPhase tr s.main ∧ NoStderr tr s := by
  refine h.invariant (I := fun tr s => StartPhase tr s.main ∧ NoStderr tr s) ?_ ?_
  · exact ⟨rfl, fun _ => ⟨rfl, fun _ h => nomatch h⟩⟩
  · intro tr evs s s' a hrun ⟨hT, hN⟩ _ hs
    obtain ⟨hA, hL, -, -⟩ := books_run hrun
    have he : Effect maximum s a s' evs := effect_of_step hs
    exact ⟨hT.step hA he, hN.step hA hL he⟩

/-- **The frames of a server.** In every run that leaves the drain loop early only when no copier is
    running any more. -/
theorem frames_wellFormed {maximum : Nat} {tr : List Event} {s : State}
    (h : (serve maximum).Run DrainsFully tr s) :
    WellFormed (frames tr) ∧ StarterOk tr ∧
      (s.readers .stderr = false → ∀ data, .stderr data ∉ frames tr) := by
  have hinv : Stopped s ∧ FramePhase tr s.main := by
    refine h.invariant (I := fun tr s => Stopped s ∧ FramePhase tr s.main)
      (show Stopped State.start ∧ FramePhase [] MainPc.receiving from ⟨trivial, rfl⟩) ?_
    intro tr evs s s' a hrun ⟨hS, hF⟩ hc hs
    have hA := (books_run hrun).1
    have he : Effect maximum s a s' evs := effect_of_step hs
    exact ⟨hS.step hA hc he, hF.step hA hS he⟩
  obtain ⟨hT, hN⟩ := starts_run h
  exact ⟨hinv.2.wellFormed, hT.starterOk, fun hr => (hN hr).2⟩

/-- A run that drains fully: a process writes one byte to each output and ends. -/
theorem frames_wellFormed_two_outputs :
    ∃ tr s, (serve 64).Run DrainsFully tr s ∧
      frames tr = [startResultFrame true, .stdout [104], .stderr [105], .exit (.status 0)] ∧
      WellFormed (frames tr) ∧ StarterOk tr ∧
        (s.readers .stderr = false → ∀ data, .stderr data ∉ frames tr) := by
  obtain ⟨tr, s, hrun, hP⟩ := Lts.exists_run_of_replay (L := serve 64)
    (C := fun _ a => a.cuts = false)
    (P := fun tr _ => frames tr =
      [startResultFrame true, .stdout [104], .stderr [105], .exit (.status 0)])
    (launch ++ ([.read .stdout [104] .eof, .send .stdout true, .report .stdout,
      .read .stderr [105] .eof, .send .stderr true, .report .stderr, .die ⟨0, "", ""⟩, .wait,
      .takeExit, .takeOutput, .takeOutput, .drained, .exit true] : List Act)) (by decide +kernel)
  have hfull : (serve 64).Run DrainsFully tr s :=
    hrun.mono fun _ _ h ha => by rw [h] at ha; cases ha
  exact ⟨tr, s, hfull, hP, frames_wellFormed hfull⟩

/-- A frame of output is sent after the exit: the drain timer fires while the copier of stdout is
    about to send. -/
theorem stdout_after_exit :
    ∃ tr s, (serve 128).Run (fun _ _ => True) tr s ∧
      frames tr = [startResultFrame true, .exit (.runtimeFailure genericRuntimeMessage),
        .stdout [104]] ∧ ¬ WellFormed (frames tr) := by
  obtain ⟨tr, s, hrun, hframes⟩ := Lts.exists_run_of_replay (L := serve 128)
    (C := fun _ _ => True) (P := fun tr _ => frames tr = [startResultFrame true,
      .exit (.runtimeFailure genericRuntimeMessage), .stdout [104]])
    (launch ++ ([.read .stdout [104] .more, .die ⟨0, "", ""⟩, .wait, .takeExit, .takeTimer, .drained,
      .exit true, .send .stdout true] : List Act)) (by decide +kernel)
  refine ⟨tr, s, hrun, hframes, fun hw => ?_⟩
  obtain ⟨e, he⟩ := hw.exit_last (by rw [hframes]; exact List.mem_cons_of_mem _ List.mem_cons_self)
  rw [hframes] at he
  cases he

end Mygosh.Command

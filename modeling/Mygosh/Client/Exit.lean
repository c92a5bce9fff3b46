/-
  File:      Mygosh/Client/Exit.lean
  Subject:   The client reports the exit it received.

  The frames a server may send are read by a small automaton; the client follows it frame by frame.
  Until `finish` is entered every goroutine is at one of a few places, and only the receive loop, with
  the exit recorded, may enter it. That rests on no other goroutine failing in between: a send after
  the peer's close, or a call after the exit was recorded, ends the client with its own error.

  * `wait_returns_exit` -- what `wait` returns; `wait_can_return` -- that it can.
-/
import Mygosh.Client.Effect

namespace Mygosh.Client

open Function (update update_self update_of_ne)
open Mux (Bytes)
open Command (ServerFrame Stream chunkedFrames)

/-! ## 1. Legal frames -/

/-- How far a server is in its protocol. -/
inductive Phase where
  | expecting
  | running
  | ended (result : Option ClientError)
  deriving DecidableEq, Repr

/-- The phase after a legal frame. -/
def Phase.next (pty : Bool) : Phase → Option ServerFrame → Option Phase
  | .ended result, _ => some (.ended result)
  | .expecting, some (.startResult accepted code message) =>
    if accepted && code = "" && message = "" then some .running else none
  | .running, some (.stdout _) => some .running
  | .running, some (.stderr _) => if pty then none else some .running
  | .running, some (.exit e) => some (.ended (terminalResult (decodeExit e)))
  | _, _ => none

/-- The phase after some frames, if they are legal. -/
def Phase.after (pty : Bool) (p : Phase) (fs : List (Option ServerFrame)) : Option Phase :=
  fs.foldlM (Phase.next pty) p

def Event.frame : Event → Option (Option ServerFrame)
  | .queued frame _ => some frame
  | .waited _ => none

/-- The frames accepted into the queue. -/
def queuedFrames (tr : List Event) : List (Option ServerFrame) := tr.filterMap Event.frame

section Phase

variable {pty : Bool} {p q : Phase} {fs gs : List (Option ServerFrame)} {frame : Option ServerFrame}

theorem Phase.after_append :
    p.after pty (fs ++ gs) = (p.after pty fs).bind fun q => q.after pty gs :=
  List.foldlM_append

theorem Phase.after_cons : p.after pty (frame :: fs) = (p.next pty frame).bind fun q => q.after pty fs :=
  List.foldlM_cons

/-- After the exit nothing counts. -/
@[simp] theorem Phase.after_ended {result : Option ClientError} :
    (Phase.ended result).after pty fs = some (.ended result) := by
  induction fs with
  | nil => rfl
  | cons frame fs ih => rw [Phase.after_cons]; exact ih

end Phase

/-! ## 2. The client's phase -/

/-- The phase the client is in: what its receive loop has made of the frames it took. -/
def State.phase (s : State) : Phase :=
  match s.pc .reader with
  | .accepting => .running
  | .recording result => .ended result
  | _ =>
    match s.state with
    | .idle | .starting => .expecting
    | .running => .running
    | .exited | .closed => .ended s.waitErr

/-- The frames it has not looked at yet. -/
def State.unread (s : State) : List (Option ServerFrame) :=
  match s.pc .reader with
  | .handling frame => frame :: s.frames
  | _ => s.frames

/-! ## 3. Where the goroutines are before the client is finished -/

/-- The start was accepted. -/
def State.up (s : State) : Prop := s.state = .running ∨ s.state = .exited

/-- Where a goroutine may be while nothing has gone wrong. -/
def Place (maximum : Nat) (s : State) : Tid → Pc → Prop
  | .run, .begin => s.state = .idle
  | .run, .sendStart | .run, .awaitStarted => s.state ≠ .idle
  | .run, .openInput | .run, .waiting => s.up
  | .reader, .off => s.state = .idle
  | .reader, .receiving | .reader, .handling _ => s.state = .starting ∨ s.state = .running
  | .reader, .accepting => s.state = .starting
  | .reader, .reporting result => s.state = .running ∧ result = none
  | .reader, .writing _ | .reader, .recording _ => s.state = .running
  | .reader, .finish .claim err next => s.state = .exited ∧ err = s.waitErr ∧ next = .receiving
  | .input, .off => True
  | .input, .reading | .input, .stdinEof => s.up ∧ s.stdinEOF = false
  | .input, .stdin _ after | .input, .sendStdin _ after =>
    s.up ∧ s.stdinEOF = false ∧ after ≠ .failed
  | .input, .sendEof => s.up
  | .resizer, .off => True
  | .resizer, .resizing | .resizer, .sendResize => s.up ∧ s.hasPTY = true
  | .resizer, .resize rows columns =>
    s.up ∧ s.hasPTY = true ∧ windowChangeFits maximum rows columns = true
  | .canceller, .armed => True
  | _, _ => False

/-- Nothing has gone wrong and nobody has entered `finish`. -/
structure Before (maximum : Nat) (s : State) : Prop where
  once : s.once = false
  done : s.done = false
  localClosed : s.localClosed = false
  cancelled : s.cancelled = false
  sink : s.state ≠ .idle → ∀ x, s.sink x = true
  started : ∀ result, s.started = some result → result = none ∧ s.up
  forward : s.pc .run ≠ .waiting → s.pc .input = .off ∧ s.stdinEOF = false
  place : ∀ t, Place maximum s t (s.pc t)

/-- Where the caller of `finish` goes on. -/
def Harmless (next : Pc) : Prop := next = .off ∨ next = .receiving ∨ next = .cancelling

/-- Where a goroutine may be once the exit is recorded and `finish` was entered with it. -/
def Settled (s : State) : Pc → Prop
  | .accepting | .recording _ => False
  | .finish .record err next => err = s.waitErr ∧ Harmless next
  | .finish _ _ next => Harmless next
  | _ => True

/-- The exit is recorded and `finish` was entered with it. -/
structure Over (s : State) : Prop where
  once : s.once = true
  state : s.state = .exited
  place : ∀ t, Settled s (s.pc t)

/-! ## 4. The surroundings -/

/-- The user does not cancel, the channel works as long as it is open, and the client's own terminal,
    input and sinks work. -/
def Works (maximum : Nat) (s : State) : Act → Bool
  | .cancel => false
  | .sendStart ok | .sendStdin ok | .sendEof ok | .sendResize ok =>
    ok || s.remoteClosed || s.localClosed || s.cancelled
  | .receive ok => ok || s.remoteClosed || s.localClosed
  | .openInput ok _ | .write ok => ok
  | .read _ after => after ≠ .failed
  | .resized rows columns => windowChangeFits maximum rows columns
  | _ => true

/-- Until the client is done, nothing is sent once the peer has closed the channel, and no call is
    made once the exit is recorded. -/
def InTime (s : State) : Act → Bool
  | .sendStart _ | .sendStdin _ | .sendEof _ | .sendResize _ => s.done || !s.remoteClosed
  | .stdin | .stdinEof | .resize => s.done || s.state ≠ .exited
  | _ => true

section Places

variable {maximum : Nat} {s s' : State} {a : Act} {evs : List Event} {t u : Tid} {pc : Pc}

/-- What the place of a goroutine other than the receive loop depends on. -/
theorem Place.congr (h : Place maximum s t pc) (ht : t ≠ .reader)
    (hidle : t = .run → (s'.state = .idle ↔ s.state = .idle)) (hup : s.up → s'.up)
    (heof : t = .input → s'.stdinEOF = s.stdinEOF) (hpty : s.up → s'.hasPTY = s.hasPTY) :
    Place maximum s' t pc := by
  cases t with
  | reader => exact absurd rfl ht
  | canceller =>
    unfold Place at h ⊢
    cases pc <;> exact h
  | run =>
    unfold Place at h ⊢
    cases pc with
    | begin => exact (hidle rfl).mpr h
    | sendStart | awaitStarted => exact fun h' => h ((hidle rfl).mp h')
    | openInput | waiting => exact hup h
    | _ => exact h
  | input =>
    unfold Place at h ⊢
    rw [heof rfl]
    cases pc with
    | reading | stdinEof | stdin | sendStdin => exact ⟨hup h.1, h.2⟩
    | sendEof => exact hup h
    | _ => exact h
  | resizer =>
    unfold Place at h ⊢
    cases pc with
    | resizing | sendResize => exact ⟨hup h.1, (hpty h.1).trans h.2⟩
    | resize => exact ⟨hup h.1, (hpty h.1).trans h.2.1, h.2.2⟩
    | _ => exact h

/-- The same for the receive loop. -/
theorem Place.reader_congr (h : Place maximum s .reader pc) (hs : s'.state = s.state)
    (hw : s'.waitErr = s.waitErr) : Place maximum s' .reader pc := by
  unfold Place at h ⊢
  rw [hs, hw]
  cases pc with
  | finish stage err next => cases stage <;> exact h
  | _ => exact h

/-- A forwarder that moves was started, and `Run` is not waiting for the client when it moves. -/
theorem Move.source (hm : Move maximum s a t pc) :
    (t = .input → s.pc t ≠ .off) ∧ (t = .run → s.pc t ≠ .waiting) := by
  cases hm with
  | passed h => rw [h]; simp
  | _ => simp_all

/-- One goroutine goes to another of its places. -/
theorem Before.goto (hB : Before maximum s)
    (hfrom : (t = .input → s.pc t ≠ .off) ∧ (t = .run → s.pc t ≠ .waiting))
    (hp : Place maximum s t pc) : Before maximum (s.goto t pc) where
  __ := hB
  forward h := by
    by_cases hr : t = .run
    · subst hr
      rw [goto_pc_of_ne (by decide)]
      exact hB.forward (hfrom.2 rfl)
    · rw [goto_pc_of_ne (Ne.symm hr)] at h
      have hoff := hB.forward h
      have hi : Tid.input ≠ t := by
        rintro rfl
        exact hfrom.1 rfl hoff.1
      rw [goto_pc_of_ne hi]
      exact hoff
  place u := by
    by_cases hu : u = t
    · subst hu
      rw [goto_pc_self]
      exact hp
    · rw [goto_pc_of_ne hu]
      exact hB.place u

/-- A send does not fail in time. -/
theorem Before.sends (hB : Before maximum s) {ok : Bool}
    (hw : (ok || s.remoteClosed || s.localClosed || s.cancelled) = true)
    (ht : (s.done || !s.remoteClosed) = true) : ok = true := by
  have hd := hB.done
  have hl := hB.localClosed
  have hc := hB.cancelled
  simp_all

/-- A call made in time finds the client running. -/
theorem Before.running (hB : Before maximum s) (hup : s.up)
    (ht : (s.done || decide (s.state ≠ .exited)) = true) : s.state = .running := by
  have hd := hB.done
  rcases hup with h | h
  · exact h
  · simp [hd, h] at ht

theorem InputEnd.place {after : InputEnd} (ha : after ≠ .failed) (hup : s.up)
    (he : s.stdinEOF = false) : Place maximum s .input after.next := by
  cases after with
  | more | eof => exact ⟨hup, he⟩
  | quiet => trivial
  | failed => exact absurd rfl ha

/-- In time, every move but a failed receive leads to a place. -/
theorem Before.move (hB : Before maximum s) (hmax : 5 ≤ maximum) (hw : Works maximum s a = true)
    (ht : InTime s a = true) (hr : a ≠ .receive false) (hm : Move maximum s a t pc) :
    Place maximum s t pc := by
  have hplace := hB.place t
  cases hm with
  | restarted h hs => rw [h] at hplace; exact absurd hplace hs
  | sentStart h => rw [h] at hplace; exact hplace
  | unsentStart => cases hB.sends hw ht
  | gaveUp h hc => rw [hB.cancelled] at hc; cases hc
  | unopened | unwritten => cases hw
  | unreceived => exact absurd rfl hr
  | written h => rw [h] at hplace; exact .inr hplace
  | readNothing h =>
    rw [h] at hplace
    exact InputEnd.place (of_decide_eq_true hw) hplace.1 hplace.2
  | read h hd =>
    rw [h] at hplace
    exact ⟨hplace.1, hplace.2, of_decide_eq_true hw⟩
  | @stdinRefused data after h hs =>
    rw [h] at hplace
    have hsome := @Command.chunkedFrames_isSome data maximum hmax
    rcases hs with hs | hs | hs
    · exact absurd (hB.running hplace.1 ht) hs
    · rw [hplace.2.1] at hs; cases hs
    · rw [hs] at hsome; cases hsome
  | stdin h => rw [h] at hplace; exact hplace
  | stdinDone h => rw [h] at hplace; exact InputEnd.place hplace.2.2 hplace.1 hplace.2.1
  | sentStdin h => rw [h] at hplace; exact hplace
  | unsentStdin => cases hB.sends hw ht
  | eofRefused h hs =>
    rw [h] at hplace
    rcases hs with hs | hs
    · exact absurd (hB.running hplace.1 ht) hs
    · rw [hplace.2] at hs; cases hs
  | sentEof | stopped => trivial
  | unsentEof => cases hB.sends hw ht
  | resized h => rw [h] at hplace; exact ⟨hplace.1, hplace.2, hw⟩
  | resizeRefused h hs =>
    rw [h] at hplace
    rcases hs with hs | hs | hs
    · exact absurd (hB.running hplace.1 ht) hs
    · rw [hplace.2.1] at hs; cases hs
    · rw [hplace.2.2] at hs; cases hs
  | resize h => rw [h] at hplace; exact ⟨hplace.1, hplace.2.1⟩
  | sentResize h => rw [h] at hplace; exact hplace
  | unsentResize => cases hB.sends hw ht
  | onCancel h hc => rw [hB.cancelled] at hc; cases hc
  | passed h ho => rw [hB.once] at ho; cases ho

end Places

/-! ## 5. The client follows the server -/

section Follow

variable {maximum : Nat} {s s' : State} {a : Act} {evs : List Event} {t : Tid} {pc : Pc} {pty : Bool}
  {p q : Phase} {frame : Option ServerFrame}

/-- The client, with what it has not looked at, is where the server is. -/
def Sync (pty : Bool) (p : Phase) (s : State) : Prop := s.phase.after pty s.unread = some p

/-- What this depends on. -/
theorem Sync.congr (h : Sync pty p s) (hs : s'.state = s.state) (hw : s'.waitErr = s.waitErr)
    (hf : s'.frames = s.frames) (hr : s'.pc .reader = s.pc .reader) : Sync pty p s' := by
  have hphase : s'.phase = s.phase := by
    unfold State.phase
    rw [hr, hs, hw]
  have hunread : s'.unread = s.unread := by
    unfold State.unread
    rw [hr, hf]
  unfold Sync
  rw [hphase, hunread]
  exact h

/-- A legal frame is handled as the server means it. -/
theorem Before.handle (hB : Before maximum s) (h : s.pc .reader = .handling frame)
    (hpty : s.hasPTY = pty) (hn : s.phase.next pty frame = some q) :
    Before maximum (s.handle frame) ∧ (s.handle frame).phase = q ∧
      (s.handle frame).unread = s.frames := by
  have hplace := hB.place .reader
  have hfrom : (Tid.reader = .input → s.pc .reader ≠ .off) ∧
      (Tid.reader = .run → s.pc .reader ≠ .waiting) := by simp
  rw [h] at hplace
  have hsink := hB.sink (by rcases hplace with hs | hs <;> rw [hs] <;> decide)
  rcases hplace with hs | hs
  · -- the start result
    have hphase : s.phase = .expecting := by simp only [State.phase, h, hs]
    rw [hphase] at hn
    rcases frame with _ | ⟨accepted, code, message⟩ | _ | _ | _
    case some.startResult =>
      simp only [Phase.next] at hn
      split_ifs at hn with hc
      simp only [Bool.and_eq_true, decide_eq_true_eq] at hc
      obtain ⟨⟨rfl, rfl⟩, rfl⟩ := hc
      cases hn
      have hhandle : s.handle (some (.startResult true "" "")) = s.goto .reader .accepting := by
        simp [State.handle, decodeServerEvent, State.handleServerEvent, hs]
      rw [hhandle]
      exact ⟨hB.goto hfrom hs, by simp [State.phase], by simp [State.unread, State.goto]⟩
    all_goals cases hn
  · have hphase : s.phase = .running := by simp only [State.phase, h, hs]
    rw [hphase] at hn
    rcases frame with _ | _ | data | data | e
    case some.stdout =>
      cases hn
      have hhandle : s.handle (some (.stdout data)) = s.goto .reader (.writing .stdout) := by
        simp [State.handle, decodeServerEvent, State.handleServerEvent, hs, hsink]
      rw [hhandle]
      refine ⟨hB.goto hfrom hs, ?_, by simp [State.unread, State.goto]⟩
      simp [State.phase, show (s.goto .reader (.writing .stdout)).state = .running from hs]
    case some.stderr =>
      simp only [Phase.next] at hn
      split_ifs at hn with hp
      cases hn
      have hhandle : s.handle (some (.stderr data)) = s.goto .reader (.writing .stderr) := by
        simp [State.handle, decodeServerEvent, State.handleServerEvent, hs, hsink, hpty, hp]
      rw [hhandle]
      refine ⟨hB.goto hfrom hs, ?_, by simp [State.unread, State.goto]⟩
      simp [State.phase, show (s.goto .reader (.writing .stderr)).state = .running from hs]
    case some.exit =>
      cases hn
      have hhandle : s.handle (some (.exit e)) =
          s.goto .reader (.recording (terminalResult (decodeExit e))) := by
        simp [State.handle, decodeServerEvent, State.handleServerEvent, hs]
      rw [hhandle]
      exact ⟨hB.goto hfrom hs, by simp [State.phase], by simp [State.unread, State.goto]⟩
    all_goals cases hn

/-- A move of a goroutine other than the receive loop. -/
theorem Sync.goto (h : Sync pty p s) (ht : t ≠ .reader) : Sync pty p (s.goto t pc) :=
  h.congr rfl rfl rfl (goto_pc_of_ne (Ne.symm ht))

/-- Only the receive loop can be about to finish, with the exit recorded. -/
theorem Before.claim {err : Option ClientError} {next : Pc} (hB : Before maximum s)
    (h : s.pc t = .finish .claim err next) :
    t = .reader ∧ s.state = .exited ∧ err = s.waitErr ∧ next = .receiving := by
  have hplace := hB.place t
  rw [h] at hplace
  cases t with
  | reader => exact ⟨rfl, hplace⟩
  | _ => exact hplace.elim

/-- Nobody is inside `finish`. -/
theorem Before.not_inside {stage : Stage} {err : Option ClientError} {next : Pc}
    (hB : Before maximum s) (hs : stage ≠ .claim) : s.pc t ≠ .finish stage err next := by
  intro h
  have hplace := hB.place t
  rw [h] at hplace
  cases t <;> cases stage <;> first | exact hplace | exact hs rfl

/-- With the exit recorded, every place is settled. -/
theorem Before.settled (hB : Before maximum s) (hs : s.state = .exited) (t : Tid) :
    Settled s (s.pc t) := by
  have hplace := hB.place t
  cases hpc : s.pc t with
  | accepting =>
    rw [hpc] at hplace
    cases t <;> first | exact hplace.elim | (rw [Place, hs] at hplace; cases hplace)
  | recording =>
    rw [hpc] at hplace
    cases t <;> first | exact hplace.elim | (rw [Place, hs] at hplace; cases hplace)
  | finish stage err next =>
    by_cases hst : stage = .claim
    · subst hst
      exact .inr (.inl (hB.claim hpc).2.2.2)
    · exact absurd hpc (hB.not_inside hst)
  | _ => trivial

/-- One goroutine goes to a settled place. -/
theorem Over.jump (hO : Over s) (ho : s'.once = s.once) (hs : s'.state = s.state)
    (hw : s'.waitErr = s.waitErr) (hpc : s'.pc = update s.pc t pc) (hp : Settled s pc) :
    Over s' where
  once := ho.trans hO.once
  state := hs.trans hO.state
  place u := by
    have hsettled : Settled s (s'.pc u) := by
      rw [hpc]
      by_cases hu : u = t
      · subst hu
        rw [update_self]
        exact hp
      · rw [update_of_ne hu]
        exact hO.place u
    unfold Settled at hsettled ⊢
    rw [hw]
    exact hsettled

/-- After the claim the exit stands. -/
theorem Before.claimed {err : Option ClientError} {next : Pc} (hB : Before maximum s)
    (hsync : Sync pty p s) (h : s.pc t = .finish .claim err next) :
    Over ({ s with once := true }.goto t (.finish .record err next)) ∧ p = .ended s.waitErr := by
  obtain ⟨rfl, hs, rfl, rfl⟩ := hB.claim h
  have hO : Over { s with once := true } := ⟨rfl, hs, hB.settled hs⟩
  refine ⟨hO.jump rfl rfl rfl rfl ⟨rfl, .inr (.inl rfl)⟩, ?_⟩
  have hphase : s.phase = .ended s.waitErr := by simp only [State.phase, h, hs]
  rw [Sync, hphase, Phase.after_ended] at hsync
  exact (Option.some.inj hsync).symm

/-- The start. -/
theorem Before.start (hB : Before maximum s) (hsync : Sync pty p s) (h : s.pc .run = .begin)
    (hs : s.state = .idle) {b : Bool} :
    Before maximum (({ s with state := .starting, hasPTY := b, sink := fun _ => true }.goto
        .reader .receiving).goto .run .sendStart) ∧
      Sync pty p (({ s with state := .starting, hasPTY := b, sink := fun _ => true }.goto
        .reader .receiving).goto .run .sendStart) := by
  have hnup : ¬ s.up := fun h => by rcases h with h | h <;> rw [hs] at h <;> cases h
  have hoff : s.pc .reader = .off := by
    have hplace := hB.place .reader
    unfold Place at hplace
    cases hr : s.pc .reader with
    | off => rfl
    | finish stage err next => cases stage <;> simp only [hr, hs, reduceCtorEq, false_and] at hplace
    | _ => simp [hr, hs] at hplace
  refine ⟨⟨hB.once, hB.done, hB.localClosed, hB.cancelled, fun _ _ => rfl,
    fun r hr => absurd (hB.started r hr).2 hnup, fun _ => hB.forward (by simp [h]), fun t => ?_⟩, ?_⟩
  · cases t with
    | run => exact (fun h => nomatch h : ClientState.starting ≠ .idle)
    | reader => exact .inl rfl
    | input | resizer | canceller =>
      exact (hB.place _).congr (by decide) (fun h => nomatch h) (absurd · hnup) (fun _ => rfl)
        (absurd · hnup)
  · have hphase : s.phase = .expecting := by simp only [State.phase, hoff, hs]
    have hunread : s.unread = s.frames := by simp only [State.unread, hoff]
    rw [Sync, hphase, hunread] at hsync
    exact hsync

/-- The receive loop goes on, with the client's state perhaps. -/
theorem Before.advance {s' : State} (hB : Before maximum s) (hne : s.state ≠ .idle)
    (hne' : s'.state ≠ .idle) (hup : s.up → s'.up) (ho : s'.once = s.once) (hd : s'.done = s.done)
    (hl : s'.localClosed = s.localClosed) (hc : s'.cancelled = s.cancelled) (hk : s'.sink = s.sink)
    (hst : ∀ r, s'.started = some r → r = none ∧ s'.up) (he : s'.stdinEOF = s.stdinEOF)
    (hp : s'.hasPTY = s.hasPTY) (hpc : s'.pc = update s.pc .reader pc)
    (hr : Place maximum s' .reader pc) : Before maximum s' where
  once := ho.trans hB.once
  done := hd.trans hB.done
  localClosed := hl.trans hB.localClosed
  cancelled := hc.trans hB.cancelled
  sink _ := hk ▸ hB.sink hne
  started := hst
  forward h := by
    rw [hpc, update_of_ne (by decide)] at h
    rw [hpc, update_of_ne (by decide), he]
    exact hB.forward h
  place t := by
    rw [hpc]
    by_cases ht : t = .reader
    · subst ht
      rw [update_self]
      exact hr
    · rw [update_of_ne ht]
      exact (hB.place t).congr ht (fun _ => iff_of_false hne' hne) hup (fun _ => he) fun _ => hp

/-- A place at which the receive loop holds no frame and nothing it has made of one. -/
def Pc.plain : Pc → Bool
  | .accepting | .recording _ | .handling _ => false
  | _ => true

/-- There the phase is the client's state. -/
theorem phase_of_plain (h : (s.pc .reader).plain = true) :
    s.phase = match s.state with
      | .idle | .starting => .expecting
      | .running => .running
      | .exited | .closed => .ended s.waitErr := by
  unfold State.phase
  cases hpc : s.pc .reader <;> simp_all [Pc.plain]

theorem unread_of_plain (h : (s.pc .reader).plain = true) : s.unread = s.frames := by
  unfold State.unread
  cases hpc : s.pc .reader <;> simp_all [Pc.plain]

/-- The receive loop goes from one such place to another. -/
theorem Sync.plain (h : Sync pty p s) (hr : (s.pc .reader).plain = true)
    (hr' : (s'.pc .reader).plain = true) (hs : s'.state = s.state) (hw : s'.waitErr = s.waitErr)
    (hf : s'.frames = s.frames) : Sync pty p s' := by
  rw [Sync, phase_of_plain hr, unread_of_plain hr] at h
  rw [Sync, phase_of_plain hr', unread_of_plain hr', hs, hw, hf]
  exact h

/-- The server is not done, and it never will be: the peer has closed the channel. -/
def Lost (p : Phase) (s : State) : Prop := s.remoteClosed = true ∧ ∀ result, p ≠ .ended result

/-- Nothing is queued and nothing more will come. -/
theorem Before.starved (hB : Before maximum s) (hsync : Sync pty p s) (h : s.pc .reader = .receiving)
    (hf : s.frames = []) (hw : Works maximum s (.receive false) = true) : Lost p s := by
  have hplace := hB.place .reader
  rw [h] at hplace
  refine ⟨by simpa [Works, hB.localClosed] using hw, fun r hp => ?_⟩
  rw [Sync, unread_of_plain (by rw [h]; rfl), hf, hp] at hsync
  rcases hplace with hs | hs <;> simp [State.phase, h, hs, Phase.after] at hsync

/-- A goroutine moves in time. -/
theorem Before.moved (hB : Before maximum s) (hsync : Sync pty p s) (hmax : 5 ≤ maximum)
    (hw : Works maximum s a = true) (ht : InTime s a = true) (hr : a ≠ .receive false)
    (hm : Move maximum s a t pc) : Before maximum (s.goto t pc) ∧ Sync pty p (s.goto t pc) := by
  refine ⟨hB.goto hm.source (hB.move hmax hw ht hr hm), ?_⟩
  by_cases htr : t = .reader
  · subst htr
    cases hm with
    | unreceived => exact absurd rfl hr
    | unwritten => cases hw
    | passed h ho => rw [hB.once] at ho; cases ho
    | written h => exact hsync.plain (by rw [h]; rfl) (by rw [goto_pc_self]; rfl) rfl rfl rfl
  · exact hsync.goto htr

/-- The forwarders are launched. -/
theorem Before.opened (hB : Before maximum s) (hsync : Sync pty p s) (h : s.pc .run = .openInput) :
    Before maximum ((s.goto .input .reading).goto .run .waiting) ∧ s.up ∧
      Sync pty p ((s.goto .input .reading).goto .run .waiting) := by
  have hup : s.up := by
    have hplace := hB.place .run
    rwa [h] at hplace
  have heof := (hB.forward (by simp [h])).2
  refine ⟨{ hB with forward := fun h => absurd goto_pc_self h, place := fun t => ?_ }, hup,
    (hsync.goto (by decide)).goto (by decide)⟩
  cases t with
  | run => exact hup
  | input => exact ⟨hup, heof⟩
  | reader => exact hB.place .reader
  | resizer => exact hB.place .resizer
  | canceller => exact hB.place .canceller

/-- A frame is taken from the queue. -/
theorem Before.received {frames : List (Option ServerFrame)} (hB : Before maximum s)
    (hsync : Sync pty p s) (h : s.pc .reader = .receiving) (hf : s.frames = frame :: frames) :
    Before maximum ({ s with frames := frames }.goto .reader (.handling frame)) ∧
      Sync pty p ({ s with frames := frames }.goto .reader (.handling frame)) := by
  have hplace := hB.place .reader
  rw [h] at hplace
  have hB' : Before maximum { s with frames := frames } := { hB with place := hB.place }
  have hplain : (s.pc .reader).plain = true := by rw [h]; rfl
  refine ⟨hB'.goto (by simp [h]) hplace, ?_⟩
  rw [Sync, phase_of_plain hplain, unread_of_plain hplain, hf] at hsync
  simpa [Sync, State.phase, State.unread, State.goto] using hsync

/-- And looked at. -/
theorem Before.handled (hB : Before maximum s) (hsync : Sync pty p s)
    (hpty : s.state ≠ .idle → s.hasPTY = pty) (h : s.pc .reader = .handling frame) :
    Before maximum (s.handle frame) ∧ Sync pty p (s.handle frame) := by
  have hplace := hB.place .reader
  rw [h] at hplace
  have hne : s.state ≠ .idle := fun hi => by
    rcases hplace with hs | hs <;> rw [hs] at hi <;> cases hi
  have hunread : s.unread = frame :: s.frames := by simp only [State.unread, h]
  rw [Sync, hunread, Phase.after_cons] at hsync
  obtain ⟨q, hn, hrest⟩ := Option.bind_eq_some_iff.mp hsync
  obtain ⟨hB', hphase, hfs⟩ := hB.handle h (hpty hne) hn
  refine ⟨hB', ?_⟩
  rw [Sync, hphase, hfs]
  exact hrest

/-- The acceptance is recorded. -/
theorem Before.accepted (hB : Before maximum s) (hsync : Sync pty p s) (h : s.pc .reader = .accepting) :
    Before maximum ({ s with state := .running }.goto .reader (.reporting none)) ∧
      Sync pty p ({ s with state := .running }.goto .reader (.reporting none)) := by
  have hs : s.state = .starting := by
    have hplace := hB.place .reader
    rwa [h] at hplace
  refine ⟨hB.advance (by rw [hs]; decide) (by decide : ClientState.running ≠ .idle) (fun _ => .inl rfl)
    rfl rfl rfl rfl rfl (fun r hr => ⟨(hB.started r hr).1, .inl rfl⟩) rfl rfl rfl ⟨rfl, rfl⟩, ?_⟩
  simpa [Sync, State.phase, State.unread, State.goto, h] using hsync

/-- And reported to `Run`. -/
theorem Before.reported (hB : Before maximum s) (hsync : Sync pty p s)
    (h : s.pc .reader = .reporting none) :
    Before maximum ({ s with started := some none }.goto .reader .receiving) ∧
      Sync pty p ({ s with started := some none }.goto .reader .receiving) := by
  have hs : s.state = .running := by
    have hplace := hB.place .reader
    rw [h] at hplace
    exact hplace.1
  refine ⟨hB.advance (by rw [hs]; decide) (by rw [State.goto, hs]; decide) id rfl rfl rfl rfl rfl
    (fun r hr => ⟨(Option.some.inj hr).symm, .inl hs⟩) rfl rfl rfl (.inr hs), ?_⟩
  exact hsync.plain (by rw [h]; rfl) (by rw [goto_pc_self]; rfl) rfl rfl rfl

/-- The exit is recorded. -/
theorem Before.recorded {result : Option ClientError} (hB : Before maximum s) (hsync : Sync pty p s)
    (h : s.pc .reader = .recording result) :
    Before maximum ({ s with state := .exited, waitErr := result }.finish .reader result .receiving) ∧
      Sync pty p ({ s with state := .exited, waitErr := result }.finish .reader result .receiving) := by
  have hs : s.state = .running := by
    have hplace := hB.place .reader
    rwa [h] at hplace
  refine ⟨hB.advance (by rw [hs]; decide) (by decide : ClientState.exited ≠ .idle) (fun _ => .inr rfl)
    rfl rfl rfl rfl rfl (fun r hr => ⟨(hB.started r hr).1, .inr rfl⟩) rfl rfl rfl ⟨rfl, rfl, rfl⟩, ?_⟩
  simpa [Sync, State.phase, State.unread, State.finish, State.goto, h] using hsync

/-- The end of the input is on its way. -/
theorem Before.stdinEof (hB : Before maximum s) (hsync : Sync pty p s) (h : s.pc .input = .stdinEof) :
    Before maximum ({ s with stdinEOF := true }.goto .input .sendEof) ∧
      Sync pty p ({ s with stdinEOF := true }.goto .input .sendEof) := by
  have hin := hB.place .input
  rw [h] at hin
  refine ⟨{ hB with forward := fun hr => ?_, place := fun t => ?_ },
    hsync.congr rfl rfl rfl (goto_pc_of_ne (by decide))⟩
  · rw [goto_pc_of_ne (by decide)] at hr
    have hoff := (hB.forward hr).1
    rw [h] at hoff
    cases hoff
  · by_cases ht : t = .input
    · subst ht
      rw [goto_pc_self]
      exact hin.1
    · rw [goto_pc_of_ne ht]
      by_cases hr : t = .reader
      · subst hr
        exact (hB.place .reader).reader_congr rfl rfl
      · exact (hB.place t).congr hr (fun _ => Iff.rfl) id (absurd · ht) fun _ => rfl

/-- **One step in time**, other than a delivery: the client still follows, its exit stands, or the
    peer has closed the channel before an exit. -/
theorem Before.step (hB : Before maximum s) (hsync : Sync pty p s)
    (hpty : s.state ≠ .idle → s.hasPTY = pty) (hmax : 5 ≤ maximum) (hw : Works maximum s a = true)
    (ht : InTime s a = true) (ha : ∀ frame, a ≠ .deliver frame) (he : Effect maximum s a s' evs) :
    Before maximum s' ∧ Sync pty p s' ∨ Over s' ∧ p = .ended s'.waitErr ∨ Lost p s' := by
  cases he with
  | moved hm =>
    by_cases hr : a = .receive false
    · subst hr
      cases hm with
      | unreceived h hf => exact .inr (.inr (hB.starved hsync h hf hw))
    · exact .inl (hB.moved hsync hmax hw ht hr hm)
  | started h hs => exact .inl (hB.start hsync h hs)
  | launched h hs =>
    have hB' : Before maximum { s with started := none } :=
      { hB with
        started := fun _ h => nomatch h
        place := hB.place }
    exact .inl ⟨hB'.goto (by simp [h]) (hB.started _ hs).2,
      hsync.congr rfl rfl rfl (goto_pc_of_ne (by decide))⟩
  | refused h hs => cases (hB.started _ hs).1
  | opened h =>
    obtain ⟨hB', hup, hsync'⟩ := hB.opened hsync h
    left
    split_ifs with hr
    · simp only [Bool.and_eq_true] at hr
      exact ⟨hB'.goto (by simp) ⟨hup, hr.2⟩, hsync'.goto (by decide)⟩
    · exact ⟨hB', hsync'⟩
  | waited h hd => rw [hB.done] at hd; cases hd
  | received h hf => exact .inl (hB.received hsync h hf)
  | handled h => exact .inl (hB.handled hsync hpty h)
  | accepted h => exact .inl (hB.accepted hsync h)
  | reported h => exact .inl (hB.reported hsync h)
  | rejected h =>
    have hplace := hB.place .reader
    rw [h] at hplace
    cases hplace.2
  | recorded h => exact .inl (hB.recorded hsync h)
  | stdinEof h hs =>
    rw [if_pos (by simp; omega)]
    exact .inl (hB.stdinEof hsync h)
  | @cancelCommand t h =>
    have hplace := hB.place t
    rw [h] at hplace
    cases t <;> exact hplace.elim
  | claimed h => exact .inr (.inl (hB.claimed hsync h))
  | finishRecorded h | connClosed h | signalled h => exact absurd h (hB.not_inside (by decide))
  | delivered => exact absurd rfl (ha _)
  | peerClosed => exact .inl ⟨{ hB with place := hB.place }, hsync⟩
  | cancelled => cases hw

/-! ## 6. The exit stands -/

/-- The targets of moves are settled. -/
theorem Over.move (hO : Over s) (hm : Move maximum s a t pc) : Settled s pc := by
  cases hm with
  | passed h =>
    have hplace := hO.place t
    rw [h] at hplace
    rcases hplace with rfl | rfl | rfl <;> trivial
  | unsentStdin => exact .inr (.inr rfl)
  | restarted | unsentStart | gaveUp | unopened | unreceived | unwritten | onCancel => exact .inl rfl
  | @readNothing after | @stdinDone after => cases after <;> trivial
  | _ => trivial

/-- An exited client answers every frame with an error. -/
theorem handle_exited (hs : s.state = .exited) : ∃ err, s.handle frame = s.finish .reader err .off := by
  unfold State.handle
  split
  · exact ⟨_, rfl⟩
  · rename_i event _
    cases event with
    | startResult => exact ⟨_, if_pos (by rw [hs]; decide)⟩
    | output => exact ⟨_, if_pos (by rw [hs]; decide)⟩
    | exit => exact ⟨_, if_pos (by rw [hs]; decide)⟩

theorem Over.step (hO : Over s) (he : Effect maximum s a s' evs) :
    Over s' ∧ s'.waitErr = s.waitErr := by
  have hstate := hO.state
  cases he with
  | moved hm => exact ⟨hO.jump rfl rfl rfl rfl (hO.move hm), rfl⟩
  | started h hs => rw [hstate] at hs; cases hs
  | stdinEof h hs => rw [hstate] at hs; cases hs
  | accepted h | recorded h =>
    have := hO.place .reader
    rw [h] at this
    exact this.elim
  | claimed h ho => rw [hO.once] at ho; cases ho
  | launched | cancelCommand | received | reported => exact ⟨hO.jump rfl rfl rfl rfl trivial, rfl⟩
  | refused | waited | rejected => exact ⟨hO.jump rfl rfl rfl rfl (.inl rfl), rfl⟩
  | opened =>
    have hO₁ : Over (s.goto .input .reading) := hO.jump rfl rfl rfl rfl trivial
    have hO₂ : Over ((s.goto .input .reading).goto .run .waiting) :=
      hO₁.jump rfl rfl rfl rfl trivial
    split_ifs
    · exact ⟨hO₂.jump rfl rfl rfl rfl trivial, rfl⟩
    · exact ⟨hO₂, rfl⟩
  | @handled frame h =>
    obtain ⟨err, hh⟩ := @handle_exited s frame hstate
    rw [hh]
    exact ⟨hO.jump rfl rfl rfl rfl (.inl rfl), rfl⟩
  | @finishRecorded t err next h =>
    -- whoever records here brings the exit's own result
    have hplace := hO.place t
    rw [h] at hplace
    obtain ⟨rfl, hnext⟩ := hplace
    exact ⟨hO.jump rfl ((if_pos hstate).trans hstate.symm) (ite_self _) rfl hnext, ite_self _⟩
  | @connClosed t err next h =>
    have hplace := hO.place t
    rw [h] at hplace
    split_ifs
    · exact ⟨hO.jump rfl rfl rfl rfl hplace, rfl⟩
    · exact ⟨hO.jump rfl rfl rfl rfl hplace, rfl⟩
  | @signalled t err next h =>
    have hplace := hO.place t
    rw [h] at hplace
    refine ⟨hO.jump rfl rfl rfl rfl ?_, rfl⟩
    rcases hplace with rfl | rfl | rfl <;> trivial
  | delivered | peerClosed | cancelled => exact ⟨⟨hO.once, hstate, hO.place⟩, rfl⟩

/-! ## 7. Every run -/

/-- The client is started once and the peer's close is final. -/
theorem Effect.monotone (he : Effect maximum s a s' evs) :
    (s.state ≠ .idle → s'.state ≠ .idle ∧ s'.hasPTY = s.hasPTY) ∧
      (s.remoteClosed = true → s'.remoteClosed = true) := by
  cases he with
  | started h hs => exact ⟨fun hne => absurd hs hne, id⟩
  | opened => split_ifs <;> exact ⟨fun hne => ⟨hne, rfl⟩, id⟩
  | @handled frame =>
    obtain ⟨pc, hs, -⟩ := handle_looks s frame
    rw [hs]
    exact ⟨fun hne => ⟨hne, rfl⟩, id⟩
  | accepted | recorded => exact ⟨fun _ => ⟨(fun h => nomatch h), rfl⟩, id⟩
  | finishRecorded =>
    refine ⟨fun _ => ⟨fun h => ?_, rfl⟩, id⟩
    simp only [State.goto] at h
    split_ifs at h
  | connClosed => split_ifs <;> exact ⟨fun hne => ⟨hne, rfl⟩, id⟩
  | peerClosed => exact ⟨fun hne => ⟨hne, rfl⟩, fun _ => rfl⟩
  | moved | launched | refused | waited | received | reported | rejected | stdinEof | cancelCommand
  | claimed | signalled | delivered | cancelled => exact ⟨fun hne => ⟨hne, rfl⟩, id⟩

/-- What a step emits, if it is not a delivery: the result of `wait` from a client that is done. -/
theorem Effect.emits (he : Effect maximum s a s' evs) (ha : ∀ frame, a ≠ .deliver frame) :
    queuedFrames evs = [] ∧ ∀ v, .waited v ∈ evs → s.done = true ∧ v = s.waitErr := by
  cases he with
  | waited h hd => exact ⟨rfl, fun v hv => ⟨hd, by simpa using hv⟩⟩
  | delivered => exact absurd rfl (ha _)
  | _ => exact ⟨rfl, fun _ hv => nomatch hv⟩

/-- The client follows, its exit stands and is what `wait` returned, or there is no exit. -/
def Follows (maximum : Nat) (pty : Bool) (p : Phase) (tr : List Event) (s : State) : Prop :=
  Before maximum s ∧ Sync pty p s ∧ (∀ v, .waited v ∉ tr) ∨
    Over s ∧ p = .ended s.waitErr ∧ (∀ v, .waited v ∈ tr → v = s.waitErr) ∨ Lost p s

theorem Follows.deliver {tr : List Event} {p₀ : Phase} (h : Follows maximum pty p₀ tr s)
    (hn : p₀.next pty frame = some p) (he : Effect maximum s (.deliver frame) s' evs) :
    Follows maximum pty p (tr ++ evs) s' := by
  cases he with
  | moved hm => cases hm
  | delivered hr hl =>
    rcases h with ⟨hB, hsync, hno⟩ | ⟨hO, rfl, hw⟩ | ⟨hr', -⟩
    · refine .inl ⟨{ hB with place := hB.place }, ?_, fun v hv => ?_⟩
      · have hunread : ({ s with frames := s.frames ++ [frame] } : State).unread =
            s.unread ++ [frame] := by
          cases hpc : s.pc .reader <;> simp [State.unread, hpc]
        rw [Sync, hunread, Phase.after_append]
        refine Option.bind_eq_some_iff.mpr ⟨p₀, hsync, ?_⟩
        rw [Phase.after_cons, hn]
        rfl
      · exact (List.mem_append.mp hv).elim (hno v) (by simp)
    · refine .inr (.inl ⟨⟨hO.once, hO.state, hO.place⟩, (Option.some.inj hn).symm, fun v hv => ?_⟩)
      exact (List.mem_append.mp hv).elim (hw v) (by simp)
    · rw [hr] at hr'
      cases hr'

theorem Follows.step {tr : List Event} (h : Follows maximum pty p tr s)
    (hpty : s.state ≠ .idle → s.hasPTY = pty) (hmax : 5 ≤ maximum) (hw : Works maximum s a = true)
    (ht : InTime s a = true) (ha : ∀ frame, a ≠ .deliver frame) (he : Effect maximum s a s' evs) :
    Follows maximum pty p (tr ++ evs) s' := by
  obtain ⟨-, hwaited⟩ := he.emits ha
  rcases h with ⟨hB, hsync, hno⟩ | ⟨hO, hp, hres⟩ | ⟨hr, hp⟩
  · have hno' : ∀ v, .waited v ∉ tr ++ evs := fun v hv => by
      rcases List.mem_append.mp hv with hv | hv
      · exact hno v hv
      · have := (hwaited v hv).1
        rw [hB.done] at this
        cases this
    rcases hB.step hsync hpty hmax hw ht ha he with ⟨hB', hsync'⟩ | ⟨hO', hp'⟩ | hL
    · exact .inl ⟨hB', hsync', hno'⟩
    · exact .inr (.inl ⟨hO', hp', fun v hv => absurd hv (hno' v)⟩)
    · exact .inr (.inr hL)
  · obtain ⟨hO', hwait⟩ := hO.step he
    refine .inr (.inl ⟨hO', hwait ▸ hp, fun v hv => ?_⟩)
    rw [hwait]
    exact (List.mem_append.mp hv).elim (hres v) fun hv => (hwaited v hv).2
  · exact .inr (.inr ⟨he.monotone.2 hr, hp⟩)

end Follow

theorem follows_run {maximum : Nat} {tr : List Event} {s : State} (hmax : 5 ≤ maximum)
    (h : (client maximum).Run (fun s a => Works maximum s a = true ∧ InTime s a = true) tr s) :
    ∀ pty p, (s.state ≠ .idle → s.hasPTY = pty) →
      Phase.expecting.after pty (queuedFrames tr) = some p → Follows maximum pty p tr s := by
  refine h.invariant (I := fun tr s => ∀ pty p, (s.state ≠ .idle → s.hasPTY = pty) →
      Phase.expecting.after pty (queuedFrames tr) = some p → Follows maximum pty p tr s) ?_ ?_
  · intro pty p _ hp
    refine .inl ⟨⟨rfl, rfl, rfl, rfl, fun h => absurd rfl h, (fun _ h => nomatch h),
      fun _ => ⟨rfl, rfl⟩, fun t => ?_⟩, hp, fun _ h => nomatch h⟩
    cases t <;> first | exact trivial | exact rfl
  · intro tr evs s s' a _ hI hc hs pty p hpty hp
    have he : Effect maximum s a s' evs := effect_of_step hs
    have hpty' : s.state ≠ .idle → s.hasPTY = pty := fun hne => by
      obtain ⟨hne', heq⟩ := he.monotone.1 hne
      rw [← heq]
      exact hpty hne'
    rw [queuedFrames, List.filterMap_append, ← queuedFrames, Phase.after_append] at hp
    obtain ⟨p₀, hp₀, hrest⟩ := Option.bind_eq_some_iff.mp hp
    have hF := hI pty p₀ hpty' hp₀
    by_cases ha : ∃ frame, a = .deliver frame
    · obtain ⟨frame, rfl⟩ := ha
      refine hF.deliver ?_ he
      cases he with
      | moved hm => cases hm
      | delivered =>
        rw [show List.filterMap Event.frame [.queued frame s.state] = [frame] from rfl,
          Phase.after_cons] at hrest
        obtain ⟨q, hq, hq'⟩ := Option.bind_eq_some_iff.mp hrest
        rw [hq]
        exact hq'
    · have ha' : ∀ frame, a ≠ .deliver frame := fun frame h => ha ⟨frame, h⟩
      rw [← queuedFrames, (he.emits ha').1] at hrest
      cases hrest
      exact hF.step hpty' hmax hc.1 hc.2 ha' he

theorem ended_of_queued {tr : List Event} {pty : Bool} {pre post : List (Option ServerFrame)}
    {e : Command.Exit} (hrec : queuedFrames tr = pre ++ some (.exit e) :: post)
    (hlegal : Phase.expecting.after pty pre = some .running) :
    Phase.expecting.after pty (queuedFrames tr) = some (.ended (terminalResult (decodeExit e))) := by
  rw [hrec, Phase.after_append, hlegal]
  exact Phase.after_ended

/-- **`wait` returns the exit.** In every run in which, until the client is done, nothing is sent once
    the peer has closed the channel and no call is made once the exit is recorded. -/
theorem wait_returns_exit {maximum : Nat} {tr : List Event} {s : State}
    {pre post : List (Option ServerFrame)} {e : Command.Exit} {result : Option ClientError}
    (hmax : 5 ≤ maximum)
    (h : (client maximum).Run (fun s a => Works maximum s a = true ∧ InTime s a = true) tr s)
    (hrec : queuedFrames tr = pre ++ some (.exit e) :: post)
    (hlegal : Phase.expecting.after s.hasPTY pre = some .running) (hw : .waited result ∈ tr) :
    result = terminalResult (decodeExit e) := by
  rcases follows_run hmax h s.hasPTY _ (fun _ => rfl) (ended_of_queued hrec hlegal) with ⟨-, -, hno⟩ | ⟨-, hp, hres⟩ | hL
  · exact absurd hw (hno result)
  · rw [hres result hw]
    exact (Phase.ended.inj hp).symm
  · exact absurd rfl (hL.2 _)

/-- The first steps of a client whose start is accepted. -/
def acceptedStart : List Act :=
  [.start false, .sendStart true, .deliver (some (.startResult true "" "")), .receive true, .handle,
    .accept, .report, .takeStarted, .openInput true false]

/-- A command writes one byte and ends with status 3; the peer closes the channel behind it. -/
theorem wait_returns_exit_status :
    ∃ tr s, (client 64).Run (fun s a => Works 64 s a = true ∧ InTime s a = true) tr s ∧
      queuedFrames tr = [some (.startResult true "" ""), some (.stdout [104])] ++
        some (.exit (.status 3)) :: [] ∧
      .waited (some (.exitStatus 3)) ∈ tr ∧
      some (ClientError.exitStatus 3) = terminalResult (decodeExit (.status 3)) := by
  obtain ⟨tr, s, hrun, hrec, hwaited, hlegal⟩ := Lts.exists_run_of_replay (L := client 64)
    (C := fun s a => Works 64 s a = true ∧ InTime s a = true)
    (P := fun tr s => queuedFrames tr = [some (.startResult true "" ""), some (.stdout [104])] ++
        some (.exit (.status 3)) :: [] ∧ .waited (some (.exitStatus 3)) ∈ tr ∧
        Phase.expecting.after s.hasPTY [some (.startResult true "" ""), some (.stdout [104])] =
          some .running)
    (acceptedStart ++ ([.deliver (some (.stdout [104])), .deliver (some (.exit (.status 3))),
      .peerClose, .receive true, .handle, .write true, .receive true, .handle, .record,
      .finish .reader, .finish .reader, .finish .reader, .finish .reader, .wait] : List Act))
    (by decide +kernel)
  exact ⟨tr, s, hrun, hrec, hwaited, wait_returns_exit (by decide) hrun hrec hlegal hwaited⟩

/-- The exit with status 0 is queued while the client is running, the peer closes the channel, and a
    stdin frame is sent before the receive loop has looked at the exit: `wait` returns its error. -/
theorem exit_lost_to_stdin :
    ∃ tr s, (client 64).Run (fun s a => Works 64 s a = true) tr s ∧
      queuedFrames tr = [some (.startResult true "" "")] ++ some (.exit (.status 0)) :: [] ∧
      .queued (some (.exit (.status 0))) .running ∈ tr ∧
      Phase.expecting.after s.hasPTY [some (.startResult true "" "")] = some .running ∧
      .waited (some (.other "send command stdin")) ∈ tr ∧
      some (.other "send command stdin") ≠ terminalResult (decodeExit (.status 0)) := by
  obtain ⟨tr, s, hrun, hrec, hrunning, hlegal, hwaited⟩ := Lts.exists_run_of_replay
    (L := client 64) (C := fun s a => Works 64 s a = true)
    (P := fun tr s => queuedFrames tr =
        [some (.startResult true "" "")] ++ some (.exit (.status 0)) :: [] ∧
        .queued (some (.exit (.status 0))) .running ∈ tr ∧
        Phase.expecting.after s.hasPTY [some (.startResult true "" "")] = some .running ∧
        .waited (some (.other "send command stdin")) ∈ tr)
    (acceptedStart ++ ([.read [10] .more, .stdin, .deliver (some (.exit (.status 0))), .peerClose,
      .sendStdin false, .finish .input, .finish .input, .finish .input, .finish .input,
      .wait] : List Act))
    (by decide +kernel)
  exact ⟨tr, s, hrun, hrec, hrunning, hlegal, hwaited, by decide⟩

/-! ## 8. `wait` can return -/

/-- The command runs: `Run` waits for the client, the receive loop for a frame, and nobody has entered
    `finish`. -/
structure Serving (s : State) : Prop where
  state : s.state = .running
  sink : ∀ x, s.sink x = true
  once : s.once = false
  reader : s.pc .reader = .receiving
  run : s.pc .run = .waiting

/-- The client can go on in time until `s'`. -/
abbrev GoesOn (maximum : Nat) : State → List Event → State → Prop :=
  (client maximum).Path fun s a => Works maximum s a = true ∧ InTime s a = true

/-- The next frame is taken from the queue. -/
def State.took (s : State) (frame : Option ServerFrame) (rest : List (Option ServerFrame)) : State :=
  { s with frames := rest }.goto .reader (.handling frame)

section Returns

variable {maximum : Nat} {s : State} {frame : Option ServerFrame} {rest : List (Option ServerFrame)}
  {result : Option ClientError}

/-- The receive loop takes the next frame and looks at it. -/
theorem Serving.takes (hS : Serving s) (hf : s.frames = frame :: rest) {s' : State} {tr : List Event}
    (hp : GoesOn maximum ((s.took frame rest).handle frame) tr s') : GoesOn maximum s tr s' := by
  have hreceive : (client maximum).step s (.receive true) = some (s.took frame rest, []) := by
    simp [client, State.step, State.readerStep, State.took, hS.reader, hf]
  have hhandle : (client maximum).step (s.took frame rest) .handle =
      some ((s.took frame rest).handle frame, []) := by
    simp [client, State.step, State.readerStep, State.took]
  exact .head ⟨rfl, rfl⟩ hreceive (.head ⟨rfl, rfl⟩ hhandle hp)

/-- What it makes of a legal frame: output is to be written, and the exit to be recorded. -/
theorem Serving.handles (hS : Serving s) (rest : List (Option ServerFrame)) {q : Phase}
    (hn : Phase.running.next s.hasPTY frame = some q) :
    (q = .running ∧ ∃ x, (s.took frame rest).handle frame =
        (s.took frame rest).goto .reader (.writing x)) ∨
      ∃ result, q = .ended result ∧ (s.took frame rest).handle frame =
        (s.took frame rest).goto .reader (.recording result) := by
  rcases frame with _ | _ | data | data | e
  case some.stdout =>
    cases hn
    refine .inl ⟨rfl, .stdout, ?_⟩
    simp [State.handle, decodeServerEvent, State.handleServerEvent, State.took, State.goto, hS.state,
      hS.sink]
  case some.stderr =>
    simp only [Phase.next] at hn
    split_ifs at hn with hp
    cases hn
    refine .inl ⟨rfl, .stderr, ?_⟩
    simp [State.handle, decodeServerEvent, State.handleServerEvent, State.took, State.goto, hS.state,
      hS.sink, hp]
  case some.exit =>
    cases hn
    refine .inr ⟨_, rfl, ?_⟩
    simp [State.handle, decodeServerEvent, State.handleServerEvent, State.took, State.goto, hS.state]
  all_goals cases hn

/-- `finish` runs to its end, and `wait` returns what was recorded. -/
theorem finish_returns (maximum : Nat) {err : Option ClientError}
    (hr : s.pc .reader = .finish .claim err .receiving) (ho : s.once = false)
    (hw : s.pc .run = .waiting) (he : s.waitErr = err) : ∃ s', GoesOn maximum s [.waited err] s' := by
  let s₁ := { s with once := true }.goto .reader (.finish .record err .receiving)
  have h₁ : (client maximum).step s (.finish .reader) = some (s₁, []) := by
    simp [client, State.step, State.commonStep, State.finishStep, hr, ho, s₁]
  let s₂ := { s₁ with
    waitErr := if s₁.waitErr = none then err else s₁.waitErr
    started := if s₁.state = ClientState.starting && s₁.started = none then some err else s₁.started
    state := if s₁.state = ClientState.exited then .exited else .closed }.goto .reader
      (.finish .closeConn err .receiving)
  have h₂ : (client maximum).step s₁ (.finish .reader) = some (s₂, []) := by
    simp [client, State.step, State.commonStep, State.finishStep, s₁, s₂]
  let s₃ := (if s₂.remoteClosed then s₂ else { s₂ with localClosed := true, frames := [] }).goto .reader
    (.finish .signal err .receiving)
  have h₃ : (client maximum).step s₂ (.finish .reader) = some (s₃, []) := by
    simp [client, State.step, State.commonStep, State.finishStep, s₂, s₃]
  let s₄ := { s₃ with done := true }.goto .reader .receiving
  have h₄ : (client maximum).step s₃ (.finish .reader) = some (s₄, []) := by
    simp [client, State.step, State.commonStep, State.finishStep, s₃, s₄]
  have hwaiting : s₃.pc .run = .waiting ∧ s₃.waitErr = err := by
    have hcond : ∀ s : State, s.pc .run = .waiting ∧ s.waitErr = err →
        (if s.remoteClosed then s else { s with localClosed := true, frames := [] }).pc .run = .waiting ∧
        (if s.remoteClosed then s else { s with localClosed := true, frames := [] }).waitErr = err := by
      intro s h
      split_ifs <;> exact h
    refine hcond s₂ ⟨hw, ?_⟩
    show (if s.waitErr = none then err else s.waitErr) = err
    rw [he, ite_self]
  have h₅ : (client maximum).step s₄ .wait =
      some ({ s₄ with cancelled := true }.finish .run canceled .off, [.waited err]) := by
    have hpc : s₄.pc .run = .waiting := hwaiting.1
    have hres : s₄.waitErr = err := hwaiting.2
    simp [client, State.step, State.runStep, hpc, hres, show s₄.done = true from rfl]
  exact ⟨_, .head ⟨rfl, rfl⟩ h₁ (.head ⟨rfl, rfl⟩ h₂ (.head ⟨rfl, rfl⟩ h₃ (.head ⟨rfl, rfl⟩ h₄
    (.head ⟨rfl, rfl⟩ h₅ .refl))))⟩

/-- With legal output and then the exit in the queue, the client can go on until `wait` returns. -/
theorem Serving.returns (hS : Serving s)
    (h : Phase.running.after s.hasPTY s.frames = some (.ended result)) :
    ∃ s', GoesOn maximum s [.waited result] s' := by
  induction hf : s.frames generalizing s with
  | nil => rw [hf] at h; cases h
  | cons frame rest ih =>
    rw [hf, Phase.after_cons] at h
    obtain ⟨q, hn, hrest⟩ := Option.bind_eq_some_iff.mp h
    rcases hS.handles rest hn with ⟨rfl, x, hhandle⟩ | ⟨result', rfl, hhandle⟩
    · have hwrite : (client maximum).step ((s.took frame rest).goto .reader (.writing x)) (.write true) =
          some (((s.took frame rest).goto .reader (.writing x)).goto .reader .receiving, []) := by
        simp [client, State.step, State.readerStep]
      obtain ⟨s', hp⟩ := ih (s := ((s.took frame rest).goto .reader (.writing x)).goto .reader .receiving)
        ⟨hS.state, hS.sink, hS.once, goto_pc_self, hS.run⟩ hrest rfl
      exact ⟨s', hS.takes hf (hhandle ▸ .head ⟨rfl, rfl⟩ hwrite hp)⟩
    · rw [Phase.after_ended] at hrest
      cases hrest
      have hrecord : (client maximum).step ((s.took frame rest).goto .reader (.recording result)) .record =
          some ({ (s.took frame rest).goto .reader (.recording result) with
            state := .exited, waitErr := result }.finish .reader result .receiving, []) := by
        simp [client, State.step, State.readerStep]
      obtain ⟨s', hp⟩ := finish_returns maximum
        (s := { (s.took frame rest).goto .reader (.recording result) with
          state := .exited, waitErr := result }.finish .reader result .receiving)
        goto_pc_self hS.once hS.run rfl
      exact ⟨s', hS.takes hf (hhandle ▸ .head ⟨rfl, rfl⟩ hrecord hp)⟩

/-- **`wait` can return.** Wherever such a run has the exit among the frames queued, the receive loop
    being about to take the next one and `Run` waiting for the client, it can go on in time until `wait`
    returns the exit. -/
theorem wait_can_return {tr : List Event} {pre post : List (Option ServerFrame)} {e : Command.Exit}
    (hmax : 5 ≤ maximum)
    (h : (client maximum).Run (fun s a => Works maximum s a = true ∧ InTime s a = true) tr s)
    (hrec : queuedFrames tr = pre ++ some (.exit e) :: post)
    (hlegal : Phase.expecting.after s.hasPTY pre = some .running) (hs : s.state = .running)
    (hreader : s.pc .reader = .receiving) (hrun : s.pc .run = .waiting) :
    ∃ s', GoesOn maximum s [.waited (terminalResult (decodeExit e))] s' := by
  rcases follows_run hmax h s.hasPTY _ (fun _ => rfl) (ended_of_queued hrec hlegal) with
    ⟨hB, hsync, -⟩ | ⟨hO, -⟩ | hL
  · have hplain : (s.pc .reader).plain = true := by rw [hreader]; rfl
    rw [Sync, phase_of_plain hplain, unread_of_plain hplain, hs] at hsync
    have hS : Serving s := ⟨hs, hB.sink (by rw [hs]; decide), hB.once, hreader, hrun⟩
    exact hS.returns hsync
  · have hex := hO.state
    rw [hs] at hex
    cases hex
  · exact absurd rfl (hL.2 _)

end Returns

end Mygosh.Client

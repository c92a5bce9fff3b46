/-
  File:      Mygosh/Command/Output.lean
  Subject:   Nothing an output produced is lost behind the process's own exit.

  Three books are kept along every run: how many results of copiers are still owed to the main
  goroutine, what each copier has read, sent and still holds, and where the error of a failed copier
  is. Together they say what is true when the exit is sent.
-/
import Mygosh.Command.Effect

namespace Mygosh.Command

open Function (update update_self update_of_ne)
open Mux (Bytes)

/-! ## 1. Results owed to the main goroutine -/

/-- A copier that has not sent its result yet. -/
def CopyPc.busy : CopyPc → Nat
  | .idle | .finished _ => 0
  | .reading | .sending _ _ => 1

/-- The results the copiers have sent or will send. -/
def State.owed (s : State) : Nat :=
  s.outputs.length + (s.copier .stdout).busy + (s.copier .stderr).busy

/-- The books of the main goroutine: it waits for as many results as are owed, unless it has left the
    drain loop early, and then it has failed. -/
def Accounts (s : State) : Prop :=
  match s.main with
  | .running => s.pendingOutputs = s.owed
  | .draining => s.pendingOutputs = s.owed ∨ s.pendingOutputs = 0 ∧ s.protocolFailure ≠ none
  | .exiting | .returned => s.owed = 0 ∨ s.protocolFailure ≠ none
  | _ => s.outputs = [] ∧ ∀ x, s.copier x = .idle

section Accounts

variable {maximum : Nat} {s s' : State} {a : Act} {evs : List Event} {x : Stream} {pc : CopyPc}

theorem owed_update (h : (s.copier x).busy = pc.busy) :
    ({ s with copier := update s.copier x pc } : State).owed = s.owed := by
  cases x <;> simp [State.owed, h]

theorem owed_finish {result : Option String} (h : (s.copier x).busy = 1) :
    (s.finish x result).owed = s.owed := by
  have hz : (CopyPc.finished result).busy = 0 := rfl
  cases x
  all_goals
    simp only [State.owed, State.finish, List.length_append, List.length_singleton,
      update_self, ne_eq, reduceCtorEq, not_false_eq_true, update_of_ne, hz]
    omega

/-- Before the goroutines are started nothing is owed. -/
theorem owed_eq_zero (h : s.outputs = [] ∧ ∀ x, s.copier x = .idle) : s.owed = 0 := by
  unfold State.owed
  rw [h.1, h.2, h.2]
  rfl

/-- What the books depend on. -/
theorem Accounts.congr (hA : Accounts s) (hm : s'.main = s.main) (hc : s'.copier = s.copier)
    (ho : s'.outputs = s.outputs) (hp : s'.pendingOutputs = s.pendingOutputs)
    (hf : s.protocolFailure ≠ none → s'.protocolFailure ≠ none) : Accounts s' := by
  have howed : s'.owed = s.owed := by
    unfold State.owed
    rw [hc, ho]
  unfold Accounts at hA ⊢
  rw [hm, howed, hp, hc, ho]
  cases hs : s.main <;> simp only [hs] at hA ⊢
  case draining => exact hA.imp id (And.imp_right hf)
  case exiting | returned => exact hA.imp id hf
  all_goals exact hA

/-- A busy copier may move on, or send its result: what is owed stays the same. -/
theorem Accounts.copier (hA : Accounts s) (hb : (s.copier x).busy = 1) (hm : s'.main = s.main)
    (ho : s'.owed = s.owed) (hp : s'.pendingOutputs = s.pendingOutputs)
    (hf : s'.protocolFailure = s.protocolFailure) : Accounts s' := by
  have hidle : s.copier x ≠ .idle := fun h => by
    rw [h] at hb
    cases hb
  unfold Accounts at hA ⊢
  rw [hm, ho, hp, hf]
  cases hs : s.main <;> simp only [hs] at hA ⊢
  case running | draining | exiting | returned => exact hA
  all_goals exact absurd (hA.2 x) hidle

theorem Accounts.step (hA : Accounts s) (he : Effect maximum s a s' evs) : Accounts s' := by
  cases he with
  | unreceived h | unrejected h | rejected h | abandoned h =>
    simp only [Accounts, h] at hA
    exact .inl (owed_eq_zero hA)
  | refused h | requested h | unstarted h | launched h | unaccepted h =>
    simp only [Accounts, h] at hA
    exact hA
  | @accepted readers h =>
    simp only [Accounts, h] at hA
    show (if readers .stderr then 2 else 1) = (s.spawn readers).owed
    unfold State.owed
    cases ho : readers .stdout <;> cases hr : readers .stderr <;>
      simp [State.spawn, CopyPc.busy, ho, hr, hA.1]
  | input =>
    obtain ⟨f, t, hs, hf, -⟩ := inputTaken_eq s _
    rw [hs]
    exact hA.congr rfl rfl rfl rfl hf
  | @output result rest h ho =>
    obtain ⟨f, t, hs, hf, -, -⟩ := taken_eq s result rest
    rw [hs]
    have howed : s.owed = rest.length + 1 + (s.copier .stdout).busy + (s.copier .stderr).busy := by
      unfold State.owed
      rw [ho]
      rfl
    rcases h with h | ⟨h, hp⟩
    · simp only [Accounts, h] at hA ⊢
      simp only [State.owed]
      omega
    · simp only [Accounts, h] at hA ⊢
      rcases hA with hA | ⟨hA, -⟩
      · left
        simp only [State.owed]
        omega
      · exact absurd hA hp
  | exited h =>
    simp only [Accounts, h] at hA
    exact .inl hA
  | conn h =>
    obtain ⟨f, t, hs, hf⟩ := fail_eq s "connection ended"
    rw [hs]
    exact hA.congr rfl rfl rfl rfl fun _ => hf
  | @cut _ err h =>
    obtain ⟨f, t, hs, hf⟩ := cut_eq s err
    rw [hs]
    simp only [Accounts, h]
    exact .inr ⟨trivial, hf⟩
  | drained h hp =>
    simp only [Accounts, h, hp] at hA
    exact hA.imp Eq.symm And.right
  | unsentExit h | sentExit h =>
    simp only [Accounts, h] at hA
    exact hA
  | read h | sent h | more h =>
    exact hA.copier (by rw [h]; rfl) rfl (owed_update (by rw [h]; rfl)) rfl rfl
  | unchunked h | unsent h | eof h | failed h =>
    exact hA.copier (by rw [h]; rfl) rfl (owed_finish (by rw [h]; rfl)) rfl rfl
  | @handled frame ok h =>
    obtain ⟨i, e, r, hs⟩ := handle_eq s ok frame
    rw [hs]
    exact hA.congr rfl rfl rfl rfl id
  | unreceivedInput | receivedInput | waited | endConn | endInput | endOutput | stopReading | died =>
    exact hA.congr rfl rfl rfl rfl id

end Accounts

/-! ## 2. What a copier has read, sent and holds -/

/-- The bytes an event reads from an output. -/
def Event.readOn (x : Stream) : Event → Bytes
  | .read y data _ => if y = x then data else []
  | _ => []

/-- The bytes an event sends for an output. -/
def Event.sentOn (x : Stream) : Event → Bytes
  | .sent (.stdout data) => if x = .stdout then data else []
  | .sent (.stderr data) => if x = .stderr then data else []
  | _ => []

def readBytes (x : Stream) (tr : List Event) : Bytes := tr.flatMap (Event.readOn x)

def sentBytes (x : Stream) (tr : List Event) : Bytes := tr.flatMap (Event.sentOn x)

/-- A read of the output returned `io.EOF`. -/
def ReachedEOF (x : Stream) (tr : List Event) : Prop := ∃ data, Event.read x data .eof ∈ tr

/-- The book of one copier: everything read is sent or still held. -/
def Ledger (reader : Bool) (x : Stream) (tr : List Event) : CopyPc → Prop
  | .idle => readBytes x tr = [] ∧ sentBytes x tr = [] ∧ reader = false
  | .reading => readBytes x tr = sentBytes x tr
  | .sending chunks after => readBytes x tr = sentBytes x tr ++ chunks.flatten ∧
      (after = .eof → reader = true → ReachedEOF x tr)
  | .finished none => readBytes x tr = sentBytes x tr ∧ (reader = true → ReachedEOF x tr)
  | .finished (some _) => True

section Ledger

variable {maximum : Nat} {s s' : State} {a : Act} {tr evs : List Event} {x y : Stream} {pc : CopyPc}
  {reader : Bool}

@[simp] theorem readBytes_append : readBytes x (tr ++ evs) = readBytes x tr ++ readBytes x evs :=
  List.flatMap_append

@[simp] theorem sentBytes_append : sentBytes x (tr ++ evs) = sentBytes x tr ++ sentBytes x evs :=
  List.flatMap_append

theorem ReachedEOF.append (h : ReachedEOF x tr) : ReachedEOF x (tr ++ evs) :=
  h.imp fun _ hd => List.mem_append_left _ hd

/-- Events of others do not touch the book. -/
theorem Ledger.quiet (h : Ledger reader x tr pc) (hr : readBytes x evs = [])
    (hs : sentBytes x evs = []) : Ledger reader x (tr ++ evs) pc := by
  cases pc with
  | idle => simpa only [Ledger, readBytes_append, sentBytes_append, hr, hs, List.append_nil] using h
  | reading => simpa only [Ledger, readBytes_append, sentBytes_append, hr, hs, List.append_nil] using h
  | sending chunks after =>
    simp only [Ledger, readBytes_append, sentBytes_append, hr, hs, List.append_nil] at h ⊢
    exact ⟨h.1, fun ha hx => (h.2 ha hx).append⟩
  | finished result =>
    cases result with
    | none =>
      simp only [Ledger, readBytes_append, sentBytes_append, hr, hs, List.append_nil] at h ⊢
      exact ⟨h.1, fun hx => (h.2 hx).append⟩
    | some e => trivial

/-- The frames of one output do not count for the other. -/
theorem sentBytes_outputFrame {data : Bytes} :
    sentBytes x [.sent (outputFrame y data)] = if y = x then data else [] := by
  cases x <;> cases y <;> simp [sentBytes, Event.sentOn, outputFrame]

theorem readBytes_read {data : Bytes} {after : ReadEnd} :
    readBytes x [.read y data after] = if y = x then data else [] := by
  simp [readBytes, Event.readOn]

/-- Events of others carry no output. -/
theorem bytes_of_ofCopier (h : ∀ e ∈ evs, e.ofCopier = false) :
    readBytes x evs = [] ∧ sentBytes x evs = [] := by
  constructor
  · refine List.flatMap_eq_nil_iff.mpr fun e he => ?_
    have := h e he
    cases e <;> first | rfl | cases this
  · refine List.flatMap_eq_nil_iff.mpr fun e he => ?_
    have := h e he
    cases e with
    | sent frame => cases frame <;> first | rfl | cases this
    | _ => rfl

/-- One step of a copier in its own book. -/
theorem CopyMove.ledger {pc' : CopyPc} (hm : CopyMove maximum x pc evs pc')
    (h : Ledger reader x tr pc) : Ledger reader x (tr ++ evs) pc' := by
  cases hm with
  | @read data after chunks hc =>
    simp only [Ledger, readBytes_append, sentBytes_append, readBytes_read, if_true] at h ⊢
    rw [h, chunkedFrames_flatten hc]
    refine ⟨by rw [show sentBytes x [.read x data after] = [] from rfl, List.append_nil], ?_⟩
    rintro rfl _
    exact ⟨data, List.mem_append_right _ List.mem_cons_self⟩
  | @sent chunk chunks after =>
    simp only [Ledger, readBytes_append, sentBytes_append, sentBytes_outputFrame, if_true] at h ⊢
    refine ⟨?_, fun ha hr => (h.2 ha hr).append⟩
    rw [show readBytes x [.sent (outputFrame x chunk)] = [] from rfl, List.append_nil, h.1,
      List.flatten_cons, List.append_assoc]
  | more =>
    rw [List.append_nil]
    simpa [Ledger] using h.1
  | eof =>
    rw [List.append_nil]
    exact ⟨by simpa using h.1, fun hr => h.2 rfl hr⟩
  | unchunked | unsent | failed => trivial

/-- A step of one copier leaves the other's bytes alone. -/
theorem CopyMove.other {pc' : CopyPc} (hm : CopyMove maximum y pc evs pc') (hne : y ≠ x) :
    readBytes x evs = [] ∧ sentBytes x evs = [] := by
  cases hm with
  | read | unchunked => exact ⟨by rw [readBytes_read, if_neg hne], rfl⟩
  | sent => exact ⟨rfl, by rw [sentBytes_outputFrame, if_neg hne]⟩
  | unsent | more | eof | failed => exact ⟨rfl, rfl⟩

/-- The books of both copiers. -/
def Ledgers (tr : List Event) (s : State) : Prop := ∀ x, Ledger (s.readers x) x tr (s.copier x)

/-- The copiers start with nothing read. -/
theorem Ledgers.spawn {readers : Stream → Bool} (hL : Ledgers tr s) (hidle : ∀ x, s.copier x = .idle) :
    Ledgers tr (s.spawn readers) := by
  have hnone : ∀ x, readBytes x tr = [] ∧ sentBytes x tr = [] := fun x => by
    have := hL x
    rw [hidle x] at this
    exact ⟨this.1, this.2.1⟩
  intro x
  cases x with
  | stdout =>
    simp only [State.spawn]
    split_ifs with hr
    · simp only [Ledger, hnone]
    · simp only [Ledger, hnone, List.flatten_nil, List.append_nil]
      exact ⟨trivial, fun _ h => absurd h hr⟩
  | stderr =>
    simp only [State.spawn]
    split_ifs with hr
    · simp only [Ledger, hnone]
    · simp only [Ledger, hnone, true_and]
      exact Bool.eq_false_iff.mpr hr

theorem Ledgers.step (hL : Ledgers tr s) (hA : Accounts s) (he : Effect maximum s a s' evs) :
    Ledgers (tr ++ evs) s' := by
  cases he.copyView with
  | quiet hc hr hev =>
    intro x
    rw [hc, hr]
    exact (hL x).quiet (bytes_of_ofCopier hev).1 (bytes_of_ofCopier hev).2
  | spawned h hs hev =>
    simp only [Accounts, h] at hA
    subst hs hev
    exact fun x => (hL.spawn hA.2 x).quiet rfl rfl
  | @moved y pc hc hr hm =>
    intro x
    rw [hc, hr]
    by_cases hx : y = x
    · subst hx
      rw [update_self]
      exact hm.ledger (hL y)
    · rw [update_of_ne (Ne.symm hx)]
      exact (hL x).quiet (hm.other hx).1 (hm.other hx).2

end Ledger

/-! ## 3. Errors of copiers and the result of the process -/

/-- The error of a failed copier is still to be taken, or it has been seen; the outputs are only
    cancelled after a failure or the end of the connection. -/
structure Errors (s : State) : Prop where
  ended : s.outputDone = true → s.connDone = true ∨ s.protocolFailure ≠ none ∨ s.main = .returned
  kept : ∀ x e, s.copier x = .finished (some e) →
    (∃ e', some e' ∈ s.outputs) ∨ s.connDone = true ∨ s.protocolFailure ≠ none

/-- The result the main goroutine has or will get is the one the process ended with. -/
structure Waited (s : State) : Prop where
  absent : s.main = .receiving ∨ (∃ request, s.main = .starting request) → s.process = .absent
  channel : ∀ r, s.exitResult = some r → s.process = .exited r
  taken : s.main = .draining ∨ s.main = .exiting → s.process = .exited s.processResult

section Errors

variable {maximum : Nat} {s s' : State} {a : Act} {evs : List Event}

/-- What `Errors` depends on, for steps that touch no copier. -/
theorem Errors.congr (hE : Errors s) (hc : s'.copier = s.copier) (ho : s'.outputs = s.outputs)
    (hconn : s.connDone = true → s'.connDone = true)
    (hf : s.protocolFailure ≠ none → s'.protocolFailure ≠ none)
    (hd : s'.outputDone = true → s.outputDone = true ∧ (s.main = .returned → s'.main = .returned) ∨
      s'.connDone = true ∨ s'.protocolFailure ≠ none ∨ s'.main = .returned) : Errors s' where
  ended h := by
    rcases hd h with ⟨h, hm⟩ | h
    · exact (hE.ended h).imp hconn (Or.imp hf hm)
    · exact h
  kept x e h := by
    rw [ho]
    exact (hE.kept x e (hc ▸ h)).imp id (Or.imp hconn hf)

/-- A copier's result joins the others. -/
theorem Errors.finish {x : Stream} {result : Option String} (hE : Errors s) :
    Errors (s.finish x result) where
  ended := hE.ended
  kept y e h := by
    by_cases hy : y = x
    · subst hy
      simp only [State.finish, update_self, CopyPc.finished.injEq] at h
      exact .inl ⟨e, List.mem_append_right _ (h ▸ List.mem_cons_self)⟩
    · simp only [State.finish, update_of_ne hy] at h
      refine (hE.kept y e h).imp (fun ⟨e', he'⟩ => ⟨e', List.mem_append_left _ he'⟩) id

/-- A copier that goes on has no result. -/
theorem Errors.update {x : Stream} {pc : CopyPc} (hE : Errors s) (hpc : ∀ r, pc ≠ .finished r) :
    Errors { s with copier := update s.copier x pc } where
  ended := hE.ended
  kept y e h := by
    by_cases hy : y = x
    · subst hy
      simp only [update_self] at h
      exact absurd h (hpc _)
    · simp only [update_of_ne hy] at h
      exact hE.kept y e h

theorem Errors.step (hE : Errors s) (he : Effect maximum s a s' evs) : Errors s' := by
  cases he with
  | unchunked | unsent | eof | failed => exact hE.finish
  | read | sent | more => exact hE.update fun _ h => nomatch h
  | @accepted readers h =>
    refine ⟨fun hd => ?_, fun x e h => ?_⟩
    · rcases hE.ended hd with hd | hd | hd
      · exact .inl hd
      · exact .inr (.inl hd)
      · rw [h] at hd
        cases hd
    · cases x
      all_goals
        simp only [State.spawn] at h
        split_ifs at h
  | input =>
    obtain ⟨f, t, hs, hf, -⟩ := inputTaken_eq s _
    rw [hs]
    exact hE.congr rfl rfl id hf fun h => .inl ⟨h, id⟩
  | @output result rest h ho =>
    obtain ⟨f, t, hs, hf, -, herr⟩ := taken_eq s result rest
    rw [hs]
    refine ⟨fun hd => (hE.ended hd).imp id (Or.imp hf id), fun x e hx => ?_⟩
    -- a taken error has been seen: the run has failed, or the outputs were cancelled before
    cases result with
    | none =>
      refine (hE.kept x e hx).imp (fun ⟨e', he'⟩ => ⟨e', ?_⟩) (Or.imp id hf)
      rw [ho] at he'
      exact (List.mem_cons.mp he').resolve_left fun h => nomatch h
    | some err =>
      rcases herr (Option.some_ne_none _) with hd | hf'
      · rcases hE.ended hd with hd | hd | hd
        · exact .inr (.inl hd)
        · exact .inr (.inr (hf hd))
        · rcases h with h | ⟨h, -⟩ <;> rw [h] at hd <;> cases hd
      · exact .inr (.inr hf')
  | conn h =>
    obtain ⟨f, t, hs, hf⟩ := fail_eq s "connection ended"
    rw [hs]
    exact hE.congr rfl rfl id (fun _ => hf) fun h => .inl ⟨h, id⟩
  | @cut _ err h =>
    obtain ⟨f, t, hs, hf⟩ := cut_eq s err
    rw [hs]
    exact hE.congr rfl rfl id (fun _ => hf) fun _ => .inr (.inr (.inl hf))
  | unsentExit | sentExit => exact hE.congr rfl rfl id id fun _ => .inr (.inr (.inr rfl))
  | @handled frame ok =>
    obtain ⟨i, e, r, hs⟩ := handle_eq s ok frame
    rw [hs]
    exact hE.congr rfl rfl id id fun h => .inl ⟨h, id⟩
  | endConn => exact hE.congr rfl rfl (fun _ => rfl) id fun _ => .inr (.inl rfl)
  | endOutput hc => exact hE.congr rfl rfl id id fun _ => .inr (.inl hc)
  | unreceived h | unrejected h | rejected h | abandoned h =>
    exact hE.congr rfl rfl id id fun _ => .inr (.inr (.inr rfl))
  | refused h | requested h | unstarted h | launched h | unaccepted h | exited h | drained h =>
    refine hE.congr rfl rfl id id fun hd => .inl ⟨hd, fun hm => ?_⟩
    rw [h] at hm
    cases hm
  | unreceivedInput | receivedInput | waited | endInput | stopReading | died =>
    exact hE.congr rfl rfl id id fun h => .inl ⟨h, id⟩

/-- What `Waited` depends on. -/
theorem Waited.congr (hW : Waited s) (hp : s'.process = s.process)
    (hx : s'.exitResult = s.exitResult) (hr : s'.processResult = s.processResult)
    (ha : s'.main = .receiving ∨ (∃ request, s'.main = .starting request) →
      s.main = .receiving ∨ ∃ request, s.main = .starting request)
    (hm : s'.main = .draining ∨ s'.main = .exiting → s.main = .draining ∨ s.main = .exiting) :
    Waited s' where
  absent h := hp ▸ hW.absent (ha h)
  channel r h := hp ▸ hW.channel r (hx ▸ h)
  taken h := by
    rw [hp, hr]
    exact hW.taken (hm h)

theorem Waited.step (hW : Waited s) (he : Effect maximum s a s' evs) : Waited s' := by
  cases he with
  | launched h =>
    have habs := hW.absent (.inr ⟨_, h⟩)
    refine ⟨fun h => by simp at h, fun r hr => ?_, fun h => by simp at h⟩
    have := hW.channel r hr
    rw [habs] at this
    cases this
  | exited h hx => exact ⟨fun h => by simp at h, (fun r h => nomatch h), fun _ => hW.channel _ hx⟩
  | waited hw h => exact ⟨hW.absent, fun r hr => Option.some.inj hr ▸ h, hW.taken⟩
  | died h =>
    refine ⟨fun hm => ?_, fun r hr => ?_, fun hm => ?_⟩
    · have := hW.absent hm
      rw [h] at this
      cases this
    · have := hW.channel r hr
      rw [h] at this
      cases this
    · have := hW.taken hm
      rw [h] at this
      cases this
  | input =>
    obtain ⟨f, t, hs, -⟩ := inputTaken_eq s _
    rw [hs]
    exact hW.congr rfl rfl rfl id id
  | @output result rest =>
    obtain ⟨f, t, hs, -⟩ := taken_eq s result rest
    rw [hs]
    exact hW.congr rfl rfl rfl id id
  | conn =>
    obtain ⟨f, t, hs, -⟩ := fail_eq s "connection ended"
    rw [hs]
    exact hW.congr rfl rfl rfl id id
  | @cut _ err =>
    obtain ⟨f, t, hs, -⟩ := cut_eq s err
    rw [hs]
    exact hW.congr rfl rfl rfl id id
  | @handled frame ok =>
    obtain ⟨i, e, r, hs⟩ := handle_eq s ok frame
    rw [hs]
    exact hW.congr rfl rfl rfl id id
  | requested h => exact hW.congr rfl rfl rfl (fun _ => .inl h) fun hm => by simp at hm
  | drained h => exact hW.congr rfl rfl rfl (fun hm => by simp at hm) fun _ => .inl h
  | unreceived | refused | unstarted | unrejected | rejected | unaccepted | accepted | abandoned
  | unsentExit | sentExit =>
    exact hW.congr rfl rfl rfl (fun hm => by simp [State.spawn, State.leave] at hm)
      fun hm => by simp [State.spawn, State.leave] at hm
  | read | unchunked | sent | unsent | more | eof | failed | unreceivedInput | receivedInput
  | endConn | endInput | endOutput | stopReading => exact hW.congr rfl rfl rfl id id

end Errors

/-! ## 4. Complete output -/

/-- The books along every run, whatever the connection and the process do. -/
theorem books_run {maximum : Nat} {C : State → Act → Prop} {tr : List Event} {s : State}
    (h : (serve maximum).Run C tr s) :
    Accounts s ∧ Ledgers tr s ∧ Errors s ∧ Waited s := by
  refine h.invariant (I := fun tr s => Accounts s ∧ Ledgers tr s ∧ Errors s ∧ Waited s) ?_ ?_
  · refine ⟨⟨rfl, fun _ => rfl⟩, fun x => ⟨rfl, rfl, rfl⟩,
      ⟨(fun h => nomatch h), fun x e h => nomatch h⟩,
      ⟨fun _ => rfl, (fun r h => nomatch h), fun h => ?_⟩⟩
    rcases h with h | h <;> cases h
  · intro tr evs s s' a _ ⟨hA, hL, hE, hW⟩ _ hs
    have he := effect_of_step hs
    exact ⟨hA.step he, hL.step hA he, hE.step he, hW.step he⟩

/-- The action is a successful `SendFrame`. -/
def Act.sends : Act → Bool
  | .result ok | .exit ok | .send _ ok => ok
  | _ => false

/-- The connection's `SendFrame` fails once the connection's context has ended. -/
def FailsWhenDone (s : State) (a : Act) : Prop := a.sends = true → s.connDone = false

instance (s : State) (a : Act) : Decidable (FailsWhenDone s a) :=
  inferInstanceAs (Decidable (_ → _))

/-- An exit is sent at one place. -/
theorem Effect.exit_eq {maximum : Nat} {s s' : State} {evs : List Event}
    (he : Effect maximum s (.exit true) s' evs) :
    s.main = .exiting ∧ evs = [.sent (.exit (exitMessage s.reported))] := by
  cases he with
  | sentExit hm => exact ⟨hm, rfl⟩
  | cut _ _ ha => rcases ha with ha | ⟨ha, -⟩ <;> cases ha

/-- **Output is complete.** When an exit is sent, it carries the result the process ended with and
    everything that was read from its outputs up to their ends has been sent before it, or it carries
    the generic runtime failure. -/
theorem output_complete {maximum : Nat} {tr : List Event} {s s' : State} {result : Exit}
    (h : (serve maximum).Run FailsWhenDone tr s) (hc : FailsWhenDone s (.exit true))
    (hs : (serve maximum).step s (.exit true) = some (s', [.sent (.exit result)])) :
    ∃ r, s.process = .exited r ∧
      (result = exitMessage r ∧ (∀ x, sentBytes x tr = readBytes x tr ∧
          (s.readers x = true → ReachedEOF x tr)) ∨
        result = .runtimeFailure genericRuntimeMessage) := by
  obtain ⟨hA, hL, hE, hW⟩ := books_run h
  have he : Effect maximum s (.exit true) s' [.sent (.exit result)] := effect_of_step hs
  obtain ⟨hm, hev⟩ := he.exit_eq
  cases hev
  refine ⟨s.processResult, hW.taken (.inr hm), ?_⟩
  cases hf : s.protocolFailure with
  | some err =>
    right
    simp only [State.reported, hf]
    rfl
  | none =>
    left
    refine ⟨by simp only [State.reported, hf], fun x => ?_⟩
    -- nothing is owed, so every copier is idle or finished, and none of them with an error
    have howed : s.owed = 0 := by
      simp only [Accounts, hm] at hA
      exact hA.resolve_right fun hne => hne hf
    have houts : s.outputs = [] := by
      unfold State.owed at howed
      exact List.length_eq_zero_iff.mp (by omega)
    have hbusy : (s.copier x).busy = 0 := by
      unfold State.owed at howed
      cases x <;> omega
    have hbook := hL x
    cases hx : s.copier x with
    | idle =>
      rw [hx] at hbook
      exact ⟨by rw [hbook.1, hbook.2.1], fun hr => by rw [hbook.2.2] at hr; cases hr⟩
    | reading | sending => rw [hx] at hbusy; cases hbusy
    | finished r =>
      cases r with
      | none =>
        rw [hx] at hbook
        exact ⟨hbook.1.symm, hbook.2⟩
      | some e =>
        rcases hE.kept x e hx with ⟨e', he'⟩ | hd | hne
        · rw [houts] at he'
          cases he'
        · rw [hc rfl] at hd
          cases hd
        · exact absurd hf hne

/-- A process that writes two bytes and ends: its exit is sent after them. -/
theorem output_complete_two_bytes :
    ∃ tr s s', (serve 64).Run FailsWhenDone tr s ∧
      (serve 64).step s (.exit true) = some (s', [.sent (.exit (.status 0))]) ∧
      readBytes .stdout tr = [104, 105] ∧
      ∃ r, s.process = .exited r ∧
        (.status 0 = exitMessage r ∧ (∀ x, sentBytes x tr = readBytes x tr ∧
            (s.readers x = true → ReachedEOF x tr)) ∨
          Exit.status 0 = .runtimeFailure genericRuntimeMessage) := by
  obtain ⟨tr, s, s', hrun, hs, hread, hup⟩ := Lts.exists_step_of_replay (L := serve 64)
    (C := FailsWhenDone) (P := fun tr s => readBytes .stdout tr = [104, 105] ∧ s.connDone = false)
    (launch ++ ([.read .stdout [104, 105] .eof, .send .stdout true, .report .stdout,
      .read .stderr [] .eof, .report .stderr, .die ⟨0, "", ""⟩, .wait, .takeExit, .takeOutput,
      .takeOutput, .drained] : List Act)) (.exit true) [.sent (.exit (.status 0))] (by decide +kernel)
  exact ⟨tr, s, s', hrun, hs, hread, output_complete hrun (fun _ => hup) hs⟩

end Mygosh.Command

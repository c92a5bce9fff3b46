/-
  File:      Mygosh/Process/Completion.lean
  Subject:   The end of a process is reported once, with the result of its one `cmd.Wait`.

  Every way to `close(done)` leads through `<-processWaitDone`, and that is closed when the result has
  been stored. `WaiterOk` follows `wait`, `LoopOk` the goroutines that run `terminate`.
-/
import Mygosh.Process.Runner

namespace Mygosh.Runner

open Command (ExitResult)

/-! ## 1. The trace -/

/-- What `cmd.Wait` returned, in order. -/
def reaps (tr : List Event) : List (Option WaitErr) :=
  tr.filterMap fun
    | .reaped err => some err
    | _ => none

theorem reaps_append {tr evs : List Event} : reaps (tr ++ evs) = reaps tr ++ reaps evs :=
  List.filterMap_append

/-- The one `cmd.Wait` returned and its result was stored. -/
def Settled (tr : List Event) (result : ExitResult) : Prop :=
  ∃ err, reaps tr = [err] ∧ result = exitResult err ∧ .stored result ∈ tr

/-- What comes before `close(done)`: the one `cmd.Wait` and its result. -/
def ClosedAfter (pre : List Event) (e : Event) : Prop :=
  e = .closedDone → ∃ result, Settled pre result

/-- Neither the waiter's events nor an end. -/
def Event.quiet : Event → Bool
  | .signal _ => true
  | .completed => true
  | _ => false

section Quiet

variable {tr evs : List Event} {result : ExitResult}

theorem reaps_quiet (h : ∀ e ∈ evs, e.quiet = true) : reaps evs = [] := by
  refine List.filterMap_eq_nil_iff.mpr fun e he => ?_
  cases e with
  | reaped err => exact nomatch h _ he
  | _ => rfl

theorem Settled.append (h : Settled tr result) (hevs : reaps evs = []) : Settled (tr ++ evs) result := by
  obtain ⟨err, hreaps, hresult, hstored⟩ := h
  exact ⟨err, by rw [reaps_append, hreaps, hevs]; rfl, hresult, List.mem_append_left _ hstored⟩

end Quiet

/-! ## 2. The invariant -/

/-- What the program counter of `wait` says about the trace and the record. -/
def WaiterOk (tr : List Event) (p : RunningProcess) : WaiterPc → Prop
  | .cmdWait => reaps tr = [] ∧ p.processWaitDone = false
  | .store result => (∃ err, reaps tr = [err] ∧ result = exitResult err) ∧ p.processWaitDone = false
  | .announce => Settled tr p.result ∧ p.processWaitDone = false
  | _ => Settled tr p.result ∧ p.processWaitDone = true

/-- `terminate` has waited for the result before it completes. -/
def LoopOk (p : RunningProcess) (l : LoopPc) : Prop :=
  l = .complete ∨ l = .closeDone → p.processWaitDone = true

structure Inv (tr : List Event) (s : State) : Prop where
  process : s.proc.process ≠ none
  waiter : WaiterOk tr s.proc s.waiter
  loop : LoopOk s.proc s.loop
  waiterLoop : ∀ l, s.waiter = .looping l → LoopOk s.proc l
  done : s.proc.done = true → s.proc.processWaitDone = true
  once : s.proc.doneOnce = s.proc.done
  closes : tr.count .closedDone = if s.proc.done then 1 else 0
  reading : ∀ n, s.waits n = .read → s.proc.done = true
  returned : ∀ n r, .returned n r ∈ tr → s.proc.done = true ∧ r = s.proc.result
  explained : Lts.Explained ClosedAfter tr

theorem Inv.start (pid : Nat) : Inv [] (State.start pid) where
  process h := nomatch h
  waiter := ⟨rfl, rfl⟩
  loop h := nomatch h
  waiterLoop _ h := nomatch h
  done h := nomatch h
  once := rfl
  closes := rfl
  reading _ h := nomatch h
  returned _ _ h := nomatch h
  explained := .nil

section Steps

variable {tr evs : List Event} {s s' : State}

/-- Once the result is announced it is the one that was reaped. -/
theorem WaiterOk.settled {p : RunningProcess} {w : WaiterPc} (h : WaiterOk tr p w)
    (hw : p.processWaitDone = true) : Settled tr p.result := by
  cases w with
  | cmdWait => exact nomatch h.2.symm.trans hw
  | store r => exact nomatch h.2.symm.trans hw
  | announce => exact nomatch h.2.symm.trans hw
  | check => exact h.1
  | looping l => exact h.1
  | ended => exact h.1

/-! ## 3. Steps that leave the result alone -/

/-- The fields the invariant reads, but for `done`. -/
structure SameResult (p p' : RunningProcess) : Prop where
  process : p'.process = p.process
  processWaitDone : p'.processWaitDone = p.processWaitDone
  result : p'.result = p.result

theorem WaiterOk.keep {p p' : RunningProcess} {w : WaiterPc} (h : WaiterOk tr p w)
    (hp : SameResult p p') (hevs : reaps evs = []) : WaiterOk (tr ++ evs) p' w := by
  have hreaps : reaps (tr ++ evs) = reaps tr := by rw [reaps_append, hevs, List.append_nil]
  cases w with
  | cmdWait => exact ⟨hreaps.trans h.1, hp.processWaitDone.trans h.2⟩
  | store r =>
    refine ⟨?_, hp.processWaitDone.trans h.2⟩
    rw [hreaps]
    exact h.1
  | announce => exact ⟨hp.result ▸ h.1.append hevs, hp.processWaitDone.trans h.2⟩
  | check => exact ⟨hp.result ▸ h.1.append hevs, hp.processWaitDone.trans h.2⟩
  | looping l => exact ⟨hp.result ▸ h.1.append hevs, hp.processWaitDone.trans h.2⟩
  | ended => exact ⟨hp.result ▸ h.1.append hevs, hp.processWaitDone.trans h.2⟩

theorem LoopOk.keep {p p' : RunningProcess} {l : LoopPc} (h : LoopOk p l) (hp : SameResult p p') :
    LoopOk p' l := fun hl => hp.processWaitDone.trans (h hl)

/-- A step that does not touch `done` and shows nothing that counts. -/
theorem Inv.frame (h : Inv tr s) (hp : SameResult s.proc s'.proc) (hdone : s'.proc.done = s.proc.done)
    (honce : s'.proc.doneOnce = s.proc.doneOnce) (hevs : ∀ e ∈ evs, e.quiet = true)
    (hwaiter : WaiterOk tr s.proc s'.waiter) (hloop : LoopOk s.proc s'.loop)
    (hwaiterLoop : ∀ l, s'.waiter = .looping l → LoopOk s.proc l)
    (hreading : ∀ n, s'.waits n = .read → s.proc.done = true) : Inv (tr ++ evs) s' where
  process := hp.process ▸ h.process
  waiter := hwaiter.keep hp (reaps_quiet hevs)
  loop := hloop.keep hp
  waiterLoop l hl := (hwaiterLoop l hl).keep hp
  done hd := hp.processWaitDone.trans (h.done (hdone.symm.trans hd))
  once := by rw [honce, hdone, h.once]
  closes := by
    have hzero : evs.count .closedDone = 0 :=
      List.count_eq_zero.mpr fun hmem => nomatch hevs _ hmem
    rw [List.count_append, hzero, Nat.add_zero, hdone, h.closes]
  reading n hn := hdone.trans (hreading n hn)
  returned n r hmem := by
    rcases List.mem_append.mp hmem with hmem | hmem
    · rw [hdone, hp.result]
      exact h.returned n r hmem
    · exact nomatch hevs _ hmem
  explained := by
    refine h.explained.append fun pre e post heq => ?_
    rintro rfl
    have hmem : Event.closedDone ∈ evs := by
      rw [heq]
      exact List.mem_append_right _ List.mem_cons_self
    exact nomatch hevs _ hmem

/-- `close(done)`, with everything announced. -/
theorem Inv.closeDone (h : Inv tr s) (hw : s.proc.processWaitDone = true)
    (honce : s.proc.doneOnce = false)
    (hproc : s'.proc = { s.proc with doneOnce := true, done := true })
    (hwaiter : WaiterOk tr s.proc s'.waiter) : Inv (tr ++ [.closedDone]) s' := by
  have hsame : SameResult s.proc s'.proc := by rw [hproc]; exact ⟨rfl, rfl, rfl⟩
  have hdone : s'.proc.done = true := by rw [hproc]
  have hw' : s'.proc.processWaitDone = true := hsame.processWaitDone.trans hw
  have hbefore : s.proc.done = false := h.once.symm.trans honce
  exact {
    process := hsame.process ▸ h.process
    waiter := hwaiter.keep hsame rfl
    loop := fun _ => hw'
    waiterLoop := fun _ _ _ => hw'
    done := fun _ => hw'
    once := by rw [hproc]
    closes := by
      rw [List.count_append, h.closes, hbefore, hdone]
      rfl
    reading := fun _ _ => hdone
    returned := fun n r hmem => by
      refine ⟨hdone, ?_⟩
      rw [hsame.result]
      rcases List.mem_append.mp hmem with hmem | hmem
      · exact (h.returned n r hmem).2
      · exact nomatch List.mem_singleton.mp hmem
    explained := h.explained.concat fun _ => ⟨_, h.waiter.settled hw⟩ }

/-! ## 4. Every step -/

/-- A section of `terminate` leaves the result alone, or it is the one that closes `done`. -/
theorem LoopEffect.outcome {p p' : RunningProcess} {l l' : LoopPc} (h : LoopEffect p l p' l' evs)
    (hproc : p.process ≠ none) (hok : LoopOk p l) :
    (SameResult p p' ∧ p'.done = p.done ∧ p'.doneOnce = p.doneOnce ∧
      (∀ e ∈ evs, e.quiet = true) ∧ LoopOk p l') ∨
    (p.processWaitDone = true ∧ p.doneOnce = false ∧
      p' = { p with doneOnce := true, done := true } ∧ evs = [.closedDone]) := by
  cases h with
  | noProcess hnone => exact absurd hnone hproc
  | reaped hw => exact .inl ⟨⟨rfl, rfl, rfl⟩, rfl, rfl, by simp, fun _ => hw⟩
  | complete => exact .inl ⟨⟨rfl, rfl, rfl⟩, rfl, rfl, by simp [Event.quiet], fun _ => hok (.inl rfl)⟩
  | closeDone honce => exact .inr ⟨hok (.inr rfl), honce, rfl, rfl⟩
  | _ =>
    refine .inl ⟨⟨rfl, rfl, rfl⟩, rfl, rfl, by simp [Event.quiet], fun hl => ?_⟩
    rcases hl with hl | hl <;> cases hl

/-- A section of `Terminate` touches neither the result nor `done`. -/
theorem CallEffect.outcome {p p' : RunningProcess} {l l' : LoopPc} {c c' : CallPc}
    (h : CallEffect p l c p' l' c') (hok : LoopOk p l) :
    SameResult p p' ∧ p'.done = p.done ∧ p'.doneOnce = p.doneOnce ∧ LoopOk p l' := by
  cases h with
  | spawn =>
    refine ⟨⟨rfl, rfl, rfl⟩, rfl, rfl, fun hl => ?_⟩
    rcases hl with hl | hl <;> cases hl
  | _ => exact ⟨⟨rfl, rfl, rfl⟩, rfl, rfl, hok⟩

/-- `wait` goes on before the result is announced: nobody has completed, closed or returned. -/
theorem Inv.advance {p' : RunningProcess} {w' : WaiterPc} (h : Inv tr s)
    (hw : s.proc.processWaitDone = false) (hprocess : p'.process = s.proc.process)
    (hdone : p'.done = s.proc.done) (honce : p'.doneOnce = s.proc.doneOnce)
    (hwaiter : WaiterOk (tr ++ evs) p' w') (hw' : ∀ l, w' ≠ .looping l)
    (hcloses : Event.closedDone ∉ evs) (hreturns : ∀ n r, Event.returned n r ∉ evs) :
    Inv (tr ++ evs) { s with proc := p', waiter := w' } := by
  have hnot : s.proc.done = false :=
    Bool.eq_false_iff.mpr fun hd => nomatch hw.symm.trans (h.done hd)
  exact {
    process := hprocess ▸ h.process
    waiter := hwaiter
    loop := fun hl => nomatch hw.symm.trans (h.loop hl)
    waiterLoop := fun l hl => absurd hl (hw' l)
    done := fun hd => nomatch hnot.symm.trans (hdone.symm.trans hd)
    once := by rw [honce, hdone, h.once]
    closes := by rw [List.count_append, List.count_eq_zero.mpr hcloses, Nat.add_zero, h.closes, hdone]
    reading := fun n hn => hdone.trans (h.reading n hn)
    returned := fun n r hmem => by
      rcases List.mem_append.mp hmem with hmem | hmem
      · exact nomatch hnot.symm.trans (h.returned n r hmem).1
      · exact absurd hmem (hreturns n r)
    explained := h.explained.append fun pre e post heq => by
      rintro rfl
      exact absurd (heq ▸ List.mem_append_right _ List.mem_cons_self) hcloses }

/-- The sections of `wait`. -/
theorem Inv.waiterStep {p' : RunningProcess} {w' : WaiterPc} (h : Inv tr s)
    (he : WaiterEffect s.proc s.waiter p' w' evs) :
    Inv (tr ++ evs) { s with proc := p', waiter := w' } := by
  have hok := h.waiter
  generalize hpc : s.waiter = w at he hok
  cases he with
  | reaped err =>
    refine h.advance hok.2 rfl rfl rfl ⟨⟨err, ?_, rfl⟩, hok.2⟩ (fun _ h => nomatch h) (by simp)
      (by simp)
    rw [reaps_append, hok.1]
    rfl
  | stored r =>
    obtain ⟨⟨err, hreaps, rfl⟩, hw⟩ := hok
    refine h.advance hw rfl rfl rfl ⟨⟨err, ?_, rfl, by simp⟩, hw⟩ (fun _ h => nomatch h) (by simp)
      (by simp)
    rw [reaps_append, hreaps]
    rfl
  | announced =>
    refine h.advance hok.2 rfl rfl rfl ⟨?_, rfl⟩ (fun _ h => nomatch h) (by simp) (by simp)
    rw [List.append_nil]
    exact hok.1
  | taken ht =>
    exact h.frame ⟨rfl, rfl, rfl⟩ rfl rfl (fun _ h => nomatch h) hok h.loop (fun _ h => nomatch h)
      h.reading
  | terminates ht =>
    refine h.frame ⟨rfl, rfl, rfl⟩ rfl rfl (fun _ h => nomatch h) hok h.loop (fun l hl => ?_)
      h.reading
    cases hl
    rintro (hl | hl) <;> cases hl
  | loop hl =>
    rcases hl.outcome h.process (h.waiterLoop _ hpc) with ⟨hp, hdone, honce, hquiet, hloop⟩ |
      ⟨hw, honce, rfl, rfl⟩
    · refine h.frame hp hdone honce hquiet hok h.loop (fun l hl => ?_) h.reading
      cases hl
      exact hloop
    · exact h.closeDone hw honce rfl hok

/-- A call of `Wait` that does not come to its last section. -/
theorem reading_update {waits : Nat → WaitPc} {P : Prop} (h : ∀ n, waits n = .read → P) (n : Nat)
    {w : WaitPc} (hw : w ≠ .read) : ∀ k, Function.update waits n w k = .read → P := by
  intro k hk
  by_cases hkn : k = n
  · subst hkn
    rw [Function.update_self] at hk
    exact absurd hk hw
  · rw [Function.update_of_ne hkn] at hk
    exact h k hk

/-- `Wait` returns what is stored. -/
theorem Inv.read {n : Nat} (h : Inv tr s) (hn : s.waits n = .read) :
    Inv (tr ++ [.returned n s.proc.result])
      { s with waits := Function.update s.waits n .returned } where
  process := h.process
  waiter := h.waiter.keep ⟨rfl, rfl, rfl⟩ rfl
  loop := h.loop
  waiterLoop := h.waiterLoop
  done := h.done
  once := h.once
  closes := by
    rw [List.count_append, h.closes]
    rfl
  reading := reading_update h.reading n (by decide)
  returned k r hmem := by
    rcases List.mem_append.mp hmem with hmem | hmem
    · exact h.returned k r hmem
    · obtain ⟨rfl, rfl⟩ := Event.returned.inj (List.mem_singleton.mp hmem)
      exact ⟨h.reading _ hn, rfl⟩
  explained := h.explained.concat fun he => nomatch he

theorem Inv.step (h : Inv tr s) (he : StepEffect s s' evs) : Inv (tr ++ evs) s' := by
  have hsame : SameResult s.proc s.proc := ⟨rfl, rfl, rfl⟩
  have hsilent : ∀ e ∈ ([] : List Event), e.quiet = true := fun _ h => nomatch h
  cases he with
  | cancel => exact h.frame hsame rfl rfl hsilent h.waiter h.loop h.waiterLoop h.reading
  | terminate n hn => exact h.frame hsame rfl rfl hsilent h.waiter h.loop h.waiterLoop h.reading
  | watch hs hw => exact h.frame hsame rfl rfl hsilent h.waiter h.loop h.waiterLoop h.reading
  | wait n hn =>
    exact h.frame hsame rfl rfl hsilent h.waiter h.loop h.waiterLoop
      (reading_update h.reading n (by decide))
  | await n hn hdone =>
    exact h.frame hsame rfl rfl hsilent h.waiter h.loop h.waiterLoop fun _ _ => hdone
  | call n hc =>
    obtain ⟨hp, hdone, honce, hl⟩ := hc.outcome h.loop
    exact h.frame hp hdone honce hsilent h.waiter hl h.waiterLoop h.reading
  | watcherCall hw hc =>
    obtain ⟨hp, hdone, honce, hl⟩ := hc.outcome h.loop
    exact h.frame hp hdone honce hsilent h.waiter hl h.waiterLoop h.reading
  | loop hl =>
    rcases hl.outcome h.process h.loop with ⟨hp, hdone, honce, hquiet, hok⟩ | ⟨hw, honce, rfl, rfl⟩
    · exact h.frame hp hdone honce hquiet h.waiter hok h.waiterLoop h.reading
    · exact h.closeDone hw honce rfl h.waiter
  | read n hn => exact h.read hn
  | waiter hw => exact h.waiterStep hw

end Steps

/-! ## 5. Every run -/

section Runs

variable {pid : Nat} {tr : List Event} {s : State}

theorem inv_of_run (h : (runner pid).Run (fun _ _ => True) tr s) : Inv tr s :=
  h.invariant (Inv.start pid) fun _ hinv _ hs => hinv.step (step_effect hs)

end Runs

end Mygosh.Runner

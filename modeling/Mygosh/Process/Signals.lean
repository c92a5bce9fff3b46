/-
  File:      Mygosh/Process/Signals.lean
  Subject:   Is a process group signalled after the process has been marked completed?

  `wait` and `Terminate` each start a loop of `terminate`. `wait` leaves it to `Terminate` once that has
  set `terminating`, but `Terminate` looks at `completed` only: it may start a second loop while the
  first one is on its way to `complete`, and that loop begins with a SIGTERM. `State.overlaps` is that
  case; where it does not occur there is one loop, and nothing comes after its end.
-/
import Mygosh.Process.Completion

namespace Mygosh.Runner

open Function (update update_self update_of_ne)

/-! ## 1. Who may start a loop -/

/-- The calls of `Terminate`: that of the watcher (`none`) and those of others. -/
def State.caller (s : State) : Option Nat → CallPc
  | none =>
    match s.watcher with
    | .calling c => c
    | _ => .idle
  | some n => s.calls n

/-- The call that an action moves. -/
def Act.caller : Act → Option (Option Nat)
  | .call n => some (some n)
  | .watcher .go => some none
  | _ => none

/-- `wait` runs `terminate` itself. -/
def WaiterPc.loops : WaiterPc → Bool
  | .looping _ => true
  | _ => false

/-- A call of `Terminate` finds the process not completed while `wait` runs its own loop. -/
def State.overlaps (s : State) (a : Act) : Bool :=
  a.caller.any fun k => decide (s.caller k = .lock) && !s.proc.completed && s.waiter.loops

/-- Inside `terminateOnce.Do`. -/
def CallPc.inside : CallPc → Bool
  | .lock | .spawn | .leave => true
  | _ => false

/-- `terminate` has marked the process completed. -/
def LoopPc.over : LoopPc → Bool
  | .closeDone | .ended => true
  | _ => false

/-- Nothing is sent to the group once the process is marked completed. -/
def NotAfter (pre : List Event) (e : Event) : Prop :=
  ∀ sig, e = .signal sig → .completed ∉ pre

/-! ## 2. One loop -/

/-- At most one loop runs or is about to be started. -/
structure Exclusive (p : RunningProcess) (w : WaiterPc) (l : LoopPc) (caller : Option Nat → CallPc) :
    Prop where
  running : ∀ k, (caller k).inside = true → p.terminateOnce = .running
  unique : ∀ k k', (caller k).inside = true → (caller k').inside = true → k = k'
  fresh : p.terminateOnce = .fresh → l = .idle
  before : ∀ k, caller k = .lock ∨ caller k = .spawn → l = .idle
  marked : (l ≠ .idle ∨ ∃ k, caller k = .spawn) → p.terminating = true
  waiter : w.loops = true → p.terminating = true ∧ l = .idle ∧ ∀ k, caller k ≠ .spawn

/-- The loop that has completed the process is over. -/
structure Quiet (tr : List Event) (s : State) : Prop where
  exclusive : Exclusive s.proc s.waiter s.loop s.caller
  completed : .completed ∈ tr → s.proc.completed = true ∧
    (s.loop.over = true ∨ ∃ l, s.waiter = .looping l ∧ l.over = true)
  explained : Lts.Explained NotAfter tr

section Callers

variable {s s' : State} {evs : List Event}

theorem caller_calls (s : State) (p : RunningProcess) (l : LoopPc) (n : Nat) (c : CallPc) :
    ({ s with proc := p, loop := l, calls := update s.calls n c } : State).caller =
      update s.caller (some n) c := by
  funext k
  cases k with
  | none => simp [State.caller]
  | some m =>
    by_cases h : m = n
    · subst h
      simp [State.caller]
    · simp [State.caller, h]

theorem caller_calling (s : State) (p : RunningProcess) (l : LoopPc) (c : CallPc) :
    ({ s with proc := p, loop := l, watcher := .calling c } : State).caller =
      update s.caller none c := by
  funext k
  cases k with
  | none => simp [State.caller]
  | some m => simp [State.caller]

/-- Only its own action moves a call out of the lock. -/
theorem caller_of_step {a : Act} {k : Option Nat} (h : s.step a = some (s', evs))
    (hlock : s.caller k = .lock) (hk : s'.caller k ≠ .lock) : a.caller = some k := by
  cases a with
  | cancel =>
    cases h
    exact absurd hlock hk
  | terminate n =>
    simp only [State.step] at h
    split_ifs at h with hidle
    cases h
    rw [caller_calls s s.proc s.loop] at hk
    by_cases hn : k = some n
    · subst hn
      cases hidle.symm.trans hlock
    · rw [update_of_ne hn] at hk
      exact absurd hlock hk
  | wait n =>
    simp only [State.step] at h
    split_ifs at h
    cases h
    exact absurd hlock hk
  | waiter c | loop c =>
    obtain ⟨x, -, heq⟩ := Option.map_eq_some_iff.mp h
    cases heq
    exact absurd hlock hk
  | waiting n =>
    simp only [State.step] at h
    split at h
    · split_ifs at h
      cases h
      exact absurd hlock hk
    · cases h
      exact absurd hlock hk
    · cases h
  | call n =>
    obtain ⟨x, -, heq⟩ := Option.map_eq_some_iff.mp h
    cases heq
    rw [caller_calls] at hk
    by_cases hn : k = some n
    · rw [hn]
      rfl
    · rw [update_of_ne hn] at hk
      exact absurd hlock hk
  | watcher c =>
    cases k with
    | none =>
      have hcalling : s.watcher = .calling .lock := by
        simp only [State.caller] at hlock
        split at hlock
        · rename_i hw
          rw [hw, hlock]
        · cases hlock
      simp only [State.step, hcalling] at h
      cases c <;> first | rfl | cases h
    | some n =>
      refine absurd ?_ hk
      rw [← hlock]
      simp only [State.step] at h
      split at h
      · split_ifs at h
        cases h
        rfl
      · split_ifs at h
        cases h
        rfl
      · obtain ⟨x, -, heq⟩ := Option.map_eq_some_iff.mp h
        cases heq
        rfl
      · cases h

end Callers

section Exclusive

variable {p p' : RunningProcess} {w w' : WaiterPc} {l l' : LoopPc} {caller : Option Nat → CallPc}
  {k : Option Nat} {c' : CallPc} {evs : List Event}

/-- The counters that matter, and the two flags, stay. -/
theorem Exclusive.frame (h : Exclusive p w l caller) (honce : p'.terminateOnce = p.terminateOnce)
    (hterm : p'.terminating = p.terminating) (hw : w'.loops = w.loops) (hl : l' = .idle ↔ l = .idle) :
    Exclusive p' w' l' caller where
  running k hk := honce.trans (h.running k hk)
  unique := h.unique
  fresh hf := hl.mpr (h.fresh (honce.symm.trans hf))
  before k hk := hl.mpr (h.before k hk)
  marked hm := by
    rw [hterm]
    exact h.marked (hm.imp_left (mt hl.mpr))
  waiter hl' := by
    obtain ⟨hmark, hidle, hspawn⟩ := h.waiter (hw.symm.trans hl')
    exact ⟨hterm.trans hmark, hl.mpr hidle, hspawn⟩

/-- A call moves outside `terminateOnce.Do`. -/
theorem Exclusive.outside (h : Exclusive p w l caller) (hc : c'.inside = false) :
    Exclusive p w l (update caller k c') := by
  -- what is inside afterwards was there before
  have hsame : ∀ j, (update caller k c' j).inside = true →
      update caller k c' j = caller j := by
    intro j hj
    by_cases hjk : j = k
    · subst hjk
      rw [update_self, hc] at hj
      cases hj
    · rw [update_of_ne hjk]
  have hspawn : ∀ j, update caller k c' j = .spawn → caller j = .spawn := fun j hj =>
    (hsame j (by rw [hj]; rfl)).symm.trans hj
  refine ⟨fun j hj => h.running j (hsame j hj ▸ hj),
    fun j j' hj hj' => h.unique j j' (hsame j hj ▸ hj) (hsame j' hj' ▸ hj'), h.fresh,
    fun j hj => ?_, fun hm => h.marked (hm.imp_right fun ⟨j, hj⟩ => ⟨j, hspawn j hj⟩),
    fun hl => ?_⟩
  · have hin : (update caller k c' j).inside = true := by
      rcases hj with hj | hj <;> rw [hj] <;> rfl
    rw [hsame j hin] at hj
    exact h.before j hj
  · obtain ⟨hmark, hidle, hnone⟩ := h.waiter hl
    exact ⟨hmark, hidle, fun j hj => hnone j (hspawn j hj)⟩

/-- The call `k` moves inside, where it is alone. -/
theorem Exclusive.alone (hothers : ∀ j, j ≠ k → (caller j).inside = false)
    (hrun : c'.inside = true → p'.terminateOnce = .running) (hfresh : p'.terminateOnce ≠ .fresh)
    (hbefore : c' = .lock ∨ c' = .spawn → l' = .idle)
    (hmarked : l' ≠ .idle ∨ c' = .spawn → p'.terminating = true)
    (hwaiter : w.loops = true → p'.terminating = true ∧ l' = .idle ∧ c' ≠ .spawn) :
    Exclusive p' w l' (update caller k c') := by
  have hin : ∀ j, (update caller k c' j).inside = true → j = k := by
    intro j hj
    by_contra hjk
    rw [update_of_ne hjk, hothers j hjk] at hj
    cases hj
  have hat : ∀ {x : CallPc}, x.inside = true → ∀ j, update caller k c' j = x → c' = x := by
    intro x hx j hj
    obtain rfl := hin j (hj ▸ hx)
    rwa [update_self] at hj
  refine ⟨fun j hj => ?_, fun j j' hj hj' => (hin j hj).trans (hin j' hj').symm,
    fun hf => absurd hf hfresh, fun j hj => ?_, fun hm => ?_, fun hl => ?_⟩
  · obtain rfl := hin j hj
    rw [update_self] at hj
    exact hrun hj
  · exact hbefore (hj.imp (hat rfl j) (hat rfl j))
  · exact hmarked (hm.imp_right fun ⟨j, hj⟩ => hat rfl j hj)
  · obtain ⟨hmark, hidle, hne⟩ := hwaiter hl
    exact ⟨hmark, hidle, fun j hj => hne (hat rfl j hj)⟩

/-- **A section of `Terminate`**, unless it overlaps. -/
theorem Exclusive.call {c : CallPc} (h : Exclusive p w l caller) (hk : caller k = c)
    (he : CallEffect p l c p' l' c')
    (hlock : c = .lock → p.completed = false → w.loops = false) :
    Exclusive p' w l' (update caller k c') := by
  have hothers : c.inside = true → ∀ j, j ≠ k → (caller j).inside = false := by
    intro hc j hj
    by_contra hin
    exact hj (h.unique j k (Bool.eq_true_of_not_eq_false hin) (hk ▸ hc))
  have hrun : c.inside = true → p.terminateOnce = .running := fun hc => h.running k (hk ▸ hc)
  cases he with
  | first hfresh =>
    refine .alone (fun j _ => ?_) (fun _ => rfl) (fun hf => nomatch hf)
      (fun _ => h.fresh hfresh) (fun hm => ?_) fun hl => ?_
    · by_contra hin
      exact nomatch hfresh.symm.trans (h.running j (Bool.eq_true_of_not_eq_false hin))
    · exact absurd (h.fresh hfresh) (hm.resolve_right fun hc => nomatch hc)
    · obtain ⟨hmark, hidle, -⟩ := h.waiter hl
      exact ⟨hmark, hidle, fun hc => nomatch hc⟩
  | later => exact h.outside rfl
  | tooLate hdone =>
    have hidle := h.before k (.inl hk)
    refine .alone (hothers rfl) (fun _ => hrun rfl) (fun hf => nomatch (hrun rfl).symm.trans hf)
      (fun _ => hidle) (fun hm => ?_) fun hl => ?_
    · exact absurd hidle (hm.resolve_right fun hc => nomatch hc)
    · exact ⟨(h.waiter hl).1, hidle, fun hc => nomatch hc⟩
  | mark hdone =>
    have hidle := h.before k (.inl hk)
    refine .alone (hothers rfl) (fun _ => hrun rfl) (fun hf => nomatch (hrun rfl).symm.trans hf)
      (fun _ => hidle) (fun _ => rfl) fun hl => ?_
    exact nomatch (hlock rfl hdone).symm.trans hl
  | spawn =>
    refine .alone (hothers rfl) (fun _ => hrun rfl) (fun hf => nomatch (hrun rfl).symm.trans hf)
      (fun hc => ?_) (fun _ => h.marked (.inr ⟨k, hk⟩)) fun hl => ?_
    · rcases hc with hc | hc <;> cases hc
    · exact absurd hk ((h.waiter hl).2.2 k)
  | leave =>
    refine .alone (hothers rfl) (fun hc => nomatch hc) (fun hf => nomatch hf)
      (fun hc => ?_) (fun hm => ?_) fun hl => ?_
    · rcases hc with hc | hc <;> cases hc
    · exact h.marked (.inl (hm.resolve_right fun hc => nomatch hc))
    · obtain ⟨hmark, hidle, -⟩ := h.waiter hl
      exact ⟨hmark, hidle, fun hc => nomatch hc⟩

/-- `wait` starts its own loop: nobody has marked the process before. -/
theorem Exclusive.terminates (h : Exclusive p w l caller) (hterm : p.terminating = false) :
    Exclusive { p with terminating := true } (.looping .closeStdin) l caller := by
  have hnot : ¬(l ≠ .idle ∨ ∃ k, caller k = .spawn) := fun hm => nomatch hterm.symm.trans (h.marked hm)
  have hidle : l = .idle := by
    by_contra hl
    exact hnot (.inl hl)
  exact ⟨h.running, h.unique, h.fresh, h.before, fun _ => rfl,
    fun _ => ⟨rfl, hidle, fun k hk => hnot (.inr ⟨k, hk⟩)⟩⟩

end Exclusive

/-! ## 3. What a loop shows -/

section Loops

variable {p p' : RunningProcess} {l l' : LoopPc} {tr evs : List Event}

/-- A section of `terminate` leaves the flags of `Terminate` alone. -/
theorem LoopEffect.flags (h : LoopEffect p l p' l' evs) : p'.terminateOnce = p.terminateOnce ∧
    p'.terminating = p.terminating ∧ l ≠ .idle ∧ l' ≠ .idle := by
  cases h <;> exact ⟨rfl, rfl, nofun, nofun⟩

/-- It shows one event at most, `completed` when the loop is over with it, and no signal after. -/
theorem LoopEffect.shows (h : LoopEffect p l p' l' evs) :
    evs.length ≤ 1 ∧ (.completed ∈ evs → p'.completed = true ∧ l'.over = true) ∧
    (l.over = true → l'.over = true ∧ p'.completed = p.completed ∧ ∀ sig, .signal sig ∉ evs) := by
  cases h <;> simp [LoopPc.over]

theorem CallEffect.completed {c c' : CallPc} (h : CallEffect p l c p' l' c') :
    p'.completed = p.completed := by
  cases h <;> rfl

theorem explained_silent (h : Lts.Explained NotAfter tr) (hevs : ∀ sig, .signal sig ∉ evs) :
    Lts.Explained NotAfter (tr ++ evs) := by
  refine h.append fun pre e post heq sig hsig => ?_
  have hmem : e ∈ evs := by
    rw [heq]
    exact List.mem_append_right _ List.mem_cons_self
  exact absurd (hsig ▸ hmem) (hevs sig)

/-- **A loop that is the only one** to have completed the process. -/
theorem LoopEffect.step (h : LoopEffect p l p' l' evs) (htr : Lts.Explained NotAfter tr)
    (hl : .completed ∈ tr → p.completed = true ∧ l.over = true) :
    (.completed ∈ tr ++ evs → p'.completed = true ∧ l'.over = true) ∧
      Lts.Explained NotAfter (tr ++ evs) := by
  obtain ⟨hlen, hcompleted, hover⟩ := h.shows
  by_cases hmem : Event.completed ∈ tr
  · obtain ⟨hdone, hl⟩ := hl hmem
    obtain ⟨hl', hp, hsilent⟩ := hover hl
    exact ⟨fun _ => ⟨hp.trans hdone, hl'⟩, explained_silent htr hsilent⟩
  · refine ⟨fun h => hcompleted ((List.mem_append.mp h).resolve_left hmem), ?_⟩
    match evs, hlen with
    | [], _ => rwa [List.append_nil]
    | [e], _ => exact htr.concat fun _ _ => hmem

end Loops

/-! ## 4. Every step -/

section Steps

variable {tr evs : List Event} {s s' : State}

theorem Quiet.start (pid : Nat) : Quiet [] (State.start pid) where
  exclusive := by
    have hidle : ∀ k, (State.start pid).caller k = .idle := fun k => by cases k <;> rfl
    have hout : ∀ k, ((State.start pid).caller k).inside = false := fun k => by rw [hidle]; rfl
    exact {
      running := fun k hk => nomatch (hout k).symm.trans hk
      unique := fun k _ hk => nomatch (hout k).symm.trans hk
      fresh := fun _ => rfl
      before := fun _ _ => rfl
      marked := fun hm => by
        rcases hm with hm | ⟨k, hk⟩
        · exact absurd rfl hm
        · exact nomatch (hidle k).symm.trans hk
      waiter := nofun }
  completed := nofun
  explained := .nil

/-- A step that shows neither a signal nor the completion, and ends no loop. -/
theorem Quiet.frame (h : Quiet tr s) (hex : Exclusive s'.proc s'.waiter s'.loop s'.caller)
    (hdone : s'.proc.completed = s.proc.completed)
    (hloop : .completed ∈ tr → s'.loop = s.loop)
    (hwaiter : ∀ l, s.waiter = .looping l → s'.waiter = s.waiter)
    (hsilent : ∀ sig, .signal sig ∉ evs) (hnot : .completed ∉ evs) : Quiet (tr ++ evs) s' where
  exclusive := hex
  completed hmem := by
    have hmem := (List.mem_append.mp hmem).resolve_right hnot
    obtain ⟨hc, hover⟩ := h.completed hmem
    refine ⟨hdone.trans hc, ?_⟩
    rcases hover with hl | ⟨l, hw, hl⟩
    · exact .inl (by rw [hloop hmem, hl])
    · exact .inr ⟨l, (hwaiter l hw).trans hw, hl⟩
  explained := explained_silent h.explained hsilent

/-- The loop that `Terminate` started. -/
theorem Quiet.loopStep {p' : RunningProcess} {l' : LoopPc} (h : Quiet tr s)
    (he : LoopEffect s.proc s.loop p' l' evs) : Quiet (tr ++ evs) { s with proc := p', loop := l' } := by
  obtain ⟨honce, hterm, hl, hl'⟩ := he.flags
  have hover : .completed ∈ tr → s.proc.completed = true ∧ s.loop.over = true := by
    intro hmem
    obtain ⟨hc, hover | ⟨l, hw, -⟩⟩ := h.completed hmem
    · exact ⟨hc, hover⟩
    · exact absurd (h.exclusive.waiter (by rw [hw]; rfl)).2.1 hl
  obtain ⟨hcompleted, hexpl⟩ := he.step h.explained hover
  exact ⟨h.exclusive.frame honce hterm rfl (iff_of_false hl' hl),
    fun hmem => (hcompleted hmem).imp_right .inl, hexpl⟩

/-- The sections of `wait`. -/
theorem Quiet.waiterStep {p' : RunningProcess} {w' : WaiterPc} (h : Quiet tr s)
    (he : WaiterEffect s.proc s.waiter p' w' evs) :
    Quiet (tr ++ evs) { s with proc := p', waiter := w' } := by
  have hex := h.exclusive
  generalize hpc : s.waiter = w at he hex
  -- before its loop `wait` shows nothing that counts
  have hbefore : w.loops = false → Exclusive p' w' s.loop s.caller →
      p'.completed = s.proc.completed → (∀ sig, .signal sig ∉ evs) → .completed ∉ evs →
      Quiet (tr ++ evs) { s with proc := p', waiter := w' } := by
    intro hw hex' hdone hsilent hnot
    refine h.frame hex' hdone (fun _ => rfl) (fun l hl => ?_) hsilent hnot
    rw [← hpc, hl] at hw
    cases hw
  cases he with
  | reaped | stored | announced | taken =>
    exact hbefore rfl (hex.frame rfl rfl rfl .rfl) rfl (by simp) (by simp)
  | terminates ht => exact hbefore rfl (hex.terminates ht) rfl (by simp) (by simp)
  | @loop _ l l' _ hl =>
    obtain ⟨honce, hterm, -, -⟩ := hl.flags
    have hover : .completed ∈ tr → s.proc.completed = true ∧ l.over = true := by
      intro hmem
      obtain ⟨hc, hover | ⟨m, hw, hm⟩⟩ := h.completed hmem
      · rw [(hex.waiter rfl).2.1] at hover
        cases hover
      · obtain rfl := WaiterPc.looping.inj (hpc.symm.trans hw)
        exact ⟨hc, hm⟩
    obtain ⟨hcompleted, hexpl⟩ := hl.step h.explained hover
    exact ⟨hex.frame honce hterm rfl .rfl,
      fun hmem => (hcompleted hmem).imp_right fun hl' => .inr ⟨l', rfl, hl'⟩, hexpl⟩

/-- The sections of `Terminate`, in whichever goroutine. -/
theorem Quiet.callStep {k : Option Nat} {c c' : CallPc} (h : Quiet tr s) (hk : s.caller k = c)
    (he : CallEffect s.proc s.loop c s'.proc s'.loop c')
    (hcaller : s'.caller = update s.caller k c') (hwaiter : s'.waiter = s.waiter)
    (hlock : s.caller k = .lock → s'.caller k ≠ .lock → s.proc.completed = false →
      s.waiter.loops = false) : Quiet (tr ++ []) s' := by
  generalize hp : s'.proc = p', hl : s'.loop = l' at he
  have hmoves : c = .lock → c' ≠ .lock := by
    rintro rfl
    cases he <;> nofun
  have hex : Exclusive s'.proc s'.waiter s'.loop s'.caller := by
    rw [hp, hl, hwaiter, hcaller]
    refine h.exclusive.call hk he fun hc => hlock (hk.trans hc) ?_
    rw [hcaller, update_self]
    exact hmoves hc
  refine h.frame hex (by rw [hp, he.completed]) (fun hmem => ?_) (fun _ _ => hwaiter) (by simp) (by simp)
  rw [hl]
  -- a loop is started only where none has been
  cases he with
  | spawn =>
    obtain ⟨-, hover | ⟨m, hw, -⟩⟩ := h.completed hmem
    · rw [h.exclusive.before k (.inr hk)] at hover
      cases hover
    · exact absurd hk ((h.exclusive.waiter (by rw [hw]; rfl)).2.2 k)
  | _ => rfl

theorem Quiet.step {a : Act} (h : Quiet tr s) (hc : s.overlaps a = false)
    (hs : s.step a = some (s', evs)) : Quiet (tr ++ evs) s' := by
  have hlock : ∀ k, s.caller k = .lock → s'.caller k ≠ .lock → s.proc.completed = false →
      s.waiter.loops = false := by
    intro k hk hk' hdone
    simpa [State.overlaps, caller_of_step hs hk hk', hk, hdone] using hc
  cases step_effect hs with
  | cancel | wait | await | read =>
    exact h.frame h.exclusive rfl (fun _ => rfl) (fun _ _ => rfl) (by simp) (by simp)
  | loop hl => exact h.loopStep hl
  | waiter hw => exact h.waiterStep hw
  | terminate n hn =>
    refine h.frame ?_ rfl (fun _ => rfl) (fun _ _ => rfl) (by simp) (by simp)
    rw [caller_calls s s.proc s.loop]
    exact h.exclusive.outside rfl
  | watch hselect hw =>
    refine h.frame ?_ rfl (fun _ => rfl) (fun _ _ => rfl) (by simp) (by simp)
    rcases hw with rfl | rfl
    · rw [caller_calling s s.proc s.loop]
      exact h.exclusive.outside rfl
    · have hsame : State.caller { s with watcher := .ended } = s.caller := by
        funext k
        cases k with
        | none => simp only [State.caller, hselect]
        | some n => rfl
      rw [hsame]
      exact h.exclusive
  | call n hcall => exact h.callStep (k := some n) rfl hcall (caller_calls s _ _ n _) rfl (hlock _)
  | @watcherCall _ _ c _ hw hcall =>
    have hk : s.caller none = c := by simp only [State.caller, hw]
    exact h.callStep hk hcall (caller_calling s _ _ _) rfl (hlock _)

end Steps

/-! ## 5. After an overlap -/

/-- The loop of `wait` is on its way, or has marked the process completed. -/
def Looping (s : State) : Prop :=
  ∀ m, s.waiter = .looping m → m ≠ .idle ∧ (m.over = true → s.proc.completed = true)

/-- The next section of a call. -/
def Act.ofCaller : Option Nat → Act
  | none => .watcher .go
  | some n => .call n

/-- The process is marked completed in the end, with the calls where they are. -/
def Completes (pid : Nat) (s : State) : Prop :=
  ∃ tr s', (runner pid).Path (fun _ _ => True) s tr s' ∧ .completed ∈ tr ∧
    s'.caller = s.caller ∧ s'.proc.process = s.proc.process

section Overlap

variable {pid : Nat} {s s' : State} {tr evs : List Event}

theorem Looping.of_proc (h : Looping s) (hw : s'.waiter = s.waiter)
    (hp : s.proc.completed = true → s'.proc.completed = true) : Looping s' := by
  intro m hm
  obtain ⟨hne, hover⟩ := h m (hw.symm.trans hm)
  exact ⟨hne, fun hm => hp (hover hm)⟩

theorem LoopEffect.completed {p p' : RunningProcess} {l l' : LoopPc} (h : LoopEffect p l p' l' evs)
    (hc : p.completed = true) : p'.completed = true := by
  cases h <;> first | exact hc | rfl

theorem Looping.step (h : Looping s) (he : StepEffect s s' evs) : Looping s' := by
  cases he with
  | loop hl => exact h.of_proc rfl hl.completed
  | call n hc => exact h.of_proc rfl hc.completed.trans
  | watcherCall hw hc => exact h.of_proc rfl hc.completed.trans
  | @waiter p' w' _ hw =>
    intro m hm
    obtain rfl : w' = .looping m := hm
    generalize hpc : s.waiter = w at hw
    cases hw with
    | terminates ht => exact ⟨nofun, nofun⟩
    | @loop _ l _ _ hl =>
      obtain ⟨-, -, -, hne⟩ := hl.flags
      refine ⟨hne, fun hm => ?_⟩
      cases hl with
      | complete => rfl
      | closeDone hd => exact (h _ hpc).2 rfl
      | closedBefore hd => exact (h _ hpc).2 rfl
      | _ => cases hm
  | _ => exact h.of_proc rfl id

theorem looping_of_run (h : (runner pid).Run (fun _ _ => True) tr s) : Looping s := by
  have hstart : Looping (State.start pid) := fun _ h => nomatch h
  exact h.invariant (I := fun _ s => Looping s) hstart fun _ hl _ hs => hl.step (step_effect hs)

/-- A section of a call, whoever makes it. -/
theorem step_ofCaller {k : Option Nat} {c c' : CallPc} {p' : RunningProcess} {l' : LoopPc}
    (hk : s.caller k = c) (hc : c ≠ .idle) (h : callSection s.proc s.loop c = some (p', l', c')) :
    ∃ s', s.step (.ofCaller k) = some (s', []) ∧ s'.proc = p' ∧ s'.loop = l' ∧ s'.caller k = c' ∧
      s'.waiter = s.waiter := by
  cases k with
  | none =>
    have hw : s.watcher = .calling c := by
      simp only [State.caller] at hk
      split at hk
      · rename_i hw
        rw [hw, hk]
      · exact absurd hk.symm hc
    exact ⟨{ s with proc := p', loop := l', watcher := .calling c' },
      by simp [Act.ofCaller, State.step, hw, h], rfl, rfl, rfl, rfl⟩
  | some n =>
    have hn : s.calls n = c := hk
    refine ⟨{ s with proc := p', loop := l', calls := update s.calls n c' },
      by simp [Act.ofCaller, State.step, hn, h], rfl, rfl, ?_, rfl⟩
    simp [State.caller]

theorem Completes.of_step {m m' : LoopPc} {c : Choice} {p' : RunningProcess}
    (hw : s.waiter = .looping m) (h : loopSection s.proc m c = some (p', m', evs))
    (hp : p'.process = s.proc.process)
    (hnext : Completes pid { s with proc := p', waiter := .looping m' }) : Completes pid s := by
  have hs : (runner pid).step s (.waiter c) =
      some ({ s with proc := p', waiter := .looping m' }, evs) := by
    simp [runner, State.step, hw, waiterSection, h]
  obtain ⟨tr, s', hpath, hmem, hcaller, hprocess⟩ := hnext
  exact ⟨evs ++ tr, s', .head trivial hs hpath, List.mem_append_right _ hmem, hcaller,
    hprocess.trans hp⟩

/-- The loop of `wait` comes to its end when the group is gone. -/
theorem completes_of_looping {m : LoopPc} (hw : s.waiter = .looping m) (hm : m ≠ .idle)
    (hover : m.over = false) (hproc : s.proc.process ≠ none) (hdone : s.proc.processWaitDone = true) :
    Completes pid s := by
  -- backwards from the last section
  have hcomplete : ∀ s : State, s.waiter = .looping .complete → Completes pid s := by
    intro s hw
    have hs : (runner pid).step s (.waiter .go) =
        some ({ s with proc := { s.proc with completed := true }, waiter := .looping .closeDone },
          [.completed]) := by
      simp [runner, State.step, hw, waiterSection, loopSection]
    exact ⟨_, _, .head trivial hs .refl, by simp, rfl, rfl⟩
  have hawait : ∀ s : State, s.waiter = .looping .awaitWait → s.proc.processWaitDone = true →
      Completes pid s := by
    intro s hw hd
    have hs : loopSection s.proc .awaitWait .go = some (s.proc, .complete, []) := if_pos hd
    exact .of_step hw hs rfl (hcomplete _ rfl)
  have hpoll : ∀ s : State, s.waiter = .looping .poll → s.proc.processWaitDone = true →
      Completes pid s := fun s hw hd =>
    .of_step (c := .gone) hw rfl rfl (hawait _ rfl hd)
  have hterm : ∀ s : State, s.waiter = .looping .sigterm → s.proc.processWaitDone = true →
      Completes pid s := fun s hw hd =>
    .of_step (c := .go) hw rfl rfl (hpoll _ rfl hd)
  have hcheck : ∀ s : State, s.waiter = .looping .checkProcess → s.proc.process ≠ none →
      s.proc.processWaitDone = true → Completes pid s := by
    intro s hw hproc hd
    obtain ⟨q, hq⟩ := Option.ne_none_iff_exists'.mp hproc
    have hs : loopSection s.proc .checkProcess .go = some (s.proc, .sigterm, []) := by
      simp [loopSection, hq]
    exact .of_step hw hs rfl (hterm _ rfl hd)
  cases m with
  | idle => exact absurd rfl hm
  | closeStdin => exact .of_step (c := .go) hw rfl rfl (hcheck _ rfl hproc hdone)
  | checkProcess => exact hcheck s hw hproc hdone
  | sigterm => exact hterm s hw hdone
  | poll => exact hpoll s hw hdone
  | select => exact .of_step (c := .tick) hw rfl rfl (hpoll _ rfl hdone)
  | sigkill => exact .of_step (c := .go) hw rfl rfl (hawait _ rfl hdone)
  | awaitWait => exact hawait s hw hdone
  | complete => exact hcomplete s hw
  | closeDone => cases hover
  | ended => cases hover

/-- The loop that `Terminate` has started begins with a SIGTERM. -/
theorem sigterm_of_started (hloop : s.loop = .closeStdin) (hproc : s.proc.process ≠ none) :
    ∃ s', (runner pid).Path (fun _ _ => True) s [.signal .sigterm] s' := by
  obtain ⟨q, hq⟩ := Option.ne_none_iff_exists'.mp hproc
  let p : RunningProcess := { s.proc with stdinClosed := true }
  have hclose : (runner pid).step s (.loop .go) =
      some ({ s with proc := p, loop := .checkProcess }, []) := by
    simp [runner, State.step, hloop, loopSection, p]
  have hcheck : (runner pid).step { s with proc := p, loop := .checkProcess } (.loop .go) =
      some ({ s with proc := p, loop := .sigterm }, []) := by
    simp [runner, State.step, loopSection, p, hq]
  have hterm : (runner pid).step { s with proc := p, loop := .sigterm } (.loop .go) =
      some ({ s with proc := p, loop := .poll }, [.signal .sigterm]) := rfl
  exact ⟨_, .head trivial hclose (.head trivial hcheck (.head trivial hterm .refl))⟩

/-- **From every overlap there is a way to a signal after the completion.** -/
theorem signal_after_overlap {a : Act} (h : (runner pid).Run (fun _ _ => True) tr s)
    (ha : s.overlaps a = true) :
    ∃ tr' s', (runner pid).Path (fun _ _ => True) s tr' s' ∧
      ∃ pre post, tr' = pre ++ .completed :: post ∧ .signal .sigterm ∈ post := by
  obtain ⟨k, hk, hlock, hc, hloops⟩ : ∃ k, a.caller = some k ∧ s.caller k = .lock ∧
      s.proc.completed = false ∧ s.waiter.loops = true := by
    simpa [State.overlaps, Option.any_eq_true, and_assoc] using ha
  obtain ⟨m, hm⟩ : ∃ m, s.waiter = .looping m := by
    cases hw : s.waiter with
    | looping m => exact ⟨m, rfl⟩
    | _ => rw [hw] at hloops; cases hloops
  obtain ⟨hidle, hover⟩ := looping_of_run h m hm
  have hinv := inv_of_run h
  have hwait : s.proc.processWaitDone = true := by
    have hok := hinv.waiter
    rw [hm] at hok
    exact hok.2
  -- `Terminate` finds the process not completed,
  have hmark : callSection s.proc s.loop .lock =
      some ({ s.proc with terminating := true }, s.loop, .spawn) := by simp [callSection, hc]
  obtain ⟨s₁, hs₁, hp₁, -, hk₁, hw₁⟩ := step_ofCaller hlock nofun hmark
  -- the loop of `wait` completes it,
  obtain ⟨tr₂, s₂, hpath₂, hmem, hcaller₂, hproc₂⟩ : Completes pid s₁ := by
    refine completes_of_looping (hw₁.trans hm) hidle ?_ (by rw [hp₁]; exact hinv.process)
      (by rw [hp₁]; exact hwait)
    by_contra hne
    exact nomatch hc.symm.trans (hover (Bool.eq_true_of_not_eq_false hne))
  -- and then `Terminate` starts its own
  obtain ⟨s₃, hs₃, hp₃, hl₃, -, -⟩ := step_ofCaller (s := s₂) (k := k) (c := .spawn)
    (by rw [hcaller₂, hk₁]) nofun rfl
  have hproc₃ : s₃.proc.process ≠ none := by
    rw [hp₃, hproc₂, hp₁]
    exact hinv.process
  obtain ⟨s₄, hpath₄⟩ : ∃ s₄, (runner pid).Path (fun _ _ => True) s₃ [.signal .sigterm] s₄ :=
    sigterm_of_started hl₃ hproc₃
  obtain ⟨pre, post, rfl⟩ := List.append_of_mem hmem
  exact ⟨_, s₄, .head trivial hs₁ (hpath₂.trans (.head trivial hs₃ hpath₄)), pre,
    post ++ [.signal .sigterm], by simp, by simp⟩

end Overlap

/-! ## 6. Every run -/

/-- **When nothing is sent to the group of a completed process.** In every run in which no call of
    `Terminate` finds the process not completed while `wait` runs its own loop, no signal follows the
    mark; and wherever a run comes to such a call, it can go on to a signal after the mark. -/
theorem no_signal_after_completed (pid : Nat) :
    (∀ tr s, (runner pid).Run (fun s a => s.overlaps a = false) tr s →
      ∀ pre post sig, tr = pre ++ .completed :: post → .signal sig ∉ post) ∧
    ∀ tr s a, (runner pid).Run (fun _ _ => True) tr s → s.overlaps a = true →
      ∃ tr' s', (runner pid).Path (fun _ _ => True) s tr' s' ∧
        ∃ pre post sig, tr' = pre ++ .completed :: post ∧ .signal sig ∈ post := by
  refine ⟨fun tr s h pre post sig heq hmem => ?_, fun tr s a h ha => ?_⟩
  · have hquiet : Quiet tr s := h.invariant (Quiet.start pid) fun _ hq hc hs => hq.step hc hs
    obtain ⟨mid, post, rfl⟩ := List.append_of_mem hmem
    have hnot := hquiet.explained (pre ++ .completed :: mid) (.signal sig) post (by simp [heq]) sig rfl
    exact hnot (by simp)
  · obtain ⟨tr', s', hpath, pre, post, heq, hmem⟩ := signal_after_overlap h ha
    exact ⟨tr', s', hpath, pre, post, .sigterm, heq, hmem⟩

/-- The process exits and `Terminate` is called after the loop of `wait` is over. -/
theorem no_signal_after_completed_late : ∃ tr s,
    (runner 7).Run (fun s a => s.overlaps a = false) tr s ∧ s.calls 0 = .returned ∧
      .completed ∈ tr ∧ ∀ pre post sig, tr = pre ++ .completed :: post → .signal sig ∉ post := by
  obtain ⟨tr, s, hrun, hret, hmem⟩ := Lts.exists_run_of_replay (L := runner 7)
    (C := fun s a => s.overlaps a = false) (P := fun tr s => s.calls 0 = .returned ∧ .completed ∈ tr)
    [.waiter (.exited none), .waiter .go, .waiter .go, .waiter .go, .waiter .go, .waiter .go,
      .waiter .go, .waiter .gone, .waiter .go, .waiter .go, .terminate 0, .call 0, .call 0, .call 0]
    (by decide)
  exact ⟨tr, s, hrun, hret, hmem, (no_signal_after_completed 7).1 tr s hrun⟩

/-- The process exits by itself. `wait` starts its loop, `Terminate` finds the process not completed,
    the loop of `wait` completes it, and `Terminate` starts its own. -/
theorem signal_after_completed : ∃ tr s, (runner 7).Run (fun _ _ => True) tr s ∧
    ∃ pre post, tr = pre ++ .completed :: post ∧ .signal .sigterm ∈ post := by
  obtain ⟨_, s, hrun, rfl⟩ := Lts.exists_run_of_replay (L := runner 7) (C := fun _ _ => True)
    (P := fun tr _ => tr = [.reaped none, .stored ⟨0, "", ""⟩, .signal .sigterm, .completed,
      .signal .sigterm])
    [.waiter (.exited none), .waiter .go, .waiter .go, .waiter .go, .terminate 0, .call 0, .call 0,
      .waiter .go, .waiter .go, .waiter .go, .waiter .gone, .waiter .go, .waiter .go, .call 0,
      .loop .go, .loop .go, .loop .go] (by decide)
  exact ⟨_, s, hrun, [.reaped none, .stored ⟨0, "", ""⟩, .signal .sigterm], [.signal .sigterm], rfl,
    List.mem_singleton_self _⟩

end Mygosh.Runner

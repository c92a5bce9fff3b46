/-
  File:      Mygosh/Client/Monotone.lean
  Subject:   The client's state only goes forward.

  `handleServerEvent` reads the state under the lock and acts on it after the lock is dropped: it sets
  the state or the result, or fills the one slot of `started`. `finish` may record the end in between.
  The run condition says that it does not; under it

  * `Latched` -- the `sync.Once` of `finish`: one goroutine is inside, and it leaves before `done`;
  * `Steady` -- what the receive loop has read still holds where it is going to act on it.
-/
import Mygosh.Client.Effect

namespace Mygosh.Client

open Mux (Bytes)
open Command (ServerFrame Stream)

/-! ## 1. The condition -/

/-- `clientExited` and `clientClosed`. -/
def ClientState.ended : ClientState → Bool
  | .exited | .closed => true
  | .idle | .starting | .running => false

/-- The receive loop has read the state and will act on it. -/
def Pc.acting : Pc → Bool
  | .accepting | .reporting (some _) | .recording _ => true
  | _ => false

/-- `finish` does not record the end while the receive loop is acting on the state it has read. -/
def State.undisturbed (s : State) : Act → Bool
  | .finish t =>
    match s.pc t with
    | .finish .record _ _ => !(s.pc .reader).acting
    | _ => true
  | _ => true

/-! ## 2. The once -/

/-- Inside the function given to `close.Do`. -/
def Pc.inside : Pc → Bool
  | .finish .claim _ _ => false
  | .finish _ _ _ => true
  | _ => false

/-- Inside it, with the end recorded. -/
def Pc.past : Pc → Bool
  | .finish .closeConn _ _ | .finish .signal _ _ => true
  | _ => false

/-- Where `finish` is called from. -/
def Pc.returns : Pc → Prop
  | .finish _ _ next => next = .off ∨ next = .cancelling ∨ next = .receiving
  | _ => True

/-- A goroutine is inside the once before it is done, and alone there. -/
structure Latched (s : State) : Prop where
  entered : s.done = true → s.once = true
  inside : ∀ t, (s.pc t).inside = true → s.once = true ∧ s.done = false
  alone : ∀ t u, (s.pc t).inside = true → (s.pc u).inside = true → t = u
  returns : ∀ t, (s.pc t).returns

section Once

variable {maximum : Nat} {s s' : State} {a : Act} {evs : List Event} {t : Tid} {pc : Pc}

theorem Pc.returns_next {stage : Stage} {err : Option ClientError} {next : Pc}
    (h : (Pc.finish stage err next).returns) : next.inside = false ∧ next.past = false ∧ next.returns := by
  rcases h with rfl | rfl | rfl <;> exact ⟨rfl, rfl, trivial⟩

theorem returns_goto (hs : ∀ u, (s.pc u).returns) (hr : pc.returns) (u : Tid) :
    ((s.goto t pc).pc u).returns := by
  by_cases hut : u = t
  · subst hut; rw [goto_pc_self]; exact hr
  · rw [goto_pc_of_ne hut]; exact hs u

/-- A goroutine goes to a place outside the once. -/
theorem Latched.jump (hL : Latched s) (hin : pc.inside = false) (hr : pc.returns) :
    Latched (s.goto t pc) where
  entered := hL.entered
  inside u hu := by
    by_cases hut : u = t
    · subst hut; rw [goto_pc_self, hin] at hu; cases hu
    · rw [goto_pc_of_ne hut] at hu; exact hL.inside u hu
  alone u v hu hv := by
    by_cases hut : u = t
    · subst hut; rw [goto_pc_self, hin] at hu; cases hu
    · by_cases hvt : v = t
      · subst hvt; rw [goto_pc_self, hin] at hv; cases hv
      · rw [goto_pc_of_ne hut] at hu
        rw [goto_pc_of_ne hvt] at hv
        exact hL.alone u v hu hv
  returns := returns_goto hL.returns hr

/-- The other fields do not matter. -/
theorem Latched.congr (hL : Latched s) (hpc : s'.pc = s.pc) (hd : s'.done = s.done)
    (ho : s'.once = s.once) : Latched s' := by
  refine ⟨?_, ?_, ?_, ?_⟩
  · rw [hd, ho]; exact hL.entered
  · rw [hpc, hd, ho]; exact hL.inside
  · rw [hpc]; exact hL.alone
  · rw [hpc]; exact hL.returns

/-- The one who is inside goes on. -/
theorem Latched.within (hL : Latched s) (h : (s.pc t).inside = true) (hr : pc.returns) :
    Latched (s.goto t pc) where
  entered := hL.entered
  inside u hu := by
    by_cases hut : u = t
    · exact hL.inside t h
    · rw [goto_pc_of_ne hut] at hu; exact hL.inside u hu
  alone u v hu hv := by
    have hin : ∀ w, ((s.goto t pc).pc w).inside = true → w = t := fun w hw => by
      by_cases hwt : w = t
      · exact hwt
      · rw [goto_pc_of_ne hwt] at hw; exact hL.alone w t hw h
    rw [hin u hu, hin v hv]
  returns := returns_goto hL.returns hr

/-- Moves end outside the once. -/
theorem Latched.move (hL : Latched s) (hm : Move maximum s a t pc) :
    pc.inside = false ∧ pc.past = false ∧ pc.returns := by
  cases hm with
  | passed h => exact Pc.returns_next (h ▸ hL.returns t)
  | @readNothing after | @stdinDone after => cases after <;> exact ⟨rfl, rfl, trivial⟩
  | unsentStdin => exact ⟨rfl, rfl, .inr (.inl rfl)⟩
  | restarted | unsentStart | gaveUp | unopened | unreceived | unwritten | onCancel =>
    exact ⟨rfl, rfl, .inl rfl⟩
  | _ => exact ⟨rfl, rfl, trivial⟩

theorem Looks.outside (h : Looks s pc) : pc.inside = false ∧ pc.past = false ∧ pc.returns := by
  cases h with
  | refuses => exact ⟨rfl, rfl, .inl rfl⟩
  | accepts | rejects | writes | ends => exact ⟨rfl, rfl, trivial⟩

theorem Latched.step (hL : Latched s) (he : Effect maximum s a s' evs) : Latched s' := by
  cases he with
  | moved hm => exact hL.jump (hL.move hm).1 (hL.move hm).2.2
  | started =>
    refine Latched.jump (Latched.jump (hL.congr ?_ ?_ ?_) rfl trivial) rfl trivial <;> rfl
  | launched | received | accepted | reported | cancelCommand =>
    refine Latched.jump (hL.congr ?_ ?_ ?_) rfl trivial <;> rfl
  | refused | waited | rejected => refine Latched.jump (hL.congr ?_ ?_ ?_) rfl (.inl rfl) <;> rfl
  | recorded => refine Latched.jump (hL.congr ?_ ?_ ?_) rfl (.inr (.inr rfl)) <;> rfl
  | stdinEof => split_ifs <;> refine Latched.jump (hL.congr ?_ ?_ ?_) rfl trivial <;> rfl
  | opened =>
    have h₁ : Latched (s.goto .input .reading) := hL.jump rfl trivial
    have h₂ : Latched ((s.goto .input .reading).goto .run .waiting) := h₁.jump rfl trivial
    split_ifs
    · exact h₂.jump rfl trivial
    · exact h₂
  | @handled frame =>
    obtain ⟨pc, hs, hlook⟩ := handle_looks s frame
    rw [hs]
    exact hL.jump hlook.outside.1 hlook.outside.2.2
  | @claimed t err next h ho =>
    -- nobody is inside yet
    have hout : ∀ u, (s.pc u).inside = false := fun u =>
      Bool.not_eq_true _ ▸ fun hu => by rw [(hL.inside u hu).1] at ho; cases ho
    have hin : ∀ u, ((s.goto t (.finish .record err next)).pc u).inside = true → u = t :=
      fun u hu => by
        by_cases hut : u = t
        · exact hut
        · rw [goto_pc_of_ne hut, hout u] at hu; cases hu
    refine ⟨fun _ => rfl, fun u _ => ⟨rfl, ?_⟩, fun u v hu hv => (hin u hu).trans (hin v hv).symm, ?_⟩
    · exact Bool.not_eq_true _ ▸ fun hd => by rw [hL.entered hd] at ho; cases ho
    · have hr : (Pc.finish .record err next).returns := by
        have := hL.returns t
        rwa [h] at this
      exact returns_goto hL.returns hr
  | @finishRecorded t err next h =>
    have hr : (Pc.finish .closeConn err next).returns := by
      have := hL.returns t
      rwa [h] at this
    refine Latched.within (hL.congr ?_ ?_ ?_) (by rw [h]; rfl) hr <;> rfl
  | @connClosed t err next h =>
    have hr : (Pc.finish .signal err next).returns := by
      have := hL.returns t
      rwa [h] at this
    split_ifs
    · exact hL.within (by rw [h]; rfl) hr
    · refine Latched.within (hL.congr ?_ ?_ ?_) (by rw [h]; rfl) hr <;> rfl
  | @signalled t err next h =>
    -- the one who signals leaves, and nobody else is inside
    obtain ⟨hout, -, hr⟩ := Pc.returns_next (h ▸ hL.returns t)
    have ht : (s.pc t).inside = true := by rw [h]; rfl
    have hno : ∀ u, ¬((s.goto t next).pc u).inside = true := fun u hu => by
      by_cases hut : u = t
      · subst hut; rw [goto_pc_self, hout] at hu; cases hu
      · rw [goto_pc_of_ne hut] at hu; exact hut (hL.alone u t hu ht)
    exact ⟨fun _ => (hL.inside t ht).1, fun u hu => absurd hu (hno u),
      fun u _ hu _ => absurd hu (hno u), returns_goto hL.returns hr⟩
  | delivered | peerClosed | cancelled => exact hL.congr rfl rfl rfl

end Once

/-! ## 3. What the receive loop has read -/

/-- What holds at a place of the receive loop. -/
def State.reads (s : State) : Pc → Prop
  | .receiving | .handling _ | .writing _ => s.state = .starting → s.started = none
  | .accepting | .reporting (some _) => s.state = .starting ∧ s.started = none
  | .reporting none => (s.state = .running ∨ s.state.ended = true) ∧ s.started = none
  | .recording _ => s.state = .running
  | .finish _ _ next => next = .off ∨ next = .receiving ∧ s.state.ended = true
  | _ => True

/-- The state and the slot of `started` are as the goroutines take them to be. -/
structure Steady (s : State) : Prop where
  idle : s.state = .idle → s.started = none
  past : ∀ t, (s.pc t).past = true → s.state.ended = true
  done : s.done = true → s.state.ended = true
  reader : s.reads (s.pc .reader)

/-- What an ended client keeps: its end, and the result once it is done. -/
def Kept (s s' : State) : Prop :=
  (s.state.ended = true → s'.state.ended = true) ∧
    (s.done = true → s'.done = true ∧ s'.waitErr = s.waitErr)

theorem Kept.refl (s : State) : Kept s s := ⟨id, fun h => ⟨h, rfl⟩⟩

theorem Kept.of_eq {s s' : State} (hs : s'.state = s.state) (hd : s'.done = s.done)
    (hw : s'.waitErr = s.waitErr) : Kept s s' := by
  unfold Kept
  rw [hs, hd, hw]
  exact Kept.refl s

theorem Kept.trans {s₁ s₂ s₃ : State} (h : Kept s₁ s₂) (h' : Kept s₂ s₃) : Kept s₁ s₃ := by
  refine ⟨fun he => h'.1 (h.1 he), fun hd => ?_⟩
  obtain ⟨hd₂, hw₂⟩ := h.2 hd
  obtain ⟨hd₃, hw₃⟩ := h'.2 hd₂
  exact ⟨hd₃, hw₃.trans hw₂⟩

section Steady

variable {maximum : Nat} {s s' : State} {a : Act} {evs : List Event} {t : Tid} {pc : Pc}

/-- A goroutine moves and the state, the slot and `done` stay. -/
theorem Steady.jump (hS : Steady s) (hpc : s'.pc = (s.goto t pc).pc) (hst : s'.state = s.state)
    (hsl : s'.started = s.started) (hd : s'.done = s.done)
    (hp : pc.past = true → s.state.ended = true) (hr : t = .reader → s.reads pc) : Steady s' where
  idle h := by rw [hsl]; exact hS.idle (hst ▸ h)
  past u hu := by
    rw [hst]
    by_cases hut : u = t
    · subst hut; rw [hpc, goto_pc_self] at hu; exact hp hu
    · rw [hpc, goto_pc_of_ne hut] at hu; exact hS.past u hu
  done h := by rw [hst]; exact hS.done (hd ▸ h)
  reader := by
    have hreads : ∀ p, s.reads p → s'.reads p := fun p h => by
      unfold State.reads at h ⊢
      rw [hst, hsl]
      exact h
    refine hreads _ ?_
    rw [hpc]
    by_cases ht : t = .reader
    · subst ht; rw [goto_pc_self]; exact hr rfl
    · rw [goto_pc_of_ne (Ne.symm ht)]; exact hS.reader

theorem Steady.congr (hS : Steady s) (hpc : s'.pc = s.pc) (hst : s'.state = s.state)
    (hsl : s'.started = s.started) (hd : s'.done = s.done) : Steady s' :=
  hS.jump (t := .run) (hpc.trans (Function.update_eq_self ..).symm) hst hsl hd (hS.past .run)
    fun h => nomatch h

/-- Moves keep what the receive loop relies on. -/
theorem Steady.move (hS : Steady s) (hm : Move maximum s a t pc) (ht : t = .reader) : s.reads pc := by
  have hread := hS.reader
  cases hm with
  | unreceived | unwritten => exact .inl rfl
  | written h => rw [h] at hread; exact hread
  | passed h =>
    subst ht
    rw [h] at hread
    rcases hread with rfl | ⟨rfl, he⟩
    · trivial
    · intro hs; rw [hs] at he; cases he
  | _ => cases ht

theorem Steady.look (hS : Steady s) {frame : Option ServerFrame} (h : s.pc .reader = .handling frame)
    (hlook : Looks s pc) : s.reads pc := by
  have hread := hS.reader
  rw [h] at hread
  cases hlook with
  | refuses => exact .inl rfl
  | accepts hs | rejects hs => exact ⟨hs, hread hs⟩
  | writes hs => exact fun h => nomatch hs.symm.trans h
  | ends hs => exact hs

/-- Nobody has recorded the end while the state is another. -/
theorem Steady.open (hS : Steady s) (hs : s.state.ended = false) :
    s.done = false ∧ ∀ u, (s.pc u).past = false := by
  refine ⟨Bool.not_eq_true _ ▸ fun hd => ?_, fun u => Bool.not_eq_true _ ▸ fun hu => ?_⟩
  · rw [hS.done hd] at hs; cases hs
  · rw [hS.past u hu] at hs; cases hs

/-- The receive loop changes the state of a client that has not ended. -/
theorem Steady.turn (hS : Steady s) (hs : s.state.ended = false) (hpc : s'.pc = (s.goto .reader pc).pc)
    (hp : pc.past = false) (hd : s'.done = s.done) (hidle : s'.state ≠ .idle) (hr : s'.reads pc) :
    Steady s' ∧ Kept s s' := by
  obtain ⟨hdone, hpast⟩ := hS.open hs
  refine ⟨⟨fun h => absurd h hidle, fun u hu => ?_, fun h => ?_, ?_⟩,
    (fun h => nomatch hs.symm.trans h), fun h => nomatch hdone.symm.trans h⟩
  · rw [hpc] at hu
    by_cases hut : u = .reader
    · subst hut; rw [goto_pc_self, hp] at hu; cases hu
    · rw [goto_pc_of_ne hut, hpast u] at hu; cases hu
  · rw [hd, hdone] at h; cases h
  · rw [hpc, goto_pc_self]; exact hr

/-- `Run` takes what is in the slot. -/
theorem Steady.drain (hS : Steady s) : Steady { s with started := none } where
  idle _ := rfl
  past := hS.past
  done := hS.done
  reader := by
    have hread := hS.reader
    cases h : s.pc .reader with
    | receiving | handling | writing => exact fun _ => rfl
    | accepting => rw [h] at hread; exact ⟨hread.1, rfl⟩
    | reporting result => cases result <;> rw [h] at hread <;> exact ⟨hread.1, rfl⟩
    | _ => rw [h] at hread; exact hread

/-- The receive loop fills the slot. -/
theorem Steady.put (hS : Steady s) {result : Option ClientError} (hidle : s.state ≠ .idle)
    (hp : pc.past = false) (hr : { s with started := some result }.reads pc) :
    Steady ({ s with started := some result }.goto .reader pc) where
  idle h := absurd h hidle
  past u hu := by
    by_cases hut : u = .reader
    · subst hut; rw [goto_pc_self, hp] at hu; cases hu
    · rw [goto_pc_of_ne hut] at hu; exact hS.past u hu
  done := hS.done
  reader := by rw [goto_pc_self]; exact hr

/-- The end is recorded while the receive loop does not act on the state it has read. -/
theorem Steady.record (hS : Steady s) {err : Option ClientError} {next : Pc}
    (h : s.pc t = .finish .record err next) (hc : (s.pc .reader).acting = false)
    (hst : s'.state = if s.state = .exited then .exited else .closed)
    (hsl : s'.started = if s.state = .starting && s.started = none then some err else s.started)
    (hpc : s'.pc = (s.goto t (.finish .closeConn err next)).pc) : Steady s' := by
  have hended : s'.state.ended = true := by rw [hst]; split_ifs <;> rfl
  have hnot : ∀ c : ClientState, c.ended = false → s'.state ≠ c := fun c hc h => by
    rw [h, hc] at hended
    cases hended
  refine ⟨fun h => absurd h (hnot _ rfl), fun _ _ => hended, fun _ => hended, ?_⟩
  have hread := hS.reader
  rw [hpc]
  by_cases ht : t = .reader
  · subst ht
    rw [goto_pc_self]
    rw [h] at hread
    exact hread.imp id fun hn => ⟨hn.1, hended⟩
  · rw [goto_pc_of_ne (Ne.symm ht)]
    cases hr : s.pc .reader with
    | receiving | handling | writing => exact fun hs => absurd hs (hnot _ rfl)
    | accepting | recording => rw [hr] at hc; cases hc
    | reporting result =>
      cases result with
      | some => rw [hr] at hc; cases hc
      | none =>
        rw [hr] at hread
        refine ⟨.inr hended, ?_⟩
        rw [hsl, if_neg, hread.2]
        rcases hread.1 with hs | hs
        · simp [hs]
        · intro hb
          rw [of_decide_eq_true (Bool.and_eq_true_iff.mp hb).1] at hs
          cases hs
    | finish => rw [hr] at hread; exact hread.imp id fun hn => ⟨hn.1, hended⟩
    | _ => trivial

theorem Steady.step (hL : Latched s) (hS : Steady s) (hc : s.undisturbed a = true)
    (he : Effect maximum s a s' evs) : Steady s' ∧ Kept s s' := by
  have hread := hS.reader
  have hcall : ∀ {t stage err next} (stage' : Stage), s.pc t = .finish stage err next → t = .reader →
      s.reads (.finish stage' err next) := by
    intro t stage err next stage' h ht
    subst ht
    rw [h] at hread
    exact hread
  cases he with
  | moved hm =>
    refine ⟨hS.jump rfl rfl rfl rfl (fun hp => ?_) (hS.move hm), .of_eq rfl rfl rfl⟩
    rw [(hL.move hm).2.1] at hp
    cases hp
  | @started pty h hs =>
    let s₁ : State := { s with state := .starting, hasPTY := pty, sink := fun _ => true }
    have hend : s.state.ended = false := by rw [hs]; rfl
    obtain ⟨h₁, hk⟩ : Steady (s₁.goto .reader .receiving) ∧ Kept s (s₁.goto .reader .receiving) :=
      hS.turn hend rfl rfl rfl (fun h => nomatch h) fun _ => hS.idle hs
    exact ⟨h₁.jump rfl rfl rfl rfl (fun h => nomatch h) (fun h => nomatch h), hk⟩
  | launched | refused =>
    exact ⟨hS.drain.jump rfl rfl rfl rfl (fun h => nomatch h) (fun h => nomatch h),
      .of_eq rfl rfl rfl⟩
  | opened =>
    have h₁ : Steady (s.goto .input .reading) :=
      hS.jump rfl rfl rfl rfl (fun h => nomatch h) fun h => nomatch h
    have h₂ : Steady ((s.goto .input .reading).goto .run .waiting) :=
      h₁.jump rfl rfl rfl rfl (fun h => nomatch h) fun h => nomatch h
    split_ifs
    · exact ⟨h₂.jump rfl rfl rfl rfl (fun h => nomatch h) (fun h => nomatch h), .of_eq rfl rfl rfl⟩
    · exact ⟨h₂, .of_eq rfl rfl rfl⟩
  | waited =>
    exact ⟨hS.jump rfl rfl rfl rfl (fun h => nomatch h) (fun h => nomatch h), .of_eq rfl rfl rfl⟩
  | stdinEof =>
    split_ifs <;> exact ⟨hS.jump rfl rfl rfl rfl (fun h => nomatch h) (fun h => nomatch h),
      .of_eq rfl rfl rfl⟩
  | cancelCommand =>
    exact ⟨hS.jump rfl rfl rfl rfl (fun h => nomatch h) fun _ => trivial, .of_eq rfl rfl rfl⟩
  | received h =>
    rw [h] at hread
    exact ⟨hS.jump rfl rfl rfl rfl (fun h => nomatch h) fun _ => hread, .of_eq rfl rfl rfl⟩
  | @handled frame h =>
    obtain ⟨pc, hs, hlook⟩ := handle_looks s frame
    rw [hs]
    refine ⟨hS.jump rfl rfl rfl rfl (fun hp => ?_) fun _ => hS.look h hlook, .of_eq rfl rfl rfl⟩
    rw [hlook.outside.2.1] at hp
    cases hp
  | accepted h =>
    rw [h] at hread
    exact hS.turn (by rw [hread.1]; rfl) rfl rfl rfl (fun h => nomatch h) ⟨.inl rfl, hread.2⟩
  | recorded h =>
    rw [h] at hread
    have hend : s.state.ended = false := by rw [show s.state = .running from hread]; rfl
    exact hS.turn hend rfl rfl rfl (fun h => nomatch h) (.inr ⟨rfl, rfl⟩)
  | reported h =>
    rw [h] at hread
    have hnot : ∀ c : ClientState, c ≠ .running → c.ended = false → s.state ≠ c := by
      rintro c hne hc rfl
      rcases hread.1 with hs | hs
      · exact hne hs
      · rw [hc] at hs; cases hs
    exact ⟨hS.put (hnot .idle (by decide) rfl) rfl fun hs =>
      absurd hs (hnot .starting (by decide) rfl), .of_eq rfl rfl rfl⟩
  | rejected h =>
    rw [h] at hread
    exact ⟨hS.put (by rw [hread.1]; decide) rfl (.inl rfl), .of_eq rfl rfl rfl⟩
  | claimed h =>
    exact ⟨hS.jump rfl rfl rfl rfl (fun h => nomatch h) (hcall .record h), .of_eq rfl rfl rfl⟩
  | @finishRecorded t err next h =>
    have hcalm : (s.pc .reader).acting = false := by simpa [State.undisturbed, h] using hc
    refine ⟨hS.record h hcalm rfl rfl rfl, fun _ => ?_, fun hd => ?_⟩
    · simp only [State.goto]
      split_ifs <;> rfl
    · -- nobody is inside once the client is done
      rw [(hL.inside t (by rw [h]; rfl)).2] at hd
      cases hd
  | @connClosed t err next h =>
    have hp : s.state.ended = true := hS.past t (by rw [h]; rfl)
    split_ifs
    · exact ⟨hS.jump rfl rfl rfl rfl (fun _ => hp) (hcall .signal h), .of_eq rfl rfl rfl⟩
    · exact ⟨hS.jump rfl rfl rfl rfl (fun _ => hp) (hcall .signal h), .of_eq rfl rfl rfl⟩
  | @signalled t err next h =>
    have hp : s.state.ended = true := hS.past t (by rw [h]; rfl)
    have hnext : t = .reader → s.reads next := fun ht => by
      rcases hcall .signal h ht with rfl | ⟨rfl, -⟩
      · trivial
      · intro hs; rw [hs] at hp; cases hp
    have hS' : Steady (s.goto t next) := hS.jump rfl rfl rfl rfl (fun _ => hp) hnext
    exact ⟨⟨hS'.idle, hS'.past, fun _ => hp, hS'.reader⟩, id, fun _ => ⟨rfl, rfl⟩⟩
  | delivered | peerClosed | cancelled => exact ⟨hS.congr rfl rfl rfl rfl, .of_eq rfl rfl rfl⟩

end Steady

/-! ## 4. Every run -/

section Runs

variable {maximum : Nat} {tr : List Event} {s : State}

theorem latched_run {C : State → Act → Prop} (h : (client maximum).Run C tr s) : Latched s := by
  refine h.invariant (I := fun _ s => Latched s) ?_ ?_
  · have hout : ∀ t, (State.start.pc t).inside = false ∧ (State.start.pc t).returns := fun t => by
      cases t <;> exact ⟨rfl, trivial⟩
    refine ⟨(fun h => nomatch h), fun t ht => ?_, fun t _ ht _ => ?_, fun t => (hout t).2⟩
    all_goals
      have := (hout t).1.symm.trans ht
      cases this
  · intro tr evs s s' a _ hL _ hs
    exact hL.step (effect_of_step hs)

theorem steady_run (h : (client maximum).Run (fun s a => s.undisturbed a = true) tr s) : Steady s := by
  refine h.invariant (I := fun _ s => Steady s) ?_ ?_
  · refine ⟨fun _ => rfl, fun t ht => ?_, (fun h => nomatch h), trivial⟩
    cases t <;> cases ht
  · intro tr evs s s' a hr hS hc hs
    exact (hS.step (latched_run hr) hc (effect_of_step hs)).1

theorem report_possible {result : Option ClientError} (hpc : s.pc .reader = .reporting result)
    (hfree : s.started = none) : ∃ s', s.step maximum .report = some (s', []) := by
  cases result with
  | none => exact ⟨_, by rw [State.step, hpc, State.readerStep, if_neg (not_not.mpr hfree)]; rfl⟩
  | some err => exact ⟨_, by rw [State.step, hpc, State.readerStep, if_neg (not_not.mpr hfree)]; rfl⟩

/-- **The client only goes forward.** In every run in which `finish` never records the end while the
    receive loop is acting on the state it has read: an ended client stays ended, a done one keeps its
    result, and where the receive loop reports to `started` the slot is free. -/
theorem client_goes_forward
    (h : (client maximum).Run (fun s a => s.undisturbed a = true) tr s) :
    (∀ later s', (client maximum).Path (fun s a => s.undisturbed a = true) s later s' →
      (s.state.ended = true → s'.state.ended = true) ∧
        (s.done = true → s'.done = true ∧ s'.waitErr = s.waitErr)) ∧
      ∀ result, s.pc .reader = .reporting result → ∃ s', s.step maximum .report = some (s', []) := by
  constructor
  · intro later s' hp
    refine h.keeps (P := fun s' => Kept s s') (.refl s) ?_ hp
    intro tr evs s₁ s₂ a hr hk hc hs
    exact hk.trans ((steady_run hr).step (latched_run hr) hc (effect_of_step hs)).2
  · intro result hpc
    have hread := (steady_run h).reader
    rw [hpc] at hread
    refine report_possible hpc ?_
    cases result <;> exact hread.2

/-- A client that exits with status 3 while it is cancelled: the exit is recorded first and stays. -/
theorem client_goes_forward_status :
    ∃ tr s, (client 64).Run (fun s a => s.undisturbed a = true) tr s ∧ s.state = .exited ∧
      s.done = true ∧ s.waitErr = some (.exitStatus 3) ∧
      ∀ later s', (client 64).Path (fun s a => s.undisturbed a = true) s later s' →
        s'.state.ended = true ∧ s'.waitErr = some (.exitStatus 3) := by
  obtain ⟨tr, s, hrun, hs, hd, hw⟩ := Lts.exists_run_of_replay (L := client 64)
    (C := fun s a => s.undisturbed a = true)
    (P := fun _ s => s.state = .exited ∧ s.done ∧ s.waitErr = some (.exitStatus 3))
    [.start false, .sendStart true, .deliver (some (.startResult true "" "")), .receive true, .handle,
      .accept, .report, .takeStarted, .openInput true false, .deliver (some (.exit (.status 3))),
      .receive true, .handle, .cancel, .onCancel, .record, .finish .canceller, .finish .canceller,
      .finish .canceller, .finish .canceller]
    (by decide +kernel)
  refine ⟨tr, s, hrun, hs, hd, hw, fun later s' hp => ?_⟩
  obtain ⟨hend, hdone⟩ := (client_goes_forward hrun).1 later s' hp
  exact ⟨hend (by rw [hs]; rfl), (hdone hd).2.trans hw⟩

/-- The receive loop has something to report, the slot is full, and `Run` is gone. -/
structure Stuck (result : Option ClientError) (s : State) : Prop where
  reader : s.pc .reader = .reporting result
  slot : s.started ≠ none
  run : s.pc .run = .off

section Stuck

variable {result : Option ClientError} {s' : State} {a : Act} {evs : List Event} {t : Tid} {pc : Pc}

/-- Whoever is at another place than those two may go on. -/
theorem Stuck.goto (hS : Stuck result s) {s₀ : State} (hpc : s₀.pc = s.pc) (hs : s₀.started ≠ none)
    (ht : s.pc t ≠ .off ∧ s.pc t ≠ .reporting result) : Stuck result (s₀.goto t pc) where
  reader := by
    have hne : Tid.reader ≠ t := fun h => ht.2 (h ▸ hS.reader)
    rw [goto_pc_of_ne hne, hpc]
    exact hS.reader
  slot := hs
  run := by
    have hne : Tid.run ≠ t := fun h => ht.1 (h ▸ hS.run)
    rw [goto_pc_of_ne hne, hpc]
    exact hS.run

theorem Move.place (hm : Move maximum s a t pc) : s.pc t ≠ .off ∧ ∀ r, s.pc t ≠ .reporting r := by
  cases hm with
  | restarted h | sentStart h | unsentStart h | gaveUp h | unopened h | unreceived h | written h
  | unwritten h | readNothing h | read h | stdinRefused h | stdin h | stdinDone h | sentStdin h
  | unsentStdin h | eofRefused h | sentEof h | unsentEof h | resized h | stopped h | resizeRefused h
  | resize h | sentResize h | unsentResize h | onCancel h | passed h => rw [h]; exact ⟨nofun, nofun⟩

theorem Stuck.step (hS : Stuck result s) (he : Effect maximum s a s' evs) : Stuck result s' := by
  cases he with
  | moved hm => exact hS.goto rfl hS.slot ⟨hm.place.1, hm.place.2 result⟩
  | started h | launched h | refused h | opened h | waited h => cases hS.run.symm.trans h
  | received h | handled h | accepted h | recorded h => cases hS.reader.symm.trans h
  | reported _ hs | rejected _ hs => exact absurd hs hS.slot
  | stdinEof h | cancelCommand h | claimed h | signalled h =>
    exact hS.goto rfl hS.slot (by rw [h]; exact ⟨nofun, nofun⟩)
  | finishRecorded h =>
    refine hS.goto rfl ?_ (by rw [h]; exact ⟨nofun, nofun⟩)
    simp only [hS.slot, decide_false, Bool.and_false, Bool.false_eq_true, if_false]
    exact hS.slot
  | @connClosed t _ _ h =>
    have ht : s.pc t ≠ .off ∧ s.pc t ≠ .reporting result := by rw [h]; exact ⟨nofun, nofun⟩
    split_ifs
    · exact hS.goto rfl hS.slot ht
    · exact hS.goto rfl hS.slot ht
  | delivered | peerClosed | cancelled => exact ⟨hS.reader, hS.slot, hS.run⟩

theorem Stuck.keeps {tr' : List Event} (hS : Stuck result s)
    (h : (client maximum).Run (fun _ _ => True) tr s)
    (hp : (client maximum).Path (fun _ _ => True) s tr' s') : Stuck result s' :=
  h.keeps hS (fun _ hS _ hs => hS.step (effect_of_step hs)) hp

theorem Stuck.report (hS : Stuck result s) : s.step maximum .report = none := by
  rw [State.step, hS.reader, State.readerStep, if_pos hS.slot]
  rfl

end Stuck

/-- Cancelled between the look at the accepted start and `accept`: `finish` closes the client and
    fills `started`, the state becomes running again, and the receive loop waits for the slot in every
    state that follows. Cancelled between the look at the exit and `record`: the result changes after
    `done` is closed. -/
theorem client_goes_back :
    (∃ tr s s', (client 64).Run (fun _ _ => True) tr s ∧ s.state = .closed ∧
      s.step 64 .accept = some (s', []) ∧ s'.state = .running) ∧
    (∃ tr s, (client 64).Run (fun _ _ => True) tr s ∧ ∀ later s',
      (client 64).Path (fun _ _ => True) s later s' →
        s'.pc .reader = .reporting none ∧ s'.step 64 .report = none) ∧
    ∃ tr s s', (client 64).Run (fun _ _ => True) tr s ∧ s.done = true ∧
      s.step 64 .record = some (s', []) ∧ s.waitErr = canceled ∧
      s'.waitErr = some (.exitStatus 3) := by
  refine ⟨?_, ?_, ?_⟩
  · obtain ⟨tr, s, hrun, hs, hP⟩ := Lts.exists_run_of_replay (L := client 64)
      (C := fun _ _ => True) (P := fun _ s => s.state = .closed ∧
        (s.step 64 .accept).any fun q : State × List Event =>
          decide (q.1.state = .running) && q.2.isEmpty)
      [.start false, .sendStart true, .deliver (some (.startResult true "" "")), .receive true, .handle,
        .cancel, .startCancelled, .finish .run, .finish .run] (by decide +kernel)
    simp only [Bool.and_eq_true, decide_eq_true_eq, Option.any_eq_true, List.isEmpty_iff] at hP
    obtain ⟨⟨s', evs⟩, hstep, hs', rfl⟩ := hP
    exact ⟨tr, s, s', hrun, hs, hstep, hs'⟩
  · obtain ⟨tr, s, hrun, hreader, hfull, hoff⟩ := Lts.exists_run_of_replay (L := client 64)
      (C := fun _ _ => True)
      (P := fun _ s => s.pc .reader = .reporting none ∧ s.started ≠ none ∧ s.pc .run = .off)
      [.start false, .sendStart true, .deliver (some (.startResult true "" "")), .receive true, .handle,
        .cancel, .startCancelled, .finish .run, .finish .run, .finish .run, .finish .run, .accept]
      (by decide +kernel)
    have hS : Stuck none s := ⟨hreader, hfull, hoff⟩
    refine ⟨tr, s, hrun, fun later s' hp => ?_⟩
    exact ⟨(hS.keeps hrun hp).reader, (hS.keeps hrun hp).report⟩
  · obtain ⟨tr, s, hrun, hd, hw, hP⟩ := Lts.exists_run_of_replay (L := client 64)
      (C := fun _ _ => True) (P := fun _ s => s.done ∧ s.waitErr = canceled ∧
        (s.step 64 .record).any fun q : State × List Event =>
          decide (q.1.waitErr = some (.exitStatus 3)) && q.2.isEmpty)
      [.start false, .sendStart true, .deliver (some (.startResult true "" "")), .receive true, .handle,
        .accept, .report, .takeStarted, .openInput true false, .deliver (some (.exit (.status 3))),
        .receive true, .handle, .cancel, .onCancel, .finish .canceller, .finish .canceller,
        .finish .canceller, .finish .canceller]
      (by decide +kernel)
    simp only [Bool.and_eq_true, decide_eq_true_eq, Option.any_eq_true, List.isEmpty_iff] at hP
    obtain ⟨⟨s', evs⟩, hstep, hw', rfl⟩ := hP
    exact ⟨tr, s, s', hrun, hd, hstep, hw, hw'⟩

end Runs

end Mygosh.Client

/-
  File:      Mygosh/Daemon/Lifecycle.lean
  Subject:   Does a connection's runtime end with the connection?

  Every path out of `serveConnection` but one runs `runtime.Fail`, which cancels the runtime's context
  and so lets its watcher go. The one that does not is the deferred `Close` of a pending server whose
  session has been handed over: it leaves the context to the daemon's. `Conn.spared` is that case;
  where it does not occur, the runtime ends with the connection.
-/
import Mygosh.Daemon.Serve

namespace Mygosh.Daemon

open Establish (State Tid)

/-! ## 1. What is to hold -/

/-- `serveConnection` has not returned. -/
def Conn.serving (c : Conn) : Bool := decide (c.pc ≠ .returned)

/-- The watcher waits for the end of a context that has not ended. -/
def Conn.watching (c : Conn) : Bool :=
  c.runtime.any fun r => decide (r.pc .watcher = .idle) && r.runErr.isNone

def Conn.watcherDone (c : Conn) : Bool := c.runtime.any fun r => decide (r.pc .watcher = .done)

/-- The runtimes end with their connections. -/
structure LifecyclesEnd (cfg : Mux.Config) (d : Pool.State (Option Nat) Conn) : Prop where
  /-- where `serveConnection` has returned, the runtime's context has been cancelled -/
  cancelled : ∀ c ∈ d.members, c.pc = .returned → ∀ r, c.runtime = some r → r.runErr.isSome = true
  /-- and the watcher can finish -/
  finishes : ∀ (i : Nat) (c : Conn), d.members[i]? = some c → c.pc = .returned → c.runtime ≠ none →
    ∃ tr d', ∃ c' : Conn, (daemon cfg).lts.Path (fun _ _ => True) d tr d' ∧ d'.members[i]? = some c' ∧
      c'.watcherDone = true
  /-- no more watchers than connections -/
  bounded : d.members.countP Conn.watching ≤ d.members.countP Conn.serving

/-- The deferred `Close` of a pending server that has handed its session over, while the runtime's
    context has not ended. -/
def Conn.spared (c : Conn) : Bool :=
  decide (c.pc = .closePending) && c.runtime.any fun r => r.transferred && r.runErr.isNone

/-- A step other than that `Close`. -/
def Conn.Ends (_ : Option Nat) (c : Conn) : ConnAct → Prop
  | .serve _ => c.spared = false
  | .background _ => True

instance (ctxErr : Option Nat) (c : Conn) : ∀ a, Decidable (c.Ends ctxErr a)
  | .serve _ => inferInstanceAs (Decidable (c.spared = false))
  | .background _ => inferInstanceAs (Decidable True)

/-! ## 2. The runtime -/

/-- A goroutine that will cancel the runtime's context. -/
def willCancel : Establish.Pc → Bool
  | .stopAuth (.close false) | .readCause (.close false) | .cancelAuth (.close false) _
  | .fail _ _ | .failCancel _ _ => true
  | _ => false

/-- The runtime's context has ended, or goroutine `t` will end it. -/
def Cancels (r : State) (t : Tid) : Prop := r.runErr.isSome = true ∨ willCancel (r.pc t) = true

/-- Where the watcher can be. -/
def Watches : Establish.Pc → Prop
  | .idle | .takeOwner _ | .closeOwner _ _ | .done => True
  | _ => False

/-- What a section of goroutine `t` leaves alone. -/
structure Frame (t : Tid) (r r' : State) : Prop where
  state : r'.state = r.state
  server : (r.server = true → r.transferred = true) → r'.server = true → r'.transferred = true
  runErr : r.runErr.isSome = true → r'.runErr.isSome = true
  others : ∀ u, u ≠ t → r'.pc u = r.pc u

section Runtime

variable {cfg : Mux.Config} {r r' : State} {t : Tid} {ok : Bool} {pc : Establish.Pc}
  {evs : List Establish.Event}

@[simp] theorem goto_self : (r.goto t pc).pc t = pc := Function.update_self ..

theorem Frame.goto (hstate : r'.state = r.state)
    (hserver : (r.server = true → r.transferred = true) → r'.server = true → r'.transferred = true)
    (hrun : r.runErr.isSome = true → r'.runErr.isSome = true) (hpc : r'.pc = r.pc) :
    Frame t r (r'.goto t pc) where
  state := hstate
  server := hserver
  runErr := hrun
  others u hu := by
    show Function.update r'.pc t pc u = r.pc u
    rw [Function.update_of_ne hu, hpc]

theorem endAuth_frame (c : Establish.Err) : (r.endAuth c).1.state = r.state ∧
    (r.endAuth c).1.server = r.server ∧ (r.endAuth c).1.transferred = r.transferred ∧
    (r.endAuth c).1.runErr = r.runErr ∧ (r.endAuth c).1.pc = r.pc := by
  unfold State.endAuth
  split <;> exact ⟨rfl, rfl, rfl, rfl, rfl⟩

theorem section_frame (h : r.section t ok pc = some (r', evs)) : Frame t r r' := by
  cases pc with
  | idle | done => cases h
  | acceptPhase | acceptOwner | stopAuth | fail | acceptRelease | closeOwner =>
    cases h
    exact .goto rfl id id rfl
  | failCancel =>
    cases h
    exact .goto rfl id (fun _ => by simp) rfl
  | acceptTransfer =>
    cases h
    exact .goto rfl (fun _ _ => rfl) id rfl
  | cancelAuth =>
    cases h
    obtain ⟨hstate, hserver, htrans, hrun, hpc⟩ := endAuth_frame (r := r) .canceled
    refine .goto hstate (fun himp hs => ?_) (fun hsome => hrun ▸ hsome) hpc
    exact htrans.trans (himp (hserver.symm.trans hs))
  | acceptPrepare | acceptDecide | acceptAdvance | rejectDecide =>
    simp only [State.section] at h
    split_ifs at h <;> cases h <;> exact .goto rfl id id rfl
  | acceptCheck | acceptBind | acceptFinal | takeOwner | readCause | acceptActivate =>
    simp only [State.section, State.ret] at h
    split at h <;> cases h <;> exact .goto rfl id id rfl
  | acceptSend | rejectSend =>
    simp only [State.section] at h
    split at h
    · split_ifs at h <;> cases h <;> exact .goto rfl id id rfl
    · cases h

/-- A goroutine on its way to cancel the context stays on it until it has. -/
theorem section_cancels (hw : willCancel pc = true) (h : r.section t ok pc = some (r', evs)) :
    r'.runErr.isSome = true ∨ willCancel (r'.pc t) = true := by
  -- the places on the way: `completeAuthDeadline` on behalf of `Close`, then `Fail`
  unfold willCancel at hw
  split at hw
  · cases h
    exact .inr (by simp [willCancel])
  · simp only [State.section] at h
    split at h <;> cases h
    exact .inr (by simp [willCancel])
  · cases h
    exact .inr (by simp [willCancel, Establish.Caller.after])
  · cases h
    exact .inr (by simp [willCancel])
  · cases h
    left
    show (r.runErr.or _).isSome = true
    simp
  · cases hw

theorem section_watches (hw : Watches pc) (h : r.section t ok pc = some (r', evs)) :
    Watches (r'.pc t) := by
  cases pc with
  | takeOwner ret =>
    simp only [State.section, State.ret] at h
    split at h <;> cases h <;> simp [Watches]
  | closeOwner owner ret =>
    cases h
    simp [Watches]
  | idle | done => cases h
  | _ => exact hw.elim

end Runtime

/-- What every step of the runtime keeps. -/
structure Kept (r r' : State) : Prop where
  state : r'.state = r.state
  server : (r.server = true → r.transferred = true) → r'.server = true → r'.transferred = true
  runErr : r.runErr.isSome = true → r'.runErr.isSome = true
  cancels : ∀ t, Cancels r t → Cancels r' t
  watches : Watches (r.pc .watcher) → Watches (r'.pc .watcher)

section Background

variable {cfg : Mux.Config} {r r' : State} {t : Tid} {a : Establish.Act} {c : Conn}
  {ctxErr : Option Nat} {evs : List Establish.Event}

theorem Frame.kept (h : Frame t r r')
    (hc : willCancel (r.pc t) = true → r'.runErr.isSome = true ∨ willCancel (r'.pc t) = true)
    (hw : t = .watcher → Watches (r.pc t) → Watches (r'.pc t)) : Kept r r' where
  state := h.state
  server := h.server
  runErr := h.runErr
  cancels u hu := by
    rcases hu with hsome | hwill
    · exact .inl (h.runErr hsome)
    by_cases hut : u = t
    · subst hut
      exact hc hwill
    · exact .inr (h.others u hut ▸ hwill)
  watches hwatch := by
    by_cases ht : t = .watcher
    · subst ht
      exact hw rfl hwatch
    · rwa [h.others .watcher (Ne.symm ht)]

/-- A step that moves no goroutine. -/
theorem Kept.of_eq (hstate : r'.state = r.state) (hserver : r'.server = r.server)
    (htrans : r'.transferred = r.transferred)
    (hrun : r.runErr.isSome = true → r'.runErr.isSome = true) (hpc : r'.pc = r.pc) : Kept r r' where
  state := hstate
  server himp hs := htrans.trans (himp (hserver.symm.trans hs))
  runErr := hrun
  cancels _ hu := hu.imp hrun fun hwill => hpc ▸ hwill
  watches hwatch := hpc ▸ hwatch

theorem endAuth_kept (e : Establish.Err) : Kept r (r.endAuth e).1 := by
  obtain ⟨hstate, hserver, htrans, hrun, hpc⟩ := endAuth_frame (r := r) e
  exact .of_eq hstate hserver htrans (fun hsome => hrun ▸ hsome) hpc

/-- **One step beside `serveConnection`.** -/
theorem background_kept (ha : c.admits r ctxErr a = true) (h : r.step cfg a = some (r', evs)) :
    Kept r r' := by
  cases a with
  | accept | reject | close => cases ha
  | next t ok =>
    exact (section_frame h).kept (fun hw => section_cancels hw h) fun _ hw => section_watches hw h
  | expire =>
    obtain rfl : (r.endAuth .deadlineExceeded).1 = r' := congrArg Prod.fst (Option.some.inj h)
    exact endAuth_kept _
  | propagate =>
    obtain ⟨e, -, heq⟩ := Option.map_eq_some_iff.mp h
    obtain rfl : (r.endAuth e).1 = r' := congrArg Prod.fst heq
    exact endAuth_kept e
  | parentCancel n =>
    cases h
    exact .of_eq rfl rfl rfl (fun _ => by simp) rfl
  | fire =>
    simp only [State.step] at h
    split at h <;> cases h
    refine Frame.kept (t := .callback) (Frame.goto rfl id id rfl) (fun _ => .inr ?_)
      fun hne => nomatch hne
    rw [goto_self]
    rfl
  | ring =>
    simp only [State.step] at h
    split_ifs at h
    cases h
    refine Frame.kept (t := .timer) (Frame.goto rfl id id rfl) (fun _ => .inr ?_)
      fun hne => nomatch hne
    rw [goto_self]
    rfl
  | watch =>
    simp only [State.step] at h
    split_ifs at h with hrun
    cases h
    exact (Frame.goto rfl id id rfl).kept (fun _ => .inl hrun.1) fun _ _ => by simp [Watches]
  | session m =>
    simp only [State.step, State.sessionStep] at h
    split at h
    · cases h
    split_ifs at h
    obtain ⟨x, -, heq⟩ := Option.map_eq_some_iff.mp h
    cases heq
    exact .of_eq rfl rfl rfl id rfl

end Background

/-! ## 3. One connection -/

/-- What holds of the runtime, by the place of `serveConnection`. -/
def Holds (r : State) : Pc → Prop
  | .failed => Cancels r (.call 0)
  | .closing => Cancels r (.call 1)
  | .returned => r.runErr.isSome = true
  | _ => r.state ≠ .pendingClosed

structure RuntimeOk (r : State) (pc : Pc) : Prop where
  server : r.server = true → r.transferred = true
  watches : Watches (r.pc .watcher)
  place : Holds r pc

def Conn.Ok (c : Conn) : Prop := ∀ r, c.runtime = some r → RuntimeOk r c.pc

section Connection

variable {cfg : Mux.Config} {r r' : State} {pc pc' : Pc} {c c' : Conn} {a : ConnAct}
  {ctxErr : Option Nat} {ok : Bool} {evs : List Establish.Event}

theorem Kept.runtimeOk (hk : Kept r r') (h : RuntimeOk r pc) : RuntimeOk r' pc where
  server := hk.server h.server
  watches := hk.watches h.watches
  place := by
    have hplace := h.place
    cases pc with
    | failed | closing => exact hk.cancels _ hplace
    | returned => exact hk.runErr hplace
    | _ => exact fun heq => hplace (hk.state.symm.trans heq)

/-- Once the goroutine is done the context has ended. -/
theorem Cancels.of_done {t : Tid} (h : Cancels r t) (hdone : r.pc t = .done) :
    r.runErr.isSome = true :=
  h.resolve_right fun hw => by rw [hdone] at hw; cases hw

theorem RuntimeOk.moves (h : RuntimeOk r pc) (hp : Holds r pc') : RuntimeOk r pc' :=
  ⟨h.server, h.watches, hp⟩

/-- `Accept` and `Reject` up to their claim. -/
theorem claim_ok {n : Nat} {next : Establish.PendingState} {p : Establish.Pc} {ret : Establish.Ret}
    (h : RuntimeOk r pc) (hopen : r.state ≠ .pendingClosed) (hnext : next ≠ .pendingClosed)
    (hplace : ∀ q : State, q.state ≠ .pendingClosed → Holds q pc') :
    RuntimeOk (r.claim n next p ret).1 pc' := by
  unfold State.claim
  split
  · exact ⟨h.server, h.watches, hplace _ hopen⟩
  · exact ⟨h.server, h.watches, hplace _ hnext⟩

/-- The deferred `Close` of the pending server. -/
theorem closeCall_ok (h : RuntimeOk r .closePending)
    (hends : r.transferred = true → r.runErr.isSome = true) :
    RuntimeOk (r.closeCall 1).1 .closing := by
  unfold State.closeCall
  split_ifs with hover hund
  · refine ⟨h.server, h.watches, .inl ?_⟩
    exact hends (hover.resolve_left h.place)
  all_goals
    have hserver : r.server = false := by
      by_contra hs
      exact hover (.inr (h.server (Bool.eq_true_of_not_eq_false hs)))
    refine ⟨h.server, h.watches, .inr ?_⟩
    show willCancel (Function.update r.pc (.call 1) _ (.call 1)) = true
    rw [Function.update_self, hserver]
    rfl

/-- **One section of `serveConnection`.** -/
theorem serveSection_ok {evs : List Establish.Event} (h : RuntimeOk r pc)
    (hends : pc = .closePending → r.transferred = true → r.runErr.isSome = true)
    (hs : serveSection cfg r ok pc = some (r', pc', evs)) : RuntimeOk r' pc' := by
  have hplace := h.place
  cases pc with
  | beginAccept | newRuntime | returned => cases hs
  | runCause | startTimer | handshakeCause | beginServer | authorize | newRegistry | prepare =>
    cases hs
    refine h.moves ?_
    split <;> exact hplace
  | setHandshaking | handshake | setOwner | setAuthPending | withTimeout | stopAuth =>
    cases hs
    exact ⟨h.server, h.watches, hplace⟩
  | cancelAuth =>
    cases hs
    have hok := (endAuth_kept .canceled).runtimeOk h
    exact hok.moves hok.place
  | failing =>
    cases hs
    exact ⟨h.server, h.watches, .inr (by rw [goto_self]; rfl)⟩
  | failed | closing =>
    simp only [serveSection] at hs
    split_ifs at hs with hdone
    cases hs
    exact h.moves (hplace.of_done hdone)
  | rejecting | wait | closeSession =>
    simp only [serveSection] at hs
    split_ifs at hs
    cases hs
    exact h.moves hplace
  | accepting =>
    simp only [serveSection] at hs
    split_ifs at hs <;> cases hs <;> exact h.moves hplace
  | reject =>
    simp only [serveSection, State.step] at hs
    split_ifs at hs
    · cases hs
    cases hs
    exact claim_ok h hplace (fun he => nomatch he) fun _ hopen => hopen
  | accept =>
    simp only [serveSection, State.step] at hs
    split_ifs at hs
    · cases hs
    cases hs
    exact claim_ok h hplace (fun he => nomatch he) fun _ hopen => hopen
  | closePending =>
    simp only [serveSection, State.step] at hs
    split_ifs at hs
    · cases hs
    cases hs
    exact closeCall_ok h (hends rfl)

/-- **One step of a connection.** -/
theorem Conn.Ok.step (h : c.Ok) (hends : c.Ends ctxErr a)
    (hs : c.step cfg ctxErr a = some (c', evs)) : c'.Ok := by
  cases a with
  | serve ok =>
    simp only [Conn.step, Conn.serve] at hs
    split at hs
    · rename_i hnone
      split at hs <;> cases hs
      · exact fun r hr => nomatch hnone.symm.trans hr
      · intro r hr
        cases hr
        exact ⟨(fun hserver => nomatch hserver), trivial, fun hstate => nomatch hstate⟩
    · rename_i r hr
      obtain ⟨⟨r', pc', es⟩, hsec, heq⟩ := Option.map_eq_some_iff.mp hs
      cases heq
      intro _ heq
      cases heq
      refine serveSection_ok (h r hr) (fun hpc htrans => ?_) hsec
      have hspared : c.spared = false := hends
      by_contra hrun
      simp [Conn.spared, hpc, hr, htrans, Option.not_isSome_iff_eq_none.mp hrun] at hspared
  | background a =>
    simp only [Conn.step, Conn.background] at hs
    split at hs
    · cases hs
    rename_i r hr
    split_ifs at hs with hadm
    obtain ⟨⟨r', es⟩, hstep, heq⟩ := Option.map_eq_some_iff.mp hs
    cases heq
    intro _ heq
    cases heq
    exact (background_kept hadm hstep).runtimeOk (h r hr)

theorem Conn.Ok.cancelled (h : c.Ok) (hpc : c.pc = .returned) (hr : c.runtime = some r) :
    r.runErr.isSome = true := by
  have hplace := (h r hr).place
  rwa [hpc] at hplace

end Connection

/-! ## 4. The watcher -/

section Watcher

variable {cfg : Mux.Config} {ctxErr : Option Nat} {c : Conn} {r r' : State} {ret : Establish.Ret}

/-- The connection can go where the watcher has returned. -/
def Finishes (cfg : Mux.Config) (ctxErr : Option Nat) (c : Conn) : Prop :=
  ∃ tr c', ((daemon cfg).alone ctxErr).Path (fun _ _ => True) c tr c' ∧ c'.watcherDone = true

theorem Finishes.of_step {a : Establish.Act} {evs : List Establish.Event} (hr : c.runtime = some r)
    (ha : a = .watch ∨ a = .next .watcher true) (hs : r.step cfg a = some (r', evs))
    (h : Finishes cfg ctxErr { c with runtime := some r' }) : Finishes cfg ctxErr c := by
  obtain ⟨tr, c', hp, hdone⟩ := h
  have hadm : c.admits r ctxErr a = true := by rcases ha with rfl | rfl <;> rfl
  have hstep : ((daemon cfg).alone ctxErr).step c (.background a) =
      some ({ c with runtime := some r' }, evs) := by
    show c.background cfg ctxErr a = _
    simp only [Conn.background, hr, hadm, if_true, hs, Option.map_some]
  exact ⟨_, c', .head trivial hstep hp, hdone⟩

theorem finishes_done (hr : c.runtime = some r) (hpc : r.pc .watcher = .done) :
    Finishes cfg ctxErr c :=
  ⟨[], c, .refl, by simp [Conn.watcherDone, hr, hpc]⟩

theorem finishes_closeOwner {owner : Establish.Owner} (hr : c.runtime = some r)
    (hpc : r.pc .watcher = .closeOwner owner ret) : Finishes cfg ctxErr c := by
  apply Finishes.of_step hr (.inr rfl)
  · rw [State.step, hpc]
    rfl
  · exact finishes_done rfl goto_self

theorem finishes_takeOwner (hr : c.runtime = some r) (hpc : r.pc .watcher = .takeOwner ret) :
    Finishes cfg ctxErr c := by
  cases howner : r.owner with
  | none =>
    apply Finishes.of_step hr (.inr rfl)
    · simp only [State.step, hpc, State.section, howner]
      rfl
    · exact finishes_done rfl goto_self
  | some owner =>
    apply Finishes.of_step hr (.inr rfl)
    · simp only [State.step, hpc, State.section, howner]
      rfl
    · exact finishes_closeOwner rfl goto_self

/-- **Once the context has ended, nothing keeps the watcher.** -/
theorem watcher_finishes (hr : c.runtime = some r) (hw : Watches (r.pc .watcher))
    (hrun : r.runErr.isSome = true) : Finishes cfg ctxErr c := by
  cases hpc : r.pc .watcher with
  | idle =>
    apply Finishes.of_step hr (.inl rfl)
    · simp only [State.step, hrun, hpc, and_self, if_true]
      rfl
    · exact finishes_takeOwner rfl goto_self
  | takeOwner ret => exact finishes_takeOwner hr hpc
  | closeOwner owner ret => exact finishes_closeOwner hr hpc
  | done => exact finishes_done hr hpc
  | _ =>
    rw [hpc] at hw
    exact hw.elim

end Watcher

/-! ## 5. The daemon -/

section Runs

variable {cfg : Mux.Config} {tr : List (Nat × Establish.Event)} {d d' : Pool.State (Option Nat) Conn}

/-- The runtime of a connection that has been served is not watched. -/
theorem Conn.Ok.serving {c : Conn} (h : c.Ok) (hw : c.watching = true) : c.serving = true := by
  obtain ⟨r, hr, hwatch⟩ := (Option.any_eq_true _ _).mp hw
  obtain ⟨-, hnone⟩ := Bool.and_eq_true_iff.mp hwatch
  refine decide_eq_true fun hpc => ?_
  have hrun := h.cancelled hpc hr
  rw [Option.isNone_iff_eq_none.mp hnone] at hrun
  cases hrun

theorem lifecyclesEnd_of_ok (h : ∀ c ∈ d.members, c.Ok) : LifecyclesEnd cfg d where
  cancelled c hc hpc r hr := (h c hc).cancelled hpc hr
  finishes i c hi hpc hsome := by
    obtain ⟨r, hr⟩ := Option.ne_none_iff_exists'.mp hsome
    have hok := h c (List.mem_of_getElem? hi)
    have hfin : Finishes cfg d.shared c := watcher_finishes hr (hok r hr).watches (hok.cancelled hpc hr)
    obtain ⟨tr, c', hp, hdone⟩ := hfin
    exact ⟨_, _, c', Pool.path hi hp, Pool.getElem?_set_member hi, hdone⟩
  bounded := List.countP_mono_left fun c hc hw => (h c hc).serving hw

/-- After the deferred `Close` that spares the context, the connection has been served and the context
    has not ended. -/
theorem spared_outlives {i : Nat} {ok : Bool} {c c' : Conn} {evs : List Establish.Event}
    (hi : d.members[i]? = some c) (hspared : c.spared = true)
    (hs : c.serve cfg d.shared ok = some (c', evs)) :
    ∃ tr d', (daemon cfg).lts.Path (fun _ _ => True) d tr d' ∧ ¬ LifecyclesEnd cfg d' := by
  obtain ⟨hpc, hany⟩ := Bool.and_eq_true_iff.mp hspared
  have hpc := of_decide_eq_true hpc
  obtain ⟨r, hr, hflags⟩ := (Option.any_eq_true _ _).mp hany
  obtain ⟨htrans, hnone⟩ := Bool.and_eq_true_iff.mp hflags
  -- `Close` sees the hand-over and returns
  obtain ⟨hpc', hr'⟩ : c'.pc = .closing ∧ c'.runtime = some (r.goto (.call 1) .done) := by
    simp only [Conn.serve, hr, hpc, serveSection, State.step] at hs
    split_ifs at hs
    · cases hs
    · simp only [State.closeCall, htrans, or_true, if_true] at hs
      cases hs
      exact ⟨rfl, rfl⟩
  obtain ⟨c'', hlast, hpc'', hr''⟩ : ∃ c'', c'.serve cfg d.shared true = some (c'', []) ∧
      c''.pc = .returned ∧ c''.runtime = c'.runtime := by
    simp [Conn.serve, hr', hpc', serveSection]
  have hfirst : ((daemon cfg).alone d.shared).step c (.serve ok) = some (c', evs) := hs
  have hlast : ((daemon cfg).alone d.shared).step c' (.serve true) = some (c'', []) := hlast
  have hpath := Lts.Path.head (C := fun _ _ => True) trivial hfirst (.step .refl trivial hlast)
  refine ⟨_, _, Pool.path hi hpath, fun hend => ?_⟩
  have hmem : c'' ∈ d.members.set i c'' := List.mem_of_getElem? (Pool.getElem?_set_member hi)
  have hrun := hend.cancelled c'' hmem hpc'' _ (hr''.trans hr')
  change r.runErr.isSome = true at hrun
  rw [Option.isNone_iff_eq_none.mp hnone] at hrun
  cases hrun

end Runs

/-- **A connection's runtime ends with the connection, but for the spared one.** In every run in which
    no deferred `Close` spares the context, every reached state is one where the runtimes end with
    their connections; and from any state with such a `Close` the daemon can go where they do not. -/
theorem lifecycles_end (cfg : Mux.Config) :
    (∀ tr d, (daemon cfg).lts.Run (Pool.Meets Conn.Ends) tr d → LifecyclesEnd cfg d) ∧
    ∀ (d : Pool.State (Option Nat) Conn) (i : Nat) (c : Conn) (ok : Bool),
      d.members[i]? = some c → c.spared = true → c.serve cfg d.shared ok ≠ none →
      ∃ tr d', (daemon cfg).lts.Path (fun _ _ => True) d tr d' ∧ ¬ LifecyclesEnd cfg d' := by
  constructor
  · intro tr d h
    refine lifecyclesEnd_of_ok (Pool.forall_mem ?_ (fun hok hends hs => hok.step hends hs) h)
    exact fun r hr => nomatch hr
  · intro d i c ok hi hspared hsome
    obtain ⟨⟨c', evs⟩, hs⟩ := Option.ne_none_iff_exists'.mp hsome
    exact spared_outlives hi hspared hs

/-! ## 6. Two runs -/

/-- `serveConnection` passes `n` sections, with success. -/
def serves (i n : Nat) : List (Pool.Act Nat ConnAct) := List.replicate n (.member i (.serve true))

/-- So does the call of the pending server it has made. -/
def calls (i n : Nat) : List (Pool.Act Nat ConnAct) :=
  List.replicate n (.member i (.background (.next (.call 0) true)))

def sessionActs (i : Nat) (as : List Mux.Act) : List (Pool.Act Nat ConnAct) :=
  as.map fun a => .member i (.background (.session a))

/-- A client is admitted, authenticates and is accepted. -/
def accepted (i : Nat) : List (Pool.Act Nat ConnAct) :=
  .join :: serves i 15 ++ calls i 14 ++ serves i 1

/-- The peer ends the session, and `serveConnection` returns. -/
def leaves (i : Nat) : List (Pool.Act Nat ConnAct) :=
  sessionActs i (Mux.Tid.receiver.does [.go, .eof, .go, .go, .go, .go, .go] ++
    Mux.Tid.dispatcher.does [.sessDone] ++ Mux.Tid.writer.does [.sessDone] ++
    Mux.Tid.finalizer.does [.go]) ++ serves i 4

/-- A client whose handshake fails. -/
def fails (i : Nat) : List (Pool.Act Nat ConnAct) :=
  .join :: serves i 5 ++ [.member i (.serve false)] ++ serves i 2 ++ calls i 4 ++ serves i 1

/-- One handshake fails; one client is accepted and leaves after the daemon's context has ended. -/
theorem lifecycles_end_shutdown : ∃ tr d,
    (daemon sessionConfig).lts.Run (Pool.Meets Conn.Ends) tr d ∧
    d.members.countP (fun c => c.runtime.isSome && !c.serving) = 2 ∧ LifecyclesEnd sessionConfig d := by
  obtain ⟨tr, d, h, hp⟩ := Lts.exists_run_of_replay (L := (daemon sessionConfig).lts)
    (C := Pool.Meets Conn.Ends)
    (P := fun _ d => d.members.countP (fun c => c.runtime.isSome && !c.serving) = 2)
    (fails 0 ++ accepted 1 ++ [.share 3, .member 1 (.background (.parentCancel 3))] ++ leaves 1)
    (by decide +kernel)
  exact ⟨tr, d, h, hp, (lifecycles_end sessionConfig).1 tr d h⟩

/-- **Accepted connections leave their watchers behind.** Two clients are accepted, one after the
    other, and leave; both have been served, the daemon is up, and two watchers wait. -/
theorem accepted_connections_leak : ∃ tr d,
    (daemon sessionConfig).lts.Run (fun _ _ => True) tr d ∧ d.shared = none ∧
    d.members.countP Conn.watching = 2 ∧ d.members.countP Conn.serving = 0 ∧
    ¬ LifecyclesEnd sessionConfig d := by
  obtain ⟨tr, d, h, hup, hwatching, hserving⟩ := Lts.exists_run_of_replay
    (L := (daemon sessionConfig).lts) (C := fun _ _ => True)
    (P := fun _ d => d.shared = none ∧ d.members.countP Conn.watching = 2 ∧
      d.members.countP Conn.serving = 0)
    (accepted 0 ++ leaves 0 ++ accepted 1 ++ leaves 1) (by decide +kernel)
  refine ⟨tr, d, h, hup, hwatching, hserving, fun hend => ?_⟩
  have hle := hend.bounded
  omega

end Mygosh.Daemon

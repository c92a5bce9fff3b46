/-
  File:      Mygosh/Session/Release.lean
  Subject:   What is left of a session once its connection is closed.

  `finalize` closes the connection and waits for the goroutines of the session, which may be in a
  `select`, in a read or a write, behind `shutdownOnce`, or behind the writer.

  * `EndStep`, `Phases` -- the phases of `shutdown`, and what a goroutine knows that waits;
  * `Machine.Served` -- a write somebody waits for is queued, at the writer, or reported;
  * `closed_releases` -- no goroutine is left blocked.
-/
import Mygosh.Session.Outbox

namespace Mygosh.Mux

open Function (update update_self update_of_ne)
open Session

/-! ## 1. The end of a session -/

/-- The part of `shutdown` after `s.cancel`. -/
def Pc.winding : Pc → Bool
  | .shutChannels _ | .shutGlobals _ | .shutQueues _ => true
  | _ => false

/-- The write of a goroutine that waits for it, or will. -/
def Pc.syncs : Pc → Option Nat
  | .ensure w _ _ | .reserve w (.sync _) _ | .push w (.sync _) _ | .await w _ _ => some w
  | .workRespond _ _ w => w
  | _ => none

/-- Both queues are over, and the writer waits for them all the same. -/
def Pc.deaf : Pc → Bool
  | .selectBoth c o => !c && !o
  | _ => false

/-- The fields by which a session ends are as before. -/
structure SameEnd (s s' : Session) : Prop where
  ctxErr : s'.ctxErr = s.ctxErr
  queues : s'.queuesClosed = s.queuesClosed
  done : s'.shutDone = s.shutDone
  finalizing : s'.finalizing = s.finalizing
  closed : s'.connClosed = s.connClosed

/-- The ways a step can touch them. -/
inductive EndStep (s : Session) (pc : Pc) (o : Out) : Prop where
  | same (h : SameEnd s o.sess) (hp : o.pc.winding = true → pc.winding = true)
  | cancel (hx : o.sess.ctxErr.isSome = true) (h : SameEnd { s with ctxErr := o.sess.ctxErr } o.sess)
  | queues (hp : pc.winding = true) (ho : o.pc.winding = false)
      (h : SameEnd { s with queuesClosed := true, finalizing := true, shutDone := true } o.sess)
  | finalize (hf : s.finalizing = true) (ho : o.pc.winding = false)
      (h : SameEnd { s with connClosed := true } o.sess)

/-- What a step can lead to: a write that is waited for was known before, or has just been made with a
    channel for its result; and the wait begins when it is put in the queue. -/
structure Leads (s : Session) (pc : Pc) (o : Out) : Prop where
  ends : EndStep s pc o
  hears : o.pc.deaf = false
  synced : ∀ w, o.pc.syncs = some w → pc.syncs = some w ∨
    w < o.sess.nextWrite ∧ (o.sess.writes w).waits = true
  awaits : ∀ w, o.pc.awaits = some w → ∃ x k, pc = .push w (.sync x) k ∧
    o.sess = s.enqueued w (.sync x)

/-- **`shutdown` cancels the context of the session first, and closes the queues before `finalize`
    closes the connection**; the writer waits for a queue that is open, and whoever waits for a write
    has a channel for its result. -/
structure Phases (m : Machine) : Prop where
  winding : ∀ t, (m.pc t).winding = true → m.sess.ctxErr.isSome = true
  finalizing : m.sess.finalizing = true →
    m.sess.ctxErr.isSome = true ∧ m.sess.queuesClosed = true ∧ m.sess.shutDone = true
  closed : m.sess.connClosed = true → m.sess.finalizing = true
  hears : ∀ t, (m.pc t).deaf = false
  synced : ∀ t w, (m.pc t).syncs = some w → w < m.sess.nextWrite ∧ (m.sess.writes w).waits = true

section Phases

variable {cfg : Config} {s : Session} {t : Tid} {pc : Pc} {o : Out} {m : Machine} {tr : List Event}

theorem Pc.syncs_of_awaits {w : Nat} (h : pc.awaits = some w) : pc.syncs = some w := by
  cases pc <;> first | exact h | cases h

/-- A step of a goroutine that does not wait for a write. -/
theorem Leads.calm (h : EndStep s pc o) (hp : o.pc.deaf = false ∧ o.pc.syncs = none) :
    Leads s pc o where
  ends := h
  hears := hp.1
  synced w hw := by rw [hp.2] at hw; cases hw
  awaits w hw := by
    have hs := Pc.syncs_of_awaits hw
    rw [hp.2] at hs
    cases hs

/-- One that does not end the session either. -/
theorem Leads.quiet (h : SameEnd s o.sess)
    (hp : o.pc.winding = false ∧ o.pc.deaf = false ∧ o.pc.syncs = none) : Leads s pc o :=
  .calm (.same h fun hw => by rw [hp.1] at hw; cases hw) hp.2

theorem Resumes.quiet (h : Resumes pc) :
    pc.winding = false ∧ pc.deaf = false ∧ pc.syncs = none := by
  cases h <;> exact ⟨rfl, rfl, rfl⟩

/-- A goroutine goes on with the write it had. -/
theorem Leads.goesOn (h : SameEnd s o.sess)
    (hp : o.pc.winding = false ∧ o.pc.deaf = false ∧ o.pc.awaits = none)
    (hw : o.pc.syncs = pc.syncs) : Leads s pc o where
  ends := .same h fun hx => by rw [hp.1] at hx; cases hx
  hears := hp.2.1
  synced _ hv := .inl (hw ▸ hv)
  awaits w ha := by rw [hp.2.2] at ha; cases ha

/-- A goroutine has made a write that it will wait for. -/
theorem Leads.made {x : OutboundWrite} (h : SameEnd s o.sess)
    (hp : o.pc.winding = false ∧ o.pc.deaf = false ∧ o.pc.awaits = none)
    (hw : o.pc.syncs = some s.nextWrite) (hx : o.sess.writes = update s.writes s.nextWrite x)
    (hn : o.sess.nextWrite = s.nextWrite + 1) (hwaits : x.waits = true) : Leads s pc o where
  ends := .same h fun hw => by rw [hp.1] at hw; cases hw
  hears := hp.2.1
  synced w hv := by
    rw [hw] at hv
    cases hv
    rw [hx, hn, update_self]
    exact .inr ⟨Nat.lt_succ_self _, hwaits⟩
  awaits w ha := by rw [hp.2.2] at ha; cases ha

theorem leads_step (h : Effect cfg s t pc o) : Leads s pc o := by
  have hsame : SameEnd s s := ⟨rfl, rfl, rfl, rfl, rfl⟩
  cases h with
  | move h =>
    cases h with
    | start h => cases h <;> exact .quiet hsame ⟨rfl, rfl, rfl⟩
    | ensured => exact .goesOn hsame ⟨rfl, rfl, rfl⟩ rfl
    | @selectEmpty c b _ h =>
      refine .quiet hsame ⟨rfl, ?_, rfl⟩
      cases c <;> cases b <;> first | rfl | simp at h
    | shutdownOver => exact .quiet hsame (downPc_resumes _).quiet
    | requestGone => exact .quiet hsame (droppedPc_resumes ..).quiet
    | channelsOver => exact .calm (.same hsame fun _ => rfl) ⟨rfl, rfl⟩
    | _ => exact .quiet hsame ⟨rfl, rfl, rfl⟩
  | found _ _ h =>
    cases h with
    | channel ha => cases ha <;> exact .quiet hsame ⟨rfl, rfl, rfl⟩
    | _ => exact .quiet hsame ⟨rfl, rfl, rfl⟩
  | refused | routeFails => exact .quiet hsame ⟨rfl, rfl, rfl⟩
  | send h =>
    cases h with
    | @reserved _ m =>
      cases m with
      | sync => exact .goesOn ⟨rfl, rfl, rfl, rfl, rfl⟩ ⟨rfl, rfl, rfl⟩ rfl
      | async => exact .quiet ⟨rfl, rfl, rfl, rfl, rfl⟩ ⟨rfl, rfl, rfl⟩
    | pushSync =>
      exact ⟨.same ⟨rfl, rfl, rfl, rfl, rfl⟩ nofun, rfl, fun _ hw => .inl hw,
        fun _ hw => by cases hw; exact ⟨_, _, rfl, rfl⟩⟩
    | _ => exact .quiet ⟨rfl, rfl, rfl, rfl, rfl⟩ (contPc_resumes ..).quiet
  | down h =>
    cases h with
    | cancel =>
      refine .calm (.cancel ?_ ⟨rfl, rfl, rfl, rfl, rfl⟩) ⟨rfl, rfl⟩
      show (s.ctxErr.or _).isSome = true
      simp
    | channel | globals => exact .calm (.same ⟨rfl, rfl, rfl, rfl, rfl⟩ fun _ => rfl) ⟨rfl, rfl⟩
    | @queues d =>
      have hp := (downPc_resumes d.k).quiet
      exact .calm (.queues rfl hp.1 ⟨rfl, rfl, rfl, rfl, rfl⟩) hp.2
    | parent => exact .calm (.cancel rfl ⟨rfl, rfl, rfl, rfl, rfl⟩) ⟨rfl, rfl⟩
    | finalize _ hf => exact .calm (.finalize hf rfl ⟨rfl, rfl, rfl, rfl, rfl⟩) ⟨rfl, rfl⟩
    | _ => exact .quiet ⟨rfl, rfl, rfl, rfl, rfl⟩ ⟨rfl, rfl, rfl⟩
  | close h =>
    cases h with
    | requestSend | requestAsk | closeWrite =>
      exact .made ⟨rfl, rfl, rfl, rfl, rfl⟩ ⟨rfl, rfl, rfl⟩ rfl rfl rfl rfl
    | requestReleased => exact .quiet ⟨rfl, rfl, rfl, rfl, rfl⟩ (droppedPc_resumes ..).quiet
    | _ => exact .quiet ⟨rfl, rfl, rfl, rfl, rfl⟩ ⟨rfl, rfl, rfl⟩
  | _ h =>
    cases h <;> first
      | exact .quiet ⟨rfl, rfl, rfl, rfl, rfl⟩ ⟨rfl, rfl, rfl⟩
      | exact .goesOn ⟨rfl, rfl, rfl, rfl, rfl⟩ ⟨rfl, rfl, rfl⟩ rfl
      | exact .made ⟨rfl, rfl, rfl, rfl, rfl⟩ ⟨rfl, rfl, rfl⟩ rfl rfl rfl rfl

theorem EndStep.ctxErr (h : EndStep s pc o) (hx : s.ctxErr.isSome = true) :
    o.sess.ctxErr.isSome = true := by
  cases h with
  | same h | queues _ _ h | finalize _ _ h => rw [h.ctxErr]; exact hx
  | cancel hx' => exact hx'

theorem Phases.step (hI : Phases m) (hO : Outbox tr m) (he : Effect cfg m.sess t (m.pc t) o) :
    Phases ⟨o.sess, update m.pc t o.pc⟩ := by
  obtain ⟨hends, hhears, hsynced, -⟩ := leads_step he
  have hkept : ∀ {w}, w < m.sess.nextWrite ∧ (m.sess.writes w).waits = true →
      w < o.sess.nextWrite ∧ (o.sess.writes w).waits = true := by
    rintro w ⟨hlt, hw⟩
    refine ⟨hlt.trans_le (write_step he).next_le, ?_⟩
    rw [(hO.change (write_step he) w hlt).fixed.2.2.2]
    exact hw
  refine ⟨?_, ?_, ?_, ?_, ?_⟩
  · refine forall_update (P := fun _ pc => pc.winding = true → o.sess.ctxErr.isSome = true)
      (fun hw => ?_) fun u _ hw => hends.ctxErr (hI.winding u hw)
    cases hends with
    | same h hp => exact h.ctxErr ▸ hI.winding t (hp hw)
    | cancel hx => exact hx
    | queues _ ho | finalize _ ho => rw [ho] at hw; cases hw
  · intro hf
    show o.sess.ctxErr.isSome = true ∧ o.sess.queuesClosed = true ∧ o.sess.shutDone = true
    have hf : o.sess.finalizing = true := hf
    cases hends with
    | same h | finalize _ _ h =>
      rw [h.finalizing] at hf
      rw [h.ctxErr, h.queues, h.done]
      exact hI.finalizing hf
    | cancel hx h =>
      rw [h.finalizing] at hf
      rw [h.queues, h.done]
      exact ⟨hx, (hI.finalizing hf).2⟩
    | queues hp _ h =>
      rw [h.ctxErr, h.queues, h.done]
      exact ⟨hI.winding t hp, rfl, rfl⟩
  · intro hc
    show o.sess.finalizing = true
    have hc : o.sess.connClosed = true := hc
    cases hends with
    | same h | cancel _ h =>
      rw [h.closed] at hc
      rw [h.finalizing]
      exact hI.closed hc
    | queues _ _ h => rw [h.finalizing]
    | finalize hf _ h => rw [h.finalizing]; exact hf
  · exact forall_update (P := fun _ pc => pc.deaf = false) hhears fun u _ => hI.hears u
  · refine forall_update (P := fun _ pc => ∀ w, pc.syncs = some w →
      w < o.sess.nextWrite ∧ (o.sess.writes w).waits = true) (fun w hw => ?_)
      fun u _ w hw => hkept (hI.synced u w hw)
    exact (hsynced w hw).elim (fun hw => hkept (hI.synced t w hw)) id

theorem phases_run {C : Machine → Act → Prop} (h : (Machine.lts cfg).Run C tr m) : Phases m := by
  refine Machine.run_invariant (I := fun _ m => Phases m) h ?_
    fun {tr m a o} hr hI _ he => hI.step (outbox_run hr) he
  exact ⟨fun _ h => (Bool.noConfusion h), nofun, nofun, fun _ => rfl, fun _ _ h => by cases h⟩

end Phases

/-! ## 2. Callers that wait for the writer -/

/-- A write somebody waits for is queued, at the writer, or has its result. -/
def Machine.Served (m : Machine) : Prop :=
  ∀ t w x k, m.pc t = .await w x k → (m.sess.writes w).state = .writeQueued ∨
    (m.pc .writer).taken = some w ∨ (m.sess.writes w).result.isSome = true

section Served

variable {cfg : Config} {s : Session} {t : Tid} {pc : Pc} {o : Out} {m : Machine} {tr : List Event}
  {w : Nat}

theorem putResult_isSome {x : OutboundWrite} (h : x.waits = true) (e : Option Err) :
    (putResult x e).isSome = true := by
  rw [putResult, if_pos h]
  cases x.result <;> rfl

theorem taken_role (h : pc.taken = some w) : pc.role = some .writer := by
  cases pc <;> first | rfl | cases h

/-- The writer keeps the write it has taken until it has a result. -/
theorem taken_step (h : WriteStep s t pc o) (hw : pc.taken = some w)
    (hwaits : (s.writes w).waits = true) :
    o.pc.taken = some w ∨ (o.sess.writes w).result.isSome = true := by
  cases h with
  | same _ _ _ ht => rw [ht] at hw; cases hw
  | add hi => rw [hi.taken] at hw; cases hw
  | popped _ ho | ran _ ho => cases hw; exact .inl (by rw [ho]; rfl)
  | claimed | claimFails | sent | sendFails => exact .inl hw
  | skip hs | reported hs =>
    cases hw
    rw [hs.writes, update_self]
    exact .inr (putResult_isSome hwaits _)
  | popControl _ hp => rcases hp with rfl | rfl <;> cases hw
  | drop hh => cases pc <;> first | (cases hw; done) | cases hh
  | undo hu => cases pc <;> first | (cases hw; done) | cases hu
  | fill | pushSync | pushAsync | awaited | cancel | popOutbound => cases hw

/-- Only its caller and the writer that has taken it touch a write. -/
theorem Outbox.untouched (hO : Outbox tr m) (h : WriteStep m.sess t (m.pc t) o)
    (hlt : w < m.sess.nextWrite) (hc : (m.sess.writes w).caller ≠ t) (ht : (m.pc t).taken ≠ some w) :
    (o.sess.writes w).state = (m.sess.writes w).state ∧
      (o.sess.writes w).result = (m.sess.writes w).result := by
  have hother : ∀ {v x}, w ≠ v → o.sess.writes = update m.sess.writes v x →
      o.sess.writes w = m.sess.writes w := fun hv hs => by rw [hs, update_of_ne hv]
  have hhand : ∀ {v}, (m.pc t).hand = some v → w ≠ v := fun hv h => hc (h ▸ (hO.hand t _ hv).caller)
  have hundo : ∀ {v}, (m.pc t).undoes = some v → w ≠ v := fun hv h =>
    hc (h ▸ (hO.undoes t _ hv).2.1)
  have hwait : ∀ {v}, (m.pc t).awaits = some v → w ≠ v := fun hv h =>
    hc (h ▸ (hO.awaits t _ hv).2.1)
  suffices hs : o.sess.writes w = m.sess.writes w ∨
      ∃ v p, o.sess.writes = update m.sess.writes v { m.sess.writes v with place := p } by
    rcases hs with hs | ⟨v, p, hs⟩
    · rw [hs]; exact ⟨rfl, rfl⟩
    · rw [hs]; exact ⟨update_proj OutboundWrite.state rfl, update_proj OutboundWrite.result rfl⟩
  generalize m.pc t = pc at *
  cases h with
  | same hs | popped hs | ran hs => exact .inl (by rw [hs.writes])
  | add _ _ hs => exact .inl (hother hlt.ne hs)
  | drop hh hs => exact .inl (hother (hhand hh) hs.writes)
  | fill _ hs => exact .inl (hother (hhand rfl) hs.writes)
  | pushSync | pushAsync => exact .inl (hother (hhand rfl) rfl)
  | awaited | claimFails => exact .inl rfl
  | cancel => exact .inl (hother (hwait rfl) rfl)
  | undo hu hs => exact .inl (hother (hundo hu) hs.writes)
  | claimed | sent | sendFails => exact .inl (hother (fun h => ht (h ▸ rfl)) rfl)
  | skip hs | reported hs => exact .inl (hother (fun h => ht (h ▸ rfl)) hs.writes)
  | popControl | popOutbound => exact .inr ⟨_, _, rfl⟩

theorem Machine.Served.step (hI : m.Served) (hO : Outbox tr m) (hE : Phases m)
    (he : Effect cfg m.sess t (m.pc t) o) : Machine.Served ⟨o.sess, update m.pc t o.pc⟩ := by
  have hstep := write_step he
  refine forall_update (P := fun _ pc => ∀ w x k, pc = .await w x k →
    (o.sess.writes w).state = .writeQueued ∨ (update m.pc t o.pc .writer).taken = some w ∨
      (o.sess.writes w).result.isSome = true) (fun w x k hpc => .inl ?_) fun u hu w x k hpc => ?_
  · -- a goroutine only comes here from the queue it has put its write in
    obtain ⟨x', k', hpush, ho⟩ := (leads_step he).awaits w (by rw [hpc]; rfl)
    have hand := hO.hand t w (by rw [hpush]; rfl)
    rw [ho]
    show (update m.sess.writes w _ w).state = .writeQueued
    rw [update_self]
    exact hand.state
  · obtain ⟨hlt, hcaller, -⟩ := hO.awaits u w (by rw [hpc]; rfl)
    have hwaits := (hE.synced u w (by rw [hpc]; rfl)).2
    by_cases htaken : (m.pc t).taken = some w
    · have hwriter : t = .writer := hO.is_writer (taken_role htaken)
      subst hwriter
      rw [update_self]
      exact .inr (taken_step hstep htaken hwaits)
    · obtain ⟨hstate, hresult⟩ := hO.untouched hstep hlt (hcaller ▸ hu) htaken
      rw [hstate, hresult]
      refine (hI u w x k hpc).imp id (Or.imp_left fun hw => ?_)
      have hne : Tid.writer ≠ t := by
        rintro rfl
        exact htaken hw
      rwa [update_of_ne hne]

/-- **Nobody waits for a write that is lost.** -/
theorem served_run {C : Machine → Act → Prop} (h : (Machine.lts cfg).Run C tr m) : m.Served := by
  refine Machine.run_invariant (I := fun _ m => m.Served) h (fun _ _ _ _ hpc => by cases hpc)
    fun {tr m a o} hr hI _ he => ?_
  exact hI.step (outbox_run hr) (phases_run hr) he

end Served

/-! ## 3. After the connection is closed -/

/-- The choices of a goroutine itself: what the peer, the application and its handlers decide is not
    among them. A read or a write on a closed connection fails. -/
def Choice.own : Choice → Bool
  | .go | .result | .sessDone | .chanDone | .wake | .control | .outbound | .readErr | .fail => true
  | .pick _ => true
  | _ => false

/-- The session has started this goroutine. -/
def Session.spawned (s : Session) : Tid → Bool
  | .receiver | .dispatcher | .writer => true
  | .worker i => (s.chan i).workerStarted
  | .timer i => (s.chan i).timerArmed
  | .late n => decide (n < s.late.length)
  | .finalizer => s.finalizing
  | .call _ | .env => false

/-- A handler of the application is running. -/
def Pc.handling : Pc → Bool
  | .admitDecide .. | .handleGlobal _ | .workRespond .. => true
  | _ => false

/-- Goroutine `t` is not blocked. -/
def Machine.goesOn (cfg : Config) (m : Machine) (t : Tid) : Prop :=
  ∃ c : Choice, c.own = true ∧ (m.step cfg ⟨t, c⟩).isSome = true

/-- What a goroutine can be at once nothing holds it back. -/
inductive Released (cfg : Config) (m : Machine) (t : Tid) : Prop where
  | ended (h : m.pc t = .exited ∨ ∃ r, m.pc t = .done r)
  | unborn (h : m.pc t = .start) (hs : m.sess.spawned t = false)
  | handling (h : (m.pc t).handling = true)
  | goesOn (h : m.goesOn cfg t)
  | behind {w x k} (h : m.pc t = .await w x k) (ht : (m.pc .writer).taken = some w)
      (hw : m.goesOn cfg .writer)

section Released

variable {cfg : Config} {s : Session} {t : Tid} {pc : Pc} {o : Out} {m : Machine} {tr : List Event}

theorem goesOn_of_exec {c : Choice} (hc : c.own = true) (hpc : m.pc t = pc)
    (h : (m.sess.exec cfg t c pc).isSome = true) : m.goesOn cfg t := by
  subst hpc
  obtain ⟨o, ho⟩ := Option.isSome_iff_exists.mp h
  exact ⟨c, hc, by simp [Machine.step, ho]⟩

/-- A writer that has taken a write is not blocked. -/
theorem goesOn_of_taken {w : Nat} (h : (m.pc t).taken = some w) : m.goesOn cfg t := by
  generalize hpc : m.pc t = pc at h
  cases pc with
  | popped | claim | skip | written | report => exact goesOn_of_exec (c := .go) rfl hpc rfl
  | sending => exact goesOn_of_exec (c := .fail) rfl hpc rfl
  | _ => cases h

/-- The first section of a goroutine that the session has started. -/
theorem begin_spawned (cfg : Config) (hx : s.ctxErr.isSome = true) (ht : s.spawned t = true) :
    ∃ c : Choice, c.own = true ∧ (s.begin cfg t c).isSome = true := by
  cases t with
  | receiver | dispatcher | writer => exact ⟨.sessDone, rfl, by simp [begin, waitForActivation, hx]⟩
  | worker i =>
    have ht : (s.chan i).workerStarted = true := ht
    exact ⟨.sessDone, rfl, by simp [begin, workStart, hx, ht]⟩
  | timer i =>
    have ht : (s.chan i).timerArmed = true := ht
    exact ⟨.sessDone, rfl, by simp [begin, timeout, hx, ht]⟩
  | late n =>
    have ht : n < s.late.length := of_decide_eq_true ht
    exact ⟨.go, rfl, by simp [begin, ht]⟩
  | finalizer =>
    have ht : s.finalizing = true := ht
    exact ⟨.go, rfl, by simp [begin, ht]⟩
  | call | env => cases ht

theorem chanCause_isSome (hx : s.ctxErr.isSome = true) (i : Nat) : (s.chanCause i).isSome = true := by
  simp [chanCause, hx]

/-- The second `select` of the writer, once the queues are closed. -/
theorem selectBoth_closed {c q : Bool} (hq : s.queuesClosed = true)
    (hd : (Pc.selectBoth c q).deaf = false) :
    ∃ x : Choice, x.own = true ∧ (s.selectBoth c q x).isSome = true := by
  cases c with
  | true => exact ⟨.control, rfl, by cases hl : s.controlQueue <;>
      simp [selectBoth, takeControl, hl, hq]⟩
  | false =>
    cases q with
    | true => exact ⟨.outbound, rfl, by cases hl : s.outboundQueue <;>
        simp [selectBoth, takeOutbound, hl, hq]⟩
    | false => cases hd

theorem select_closed {c q : Bool} (hq : s.queuesClosed = true) : (s.select c q).isSome = true := by
  cases c with
  | true => cases hl : s.controlQueue <;> simp [select, takeControl, hl, hq]
  | false => cases q <;> rfl

/-- **Once `finalize` has closed the connection, nothing of the session stays blocked**: every
    goroutine has ended or was never started, runs a handler, can go on by itself, or waits for the
    write that the writer works on. -/
theorem closed_releases {C : Machine → Act → Prop} (h : (Machine.lts cfg).Run C tr m)
    (hc : m.sess.connClosed = true) (t : Tid) : Released cfg m t := by
  have hE := phases_run h
  obtain ⟨hx, hq, hd⟩ := hE.finalizing (hE.closed hc)
  have hgo : ∀ {pc} (c : Choice), c.own = true → m.pc t = pc →
      (m.sess.exec cfg t c pc).isSome = true → Released cfg m t :=
    fun c hc hpc he => .goesOn (goesOn_of_exec hc hpc he)
  have hfits := (outbox_run h).fits t
  have hdeaf := hE.hears t
  have hworker : (m.pc t).role = some .worker → ∃ i, t = .worker i := by
    intro hr
    have hrole := hfits _ hr
    cases t with
    | worker i => exact ⟨i, rfl⟩
    | _ => cases hrole
  generalize hpc : m.pc t = pc at hfits hdeaf hworker
  cases pc with
  | start =>
    cases ht : m.sess.spawned t with
    | false => exact .unborn hpc ht
    | true =>
      obtain ⟨c, hown, hb⟩ := begin_spawned cfg hx ht
      exact hgo c hown hpc hb
  | exited => exact .ended (.inl hpc)
  | done r => exact .ended (.inr ⟨r, hpc⟩)
  | admitDecide | handleGlobal | workRespond => exact .handling (by rw [hpc]; rfl)
  | await w x k =>
    rcases served_run h t w x k hpc with hw | hw | hw
    · exact hgo .sessDone rfl hpc (by simp [exec, await, hx, hw])
    · exact .behind hpc hw (goesOn_of_taken hw)
    · exact hgo .result rfl hpc (by simp [exec, await, hw])
  | shutdown e k =>
    refine hgo .go rfl hpc ?_
    simp only [exec, shutdown, hd, if_true]
    split
    · split <;> rfl
    · rfl
  | shutChannels d =>
    cases hl : d.chans with
    | nil => exact hgo .go rfl hpc (by simp [exec, shutChannels, hl])
    | cons i _ => exact hgo (.pick i) rfl hpc (by simp [exec, shutChannels, hl])
  | recv => exact hgo .readErr rfl hpc (by simp [exec, receive, hx])
  | disp => exact hgo .sessDone rfl hpc (by simp [exec, dispatch, hx])
  | select c q => exact hgo .go rfl hpc (by simp [exec, select_closed hq])
  | selectBoth c q =>
    obtain ⟨x, hown, hs⟩ := selectBoth_closed hq hdeaf
    exact hgo x hown hpc hs
  | sending => exact hgo .fail rfl hpc rfl
  | work =>
    obtain ⟨i, rfl⟩ := hworker rfl
    exact hgo .chanDone rfl hpc (by simp [exec, work, chanCause_isSome hx])
  | workRelease | workRequest | workFinish | workClose | workClosed =>
    obtain ⟨i, rfl⟩ := hworker rfl
    exact hgo .go rfl hpc rfl
  | timeoutRemove =>
    have hrole := hfits _ rfl
    cases t with
    | timer i => exact hgo .go rfl hpc rfl
    | _ => cases hrole
  | openWait => exact hgo .sessDone rfl hpc (by simp [exec, openWait, hx])
  | globalWait => exact hgo .sessDone rfl hpc (by simp [exec, globalWait, hx])
  | sendWait i => exact hgo .chanDone rfl hpc (by
      simp [exec, sendWait, chanCause_isSome hx])
  | recvWait i =>
    refine hgo .chanDone rfl hpc ?_
    simp only [exec, recvWait, chanCause_isSome hx, if_true]
    split
    · split <;> rfl
    · rfl
  | requestWait => exact hgo .chanDone rfl hpc (by
      simp [exec, requestWait, chanCause_isSome hx])
  | _ => exact hgo .go rfl hpc rfl

/-- `Close` while `OpenChannel` waits for a frame that the writer is sending. -/
theorem closed_releases_sending : ∃ tr m,
    (Machine.lts narrow.config).Run (fun _ _ => True) tr m ∧ m.sess.connClosed = true ∧
    (m.pc (.call 0)).awaits = some 0 ∧ (m.pc .writer).taken = some 0 ∧
    ∀ t, Released narrow.config m t := by
  obtain ⟨tr, m, h, hc, hcall, hwriter⟩ := Lts.exists_run_of_replay (L := Machine.lts narrow.config)
    (C := fun _ _ => True)
    (P := fun _ m => m.sess.connClosed = true ∧ (m.pc (.call 0)).awaits = some 0 ∧
      (m.pc .writer).taken = some 0)
    (Tid.env.does [.activate] ++ Tid.receiver.does [.go] ++ Tid.dispatcher.does [.go] ++
      Tid.writer.does [.go] ++
      (Tid.call 0).does [.api (.openChannel "t" []), .go, .go, .go, .go, .go, .go] ++
      Tid.writer.does [.go, .outbound, .go, .go] ++
      (Tid.call 1).does [.api .sessionClose, .go, .go, .pick 0, .go, .go, .go] ++
      Tid.finalizer.does [.go]) (by decide +kernel)
  exact ⟨tr, m, h, hc, hcall, hwriter, closed_releases h hc⟩

end Released

end Mygosh.Mux

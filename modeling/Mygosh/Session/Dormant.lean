/-
  File:      Mygosh/Session/Dormant.lean
  Subject:   A session that has not been activated: it reads nothing, writes nothing and calls no
             handler, whatever is called on it and even if it is shut down.
-/
import Mygosh.Session.Step

namespace Mygosh.Mux

open Session

/-- A cause for which `shutdown` sends no disconnect. -/
def Silent (cause : Option Err) : Prop := (cause.getD .sessionClosed).isProtocol = false

/-- Where a goroutine may be before the activation: not started, done, or inside a `shutdown` that
    has nothing to tell the peer. -/
def Asleep : Pc → Prop
  | .start | .exited | .done _ | .shutGlobals _ | .shutQueues _ => True
  | .shutdown cause _ => Silent cause
  | .shutCancel d | .shutChannels d => d.chans = []
  | _ => False

/-- The state of a session before its activation. -/
structure Unactivated (s : Session) : Prop where
  activated : s.activated = false
  channels : s.channels = []
  idle : ∀ i, (s.chan i).handed = false ∧ (s.chan i).workerStarted = false ∧
    (s.chan i).timerArmed = false
  late : ∀ cause ∈ s.late, Silent cause

/-- A session before its activation, with its goroutines. -/
structure Dormant (m : Machine) : Prop where
  sess : Unactivated m.sess
  asleep : ∀ t, Asleep (m.pc t)

/-- A section that lets nothing be seen and leaves the session as it was before the activation. -/
structure Sleeps (o : Out) : Prop where
  sess : Unactivated o.sess
  asleep : Asleep o.pc
  events : o.events = []

theorem Dormant.start : Dormant Machine.start :=
  ⟨⟨rfl, rfl, fun _ => ⟨rfl, rfl, rfl⟩, fun _ h => nomatch h⟩, fun _ => trivial⟩

section

variable {cfg : Config} {s : Session} {t : Tid} {c : Choice} {o : Out}

/-- What follows a `shutdown`. -/
theorem downPc_asleep (k : AfterShutdown) : Asleep (downPc k) := by cases k <;> trivial

theorem Unactivated.ensureActive (hs : Unactivated s) : s.ensureActive = some .sessionNotActive :=
  if_pos hs.activated

/-- A call on a session that is not active returns at once, or shuts it down. -/
theorem call_sleeps {a : Api} (hs : Unactivated s) (ho : s.call cfg a = some o) : Sleeps o := by
  cases a with
  | openChannel typ p | sendGlobalRequest typ p =>
    simp only [Session.call, hs.ensureActive] at ho
    split at ho <;> cases ho <;> exact ⟨hs, trivial, rfl⟩
  | send i | recv i | sendRequest i | closeWrite i | close i =>
    simp [Session.call, (hs.idle i).1] at ho
  | sessionClose =>
    cases ho
    exact ⟨hs, rfl, rfl⟩

/-- The first section of a goroutine, other than the activation. -/
theorem begin_sleeps (hs : Unactivated s) (hc : c ≠ .activate) (ho : s.begin cfg t c = some o) :
    Sleeps o := by
  cases t with
  | receiver | dispatcher | writer =>
    simp only [Session.begin, Session.waitForActivation] at ho
    split at ho
    · simp [hs.activated] at ho
    · split_ifs at ho
      cases ho
      exact ⟨hs, trivial, rfl⟩
    · cases ho
  | worker i =>
    simp only [Session.begin, Session.workStart] at ho
    split at ho <;> simp [hs.activated, (hs.idle i).2.1] at ho
  | timer i =>
    simp only [Session.begin, Session.timeout] at ho
    split at ho <;> simp [(hs.idle i).2.2] at ho
  | call n =>
    cases c with
    | api a => exact call_sleeps hs ho
    | _ => cases ho
  | late n =>
    cases c with
    | go =>
      obtain ⟨cause, hcause, rfl⟩ := Option.map_eq_some_iff.mp ho
      exact ⟨hs, hs.late cause (List.mem_of_getElem? hcause), rfl⟩
    | _ => cases ho
  | finalizer =>
    cases c with
    | go =>
      simp only [Session.begin] at ho
      split_ifs at ho
      cases ho
      exact ⟨⟨hs.activated, hs.channels, hs.idle, hs.late⟩, trivial, rfl⟩
    | _ => cases ho
  | env =>
    simp only [Session.begin, Session.environment] at ho
    split at ho
    · exact absurd rfl hc
    · split_ifs at ho
      cases ho
      refine ⟨⟨hs.activated, hs.channels, hs.idle, fun cause h => ?_⟩, trivial, rfl⟩
      rcases List.mem_append.mp h with h | h
      · exact hs.late cause h
      · cases List.mem_singleton.mp h
        rfl
    · cases ho

/-- A section of `shutdown`. -/
theorem exec_sleeps {pc : Pc} (hs : Unactivated s) (hp : Asleep pc) (hc : c ≠ .activate)
    (ho : s.exec cfg t c pc = some o) : Sleeps o := by
  cases pc with
  | start => exact begin_sleeps hs hc ho
  | exited | done => cases ho
  | shutdown cause k =>
    simp only [Session.exec] at ho
    split_ifs at ho
    simp only [Session.shutdown, show (cause.getD .sessionClosed).isProtocol = false from hp,
      Bool.false_eq_true, if_false] at ho
    split_ifs at ho
    · cases ho
      exact ⟨⟨hs.activated, rfl, hs.idle, hs.late⟩, hs.channels, rfl⟩
    · cases ho
      exact ⟨hs, downPc_asleep k, rfl⟩
  | shutCancel d =>
    cases c <;> cases ho
    exact ⟨⟨hs.activated, hs.channels, hs.idle, hs.late⟩, hp, rfl⟩
  | shutChannels d =>
    simp only [Session.exec, Session.shutChannels] at ho
    split at ho
    · split_ifs at ho with hi
      rw [show d.chans = [] from hp] at hi
      cases hi
    · split_ifs at ho
      cases ho
      exact ⟨hs, trivial, rfl⟩
    · cases ho
  | shutGlobals d =>
    cases c <;> cases ho
    exact ⟨⟨hs.activated, hs.channels, hs.idle, hs.late⟩, trivial, rfl⟩
  | shutQueues d =>
    cases c <;> cases ho
    exact ⟨⟨hs.activated, hs.channels, hs.idle, hs.late⟩, downPc_asleep d.k, rfl⟩
  | _ => exact hp.elim

/-- **One step** other than the activation: the session stays dormant and nothing is seen. -/
theorem Dormant.step {m m' : Machine} {a : Act} {evs : List Event} (hm : Dormant m)
    (hc : a.choice ≠ .activate) (hs : m.step cfg a = some (m', evs)) : Dormant m' ∧ evs = [] := by
  unfold Machine.step at hs
  split at hs
  · cases hs
  · rename_i o ho
    obtain ⟨hsess, hpc, hevs⟩ := exec_sleeps hm.sess (hm.asleep a.tid) hc ho
    cases hs
    refine ⟨⟨hsess, fun t => ?_⟩, hevs⟩
    by_cases ht : t = a.tid
    · subst ht
      simpa only [Function.update_self] using hpc
    · simpa only [Function.update_of_ne ht] using hm.asleep t

end

end Mygosh.Mux

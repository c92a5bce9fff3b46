/-
  File:      Mygosh/Session/Reads.lean
  Subject:   What the receiver reads, and what has become of it.

  The receiver reads a frame, handles it, and reads the next; when a handler fails it stops for
  good. So of any kind of frame, those handled are a prefix of those read, and all but the one in
  hand while the receiver runs.

  * `Pc.frame` -- the frame in hand; `ReadStep`, `read_step` -- every step, as far as reading is
    concerned;
  * `Handles` -- a kind of frame and the event that marks it as handled; `ledger_run`.
-/
import Mygosh.Session.Pairing

namespace Mygosh.Mux

open Session

/-! ## 1. Reading -/

/-- The frames read from the connection. -/
def received (tr : List Event) : List Envelope :=
  tr.filterMap fun
    | .received env => some env
    | _ => none

@[simp] theorem received_append (tr tr' : List Event) :
    received (tr ++ tr') = received tr ++ received tr' := List.filterMap_append

/-- The frame the receiver has read and not handled yet. -/
def Pc.frame : Pc → Option Envelope
  | .inOpen m => some (.channelOpen m)
  | .inOpenResult i res => some (.channelOpenResult i res)
  | .inData i data => some (.channelData i data)
  | .inAdjust i n => some (.channelWindowAdjust i n)
  | .inEof i => some (.channelEof i)
  | .inClose i => some (.channelClose i)
  | .inRequest _ m => some (.channelRequest m)
  | .inResult i q res => some (.channelResult i q res)
  | .inGlobal m => some (.globalRequest m)
  | .inGlobalResult q res => some (.globalResult q res)
  | _ => none

/-- The goroutine has run and has no loop to go back to. -/
def Pc.stopped (pc : Pc) : Prop := pc ≠ .start ∧ pc.role = none

/-- The ways a step can concern reading. -/
inductive ReadStep (s : Session) : Pc → Out → Prop where
  | read {o env} (hv : env.valid = true) (hc : s.connClosed = false) (he : o.events = [.received env])
      (hp : o.pc.frame = some env) : ReadStep s .recv o
  | refused {o env e} (hv : env.valid = true) (hc : s.connClosed = false)
      (he : o.events = [.received env, .routeFailed e]) (hp : o.pc.stopped) : ReadStep s .recv o
  | handled {pc o env} (hf : pc.frame = some env) (he : received o.events = [])
      (hp : o.pc.frame = none) : ReadStep s pc o
  | other {pc o} (hf : pc.frame = none) (he : received o.events = []) (hp : o.pc.frame = none) :
      ReadStep s pc o

section Classify

variable {cfg : Config} {s : Session} {t : Tid} {pc : Pc} {o : Out}

theorem Resumes.frame (h : Resumes pc) : pc.frame = none := by cases h <;> rfl

theorem Resumes.ne_start (h : Resumes pc) : pc ≠ .start := by cases h <;> nofun

theorem contEvents_received (e : Option Err) (k : Cont) : received (contEvents e k) = [] := by
  cases k <;> cases e <;> rfl

theorem read_step (h : Effect cfg s t pc o) : ReadStep s pc o := by
  cases h with
  | move h =>
    cases h with
    | start h => cases h <;> exact .other rfl rfl rfl
    | shutdownOver => exact .other rfl rfl (downPc_resumes _).frame
    | requestGone => exact .other rfl rfl (droppedPc_resumes ..).frame
    | inGlobal => exact .handled rfl rfl rfl
    | _ => exact .other rfl rfl rfl
  | found hv hc h =>
    cases h with
    | channel ha => cases ha <;> exact .read hv hc rfl rfl
    | _ => exact .read hv hc rfl rfl
  | refused hv hc => exact .refused hv hc rfl ⟨nofun, rfl⟩
  | routeFails h => cases h <;> first | exact .handled rfl rfl rfl | exact .other rfl rfl rfl
  | send h =>
    cases h with
    | reserved | pushSync => exact .other rfl rfl rfl
    | pushAsync => exact .other rfl (contEvents_received none _) (contPc_resumes ..).frame
    | _ => exact .other rfl (contEvents_received ..) (contPc_resumes ..).frame
  | down h =>
    cases h with
    | queues => exact .other rfl rfl (downPc_resumes _).frame
    | _ => exact .other rfl rfl rfl
  | writer h => cases h <;> exact .other rfl rfl rfl
  | inOpen h => cases h <;> first | exact .handled rfl rfl rfl | exact .other rfl rfl rfl
  | inFrame h => cases h <;> first | exact .handled rfl rfl rfl | exact .other rfl rfl rfl
  | inRequest h => cases h <;> first | exact .handled rfl rfl rfl | exact .other rfl rfl rfl
  | close h =>
    cases h with
    | requestReleased => exact .other rfl rfl (droppedPc_resumes ..).frame
    | _ => exact .other rfl rfl rfl
  | _ h => cases h <;> exact .other rfl rfl rfl

theorem start_of_step (h : Effect cfg s t pc o) (hp : o.pc = .start) : pc = .start := by
  cases h with
  | move h =>
    cases h with
    | start => rfl
    | shutdownOver => exact absurd hp (downPc_resumes _).ne_start
    | requestGone => exact absurd hp (droppedPc_resumes ..).ne_start
    | _ => cases hp
  | found _ _ h =>
    cases h with
    | channel ha => cases ha <;> cases hp
    | _ => cases hp
  | refused | routeFails => cases hp
  | send h =>
    cases h with
    | reserved | pushSync => cases hp
    | _ => exact absurd hp (contPc_resumes ..).ne_start
  | down h =>
    cases h with
    | queues => exact absurd hp (downPc_resumes _).ne_start
    | activate | parent => rfl
    | _ => cases hp
  | close h =>
    cases h with
    | requestReleased => exact absurd hp (droppedPc_resumes ..).ne_start
    | _ => cases hp
  | _ h => cases h <;> cases hp

/-- A goroutine that has stopped stays so. -/
theorem stopped_of_step (h : Effect cfg s t pc o) (hs : pc.stopped) : o.pc.stopped := by
  refine ⟨fun hp => hs.1 (start_of_step h hp), ?_⟩
  cases hr : o.pc.role with
  | none => rfl
  | some r => exact absurd (effect_role h hs.1 hr) (by rw [hs.2]; nofun)

end Classify

/-! ## 2. The ledger -/

section Ledger

variable {β : Type} (f : Envelope → Option β) (g : Event → Option β)

/-- The frame in hand, if it is one that `f` selects. -/
def Pc.picked (pc : Pc) : List β := (pc.frame.bind f).toList

/-- A step marks a frame that `f` selects by the event that `g` reads, or stops the receiver. -/
inductive Handles : Pc → Out → Prop where
  | marks {pc o env b} (hf : pc.frame = some env) (hb : f env = some b)
      (he : o.events.filterMap g = [b]) : Handles pc o
  | skips {pc o} (he : o.events.filterMap g = [])
      (hs : ∀ env b, pc.frame = some env → f env = some b → o.pc.stopped) : Handles pc o

/-- What has been marked and what is in hand, against what has been read. -/
structure Ledger (tr : List Event) (pc : Pc) : Prop where
  pre : tr.filterMap g ++ pc.picked f <+: (received tr).filterMap f
  all : ¬ pc.stopped → tr.filterMap g ++ pc.picked f = (received tr).filterMap f

variable {f g} {cfg : Config} {tr : List Event} {s : Session} {t : Tid} {pc : Pc} {o : Out}

theorem picked_none (h : pc.frame = none) : pc.picked f = [] := by rw [Pc.picked, h]; rfl

theorem picked_some {env : Envelope} (h : pc.frame = some env) : pc.picked f = (f env).toList := by
  rw [Pc.picked, h]
  rfl

theorem not_stopped_of_frame {env : Envelope} (h : pc.frame = some env) : ¬ pc.stopped := by
  rintro ⟨-, hr⟩
  cases pc <;> first | (cases hr; done) | cases h

theorem frame_of_stopped (h : pc.stopped) : pc.frame = none := by
  cases hf : pc.frame with
  | none => rfl
  | some env => exact absurd h (not_stopped_of_frame hf)

theorem filterMap_toList (env : Envelope) : [env].filterMap f = (f env).toList := by
  cases h : f env <;> simp [h]

/-- A step of the receiver. -/
theorem Ledger.step (hL : Ledger f g tr pc) (hH : Handles f g pc o) (h : Effect cfg s t pc o) :
    Ledger f g (tr ++ o.events) o.pc := by
  have hmarks : pc.frame = none → o.events.filterMap g = [] := by
    intro hf
    cases hH with
    | marks hf' => rw [hf] at hf'; cases hf'
    | skips he => exact he
  cases read_step h with
  | @read _ env _ _ he hp =>
    -- the receiver was between frames, so all it had read was marked
    have hall := hL.all (fun hs => by cases hs.2)
    rw [picked_none rfl, List.append_nil] at hall
    have heq : (tr ++ o.events).filterMap g ++ o.pc.picked f =
        (received (tr ++ o.events)).filterMap f := by
      rw [List.filterMap_append, hmarks rfl, List.append_nil, hall, picked_some hp,
        received_append, List.filterMap_append, he]
      exact congrArg _ (filterMap_toList env).symm
    exact ⟨heq ▸ List.prefix_rfl, fun _ => heq⟩
  | @refused _ env e _ _ he hp =>
    have hall := hL.all (fun hs => by cases hs.2)
    rw [picked_none rfl, List.append_nil] at hall
    refine ⟨?_, fun hs => absurd hp hs⟩
    rw [List.filterMap_append, hmarks rfl, List.append_nil, hall,
      picked_none (frame_of_stopped hp), List.append_nil, received_append, List.filterMap_append]
    exact List.prefix_append ..
  | handled hf he hp =>
    have hall := hL.all (not_stopped_of_frame hf)
    have hrec : received (tr ++ o.events) = received tr := by
      rw [received_append, he, List.append_nil]
    rw [picked_some hf] at hall
    cases hH with
    | marks hf' hb hm =>
      rw [hf] at hf'
      cases hf'
      have heq : (tr ++ o.events).filterMap g ++ o.pc.picked f =
          (received (tr ++ o.events)).filterMap f := by
        rw [hrec, List.filterMap_append, hm, picked_none hp, List.append_nil, ← hall, hb]
        rfl
      exact ⟨heq ▸ List.prefix_rfl, fun _ => heq⟩
    | skips hm hs =>
      have hpre : (tr ++ o.events).filterMap g ++ o.pc.picked f = tr.filterMap g := by
        rw [List.filterMap_append, hm, picked_none hp, List.append_nil, List.append_nil]
      refine ⟨?_, fun hrun => ?_⟩
      · rw [hpre, hrec, ← hall]
        exact List.prefix_append ..
      · rw [hpre, hrec, ← hall]
        cases hb : f _ with
        | none => exact (List.append_nil _).symm
        | some b => exact absurd (hs _ _ hf hb) hrun
  | other hf he hp =>
    have hsame : (tr ++ o.events).filterMap g ++ o.pc.picked f = tr.filterMap g ++ pc.picked f := by
      rw [List.filterMap_append, hmarks hf, List.append_nil, picked_none hp, picked_none hf]
    have hrec : received (tr ++ o.events) = received tr := by
      rw [received_append, he, List.append_nil]
    exact ⟨by rw [hsame, hrec]; exact hL.pre,
      fun hrun => by rw [hsame, hrec]; exact hL.all fun hs => hrun (stopped_of_step h hs)⟩

/-- A step of another goroutine leaves the ledger alone. -/
theorem Ledger.other {pc' : Pc} (hL : Ledger f g tr pc') (hH : Handles f g pc o)
    (h : Effect cfg s t pc o) (hr : pc.role ≠ some .receiver) : Ledger f g (tr ++ o.events) pc' := by
  have hf : pc.frame = none := by
    cases hf : pc.frame with
    | none => rfl
    | some env =>
      refine absurd ?_ hr
      cases pc <;> first | rfl | cases hf
  have hm : o.events.filterMap g = [] := by
    cases hH with
    | marks hf' => rw [hf] at hf'; cases hf'
    | skips he => exact he
  have hrec : received o.events = [] := by
    cases read_step h with
    | read | refused => exact absurd rfl hr
    | handled _ he | other _ he => exact he
  have hmarks : (tr ++ o.events).filterMap g = tr.filterMap g := by
    rw [List.filterMap_append, hm, List.append_nil]
  have hread : received (tr ++ o.events) = received tr := by
    rw [received_append, hrec, List.append_nil]
  exact ⟨by rw [hmarks, hread]; exact hL.pre, by rw [hmarks, hread]; exact hL.all⟩

/-- **The ledger along every run.** -/
theorem ledger_run {C : Machine → Act → Prop} {m : Machine}
    (hH : ∀ {s t pc o}, Effect cfg s t pc o → Handles f g pc o)
    (h : (Machine.lts cfg).Run C tr m) : Ledger f g tr (m.pc .receiver) := by
  refine Machine.run_invariant (I := fun tr m => Ledger f g tr (m.pc .receiver)) h
    ⟨List.prefix_rfl, fun _ => rfl⟩ fun {tr m a o} hr hL _ he => ?_
  change Ledger f g _ (Function.update m.pc a.tid o.pc .receiver)
  by_cases ht : Tid.receiver = a.tid
  · rw [← ht, Function.update_self]
    rw [← ht] at he
    exact hL.step (hH he) he
  · rw [Function.update_of_ne ht]
    refine hL.other (hH he) he fun hrole => ht ?_
    -- the receiver's counters belong to the receiver
    exact ((outbox_run hr).is_receiver hrole).symm

end Ledger

end Mygosh.Mux

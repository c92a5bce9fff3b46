/-
  File:      Mygosh/Session/Threads.lean
  Subject:   Which goroutine can be at which counter, and which outbound write it has in hand.

  * `Pc.role` -- the goroutines a counter belongs to; `effect_role`: a goroutine keeps its role.
  * `Pc.hand`, `Pc.awaits` -- the write a goroutine is about to enqueue, or waits for.
  * `update_proj` -- a map changed at one key keeps every projection the change keeps.
-/
import Mygosh.Session.Inversion

namespace Mygosh.Mux

open Session

/-! ## 1. Maps changed at one key -/

theorem update_proj {ι α β : Type} [DecidableEq ι] {g : ι → α} {i j : ι} {c : α} (f : α → β)
    (h : f c = f (g i)) : f (Function.update g i c j) = f (g j) := by
  by_cases hj : j = i
  · subst hj
    rw [Function.update_self, h]
  · rw [Function.update_of_ne hj]

/-! ## 2. Roles -/

inductive Role where
  | receiver
  | dispatcher
  | writer
  | worker
  | timer
  | call
  | other
  deriving DecidableEq, Repr

def Tid.role : Tid → Role
  | .receiver => .receiver
  | .dispatcher => .dispatcher
  | .writer => .writer
  | .worker _ => .worker
  | .timer _ => .timer
  | .call _ => .call
  | .late _ | .finalizer | .env => .other

/-- The role of the goroutine that goes on in this way after a send; every goroutine can be the
    one that runs `shutdown`. -/
def Cont.role : Cont → Option Role
  | .openChannel .. | .globalRequest .. | .channelData .. | .windowAdjust .. => some .call
  | .channelRequest .. | .channelEof .. | .channelClose .. => some .call
  | .closeAck _ | .openRejectAsync | .channelReject .. | .globalReject _ => some .receiver
  | .openAccept _ | .openReject | .globalResult _ => some .dispatcher
  | .channelResult _ => some .worker
  | .disconnect _ => none

def Pc.role : Pc → Option Role
  | .start | .exited | .done _ => none
  | .shutdown .. | .shutCancel _ | .shutChannels _ | .shutGlobals _ | .shutQueues _ => none
  | .ensure _ _ k | .reserve _ _ k | .push _ _ k | .await _ _ k => k.role
  | .recv | .inOpen _ | .inOpenAdd .. | .inOpenReserve .. | .inOpenQueue .. => some .receiver
  | .inOpenRemove .. | .inOpenShut .. | .inOpenResult .. | .inActivate _ => some .receiver
  | .inStart _ | .inRejectRemove .. | .inRejectShut .. | .inData .. => some .receiver
  | .inAdjust .. | .inEof _ | .inClose _ | .inCloseRemove _ | .inRequest .. => some .receiver
  | .inRequestFinish .. | .inResult .. | .inResultRelease .. | .inGlobal _ => some .receiver
  | .inGlobalReserve _ | .inGlobalQueue _ | .inGlobalFinish .. => some .receiver
  | .inGlobalResult .. => some .receiver
  | .disp | .dispRelease _ | .admitLookup _ | .admitDecide .. | .admitAbort .. => some .dispatcher
  | .admitAbortShut .. | .admitReject .. | .admitRejectShut .. => some .dispatcher
  | .admitAccept .. | .admitActivate .. | .handleGlobal _ | .globalFinish .. => some .dispatcher
  | .select .. | .selectBoth .. | .popped .. | .claim .. | .skip .. => some .writer
  | .sending .. | .written .. | .report .. => some .writer
  | .work | .workRelease _ | .workRequest _ | .workRespond .. => some .worker
  | .workFinish .. | .workClose | .workClosed _ => some .worker
  | .timeoutRemove => some .timer
  | .openReserve .. | .openAdd .. | .openSend .. | .openRemove .. | .openShut .. => some .call
  | .openWait .. | .abandon .. | .globalNew .. | .globalWait .. | .globalDrop .. => some .call
  | .sendLoop .. | .sendWait .. | .sendRefund .. | .recvLoop _ | .recvWait .. => some .call
  | .recvCancel _ | .requestLock .. | .requestWait .. | .requestDrop .. => some .call
  | .requestRelease .. | .requestError .. | .closeWrite _ | .closeWriteUndo .. => some .call
  | .close .. | .closeRemove .. | .closeShut .. | .closeArm .. => some .call

/-- Where a goroutine can be after a send, after `shutdown`, or after a request that was dropped. -/
inductive Resumes : Pc → Prop where
  | done {r} : Resumes (.done r)
  | exited : Resumes .exited
  | shutdown {e k} : Resumes (.shutdown e k)
  | shutCancel {d} : Resumes (.shutCancel d)
  | recv : Resumes .recv
  | inCloseRemove {i} : Resumes (.inCloseRemove i)
  | inRequestFinish {i q e} : Resumes (.inRequestFinish i q e)
  | inGlobalFinish {q e} : Resumes (.inGlobalFinish q e)
  | disp : Resumes .disp
  | admitAbort {i e} : Resumes (.admitAbort i e)
  | globalFinish {q e} : Resumes (.globalFinish q e)
  | workFinish {q e} : Resumes (.workFinish q e)
  | openRemove {i typ p e} : Resumes (.openRemove i typ p e)
  | openWait {i typ p b} : Resumes (.openWait i typ p b)
  | globalDrop {q typ p e} : Resumes (.globalDrop q typ p e)
  | globalWait {q typ p} : Resumes (.globalWait q typ p)
  | sendRefund {i frame w e} : Resumes (.sendRefund i frame w e)
  | requestDrop {i q typ p e} : Resumes (.requestDrop i q typ p e)
  | requestWait {i q typ p} : Resumes (.requestWait i q typ p)
  | requestError {i q typ p} : Resumes (.requestError i q typ p)
  | closeWriteUndo {i st w e} : Resumes (.closeWriteUndo i st w e)
  | closeArm {i k} : Resumes (.closeArm i k)

theorem contPc_resumes (w : Nat) (e : Option Err) (k : Cont) : Resumes (contPc w e k) := by
  cases k <;> cases e <;> first
    | constructor
    | (simp only [contPc]; split <;> constructor)

theorem downPc_resumes (k : AfterShutdown) : Resumes (downPc k) := by cases k <;> constructor

theorem droppedPc_resumes (i q : Nat) (typ : String) (p : Bytes) (e : Option Err) :
    Resumes (droppedPc i q typ p e) := by cases e <;> constructor

/-- The goroutine is one that can be at this counter. -/
def Tid.fits (t : Tid) (pc : Pc) : Prop := ∀ r, pc.role = some r → t.role = r

theorem downPc_role (k : AfterShutdown) : (downPc k).role = none := by
  cases k <;> rfl

theorem droppedPc_role {i q : Nat} {typ : String} {p : Bytes} {e : Option Err} {r : Role}
    (h : (droppedPc i q typ p e).role = some r) : r = .call := by
  cases e with
  | none => exact (Option.some.inj h).symm
  | some e => cases h

theorem contPc_role {w : Nat} {e : Option Err} {k : Cont} {r : Role}
    (h : (contPc w e k).role = some r) : k.role = some r := by
  cases k <;> cases e <;> first
    | exact h
    | cases h
    | (simp only [contPc] at h; split at h <;> first | exact h | cases h)

section Role

variable {cfg : Config} {s : Session} {t : Tid} {pc pc' : Pc} {o : Out}

theorem starts_fits (h : Starts cfg s t pc) : t.fits pc := by
  intro r hr
  cases h <;> cases hr <;> rfl

theorem moves_role {r : Role} (h : Moves cfg s t pc pc') (hne : pc ≠ .start)
    (hr : pc'.role = some r) : pc.role = some r := by
  cases h with
  | start => exact absurd rfl hne
  | shutdownOver => rw [downPc_role] at hr; cases hr
  | requestGone => rw [droppedPc_role hr]; rfl
  | _ => first | exact hr | cases hr

/-- **A goroutine keeps its role until it has none.** -/
theorem effect_role {r : Role} (h : Effect cfg s t pc o) (hne : pc ≠ .start)
    (hr : o.pc.role = some r) : pc.role = some r := by
  cases h with
  | move h => exact moves_role h hne hr
  | found _ _ h =>
    cases h with
    | channel ha => cases ha <;> exact hr
    | _ => exact hr
  | refused => cases hr
  | routeFails => cases hr
  | send h => cases h <;> first | exact contPc_role hr | exact hr
  | down h =>
    cases h with
    | queues => rw [downPc_role] at hr; cases hr
    | _ => first | exact absurd rfl hne | cases hr
  | work h => cases h <;> first | exact hr | exact absurd rfl hne | cases hr
  | «open» h => cases h <;> first | exact hr | cases hr
  | data h => cases h <;> first | exact hr | cases hr
  | close h =>
    cases h with
    | requestReleased => rw [droppedPc_role hr]; rfl
    | _ => first | exact hr | cases hr
  | _ h => cases h <;> first | exact hr | cases hr

/-- A goroutine that starts does so at a counter that fits it. -/
theorem start_fits (h : Effect cfg s t .start o) : t.fits o.pc := by
  intro r hr
  cases h with
  | move h => cases h with | start h => exact starts_fits h r hr
  | routeFails h => cases h
  | send h => cases h
  | down h => cases h <;> cases hr
  | work h => cases h <;> cases hr <;> rfl
  | «open» h => cases h
  | data h => cases h
  | close h => cases h
  | _ h => cases h

theorem effect_fits (h : Effect cfg s t pc o) (ht : t.fits pc) : t.fits o.pc := by
  by_cases hpc : pc = .start
  · subst hpc
    exact start_fits h
  · exact fun r hr => ht r (effect_role h hpc hr)

end Role

/-! ## 3. Writes in hand -/

/-- The write a goroutine has decided and not yet put in a queue. -/
def Pc.hand : Pc → Option Nat
  | .ensure w _ _ | .reserve w _ _ | .push w _ _ => some w
  | .workRespond _ _ w => w
  | _ => none

/-- The write a goroutine waits for. -/
def Pc.awaits : Pc → Option Nat
  | .await w _ _ => some w
  | _ => none

/-- The write the writer has taken from a queue. -/
def Pc.taken : Pc → Option Nat
  | .popped w _ _ | .claim w _ _ | .skip w _ _ | .sending w _ _ => some w
  | .written w _ _ _ | .report w _ _ _ => some w
  | _ => none

theorem Resumes.idle {pc : Pc} (h : Resumes pc) :
    pc.hand = none ∧ pc.awaits = none ∧ pc.taken = none := by
  cases h <;> exact ⟨rfl, rfl, rfl⟩

end Mygosh.Mux

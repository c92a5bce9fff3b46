/-
  File:      Mygosh/Session/Outbox.lean
  Subject:   The life of an outbound write: what a step does to the writes and the two queues.

  * `written`, `pushed` -- the frames a trace shows on the wire and in the queues;
  * `WriteStep`, `write_step` -- every step of a session, as far as writes are concerned;
  * `Outbox` -- the invariant: where each write is, who holds it, and what its caller can have
    been told; `outbox_run`: it holds along every run.
-/
import Mygosh.Session.Threads

namespace Mygosh.Mux

open Function (update update_self update_of_ne)
open Session

/-! ## 1. Traces -/

/-- The frames written to the connection, with their numbers. -/
def written (tr : List Event) : List (Nat × Envelope) :=
  tr.filterMap fun
    | .wrote w env => some (w, env)
    | _ => none

/-- The writes put in a queue. -/
def pushed (tr : List Event) : List Nat :=
  tr.filterMap fun
    | .enqueued w => some w
    | _ => none

@[simp] theorem written_append (tr tr' : List Event) :
    written (tr ++ tr') = written tr ++ written tr' := List.filterMap_append

/-- Nothing is written and nothing enqueued. -/
def Quiet (evs : List Event) : Prop := written evs = [] ∧ pushed evs = []

theorem contEvents_quiet (e : Option Err) (k : Cont) : Quiet (contEvents e k) := by
  cases k <;> cases e <;> exact ⟨rfl, rfl⟩

/-! ## 2. What a step does to writes -/

/-- The write a goroutine takes something back for. -/
def Pc.undoes : Pc → Option Nat
  | .sendRefund _ _ w _ | .closeWriteUndo _ _ w _ => some w
  | _ => none

theorem contPc_undoes (w : Nat) (e : Option Err) (k : Cont) :
    (contPc w e k).undoes = none ∨ ((contPc w e k).undoes = some w ∧ e ≠ none) := by
  cases k <;> cases e <;> first
    | exact .inl rfl
    | exact .inr ⟨rfl, Option.some_ne_none _⟩
    | (simp only [contPc]; split <;> exact .inl rfl)

theorem downPc_undoes (k : AfterShutdown) : (downPc k).undoes = none := by cases k <;> rfl

theorem droppedPc_undoes (i q : Nat) (typ : String) (p : Bytes) (e : Option Err) :
    (droppedPc i q typ p e).undoes = none := by cases e <;> rfl

/-- The goroutine has nothing to do with a write. -/
structure Idle (pc : Pc) : Prop where
  hand : pc.hand = none
  awaits : pc.awaits = none
  taken : pc.taken = none

theorem Resumes.idle' {pc : Pc} (h : Resumes pc) : Idle pc := ⟨h.idle.1, h.idle.2.1, h.idle.2.2⟩

theorem idle_contPc (w : Nat) (e : Option Err) (k : Cont) : Idle (contPc w e k) :=
  (contPc_resumes w e k).idle'

theorem idle_downPc (k : AfterShutdown) : Idle (downPc k) := (downPc_resumes k).idle'

theorem idle_droppedPc (i q : Nat) (typ : String) (p : Bytes) (e : Option Err) :
    Idle (droppedPc i q typ p e) := (droppedPc_resumes i q typ p e).idle'

/-- Writes and queues are as before. -/
structure SameWrites (s s' : Session) : Prop where
  writes : s'.writes = s.writes
  next : s'.nextWrite = s.nextWrite
  control : s'.controlQueue = s.controlQueue
  outbound : s'.outboundQueue = s.outboundQueue

/-- Write `w` alone has changed, and the queues have not. -/
structure SetWrite (s s' : Session) (w : Nat) (x : OutboundWrite) : Prop where
  writes : s'.writes = update s.writes w x
  next : s'.nextWrite = s.nextWrite
  control : s'.controlQueue = s.controlQueue
  outbound : s'.outboundQueue = s.outboundQueue

/-- The ways a step can touch the writes. -/
inductive WriteStep (s : Session) (t : Tid) : Pc → Out → Prop where
  | same {pc o} (hs : SameWrites s o.sess) (hh : o.pc.hand = pc.hand)
      (ha : o.pc.awaits = pc.awaits) (ht : pc.taken = none) (ht' : o.pc.taken = none)
      (hu : o.pc.undoes = none) (he : Quiet o.events) : WriteStep s t pc o
  | add {pc o env after waits ch} (hi : Idle pc) (hn : o.sess.nextWrite = s.nextWrite + 1)
      (hw : o.sess.writes = update s.writes s.nextWrite
        ⟨env, after, waits, .writeQueued, none, ch, t, .hand, false⟩)
      (hc : o.sess.controlQueue = s.controlQueue) (ho : o.sess.outboundQueue = s.outboundQueue)
      (hh : o.pc.hand = some s.nextWrite) (ha : o.pc.awaits = none) (ht : o.pc.taken = none)
      (hu : o.pc.undoes = none) (he : Quiet o.events) : WriteStep s t pc o
  | drop {pc o w} (hh : pc.hand = some w)
      (hs : SetWrite s o.sess w { s.writes w with place := .dropped }) (hi : Idle o.pc)
      (hu : o.pc.undoes = none ∨ o.pc.undoes = some w) (he : Quiet o.events) : WriteStep s t pc o
  | fill {i m p w o r} (ht : t = .worker i) (hs : SetWrite s o.sess w { s.writes w with
        envelope := .channelResult p m.requestID
          (opResult r "channel-request-rejected" "channel request rejected") })
      (ho : ∃ x k, o.pc = .ensure w x k) (he : o.events = [.onRequest i m r]) :
      WriteStep s t (.workRespond m p (some w)) o
  | pushSync {w x k} : WriteStep s t (.push w (.sync x) k)
      ⟨s.enqueued w (.sync x), .await w x k, [.enqueued w]⟩
  | pushAsync {w k} : WriteStep s t (.push w .async k)
      ⟨s.enqueued w .async, contPc w none k, .enqueued w :: contEvents none k⟩
  | awaited {w x k e} (h : (s.writes w).result = some e) :
      WriteStep s t (.await w x k) ⟨s, contPc w e k, contEvents e k⟩
  | cancel {w x k e} (h : (s.writes w).state = .writeQueued) :
      WriteStep s t (.await w x k) ⟨s.cancelWrite w, contPc w (some e) k, contEvents (some e) k⟩
  | popControl {w rest b q pc} (h : s.controlQueue = w :: rest)
      (hp : pc = .select b q ∨ pc = .selectBoth b q) :
      WriteStep s t pc ⟨s.popControl w rest, .popped w b q, []⟩
  | popOutbound {w rest b q} (h : s.outboundQueue = w :: rest) :
      WriteStep s t (.selectBoth b q) ⟨s.popOutbound w rest, .popped w b q, []⟩
  | popped {w b q o} (hs : SameWrites s o.sess) (ho : o.pc = .claim w b q) (he : o.events = []) :
      WriteStep s t (.popped w b q) o
  | claimed {w b q} (h : (s.writes w).state = .writeQueued) : WriteStep s t (.claim w b q)
      ⟨s.setWrite w { s.writes w with state := .writeStarted }, .sending w b q, []⟩
  | claimFails {w b q} (h : (s.writes w).state ≠ .writeQueued) :
      WriteStep s t (.claim w b q) ⟨s, .skip w b q, []⟩
  | skip {w b q o} (hs : SetWrite s o.sess w { s.writes w with
        place := .dropped, result := putResult (s.writes w) (some .canceled) })
      (ho : o.pc = .select b q) (he : o.events = []) : WriteStep s t (.skip w b q) o
  | sent {w b q} (hv : (s.writes w).envelope.valid = true) : WriteStep s t (.sending w b q)
      ⟨s.setWrite w { s.writes w with place := .sent }, .written w none b q,
        [.wrote w (s.writes w).envelope]⟩
  | sendFails {w b q} : WriteStep s t (.sending w b q)
      ⟨s.dropWrite w, .written w (some .sendEnvelope) b q, []⟩
  | ran {w e b q o} (hs : SameWrites s o.sess) (ho : o.pc = .report w e b q)
      (he : o.events = []) : WriteStep s t (.written w e b q) o
  | reported {w e b q o} (hs : SetWrite s o.sess w { s.writes w with
        state := .writeDone, result := putResult (s.writes w) e }) (hi : Idle o.pc)
      (hu : o.pc.undoes = none) (he : o.events = []) : WriteStep s t (.report w e b q) o
  | undo {pc o w} (hu : pc.undoes = some w)
      (hs : SetWrite s o.sess w { s.writes w with undone := true }) (hi : Idle o.pc)
      (hu' : o.pc.undoes = none) (he : o.events = []) : WriteStep s t pc o

section Classify

variable {cfg : Config} {s : Session} {t : Tid} {pc pc' : Pc} {o : Out}

/-- A step between counters that hold no write, on a session whose writes are untouched. -/
theorem WriteStep.idle (hs : SameWrites s o.sess) (hp : Idle pc) (hp' : Idle o.pc)
    (hu : o.pc.undoes = none) (he : Quiet o.events) : WriteStep s t pc o :=
  .same hs (hp'.hand.trans hp.hand.symm) (hp'.awaits.trans hp.awaits.symm) hp.taken hp'.taken hu he

theorem SameWrites.refl : SameWrites s s := ⟨rfl, rfl, rfl, rfl⟩

theorem quiet_nil : Quiet [] := ⟨rfl, rfl⟩

theorem starts_idle (h : Starts cfg s t pc) : Idle pc ∧ pc.undoes = none := by
  cases h <;> exact ⟨⟨rfl, rfl, rfl⟩, rfl⟩

theorem moves_write (h : Moves cfg s t pc pc') : WriteStep s t pc ⟨s, pc', []⟩ := by
  cases h with
  | start h => exact .idle .refl ⟨rfl, rfl, rfl⟩ (starts_idle h).1 (starts_idle h).2 quiet_nil
  | ensured => exact .same .refl rfl rfl rfl rfl rfl quiet_nil
  | claimFails h => exact .claimFails h
  | written => exact .ran .refl rfl rfl
  | shutdownOver => exact .idle .refl ⟨rfl, rfl, rfl⟩ (idle_downPc _) (downPc_undoes _) quiet_nil
  | requestGone => exact .idle .refl ⟨rfl, rfl, rfl⟩ (idle_droppedPc ..) (droppedPc_undoes ..) quiet_nil
  | _ => exact .idle .refl ⟨rfl, rfl, rfl⟩ ⟨rfl, rfl, rfl⟩ rfl quiet_nil

theorem send_write (h : SendEffect cfg s pc o) : WriteStep s t pc o := by
  cases h with
  | ensureFails | reserveFails | pushClosed | pushFull =>
    exact .drop rfl ⟨rfl, rfl, rfl, rfl⟩ (idle_contPc ..)
      ((contPc_undoes ..).imp_right (·.1)) (contEvents_quiet ..)
  | reserved => exact .same ⟨rfl, rfl, rfl, rfl⟩ rfl rfl rfl rfl rfl quiet_nil
  | pushSync => exact .pushSync
  | pushAsync => exact .pushAsync
  | awaited h => exact .awaited h
  | canceled h => exact .cancel h

theorem down_write (h : DownEffect s t pc o) : WriteStep s t pc o := by
  cases h with
  | disconnect => exact .add ⟨rfl, rfl, rfl⟩ rfl rfl rfl rfl rfl rfl rfl rfl quiet_nil
  | queues => exact .idle ⟨rfl, rfl, rfl, rfl⟩ ⟨rfl, rfl, rfl⟩ (idle_downPc _) (downPc_undoes _) quiet_nil
  | _ => exact .idle ⟨rfl, rfl, rfl, rfl⟩ ⟨rfl, rfl, rfl⟩ ⟨rfl, rfl, rfl⟩ rfl quiet_nil

theorem writer_write (h : WriterEffect s pc o) : WriteStep s t pc o := by
  cases h with
  | takeControl h => exact .popControl h (.inl rfl)
  | takeControlLater h => exact .popControl h (.inr rfl)
  | takeOutbound h => exact .popOutbound h
  | popped => exact .popped ⟨rfl, rfl, rfl, rfl⟩ rfl rfl
  | claimed h => exact .claimed h
  | skip | skipRequest | skipGlobal => exact .skip ⟨rfl, rfl, rfl, rfl⟩ rfl rfl
  | sent hv => exact .sent hv
  | sendFails => exact .sendFails
  | startWorker | finishRequest | finishGlobal => exact .ran ⟨rfl, rfl, rfl, rfl⟩ rfl rfl
  | reported | reportFails => exact .reported ⟨rfl, rfl, rfl, rfl⟩ ⟨rfl, rfl, rfl⟩ rfl rfl

theorem work_write (h : WorkEffect cfg s t pc o) : WriteStep s t pc o := by
  cases h with
  | ticket => exact .add ⟨rfl, rfl, rfl⟩ rfl rfl rfl rfl rfl rfl rfl rfl quiet_nil
  | respondFails => exact .drop rfl ⟨rfl, rfl, rfl, rfl⟩ ⟨rfl, rfl, rfl⟩ (.inl rfl) ⟨rfl, rfl⟩
  | respond => exact .fill rfl ⟨rfl, rfl, rfl, rfl⟩ ⟨_, _, rfl⟩ rfl
  | _ => exact .idle ⟨rfl, rfl, rfl, rfl⟩ ⟨rfl, rfl, rfl⟩ ⟨rfl, rfl, rfl⟩ rfl ⟨rfl, rfl⟩

theorem close_write (h : CloseEffect cfg s t pc o) : WriteStep s t pc o := by
  cases h with
  | requestSend | requestAsk | closeWrite | close =>
    exact .add ⟨rfl, rfl, rfl⟩ rfl rfl rfl rfl rfl rfl rfl rfl ⟨rfl, rfl⟩
  | undone => exact .undo rfl ⟨rfl, rfl, rfl, rfl⟩ ⟨rfl, rfl, rfl⟩ rfl rfl
  | requestReleased =>
    exact .idle ⟨rfl, rfl, rfl, rfl⟩ ⟨rfl, rfl, rfl⟩ (idle_droppedPc ..) (droppedPc_undoes ..) quiet_nil
  | _ => exact .idle ⟨rfl, rfl, rfl, rfl⟩ ⟨rfl, rfl, rfl⟩ ⟨rfl, rfl, rfl⟩ rfl ⟨rfl, rfl⟩

/-- **Every step of a session, as far as writes are concerned.** -/
theorem write_step (h : Effect cfg s t pc o) : WriteStep s t pc o := by
  cases h with
  | move h => exact moves_write h
  | found _ _ h =>
    cases h with
    | channel ha => cases ha <;> exact .idle .refl ⟨rfl, rfl, rfl⟩ ⟨rfl, rfl, rfl⟩ rfl ⟨rfl, rfl⟩
    | _ => exact .idle .refl ⟨rfl, rfl, rfl⟩ ⟨rfl, rfl, rfl⟩ rfl ⟨rfl, rfl⟩
  | refused => exact .idle .refl ⟨rfl, rfl, rfl⟩ ⟨rfl, rfl, rfl⟩ rfl ⟨rfl, rfl⟩
  | routeFails h =>
    refine .idle .refl ?_ ⟨rfl, rfl, rfl⟩ rfl ⟨rfl, rfl⟩
    cases h <;> exact ⟨rfl, rfl, rfl⟩
  | send h => exact send_write h
  | down h => exact down_write h
  | writer h => exact writer_write h
  | inOpen h =>
    cases h with
    | limit | shut => exact .add ⟨rfl, rfl, rfl⟩ rfl rfl rfl rfl rfl rfl rfl rfl ⟨rfl, rfl⟩
    | _ => exact .idle ⟨rfl, rfl, rfl, rfl⟩ ⟨rfl, rfl, rfl⟩ ⟨rfl, rfl, rfl⟩ rfl ⟨rfl, rfl⟩
  | inFrame h =>
    cases h with
    | close => exact .add ⟨rfl, rfl, rfl⟩ rfl rfl rfl rfl rfl rfl rfl rfl ⟨rfl, rfl⟩
    | _ => exact .idle ⟨rfl, rfl, rfl, rfl⟩ ⟨rfl, rfl, rfl⟩ ⟨rfl, rfl, rfl⟩ rfl ⟨rfl, rfl⟩
  | inRequest h =>
    cases h with
    | requestRejected | globalNoRoom | globalFull =>
      exact .add ⟨rfl, rfl, rfl⟩ rfl rfl rfl rfl rfl rfl rfl rfl ⟨rfl, rfl⟩
    | _ => exact .idle ⟨rfl, rfl, rfl, rfl⟩ ⟨rfl, rfl, rfl⟩ ⟨rfl, rfl, rfl⟩ rfl ⟨rfl, rfl⟩
  | dispatch h =>
    cases h with
    | rejectShut | activated | globalReply =>
      exact .add ⟨rfl, rfl, rfl⟩ rfl rfl rfl rfl rfl rfl rfl rfl ⟨rfl, rfl⟩
    | _ => exact .idle ⟨rfl, rfl, rfl, rfl⟩ ⟨rfl, rfl, rfl⟩ ⟨rfl, rfl, rfl⟩ rfl ⟨rfl, rfl⟩
  | work h => exact work_write h
  | «open» h =>
    cases h with
    | send | globalSend | globalAsk =>
      exact .add ⟨rfl, rfl, rfl⟩ rfl rfl rfl rfl rfl rfl rfl rfl ⟨rfl, rfl⟩
    | _ => exact .idle ⟨rfl, rfl, rfl, rfl⟩ ⟨rfl, rfl, rfl⟩ ⟨rfl, rfl, rfl⟩ rfl ⟨rfl, rfl⟩
  | data h =>
    cases h with
    | send | recvAdjust => exact .add ⟨rfl, rfl, rfl⟩ rfl rfl rfl rfl rfl rfl rfl rfl ⟨rfl, rfl⟩
    | refund => exact .undo rfl ⟨rfl, rfl, rfl, rfl⟩ ⟨rfl, rfl, rfl⟩ rfl rfl
    | _ => exact .idle ⟨rfl, rfl, rfl, rfl⟩ ⟨rfl, rfl, rfl⟩ ⟨rfl, rfl, rfl⟩ rfl ⟨rfl, rfl⟩
  | close h => exact close_write h

end Classify

/-! ## 3. One write -/

/-- The write will never reach the connection. -/
def OutboundWrite.dead (x : OutboundWrite) : Prop := x.place = .dropped ∨ x.state = .writeCanceled

/-- What goroutine `t` can do to a write that exists. -/
inductive Change (t : Tid) (x : OutboundWrite) : OutboundWrite → Prop where
  | keep : Change t x x
  | drop (hc : x.caller = t) (hp : x.place = .hand) : Change t x { x with place := .dropped }
  | fill {env} (hc : x.caller = t) (hp : x.place = .hand) : Change t x { x with envelope := env }
  | push {p} (hc : x.caller = t) (hp : x.place = .hand) (h : p = .control ∨ p = .outbound) :
      Change t x { x with place := p }
  | cancel (hc : x.caller = t) (hp : x.place ≠ .hand) (hs : x.state = .writeQueued) :
      Change t x { x with state := .writeCanceled }
  | pop (ht : t = .writer) (hp : x.place = .control ∨ x.place = .outbound)
      (hs : x.state = .writeQueued ∨ x.state = .writeCanceled) :
      Change t x { x with place := .writer }
  | start (ht : t = .writer) (hp : x.place = .writer) (hs : x.state = .writeQueued) :
      Change t x { x with state := .writeStarted }
  | skip (ht : t = .writer) (hp : x.place = .writer) (hs : x.state = .writeCanceled) :
      Change t x { x with place := .dropped, result := putResult x (some .canceled) }
  | sent (ht : t = .writer) (hp : x.place = .writer) (hs : x.state = .writeStarted) :
      Change t x { x with place := .sent }
  | fails (ht : t = .writer) (hp : x.place = .writer) (hs : x.state = .writeStarted) :
      Change t x { x with place := .dropped }
  | report {e} (ht : t = .writer) (hs : x.state = .writeStarted)
      (hn : e = none → x.place = .sent) (he : e ≠ none → x.place = .dropped) :
      Change t x { x with state := .writeDone, result := putResult x e }
  | undo (hc : x.caller = t) (hd : x.dead) : Change t x { x with undone := true }

section Change

variable {t : Tid} {x x' : OutboundWrite}

/-- Who made a write, for which channel and with which callback, is settled. -/
theorem Change.fixed (h : Change t x x') :
    x'.caller = x.caller ∧ x'.chan = x.chan ∧ x'.after = x.after ∧ x'.waits = x.waits := by
  cases h <;> exact ⟨rfl, rfl, rfl, rfl⟩

/-- Nobody else touches a write in hand. -/
theorem Change.hand (h : Change t x x') (hp : x.place = .hand) (hc : x.caller ≠ t) : x' = x := by
  cases h with
  | keep => rfl
  | drop hc' | fill hc' | push hc' | cancel hc' => exact absurd hc' hc
  | undo hc' => exact absurd hc' hc
  | pop _ hp' => rcases hp' with hp' | hp' <;> rw [hp] at hp' <;> cases hp'
  | start _ hp' | skip _ hp' | sent _ hp' | fails _ hp' => rw [hp] at hp'; cases hp'
  | @report e _ _ hn he =>
    cases e with
    | none => exact absurd (hp.symm.trans (hn rfl)) nofun
    | some e => exact absurd (hp.symm.trans (he nofun)) nofun

/-- The frame of a write is settled once it has left the hand of its caller. -/
theorem Change.envelope (h : Change t x x') (hp : x.place ≠ .hand) : x'.envelope = x.envelope := by
  cases h with
  | fill _ hp' => exact absurd hp' hp
  | _ => rfl

theorem Change.not_hand (h : Change t x x') (hp : x.place ≠ .hand) : x'.place ≠ .hand := by
  cases h with
  | push _ hp' => exact absurd hp' hp
  | keep | fill | cancel | start | report | undo => exact hp
  | drop | pop | skip | sent | fails => nofun

theorem Change.dead (h : Change t x x') (hd : x.dead) : x'.dead := by
  cases h with
  | keep | fill | undo => exact hd
  | drop | skip | fails => exact .inl rfl
  | cancel => exact .inr rfl
  | push _ hp | sent _ hp =>
    rcases hd with hd | hd
    · rw [hp] at hd; cases hd
    · exact .inr hd
  | pop _ hp =>
    rcases hd with hd | hd
    · rw [hd] at hp; rcases hp with hp | hp <;> cases hp
    · exact .inr hd
  | start _ hp hs =>
    rcases hd with hd | hd
    · rw [hp] at hd; cases hd
    · rw [hs] at hd; cases hd
  | report _ hs =>
    rcases hd with hd | hd
    · exact .inl hd
    · rw [hs] at hd; cases hd

end Change

/-! ## 4. The invariant -/

/-- A write in the hand of goroutine `t`. -/
structure InHand (s : Session) (t : Tid) (w : Nat) : Prop where
  lt : w < s.nextWrite
  caller : (s.writes w).caller = t
  place : (s.writes w).place = .hand
  state : (s.writes w).state = .writeQueued
  result : (s.writes w).result = none

/-- A write that is in a queue, or out of it and not yet claimed. -/
structure Waiting (s : Session) (p : Place) (w : Nat) : Prop where
  lt : w < s.nextWrite
  place : (s.writes w).place = p
  state : (s.writes w).state = .writeQueued ∨ (s.writes w).state = .writeCanceled

/-- A write the writer works on. -/
structure AtWriter (s : Session) (p : Place) (st : WriteState) (w : Nat) : Prop where
  lt : w < s.nextWrite
  place : (s.writes w).place = p
  state : (s.writes w).state = st

/-- Where a write that has been tried ends up. -/
def outcome : Option Err → Place
  | none => .sent
  | some _ => .dropped

/-- What holds of the write the writer has taken, counter by counter. -/
def Staged (s : Session) : Pc → Prop
  | .popped w _ _ | .claim w _ _ => Waiting s .writer w
  | .skip w _ _ => AtWriter s .writer .writeCanceled w
  | .sending w _ _ => AtWriter s .writer .writeStarted w
  | .written w e _ _ | .report w e _ _ => AtWriter s (outcome e) .writeStarted w
  | _ => True

theorem staged_of_taken {s : Session} {pc : Pc} (h : pc.taken = none) : Staged s pc := by
  cases pc <;> first | exact True.intro | cases h

/-- **Where the writes are, and who refers to them.** -/
structure Outbox (tr : List Event) (m : Machine) : Prop where
  fits : ∀ t : Tid, t.fits (m.pc t)
  hand : ∀ t w, (m.pc t).hand = some w → InHand m.sess t w
  awaits : ∀ t w, (m.pc t).awaits = some w → w < m.sess.nextWrite ∧
    (m.sess.writes w).caller = t ∧ (m.sess.writes w).place ≠ .hand
  undoes : ∀ t w, (m.pc t).undoes = some w → w < m.sess.nextWrite ∧
    (m.sess.writes w).caller = t ∧ (m.sess.writes w).dead
  staged : ∀ t, Staged m.sess (m.pc t)
  control : m.sess.controlQueue.Nodup ∧ ∀ w ∈ m.sess.controlQueue, Waiting m.sess .control w
  outbound : m.sess.outboundQueue.Nodup ∧ ∀ w ∈ m.sess.outboundQueue, Waiting m.sess .outbound w
  result : ∀ w < m.sess.nextWrite, ∀ e, (m.sess.writes w).result = some e →
    (m.sess.writes w).place = outcome e
  done : ∀ w < m.sess.nextWrite, (m.sess.writes w).place = .sent →
    (m.sess.writes w).state = .writeStarted ∨ (m.sess.writes w).state = .writeDone
  once : ((written tr).map (·.1)).Nodup
  sent : ∀ w env, (w, env) ∈ written tr ↔ w < m.sess.nextWrite ∧
    (m.sess.writes w).place = .sent ∧ (m.sess.writes w).envelope = env

/-- What only the receiver does is done by the receiver. -/
theorem Outbox.is_receiver {tr : List Event} {m : Machine} {t : Tid} (hO : Outbox tr m)
    (h : (m.pc t).role = some .receiver) : t = .receiver := by
  have hr := hO.fits t _ h
  cases t <;> first | rfl | cases hr

theorem outbox_start : Outbox [] Machine.start where
  fits _ _ h := by cases h
  hand _ _ h := by cases h
  awaits _ _ h := by cases h
  undoes _ _ h := by cases h
  staged _ := trivial
  control := ⟨List.nodup_nil, fun _ h => by cases h⟩
  outbound := ⟨List.nodup_nil, fun _ h => by cases h⟩
  result _ h := absurd h (Nat.not_lt_zero _)
  done _ h := absurd h (Nat.not_lt_zero _)
  once := List.nodup_nil
  sent _ _ := ⟨nofun, fun h => absurd h.1 (Nat.not_lt_zero _)⟩

section Step

variable {tr : List Event} {m : Machine} {t : Tid} {o : Out} {s s' : Session} {w : Nat}
  {x : OutboundWrite} {pc : Pc} {p : Place}

theorem Change.update {g : Nat → OutboundWrite}
    (hx : Change t (g w) x) (v : Nat) : Change t (g v) (update g w x v) := by
  by_cases hv : v = w
  · subst hv
    rw [update_self]
    exact hx
  · rw [update_of_ne hv]
    exact .keep

theorem SetWrite.change (h : SetWrite s s' w x)
    (hx : Change t (s.writes w) x) (v : Nat) : Change t (s.writes v) (s'.writes v) := by
  rw [h.writes]
  exact hx.update v

/-- Only the writer is at the writer's counters. -/
theorem Outbox.is_writer (hI : Outbox tr m) (h : (m.pc t).role = some .writer) : t = .writer := by
  have hr := hI.fits t _ h
  cases t <;> first | rfl | cases hr

/-- **Every step changes a write as `Change` allows.** -/
theorem Outbox.change (hI : Outbox tr m) (h : WriteStep m.sess t (m.pc t) o) :
    ∀ w < m.sess.nextWrite, Change t (m.sess.writes w) (o.sess.writes w) := by
  intro v hv
  generalize hpc : m.pc t = pc at h
  cases h with
  | same hs | popped hs | ran hs => rw [hs.writes]; exact .keep
  | add _ _ hw => rw [hw, update_of_ne (Nat.ne_of_lt hv)]; exact .keep
  | drop hh hs =>
    have hx := hI.hand t _ (hpc ▸ hh)
    exact hs.change (.drop hx.caller hx.place) v
  | @fill _ _ _ w _ _ _ hs =>
    have hx := hI.hand t w (by rw [hpc]; rfl)
    exact hs.change (.fill hx.caller hx.place) v
  | @pushSync w x k =>
    have hx := hI.hand t w (hpc ▸ rfl)
    exact Change.update (.push hx.caller hx.place (.inr rfl)) v
  | @pushAsync w k =>
    have hx := hI.hand t w (hpc ▸ rfl)
    exact Change.update (.push hx.caller hx.place (.inl rfl)) v
  | awaited => exact .keep
  | @cancel w x k e hq =>
    obtain ⟨-, hc, hp⟩ := hI.awaits t w (hpc ▸ rfl)
    exact Change.update (.cancel hc hp hq) v
  | @popControl w rest b q _ hq hp =>
    have ht := hI.is_writer (t := t) (by rw [hpc]; rcases hp with rfl | rfl <;> rfl)
    have hx := hI.control.2 w (hq ▸ List.mem_cons_self)
    exact Change.update (.pop ht (.inl hx.place) hx.state) v
  | @popOutbound w rest b q hq =>
    have ht := hI.is_writer (t := t) (by rw [hpc]; rfl)
    have hx := hI.outbound.2 w (hq ▸ List.mem_cons_self)
    exact Change.update (.pop ht (.inr hx.place) hx.state) v
  | claimed hq =>
    have hx : Waiting m.sess .writer _ := hpc ▸ hI.staged t
    exact Change.update (.start (hI.is_writer (by rw [hpc]; rfl)) hx.place hq) v
  | claimFails => exact .keep
  | skip hs =>
    have hx : AtWriter m.sess _ _ _ := hpc ▸ hI.staged t
    exact hs.change (.skip (hI.is_writer (by rw [hpc]; rfl)) hx.place hx.state) v
  | sent =>
    have hx : AtWriter m.sess _ _ _ := hpc ▸ hI.staged t
    exact Change.update (.sent (hI.is_writer (by rw [hpc]; rfl)) hx.place hx.state) v
  | sendFails =>
    have hx : AtWriter m.sess _ _ _ := hpc ▸ hI.staged t
    exact Change.update (.fails (hI.is_writer (by rw [hpc]; rfl)) hx.place hx.state) v
  | @reported w e b q _ hs =>
    have hx : AtWriter m.sess _ _ _ := hpc ▸ hI.staged t
    refine hs.change (.report (hI.is_writer (by rw [hpc]; rfl)) hx.state ?_ ?_) v
    · rintro rfl; exact hx.place
    · intro he
      cases e with
      | none => exact absurd rfl he
      | some e => exact hx.place
  | undo hu hs =>
    obtain ⟨-, hc, hd⟩ := hI.undoes t _ (hpc ▸ hu)
    exact hs.change (.undo hc hd) v

theorem WriteStep.next_le {s : Session} (h : WriteStep s t pc o) :
    s.nextWrite ≤ o.sess.nextWrite := by
  cases h with
  | same hs | popped hs | ran hs => exact hs.next.ge
  | add _ hn => rw [hn]; exact Nat.le_succ _
  | drop _ hs | fill _ hs | undo _ hs => exact hs.next.ge
  | skip hs | reported hs => exact hs.next.ge
  | _ => exact Nat.le_refl _

/-- The frame of a write changes only when a worker fills in its answer. -/
theorem WriteStep.envelope {s : Session} (h : WriteStep s t pc o)
    (hw : w < s.nextWrite) : (o.sess.writes w).envelope = (s.writes w).envelope ∨
      ∃ i q p r, t = .worker i ∧ pc = .workRespond q p (some w) ∧ o.events = [.onRequest i q r] ∧
        (o.sess.writes w).envelope = .channelResult p q.requestID
          (opResult r "channel-request-rejected" "channel request rejected") := by
  have hkeep : ∀ {v x}, o.sess.writes = update s.writes v x →
      x.envelope = (s.writes v).envelope → (o.sess.writes w).envelope = (s.writes w).envelope := by
    intro v x hs hx
    rw [hs]
    exact update_proj OutboundWrite.envelope hx
  cases h with
  | same hs | popped hs | ran hs => exact .inl (by rw [hs.writes])
  | add _ _ hx => rw [hx, update_of_ne (Nat.ne_of_lt hw)]; exact .inl rfl
  | drop _ hs | undo _ hs => exact .inl (hkeep hs.writes rfl)
  | skip hs | reported hs => exact .inl (hkeep hs.writes rfl)
  | @fill i q p v _ r ht hs _ he =>
    by_cases hv : w = v
    · subst hv
      exact .inr ⟨i, q, p, r, ht, rfl, he, by rw [hs.writes, update_self]⟩
    · exact .inl (by rw [hs.writes, update_of_ne hv])
  | awaited | claimFails => exact .inl rfl
  | pushSync | pushAsync | cancel | popControl | popOutbound | claimed | sent | sendFails =>
    exact .inl (hkeep rfl rfl)

/-! ## 5. Every step keeps the invariant -/

theorem InHand.of_eq (h : InHand s t w)
    (hn : s.nextWrite ≤ s'.nextWrite) (hw : s'.writes w = s.writes w) : InHand s' t w :=
  ⟨h.lt.trans_le hn, hw ▸ h.caller, hw ▸ h.place, hw ▸ h.state, hw ▸ h.result⟩

/-- What the acting goroutine has in hand after its step. -/
theorem Outbox.hand_self (hI : Outbox tr m) (h : WriteStep m.sess t (m.pc t) o)
    (hw : o.pc.hand = some w) : InHand o.sess t w := by
  have hn := h.next_le
  generalize hpc : m.pc t = pc at h
  cases h with
  | same hs hh =>
    have hx := hI.hand t w (by rw [hpc, ← hh, hw])
    exact hx.of_eq hn (by rw [hs.writes])
  | add _ hn' hx _ _ hh =>
    have e : m.sess.nextWrite = w := Option.some.inj (hh.symm.trans hw)
    subst e
    refine ⟨by rw [hn']; exact Nat.lt_succ_self _, ?_, ?_, ?_, ?_⟩ <;>
      rw [hx, update_self]
  | fill _ hs ho =>
    obtain ⟨x, k, ho⟩ := ho
    rw [ho] at hw
    cases hw
    have hx := hI.hand t w (by rw [hpc]; rfl)
    refine ⟨hx.lt.trans_le hn, ?_, ?_, ?_, ?_⟩ <;> rw [hs.writes, update_self]
    · exact hx.caller
    · exact hx.place
    · exact hx.state
    · exact hx.result
  | drop _ _ hi | reported _ hi | undo _ _ hi => rw [hi.hand] at hw; cases hw
  | pushAsync | awaited | cancel => rw [(idle_contPc ..).hand] at hw; cases hw
  | popped _ ho | ran _ ho => rw [ho] at hw; cases hw
  | skip _ ho => rw [ho] at hw; cases hw
  | pushSync | popControl | popOutbound | claimed | claimFails | sent | sendFails => cases hw

/-- What the acting goroutine waits for after its step. -/
theorem Outbox.awaits_self (hI : Outbox tr m) (h : WriteStep m.sess t (m.pc t) o)
    (hw : o.pc.awaits = some w) : w < o.sess.nextWrite ∧ (o.sess.writes w).caller = t ∧
      (o.sess.writes w).place ≠ .hand := by
  generalize hpc : m.pc t = pc at h
  cases h with
  | same hs _ ha =>
    rw [hs.writes, hs.next]
    exact hI.awaits t w (by rw [hpc, ← ha, hw])
  | @pushSync v x k =>
    cases hw
    have hx := hI.hand t w (by rw [hpc]; rfl)
    refine ⟨hx.lt, ?_, ?_⟩
    · show (update m.sess.writes w _ w).caller = t
      rw [update_self]
      exact hx.caller
    · show (update m.sess.writes w _ w).place ≠ .hand
      rw [update_self]
      nofun
  | add _ _ _ _ _ _ ha => rw [ha] at hw; cases hw
  | fill _ _ ho => obtain ⟨x, k, ho⟩ := ho; rw [ho] at hw; cases hw
  | drop _ _ hi | reported _ hi | undo _ _ hi => rw [hi.awaits] at hw; cases hw
  | pushAsync | awaited | cancel => rw [(idle_contPc ..).awaits] at hw; cases hw
  | popped _ ho | ran _ ho => rw [ho] at hw; cases hw
  | skip _ ho => rw [ho] at hw; cases hw
  | popControl | popOutbound | claimed | claimFails | sent | sendFails => cases hw

/-- What the acting goroutine is about to take back after its step. -/
theorem Outbox.undoes_self (hI : Outbox tr m) (h : WriteStep m.sess t (m.pc t) o)
    (hw : o.pc.undoes = some w) : w < o.sess.nextWrite ∧ (o.sess.writes w).caller = t ∧
      (o.sess.writes w).dead := by
  generalize hpc : m.pc t = pc at h
  cases h with
  | @drop _ _ v hh hs _ hu =>
    rcases hu with hu | hu
    · rw [hu] at hw; cases hw
    · rw [hu] at hw
      cases hw
      have hx := hI.hand t w (hpc ▸ hh)
      rw [hs.writes, hs.next, update_self]
      exact ⟨hx.lt, hx.caller, .inl rfl⟩
  | @awaited v x k e he =>
    rcases contPc_undoes v e k with hu | ⟨hu, hne⟩
    · rw [hu] at hw; cases hw
    · rw [hu] at hw
      cases hw
      obtain ⟨hlt, hc, -⟩ := hI.awaits t w (by rw [hpc]; rfl)
      refine ⟨hlt, hc, .inl ?_⟩
      have hp := hI.result w hlt e he
      cases e with
      | none => exact absurd rfl hne
      | some e => exact hp
  | @cancel v x k e _ =>
    rcases contPc_undoes v (some e) k with hu | ⟨hu, -⟩
    · rw [hu] at hw; cases hw
    · rw [hu] at hw
      cases hw
      obtain ⟨hlt, hc, -⟩ := hI.awaits t w (by rw [hpc]; rfl)
      show w < m.sess.nextWrite ∧ (update m.sess.writes w _ w).caller = t ∧
        (update m.sess.writes w _ w).dead
      rw [update_self]
      exact ⟨hlt, hc, .inr rfl⟩
  | @pushAsync v k =>
    rcases contPc_undoes v none k with hu | ⟨-, hne⟩
    · rw [hu] at hw; cases hw
    · exact absurd rfl hne
  | same _ _ _ _ _ hu => rw [hu] at hw; cases hw
  | add _ _ _ _ _ _ _ _ hu => rw [hu] at hw; cases hw
  | fill _ _ ho => obtain ⟨x, k, ho⟩ := ho; rw [ho] at hw; cases hw
  | reported _ _ hu => rw [hu] at hw; cases hw
  | undo _ _ _ hu => rw [hu] at hw; cases hw
  | popped _ ho | ran _ ho => rw [ho] at hw; cases hw
  | skip _ ho => rw [ho] at hw; cases hw
  | pushSync | popControl | popOutbound | claimed | claimFails | sent | sendFails => cases hw

/-- The write the writer works on after its own step. -/
theorem Outbox.staged_self (hI : Outbox tr m) (h : WriteStep m.sess t (m.pc t) o) :
    Staged o.sess o.pc := by
  generalize hpc : m.pc t = pc at h
  have hst : Staged m.sess pc := hpc ▸ hI.staged t
  cases h with
  | same _ _ _ _ ht' => exact staged_of_taken ht'
  | add _ _ _ _ _ _ _ ht => exact staged_of_taken ht
  | drop _ _ hi | reported _ hi | undo _ _ hi => exact staged_of_taken hi.taken
  | pushAsync | awaited | cancel => exact staged_of_taken (idle_contPc ..).taken
  | fill _ _ ho => obtain ⟨x, k, ho⟩ := ho; rw [ho]; exact True.intro
  | pushSync => exact True.intro
  | skip _ ho => rw [ho]; exact True.intro
  | @popControl w rest b q _ hq _ =>
    have hx := hI.control.2 w (hq ▸ List.mem_cons_self)
    refine ⟨hx.lt, ?_, ?_⟩
    · show (update m.sess.writes w _ w).place = _
      rw [update_self]
    · show (update m.sess.writes w _ w).state = _ ∨
        (update m.sess.writes w _ w).state = _
      rw [update_self]
      exact hx.state
  | @popOutbound w rest b q hq =>
    have hx := hI.outbound.2 w (hq ▸ List.mem_cons_self)
    refine ⟨hx.lt, ?_, ?_⟩
    · show (update m.sess.writes w _ w).place = _
      rw [update_self]
    · show (update m.sess.writes w _ w).state = _ ∨
        (update m.sess.writes w _ w).state = _
      rw [update_self]
      exact hx.state
  | popped hs ho =>
    rw [ho]
    exact ⟨hs.next ▸ hst.lt, hs.writes ▸ hst.place, hs.writes ▸ hst.state⟩
  | @claimed w b q _ =>
    refine ⟨hst.lt, ?_, ?_⟩
    · show (update m.sess.writes w _ w).place = _
      rw [update_self]
      exact hst.place
    · show (update m.sess.writes w _ w).state = _
      rw [update_self]
  | claimFails hne => exact ⟨hst.lt, hst.place, hst.state.resolve_left hne⟩
  | @sent w b q _ =>
    refine ⟨hst.lt, ?_, ?_⟩
    · show (update m.sess.writes w _ w).place = _
      rw [update_self]
      rfl
    · show (update m.sess.writes w _ w).state = _
      rw [update_self]
      exact hst.state
  | @sendFails w b q =>
    refine ⟨hst.lt, ?_, ?_⟩
    · show (update m.sess.writes w _ w).place = _
      rw [update_self]
      rfl
    · show (update m.sess.writes w _ w).state = _
      rw [update_self]
      exact hst.state
  | ran hs ho =>
    rw [ho]
    exact ⟨hs.next ▸ hst.lt, hs.writes ▸ hst.place, hs.writes ▸ hst.state⟩

/-- Another goroutine can do no more to a write that is out of the queue than cancel it before
    it is claimed. -/
theorem Waiting.other (h : Waiting s .writer w) (ht : t ≠ .writer)
    (hn : s.nextWrite ≤ s'.nextWrite) (hc : Change t (s.writes w) (s'.writes w)) :
    Waiting s' .writer w := by
  suffices hx : (s'.writes w).place = .writer ∧
      ((s'.writes w).state = .writeQueued ∨ (s'.writes w).state = .writeCanceled) from
    ⟨h.lt.trans_le hn, hx.1, hx.2⟩
  generalize s'.writes w = x' at hc
  have hp := h.place
  cases hc with
  | keep | undo => exact ⟨hp, h.state⟩
  | cancel => exact ⟨hp, .inr rfl⟩
  | drop _ hp' | fill _ hp' | push _ hp' => rw [hp] at hp'; cases hp'
  | pop ht' | start ht' | skip ht' | sent ht' | fails ht' | report ht' => exact absurd ht' ht

theorem AtWriter.other {st : WriteState}
    (h : AtWriter s p st w) (hp : p ≠ .hand) (hst : st ≠ .writeQueued) (ht : t ≠ .writer)
    (hn : s.nextWrite ≤ s'.nextWrite) (hc : Change t (s.writes w) (s'.writes w)) :
    AtWriter s' p st w := by
  suffices hx : (s'.writes w).place = p ∧ (s'.writes w).state = st from
    ⟨h.lt.trans_le hn, hx.1, hx.2⟩
  generalize s'.writes w = x' at hc
  cases hc with
  | keep | undo => exact ⟨h.place, h.state⟩
  | cancel _ _ hs => exact absurd (h.state.symm.trans hs) hst
  | drop _ hp' | fill _ hp' | push _ hp' => exact absurd (h.place.symm.trans hp') hp
  | pop ht' | start ht' | skip ht' | sent ht' | fails ht' | report ht' => exact absurd ht' ht

theorem outcome_ne_hand (e : Option Err) : outcome e ≠ .hand := by cases e <;> nofun

/-- The writer's write under the step of another goroutine. -/
theorem Staged.other (h : Staged s pc) (ht : t ≠ .writer) (hn : s.nextWrite ≤ s'.nextWrite)
    (hc : ∀ w < s.nextWrite, Change t (s.writes w) (s'.writes w)) : Staged s' pc := by
  cases pc with
  | popped w _ _ => exact Waiting.other h ht hn (hc w h.lt)
  | claim w _ _ => exact Waiting.other h ht hn (hc w h.lt)
  | skip w _ _ => exact AtWriter.other h nofun nofun ht hn (hc w h.lt)
  | sending w _ _ => exact AtWriter.other h nofun nofun ht hn (hc w h.lt)
  | written w e _ _ => exact AtWriter.other h (outcome_ne_hand e) nofun ht hn (hc w h.lt)
  | report w e _ _ => exact AtWriter.other h (outcome_ne_hand e) nofun ht hn (hc w h.lt)
  | _ => exact True.intro

/-! ### The queues -/

/-- The queue whose writes are at this place. -/
def queueAt (s : Session) : Place → List Nat
  | .control => s.controlQueue
  | .outbound => s.outboundQueue
  | _ => []

theorem Outbox.queued (hI : Outbox tr m) (p : Place) :
    (queueAt m.sess p).Nodup ∧ ∀ w ∈ queueAt m.sess p, Waiting m.sess p w := by
  cases p with
  | control => exact hI.control
  | outbound => exact hI.outbound
  | _ => exact ⟨List.nodup_nil, nofun⟩

theorem SameWrites.queueAt (h : SameWrites s s') (p : Place) : queueAt s' p = queueAt s p := by
  cases p <;> first | exact h.control | exact h.outbound | rfl

theorem SetWrite.queueAt (h : SetWrite s s' w x) (p : Place) : queueAt s' p = queueAt s p := by
  cases p <;> first | exact h.control | exact h.outbound | rfl

/-- How a step changes one queue: not at all, by a write at its end, or by its first write. -/
inductive QueueStep (s s' : Session) (t : Tid) (p : Place) : Prop where
  | same (hq : queueAt s' p = queueAt s p)
      (hw : ∀ v ∈ queueAt s p, (s'.writes v).place = .writer → (s.writes v).place = .writer)
  | push {w : Nat} (hq : queueAt s' p = queueAt s p ++ [w]) (hw : InHand s t w)
      (hs : s'.writes = update s.writes w { s.writes w with place := p })
  | pop {w : Nat} (hq : queueAt s p = w :: queueAt s' p)
      (hs : s'.writes = update s.writes w { s.writes w with place := .writer })

/-- A change of one write, not to the writer, that leaves the queue alone. -/
theorem QueueStep.of_update (hq : queueAt s' p = queueAt s p) (hs : s'.writes = update s.writes w x)
    (hx : w ∈ queueAt s p → x.place = .writer → (s.writes w).place = .writer) :
    QueueStep s s' t p := by
  refine .same hq fun v hv hp => ?_
  rw [hs] at hp
  by_cases hvw : v = w
  · subst hvw
    rw [update_self] at hp
    exact hx hv hp
  · rwa [update_of_ne hvw] at hp

theorem Outbox.queue_step (hI : Outbox tr m) (h : WriteStep m.sess t (m.pc t) o) (p : Place) :
    QueueStep m.sess o.sess t p := by
  generalize hpc : m.pc t = pc at h
  cases h with
  | same hs | popped hs | ran hs => exact .same (hs.queueAt p) fun v _ => by rw [hs.writes]; exact id
  | add _ _ hw hc ho =>
    refine .of_update ?_ hw fun hv => absurd ((hI.queued p).2 _ hv).lt (Nat.lt_irrefl _)
    cases p <;> first | exact hc | exact ho | rfl
  | drop _ hs => exact .of_update (hs.queueAt p) hs.writes fun _ => nofun
  | reported hs => exact .of_update (hs.queueAt p) hs.writes fun _ => id
  | fill _ hs | undo _ hs => exact .of_update (hs.queueAt p) hs.writes fun _ => id
  | skip hs => exact .of_update (hs.queueAt p) hs.writes fun _ => nofun
  | awaited | claimFails => exact .same rfl fun _ _ => id
  | cancel => exact .of_update (by cases p <;> rfl) rfl fun _ => id
  | claimed => exact .of_update (by cases p <;> rfl) rfl fun _ => id
  | sent => exact .of_update (by cases p <;> rfl) rfl fun _ => nofun
  | sendFails => exact .of_update (by cases p <;> rfl) rfl fun _ => nofun
  | @pushSync w x k =>
    cases p with
    | outbound => exact .push rfl (hI.hand t w (by rw [hpc]; rfl)) rfl
    | _ => exact .of_update rfl rfl fun _ => nofun
  | @pushAsync w k =>
    cases p with
    | control => exact .push rfl (hI.hand t w (by rw [hpc]; rfl)) rfl
    | _ => exact .of_update rfl rfl fun _ => nofun
  | @popControl w rest b q _ hq =>
    have hx := hI.control.2 w (hq ▸ List.mem_cons_self)
    cases p with
    | control => exact .pop hq rfl
    | outbound =>
      refine .of_update rfl rfl fun hv _ => ?_
      have hp := (hI.outbound.2 w hv).place
      rw [hx.place] at hp
      cases hp
    | _ => exact .of_update rfl rfl nofun
  | @popOutbound w rest b q hq =>
    have hx := hI.outbound.2 w (hq ▸ List.mem_cons_self)
    cases p with
    | outbound => exact .pop hq rfl
    | control =>
      refine .of_update rfl rfl fun hv _ => ?_
      have hp := (hI.control.2 w hv).place
      rw [hx.place] at hp
      cases hp
    | _ => exact .of_update rfl rfl nofun

/-- A write in a queue stays there or goes to the writer. -/
theorem Waiting.stays (h : Waiting s p w)
    (hp : p = .control ∨ p = .outbound) (hn : s.nextWrite ≤ s'.nextWrite)
    (hc : Change t (s.writes w) (s'.writes w)) (hne : (s'.writes w).place ≠ .writer) :
    Waiting s' p w := by
  suffices hx : (s'.writes w).place = p ∧
      ((s'.writes w).state = .writeQueued ∨ (s'.writes w).state = .writeCanceled) from
    ⟨h.lt.trans_le hn, hx.1, hx.2⟩
  have hpl := h.place
  generalize s'.writes w = x' at hc hne
  rcases hp with rfl | rfl <;> cases hc with
  | keep | undo => exact ⟨hpl, h.state⟩
  | cancel => exact ⟨hpl, .inr rfl⟩
  | pop => exact absurd rfl hne
  | drop _ hp' | fill _ hp' | push _ hp' => rw [hpl] at hp'; cases hp'
  | start _ hp' | skip _ hp' | sent _ hp' | fails _ hp' => rw [hpl] at hp'; cases hp'
  | @report e _ _ he he' =>
    rw [hpl] at he he'
    cases e with
    | none => exact absurd (he rfl) nofun
    | some e => exact absurd (he' nofun) nofun

theorem Outbox.queue_kept (hI : Outbox tr m) (h : WriteStep m.sess t (m.pc t) o)
    (hp : p = .control ∨ p = .outbound) :
    (queueAt o.sess p).Nodup ∧ ∀ w ∈ queueAt o.sess p, Waiting o.sess p w := by
  obtain ⟨hnd, hw⟩ := hI.queued p
  have hpw : p ≠ .writer := by rcases hp with rfl | rfl <;> nofun
  have hph : p ≠ .hand := by rcases hp with rfl | rfl <;> nofun
  have hn := h.next_le
  have hch := hI.change h
  cases hI.queue_step h p with
  | same hq hne =>
    rw [hq]
    refine ⟨hnd, fun v hv => (hw v hv).stays hp hn (hch v (hw v hv).lt) fun hv' => ?_⟩
    exact hpw ((hw v hv).place.symm.trans (hne v hv hv'))
  | @push w hq hx hs =>
    have hfresh : w ∉ queueAt m.sess p := fun hv =>
      hph ((hw w hv).place.symm.trans hx.place)
    rw [hq]
    refine ⟨hnd.append (List.nodup_singleton w) (by simpa using hfresh), fun v hv => ?_⟩
    rcases List.mem_append.1 hv with hv | hv
    · have hvw : v ≠ w := fun e => hfresh (e ▸ hv)
      have hx' := hw v hv
      exact ⟨hx'.lt.trans_le hn, by rw [hs, update_of_ne hvw]; exact hx'.place,
        by rw [hs, update_of_ne hvw]; exact hx'.state⟩
    · rw [List.mem_singleton] at hv
      subst hv
      exact ⟨hx.lt.trans_le hn, by rw [hs, update_self],
        by rw [hs, update_self]; exact .inl hx.state⟩
  | @pop w hq hs =>
    rw [hq] at hnd hw
    obtain ⟨hfresh, hnd⟩ := List.nodup_cons.1 hnd
    refine ⟨hnd, fun v hv => ?_⟩
    have hvw : v ≠ w := fun e => hfresh (e ▸ hv)
    have hx' := hw v (List.mem_cons_of_mem _ hv)
    exact ⟨hx'.lt.trans_le hn, by rw [hs, update_of_ne hvw]; exact hx'.place,
      by rw [hs, update_of_ne hvw]; exact hx'.state⟩

/-! ### Results and the wire -/

theorem outcome_cases (e : Option Err) : outcome e = .sent ∨ outcome e = .dropped := by
  cases e
  · exact .inl rfl
  · exact .inr rfl

theorem Change.result {x x' : OutboundWrite} (h : Change t x x')
    (hr : ∀ e, x.result = some e → x.place = outcome e) :
    ∀ e, x'.result = some e → x'.place = outcome e := by
  -- a write that is not at its end has no result yet
  have hnone : x.place ≠ .sent → x.place ≠ .dropped → ∀ e, x.result ≠ some e := by
    intro hs hd e he
    rcases outcome_cases e with ho | ho
    · exact hs ((hr e he).trans ho)
    · exact hd ((hr e he).trans ho)
  intro e he
  cases h with
  | keep | fill | cancel | start | undo => exact hr e he
  | drop _ hp | push _ hp | sent _ hp | fails _ hp =>
    exact absurd he (hnone (by rw [hp]; nofun) (by rw [hp]; nofun) e)
  | pop _ hp =>
    refine absurd he (hnone ?_ ?_ e) <;> (intro hp'; rw [hp'] at hp; rcases hp with hp | hp <;> cases hp)
  | skip _ hp =>
    have hx : x.result = none := by
      cases hx : x.result with
      | none => rfl
      | some e => exact absurd hx (hnone (by rw [hp]; nofun) (by rw [hp]; nofun) e)
    simp only [putResult, hx, Option.none_or] at he
    split at he
    · cases he; rfl
    · cases he
  | @report e' _ _ hn hs =>
    simp only [putResult] at he
    split at he
    · cases hx : x.result with
      | none =>
        rw [hx] at he
        cases he
        cases e with
        | none => exact hn rfl
        | some e => exact hs nofun
      | some e₁ =>
        rw [hx] at he
        cases he
        exact hr _ hx
    · exact hr e he

theorem Change.done {x x' : OutboundWrite} (h : Change t x x')
    (hx : x.place = .sent → x.state = .writeStarted ∨ x.state = .writeDone) (hp : x'.place = .sent) :
    x'.state = .writeStarted ∨ x'.state = .writeDone := by
  cases h with
  | keep | fill | undo => exact hx hp
  | push _ hp' h => rcases h with rfl | rfl <;> cases hp
  | cancel _ _ hs => rcases hx hp with h | h <;> rw [h] at hs <;> cases hs
  | start _ hp' => rw [hp'] at hp; cases hp
  | sent _ _ hs => exact .inl hs
  | report => exact .inr rfl
  | drop | pop | skip | fails => cases hp

/-- A write with a number that was not in use is one the acting goroutine has just made. -/
theorem WriteStep.born {s : Session} (h : WriteStep s t pc o)
    (hw : w < o.sess.nextWrite) : w < s.nextWrite ∨ w = s.nextWrite ∧ ∃ env after waits ch,
      o.sess.writes w = ⟨env, after, waits, .writeQueued, none, ch, t, .hand, false⟩ := by
  cases h with
  | add _ hn hx =>
    rw [hn] at hw
    rcases Nat.lt_succ_iff_lt_or_eq.1 hw with hw | rfl
    · exact .inl hw
    · exact .inr ⟨rfl, _, _, _, _, by rw [hx, update_self]⟩
  | same hs | popped hs | ran hs => exact .inl (hs.next ▸ hw)
  | drop _ hs | fill _ hs | undo _ hs => exact .inl (hs.next ▸ hw)
  | skip hs | reported hs => exact .inl (hs.next ▸ hw)
  | _ => exact .inl hw

/-- A step that shows no written frame leaves the set of frames on the wire as it is. -/
inductive WireStep (s : Session) (t : Tid) : Pc → Out → Prop where
  | quiet {pc : Pc} {o : Out} (he : written o.events = [])
      (hw : ∀ v < s.nextWrite, (o.sess.writes v).place = .sent → (s.writes v).place = .sent) :
      WireStep s t pc o
  | sent {w : Nat} {b q : Bool} : WireStep s t (.sending w b q)
      ⟨s.setWrite w { s.writes w with place := .sent }, .written w none b q,
        [.wrote w (s.writes w).envelope]⟩

theorem WireStep.of_update {s : Session}
    (he : written o.events = []) (hs : o.sess.writes = update s.writes w x)
    (hx : x.place = .sent → (s.writes w).place = .sent) : WireStep s t pc o := by
  refine .quiet he fun v _ hv => ?_
  rw [hs] at hv
  by_cases hvw : v = w
  · subst hvw
    rw [update_self] at hv
    exact hx hv
  · rwa [update_of_ne hvw] at hv

theorem WriteStep.wire {s : Session} (h : WriteStep s t pc o) : WireStep s t pc o := by
  cases h with
  | sent => exact .sent
  | same hs _ _ _ _ _ he => exact .quiet he.1 fun v _ => by rw [hs.writes]; exact id
  | popped hs _ he | ran hs _ he => exact .quiet (he ▸ rfl) fun v _ => by rw [hs.writes]; exact id
  | add _ _ hw _ _ _ _ _ _ he =>
    refine .quiet he.1 fun v hv => ?_
    rw [hw, update_of_ne (Nat.ne_of_lt hv)]
    exact id
  | drop _ hs _ _ he => exact .of_update he.1 hs.writes nofun
  | fill _ hs _ he => exact .of_update (he ▸ rfl) hs.writes id
  | skip hs _ he => exact .of_update (he ▸ rfl) hs.writes nofun
  | reported hs _ _ he => exact .of_update (he ▸ rfl) hs.writes id
  | undo _ hs _ _ he => exact .of_update (he ▸ rfl) hs.writes id
  | pushSync => exact .of_update rfl rfl nofun
  | pushAsync => exact .of_update (contEvents_quiet ..).1 rfl nofun
  | awaited => exact .quiet (contEvents_quiet ..).1 fun _ _ => id
  | cancel => exact .of_update (contEvents_quiet ..).1 rfl id
  | popControl | popOutbound => exact .of_update rfl rfl nofun
  | claimed => exact .of_update rfl rfl id
  | claimFails => exact .quiet rfl fun _ _ => id
  | sendFails => exact .of_update rfl rfl nofun

/-- A frame on the wire stays there. -/
theorem Change.keeps_sent {x x' : OutboundWrite} (h : Change t x x') (hp : x.place = .sent) :
    x'.place = .sent ∧ x'.envelope = x.envelope := by
  refine ⟨?_, h.envelope (by rw [hp]; nofun)⟩
  cases h with
  | keep | fill | cancel | start | report | undo => exact hp
  | sent => rfl
  | drop _ hp' | push _ hp' | skip _ hp' | fails _ hp' => rw [hp] at hp'; cases hp'
  | pop _ hp' => rw [hp] at hp'; rcases hp' with hp' | hp' <;> cases hp'

theorem Outbox.sent_kept (hI : Outbox tr m) (h : WriteStep m.sess t (m.pc t) o) (w : Nat)
    (env : Envelope) : (w, env) ∈ written (tr ++ o.events) ↔ w < o.sess.nextWrite ∧
      (o.sess.writes w).place = .sent ∧ (o.sess.writes w).envelope = env := by
  have hn := h.next_le
  have hch := hI.change h
  have hb := h.born (w := w)
  have hw := h.wire
  generalize hpc : m.pc t = pc at hw
  rw [written_append, List.mem_append, hI.sent w env]
  constructor
  · rintro (⟨hlt, hp, he⟩ | hev)
    · obtain ⟨hp', he'⟩ := (hch w hlt).keeps_sent hp
      exact ⟨hlt.trans_le hn, hp', he'.trans he⟩
    · cases hw with
      | quiet he => rw [he] at hev; cases hev
      | @sent v b q =>
        have hx : AtWriter m.sess _ _ v := hpc ▸ hI.staged t
        cases List.mem_singleton.1 hev
        refine ⟨hx.lt, ?_, ?_⟩
        · show (update m.sess.writes w _ w).place = _
          rw [update_self]
        · show (update m.sess.writes w _ w).envelope = _
          rw [update_self]
  · rintro ⟨hlt, hp, he⟩
    rcases hb hlt with hlt | ⟨-, _, _, _, _, hx⟩
    · cases hw with
      | quiet _ hs =>
        have hp' := hs w hlt hp
        exact .inl ⟨hlt, hp', by rw [← he, ((hch w hlt).keeps_sent hp').2]⟩
      | @sent v b q =>
        by_cases hv : w = v
        · subst hv
          right
          change (update m.sess.writes w _ w).envelope = _ at he
          rw [update_self] at he
          subst he
          exact List.mem_singleton.2 rfl
        · left
          change (update m.sess.writes v _ w).place = _ at hp
          change (update m.sess.writes v _ w).envelope = _ at he
          rw [update_of_ne hv] at hp he
          exact ⟨hlt, hp, he⟩
    · rw [hx] at hp; cases hp

theorem Outbox.once_kept (hI : Outbox tr m) (h : WriteStep m.sess t (m.pc t) o) :
    ((written (tr ++ o.events)).map (·.1)).Nodup := by
  have hw := h.wire
  generalize hpc : m.pc t = pc at hw
  rw [written_append, List.map_append]
  cases hw with
  | quiet he => rw [he]; simpa using hI.once
  | @sent v b q =>
    have hx : AtWriter m.sess _ _ v := hpc ▸ hI.staged t
    refine hI.once.append (List.nodup_singleton v) ?_
    intro a ha hav
    obtain ⟨⟨w, env⟩, hm, rfl⟩ := List.mem_map.1 ha
    cases List.mem_singleton.1 hav
    -- a frame already on the wire is not at the writer
    exact absurd (hx.place.symm.trans ((hI.sent _ _).1 hm).2.1) nofun

/-- The facts about the goroutines, for the one that acts and for the others. -/
theorem forall_update {P : Tid → Pc → Prop} {g : Tid → Pc} (hself : P t pc)
    (hother : ∀ u, u ≠ t → P u (g u)) (u : Tid) : P u (update g t pc u) := by
  by_cases hu : u = t
  · subst hu
    rw [update_self]
    exact hself
  · rw [update_of_ne hu]
    exact hother u hu

/-- **Every step keeps the invariant.** -/
theorem Outbox.step (hI : Outbox tr m) (h : WriteStep m.sess t (m.pc t) o) (hfits : t.fits o.pc) :
    Outbox (tr ++ o.events) ⟨o.sess, update m.pc t o.pc⟩ where
  fits := forall_update hfits fun u _ => hI.fits u
  hand := by
    refine forall_update (P := fun u pc => ∀ w, pc.hand = some w → InHand o.sess u w)
      (fun w hw => hI.hand_self h hw) fun u hu w hw => ?_
    have hx := hI.hand u w hw
    exact hx.of_eq h.next_le ((hI.change h w hx.lt).hand hx.place (hx.caller ▸ hu))
  awaits := by
    refine forall_update (P := fun u pc => ∀ w, pc.awaits = some w → w < o.sess.nextWrite ∧
      (o.sess.writes w).caller = u ∧ (o.sess.writes w).place ≠ .hand)
      (fun w hw => hI.awaits_self h hw) fun u _ w hw => ?_
    obtain ⟨hlt, hc, hp⟩ := hI.awaits u w hw
    have hx := hI.change h w hlt
    exact ⟨hlt.trans_le h.next_le, hx.fixed.1.trans hc, hx.not_hand hp⟩
  undoes := by
    refine forall_update (P := fun u pc => ∀ w, pc.undoes = some w → w < o.sess.nextWrite ∧
      (o.sess.writes w).caller = u ∧ (o.sess.writes w).dead)
      (fun w hw => hI.undoes_self h hw) fun u _ w hw => ?_
    obtain ⟨hlt, hc, hd⟩ := hI.undoes u w hw
    have hx := hI.change h w hlt
    exact ⟨hlt.trans_le h.next_le, hx.fixed.1.trans hc, hx.dead hd⟩
  staged := by
    refine forall_update (P := fun _ pc => Staged o.sess pc) (hI.staged_self h) fun u hu => ?_
    by_cases hw : (m.pc u).taken = none
    · exact staged_of_taken hw
    · -- only the writer takes writes, so the one that acts is another
      have hr : (m.pc u).role = some .writer := by
        generalize m.pc u = pc at hw
        cases pc <;> first | rfl | exact absurd rfl hw
      exact (hI.staged u).other (fun ht => hu ((hI.is_writer hr).trans ht.symm)) h.next_le (hI.change h)
  control := hI.queue_kept h (.inl rfl)
  outbound := hI.queue_kept h (.inr rfl)
  result := by
    intro w hw
    rcases h.born hw with hlt | ⟨-, _, _, _, _, hx⟩
    · exact (hI.change h w hlt).result (hI.result w hlt)
    · intro e he
      rw [hx] at he
      cases he
  done := by
    intro w hw
    rcases h.born hw with hlt | ⟨-, _, _, _, _, hx⟩
    · exact (hI.change h w hlt).done (hI.done w hlt)
    · intro hp
      rw [hx] at hp
      cases hp
  once := hI.once_kept h
  sent := hI.sent_kept h

end Step

/-- A write that will not reach the connection has not reached it. -/
theorem Outbox.not_written {tr : List Event} {m : Machine} (hI : Outbox tr m) {w : Nat}
    (hd : (m.sess.writes w).dead) (env : Envelope) : (w, env) ∉ written tr := by
  intro hw
  obtain ⟨hlt, hp, -⟩ := (hI.sent w env).1 hw
  rcases hd with hd | hd
  · rw [hp] at hd; cases hd
  · rcases hI.done w hlt hp with h | h <;> rw [hd] at h <;> cases h

/-- **The invariant holds along every run.** -/
theorem outbox_run {cfg : Config} {C : Machine → Act → Prop} {tr : List Event} {m : Machine}
    (h : (Machine.lts cfg).Run C tr m) : Outbox tr m := by
  refine Machine.run_invariant h outbox_start fun {tr m a o} _ hI _ he => ?_
  exact hI.step (write_step he) (effect_fits he (hI.fits a.tid))

end Mygosh.Mux

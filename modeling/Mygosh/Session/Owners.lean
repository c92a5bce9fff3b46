/-
  File:      Mygosh/Session/Owners.lean
  Subject:   Who can change a channel without a look at its state.

  A section that removes a channel from the table, shuts it or gives it up does so whatever state
  the channel is in. While a channel of the peer's waits for its admission no goroutine may be on
  its way to such a section:

  * `Tid.claims` -- the channel a goroutine is on its way to change like that;
  * `Past` -- the channel is the session's own, or the peer's and already accepted;
  * `Owned`, `owned_run` -- whatever is claimed, or known to the application, is past.
-/
import Mygosh.Session.Announce
import Mygosh.Session.States
import Mygosh.Session.Table

namespace Mygosh.Mux

open Session

/-! ## 1. Claims -/

def Cont.claims : Cont → Option Nat
  | .openChannel i .. => some i
  | _ => none

/-- The channel goroutine `t` goes on to change, to shut or to remove without a look at its state:
    that of an own open or of the answer to one, one that is closed here, one whose close timed
    out. -/
def Tid.claims (t : Tid) : Pc → Option Nat
  | .ensure _ _ k | .reserve _ _ k | .push _ _ k | .await _ _ k => k.claims
  | .inActivate i | .inStart i | .inRejectRemove i _ | .inRejectShut i _ => some i
  | .openAdd i .. | .openSend i .. | .openRemove i .. | .openShut i .. | .openWait i .. => some i
  | .abandon i .. | .close i _ | .closeRemove i _ | .closeShut i _ => some i
  | .timeoutRemove => match t with
      | .timer i => some i
      | _ => none
  | _ => none

def Cont.opened : Cont → Option Nat
  | .closeAck i => some i
  | _ => none

/-- The channel a goroutine has opened, or has closed for the peer. -/
def Pc.opened : Pc → Option Nat
  | .ensure _ _ k | .reserve _ _ k | .push _ _ k | .await _ _ k => k.opened
  | .inCloseRemove i | .admitActivate i _ _ => some i
  | _ => none

/-- How goroutine `t` comes to claim channel `i`. -/
inductive Claimed (s : Session) (t : Tid) (i : Nat) : Pc → Out → Prop where
  | kept {pc o} (h : t.claims pc = some i) : Claimed s t i pc o
  | handed {pc o} (h : (s.chan i).handed = true) : Claimed s t i pc o
  | made {typ p o} (hn : i < o.sess.nextLocalChannelID) (hc : (cores o.sess i).creator = t) :
      Claimed s t i (.openReserve typ p) o
  | answered {res o} (hw : (s.chan i).openWait = true) : Claimed s t i (.inOpenResult i res) o
  | timeout {pc o} (hs : (s.chan i).state = .channelClosing) : Claimed s t i pc o

section Views

variable {cfg : Config} {s : Session} {t : Tid} {pc pc' : Pc} {o : Out} {i : Nat}

theorem contPc_claims (w : Nat) (e : Option Err) (k : Cont) : t.claims (contPc w e k) = k.claims := by
  cases k <;> cases e <;> first
    | rfl
    | (simp only [contPc]; split <;> rfl)

theorem downPc_claims (k : AfterShutdown) : t.claims (downPc k) = none := by cases k <;> rfl

theorem droppedPc_claims (j q : Nat) (typ : String) (p : Bytes) (e : Option Err) :
    t.claims (droppedPc j q typ p e) = none := by cases e <;> rfl

theorem moves_claims (h : Moves cfg s t pc pc') (hi : t.claims pc' = some i) :
    t.claims pc = some i ∨ (s.chan i).handed = true := by
  cases h with
  | start h =>
    cases h with
    | close hh => cases hi; exact .inr hh
    | _ => cases hi
  | shutdownOver => rw [downPc_claims] at hi; cases hi
  | requestGone => rw [droppedPc_claims] at hi; cases hi
  | ensured | openAbandon | abandonOpened => exact .inl hi
  | _ => cases hi

/-- **Where a claim comes from.** -/
theorem claims_of_step (h : Effect cfg s t pc o) (hi : t.claims o.pc = some i) :
    Claimed s t i pc o := by
  cases h with
  | move h => exact (moves_claims h hi).elim .kept .handed
  | found _ _ h =>
    cases h with
    | channel ha => cases ha <;> cases hi
    | _ => cases hi
  | refused | routeFails => cases hi
  | send h =>
    cases h with
    | reserved | pushSync => exact .kept hi
    | _ => rw [contPc_claims] at hi; exact .kept hi
  | down h =>
    cases h with
    | queues => rw [downPc_claims] at hi; cases hi
    | _ => cases hi
  | inOpen h =>
    cases h with
    | opened _ hw | rejected _ hw => cases hi; exact .answered hw
    | activated | rejectRemoved => exact .kept hi
    | _ => cases hi
  | work h =>
    cases h with
    | timeout _ hs => cases hi; exact .timeout hs
    | _ => cases hi
  | «open» h =>
    cases h with
    | made =>
      cases hi
      refine .made (Nat.lt_succ_self _) ?_
      simp [cores, Session.channelMade, Session.setChan, Channel.core, newPendingChannel]
    | added | send | removed | abandoned => exact .kept hi
    | _ => cases hi
  | close h =>
    cases h with
    | requestReleased => rw [droppedPc_claims] at hi; cases hi
    | closeOpening | closeRemoved => exact .kept hi
    | _ => cases hi
  | _ h => cases h <;> cases hi

theorem contPc_opened (w : Nat) (e : Option Err) (k : Cont) (h : (contPc w e k).opened = some i) :
    k.opened = some i := by
  cases k <;> cases e <;> first
    | exact h
    | cases h
    | (simp only [contPc] at h; split at h <;> cases h)

theorem opened_ids (h : pc.opened = some i) : i ∈ pc.ids := by
  cases pc with
  | ensure _ _ k | reserve _ _ k | push _ _ k | await _ _ k =>
    cases k <;> cases h
    exact List.mem_singleton.mpr rfl
  | _ => cases h <;> exact List.mem_singleton.mpr rfl

/-- A channel a goroutine has opened or closed has left its first state. -/
theorem opened_of_step (h : Effect cfg s t pc o) (hi : o.pc.opened = some i) :
    pc.opened = some i ∨ (cores o.sess i).state ≠ .channelOpening := by
  cases h with
  | move h =>
    cases h with
    | start h => cases h <;> cases hi
    | @shutdownOver _ k => cases k <;> cases hi
    | @requestGone _ _ _ _ e => cases e <;> cases hi
    | ensured => exact .inl hi
    | _ => cases hi
  | found _ _ h =>
    cases h with
    | channel ha => cases ha <;> cases hi
    | _ => cases hi
  | refused | routeFails => cases hi
  | send h =>
    cases h with
    | reserved | pushSync => exact .inl hi
    | _ => exact .inl (contPc_opened _ _ _ hi)
  | @down _ _ h =>
    cases h with
    | @queues d => cases hk : d.k <;> rw [hk] at hi <;> cases hi
    | _ => cases hi
  | inFrame h =>
    cases h with
    | closeAcked | close =>
      cases hi
      refine .inr ?_
      simp [cores, Channel.core, Session.setChan, Session.eventPut, Session.addWrite]
    | _ => cases hi
  | dispatch h =>
    cases h with
    | accepted =>
      cases hi
      refine .inr ?_
      simp [cores, Channel.core, Session.setChan]
    | _ => cases hi
  | close h =>
    cases h with
    | @requestReleased _ _ _ _ e => cases e <;> cases hi
    | _ => cases hi
  | _ h => cases h <;> cases hi

/-- The goroutine that is about to add a channel has just made it. -/
theorem adding_of_step (h : Effect cfg s t pc o) (hi : o.pc.adding = some i) :
    i = s.nextLocalChannelID := by
  cases h with
  | move h => rw [moves_adding h] at hi; cases hi
  | found _ _ h => rw [finds_adding h] at hi; cases hi
  | refused | routeFails => cases hi
  | send h =>
    cases h with
    | reserved | pushSync => cases hi
    | _ => rw [(contPc_resumes ..).adding] at hi; cases hi
  | down h =>
    cases h with
    | queues => rw [(downPc_resumes _).adding] at hi; cases hi
    | _ => cases hi
  | inOpen h =>
    cases h with
    | made => exact (Option.some.inj hi).symm
    | _ => cases hi
  | «open» h =>
    cases h with
    | made => exact (Option.some.inj hi).symm
    | _ => cases hi
  | close h =>
    cases h with
    | requestReleased => rw [(droppedPc_resumes ..).adding] at hi; cases hi
    | _ => cases hi
  | _ h => cases h <;> cases hi

theorem EofTo.not_closing {a b : ChannelState} (h : EofTo a b) : b ≠ .channelClosing := by
  cases h <;> nofun

theorem CloseWriteTo.not_closing {a b : ChannelState} (h : CloseWriteTo a b) :
    b ≠ .channelClosing := by
  cases h <;> nofun

/-- Only `Close` makes a channel closing. -/
theorem closing_of_step {m : Machine} (hF : Flows cfg m) (he : Effect cfg m.sess t (m.pc t) o)
    (hs : (cores o.sess i).state = .channelClosing) :
    (cores m.sess i).state = .channelClosing ∨ ∃ k, m.pc t = .close i k := by
  generalize hpc : m.pc t = pc at he
  cases core_at he i with
  | same h => rw [h] at hs; exact .inl hs
  | incoming _ h | pending _ h => rw [h] at hs; cases hs
  | turn h _ ht =>
    rw [h] at hs
    cases ht with
    | openFails | data | take => exact .inl hs
    | closing => exact .inr ⟨_, rfl⟩
    | shut => simp only [ChannelState.shut] at hs; split at hs <;> cases hs
    | eof ht => exact absurd hs ht.not_closing
    | closeWrite ht => exact absurd hs ht.not_closing
    | @undo st w e =>
      obtain ⟨-, -, st', hst⟩ := hF.sends t w (.channelEof i st) (by rw [hpc]; rfl)
      cases hst <;> cases hs
    | _ => cases hs

end Views

/-! ## 2. The invariant -/

/-- The frame that accepts channel `i` has been made. -/
def Session.Accepted (s : Session) (i : Nat) : Prop :=
  ∃ w < s.nextWrite, (s.writes w).after = .startWorker i

/-- A channel that does not wait for its admission: an own one, or one that has been accepted. -/
structure Past (s : Session) (i : Nat) : Prop where
  lt : i < s.nextLocalChannelID
  accepted : (cores s i).creator = .receiver → s.Accepted i

/-- **Whatever is claimed or known to the application does not wait for its admission.** -/
structure Owned (m : Machine) : Prop where
  opened : ∀ t i, (m.pc t).opened = some i → (cores m.sess i).state ≠ .channelOpening
  claims : ∀ (t : Tid) i, t.claims (m.pc t) = some i → Past m.sess i
  handed : ∀ i, (m.sess.chan i).handed = true → Past m.sess i
  started : ∀ i, (m.sess.chan i).workerStarted = true → Past m.sess i
  closing : ∀ i, (cores m.sess i).state = .channelClosing → Past m.sess i
  adding : ∀ t i, (m.pc t).adding = some i → ¬ m.sess.Accepted i
  accepted : ∀ i, m.sess.Accepted i → i < m.sess.nextLocalChannelID ∧
    (cores m.sess i).state ≠ .channelOpening ∧ (m.sess.chan i).slot ≠ .channelSlotPending

theorem owned_start : Owned Machine.start where
  opened := nofun
  claims := nofun
  handed := nofun
  started := nofun
  closing := nofun
  adding := nofun
  accepted _ h := absurd h.choose_spec.1 (Nat.not_lt_zero _)

section Step

variable {cfg : Config} {tr : List Event} {m : Machine} {t : Tid} {o : Out} {i : Nat}

/-- What has been accepted stays so: the callback of a write is settled. -/
theorem Session.Accepted.kept (h : m.sess.Accepted i) (hO : Outbox tr m)
    (he : Effect cfg m.sess t (m.pc t) o) : o.sess.Accepted i := by
  obtain ⟨w, hw, ha⟩ := h
  obtain ⟨-, -, hafter, -⟩ := (hO.change (write_step he) w hw).fixed
  exact ⟨w, hw.trans_le (write_step he).next_le, hafter.trans ha⟩

/-- The dispatcher accepts a channel when it turns its slot from pending to active. -/
theorem accepted_of_step (hO : Outbox tr m) (he : Effect cfg m.sess t (m.pc t) o)
    (h : o.sess.Accepted i) : m.sess.Accepted i ∨ ∃ x d, m.pc t = .admitActivate i x d ∧
      (m.sess.chan i).slot = .channelSlotPending ∧ (o.sess.chan i).slot = .channelSlotActive := by
  obtain ⟨w, hw, ha⟩ := h
  have hold : w < m.sess.nextWrite → m.sess.Accepted i := by
    intro hlt
    obtain ⟨-, -, hafter, -⟩ := (hO.change (write_step he) w hlt).fixed
    exact ⟨w, hlt, hafter.symm.trans ha⟩
  generalize m.pc t = pc at he
  cases frame_step he with
  | none hn => exact .inl (hold (hn ▸ hw))
  | decided hn hx hd =>
    rw [hn] at hw
    rcases Nat.lt_succ_iff_lt_or_eq.1 hw with hlt | rfl
    · exact .inl (hold hlt)
    · rw [hx, Function.update_self] at ha
      cases hd with
      | openAccept hs => cases ha; exact .inr ⟨_, _, rfl, hs, slot_of_answer he hn⟩
      | _ => cases ha

theorem Past.kept (h : Past m.sess i) (hO : Outbox tr m) (he : Effect cfg m.sess t (m.pc t) o) :
    Past o.sess i where
  lt := h.lt.trans_le (next_le he)
  accepted hc := (h.accepted ((creator_step he h.lt).symm.trans hc)).kept hO he

/-- An own channel is past. -/
theorem past_of_wait (hP : Pairing tr m) (hi : i < m.sess.nextLocalChannelID)
    (hw : (m.sess.chan i).openWait = true) : Past m.sess i :=
  ⟨hi, fun hc => absurd (hP.incoming i hc) (hP.wait i hw)⟩

theorem Owned.claims_step (hI : Owned m) (hO : Outbox tr m) (hP : Pairing tr m)
    (he : Effect cfg m.sess t (m.pc t) o) (hi : t.claims o.pc = some i) : Past o.sess i := by
  have hclaims := hI.claims t i
  have hgiven := hP.given t i
  have hcall : ∀ {typ p}, m.pc t = .openReserve typ p → t ≠ .receiver := by
    rintro typ p hpc rfl
    have hr := hO.fits .receiver .call (by rw [hpc]; rfl)
    cases hr
  have hkept : Past m.sess i → Past o.sess i := fun h => h.kept hO he
  generalize m.pc t = pc at he hclaims hgiven hcall
  cases claims_of_step he hi with
  | kept h => exact hkept (hclaims h)
  | handed h => exact hkept (hI.handed i h)
  | made hn hc => exact ⟨hn, fun hr => absurd (hc.symm.trans hr) (hcall rfl)⟩
  | answered hw => exact hkept (past_of_wait hP (hgiven rfl) hw)
  | timeout hs => exact hkept (hI.closing i hs)

theorem Owned.started_step (hI : Owned m) (hO : Outbox tr m) (he : Effect cfg m.sess t (m.pc t) o)
    (hx : (o.sess.chan i).workerStarted = true) : Past o.sess i := by
  refine Past.kept ?_ hO he
  rcases Mux.started_step he hx with h | h | ⟨w, b, q, hpc, ha⟩
  · exact hI.started i h
  · refine hI.claims t i ?_
    generalize m.pc t = pc at h
    cases pc <;> first | exact h | cases h
  · -- the callback runs when the acceptance is on the wire
    have hst : AtWriter m.sess _ _ w := hpc ▸ hO.staged t
    have hacc : m.sess.Accepted i := ⟨w, hst.lt, ha⟩
    exact ⟨(hI.accepted i hacc).1, fun _ => hacc⟩

theorem Owned.adding_step (hI : Owned m) (hO : Outbox tr m) (hA : Announced tr m)
    (he : Effect cfg m.sess t (m.pc t) o) (u : Tid)
    (hi : (Function.update m.pc t o.pc u).adding = some i) : ¬ o.sess.Accepted i := by
  intro hacc
  have hself : u = t → i = m.sess.nextLocalChannelID := by
    rintro rfl
    rw [Function.update_self] at hi
    exact adding_of_step he hi
  have hother : u ≠ t → (m.pc u).adding = some i := by
    intro hu
    rwa [Function.update_of_ne hu] at hi
  rcases accepted_of_step hO he hacc with hold | ⟨x, d, hpc, hs, -⟩
  · by_cases hu : u = t
    · exact absurd (hself hu) (Nat.ne_of_lt (hI.accepted i hold).1)
    · exact hI.adding u i (hother hu) hold
  · by_cases hu : u = t
    · have hx := hA.at_pc t
      rw [hpc] at hx
      exact absurd (hself hu) (Nat.ne_of_lt hx.1)
    · -- a channel that is about to be added is in no slot
      have hx := hA.at_pc u
      have hadd := hother hu
      generalize m.pc u = pc at hx hadd
      cases pc <;> cases hadd <;> rw [hx.2] at hs <;> cases hs

theorem Owned.accepted_step (hI : Owned m) (hO : Outbox tr m) (hA : Announced tr m)
    (hF : Flows cfg m) (he : Effect cfg m.sess t (m.pc t) o) (h : o.sess.Accepted i) :
    i < o.sess.nextLocalChannelID ∧ (cores o.sess i).state ≠ .channelOpening ∧
      (o.sess.chan i).slot ≠ .channelSlotPending := by
  rcases accepted_of_step hO he h with hold | ⟨x, d, hpc, -, hs⟩
  · obtain ⟨hlt, hst, hslot⟩ := hI.accepted i hold
    refine ⟨hlt.trans_le (next_le he), (hF.forward he hlt).opened hst, ?_⟩
    cases slot_at he i with
    | same hs => rwa [hs]
    | none hs | active _ hs => rw [hs]; nofun
    | pending hp =>
      -- it would have to be added once more
      refine absurd hold (hI.adding t i ?_)
      rcases hp with ⟨y, hp⟩ | ⟨typ, p, hp⟩ <;> rw [hp] <;> rfl
  · have hx := hA.at_pc t
    rw [hpc] at hx
    have hst := hI.opened t i (by rw [hpc]; rfl)
    exact ⟨hx.1.trans_le (next_le he), (hF.forward he hx.1).opened hst, by rw [hs]; nofun⟩

/-- **Every step keeps the invariant.** -/
theorem Owned.step (hI : Owned m) (hO : Outbox tr m) (hP : Pairing tr m) (hK : Known m)
    (hA : Announced tr m) (hF : Flows cfg m) (he : Effect cfg m.sess t (m.pc t) o) :
    Owned ⟨o.sess, Function.update m.pc t o.pc⟩ where
  opened := by
    have hkept : ∀ u i, (m.pc u).opened = some i → (cores o.sess i).state ≠ .channelOpening :=
      fun u i h => (hF.forward he (hK.locals u i (opened_ids h))).opened (hI.opened u i h)
    refine forall_update (P := fun _ pc => ∀ i, pc.opened = some i →
      (cores o.sess i).state ≠ .channelOpening) (fun i hi => ?_) fun u _ => hkept u
    exact (opened_of_step he hi).elim (hkept t i) id
  claims := forall_update (P := fun u pc => ∀ i, u.claims pc = some i → Past o.sess i)
    (fun _ hi => hI.claims_step hO hP he hi) fun u _ i hi => (hI.claims u i hi).kept hO he
  handed i hx := by
    refine Past.kept ?_ hO he
    rcases handed_of_step he hx with h | h | ⟨typ, p, hpc⟩
    · exact hI.handed i h
    · exact hI.started i h
    · exact hI.claims t i (by rw [hpc]; rfl)
  started _ hx := hI.started_step hO he hx
  closing i hs := by
    refine Past.kept ?_ hO he
    rcases closing_of_step hF he hs with h | ⟨k, hpc⟩
    · exact hI.closing i h
    · exact hI.claims t i (by rw [hpc]; rfl)
  adding u _ hi := hI.adding_step hO hA he u hi
  accepted _ h := hI.accepted_step hO hA hF he h

end Step

/-- **It holds along every run.** -/
theorem owned_run {cfg : Config} {C : Machine → Act → Prop} {tr : List Event} {m : Machine}
    (h : (Machine.lts cfg).Run C tr m) : Owned m := by
  refine Machine.run_invariant (I := fun _ m => Owned m) h owned_start fun {tr m a o} hr hI _ he => ?_
  exact hI.step (outbox_run hr) (pairing_run hr) (known_run hr) (announced_run hr) (flow_run hr) he

end Mygosh.Mux

/-
  File:      Mygosh/Session/Announce.lean
  Subject:   A session tells its peer the id of each channel at most once.

  An id is told in a `ChannelOpen`, by the call that has made the channel, or in the answer to the
  peer's open, by the dispatcher when the slot of the channel turns from pending to active.

  * `AnnounceAt` -- what the goroutine that will tell an id knows of it;
  * `Announced`, `announced_run` -- the invariant, and that it holds along every run;
  * `announces_once` -- among the frames written, no id is told twice.
-/
import Mygosh.Session.Flow
import Mygosh.Session.Pairing

namespace Mygosh.Mux

open Function (update update_self update_of_ne)
open Session

/-! ## 1. Creators, slots, new frames -/

/-- What a step does to the slot of a channel. -/
inductive SlotAt (s : Session) (i : Nat) : Pc → Out → Prop where
  | same {pc o} (h : (o.sess.chan i).slot = (s.chan i).slot) : SlotAt s i pc o
  | none {pc o} (h : (o.sess.chan i).slot = .channelSlotNone) : SlotAt s i pc o
  | pending {pc o} (h : (∃ m, pc = .inOpenAdd i m) ∨ ∃ typ p, pc = .openAdd i typ p) :
      SlotAt s i pc o
  | active {pc o} (hs : (s.chan i).slot = .channelSlotPending)
      (h : (o.sess.chan i).slot = .channelSlotActive) : SlotAt s i pc o

/-- Where a frame comes from that tells an id. -/
inductive Tells (cfg : Config) (s : Session) (i w : Nat) : Pc → Out → Prop where
  | old {pc o} (hw : w < s.nextWrite) (he : (o.sess.writes w).envelope = (s.writes w).envelope) :
      Tells cfg s i w pc o
  | open {typ p o} (hw : w = s.nextWrite) : Tells cfg s i w (.openSend i typ p) o
  | answer {m d o} (hw : w = s.nextWrite) (hs : (s.chan i).slot = .channelSlotPending)
      (ha : (o.sess.chan i).slot = .channelSlotActive)
      (he : ∀ m', (o.sess.writes w).envelope ≠ .channelOpen m') :
      Tells cfg s i w (.admitActivate i m d) o

section Views

variable {cfg : Config} {s : Session} {t : Tid} {pc : Pc} {o : Out} {i : Nat}

theorem Turn.creator {c c' : Core} {evs : List Event} (h : Turn cfg t i c pc evs c') :
    c'.creator = c.creator := by cases h <;> rfl

/-- A channel that exists keeps its creator. -/
theorem creator_step (h : Effect cfg s t pc o) (hi : i < s.nextLocalChannelID) :
    (cores o.sess i).creator = (cores s i).creator := by
  cases core_at h i with
  | same h => rw [h]
  | incoming hj | pending hj => exact absurd hj (Nat.ne_of_lt hi)
  | turn h _ ht => rw [h]; exact ht.creator

theorem slot_at (h : Effect cfg s t pc o) (i : Nat) : SlotAt s i pc o := by
  cases chan_step h with
  | same h => exact .same (by rw [h])
  | incoming h | pending h =>
    by_cases hi : i = s.nextLocalChannelID
    · exact .none (by rw [h, hi, update_self]; rfl)
    · exact .same (by rw [h, update_of_ne hi])
  | @touch _ _ j c _ h _ _ ht =>
    by_cases hi : i = j
    · subst hi
      have hc : o.sess.chan i = c := by rw [h, update_self]
      have hslot : (o.sess.chan i).slot = c.slot := by rw [hc]
      cases ht with
      | slotPending hp => exact .pending hp
      | slotActive hs => exact .active hs hslot
      | slotFreed =>
        by_cases hm : i ∈ s.channels
        · exact .none (by rw [hc]; simp [hm])
        · exact .same (by rw [hc]; simp [hm])
      | request | requestRefused =>
        refine .same (hslot.trans ?_)
        unfold requestNoted
        split <;> rfl
      | _ => exact .same hslot
    · exact .same (by rw [h, update_of_ne hi])

/-- The dispatcher's answer to an open turns the slot active. -/
theorem slot_of_answer {m : ChannelOpen} {d : Response}
    (h : Effect cfg s t (.admitActivate i m d) o) (hn : o.sess.nextWrite = s.nextWrite + 1) :
    (o.sess.chan i).slot = .channelSlotActive := by
  cases h with
  | move h => exact absurd hn (Nat.ne_of_lt (Nat.lt_succ_self _))
  | dispatch h =>
    cases h with
    | activated => simp [Session.addWrite, Session.slotActivated, Session.setChan]
  | _ h => cases h

theorem tells_of_step (h : Effect cfg s t pc o) {w : Nat} (hw : w < o.sess.nextWrite)
    (ha : (o.sess.writes w).envelope.announces = some i) : Tells cfg s i w pc o := by
  rcases (write_step h).born hw with hlt | ⟨rfl, _⟩
  · rcases (write_step h).envelope hlt with he | ⟨_, _, _, _, _, _, _, he⟩
    · exact .old hlt he
    · rw [he] at ha
      cases ha
  · cases frame_step h with
    | none hn => rw [hn] at hw; exact absurd hw (Nat.lt_irrefl _)
    | decided hn hx hd =>
      rw [hx, update_self] at ha
      cases hd with
      | openSend => cases ha; exact .open rfl
      | openAccept hs =>
        cases ha
        refine .answer rfl hs (slot_of_answer h hn) fun m' he => ?_
        rw [hx, update_self] at he
        cases he
      | _ => cases ha

end Views

/-! ## 2. The invariant -/

/-- No write tells the peer id `i`. -/
def Untold (s : Session) (i : Nat) : Prop :=
  ∀ w < s.nextWrite, (s.writes w).envelope.announces ≠ some i

/-- A channel of creator `t` whose id the peer has not been told. -/
structure Fresh (s : Session) (t : Tid) (i : Nat) : Prop where
  lt : i < s.nextLocalChannelID
  creator : (cores s i).creator = t
  untold : Untold s i

/-- What a goroutine that will tell an id knows of it. -/
def AnnounceAt (s : Session) (t : Tid) : Pc → Prop
  | .inOpenAdd i _ => Fresh s .receiver i ∧ (s.chan i).slot = .channelSlotNone
  | .openAdd i _ _ => Fresh s t i ∧ (s.chan i).slot = .channelSlotNone
  | .openSend i _ _ => Fresh s t i
  | .admitActivate i _ _ => i < s.nextLocalChannelID ∧ (cores s i).creator = .receiver
  | _ => True

/-- **Who tells an id, and that it is told once.** -/
structure Announced (tr : List Event) (m : Machine) : Prop where
  at_pc : ∀ t, AnnounceAt m.sess t (m.pc t)
  lt : ∀ w < m.sess.nextWrite, ∀ i, (m.sess.writes w).envelope.announces = some i →
    i < m.sess.nextLocalChannelID
  pending : ∀ i, (m.sess.chan i).slot = .channelSlotPending → (cores m.sess i).creator = .receiver →
    Untold m.sess i
  opens : ∀ w < m.sess.nextWrite, ∀ q, (m.sess.writes w).envelope = .channelOpen q →
    (cores m.sess q.senderChannelID).creator ≠ .receiver
  once : ∀ w < m.sess.nextWrite, ∀ w' < m.sess.nextWrite, ∀ i,
    (m.sess.writes w).envelope.announces = some i →
    (m.sess.writes w').envelope.announces = some i → w = w'
  paired : ∀ i, IsPaired tr i → (cores m.sess i).state = .channelOpening →
    (cores m.sess i).creator = .receiver
  incoming : ∀ i q, .incoming i q ∈ tr → i < m.sess.nextLocalChannelID ∧
    (cores m.sess i).creator = .receiver

theorem announced_start : Announced [] Machine.start where
  at_pc _ := trivial
  lt _ h := absurd h (Nat.not_lt_zero _)
  pending _ _ _ _ h := absurd h (Nat.not_lt_zero _)
  opens _ h := absurd h (Nat.not_lt_zero _)
  once _ h := absurd h (Nat.not_lt_zero _)
  paired _ h := absurd h.choose_spec (by nofun)
  incoming _ _ h := by cases h

section Step

variable {cfg : Config} {tr : List Event} {m : Machine} {t u : Tid} {pc : Pc} {o : Out} {i : Nat}

/-- Only a call sends a `ChannelOpen`. -/
theorem Outbox.is_call (hO : Outbox tr m) {typ : String} {p : Bytes}
    (hpc : m.pc t = .openSend i typ p ∨ m.pc t = .openAdd i typ p) : t ≠ .receiver := by
  rintro rfl
  rcases hpc with hpc | hpc
  all_goals
    have hr := hO.fits .receiver .call (by rw [hpc]; rfl)
    cases hr

/-- A channel stays untold in a step that does not tell it. -/
theorem Untold.kept (h : Untold m.sess i) (he : Effect cfg m.sess t pc o)
    (hopen : ∀ typ p, pc ≠ .openSend i typ p)
    (hslot : (m.sess.chan i).slot = .channelSlotPending →
      (o.sess.chan i).slot = .channelSlotActive → ∀ q d, pc ≠ .admitActivate i q d) :
    Untold o.sess i := by
  intro w hw ha
  cases tells_of_step he hw ha with
  | old hlt henv => exact h w hlt (henv ▸ ha)
  | «open» => exact hopen _ _ rfl
  | answer _ hs hs' => exact hslot hs hs' _ _ rfl

/-- Ids not given out have not been told, and no step tells one. -/
theorem Announced.untold_new (hI : Announced tr m) (he : Effect cfg m.sess t pc o)
    (hpc : m.pc t = pc) (hi : m.sess.nextLocalChannelID ≤ i) : Untold o.sess i := by
  have hx := hI.at_pc t
  rw [hpc] at hx
  intro w hw ha
  cases tells_of_step he hw ha with
  | old hlt henv => exact absurd (hI.lt w hlt i (henv ▸ ha)) (Nat.not_lt_of_le hi)
  | «open» => exact absurd hx.lt (Nat.not_lt_of_le hi)
  | answer => exact absurd hx.1 (Nat.not_lt_of_le hi)

/-- A step that is not by its creator leaves a fresh channel fresh. -/
theorem Fresh.kept (h : Fresh m.sess u i) (hI : Announced tr m) (he : Effect cfg m.sess t pc o)
    (hpc : m.pc t = pc) (hu : t ≠ u)
    (hslot : (m.sess.chan i).slot ≠ .channelSlotPending ∨ u ≠ .receiver) : Fresh o.sess u i where
  lt := h.lt.trans_le (next_le he)
  creator := (creator_step he h.lt).trans h.creator
  untold := by
    have hx := hI.at_pc t
    refine h.untold.kept he ?_ ?_
    · rintro typ p rfl
      rw [hpc] at hx
      exact hu (hx.creator.symm.trans h.creator)
    · rintro hs - q d rfl
      rw [hpc] at hx
      exact hslot.elim (fun hne => hne hs) fun hr => hr (h.creator.symm.trans hx.2)

/-- Nor does it give the channel a slot. -/
theorem Fresh.slot (h : Fresh m.sess u i) (hI : Announced tr m) (hO : Outbox tr m)
    (he : Effect cfg m.sess t pc o) (hpc : m.pc t = pc) (hu : t ≠ u)
    (hs : (m.sess.chan i).slot = .channelSlotNone) :
    (o.sess.chan i).slot = .channelSlotNone := by
  have hx := hI.at_pc t
  cases slot_at he i with
  | same h => exact h.trans hs
  | none h => exact h
  | active hp => rw [hs] at hp; cases hp
  | pending hp =>
    rcases hp with ⟨q, rfl⟩ | ⟨typ, p, rfl⟩
    · -- only the receiver adds an incoming channel
      have ht : t = .receiver := hO.is_receiver (by rw [hpc]; rfl)
      rw [hpc] at hx
      exact absurd (ht.trans (h.creator.symm.trans hx.1.creator).symm) hu
    · rw [hpc] at hx
      exact absurd (hx.1.creator.symm.trans h.creator) hu

theorem AnnounceAt.other (h : AnnounceAt m.sess u (m.pc u)) (hI : Announced tr m) (hO : Outbox tr m)
    (he : Effect cfg m.sess t pc o) (hpc : m.pc t = pc) (hu : u ≠ t) :
    AnnounceAt o.sess u (m.pc u) := by
  generalize hp : m.pc u = pcu at h
  cases pcu with
  | inOpenAdd j q =>
    obtain rfl := hO.is_receiver (t := u) (by rw [hp]; rfl)
    exact ⟨h.1.kept hI he hpc hu.symm (.inl (by rw [h.2]; nofun)), h.1.slot hI hO he hpc hu.symm h.2⟩
  | openAdd j typ p =>
    exact ⟨h.1.kept hI he hpc hu.symm (.inl (by rw [h.2]; nofun)), h.1.slot hI hO he hpc hu.symm h.2⟩
  | openSend j typ p => exact Fresh.kept h hI he hpc hu.symm (.inr (hO.is_call (.inl hp)))
  | admitActivate j q d => exact ⟨h.1.trans_le (next_le he), (creator_step he h.1).trans h.2⟩
  | _ => trivial

theorem Resumes.announceAt {s : Session} (h : Resumes pc) : AnnounceAt s t pc := by cases h <;> trivial

/-- A new channel is fresh. -/
theorem Announced.fresh (hI : Announced tr m) {s' : Session} (hw : s'.writes = m.sess.writes)
    (hn : s'.nextWrite = m.sess.nextWrite)
    (hl : s'.nextLocalChannelID = m.sess.nextLocalChannelID + 1)
    (hc : (cores s' m.sess.nextLocalChannelID).creator = u) :
    Fresh s' u m.sess.nextLocalChannelID where
  lt := hl ▸ Nat.lt_succ_self _
  creator := hc
  untold w hlt ha := by
    rw [hn] at hlt
    rw [hw] at ha
    exact absurd (hI.lt w hlt _ ha) (Nat.lt_irrefl _)

theorem Announced.at_self (hI : Announced tr m) (hP : Pairing tr m) (he : Effect cfg m.sess t pc o)
    (hpc : m.pc t = pc) : AnnounceAt o.sess t o.pc := by
  have hx := hI.at_pc t
  rw [hpc] at hx
  cases he with
  | move h =>
    cases h with
    | start h => cases h <;> trivial
    | shutdownOver => exact (downPc_resumes _).announceAt
    | requestGone => exact (droppedPc_resumes ..).announceAt
    | _ => trivial
  | found _ _ h =>
    cases h with
    | channel ha => cases ha <;> trivial
    | _ => trivial
  | refused | routeFails => trivial
  | send h =>
    cases h with
    | reserved | pushSync => trivial
    | _ => exact (contPc_resumes ..).announceAt
  | down h =>
    cases h with
    | queues => exact (downPc_resumes _).announceAt
    | _ => trivial
  | inOpen h =>
    cases h with
    | made =>
      refine ⟨hI.fresh rfl rfl rfl ?_, ?_⟩
      all_goals simp [cores, Session.channelMade, Session.setChan, Channel.core, newIncomingChannel,
        newPendingChannel]
    | _ => trivial
  | dispatch h =>
    cases h with
    | @accepted i q d hs =>
      have hm := hP.knows t (i, q.senderChannelID) (by rw [hpc]; rfl)
      have hi := hP.lt _ _ hm
      refine ⟨hi, ?_⟩
      have he : Effect cfg m.sess t (.admitAccept i q d) _ := .dispatch (.accepted hs)
      exact (creator_step he hi).trans (hI.paired i ⟨_, hm⟩ hs)
    | _ => trivial
  | «open» h =>
    cases h with
    | made =>
      refine ⟨hI.fresh rfl rfl rfl ?_, ?_⟩
      all_goals simp [cores, Session.channelMade, Session.setChan, Channel.core, newPendingChannel]
    | @added i typ p hp hm =>
      obtain ⟨hf, -⟩ := hx
      have he : Effect cfg m.sess t (.openAdd i typ p) ⟨m.sess.pendingAdded i none, .openSend i typ p, []⟩ :=
        .open (.added hp hm)
      exact ⟨hf.lt, (creator_step he hf.lt).trans hf.creator, hf.untold⟩
    | _ => trivial
  | close h =>
    cases h with
    | requestReleased => exact (droppedPc_resumes ..).announceAt
    | _ => trivial
  | _ h => cases h <;> trivial

theorem Announced.lt_kept (hI : Announced tr m) (he : Effect cfg m.sess t pc o) (hpc : m.pc t = pc) :
    ∀ w < o.sess.nextWrite, ∀ i, (o.sess.writes w).envelope.announces = some i →
      i < o.sess.nextLocalChannelID := by
  intro w hw i ha
  refine lt_of_lt_of_le (Nat.lt_of_not_le fun hi => ?_) (next_le he)
  exact hI.untold_new he hpc hi w hw ha

theorem Announced.pending_kept (hI : Announced tr m) (hO : Outbox tr m)
    (he : Effect cfg m.sess t pc o) (hpc : m.pc t = pc) (i : Nat)
    (hs : (o.sess.chan i).slot = .channelSlotPending)
    (hc : (cores o.sess i).creator = .receiver) : Untold o.sess i := by
  rcases Nat.lt_or_ge i m.sess.nextLocalChannelID with hi | hi
  · rw [creator_step he hi] at hc
    have hx := hI.at_pc t
    -- the slot is still pending, so the dispatcher has not answered
    have hkept : Untold m.sess i → Untold o.sess i := by
      refine fun h => h.kept he ?_ fun _ hs' => by rw [hs] at hs'; cases hs'
      rintro typ p rfl
      rw [hpc] at hx
      exact hO.is_call (.inl hpc) (hx.creator.symm.trans hc)
    cases slot_at he i with
    | same h => exact hkept (hI.pending i (h.symm.trans hs) hc)
    | none h | active _ h => rw [hs] at h; cases h
    | pending h =>
      rcases h with ⟨q, rfl⟩ | ⟨typ, p, rfl⟩
      · rw [hpc] at hx
        exact hkept hx.1.untold
      · rw [hpc] at hx
        exact absurd (hx.1.creator.symm.trans hc) (hO.is_call (.inr hpc))
  · exact hI.untold_new he hpc hi

theorem Announced.opens_kept (hI : Announced tr m) (hO : Outbox tr m)
    (he : Effect cfg m.sess t pc o) (hpc : m.pc t = pc) {w : Nat} (hw : w < o.sess.nextWrite)
    {q : ChannelOpen} (hq : (o.sess.writes w).envelope = .channelOpen q) :
    (cores o.sess q.senderChannelID).creator ≠ .receiver := by
  have ha : (o.sess.writes w).envelope.announces = some q.senderChannelID := by rw [hq]; rfl
  have hx := hI.at_pc t
  cases tells_of_step he hw ha with
  | old hlt henv =>
    rw [creator_step he (hI.lt w hlt _ (henv ▸ ha))]
    exact hI.opens w hlt q (henv ▸ hq)
  | «open» =>
    rw [hpc] at hx
    rw [creator_step he hx.lt, hx.creator]
    exact hO.is_call (.inl hpc)
  | answer _ _ _ hne => exact absurd hq (hne q)

theorem Announced.once_kept (hI : Announced tr m) (he : Effect cfg m.sess t pc o)
    (hpc : m.pc t = pc) {w w' : Nat} (hw : w < o.sess.nextWrite) (hw' : w' < o.sess.nextWrite)
    (ha : (o.sess.writes w).envelope.announces = some i)
    (ha' : (o.sess.writes w').envelope.announces = some i) : w = w' := by
  have hx := hI.at_pc t
  -- an id that this step tells was not told before
  have hnew : ∀ {v v' : Nat}, v < m.sess.nextWrite → (m.sess.writes v).envelope.announces = some i →
      v' < o.sess.nextWrite → (o.sess.writes v').envelope.announces = some i →
      v' ≠ m.sess.nextWrite := by
    rintro v v' hv hva hv' hva' rfl
    cases tells_of_step he hv' hva' with
    | old hlt => exact Nat.lt_irrefl _ hlt
    | «open» =>
      rw [hpc] at hx
      exact hx.untold v hv hva
    | answer _ hs =>
      rw [hpc] at hx
      exact hI.pending i hs hx.2 v hv hva
  have hsplit : ∀ {v : Nat}, v < o.sess.nextWrite → (o.sess.writes v).envelope.announces = some i →
      v < m.sess.nextWrite ∧ (m.sess.writes v).envelope.announces = some i ∨
        v = m.sess.nextWrite := by
    intro v hv hva
    cases tells_of_step he hv hva with
    | old hlt henv => exact .inl ⟨hlt, henv ▸ hva⟩
    | «open» hn | answer hn => exact .inr hn
  rcases hsplit hw ha with ⟨hlt, hold⟩ | hn <;> rcases hsplit hw' ha' with ⟨hlt', hold'⟩ | hn'
  · exact hI.once w hlt w' hlt' i hold hold'
  · exact absurd hn' (hnew hlt hold hw' ha')
  · exact absurd hn (hnew hlt' hold' hw ha)
  · exact hn.trans hn'.symm

/-- An event that does not tell of a channel shows no pair for it. -/
theorem isPaired_of_coreOf {evs : List Event} (h : IsPaired (tr ++ evs) i)
    (he : ∀ e ∈ evs, e.coreOf ≠ some i) : IsPaired tr i := by
  obtain ⟨p, hp⟩ := h
  rw [pairings_append, List.mem_append] at hp
  refine hp.elim (fun hp => ⟨p, hp⟩) fun hp => ?_
  obtain ⟨e, hm, hx⟩ := List.mem_filterMap.1 hp
  refine absurd ?_ (he e hm)
  cases e <;> cases hx <;> rfl

theorem EofTo.not_opening {a b : ChannelState} (h : EofTo a b) : b ≠ .channelOpening := by
  cases h <;> nofun

theorem CloseWriteTo.not_opening {a b : ChannelState} (h : CloseWriteTo a b) :
    b ≠ .channelOpening := by
  cases h <;> nofun

/-- An outgoing channel leaves its first state when it is paired, for good. -/
theorem Announced.paired_kept (hI : Announced tr m) (hP : Pairing tr m) (hF : Flows cfg m)
    (he : Effect cfg m.sess t pc o) (hpc : m.pc t = pc) (hi : IsPaired (tr ++ o.events) i)
    (hs : (cores o.sess i).state = .channelOpening) : (cores o.sess i).creator = .receiver := by
  cases core_at he i with
  | same h hev =>
    rw [h] at hs ⊢
    exact hI.paired i (isPaired_of_coreOf hi hev) hs
  | incoming _ h => rw [h]; rfl
  | pending hj _ hev =>
    rw [hev, List.append_nil] at hi
    obtain ⟨p, hp⟩ := hi
    exact absurd (hP.lt i p hp) (by rw [hj]; exact Nat.lt_irrefl _)
  | @turn _ _ c evs h hev ht =>
    rw [h] at hs ⊢
    rw [ht.creator]
    rw [hev] at hi
    cases ht with
    | shut => simp [ChannelState.shut] at hs; split at hs <;> cases hs
    | openFails hs' => exact hI.paired i (isPaired_of_coreOf hi (by simp [Event.coreOf])) hs'
    | data hs' => rw [show (cores m.sess i).state = .channelOpening from hs] at hs'; exact absurd hs' (by decide)
    | take =>
      obtain ⟨p, hp⟩ := hi
      rw [pairings_append] at hp
      exact hI.paired i ⟨p, by simpa [pairings] using hp⟩ hs
    | eof hs' => exact absurd hs hs'.not_opening
    | closeWrite hs' => exact absurd hs hs'.not_opening
    | @undo st w e hs' =>
      obtain ⟨-, -, st', hst⟩ := hF.sends t w (.channelEof i st) (by rw [hpc]; rfl)
      cases hst <;> cases hs
    | _ => cases hs

theorem Announced.incoming_kept (hI : Announced tr m) (he : Effect cfg m.sess t pc o) {q : ChannelOpen}
    (h : .incoming i q ∈ tr ++ o.events) :
    i < o.sess.nextLocalChannelID ∧ (cores o.sess i).creator = .receiver := by
  rcases List.mem_append.1 h with h | h
  · obtain ⟨hi, hc⟩ := hI.incoming i q h
    exact ⟨hi.trans_le (next_le he), (creator_step he hi).trans hc⟩
  · cases core_step he with
    | same _ _ hev => exact absurd rfl (List.filter_eq_nil_iff.1 hev _ h)
    | incoming hc hn _ hev =>
      rw [hev, List.mem_singleton] at h
      cases h
      exact ⟨hn ▸ Nat.lt_succ_self _, by rw [hc, update_self]; rfl⟩
    | pending _ _ _ hev => rw [hev] at h; cases h
    | turn _ _ hev ht =>
      rw [hev] at h
      cases ht with
      | shut hx | eof _ hx | remoteClose _ hx => rcases hx with rfl | rfl <;> simp at h
      | _ => simp at h

/-- **Every step keeps the invariant.** -/
theorem Announced.step (hI : Announced tr m) (hO : Outbox tr m) (hP : Pairing tr m)
    (hF : Flows cfg m) (he : Effect cfg m.sess t (m.pc t) o) :
    Announced (tr ++ o.events) ⟨o.sess, update m.pc t o.pc⟩ where
  at_pc := forall_update (P := fun u pc => AnnounceAt o.sess u pc) (hI.at_self hP he rfl)
    fun u hu => (hI.at_pc u).other hI hO he rfl hu
  lt := hI.lt_kept he rfl
  pending := hI.pending_kept hO he rfl
  opens _ hw _ hq := hI.opens_kept hO he rfl hw hq
  once _ hw _ hw' _ ha ha' := hI.once_kept he rfl hw hw' ha ha'
  paired _ hi hs := hI.paired_kept hP hF he rfl hi hs
  incoming _ _ h := hI.incoming_kept he h

end Step

/-- **The invariant holds along every run.** -/
theorem announced_run {cfg : Config} {C : Machine → Act → Prop} {tr : List Event} {m : Machine}
    (h : (Machine.lts cfg).Run C tr m) : Announced tr m := by
  refine Machine.run_invariant h announced_start fun {tr m a o} hr hI _ he => ?_
  exact hI.step (outbox_run hr) (pairing_run hr) (flow_run hr) he

/-- The ids told in the frames written. -/
def told (tr : List Event) : List Nat := (written tr).filterMap fun x => x.2.announces

/-- **No id is told twice.** -/
theorem announces_once {cfg : Config} {C : Machine → Act → Prop} {tr : List Event} {m : Machine}
    (h : (Machine.lts cfg).Run C tr m) : (told tr).Nodup := by
  have hO := outbox_run h
  have hA := announced_run h
  refine List.pairwise_filterMap.2 ((List.pairwise_map.1 hO.once).imp_of_mem ?_)
  rintro ⟨w, env⟩ ⟨w', env'⟩ hw hw' hne i hi j hj rfl
  obtain ⟨hlt, -, rfl⟩ := (hO.sent w env).1 hw
  obtain ⟨hlt', -, rfl⟩ := (hO.sent w' env').1 hw'
  exact hne (hA.once w hlt w' hlt' i hi hj)

end Mygosh.Mux

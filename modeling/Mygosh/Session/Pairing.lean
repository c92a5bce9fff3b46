/-
  File:      Mygosh/Session/Pairing.lean
  Subject:   Which channel of the peer a channel belongs to.

  * `pairings` -- the pairs of a local id and the peer's id a run has shown: an incoming open names
    the peer's id, an answer to an own open does;
  * `Pairing` -- the invariant: a channel is paired once and keeps its pair; whatever can be sent on
    belongs to a paired channel; every write of a channel is addressed to its pair;
  * `pairing_run` -- it holds along every run, whatever the peer sends.
-/
import Mygosh.Session.Frames

namespace Mygosh.Mux

open Function (update update_self update_of_ne)
open Session

/-! ## 1. Pairs -/

/-- The pairs of a local id and the peer's id, in the order the session learnt them. -/
def pairings (tr : List Event) : List (Nat × Nat) :=
  tr.filterMap fun
    | .incoming i m => some (i, m.senderChannelID)
    | .answered i a => some (i, a.senderChannelID)
    | _ => none

@[simp] theorem pairings_append (tr tr' : List Event) :
    pairings (tr ++ tr') = pairings tr ++ pairings tr' := List.filterMap_append

theorem mem_pairings_append {x : Nat × Nat} {tr tr' : List Event} (h : x ∈ pairings tr) :
    x ∈ pairings (tr ++ tr') := by
  rw [pairings_append]
  exact List.mem_append_left _ h

/-- A selection of events that looks at core events only finds none where there are none. -/
theorem filterMap_ofCore {β : Type} {f : Event → Option β} {evs : List Event}
    (hf : ∀ e, e.ofCore = false → f e = none) (h : evs.filter Event.ofCore = []) :
    evs.filterMap f = [] := by
  refine List.filterMap_eq_nil_iff.2 fun e he => hf e ?_
  have := List.filter_eq_nil_iff.1 h e he
  simpa using this

theorem pairings_ofCore {evs : List Event} (h : evs.filter Event.ofCore = []) :
    pairings evs = [] :=
  filterMap_ofCore (fun e he => by cases e <;> first | rfl | cases he) h

/-- The channel has a pair. -/
def IsPaired (tr : List Event) (i : Nat) : Prop := ∃ p, (i, p) ∈ pairings tr

theorem IsPaired.append {tr : List Event} {i : Nat} (h : IsPaired tr i) (tr' : List Event) :
    IsPaired (tr ++ tr') i := h.imp fun _ hp => mem_pairings_append hp

/-! ## 2. What a goroutine knows of pairs -/

/-- The pair in the locals of goroutine `t` at a counter. -/
def Tid.knows (t : Tid) : Pc → Option (Nat × Nat)
  | .inOpenAdd i m | .inOpenReserve i m | .inOpenQueue i m => some (i, m.senderChannelID)
  | .inOpenRemove i m | .inOpenShut i m => some (i, m.senderChannelID)
  | .admitDecide i m | .admitReject i m _ | .admitRejectShut i m _ => some (i, m.senderChannelID)
  | .admitAccept i m _ | .admitActivate i m _ => some (i, m.senderChannelID)
  | .workRespond _ p _ => match t with
      | .worker i => some (i, p)
      | _ => none
  | _ => none

/-- The channel the receiver is opening. -/
def Pc.opening : Pc → Option Nat
  | .inActivate i | .inStart i => some i
  | _ => none

/-- The id of a channel that is not paired yet, in the locals of a goroutine. -/
def Pc.given : Pc → Option Nat
  | .inOpenResult i _ | .openAdd i _ _ => some i
  | _ => none

/-- How a goroutine comes to know a pair. -/
inductive Learns (s : Session) (t : Tid) (pc : Pc) (evs : List Event) : Nat × Nat → Prop where
  | kept {x} (h : t.knows pc = some x) : Learns s t pc evs x
  | incoming {i m} (h : evs = [.incoming i m]) : Learns s t pc evs (i, m.senderChannelID)
  | found {i p} (h : s.lookupChannelByPeer p = some i) : Learns s t pc evs (i, p)
  | worker {i} (ht : t = .worker i) (hr : pc.role = some .worker) :
      Learns s t pc evs (i, (s.chan i).peerID)

/-- The pair a step shows, if any. -/
inductive PairStep (cfg : Config) (s : Session) (t : Tid) : Pc → Out → Prop where
  | none {pc o} (h : pairings o.events = []) : PairStep cfg s t pc o
  | incoming {m o} (hn : o.sess.nextLocalChannelID = s.nextLocalChannelID + 1)
      (he : pairings o.events = [(s.nextLocalChannelID, m.senderChannelID)])
      (hc : (cores o.sess s.nextLocalChannelID).peerID = m.senderChannelID)
      (hw : (cores o.sess s.nextLocalChannelID).openWait = false) :
      PairStep cfg s t (.inOpen m) o
  | answered {i a o} (hn : o.sess.nextLocalChannelID = s.nextLocalChannelID)
      (he : pairings o.events = [(i, a.senderChannelID)]) (hw : (cores s i).openWait = true)
      (hc : (cores o.sess i).peerID = a.senderChannelID)
      (hw' : (cores o.sess i).openWait = false) :
      PairStep cfg s t (.inOpenResult i (.success a)) o

section Knows

variable {cfg : Config} {s : Session} {t : Tid} {pc : Pc} {o : Out} {x : Nat × Nat}

theorem mem_of_lookupChannelByPeer {p i : Nat} (h : s.lookupChannelByPeer p = some i) :
    (p, i) ∈ s.peerChannelIDs ∧ i ∈ s.channels := by
  unfold Session.lookupChannelByPeer at h
  split at h
  · cases h
  · rename_i j hj
    split at h
    · rename_i hc
      cases h
      obtain ⟨l₁, l₂, hl, -⟩ := List.lookup_eq_some_iff.1 hj
      rw [hl]
      exact ⟨List.mem_append_right _ List.mem_cons_self, hc⟩
    · cases h

theorem Resumes.knows (h : Resumes pc) : t.knows pc = none := by cases h <;> rfl

theorem learns (h : Effect cfg s t pc o) (hx : t.knows o.pc = some x) :
    Learns s t pc o.events x := by
  cases h with
  | move h =>
    cases h with
    | start h => cases h <;> cases hx
    | shutdownOver => rw [(downPc_resumes _).knows] at hx; cases hx
    | requestGone => rw [(droppedPc_resumes ..).knows] at hx; cases hx
    | inOpenNoRoom => exact .kept hx
    | admitFound h => cases hx; exact .found h
    | workRequest ht => subst ht; cases hx; exact .worker rfl rfl
    | _ => cases hx
  | found _ _ h =>
    cases h with
    | channel ha => cases ha <;> cases hx
    | _ => cases hx
  | refused => cases hx
  | routeFails => cases hx
  | send h =>
    cases h with
    | reserved | pushSync => cases hx
    | _ => rw [(contPc_resumes ..).knows] at hx; cases hx
  | down h =>
    cases h with
    | queues => rw [(downPc_resumes _).knows] at hx; cases hx
    | _ => cases hx
  | writer h => cases h <;> cases hx
  | inOpen h =>
    cases h with
    | made => cases hx; exact .incoming rfl
    | added | reserved | full | removed => exact .kept hx
    | _ => cases hx
  | inFrame h => cases h <;> cases hx
  | inRequest h => cases h <;> cases hx
  | dispatch h =>
    cases h with
    | decideAccept | decideReject | rejectRemoved | accepted => exact .kept hx
    | _ => cases hx
  | work h =>
    cases h with
    | ticket => cases hx; exact .worker rfl rfl
    | _ => cases hx
  | «open» h => cases h <;> cases hx
  | data h => cases h <;> cases hx
  | close h =>
    cases h with
    | requestReleased => rw [(droppedPc_resumes ..).knows] at hx; cases hx
    | _ => cases hx

theorem Resumes.opening (h : Resumes pc) : pc.opening = none := by cases h <;> rfl

/-- The receiver opens a channel when it has been answered. -/
theorem opening_of_step {i : Nat} (h : Effect cfg s t pc o) (hi : o.pc.opening = some i) :
    pc.opening = some i ∨ ∃ a, .answered i a ∈ o.events := by
  cases h with
  | inOpen h =>
    cases h with
    | opened => cases hi; exact .inr ⟨_, List.mem_cons_self⟩
    | activated => exact .inl hi
    | _ => cases hi
  | move h =>
    cases h with
    | start h => cases h <;> cases hi
    | shutdownOver => rw [(downPc_resumes _).opening] at hi; cases hi
    | requestGone => rw [(droppedPc_resumes ..).opening] at hi; cases hi
    | _ => cases hi
  | found _ _ h =>
    cases h with
    | channel ha => cases ha <;> cases hi
    | _ => cases hi
  | refused | routeFails => cases hi
  | send h =>
    cases h with
    | reserved | pushSync => cases hi
    | _ => rw [(contPc_resumes ..).opening] at hi; cases hi
  | down h =>
    cases h with
    | queues => rw [(downPc_resumes _).opening] at hi; cases hi
    | _ => cases hi
  | close h =>
    cases h with
    | requestReleased => rw [(droppedPc_resumes ..).opening] at hi; cases hi
    | _ => cases hi
  | _ h => cases h <;> cases hi

theorem Resumes.given (h : Resumes pc) : pc.given = none := by cases h <;> rfl

theorem given_of_step {i : Nat} (h : Effect cfg s t pc o) (hi : o.pc.given = some i) :
    i ∈ s.channels ∨ i < o.sess.nextLocalChannelID := by
  cases h with
  | move h =>
    cases h with
    | start h => cases h <;> cases hi
    | shutdownOver => rw [(downPc_resumes _).given] at hi; cases hi
    | requestGone => rw [(droppedPc_resumes ..).given] at hi; cases hi
    | _ => cases hi
  | found _ _ h =>
    cases h with
    | channel ha hc => cases ha <;> cases hi; exact .inl hc
    | _ => cases hi
  | refused | routeFails => cases hi
  | send h =>
    cases h with
    | reserved | pushSync => cases hi
    | _ => rw [(contPc_resumes ..).given] at hi; cases hi
  | down h =>
    cases h with
    | queues => rw [(downPc_resumes _).given] at hi; cases hi
    | _ => cases hi
  | «open» h =>
    cases h with
    | made => cases hi; exact .inr (Nat.lt_succ_self _)
    | _ => cases hi
  | close h =>
    cases h with
    | requestReleased => rw [(droppedPc_resumes ..).given] at hi; cases hi
    | _ => cases hi
  | _ h => cases h <;> cases hi

/-- A channel enters the table from the counter that names it. -/
theorem channels_step {i : Nat} (h : Effect cfg s t pc o) (hi : i ∈ o.sess.channels) :
    i ∈ s.channels ∨ pc.given = some i ∨ ∃ p, t.knows pc = some (i, p) := by
  have hrem : ∀ j, i ∈ (s.removeChannel j).channels → i ∈ s.channels := fun _ hi =>
    (List.mem_filter.1 hi).1
  cases h with
  | move | found | refused | routeFails => exact .inl hi
  | down h =>
    cases h with
    | begin | disconnect => cases hi
    | _ => exact .inl hi
  | inOpen h =>
    cases h with
    | added =>
      rcases List.mem_insert_iff.1 hi with rfl | hi
      · exact .inr (.inr ⟨_, rfl⟩)
      · exact .inl hi
    | removed | rejectRemoved => exact .inl (hrem _ hi)
    | _ => exact .inl hi
  | inFrame h =>
    cases h with
    | closeRemoved => exact .inl (hrem _ hi)
    | _ => exact .inl hi
  | dispatch h =>
    cases h with
    | abortRemoved | rejectRemoved => exact .inl (hrem _ hi)
    | _ => exact .inl hi
  | work h =>
    cases h with
    | timeoutRemoved => exact .inl (hrem _ hi)
    | _ => exact .inl hi
  | «open» h =>
    cases h with
    | added =>
      rcases List.mem_insert_iff.1 hi with rfl | hi
      · exact .inr (.inl rfl)
      · exact .inl hi
    | removed => exact .inl (hrem _ hi)
    | _ => exact .inl hi
  | close h =>
    cases h with
    | closeRemoved => exact .inl (hrem _ hi)
    | _ => exact .inl hi
  | _ h => cases h <;> exact .inl hi

/-- The write a worker will put its answer in. -/
def Pc.answering : Pc → Option Nat
  | .workRespond _ _ w => w
  | _ => none

theorem Resumes.answering (h : Resumes pc) : pc.answering = none := by cases h <;> rfl

/-- A worker makes that write itself, for its own channel. -/
theorem answering_of_step {w : Nat} (h : Effect cfg s t pc o) (hw : o.pc.answering = some w) :
    ∃ i, t = .worker i ∧ (o.sess.writes w).chan = some i ∧ (o.sess.writes w).after = .nothing := by
  cases h with
  | work h =>
    cases h with
    | @ticket i m =>
      cases hw
      refine ⟨i, rfl, ?_, ?_⟩
      · show (update s.writes s.nextWrite _ s.nextWrite).chan = some i
        rw [update_self]
      · show (update s.writes s.nextWrite _ s.nextWrite).after = .nothing
        rw [update_self]
    | _ => cases hw
  | move h =>
    cases h with
    | start h => cases h <;> cases hw
    | shutdownOver => rw [(downPc_resumes _).answering] at hw; cases hw
    | requestGone => rw [(droppedPc_resumes ..).answering] at hw; cases hw
    | _ => cases hw
  | found _ _ h =>
    cases h with
    | channel ha => cases ha <;> cases hw
    | _ => cases hw
  | refused | routeFails => cases hw
  | send h =>
    cases h with
    | reserved | pushSync => cases hw
    | _ => rw [(contPc_resumes ..).answering] at hw; cases hw
  | down h =>
    cases h with
    | queues => rw [(downPc_resumes _).answering] at hw; cases hw
    | _ => cases hw
  | close h =>
    cases h with
    | requestReleased => rw [(droppedPc_resumes ..).answering] at hw; cases hw
    | _ => cases hw
  | _ h => cases h <;> cases hw

/-- A worker starts after its channel has been marked. -/
theorem worker_of_step {i : Nat} (h : Effect cfg s (.worker i) pc o)
    (hr : o.pc.role = some .worker) :
    pc.role = some .worker ∨ (s.chan i).workerStarted = true := by
  by_cases hpc : pc = .start
  · subst hpc
    cases h with
    | move h => cases h with | start h => cases h; cases hr
    | work h => cases h with | start hw => exact .inr hw
    | down h => cases h <;> cases hr
    | _ h => cases h
  · exact .inl (effect_role h hpc hr)

/-- An entry of the peer's ids is there before, or its channel has just been paired. -/
theorem table_step (h : Effect cfg s t pc o) (hx : x ∈ o.sess.peerChannelIDs) :
    x ∈ s.peerChannelIDs ∨ (∃ i m, pc = .inOpenAdd i m ∧ x = (m.senderChannelID, i)) ∨
      ∃ i a, .answered i a ∈ o.events ∧ x = (a.senderChannelID, i) := by
  have hrem : ∀ i, x ∈ (s.removeChannel i).peerChannelIDs → x ∈ s.peerChannelIDs := by
    intro i hx
    simp only [Session.removeChannel] at hx
    split at hx
    · exact (List.mem_filter.1 hx).1
    · exact hx
  cases h with
  | move | found | refused | routeFails => exact .inl hx
  | down h =>
    cases h with
    | begin | disconnect => cases hx
    | _ => exact .inl hx
  | inOpen h =>
    cases h with
    | added =>
      rcases List.mem_cons.1 hx with rfl | hx
      · exact .inr (.inl ⟨_, _, rfl, rfl⟩)
      · exact .inl hx
    | opened =>
      rcases List.mem_cons.1 hx with rfl | hx
      · exact .inr (.inr ⟨_, _, List.mem_cons_self, rfl⟩)
      · exact .inl hx
    | removed | rejectRemoved => exact .inl (hrem _ hx)
    | _ => exact .inl hx
  | inFrame h =>
    cases h with
    | closeRemoved => exact .inl (hrem _ hx)
    | _ => exact .inl hx
  | dispatch h =>
    cases h with
    | abortRemoved | rejectRemoved => exact .inl (hrem _ hx)
    | _ => exact .inl hx
  | work h =>
    cases h with
    | timeoutRemoved => exact .inl (hrem _ hx)
    | _ => exact .inl hx
  | «open» h =>
    cases h with
    | removed => exact .inl (hrem _ hx)
    | _ => exact .inl hx
  | close h =>
    cases h with
    | closeRemoved => exact .inl (hrem _ hx)
    | _ => exact .inl hx
  | _ h => cases h <;> exact .inl hx

/-- The worker of a channel is started by the receiver, or when the acceptance is on the wire. -/
theorem started_step {j : Nat} (h : Effect cfg s t pc o)
    (hx : (o.sess.chan j).workerStarted = true) : (s.chan j).workerStarted = true ∨
      pc.opening = some j ∨ ∃ w b q, pc = .written w none b q ∧
        (s.writes w).after = .startWorker j := by
  cases chan_step h with
  | same h => exact .inl (h ▸ hx)
  | incoming h | pending h =>
    rw [h] at hx
    by_cases hj : j = s.nextLocalChannelID
    · subst hj
      rw [update_self] at hx
      cases hx
    · rw [update_of_ne hj] at hx
      exact .inl hx
  | @touch _ _ i _ _ h _ _ ht =>
    rw [h] at hx
    by_cases hj : j = i
    · subst hj
      rw [update_self] at hx
      cases ht with
      | started => exact .inr (.inl rfl)
      | startWorker ha => exact .inr (.inr ⟨_, _, _, rfl, ha⟩)
      | request | requestRefused =>
        simp only [requestNoted] at hx
        split at hx <;> exact .inl hx
      | _ => exact .inl hx
    · rw [update_of_ne hj] at hx
      exact .inl hx

theorem pair_step (h : Effect cfg s t pc o) : PairStep cfg s t pc o := by
  cases core_step h with
  | same _ _ he => exact .none (pairings_ofCore he)
  | incoming hc hn _ he =>
    exact .incoming hn (by rw [he]; rfl) (by rw [hc, update_self]; rfl)
      (by rw [hc, update_self]; rfl)
  | pending _ _ _ he => exact .none (by rw [he]; rfl)
  | turn hc hn he ht =>
    cases ht with
    | opened _ hw =>
      exact .answered hn (by rw [he]; rfl) hw (by rw [hc, update_self]) (by rw [hc, update_self])
    | shut h | eof _ h | remoteClose _ h => rcases h with rfl | rfl <;> exact .none (by rw [he]; rfl)
    | _ => exact .none (by rw [he]; rfl)

end Knows

/-! ## 3. The invariant -/

/-- A write is addressed to the pair of the channel it was decided for. -/
structure Bound (tr : List Event) (x : OutboundWrite) : Prop where
  chan : ∀ i, x.chan = some i → ∃ p, (i, p) ∈ pairings tr ∧ x.envelope.about = some p
  other : x.chan = none → x.envelope.about = none
  after : ∀ i, x.after = .startWorker i → x.chan = some i
  accept : ∀ p a, x.envelope = .channelOpenResult p (.success a) → x.chan = some a.senderChannelID

/-- **Pairs.** -/
structure Pairing (tr : List Event) (m : Machine) : Prop where
  lt : ∀ i p, (i, p) ∈ pairings tr → i < m.sess.nextLocalChannelID
  channels : ∀ i ∈ m.sess.channels, i < m.sess.nextLocalChannelID
  given : ∀ t i, (m.pc t).given = some i → i < m.sess.nextLocalChannelID
  peer : ∀ i p, (i, p) ∈ pairings tr → (cores m.sess i).peerID = p
  once : ((pairings tr).map (·.1)).Nodup
  wait : ∀ i, (cores m.sess i).openWait = true → ¬ IsPaired tr i
  live : ∀ i, (cores m.sess i).state ≠ .channelOpening →
    (cores m.sess i).state ≠ .channelFailed → IsPaired tr i
  frames : ∀ i, (cores m.sess i).frames ≠ [] → IsPaired tr i
  incoming : ∀ i, (cores m.sess i).creator = .receiver → IsPaired tr i
  started : ∀ i, (m.sess.chan i).workerStarted = true → IsPaired tr i
  table : ∀ p i, (p, i) ∈ m.sess.peerChannelIDs → (i, p) ∈ pairings tr
  knows : ∀ (t : Tid) x, t.knows (m.pc t) = some x → x ∈ pairings tr
  opening : ∀ t i, (m.pc t).opening = some i → IsPaired tr i
  worker : ∀ i, (m.pc (.worker i)).role = some .worker → IsPaired tr i
  respond : ∀ (t : Tid) w, (m.pc t).answering = some w → ∃ i, t = .worker i ∧
    (m.sess.writes w).chan = some i ∧ (m.sess.writes w).after = .nothing
  writes : ∀ w < m.sess.nextWrite, Bound tr (m.sess.writes w)

theorem pairing_start : Pairing [] Machine.start where
  lt := nofun
  channels := nofun
  given := nofun
  peer := nofun
  once := List.nodup_nil
  wait _ _ h := by obtain ⟨p, hp⟩ := h; cases hp
  live _ h := absurd rfl h
  frames _ h := absurd rfl h
  incoming := nofun
  started := nofun
  table := nofun
  knows := nofun
  opening := nofun
  worker := nofun
  respond := nofun
  writes _ h := absurd h (Nat.not_lt_zero _)

/-! ## 4. Every step keeps the invariant -/

section Step

variable {cfg : Config} {tr : List Event} {m : Machine} {t : Tid} {pc : Pc} {o : Out}

/-- The pair a step adds belongs to a channel that had none. -/
theorem Pairing.fresh (hI : Pairing tr m) (hpc : m.pc t = pc) (h : Effect cfg m.sess t pc o)
    {i p : Nat} (hp : (i, p) ∈ pairings o.events) :
    ¬ IsPaired tr i ∧ pairings o.events = [(i, p)] ∧ i < o.sess.nextLocalChannelID ∧
      (cores o.sess i).peerID = p ∧ (cores o.sess i).openWait = false := by
  cases pair_step h with
  | none he => rw [he] at hp; cases hp
  | incoming hn he hc hw =>
    rw [he] at hp ⊢
    cases List.mem_singleton.1 hp
    exact ⟨fun ⟨p, hp⟩ => Nat.lt_irrefl _ (hI.lt _ p hp), rfl, hn ▸ Nat.lt_succ_self _, hc, hw⟩
  | answered hn he hw hc hw' =>
    rw [he] at hp ⊢
    cases List.mem_singleton.1 hp
    exact ⟨hI.wait _ hw, rfl, hn ▸ hI.given t _ (hpc ▸ rfl), hc, hw'⟩

theorem Pairing.lt_kept (hI : Pairing tr m) (hpc : m.pc t = pc) (h : Effect cfg m.sess t pc o)
    (i p : Nat) (hp : (i, p) ∈ pairings (tr ++ o.events)) : i < o.sess.nextLocalChannelID := by
  rw [pairings_append, List.mem_append] at hp
  rcases hp with hp | hp
  · exact (hI.lt i p hp).trans_le (next_le h)
  · exact (hI.fresh hpc h hp).2.2.1

theorem Pairing.peer_kept (hI : Pairing tr m) (hpc : m.pc t = pc) (h : Effect cfg m.sess t pc o)
    (i p : Nat) (hp : (i, p) ∈ pairings (tr ++ o.events)) : (cores o.sess i).peerID = p := by
  rw [pairings_append, List.mem_append] at hp
  rcases hp with hp | hp
  · have hpeer := hI.peer i p hp
    cases core_at h i with
    | same hc => rw [hc, hpeer]
    | incoming hj | pending hj => exact absurd (hI.lt i p hp) (hj ▸ Nat.lt_irrefl _)
    | turn hc _ ht =>
      rw [hc]
      cases ht with
      | opened _ hw => exact absurd ⟨p, hp⟩ (hI.wait i hw)
      | _ => exact hpeer
  · exact (hI.fresh hpc h hp).2.2.2.1

theorem Pairing.once_kept (hI : Pairing tr m) (hpc : m.pc t = pc) (h : Effect cfg m.sess t pc o) :
    ((pairings (tr ++ o.events)).map (·.1)).Nodup := by
  rw [pairings_append, List.map_append]
  cases hp : pairings o.events with
  | nil => simpa using hI.once
  | cons x rest =>
    obtain ⟨hnew, heq, -⟩ := hI.fresh hpc h (hp ▸ List.mem_cons_self : (x.1, x.2) ∈ _)
    rw [hp] at heq
    rw [heq]
    refine hI.once.append (List.nodup_singleton _) fun j hj hji => ?_
    obtain ⟨⟨j', p⟩, hm, rfl⟩ := List.mem_map.1 hj
    cases List.mem_singleton.1 hji
    exact hnew ⟨p, hm⟩

theorem Pairing.wait_kept (hI : Pairing tr m) (hpc : m.pc t = pc) (h : Effect cfg m.sess t pc o)
    (i : Nat) (hw : (cores o.sess i).openWait = true) : ¬ IsPaired (tr ++ o.events) i := by
  rintro ⟨p, hp⟩
  rw [pairings_append, List.mem_append] at hp
  rcases hp with hp | hp
  · -- the flag was set before, unless the channel is new
    cases core_at h i with
    | same hc => exact hI.wait i (hc ▸ hw) ⟨p, hp⟩
    | incoming hj | pending hj => exact absurd (hI.lt i p hp) (hj ▸ Nat.lt_irrefl _)
    | turn hc _ ht =>
      rw [hc] at hw
      cases ht with
      | shut | openFails | opened | rejected | abandoned => cases hw
      | _ => exact hI.wait i hw ⟨p, hp⟩
  · rw [(hI.fresh hpc h hp).2.2.2.2] at hw
    cases hw

/-- A channel that has been opened and has not failed. -/
def ChannelState.Live (st : ChannelState) : Prop := st ≠ .channelOpening ∧ st ≠ .channelFailed

theorem canReceive_live {st : ChannelState} (h : st.canReceiveData = true) : st.Live := by
  cases st <;> first | exact absurd h (by decide) | exact ⟨nofun, nofun⟩

theorem allowsRequests_live {st : ChannelState} (h : st.allowsRequests = true) : st.Live := by
  cases st <;> first | exact absurd h (by decide) | exact ⟨nofun, nofun⟩

theorem EofTo.live {st st' : ChannelState} (h : EofTo st st') : st.Live := by
  cases h <;> exact ⟨nofun, nofun⟩

theorem CloseWriteTo.live {st st' : ChannelState} (h : CloseWriteTo st st') : st.Live := by
  cases h <;> exact ⟨nofun, nofun⟩

theorem Pairing.live_kept (hI : Pairing tr m) (hpc : m.pc t = pc) (h : Effect cfg m.sess t pc o)
    (i : Nat) (ho : (cores o.sess i).state ≠ .channelOpening)
    (hf : (cores o.sess i).state ≠ .channelFailed) : IsPaired (tr ++ o.events) i := by
  -- all that is needed of the state before the step
  have hold : (cores m.sess i).state.Live → IsPaired (tr ++ o.events) i := fun hl =>
    (hI.live i hl.1 hl.2).append _
  cases core_at h i with
  | same hc => rw [hc] at ho hf; exact hold ⟨ho, hf⟩
  | incoming _ hc | pending _ hc => rw [hc] at ho; exact absurd rfl ho
  | turn hc he ht =>
    rw [hc] at ho hf
    cases ht with
    | @opened a =>
      refine ⟨a.senderChannelID, ?_⟩
      rw [pairings_append, he]
      exact List.mem_append_right _ List.mem_cons_self
    | accept => exact ⟨_, mem_pairings_append (hI.knows t _ (by rw [hpc]; rfl))⟩
    | shut =>
      by_cases hst : (cores m.sess i).state = .channelClosed
      · exact hold (hst ▸ ⟨nofun, nofun⟩)
      · exact absurd (if_neg hst) hf
    | rejected | abandoned | closeOpening => exact absurd rfl hf
    | openFails | data | take => exact hold ⟨ho, hf⟩
    | eof hs => exact hold hs.live
    | closeWrite hs => exact hold hs.live
    | undo hs => rcases hs with hs | hs <;> exact hold (hs ▸ ⟨nofun, nofun⟩)
    | closeAcked hs | timeout _ hs => exact hold (hs ▸ ⟨nofun, nofun⟩)
    | remoteClose hs | closing hs => exact hold (allowsRequests_live hs)

theorem Pairing.frames_kept (hI : Pairing tr m) (h : Effect cfg m.sess t pc o) (i : Nat)
    (hf : (cores o.sess i).frames ≠ []) : IsPaired (tr ++ o.events) i := by
  cases core_at h i with
  | same hc => exact (hI.frames i (hc ▸ hf)).append _
  | incoming _ hc | pending _ hc => rw [hc] at hf; exact absurd rfl hf
  | turn hc he ht =>
    rw [hc] at hf
    cases ht with
    | shut | closing => exact absurd rfl hf
    | data hs =>
      obtain ⟨h1, h2⟩ := canReceive_live hs
      exact (hI.live i h1 h2).append _
    | take hf' => exact (hI.frames i (by rw [hf']; nofun)).append _
    | _ => exact (hI.frames i hf).append _

theorem Pairing.incoming_kept (hI : Pairing tr m) (h : Effect cfg m.sess t pc o)
    (hr : t = .receiver → pc.role ≠ some .call) (i : Nat)
    (hf : (cores o.sess i).creator = .receiver) : IsPaired (tr ++ o.events) i := by
  cases core_at h i with
  | same hc => exact (hI.incoming i (hc ▸ hf)).append _
  | @incoming q _ _ _ he =>
    refine ⟨q.senderChannelID, ?_⟩
    rw [pairings_append, he]
    exact List.mem_append_right _ List.mem_cons_self
  | pending _ hc =>
    rw [hc] at hf
    exact absurd rfl (hr hf)
  | turn hc _ ht =>
    rw [hc] at hf
    exact (hI.incoming i (by cases ht <;> exact hf)).append _

theorem Pairing.knows_self (hI : Pairing tr m) (hpc : m.pc t = pc) (h : Effect cfg m.sess t pc o)
    {x : Nat × Nat} (hx : t.knows o.pc = some x) : x ∈ pairings (tr ++ o.events) := by
  cases learns h hx with
  | kept hk => exact mem_pairings_append (hI.knows t _ (hpc ▸ hk))
  | incoming he =>
    rw [pairings_append, he]
    exact List.mem_append_right _ List.mem_cons_self
  | found hl => exact mem_pairings_append (hI.table _ _ (mem_of_lookupChannelByPeer hl).1)
  | @worker i ht hr =>
    subst ht
    obtain ⟨p, hp⟩ := hI.worker i (hpc ▸ hr)
    rw [show (m.sess.chan i).peerID = p from hI.peer i p hp]
    exact mem_pairings_append hp

theorem allows_live {st : ChannelState} (h : st.allowsRequests = true) :
    st ≠ .channelOpening ∧ st ≠ .channelFailed := by
  cases st <;> first | cases h; done | exact ⟨nofun, nofun⟩

theorem canSend_live {st : ChannelState} (h : st.canSendData = true) :
    st ≠ .channelOpening ∧ st ≠ .channelFailed := by
  cases st <;> first | exact absurd h (by decide) | exact ⟨nofun, nofun⟩

theorem closeWriteTo_live {st st' : ChannelState} (h : CloseWriteTo st st') :
    st ≠ .channelOpening ∧ st ≠ .channelFailed := by
  cases h <;> exact ⟨nofun, nofun⟩

/-- A paired channel is paired with its `peerID`. -/
theorem Pairing.mem (hI : Pairing tr m) {i : Nat} (h : IsPaired tr i) :
    (i, (m.sess.chan i).peerID) ∈ pairings tr := by
  obtain ⟨p, hp⟩ := h
  rwa [show (m.sess.chan i).peerID = p from hI.peer i p hp]

theorem Bound.append {x : OutboundWrite} (h : Bound tr x) (tr' : List Event) : Bound (tr ++ tr') x :=
  ⟨fun i hi => (h.chan i hi).imp fun _ hp => ⟨mem_pairings_append hp.1, hp.2⟩, h.other, h.after,
    h.accept⟩

/-- What a section decides is addressed to the pair of its channel. -/
theorem Pairing.bound_new (hI : Pairing tr m) (hpc : m.pc t = pc) {env : Envelope} {after : After}
    {ch : Option Nat} (h : Decides cfg m.sess t pc env after ch) (waits : Bool) :
    Bound tr ⟨env, after, waits, .writeQueued, none, ch, t, .hand, false⟩ := by
  have hlive : ∀ {i}, (m.sess.chan i).state ≠ .channelOpening ∧
      (m.sess.chan i).state ≠ .channelFailed → (i, (m.sess.chan i).peerID) ∈ pairings tr :=
    fun hs => hI.mem (hI.live _ hs.1 hs.2)
  -- a frame that is neither an acceptance nor the channel's own
  have hown : ∀ {i p env}, (i, p) ∈ pairings tr → env.about = some p →
      (∀ p a, env ≠ .channelOpenResult p (.success a)) → (∀ j, after ≠ .startWorker j) →
      Bound tr ⟨env, after, waits, .writeQueued, none, some i, t, .hand, false⟩ := by
    intro i p env hp he hne ha
    exact ⟨fun j hj => by cases hj; exact ⟨p, hp, he⟩, nofun, fun j hj => absurd hj (ha j),
      fun p a hpa => absurd hpa (hne p a)⟩
  have hother : ∀ {env}, env.about = none → (∀ j, after ≠ .startWorker j) →
      Bound tr ⟨env, after, waits, .writeQueued, none, none, t, .hand, false⟩ := by
    intro env he ha
    refine ⟨nofun, fun _ => he, fun j hj => absurd hj (ha j), ?_⟩
    rintro p a rfl
    cases he
  cases h with
  | openAccept =>
    refine ⟨fun j hj => ?_, nofun, fun j hj => ?_, fun p a hpa => ?_⟩
    · cases hj
      exact ⟨_, hI.knows t _ (by rw [hpc]; rfl), rfl⟩
    · cases hj; rfl
    · cases hpa; rfl
  | data _ hs => exact hown (hlive (canSend_live hs)) rfl nofun nofun
  | adjust hf =>
    exact hown (hI.mem (hI.frames _ (by show (m.sess.chan _).frames ≠ []; rw [hf]; nofun))) rfl
      nofun nofun
  | request hs | close hs | closeAck hs => exact hown (hlive (allows_live hs)) rfl nofun nofun
  | requestLimit hs => exact hown (hlive (allows_live hs)) rfl nofun nofun
  | eof hs => exact hown (hlive (closeWriteTo_live hs)) rfl nofun nofun
  | result ht =>
    subst ht
    exact hown (hI.mem (hI.worker _ (by rw [hpc]; rfl))) rfl nofun nofun
  | openSend | openReject | openLimit | globalRequest | globalResult | globalLimit | disconnect =>
    exact hother rfl nofun

theorem Pairing.bound_kept (hI : Pairing tr m) (hO : Outbox tr m) (hpc : m.pc t = pc)
    (h : Effect cfg m.sess t pc o) (w : Nat) (hw : w < o.sess.nextWrite) :
    Bound (tr ++ o.events) (o.sess.writes w) := by
  have hold : w < m.sess.nextWrite → Bound (tr ++ o.events) (o.sess.writes w) := by
    intro hlt
    have hb := (hI.writes w hlt).append o.events
    obtain ⟨-, hch, haf, -⟩ := (hO.change (hpc ▸ write_step h) w hlt).fixed
    rcases (write_step h).envelope hlt with he | ⟨i, q, p, r, rfl, rfl, hev, he⟩
    · exact ⟨hch ▸ he ▸ hb.chan, hch ▸ he ▸ hb.other, hch ▸ haf ▸ hb.after, hch ▸ he ▸ hb.accept⟩
    · -- the worker's answer goes where its ticket was addressed to
      obtain ⟨i', hi', hc, ha⟩ := hI.respond (.worker i) w (by rw [hpc]; rfl)
      cases hi'
      have hp := hI.knows (.worker i) (i, p) (by rw [hpc]; rfl)
      refine ⟨fun j hj => ?_, fun hn => ?_, fun j hj => ?_, fun p' a hpa => ?_⟩
      · rw [hch, hc] at hj
        cases hj
        exact ⟨p, mem_pairings_append hp, by rw [he]; rfl⟩
      · rw [hch, hc] at hn; cases hn
      · rw [haf, ha] at hj; cases hj
      · rw [he] at hpa; cases hpa
  cases frame_step h with
  | none hn => exact hold (hn ▸ hw)
  | decided hn hx hd =>
    rw [hn] at hw
    rcases Nat.lt_succ_iff_lt_or_eq.1 hw with hlt | rfl
    · exact hold hlt
    · rw [hx, update_self]
      exact (hI.bound_new hpc hd _).append _

/-- **Every step keeps the invariant.** -/
theorem Pairing.step (hI : Pairing tr m) (hO : Outbox tr m) (h : Effect cfg m.sess t (m.pc t) o) :
    Pairing (tr ++ o.events) ⟨o.sess, update m.pc t o.pc⟩ where
  lt := hI.lt_kept rfl h
  channels i hi := by
    have hn := next_le h
    rcases channels_step h hi with hi | hi | ⟨p, hi⟩
    · exact (hI.channels i hi).trans_le hn
    · exact (hI.given t i hi).trans_le hn
    · exact (hI.lt i p (hI.knows t _ hi)).trans_le hn
  given := by
    refine forall_update (P := fun _ pc => ∀ i, pc.given = some i → i < o.sess.nextLocalChannelID)
      (fun i hi => ?_) fun u _ i hi => (hI.given u i hi).trans_le (next_le h)
    rcases given_of_step h hi with hi | hi
    · exact (hI.channels i hi).trans_le (next_le h)
    · exact hi
  peer := hI.peer_kept rfl h
  once := hI.once_kept rfl h
  wait := hI.wait_kept rfl h
  live := hI.live_kept rfl h
  frames := hI.frames_kept h
  incoming := by
    refine hI.incoming_kept h fun ht hr => ?_
    subst ht
    cases hO.fits .receiver _ hr
  started i hi := by
    rcases started_step h hi with hi | hi | ⟨w, b, q, hpc, ha⟩
    · exact (hI.started i hi).append _
    · exact (hI.opening t i hi).append _
    · have hst : AtWriter m.sess _ _ w := hpc ▸ hO.staged t
      have hb := hI.writes w hst.lt
      obtain ⟨p, hp, -⟩ := hb.chan i (hb.after i ha)
      exact ⟨p, mem_pairings_append hp⟩
  table p i hx := by
    rcases table_step h hx with hx | ⟨j, q, hpc, hx⟩ | ⟨j, a, he, hx⟩
    · exact mem_pairings_append (hI.table p i hx)
    · cases hx
      exact mem_pairings_append (hI.knows t _ (by rw [hpc]; rfl))
    · cases hx
      rw [pairings_append]
      exact List.mem_append_right _ (List.mem_filterMap.2 ⟨_, he, rfl⟩)
  knows := forall_update (P := fun u pc => ∀ x, u.knows pc = some x → x ∈ pairings (tr ++ o.events))
    (fun _ hx => hI.knows_self rfl h hx) fun u _ x hx => mem_pairings_append (hI.knows u x hx)
  opening := by
    refine forall_update (P := fun _ pc => ∀ i, pc.opening = some i → IsPaired (tr ++ o.events) i)
      (fun i hi => ?_) fun u _ i hi => (hI.opening u i hi).append _
    rcases opening_of_step h hi with hi | ⟨a, ha⟩
    · exact (hI.opening t i hi).append _
    · refine ⟨a.senderChannelID, ?_⟩
      rw [pairings_append]
      exact List.mem_append_right _ (List.mem_filterMap.2 ⟨_, ha, rfl⟩)
  worker := by
    have hall : ∀ u, ∀ i, u = Tid.worker i →
        (update m.pc t o.pc u).role = some .worker → IsPaired (tr ++ o.events) i := by
      refine forall_update (P := fun u pc => ∀ i, u = Tid.worker i → pc.role = some .worker →
        IsPaired (tr ++ o.events) i) ?_ ?_
      · rintro i rfl hr
        rcases worker_of_step h hr with hr | hw
        · exact (hI.worker i hr).append _
        · exact (hI.started i hw).append _
      · rintro u - i rfl hr
        exact (hI.worker i hr).append _
    exact fun i => hall _ i rfl
  respond := by
    refine forall_update (P := fun u pc => ∀ w, pc.answering = some w → ∃ i, u = Tid.worker i ∧
      (o.sess.writes w).chan = some i ∧ (o.sess.writes w).after = .nothing)
      (fun w hw => answering_of_step h hw) fun u _ w hw => ?_
    obtain ⟨i, hu, hc, ha⟩ := hI.respond u w hw
    have hlt : w < m.sess.nextWrite := by
      refine (hO.hand u w ?_).lt
      generalize m.pc u = pc at hw
      cases pc <;> first | exact hw | cases hw
    obtain ⟨-, hch, haf, -⟩ := (hO.change (write_step h) w hlt).fixed
    exact ⟨i, hu, hch.trans hc, haf.trans ha⟩
  writes := hI.bound_kept hO rfl h

end Step

/-- **Pairs along every run**, whatever the peer sends. -/
theorem pairing_run {cfg : Config} {C : Machine → Act → Prop} {tr : List Event} {m : Machine}
    (h : (Machine.lts cfg).Run C tr m) : Pairing tr m := by
  refine Machine.run_invariant h pairing_start fun {tr m a o} hr hI _ he => ?_
  exact hI.step (outbox_run hr) he

end Mygosh.Mux

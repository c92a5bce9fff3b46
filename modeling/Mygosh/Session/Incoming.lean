/-
  File:      Mygosh/Session/Incoming.lean
  Subject:   The admission of a channel the peer opens: from `enqueueIncomingOpen` through the
             dispatch queue to `handleChannelOpen`.

  * `Machine.admissions` -- the opens the handler has not answered yet, in the dispatcher's hand and
    in the queue; `Awaiting` -- what the channel of such an open is like;
  * `AdmitStep` -- every step of a session, as far as admissions are concerned;
  * `Ousts` -- the sections that can take a channel out of its admission, `unousted` -- and that no
    goroutine other than those that hold the open is at one of them;
  * `Incoming`, `incoming_run` -- every open finds its channel, whatever the peer sends;
  * `admission_finds_channel` -- then no check of `handleChannelOpen` fails, so long as the peer's
    close does not take a channel away between its opening and its activation.
-/
import Mygosh.Session.Owners

namespace Mygosh.Mux

open Function (update update_self update_of_ne)
open Session

/-! ## 1. Opens in waiting -/

def DispatchTask.opens : DispatchTask → Option ChannelOpen
  | .channelOpen x => some x
  | .globalRequest _ => none

/-- The opens in the dispatch queue. -/
def Session.opens (s : Session) : List ChannelOpen := s.dispatchQueue.filterMap DispatchTask.opens

/-- The open the dispatcher has in hand, up to the answer of the handler. -/
def Pc.admits : Pc → Option ChannelOpen
  | .dispRelease (.channelOpen x) | .admitLookup x | .admitDecide _ x => some x
  | _ => none

/-- The open the receiver has in hand, with its channel in the table. -/
def Pc.offered : Pc → Option (Nat × ChannelOpen)
  | .inOpenReserve i x | .inOpenQueue i x | .inOpenRemove i x => some (i, x)
  | _ => none

/-- The opens the handler has not answered, the next one first. -/
def Machine.admissions (m : Machine) : List ChannelOpen :=
  (m.pc .dispatcher).admits.toList ++ m.sess.opens

/-- The same with the open the receiver is about to queue. -/
def Machine.waiting (m : Machine) : List ChannelOpen :=
  m.admissions ++ ((m.pc .receiver).offered.map (·.2)).toList

/-- **The channel of an open in waiting.** It is in the table and reached under the peer's id, it was
    made for this open, the handler has not been asked about it, and it has not been touched. -/
structure Awaiting (tr : List Event) (s : Session) (i : Nat) (x : ChannelOpen) : Prop where
  table : i ∈ s.channels
  reached : s.peerChannelIDs.lookup x.senderChannelID = some i
  peerID : (s.chan i).peerID = x.senderChannelID
  made : .incoming i x ∈ tr
  unasked : ∀ y d, .onChannelOpen i y d ∉ tr
  state : (s.chan i).state = .channelOpening
  openWait : (s.chan i).openWait = false
  slot : (s.chan i).slot = .channelSlotPending

def Cont.decided : Cont → Option Nat
  | .openAccept i => some i
  | _ => none

/-- The channel the dispatcher has the handler's answer for. -/
def Pc.decided : Pc → Option Nat
  | .ensure _ _ k | .reserve _ _ k | .push _ _ k | .await _ _ k => k.decided
  | .admitAbort i _ | .admitAbortShut i _ | .admitReject i _ _ | .admitRejectShut i _ _ => some i
  | .admitAccept i _ _ | .admitActivate i _ _ => some i
  | _ => none

/-- A counter at which no open is in hand and no channel is on its way in. -/
def Pc.plain : Pc → Bool
  | .dispRelease (.channelOpen _) | .admitLookup _ | .admitDecide .. => false
  | .admitAccept .. | .admitActivate .. => false
  | .inOpenAdd .. | .inOpenReserve .. | .inOpenQueue .. | .inOpenRemove .. | .inOpenShut .. => false
  | _ => true

/-! ## 2. Steps of an admission -/

section

variable (cfg : Config) (s : Session)

/-- **Every step of a session, as far as admissions are concerned.** -/
inductive AdmitStep : Pc → Out → Prop where
  | made {x} : AdmitStep (.inOpen x)
      ⟨s.channelMade (newIncomingChannel cfg x), .inOpenAdd s.nextLocalChannelID x,
        [.incoming s.nextLocalChannelID x]⟩
  | added {i x} (hu : x.senderChannelID ∉ s.peerIDs) : AdmitStep (.inOpenAdd i x)
      ⟨s.pendingAdded i (some x.senderChannelID), .inOpenReserve i x, []⟩
  | reserved {i x b} : AdmitStep (.inOpenReserve i x) ⟨{ s with budget := b }, .inOpenQueue i x, []⟩
  | noRoom {i x} : AdmitStep (.inOpenReserve i x) ⟨s, .inOpenRemove i x, []⟩
  | full {i x b} : AdmitStep (.inOpenQueue i x) ⟨{ s with budget := b }, .inOpenRemove i x, []⟩
  | queued {i x} : AdmitStep (.inOpenQueue i x)
      ⟨{ s with dispatchQueue := s.dispatchQueue ++ [.channelOpen x] }, .recv, [.routed]⟩
  | removed {i x} : AdmitStep (.inOpenRemove i x) ⟨s.removeChannel i, .inOpenShut i x, []⟩
  | taken {x rest} (h : s.dispatchQueue = .channelOpen x :: rest) : AdmitStep .disp
      ⟨{ s with dispatchQueue := rest }, .dispRelease (.channelOpen x), []⟩
  | released {x b} : AdmitStep (.dispRelease (.channelOpen x))
      ⟨{ s with budget := b }, .admitLookup x, []⟩
  | found {x i} (h : s.lookupChannelByPeer x.senderChannelID = some i) : AdmitStep (.admitLookup x)
      ⟨s, .admitDecide i x, []⟩
  | gone {x e} (h : s.lookupChannelByPeer x.senderChannelID = none) : AdmitStep (.admitLookup x)
      ⟨s, .shutdown e .exit, []⟩
  | asked {i x d pc} (hp : pc.decided = some i) (ha : pc.admits = none)
      (hx : ∀ j y d', pc = .admitAccept j y d' → y = x) (hn : ∀ j y d', pc ≠ .admitActivate j y d') :
      AdmitStep (.admitDecide i x) ⟨s, pc, [.onChannelOpen i x d]⟩
  | accepted {i x d evs} (he : ∀ j y d', .onChannelOpen j y d' ∉ evs) :
      AdmitStep (.admitAccept i x d)
      ⟨s.setChan i { s.chan i with state := .channelOpen, gen := (s.chan i).gen + 1 },
        .admitActivate i x d, evs⟩
  | other {pc o} (hq : o.sess.opens = s.opens) (ha : pc.admits = none) (hf : pc.offered = none)
      (hp : o.pc.plain = true) (hd : ∀ i, o.pc.decided = some i → pc.decided = some i)
      (he : ∀ i x d, .onChannelOpen i x d ∉ o.events) : AdmitStep pc o

end

section Classify

variable {cfg : Config} {s : Session} {t : Tid} {pc pc' : Pc} {o : Out} {i : Nat}

theorem Resumes.plain (h : Resumes pc) : pc.plain = true := by cases h <;> rfl

theorem Pc.plain_admits (h : pc.plain = true) : pc.admits = none := by
  cases pc with
  | dispRelease task => cases task <;> first | rfl | cases h
  | _ => first | rfl | cases h

theorem Pc.plain_offered (h : pc.plain = true) : pc.offered = none := by
  cases pc <;> first | rfl | cases h

theorem contPc_decided (w : Nat) (e : Option Err) (k : Cont) (h : (contPc w e k).decided = some i) :
    k.decided = some i := by
  cases k <;> cases e <;> first
    | exact h
    | cases h
    | (simp only [contPc] at h; split at h <;> cases h)

theorem contEvents_asks (e : Option Err) (k : Cont) (x : ChannelOpen) (d : Response) :
    .onChannelOpen i x d ∉ contEvents e k := by
  cases k <;> cases e <;> simp [contEvents]

theorem downPc_decided (k : AfterShutdown) : (downPc k).decided = none := by cases k <;> rfl

theorem droppedPc_decided (j q : Nat) (typ : String) (p : Bytes) (e : Option Err) :
    (droppedPc j q typ p e).decided = none := by cases e <;> rfl

theorem moves_admit (h : Moves cfg s t pc pc') : AdmitStep cfg s pc ⟨s, pc', []⟩ := by
  cases h with
  | start h => cases h <;> exact .other rfl rfl rfl rfl nofun nofun
  | @shutdownOver _ k =>
    refine .other rfl rfl rfl (downPc_resumes k).plain (fun i hi => ?_) nofun
    rw [downPc_decided] at hi
    cases hi
  | @requestGone i q typ p e =>
    refine .other rfl rfl rfl (droppedPc_resumes i q typ p e).plain (fun i hi => ?_) nofun
    rw [droppedPc_decided] at hi
    cases hi
  | inOpenNoRoom => exact .noRoom
  | admitFound h => exact .found h
  | admitGone h => exact .gone h
  | ensured => exact .other rfl rfl rfl rfl (fun _ h => h) nofun
  | _ => exact .other rfl rfl rfl rfl nofun nofun

/-- A send that has ended: the goroutine goes on as its continuation says. -/
theorem AdmitStep.resumed {w : Nat} {e : Option Err} {k : Cont} (hq : o.sess.opens = s.opens)
    (ho : o.pc = contPc w e k) (ha : pc.admits = none) (hf : pc.offered = none)
    (hk : pc.decided = k.decided)
    (he : ∀ i x d, .onChannelOpen i x d ∈ o.events → .onChannelOpen i x d ∈ contEvents e k) :
    AdmitStep cfg s pc o := by
  refine .other hq ha hf (ho ▸ (contPc_resumes w e k).plain) (fun i hi => ?_) fun i x d hm => ?_
  · rw [ho] at hi
    rw [hk]
    exact contPc_decided w e k hi
  · exact contEvents_asks e k x d (he i x d hm)

theorem send_admit (h : SendEffect cfg s pc o) : AdmitStep cfg s pc o := by
  cases h with
  | reserved => exact .other rfl rfl rfl rfl (fun _ h => h) nofun
  | pushSync => exact .other rfl rfl rfl rfl (fun _ h => h) (by simp)
  | pushAsync => exact .resumed rfl rfl rfl rfl rfl (by simp)
  | _ => exact .resumed rfl rfl rfl rfl rfl fun _ _ _ hm => hm

theorem dispatch_admit (h : DispatchEffect cfg s t pc o) : AdmitStep cfg s pc o := by
  cases h with
  | @taken task rest h =>
    cases task with
    | channelOpen x => exact .taken h
    | globalRequest m =>
      refine .other ?_ rfl rfl rfl nofun nofun
      show rest.filterMap DispatchTask.opens = s.dispatchQueue.filterMap DispatchTask.opens
      rw [h]
      rfl
  | «open» => exact .released
  | decideFails | decideReject => exact .asked rfl rfl nofun nofun
  | decideAccept => exact .asked rfl rfl (fun _ _ _ h => by cases h; rfl) nofun
  | accepted => exact .accepted (by simp)
  | activated => exact .other rfl rfl rfl rfl (fun _ h => h) nofun
  | abortRemoved | rejectRemoved => exact .other rfl rfl rfl rfl (fun _ h => h) nofun
  | globalNoReply | globalFails | globalReply => exact .other rfl rfl rfl rfl nofun (by simp)
  | _ => exact .other rfl rfl rfl rfl nofun nofun

theorem inRequest_admit (h : InRequestEffect cfg s t pc o) : AdmitStep cfg s pc o := by
  cases h with
  | globalQueued =>
    refine .other ?_ rfl rfl rfl nofun (by simp)
    simp [Session.opens, DispatchTask.opens]
  | _ => exact .other rfl rfl rfl rfl nofun (by simp)

theorem admit_step (h : Effect cfg s t pc o) : AdmitStep cfg s pc o := by
  cases h with
  | move h => exact moves_admit h
  | found _ _ h =>
    cases h with
    | channel ha => cases ha <;> exact .other rfl rfl rfl rfl nofun (by simp)
    | _ => exact .other rfl rfl rfl rfl nofun (by simp)
  | refused => exact .other rfl rfl rfl rfl nofun (by simp)
  | routeFails h => cases h <;> exact .other rfl rfl rfl rfl nofun (by simp)
  | send h => exact send_admit h
  | down h =>
    cases h with
    | @queues d =>
      refine .other rfl rfl rfl (downPc_resumes d.k).plain (fun i hi => ?_) nofun
      rw [downPc_decided] at hi
      cases hi
    | _ => exact .other rfl rfl rfl rfl nofun nofun
  | inOpen h =>
    cases h with
    | made => exact .made
    | added _ _ hu => exact .added hu
    | reserved => exact .reserved
    | full => exact .full
    | queued => exact .queued
    | removed => exact .removed
    | _ => exact .other rfl rfl rfl rfl nofun (by simp)
  | inRequest h => exact inRequest_admit h
  | dispatch h => exact dispatch_admit h
  | close h =>
    cases h with
    | @requestReleased i q typ p e =>
      refine .other rfl rfl rfl (droppedPc_resumes i q typ p e).plain (fun i hi => ?_) nofun
      rw [droppedPc_decided] at hi
      cases hi
    | _ => exact .other rfl rfl rfl rfl nofun (by simp)
  | _ h => cases h <;> exact .other rfl rfl rfl rfl nofun (by simp)

end Classify

/-! ## 3. Channels in a pending slot -/

namespace Table

/-- Channel `i` is in a pending slot and is reached under the peer's id `p`. -/
structure Holds (T : Table) (p i : Nat) : Prop where
  mem : i ∈ T.ids
  reached : T.peers.lookup p = some i
  slot : T.slot i = .channelSlotPending

variable {T : Table} {i j p q : Nat}

theorem Holds.key (h : T.Holds p i) : p ∈ T.peers.map (·.1) := by
  obtain ⟨l₁, l₂, hl, -⟩ := List.lookup_eq_some_iff.1 h.reached
  rw [hl]
  simp

/-- An entry under another id is put before it. -/
theorem Holds.lookup_cons (h : T.Holds p i) (hq : q ∉ T.peers.map (·.1)) :
    ((q, j) :: T.peers).lookup p = some i := by
  have hne : (p == q) = false := beq_eq_false_iff_ne.mpr fun hpq => hq (hpq ▸ h.key)
  rw [List.lookup_cons, hne]
  exact h.reached

theorem Holds.add {peer : Option Nat} (h : T.Holds p i)
    (hu : ∀ q, peer = some q → q ∉ T.peers.map (·.1)) : (T.add j peer).Holds p i where
  mem := List.mem_insert_of_mem h.mem
  reached := by
    cases peer with
    | none => exact h.reached
    | some q => exact h.lookup_cons (hu q rfl)
  slot := by
    by_cases hij : i = j
    · simp [Table.add, hij]
    · simp [Table.add, hij, h.slot]

theorem Holds.answer (h : T.Holds p i) (hq : q ∉ T.peers.map (·.1)) : (T.answer q j).Holds p i :=
  ⟨h.mem, h.lookup_cons hq, h.slot⟩

theorem Holds.activate (h : T.Holds p i) (hj : j ≠ i) : (T.activate j).Holds p i :=
  ⟨h.mem, h.reached, by simp [Table.activate, update_of_ne hj.symm, h.slot]⟩

theorem Holds.remove (h : T.Holds p i) (hj : j ≠ i) : (T.remove j).Holds p i where
  mem := List.mem_filter.mpr ⟨h.mem, decide_eq_true hj.symm⟩
  reached := by
    obtain ⟨l₁, l₂, hl, hn⟩ := List.lookup_eq_some_iff.1 h.reached
    have hfilter : (T.peers.filter (·.2 ≠ j)).lookup p = some i := by
      refine List.lookup_eq_some_iff.2 ⟨l₁.filter (·.2 ≠ j), l₂.filter (·.2 ≠ j), ?_, ?_⟩
      · rw [hl, List.filter_append]
        simp [hj.symm]
      · exact fun x hx => hn x (List.mem_filter.mp hx).1
    simp only [Table.remove]
    split
    · exact hfilter
    · exact h.reached
  slot := by simp [Table.remove, update_of_ne hj.symm, h.slot]

end Table

/-- The sections that can take channel `i` out of its admission. -/
inductive Ousts (t : Tid) (i : Nat) (pc : Pc) : Prop where
  | claimed (h : t.claims pc = some i)
  | decided (h : pc.decided = some i)
  | closed (h : pc = .inCloseRemove i)
  | refused {x : ChannelOpen} (h : pc = .inOpenRemove i x ∨ pc = .inOpenShut i x)

/-- A channel made for open `x` that nothing has happened to. -/
structure Born (s : Session) (i : Nat) (x : ChannelOpen) : Prop where
  peerID : (s.chan i).peerID = x.senderChannelID
  state : (s.chan i).state = .channelOpening
  openWait : (s.chan i).openWait = false

section Ousts

variable {cfg : Config} {s : Session} {t : Tid} {pc : Pc} {o : Out} {i : Nat} {x : ChannelOpen}

theorem ousts_of_shuts (h : pc.shuts i = true) (hd : pc.down = false) : Ousts t i pc := by
  cases pc with
  | shutChannels => cases hd
  | inOpenShut j y => cases of_decide_eq_true h; exact .refused (.inr rfl)
  | inRejectShut j | openShut j | closeShut j => cases of_decide_eq_true h; exact .claimed rfl
  | admitAbortShut j | admitRejectShut j => cases of_decide_eq_true h; exact .decided rfl
  | _ => cases h

/-- **What happens to a channel before its admission**: nothing, but at the sections listed. The peer
    can send what it likes. -/
theorem Born.kept (h : Born s i x) (he : Effect cfg s t pc o) (hi : i < s.nextLocalChannelID)
    (hd : pc.down = false) (hn : ¬ Ousts t i pc) : Born o.sess i x := by
  have hstate : (cores s i).state = .channelOpening := h.state
  have hwait : (cores s i).openWait = false := h.openWait
  have hlive : ¬ (cores s i).state.Live := fun hl => hl.1 hstate
  cases core_at he i with
  | same hc =>
    exact ⟨(congrArg Core.peerID hc).trans h.peerID, (congrArg Core.state hc).trans h.state,
      (congrArg Core.openWait hc).trans h.openWait⟩
  | incoming hj | pending hj => exact absurd hi (hj ▸ Nat.lt_irrefl _)
  | turn hc _ ht =>
    cases ht with
    | shut _ hp => exact absurd (ousts_of_shuts hp hd) hn
    | openFails _ hw | opened _ hw | rejected _ hw => rw [hwait] at hw; cases hw
    | abandoned | closeOpening => exact absurd (.claimed rfl) hn
    | accept => exact absurd (.decided rfl) hn
    | take =>
      exact ⟨(congrArg Core.peerID hc).trans h.peerID, (congrArg Core.state hc).trans h.state,
        (congrArg Core.openWait hc).trans h.openWait⟩
    | data hs => exact absurd (canReceive_live hs) hlive
    | remoteClose hs | closing hs => exact absurd (allowsRequests_live hs) hlive
    | eof hs => exact absurd hs.live hlive
    | closeWrite hs => exact absurd hs.live hlive
    | undo hs => rcases hs with hs | hs <;> rw [hstate] at hs <;> cases hs
    | closeAcked hs | timeout _ hs => rw [hstate] at hs; cases hs

/-- Who takes a channel out of the table. -/
theorem ousts_of_removed (h : Effect cfg s t pc o) (hi : i ∈ s.channels) (hn : i ∉ o.sess.channels)
    (hup : o.sess.closing = false) : Ousts t i pc := by
  have hrem : ∀ {j}, i ∉ (s.removeChannel j).channels → j = i := by
    intro j hj
    by_contra hne
    exact hj (List.mem_filter.mpr ⟨hi, decide_eq_true fun h => hne h.symm⟩)
  cases h with
  | move | found | refused | routeFails => exact absurd hi hn
  | down h =>
    cases h with
    | begin | disconnect => cases hup
    | _ => exact absurd hi hn
  | inOpen h =>
    cases h with
    | added => exact absurd (List.mem_insert_of_mem hi) hn
    | removed => cases hrem hn; exact .refused (.inl rfl)
    | rejectRemoved => cases hrem hn; exact .claimed rfl
    | _ => exact absurd hi hn
  | inFrame h =>
    cases h with
    | closeRemoved => cases hrem hn; exact .closed rfl
    | _ => exact absurd hi hn
  | dispatch h =>
    cases h with
    | abortRemoved | rejectRemoved => cases hrem hn; exact .decided rfl
    | _ => exact absurd hi hn
  | work h =>
    cases h with
    | timeoutRemoved => cases hrem hn; exact .claimed rfl
    | _ => exact absurd hi hn
  | «open» h =>
    cases h with
    | added => exact absurd (List.mem_insert_of_mem hi) hn
    | removed => cases hrem hn; exact .claimed rfl
    | _ => exact absurd hi hn
  | close h =>
    cases h with
    | closeRemoved => cases hrem hn; exact .claimed rfl
    | _ => exact absurd hi hn
  | _ h => cases h <;> exact absurd hi hn

/-- Who activates a channel. -/
theorem ousts_of_activated (h : Effect cfg s t pc o) (hs : (s.chan i).slot = .channelSlotPending)
    (ha : (o.sess.chan i).slot = .channelSlotActive) : Ousts t i pc := by
  have hsame : (o.sess.chan i).slot = (s.chan i).slot → Ousts t i pc := fun h => by
    rw [h, hs] at ha
    cases ha
  cases chan_step h with
  | same h => exact hsame (by rw [h])
  | incoming h | pending h =>
    by_cases hi : i = s.nextLocalChannelID
    · rw [h, hi, update_self] at ha
      cases ha
    · exact hsame (by rw [h, update_of_ne hi])
  | @touch _ _ j c _ h _ _ ht =>
    by_cases hi : i = j
    · subst hi
      have hslot : (o.sess.chan i).slot = c.slot := by rw [h, update_self]
      cases ht with
      | slotActive _ hp =>
        rcases hp with rfl | ⟨y, d, rfl⟩
        · exact .claimed rfl
        · exact .decided rfl
      | slotPending => rw [hslot] at ha; cases ha
      | slotFreed =>
        simp only [hs] at hslot
        rw [hslot] at ha
        split at ha <;> cases ha
      | request | requestRefused => exact hsame (hslot.trans (requestNoted_slot ..))
      | _ => exact hsame hslot
    · exact hsame (by rw [h, update_of_ne hi])

/-- **What happens to the entry of a channel in a pending slot**: nothing, but at the sections
    listed. -/
theorem Table.Holds.kept {cfg : Prepared} {tr : List Event} {m : Machine} {p : Nat}
    (h : m.sess.table.Holds p i) (hT : Tabled cfg.config.limits m) (hP : Pairing tr m)
    (he : Effect cfg.config m.sess t pc o) (hup : o.sess.closing = false) (hn : ¬ Ousts t i pc) :
    o.sess.table.Holds p i := by
  cases table_op he with
  | same hx => rw [hx]; exact h
  | made hx => rw [hT.made_eq hP hx]; exact h
  | added _ _ _ hu hx => rw [hx]; exact h.add hu
  | @activated _ _ j _ hx =>
    by_cases hj : j = i
    · subst hj
      refine absurd (ousts_of_activated he h.slot ?_) hn
      have hslot : o.sess.table.slot j = (m.sess.table.activate j).slot j := by rw [hx]
      exact hslot.trans (update_self ..)
    · rw [hx]
      exact h.activate hj
  | @removed _ _ j hx =>
    by_cases hj : j = i
    · subst hj
      refine absurd (ousts_of_removed he h.mem ?_ hup) hn
      have hids : o.sess.channels = m.sess.channels.filter (· ≠ j) := congrArg Table.ids hx
      rw [hids]
      simp
    · rw [hx]
      exact h.remove hj
  | answered _ hu hx => rw [hx]; exact h.answer hu
  | down hx => rw [hx] at hup; cases hup

end Ousts

/-! ## 4. The invariant -/

/-- The handler has been asked about channel `i`. -/
def Asked (tr : List Event) (i : Nat) : Prop := ∃ x d, .onChannelOpen i x d ∈ tr

/-- **Every open in waiting has its channel**, and only the goroutine that holds an open, or the answer
    to it, is on its way to its channel. -/
structure Incoming (tr : List Event) (m : Machine) : Prop where
  found : ∀ x ∈ m.waiting, ∃ i, Awaiting tr m.sess i x
  distinct : (m.waiting.map (·.senderChannelID)).Nodup
  deciding : ∀ i x, m.pc .dispatcher = .admitDecide i x → Awaiting tr m.sess i x
  accepting : ∀ i x d, m.pc .dispatcher = .admitAccept i x d → Born m.sess i x ∧
    m.sess.table.Holds x.senderChannelID i ∧ .incoming i x ∈ tr
  offered : ∀ i x, (m.pc .receiver).offered = some (i, x) → Awaiting tr m.sess i x
  adding : ∀ i x, m.pc .receiver = .inOpenAdd i x → Born m.sess i x ∧ .incoming i x ∈ tr ∧
    ¬ Asked tr i
  shut : ∀ i x, m.pc .receiver = .inOpenShut i x → i ∉ m.sess.channels ∧ .incoming i x ∈ tr
  decided : ∀ i, (m.pc .dispatcher).decided = some i → Asked tr i
  asked : ∀ i, Asked tr i → i < m.sess.nextLocalChannelID

theorem incoming_start : Incoming [] Machine.start where
  found := nofun
  distinct := List.nodup_nil
  deciding := nofun
  accepting := nofun
  offered := nofun
  adding := nofun
  shut := nofun
  decided := nofun
  asked _ h := by obtain ⟨_, _, h⟩ := h; cases h

/-- What a step does to the opens in waiting. -/
inductive WaitMove (m : Machine) (t : Tid) (o : Out) (l : List ChannelOpen) : Prop where
  | same (h : l = m.waiting) (ha : ∀ i x, m.pc t ≠ .admitDecide i x)
      (hf : ∀ i x, m.pc t ≠ .inOpenRemove i x)
  | asked {i x} (hpc : m.pc t = .admitDecide i x) (h : m.waiting = x :: l)
  | gone {x} (hpc : m.pc t = .admitLookup x)
      (hn : m.sess.lookupChannelByPeer x.senderChannelID = none)
  | added {i x} (hpc : m.pc t = .inOpenAdd i x) (hu : x.senderChannelID ∉ m.sess.peerIDs)
      (hs : o.sess = m.sess.pendingAdded i (some x.senderChannelID)) (he : o.events = [])
      (h : l = m.waiting ++ [x])
  | removed {i x} (hpc : m.pc t = .inOpenRemove i x) (h : m.waiting = l ++ [x])

section Awaiting

variable {tr : List Event} {s : Session} {i j : Nat} {x y : ChannelOpen}

theorem Awaiting.born (h : Awaiting tr s i x) : Born s i x := ⟨h.peerID, h.state, h.openWait⟩

theorem Awaiting.holds (h : Awaiting tr s i x) : s.table.Holds x.senderChannelID i :=
  ⟨h.table, h.reached, h.slot⟩

theorem Awaiting.of_born (hB : Born s i x) (hH : s.table.Holds x.senderChannelID i)
    (hm : .incoming i x ∈ tr) (hu : ¬ Asked tr i) : Awaiting tr s i x where
  table := hH.mem
  reached := hH.reached
  peerID := hB.peerID
  made := hm
  unasked y d hy := hu ⟨y, d, hy⟩
  state := hB.state
  openWait := hB.openWait
  slot := hH.slot

theorem Awaiting.not_asked (h : Awaiting tr s i x) : ¬ Asked tr i := fun ⟨y, d, hy⟩ => h.unasked y d hy

theorem Awaiting.lookup (h : Awaiting tr s i x) :
    s.lookupChannelByPeer x.senderChannelID = some i := by
  unfold Session.lookupChannelByPeer
  rw [h.reached]
  exact if_pos h.table

/-- A channel waits for one open only. -/
theorem Awaiting.same_sender (h : Awaiting tr s i x) (h' : Awaiting tr s i y) :
    x.senderChannelID = y.senderChannelID := h.peerID.symm.trans h'.peerID

end Awaiting

section Step

variable {cfg : Prepared} {C : Machine → Act → Prop} {tr : List Event} {m : Machine} {t : Tid}
  {o : Out} {i : Nat} {x : ChannelOpen}

theorem Outbox.is_dispatcher (hO : Outbox tr m) (h : (m.pc t).role = some .dispatcher) :
    t = .dispatcher := by
  have hr := hO.fits t _ h
  cases t <;> first | rfl | cases hr

theorem decided_role {pc : Pc} (h : pc.decided = some i) : pc.role = some .dispatcher := by
  cases pc with
  | ensure _ _ k | reserve _ _ k | push _ _ k | await _ _ k => cases k <;> first | rfl | cases h
  | _ => first | rfl | cases h

/-- **Nobody but the goroutines that hold the open is on its way to its channel.** -/
theorem unousted (hr : (Machine.lts cfg.config).Run C tr m) (hB : Born m.sess i x)
    (hm : .incoming i x ∈ tr) (hd : (m.pc t).decided ≠ some i)
    (hf : ∀ y, m.pc t ≠ .inOpenRemove i y ∧ m.pc t ≠ .inOpenShut i y) : ¬ Ousts t i (m.pc t) := by
  have hI := owned_run hr
  rintro (h | h | h | @⟨y, h | h⟩)
  · -- what is claimed is an own channel or has been accepted
    have hacc := (hI.claims t i h).accepted ((announced_run hr).incoming i x hm).2
    exact (hI.accepted i hacc).2.1 hB.state
  · exact hd h
  · exact hI.opened t i (by rw [h]; rfl) hB.state
  · exact (hf y).1 h
  · exact (hf y).2 h

theorem not_down (hr : (Machine.lts cfg.config).Run C tr m) (hup : m.sess.closing = false) :
    (m.pc t).down = false := by
  by_contra hd
  have hc := down_run hr t (Bool.eq_true_of_not_eq_false hd)
  rw [hup] at hc
  cases hc

/-- A channel in its admission stays as it is. -/
theorem born_step (hr : (Machine.lts cfg.config).Run C tr m) (hup : m.sess.closing = false)
    (he : Effect cfg.config m.sess t (m.pc t) o) (hB : Born m.sess i x) (hm : .incoming i x ∈ tr)
    (hn : ¬ Ousts t i (m.pc t)) : Born o.sess i x :=
  hB.kept he ((announced_run hr).incoming i x hm).1 (not_down hr hup) hn

theorem holds_step {p : Nat} (hr : (Machine.lts cfg.config).Run C tr m)
    (hup : m.sess.closing = false) (he : Effect cfg.config m.sess t (m.pc t) o)
    (hup' : o.sess.closing = false) (hH : m.sess.table.Holds p i) (hn : ¬ Ousts t i (m.pc t)) :
    o.sess.table.Holds p i :=
  hH.kept (tabled_run hr hup) (pairing_run hr) he hup' hn

/-- The handler is asked by the dispatcher, about the channel it has found. -/
theorem asked_of_step {y : ChannelOpen} {d : Response} (he : Effect cfg.config m.sess t (m.pc t) o)
    (h : .onChannelOpen i y d ∈ o.events) : m.pc t = .admitDecide i y := by
  generalize m.pc t = pc at he
  cases admit_step he with
  | asked =>
    cases List.mem_singleton.mp h
    rfl
  | accepted hev => exact absurd h (hev i y d)
  | other _ _ _ _ _ hev => exact absurd h (hev i y d)
  | made | added | reserved | noRoom | full | queued | removed | taken | released | found | gone =>
    simp at h

theorem asked_append (h : Asked tr i) (evs : List Event) : Asked (tr ++ evs) i := by
  obtain ⟨y, d, hy⟩ := h
  exact ⟨y, d, List.mem_append_left _ hy⟩

/-- The channel of an open in waiting stays as it is, unless the handler answers for it or the
    receiver, which found no room for the open, takes it back. -/
theorem Incoming.awaiting_step (hI : Incoming tr m) (hr : (Machine.lts cfg.config).Run C tr m)
    (hup : m.sess.closing = false) (he : Effect cfg.config m.sess t (m.pc t) o)
    (hup' : o.sess.closing = false) (hA : Awaiting tr m.sess i x)
    (ha : ∀ y, m.pc t ≠ .admitDecide i y) (hf : ∀ y, m.pc t ≠ .inOpenRemove i y) :
    Awaiting (tr ++ o.events) o.sess i x := by
  have hO := outbox_run hr
  have hn : ¬ Ousts t i (m.pc t) := by
    refine unousted hr hA.born hA.made (fun hd => ?_) fun y => ⟨hf y, fun hs => ?_⟩
    · cases hO.is_dispatcher (decided_role hd)
      exact hA.not_asked (hI.decided i hd)
    · cases hO.is_receiver (t := t) (by rw [hs]; rfl)
      exact (hI.shut i y hs).1 hA.table
  refine .of_born (born_step hr hup he hA.born hA.made hn) (holds_step hr hup he hup' hA.holds hn)
    (List.mem_append_left _ hA.made) ?_
  rintro ⟨y, d, hy⟩
  rcases List.mem_append.mp hy with hy | hy
  · exact hA.unasked y d hy
  · exact ha y (asked_of_step he hy)

theorem waiting_eq {m' : Machine} (hq : m'.sess.opens = m.sess.opens)
    (ha : (m'.pc .dispatcher).admits = (m.pc .dispatcher).admits)
    (hf : (m'.pc .receiver).offered = (m.pc .receiver).offered) : m'.waiting = m.waiting := by
  unfold Machine.waiting Machine.admissions
  rw [hq, ha, hf]

theorem wait_move (hO : Outbox tr m) (he : Effect cfg.config m.sess t (m.pc t) o) :
    WaitMove m t o (⟨o.sess, update m.pc t o.pc⟩ : Machine).waiting := by
  have hsame : ∀ {s' : Session} {pc' : Pc}, s'.opens = m.sess.opens → pc'.admits = (m.pc t).admits →
      pc'.offered = (m.pc t).offered →
      (⟨s', update m.pc t pc'⟩ : Machine).waiting = m.waiting := fun hq ha hf =>
    waiting_eq hq (update_proj Pc.admits ha) (update_proj Pc.offered hf)
  have hdisp := hO.is_dispatcher (t := t)
  have hrecv := hO.is_receiver (t := t)
  generalize hpc : m.pc t = pc at he hsame hdisp hrecv
  cases admit_step he with
  | made | reserved | noRoom | full | released | found | accepted =>
    exact .same (hsame rfl rfl rfl) (by simp [hpc]) (by simp [hpc])
  | added hu =>
    cases hrecv rfl
    refine .added hpc hu rfl rfl ?_
    simp [Machine.waiting, Machine.admissions, hpc, Pc.offered, Session.opens, Session.pendingAdded,
      Session.setChan]
  | queued =>
    cases hrecv rfl
    refine .same ?_ (by simp [hpc]) (by simp [hpc])
    simp [Machine.waiting, Machine.admissions, hpc, Pc.offered, Session.opens, DispatchTask.opens]
  | removed =>
    cases hrecv rfl
    refine .removed hpc ?_
    simp [Machine.waiting, Machine.admissions, hpc, Pc.offered, Session.opens, Session.removeChannel,
      Session.setChan]
  | taken h =>
    cases hdisp rfl
    refine .same ?_ (by simp [hpc]) (by simp [hpc])
    simp [Machine.waiting, Machine.admissions, hpc, Pc.admits, Session.opens, DispatchTask.opens, h]
  | gone h => exact .gone hpc h
  | @asked i x _ _ _ ha =>
    cases hdisp rfl
    have hx : (Pc.admitDecide i x).admits = some x := rfl
    refine .asked hpc ?_
    simp [Machine.waiting, Machine.admissions, hpc, hx, ha]
  | other hq ha hf hp =>
    have hadmits : o.pc.admits = pc.admits := (Pc.plain_admits hp).trans ha.symm
    have hoffered : o.pc.offered = pc.offered := (Pc.plain_offered hp).trans hf.symm
    refine .same (hsame hq hadmits hoffered) ?_ ?_
    · rintro i x hx
      rw [← hpc, hx] at ha
      cases ha
    · rintro i x hx
      rw [← hpc, hx] at hf
      cases hf

/-- The receiver puts the channel of an open in the table. -/
theorem Incoming.added_awaiting (hI : Incoming tr m) (hpc : m.pc .receiver = .inOpenAdd i x) :
    Awaiting tr (m.sess.pendingAdded i (some x.senderChannelID)) i x := by
  obtain ⟨hB, hm, hu⟩ := hI.adding i x hpc
  refine .of_born ⟨?_, ?_, ?_⟩ ⟨List.mem_insert_self, ?_, ?_⟩ hm hu
  · simpa [Session.pendingAdded, Session.setChan] using hB.peerID
  · simpa [Session.pendingAdded, Session.setChan] using hB.state
  · simpa [Session.pendingAdded, Session.setChan] using hB.openWait
  · simp [Session.table, Session.pendingAdded]
  · simp [Session.table, Session.pendingAdded, Session.setChan]

/-- The open the dispatcher looks up is in waiting. -/
theorem Incoming.lookup_awaiting (hI : Incoming tr m) (hO : Outbox tr m)
    (hpc : m.pc t = .admitLookup x) : ∃ i, Awaiting tr m.sess i x := by
  cases hO.is_dispatcher (t := t) (by rw [hpc]; rfl)
  exact hI.found x (by simp [Machine.waiting, Machine.admissions, hpc, Pc.admits])

/-- An open in waiting is the one its sender tells of. -/
theorem Incoming.ne_sender (hI : Incoming tr m) {y : ChannelOpen} {l₁ l₂ : List ChannelOpen}
    (hw : m.waiting = l₁ ++ y :: l₂) (hx : x ∈ l₁ ++ l₂) :
    x.senderChannelID ≠ y.senderChannelID := by
  have hd := hI.distinct
  rw [hw, List.map_append, List.map_cons, List.nodup_middle, List.nodup_cons] at hd
  intro heq
  refine hd.1 (heq ▸ ?_)
  rw [← List.map_append]
  exact List.mem_map_of_mem hx

theorem Incoming.found_step (hI : Incoming tr m) (hr : (Machine.lts cfg.config).Run C tr m)
    (hup : m.sess.closing = false) (he : Effect cfg.config m.sess t (m.pc t) o)
    (hup' : o.sess.closing = false)
    (hx : x ∈ (⟨o.sess, update m.pc t o.pc⟩ : Machine).waiting) :
    ∃ i, Awaiting (tr ++ o.events) o.sess i x := by
  have hO := outbox_run hr
  generalize hl : (⟨o.sess, update m.pc t o.pc⟩ : Machine).waiting = l at hx
  have hmove := wait_move hO he
  rw [hl] at hmove
  cases hmove with
  | same h ha hf =>
    rw [h] at hx
    obtain ⟨i, hA⟩ := hI.found x hx
    exact ⟨i, hI.awaiting_step hr hup he hup' hA (ha i) (hf i)⟩
  | @asked j y hpc h =>
    obtain ⟨i, hA⟩ := hI.found x (h ▸ List.mem_cons_of_mem _ hx)
    refine ⟨i, hI.awaiting_step hr hup he hup' hA (fun z hz => ?_) (by rw [hpc]; nofun)⟩
    -- the handler answers for the open in front, which has another channel
    cases hpc.symm.trans hz
    cases hO.is_dispatcher (t := t) (by rw [hz]; rfl)
    exact hI.ne_sender (show _ = [] ++ y :: _ from h) hx (hA.same_sender (hI.deciding _ _ hz))
  | gone hpc hn =>
    obtain ⟨i, hA⟩ := hI.lookup_awaiting hO hpc
    rw [hA.lookup] at hn
    cases hn
  | @added j y hpc hu hs hev h =>
    rw [h] at hx
    rcases List.mem_append.mp hx with hx | hx
    · obtain ⟨i, hA⟩ := hI.found x hx
      exact ⟨i, hI.awaiting_step hr hup he hup' hA (by rw [hpc]; nofun) (by rw [hpc]; nofun)⟩
    · cases List.mem_singleton.mp hx
      cases hO.is_receiver (t := t) (by rw [hpc]; rfl)
      rw [hev, List.append_nil, hs]
      exact ⟨j, hI.added_awaiting hpc⟩
  | @removed j y hpc h =>
    obtain ⟨i, hA⟩ := hI.found x (h ▸ List.mem_append_left _ hx)
    refine ⟨i, hI.awaiting_step hr hup he hup' hA (by rw [hpc]; nofun) fun z hz => ?_⟩
    cases hpc.symm.trans hz
    cases hO.is_receiver (t := t) (by rw [hz]; rfl)
    have hB := hI.offered _ _ (show (m.pc .receiver).offered = some _ by rw [hz]; rfl)
    exact hI.ne_sender h (by simpa using hx) (hA.same_sender hB)

theorem Incoming.distinct_step (hI : Incoming tr m) (hO : Outbox tr m)
    (he : Effect cfg.config m.sess t (m.pc t) o) :
    ((⟨o.sess, update m.pc t o.pc⟩ : Machine).waiting.map (·.senderChannelID)).Nodup := by
  have hd := hI.distinct
  cases wait_move hO he with
  | same h => rw [h]; exact hd
  | asked _ h => rw [h] at hd; exact hd.of_cons
  | gone hpc hn =>
    obtain ⟨i, hA⟩ := hI.lookup_awaiting hO hpc
    rw [hA.lookup] at hn
    cases hn
  | @added j y _ hu _ _ h =>
    rw [h, List.map_append]
    refine hd.append (List.nodup_singleton _) fun p hp hy => ?_
    -- an open in waiting is in the peer map, where the new one is not
    obtain ⟨x, hx, hxp⟩ := List.mem_map.mp hp
    obtain ⟨i, hA⟩ := hI.found x hx
    have hxy : x.senderChannelID = y.senderChannelID := hxp.trans (List.mem_singleton.mp hy)
    exact hu (hxy ▸ hA.holds.key)
  | removed _ h => rw [h, List.map_append] at hd; exact hd.of_append_left

/-- Another goroutine's step leaves the dispatcher's and the receiver's channels alone. -/
theorem Incoming.other_step (hI : Incoming tr m) (hr : (Machine.lts cfg.config).Run C tr m)
    (hup : m.sess.closing = false) (he : Effect cfg.config m.sess t (m.pc t) o)
    (hup' : o.sess.closing = false) (hA : Awaiting tr m.sess i x)
    (hd : t = .dispatcher → ∀ y, m.pc t ≠ .admitDecide i y)
    (hf : t = .receiver → ∀ y, m.pc t ≠ .inOpenRemove i y) :
    Awaiting (tr ++ o.events) o.sess i x := by
  have hO := outbox_run hr
  refine hI.awaiting_step hr hup he hup' hA (fun y hy => ?_) fun y hy => ?_
  · exact hd (hO.is_dispatcher (by rw [hy]; rfl)) y hy
  · exact hf (hO.is_receiver (by rw [hy]; rfl)) y hy

/-- The open the receiver holds is for another channel than those the dispatcher will come to. -/
theorem Incoming.ne_offered (hI : Incoming tr m) {j : Nat} {y : ChannelOpen} (hx : x ∈ m.admissions)
    (hA : Awaiting tr m.sess i x) (hy : (m.pc .receiver).offered = some (j, y)) : i ≠ j := by
  rintro rfl
  have hw : m.waiting = m.admissions ++ y :: [] := by simp [Machine.waiting, hy]
  exact hI.ne_sender hw (by simpa using hx) (hA.same_sender (hI.offered i y hy))

theorem mem_admissions {i : Nat} (h : m.pc .dispatcher = .admitDecide i x) : x ∈ m.admissions := by
  simp [Machine.admissions, h, Pc.admits]

theorem Incoming.deciding_step (hI : Incoming tr m) (hr : (Machine.lts cfg.config).Run C tr m)
    (hup : m.sess.closing = false) (he : Effect cfg.config m.sess t (m.pc t) o)
    (hup' : o.sess.closing = false)
    (hpc' : update m.pc t o.pc .dispatcher = .admitDecide i x) :
    Awaiting (tr ++ o.events) o.sess i x := by
  by_cases ht : t = .dispatcher
  · subst ht
    rw [update_self] at hpc'
    have hlook := fun x => hI.lookup_awaiting (x := x) (outbox_run hr) (t := .dispatcher)
    generalize m.pc .dispatcher = pc at he hlook
    cases admit_step he with
    | found h =>
      cases hpc'
      obtain ⟨j, hA⟩ := hlook x rfl
      cases hA.lookup.symm.trans h
      rwa [List.append_nil]
    | asked _ ha => cases (congrArg Pc.admits hpc').symm.trans ha
    | other _ _ _ hp => rw [hpc'] at hp; cases hp
    | made | added | reserved | noRoom | full | queued | removed | taken | released | gone
    | accepted => cases hpc'
  · rw [update_of_ne (Ne.symm ht)] at hpc'
    have hA := hI.deciding i x hpc'
    refine hI.other_step hr hup he hup' hA (fun h => absurd h ht) ?_
    rintro rfl y hy
    exact hI.ne_offered (mem_admissions hpc') hA (by rw [hy]; rfl) rfl

/-- The receiver does not refuse a channel of the table the dispatcher has its answer for. -/
theorem Incoming.unrefused (hI : Incoming tr m) (hO : Outbox tr m)
    (hd : (m.pc .dispatcher).decided = some i) (hi : i ∈ m.sess.channels) (y : ChannelOpen) :
    m.pc t ≠ .inOpenRemove i y ∧ m.pc t ≠ .inOpenShut i y := by
  constructor
  · -- the receiver takes back a channel the handler has not been asked about
    intro hy
    cases hO.is_receiver (t := t) (by rw [hy]; rfl)
    exact (hI.offered i y (by rw [hy]; rfl)).not_asked (hI.decided i hd)
  · intro hy
    cases hO.is_receiver (t := t) (by rw [hy]; rfl)
    exact (hI.shut i y hy).1 hi

theorem Incoming.accepting_step (hI : Incoming tr m) (hr : (Machine.lts cfg.config).Run C tr m)
    (hup : m.sess.closing = false) (he : Effect cfg.config m.sess t (m.pc t) o)
    (hup' : o.sess.closing = false) {d : Response}
    (hpc' : update m.pc t o.pc .dispatcher = .admitAccept i x d) :
    Born o.sess i x ∧ o.sess.table.Holds x.senderChannelID i ∧ .incoming i x ∈ tr ++ o.events := by
  by_cases ht : t = .dispatcher
  · subst ht
    rw [update_self] at hpc'
    have hdec := hI.deciding
    generalize m.pc .dispatcher = pc at he hdec
    cases admit_step he with
    | @asked j y _ pc' hp _ hx =>
      cases hx i x d hpc'
      rw [show pc' = _ from hpc'] at hp
      cases hp
      have hA := hdec i x rfl
      exact ⟨hA.born, hA.holds, List.mem_append_left _ hA.made⟩
    | other _ _ _ hp => rw [hpc'] at hp; cases hp
    | made | added | reserved | noRoom | full | queued | removed | taken | released | found | gone
    | accepted => cases hpc'
  · rw [update_of_ne (Ne.symm ht)] at hpc'
    have hO := outbox_run hr
    obtain ⟨hB, hH, hm⟩ := hI.accepting i x d hpc'
    have hn : ¬ Ousts t i (m.pc t) :=
      unousted hr hB hm (fun hd => ht (hO.is_dispatcher (decided_role hd)))
        (hI.unrefused hO (by rw [hpc']; rfl) hH.mem)
    exact ⟨born_step hr hup he hB hm hn, holds_step hr hup he hup' hH hn, List.mem_append_left _ hm⟩

theorem Incoming.offered_step (hI : Incoming tr m) (hr : (Machine.lts cfg.config).Run C tr m)
    (hup : m.sess.closing = false) (he : Effect cfg.config m.sess t (m.pc t) o)
    (hup' : o.sess.closing = false)
    (hf : (update m.pc t o.pc .receiver).offered = some (i, x)) :
    Awaiting (tr ++ o.events) o.sess i x := by
  by_cases ht : t = .receiver
  · subst ht
    rw [update_self] at hf
    have hadd := hI.added_awaiting (i := i) (x := x)
    have hkept : (m.pc .receiver).offered = some (i, x) →
        (∀ y, m.pc .receiver ≠ .inOpenRemove i y) → Awaiting (tr ++ o.events) o.sess i x :=
      fun h hn => hI.other_step hr hup he hup' (hI.offered i x h) nofun fun _ => hn
    have hfits := (outbox_run hr).fits .receiver
    generalize m.pc .receiver = pc at he hadd hkept hfits
    cases admit_step he with
    | added =>
      cases hf
      rw [List.append_nil]
      exact hadd rfl
    | reserved | noRoom | full => exact hkept hf (by simp)
    | other _ _ _ hp => rw [Pc.plain_offered hp] at hf; cases hf
    | asked => cases hfits _ rfl
    | made | queued | removed | taken | released | found | gone | accepted => cases hf
  · rw [update_of_ne (Ne.symm ht)] at hf
    have hA := hI.offered i x hf
    refine hI.other_step hr hup he hup' hA ?_ fun h => absurd h ht
    rintro rfl y hy
    exact hI.ne_offered (mem_admissions hy) (hI.deciding i y hy) hf rfl

theorem Incoming.adding_step (hI : Incoming tr m) (hr : (Machine.lts cfg.config).Run C tr m)
    (hup : m.sess.closing = false) (he : Effect cfg.config m.sess t (m.pc t) o)
    (hpc' : update m.pc t o.pc .receiver = .inOpenAdd i x) :
    Born o.sess i x ∧ .incoming i x ∈ tr ++ o.events ∧ ¬ Asked (tr ++ o.events) i := by
  have hO := outbox_run hr
  by_cases ht : t = .receiver
  · subst ht
    rw [update_self] at hpc'
    have hfits := hO.fits .receiver
    generalize m.pc .receiver = pc at he hfits
    cases admit_step he with
    | made =>
      cases hpc'
      refine ⟨⟨?_, ?_, ?_⟩, List.mem_append_right _ (List.mem_singleton.mpr rfl), ?_⟩
      · simp [Session.channelMade, Session.setChan, newIncomingChannel]
      · simp [Session.channelMade, Session.setChan, newIncomingChannel, newPendingChannel]
      · simp [Session.channelMade, Session.setChan, newIncomingChannel]
      · rintro ⟨y, d, hy⟩
        rcases List.mem_append.mp hy with hy | hy
        · exact Nat.lt_irrefl _ (hI.asked _ ⟨y, d, hy⟩)
        · cases List.mem_singleton.mp hy
    | other _ _ _ hp => rw [hpc'] at hp; cases hp
    | asked => cases hfits _ rfl
    | added | reserved | noRoom | full | queued | removed | taken | released | found | gone
    | accepted => cases hpc'
  · rw [update_of_ne (Ne.symm ht)] at hpc'
    obtain ⟨hB, hm, hu⟩ := hI.adding i x hpc'
    have hn : ¬ Ousts t i (m.pc t) := by
      refine unousted hr hB hm (fun hd => ?_) fun y => ⟨fun hy => ?_, fun hy => ?_⟩
      · cases hO.is_dispatcher (decided_role hd)
        exact hu (hI.decided i hd)
      · exact ht (hO.is_receiver (by rw [hy]; rfl))
      · exact ht (hO.is_receiver (by rw [hy]; rfl))
    refine ⟨born_step hr hup he hB hm hn, List.mem_append_left _ hm, ?_⟩
    rintro ⟨y, d, hy⟩
    rcases List.mem_append.mp hy with hy | hy
    · exact hu ⟨y, d, hy⟩
    · -- the handler is asked about channels in the table only
      have hy := asked_of_step he hy
      cases hO.is_dispatcher (t := t) (by rw [hy]; rfl)
      exact ((tabled_run hr hup).adding .receiver i (by rw [hpc']; rfl)).1 (hI.deciding i y hy).table

/-- A channel comes into the table from the counter that adds it. -/
theorem adding_of_added (hr : (Machine.lts cfg.config).Run C tr m) (hup : m.sess.closing = false)
    (he : Effect cfg.config m.sess t (m.pc t) o) (hup' : o.sess.closing = false)
    (hn : i ∉ m.sess.channels) (hi : i ∈ o.sess.channels) : (m.pc t).adding = some i := by
  have hmade := (tabled_run hr hup).made_eq (pairing_run hr) (o := o)
  have hsame : o.sess.channels = m.sess.channels → (m.pc t).adding = some i := fun h =>
    absurd (h ▸ hi) hn
  generalize m.pc t = pc at he hsame ⊢
  cases table_op he with
  | same h | activated _ h | answered _ _ h => exact hsame (congrArg Table.ids h)
  | made h => exact hsame (congrArg Table.ids (hmade h))
  | @added _ _ j _ hj _ _ _ h =>
    have hids : o.sess.channels = m.sess.channels.insert j := congrArg Table.ids h
    rw [hids] at hi
    rcases List.mem_insert_iff.mp hi with rfl | hi
    · exact hj
    · exact absurd hi hn
  | @removed _ _ j h =>
    have hids : o.sess.channels = m.sess.channels.filter (· ≠ j) := congrArg Table.ids h
    rw [hids] at hi
    exact absurd (List.mem_filter.mp hi).1 hn
  | down h => rw [h] at hup'; cases hup'

theorem Incoming.shut_step (hI : Incoming tr m) (hr : (Machine.lts cfg.config).Run C tr m)
    (hup : m.sess.closing = false) (he : Effect cfg.config m.sess t (m.pc t) o)
    (hup' : o.sess.closing = false)
    (hpc' : update m.pc t o.pc .receiver = .inOpenShut i x) :
    i ∉ o.sess.channels ∧ .incoming i x ∈ tr ++ o.events := by
  by_cases ht : t = .receiver
  · subst ht
    rw [update_self] at hpc'
    have hfits := (outbox_run hr).fits .receiver
    have hoff := hI.offered i x
    generalize m.pc .receiver = pc at he hfits hoff
    cases admit_step he with
    | removed =>
      cases hpc'
      refine ⟨?_, List.mem_append_left _ (hoff rfl).made⟩
      simp [Session.removeChannel]
    | other _ _ _ hp => rw [hpc'] at hp; cases hp
    | asked => cases hfits _ rfl
    | made | added | reserved | noRoom | full | queued | taken | released | found | gone | accepted =>
      cases hpc'
  · rw [update_of_ne (Ne.symm ht)] at hpc'
    obtain ⟨hnot, hm⟩ := hI.shut i x hpc'
    refine ⟨fun hi => ?_, List.mem_append_left _ hm⟩
    -- a goroutine that adds a channel has made it
    have hadd := adding_of_added hr hup he hup' hnot hi
    have hA := announced_run hr
    have hx := hA.at_pc t
    have hO := outbox_run hr
    generalize hpc : m.pc t = pc at hadd hx
    cases pc with
    | inOpenAdd j y => exact ht (hO.is_receiver (by rw [hpc]; rfl))
    | openAdd j typ p =>
      cases hadd
      exact ht (hx.1.creator.symm.trans (hA.incoming i x hm).2)
    | _ => cases hadd

theorem Incoming.decided_step (hI : Incoming tr m)
    (he : Effect cfg.config m.sess t (m.pc t) o)
    (hd : (update m.pc t o.pc .dispatcher).decided = some i) : Asked (tr ++ o.events) i := by
  by_cases ht : t = .dispatcher
  · subst ht
    rw [update_self] at hd
    have hold := hI.decided i
    generalize m.pc .dispatcher = pc at he hold
    cases admit_step he with
    | @asked j y d _ hp =>
      cases hp.symm.trans hd
      exact ⟨y, d, List.mem_append_right _ (List.mem_singleton.mpr rfl)⟩
    | accepted => exact asked_append (hold hd) _
    | other _ _ _ _ hdec => exact asked_append (hold (hdec i hd)) _
    | made | added | reserved | noRoom | full | queued | removed | taken | released | found | gone =>
      cases hd
  · rw [update_of_ne (Ne.symm ht)] at hd
    exact asked_append (hI.decided i hd) _

theorem Incoming.asked_step (hI : Incoming tr m) (hK : Known m)
    (he : Effect cfg.config m.sess t (m.pc t) o) (ha : Asked (tr ++ o.events) i) :
    i < o.sess.nextLocalChannelID := by
  refine Nat.lt_of_lt_of_le ?_ (next_le he)
  obtain ⟨y, d, hy⟩ := ha
  rcases List.mem_append.mp hy with hy | hy
  · exact hI.asked i ⟨y, d, hy⟩
  · exact hK.locals t i (asked_of_step he hy ▸ List.mem_singleton.mpr rfl)

end Step

/-- **Every open in waiting has its channel, in every run**, whatever the peer sends and until the
    session is shut down. -/
theorem incoming_run {cfg : Prepared} {C : Machine → Act → Prop} {tr : List Event} {m : Machine}
    (h : (Machine.lts cfg.config).Run C tr m) (hup : m.sess.closing = false) : Incoming tr m := by
  refine Machine.run_invariant_up h hup incoming_start fun {tr m a o} hr hbefore hI _ he hup => ?_
  exact {
    found := fun _ hx => hI.found_step hr hbefore he hup hx
    distinct := hI.distinct_step (outbox_run hr) he
    deciding := fun _ _ h => hI.deciding_step hr hbefore he hup h
    accepting := fun _ _ _ h => hI.accepting_step hr hbefore he hup h
    offered := fun _ _ h => hI.offered_step hr hbefore he hup h
    adding := fun _ _ h => hI.adding_step hr hbefore he h
    shut := fun _ _ h => hI.shut_step hr hbefore he hup h
    decided := fun _ h => hI.decided_step he h
    asked := fun _ h => hI.asked_step (known_run hr) he h }

/-! ## 5. The checks of `handleChannelOpen` -/

/-- The peer's close takes no channel out of the table that has been opened and not yet activated. -/
def Machine.closesActive (m : Machine) (a : Act) : Bool :=
  match m.pc a.tid with
  | .inCloseRemove i => (m.sess.chan i).slot ≠ .channelSlotPending
  | _ => true

/-- What the dispatcher is about to activate is in its pending slot. -/
def Machine.Activates (tr : List Event) (m : Machine) : Prop :=
  ∀ i x d, m.pc .dispatcher = .admitActivate i x d →
    m.sess.table.Holds x.senderChannelID i ∧ .incoming i x ∈ tr

theorem Incoming.activating_step {cfg : Prepared} {C : Machine → Act → Prop} {tr : List Event}
    {m : Machine} {a : Act} {o : Out} (hI : Incoming tr m)
    (hr : (Machine.lts cfg.config).Run C tr m) (hup : m.sess.closing = false)
    (hact : m.Activates tr) (hC : m.closesActive a = true)
    (he : Effect cfg.config m.sess a.tid (m.pc a.tid) o) (hup' : o.sess.closing = false) :
    (Machine.mk o.sess (update m.pc a.tid o.pc)).Activates (tr ++ o.events) := by
  intro i x d hpc'
  change update m.pc a.tid o.pc .dispatcher = _ at hpc'
  change o.sess.table.Holds _ i ∧ _
  by_cases ht : a.tid = .dispatcher
  · have hacc := hI.accepting i x d
    rw [ht] at he hpc'
    rw [update_self] at hpc'
    generalize m.pc .dispatcher = pc at he hacc
    cases admit_step he with
    | accepted =>
      cases hpc'
      obtain ⟨-, hH, hm⟩ := hacc rfl
      have hkept : (m.sess.setChan i { m.sess.chan i with
          state := .channelOpen, gen := (m.sess.chan i).gen + 1 }).table = m.sess.table :=
        table_kept rfl rfl rfl rfl rfl rfl
      exact ⟨hkept.symm ▸ hH, List.mem_append_left _ hm⟩
    | asked _ _ _ hn => exact absurd hpc' (hn i x d)
    | other _ _ _ hp => rw [hpc'] at hp; cases hp
    | made | added | reserved | noRoom | full | queued | removed | taken | released | found | gone =>
      cases hpc'
  · rw [update_of_ne (Ne.symm ht)] at hpc'
    obtain ⟨hH, hm⟩ := hact i x d hpc'
    have hO := outbox_run hr
    have hW := owned_run hr
    have hrefused := hI.unrefused (t := a.tid) hO (by rw [hpc']; rfl) hH.mem
    refine ⟨holds_step hr hup he hup' hH ?_, List.mem_append_left _ hm⟩
    rintro (hx | hx | hx | @⟨y, hx | hx⟩)
    · -- what is claimed is an own channel or has been accepted
      have hacc := (hW.claims _ i hx).accepted ((announced_run hr).incoming i x hm).2
      exact (hW.accepted i hacc).2.2 hH.slot
    · exact ht (hO.is_dispatcher (decided_role hx))
    · simp only [Machine.closesActive, hx, decide_eq_true_eq] at hC
      exact hC hH.slot
    · exact (hrefused y).1 hx
    · exact (hrefused y).2 hx

theorem activating_run {cfg : Prepared} {tr : List Event} {m : Machine}
    (h : (Machine.lts cfg.config).Run (fun m a => m.closesActive a = true) tr m)
    (hup : m.sess.closing = false) : m.Activates tr := by
  refine Machine.run_invariant_up (I := fun tr m => m.Activates tr) h hup
    (fun _ _ _ h => by cases h) fun {tr m a o} hr hbefore hact hC he hup => ?_
  exact (incoming_run hr hbefore).activating_step hr hbefore hact hC he hup

/-- The counters at which `handleChannelOpen` can return an error of its own: the channel has
    disappeared, has changed its state, or is not pending activation. -/
def Pc.checks : Pc → Bool
  | .admitLookup _ | .admitAccept .. | .admitActivate .. => true
  | _ => false

/-- What `handleChannelOpen` relies on: every open the handler has not answered finds a channel, one
    for each, the handler is asked about that channel, and no check ends in `shutdown`. -/
structure Machine.AdmissionOk (cfg : Config) (tr : List Event) (m : Machine) : Prop where
  found : ∀ x ∈ m.admissions, ∃ i, Awaiting tr m.sess i x
  distinct : (m.admissions.map (·.senderChannelID)).Nodup
  asks : ∀ i x, m.pc .dispatcher = .admitDecide i x → Awaiting tr m.sess i x
  passes : ∀ c o, (m.pc .dispatcher).checks = true →
    m.sess.exec cfg .dispatcher c (m.pc .dispatcher) = some o → ∀ e k, o.pc ≠ .shutdown e k

theorem eq_of_only {o o' : Out} {c : Choice} (h : only o c = some o') : o' = o := by
  cases c <;> cases h
  rfl

/-- **Admissions always find their channel**, in every run in which the peer's close removes no
    channel between its opening and its activation. -/
theorem admission_finds_channel {cfg : Prepared} {tr : List Event} {m : Machine}
    (h : (Machine.lts cfg.config).Run (fun m a => m.closesActive a = true) tr m)
    (hup : m.sess.closing = false) : m.AdmissionOk cfg.config tr := by
  have hI := incoming_run h hup
  have hfound : ∀ x ∈ m.admissions, ∃ i, Awaiting tr m.sess i x := fun x hx =>
    hI.found x (List.mem_append_left _ hx)
  have hdistinct := hI.distinct
  rw [Machine.waiting, List.map_append] at hdistinct
  refine ⟨hfound, hdistinct.of_append_left, hI.deciding, fun c o hc hx e k => ?_⟩
  have hact := activating_run h hup
  unfold Machine.Activates at hact
  have hacc := hI.accepting
  have hlook := fun x => hI.lookup_awaiting (x := x) (outbox_run h) (t := .dispatcher)
  generalize m.pc .dispatcher = pc at hc hx hact hacc hlook
  cases pc with
  | admitLookup x =>
    obtain ⟨i, hA⟩ := hlook x rfl
    simp [eq_of_only hx, Session.admitLookup, hA.lookup]
  | admitAccept i x d =>
    obtain ⟨hB, -⟩ := hacc i x d rfl
    simp [eq_of_only hx, Session.admitAccept, hB.state]
  | admitActivate i x d =>
    obtain ⟨hH, -⟩ := hact i x d rfl
    -- the channel is counted among the pending ones
    have hT := (tabled_run h hup).valid
    have hpos := hT.slotCount_pos (i := i) (by simp [hH.slot])
    rw [hH.slot, ← hT.pending] at hpos
    have hslot : (m.sess.chan i).slot = .channelSlotPending := hH.slot
    have hcount : m.sess.pendingOpens ≠ 0 := Nat.pos_iff_ne_zero.mp hpos
    have hok : m.sess.activateChannel i = .ok (m.sess.slotActivated i) := by
      rw [Session.activateChannel, if_neg (not_not_intro hslot), if_neg hcount]
    simp [eq_of_only hx, Session.admitActivate, hok]
  | _ => cases hc

/-- The handler is asked about one open while the next one is in the queue. -/
theorem admission_finds_channel_two : ∃ tr m,
    (Machine.lts narrow.config).Run (fun m a => m.closesActive a = true) tr m ∧
    m.sess.closing = false ∧ m.admissions.map (·.senderChannelID) = [5, 6] ∧
    m.AdmissionOk narrow.config tr := by
  obtain ⟨tr, m, h, hup, htwo⟩ := Lts.exists_run_of_replay (L := Machine.lts narrow.config)
    (C := fun m a => m.closesActive a = true)
    (P := fun _ m => m.sess.closing = false ∧ m.admissions.map (·.senderChannelID) = [5, 6])
    (Tid.env.does [.activate] ++ Tid.receiver.does [.go] ++ Tid.dispatcher.does [.go] ++
      Tid.receiver.does [.frame (.channelOpen ⟨"t", 5, 4, 4, []⟩), .go, .go, .go, .go] ++
      Tid.dispatcher.does [.go, .go, .go] ++
      Tid.receiver.does [.frame (.channelOpen ⟨"t", 6, 4, 4, []⟩), .go, .go, .go, .go])
    (by decide +kernel)
  exact ⟨tr, m, h, hup, htwo, admission_finds_channel h hup⟩

/-- The error a goroutine shuts the session down with. -/
def Pc.failure : Pc → Option Err
  | .shutdown e _ => e
  | _ => none

/-- **An admission can be closed under the dispatcher.** It has opened the channel and released the
    channel's lock; the peer, which has not been told the id yet, closes it, and the receiver takes it
    out of the table; then the dispatcher finds that it is not pending activation. -/
theorem admission_closed_by_peer : ∃ tr m o,
    (Machine.lts narrow.config).Run (fun _ _ => True) tr m ∧ m.sess.closing = false ∧
    m.sess.exec narrow.config .dispatcher .go (m.pc .dispatcher) = some o ∧
    o.pc.failure = some (.notPending 0) ∧ ¬ m.AdmissionOk narrow.config tr := by
  obtain ⟨tr, m, h, hup, hc, hx⟩ := Lts.exists_run_of_replay (L := Machine.lts narrow.config)
    (C := fun _ _ => True)
    (P := fun _ m => m.sess.closing = false ∧ (m.pc .dispatcher).checks = true ∧
      ((m.sess.exec narrow.config .dispatcher .go (m.pc .dispatcher)).bind fun o => o.pc.failure) =
        some (.notPending 0))
    (Tid.env.does [.activate] ++ Tid.receiver.does [.go] ++ Tid.dispatcher.does [.go] ++
      Tid.receiver.does [.frame (.channelOpen ⟨"t", 5, 4, 4, []⟩), .go, .go, .go, .go] ++
      Tid.dispatcher.does [.go, .go, .go, .answer ⟨true, [], "", ""⟩, .go] ++
      Tid.receiver.does [.frame (.channelClose 0), .go, .go, .go, .go]) (by decide +kernel)
  obtain ⟨o, hx, hf⟩ := Option.bind_eq_some_iff.mp hx
  refine ⟨tr, m, o, h, hup, hx, hf, fun hok => ?_⟩
  have hpass := hok.passes .go o hc hx
  generalize o.pc = pc at hf hpass
  cases pc with
  | shutdown e k => exact hpass e k rfl
  | _ => cases hf

end Mygosh.Mux

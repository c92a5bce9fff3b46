/-
  File:      Mygosh/Session/Table.lean
  Subject:   The channel table of a session (`mu`): ids, slots, the peer's ids and two counters.

  * `Table` -- the table alone, with its four operations; `Table.Valid`, `Table.Linked` -- its
    invariants, kept by each of them;
  * `table_op` -- a step of a session is one of the operations, or leaves the table alone;
  * `tabled_run` -- the counters count, whatever the peer sends and until `shutdown`;
    `linked_run` -- so long as no answer is taken for a channel that has left the table, the peer
    map points into the table.
-/
import Mygosh.Session.Locals

namespace Mygosh.Mux

open Function (update update_self update_of_ne update_eq_self)
open Session

/-! ## 1. Tables -/

/-- The channel table. -/
structure Table where
  ids : List Nat
  slot : Nat → ChannelSlot
  peers : List (Nat × Nat)
  active : Nat
  pending : Nat

namespace Table

variable {T : Table} {i j p : Nat}

/-- Channel `i` in a pending slot, under the peer's id if it is known. -/
def add (T : Table) (i : Nat) (peer : Option Nat) : Table where
  ids := T.ids.insert i
  slot := update T.slot i .channelSlotPending
  peers := match peer with
    | some p => (p, i) :: T.peers
    | none => T.peers
  active := T.active
  pending := T.pending + 1

/-- Channel `i` from a pending to an active slot. -/
def activate (T : Table) (i : Nat) : Table where
  ids := T.ids
  slot := update T.slot i .channelSlotActive
  peers := T.peers
  active := T.active + 1
  pending := T.pending - 1

/-- Channel `i` and what points to it out of the table; the counters stop at zero. -/
def remove (T : Table) (i : Nat) : Table where
  ids := T.ids.filter (· ≠ i)
  slot := update T.slot i (if i ∈ T.ids then .channelSlotNone else T.slot i)
  peers := if i ∈ T.ids then T.peers.filter (·.2 ≠ i) else T.peers
  active := if i ∈ T.ids ∧ T.slot i = .channelSlotActive ∧ T.active > 0 then T.active - 1
    else T.active
  pending := if i ∈ T.ids ∧ T.slot i = .channelSlotPending ∧ T.pending > 0 then T.pending - 1
    else T.pending

/-- The peer's id of channel `i`, learnt from its answer. -/
def answer (T : Table) (p i : Nat) : Table := { T with peers := (p, i) :: T.peers }

/-- How many of the channels are in a slot of this kind. -/
def slotCount (ids : List Nat) (slot : Nat → ChannelSlot) (k : ChannelSlot) : Nat :=
  ids.countP fun i => slot i = k

/-- **The table counts what it holds.** -/
structure Valid (T : Table) : Prop where
  nodup : T.ids.Nodup
  mem : ∀ i, i ∈ T.ids ↔ T.slot i ≠ .channelSlotNone
  active : T.active = slotCount T.ids T.slot .channelSlotActive
  pending : T.pending = slotCount T.ids T.slot .channelSlotPending

/-- **The peer map points into the table**, one entry to a channel. -/
structure Linked (T : Table) : Prop where
  live : ∀ p i, (p, i) ∈ T.peers → i ∈ T.ids
  keys : (T.peers.map (·.1)).Nodup
  chans : (T.peers.map (·.2)).Nodup

section Count

variable {l : List Nat} {g : Nat → ChannelSlot} {v k : ChannelSlot}

/-- A count with one channel set apart. -/
theorem slotCount_eq_erase (h : i ∈ l) :
    slotCount l g k = slotCount (l.erase i) g k + if g i = k then 1 else 0 := by
  unfold slotCount
  rw [(List.perm_cons_erase h).countP_eq, List.countP_cons]
  simp only [decide_eq_true_eq]

/-- A slot that is set counts for no other channel. -/
theorem slotCount_update_of_not_mem (h : i ∉ l) :
    slotCount l (update g i v) k = slotCount l g k := by
  refine List.countP_congr fun j hj => ?_
  have hji : j ≠ i := fun hji => h (hji ▸ hj)
  rw [update_of_ne hji]

theorem slotCount_update (hn : l.Nodup) (h : i ∈ l) :
    slotCount l (update g i v) k + (if g i = k then 1 else 0) =
      slotCount l g k + if v = k then 1 else 0 := by
  rw [slotCount_eq_erase h, @slotCount_eq_erase i l g k h,
    slotCount_update_of_not_mem hn.not_mem_erase, update_self]
  omega

theorem slotCount_cons : slotCount (i :: l) g k = slotCount l g k + if g i = k then 1 else 0 := by
  unfold slotCount
  rw [List.countP_cons]
  simp only [decide_eq_true_eq]

end Count

/-- A channel in a slot is counted. -/
theorem Valid.slotCount_pos (hT : T.Valid) (hi : T.slot i ≠ .channelSlotNone) :
    0 < slotCount T.ids T.slot (T.slot i) :=
  List.countP_pos_iff.mpr ⟨i, (hT.mem i).mpr hi, decide_eq_true rfl⟩

/-- The two kinds of slots are all there are. -/
theorem Valid.total (hT : T.Valid) : T.active + T.pending = T.ids.length := by
  rw [hT.active, hT.pending, slotCount, slotCount,
    List.length_eq_countP_add_countP (fun i => decide (T.slot i = .channelSlotActive))]
  congr 1
  refine List.countP_congr fun i hi => ?_
  have hne := (hT.mem i).mp hi
  cases hs : T.slot i with
  | channelSlotNone => exact absurd hs hne
  | channelSlotPending | channelSlotActive => simp

theorem Valid.add (hT : T.Valid) (hi : i ∉ T.ids) (peer : Option Nat) : (T.add i peer).Valid := by
  have hids : (T.add i peer).ids = i :: T.ids := List.insert_of_not_mem hi
  have hcount : ∀ k, slotCount (T.add i peer).ids (T.add i peer).slot k =
      slotCount T.ids T.slot k + if ChannelSlot.channelSlotPending = k then 1 else 0 := by
    intro k
    rw [hids, slotCount_cons]
    simp only [Table.add, slotCount_update_of_not_mem hi, update_self]
  refine ⟨hids ▸ List.nodup_cons.mpr ⟨hi, hT.nodup⟩, fun j => ?_, ?_, ?_⟩
  · rw [hids, List.mem_cons, hT.mem j]
    by_cases hj : j = i
    · simp [Table.add, hj]
    · simp [Table.add, hj]
  · rw [hcount, if_neg (by decide)]
    exact hT.active
  · rw [hcount, if_pos rfl, ← hT.pending]
    rfl

theorem Valid.activate (hT : T.Valid) (hi : T.slot i = .channelSlotPending) :
    (T.activate i).Valid := by
  have hmem : i ∈ T.ids := (hT.mem i).mpr (by rw [hi]; decide)
  have hcount : ∀ k, slotCount T.ids (T.activate i).slot k +
      (if ChannelSlot.channelSlotPending = k then 1 else 0) =
      slotCount T.ids T.slot k + if ChannelSlot.channelSlotActive = k then 1 else 0 := by
    intro k
    rw [← hi]
    exact slotCount_update hT.nodup hmem
  have hactive := hcount .channelSlotActive
  have hpending := hcount .channelSlotPending
  rw [if_neg (by decide), if_pos rfl, ← hT.active] at hactive
  rw [if_pos rfl, if_neg (by decide), ← hT.pending] at hpending
  refine ⟨hT.nodup, fun j => ?_, hactive.symm, ?_⟩
  · rw [show (j ∈ (T.activate i).ids ↔ j ∈ T.ids) from Iff.rfl, hT.mem j]
    by_cases hj : j = i
    · simp [Table.activate, hj, hi]
    · simp [Table.activate, update_of_ne hj]
  · show T.pending - 1 = slotCount T.ids (T.activate i).slot .channelSlotPending
    omega

/-- A counter that counts the channel to be removed, or not, after the removal. -/
theorem counter_eq {n c : Nat} {P : Prop} [Decidable P] (h : n = c + if P then 1 else 0) :
    (if P ∧ n > 0 then n - 1 else n) = c := by
  by_cases hP : P
  · rw [if_pos hP] at h
    rw [if_pos ⟨hP, by omega⟩]
    omega
  · rw [if_neg hP] at h
    rw [if_neg fun hx => hP hx.1]
    omega

/-- A channel that is not in the table cannot be taken out of it. -/
theorem remove_of_not_mem (h : i ∉ T.ids) : T.remove i = T := by
  have hids : T.ids.filter (· ≠ i) = T.ids :=
    List.filter_eq_self.mpr fun j hj => decide_eq_true fun hji => h (hji ▸ hj)
  simp only [remove, h, hids, if_false, false_and, update_eq_self]

theorem Valid.remove (hT : T.Valid) (i : Nat) : (T.remove i).Valid := by
  by_cases hi : i ∈ T.ids
  case neg => exact (remove_of_not_mem hi).symm ▸ hT
  have hids : (T.remove i).ids = T.ids.erase i := by
    rw [hT.nodup.erase_eq_filter]
    exact List.filter_congr fun j _ => by by_cases hj : j = i <;> simp [hj]
  have hnot : i ∉ T.ids.erase i := hT.nodup.not_mem_erase
  have hcount : ∀ k, slotCount T.ids T.slot k =
      slotCount (T.remove i).ids (T.remove i).slot k + if T.slot i = k then 1 else 0 := by
    intro k
    rw [slotCount_eq_erase hi, hids]
    simp only [Table.remove, slotCount_update_of_not_mem hnot]
  refine ⟨hids ▸ hT.nodup.erase i, fun j => ?_, ?_, ?_⟩
  · rw [hids]
    by_cases hj : j = i
    · subst hj
      simp [Table.remove, hnot, hi]
    · rw [List.mem_erase_of_ne hj, hT.mem j]
      simp [Table.remove, update_of_ne hj]
  · have h := hcount .channelSlotActive
    rw [← hT.active] at h
    rw [← counter_eq h]
    simp only [Table.remove, hi, true_and]
  · have h := hcount .channelSlotPending
    rw [← hT.pending] at h
    rw [← counter_eq h]
    simp only [Table.remove, hi, true_and]

/-! ### The peer map -/

theorem Linked.not_mem (hT : T.Linked) (hi : i ∉ T.ids) : i ∉ T.peers.map (·.2) := by
  intro hm
  obtain ⟨⟨p, j⟩, hpj, rfl⟩ := List.mem_map.mp hm
  exact hi (hT.live p j hpj)

theorem Linked.add (hT : T.Linked) (hi : i ∉ T.ids) {peer : Option Nat}
    (hp : ∀ p, peer = some p → p ∉ T.peers.map (·.1)) : (T.add i peer).Linked := by
  have hin : ∀ {j}, j ∈ T.ids → j ∈ (T.add i peer).ids := List.mem_insert_of_mem
  cases peer with
  | none => exact ⟨fun p j hpj => hin (hT.live p j hpj), hT.keys, hT.chans⟩
  | some p =>
    refine ⟨fun q j hqj => ?_, List.nodup_cons.mpr ⟨hp p rfl, hT.keys⟩,
      List.nodup_cons.mpr ⟨hT.not_mem hi, hT.chans⟩⟩
    rcases List.mem_cons.mp hqj with heq | hqj
    · cases heq
      exact List.mem_insert_self
    · exact hin (hT.live q j hqj)

theorem Linked.remove (hT : T.Linked) (i : Nat) : (T.remove i).Linked := by
  by_cases hi : i ∈ T.ids
  case neg => exact (remove_of_not_mem hi).symm ▸ hT
  have hpeers : (T.remove i).peers = T.peers.filter (·.2 ≠ i) := if_pos hi
  have hsub : (T.peers.filter (·.2 ≠ i)).Sublist T.peers := List.filter_sublist
  refine ⟨fun p j hpj => ?_, ?_, ?_⟩
  · rw [hpeers] at hpj
    obtain ⟨hpj, hne⟩ := List.mem_filter.mp hpj
    exact List.mem_filter.mpr ⟨hT.live p j hpj, hne⟩
  · rw [hpeers]
    exact hT.keys.sublist (hsub.map _)
  · rw [hpeers]
    exact hT.chans.sublist (hsub.map _)

theorem Linked.answer (hT : T.Linked) (hi : i ∈ T.ids) (hp : p ∉ T.peers.map (·.1))
    (hc : i ∉ T.peers.map (·.2)) : (T.answer p i).Linked := by
  refine ⟨fun q j hqj => ?_, List.nodup_cons.mpr ⟨hp, hT.keys⟩, List.nodup_cons.mpr ⟨hc, hT.chans⟩⟩
  rcases List.mem_cons.mp hqj with heq | hqj
  · cases heq
    exact hi
  · exact hT.live q j hqj

end Table

/-! ## 2. The table of a session -/

def Session.table (s : Session) : Table :=
  ⟨s.channels, fun i => (s.chan i).slot, s.peerChannelIDs, s.activeChannels, s.pendingOpens⟩

/-- The channel a goroutine is about to put in the table. -/
def Pc.adding : Pc → Option Nat
  | .inOpenAdd i _ | .openAdd i _ _ => some i
  | _ => none

theorem slot_update (g : Nat → Channel) (i : Nat) (c : Channel) :
    (fun j => (update g i c j).slot) = update (fun j => (g j).slot) i c.slot := by
  funext j
  by_cases hj : j = i
  · subst hj
    rw [update_self, update_self]
  · rw [update_of_ne hj, update_of_ne hj]

section

variable {s s' : Session} {i : Nat}

/-- A change of one channel that keeps its slot. -/
theorem table_kept {c : Channel} (h : s'.chan = update s.chan i c)
    (hc : c.slot = (s.chan i).slot) (hi : s'.channels = s.channels)
    (hp : s'.peerChannelIDs = s.peerChannelIDs) (ha : s'.activeChannels = s.activeChannels)
    (hq : s'.pendingOpens = s.pendingOpens) : s'.table = s.table := by
  have hslot : (fun j => (s'.chan j).slot) = fun j => (s.chan j).slot := by
    funext j
    rw [h]
    exact update_proj Channel.slot hc
  simp only [Session.table, hslot, hi, hp, ha, hq]

theorem pendingAdded_table (s : Session) (i : Nat) (peer : Option Nat) :
    (s.pendingAdded i peer).table = s.table.add i peer := by
  cases peer <;> simp only [Session.table, pendingAdded, Table.add, setChan, slot_update]

theorem slotActivated_table (s : Session) (i : Nat) :
    (s.slotActivated i).table = s.table.activate i := by
  simp only [Session.table, slotActivated, Table.activate, setChan, slot_update]

theorem removeChannel_table (s : Session) (i : Nat) :
    (s.removeChannel i).table = s.table.remove i := by
  simp only [Session.table, removeChannel, Table.remove, setChan, slot_update]
  rfl

theorem opened_table (cfg : Config) (s : Session) (i : Nat) (a : ChannelOpenAccept) :
    ({ s.setChan i (openedChannel cfg (s.chan i) a) with
      peerChannelIDs := (a.senderChannelID, i) :: s.peerChannelIDs } : Session).table =
      s.table.answer a.senderChannelID i := by
  simp only [Session.table, Table.answer, setChan, slot_update]
  congr 1
  exact update_eq_self i fun j => (s.chan j).slot

end

/-- What a step does to the table. -/
inductive TableOp (lim : Limits) (s : Session) : Pc → Out → Prop where
  | same {pc o} (h : o.sess.table = s.table) (ha : o.pc.adding = none) : TableOp lim s pc o
  | made {pc o} (h : o.sess.table = { s.table with
        slot := update s.table.slot s.nextLocalChannelID .channelSlotNone })
      (ha : o.pc.adding = some s.nextLocalChannelID) : TableOp lim s pc o
  | added {pc o i peer} (hi : pc.adding = some i) (hp : s.pendingOpens < lim.maxPendingOpens)
      (hm : addU32 s.activeChannels s.pendingOpens < lim.maxChannels)
      (hu : ∀ p, peer = some p → p ∉ s.peerIDs) (h : o.sess.table = s.table.add i peer)
      (ha : o.pc.adding = none) : TableOp lim s pc o
  | activated {pc o i} (hi : (s.chan i).slot = .channelSlotPending)
      (h : o.sess.table = s.table.activate i) (ha : o.pc.adding = none) : TableOp lim s pc o
  | removed {pc o i} (h : o.sess.table = s.table.remove i) (ha : o.pc.adding = none) :
      TableOp lim s pc o
  | answered {o i a} (hw : (s.chan i).openWait = true) (hu : a.senderChannelID ∉ s.peerIDs)
      (h : o.sess.table = s.table.answer a.senderChannelID i) (ha : o.pc.adding = none) :
      TableOp lim s (.inOpenResult i (.success a)) o
  | down {pc o} (h : o.sess.closing = true) : TableOp lim s pc o

section Classify

variable {cfg : Config} {s : Session} {t : Tid} {pc pc' : Pc} {o : Out}

theorem Resumes.adding (h : Resumes pc) : pc.adding = none := by cases h <;> rfl

theorem moves_adding (h : Moves cfg s t pc pc') : pc'.adding = none := by
  cases h with
  | start h => cases h <;> rfl
  | shutdownOver => exact (downPc_resumes _).adding
  | requestGone => exact (droppedPc_resumes ..).adding
  | _ => rfl

theorem finds_adding {env : Envelope} (h : Finds cfg s env pc) : pc.adding = none := by
  cases h with
  | channel ha => cases ha <;> rfl
  | _ => rfl

theorem requestNoted_slot (s : Session) (i : Nat) (m : RequestMsg) :
    (requestNoted s i m).slot = (s.chan i).slot := by
  unfold requestNoted
  split <;> rfl

theorem inOpen_table (h : InOpenEffect cfg s t pc o) : TableOp cfg.limits s pc o := by
  cases h with
  | made => exact .made (by simp only [Session.table, channelMade, setChan, slot_update]; rfl) rfl
  | @added i m hp hm hu =>
    exact .added rfl hp hm (fun p hp => Option.some.inj hp ▸ hu) (pendingAdded_table ..) rfl
  | removed | rejectRemoved => exact .removed (removeChannel_table ..) rfl
  | opened _ hw hu => exact .answered hw hu (opened_table ..) rfl
  | activated h => exact .activated h (slotActivated_table ..) rfl
  | resultFails | rejected | shut => exact .same (table_kept rfl rfl rfl rfl rfl rfl) rfl
  | started | rejectShut =>
    exact .same (table_kept (putOpenResult_chan rfl) rfl rfl rfl rfl rfl) rfl
  | limit | reserved | queued | full => exact .same rfl rfl

theorem inRequest_table (h : InRequestEffect cfg s t pc o) : TableOp cfg.limits s pc o := by
  cases h with
  | request | requestRejected | requestLimit =>
    exact .same (table_kept rfl (requestNoted_slot ..) rfl rfl rfl rfl) rfl
  | requestFinish | result | resultPut => exact .same (table_kept rfl rfl rfl rfl rfl rfl) rfl
  | _ => exact .same rfl rfl

theorem dispatch_table (h : DispatchEffect cfg s t pc o) : TableOp cfg.limits s pc o := by
  cases h with
  | abortRemoved | rejectRemoved => exact .removed (removeChannel_table ..) rfl
  | @activated i _ _ h => exact .activated h (slotActivated_table s i) rfl
  | abortShut | rejectShut | accepted => exact .same (table_kept rfl rfl rfl rfl rfl rfl) rfl
  | _ => exact .same rfl rfl

theorem work_table (h : WorkEffect cfg s t pc o) : TableOp cfg.limits s pc o := by
  cases h with
  | timeoutRemoved => exact .removed (removeChannel_table ..) rfl
  | start | taken | finishFails | finish | remoteClose | cancel | timeout =>
    exact .same (table_kept rfl rfl rfl rfl rfl rfl) rfl
  | _ => exact .same rfl rfl

theorem close_table (h : CloseEffect cfg s t pc o) : TableOp cfg.limits s pc o := by
  cases h with
  | closeRemoved => exact .removed (removeChannel_table ..) rfl
  | requestReleased => exact .same rfl (droppedPc_resumes ..).adding
  | _ => exact .same (table_kept rfl rfl rfl rfl rfl rfl) rfl

/-- **Every step of a session, as far as the channel table is concerned.** -/
theorem table_op (h : Effect cfg s t pc o) : TableOp cfg.limits s pc o := by
  cases h with
  | move h => exact .same rfl (moves_adding h)
  | found _ _ h => exact .same rfl (finds_adding h)
  | refused | routeFails => exact .same rfl rfl
  | send h =>
    cases h with
    | reserved | pushSync => exact .same rfl rfl
    | _ => exact .same rfl (contPc_resumes ..).adding
  | down h =>
    cases h with
    | begin | disconnect => exact .down rfl
    | channel => exact .same (table_kept rfl rfl rfl rfl rfl rfl) rfl
    | queues => exact .same rfl (downPc_resumes _).adding
    | _ => exact .same rfl rfl
  | writer h =>
    cases h with
    | skipRequest | finishRequest | startWorker =>
      exact .same (table_kept rfl rfl rfl rfl rfl rfl) rfl
    | _ => exact .same rfl rfl
  | inOpen h => exact inOpen_table h
  | inFrame h =>
    cases h with
    | closeRemoved => exact .removed (removeChannel_table ..) rfl
    | _ => exact .same (table_kept rfl rfl rfl rfl rfl rfl) rfl
  | inRequest h => exact inRequest_table h
  | dispatch h => exact dispatch_table h
  | work h => exact work_table h
  | «open» h =>
    cases h with
    | made => exact .made (by simp only [Session.table, channelMade, setChan, slot_update]; rfl) rfl
    | added hp hm => exact .added rfl hp hm (fun _ h => by cases h) (pendingAdded_table ..) rfl
    | removed => exact .removed (removeChannel_table ..) rfl
    | shut | opened | abandoned => exact .same (table_kept rfl rfl rfl rfl rfl rfl) rfl
    | _ => exact .same rfl rfl
  | data h =>
    cases h with
    | send | refund | recv | recvAdjust | recvCancel =>
      exact .same (table_kept rfl rfl rfl rfl rfl rfl) rfl
    | _ => exact .same rfl rfl
  | close h => exact close_table h

end Classify

/-! ## 3. The counters -/

/-- **The table counts, and is within the limits.** A channel that is about to be added is known to
    one goroutine only. -/
structure Tabled (lim : Limits) (m : Machine) : Prop where
  valid : m.sess.table.Valid
  adding : ∀ t i, (m.pc t).adding = some i → i ∉ m.sess.channels ∧
    ∀ u, (m.pc u).adding = some i → u = t
  pendingLe : m.sess.pendingOpens ≤ lim.maxPendingOpens
  channelsLe : m.sess.channels.length ≤ lim.maxChannels

theorem tabled_start (lim : Limits) : Tabled lim Machine.start where
  valid := ⟨List.nodup_nil, fun _ => ⟨fun h => (List.not_mem_nil h).elim, fun h => absurd rfl h⟩,
    rfl, rfl⟩
  adding _ _ h := by cases h
  pendingLe := Nat.zero_le _
  channelsLe := Nat.zero_le _

theorem Pc.mem_ids_of_adding {pc : Pc} {i : Nat} (h : pc.adding = some i) : i ∈ pc.ids := by
  cases pc <;> cases h <;> exact List.mem_singleton.mpr rfl

section Step

variable {cfg : Prepared} {tr : List Event} {m : Machine} {t : Tid} {o : Out}

/-- A new channel is in no slot. -/
theorem Tabled.made_eq (hT : Tabled cfg.config.limits m) (hP : Pairing tr m)
    (h : o.sess.table = { m.sess.table with
      slot := update m.sess.table.slot m.sess.nextLocalChannelID .channelSlotNone }) :
    o.sess.table = m.sess.table := by
  have hnot : m.sess.nextLocalChannelID ∉ m.sess.channels := fun hi =>
    Nat.lt_irrefl _ (hP.channels _ hi)
  have hslot : m.sess.table.slot m.sess.nextLocalChannelID = .channelSlotNone := by
    by_contra hne
    exact hnot ((hT.valid.mem _).mpr hne)
  rw [h, ← hslot, update_eq_self]

/-- The goroutines that are about to add a channel, after a step that leaves the acting one with
    none. -/
theorem Tabled.adding_kept (hT : Tabled cfg.config.limits m) (ha : o.pc.adding = none)
    (hsub : ∀ i ∈ o.sess.channels, i ∈ m.sess.channels ∨ (m.pc t).adding = some i) :
    ∀ u i, (update m.pc t o.pc u).adding = some i → i ∉ o.sess.channels ∧
      ∀ v, (update m.pc t o.pc v).adding = some i → v = u := by
  have hother : ∀ {u i}, (update m.pc t o.pc u).adding = some i →
      u ≠ t ∧ (m.pc u).adding = some i := by
    intro u i hu
    by_cases hut : u = t
    · rw [hut, update_self, ha] at hu
      cases hu
    · rw [update_of_ne hut] at hu
      exact ⟨hut, hu⟩
  intro u i hu
  obtain ⟨hut, hu⟩ := hother hu
  obtain ⟨hnot, huniq⟩ := hT.adding u i hu
  refine ⟨fun hi => ?_, fun v hv => huniq v (hother hv).2⟩
  rcases hsub i hi with hi | hi
  · exact hnot hi
  · exact hut (huniq t hi).symm

/-- The goroutine that has just made a channel is the only one to know it. -/
theorem Tabled.adding_made (hT : Tabled cfg.config.limits m) (hP : Pairing tr m) (hK : Known m)
    (ha : o.pc.adding = some m.sess.nextLocalChannelID) (hids : o.sess.channels = m.sess.channels) :
    ∀ u i, (update m.pc t o.pc u).adding = some i → i ∉ o.sess.channels ∧
      ∀ v, (update m.pc t o.pc v).adding = some i → v = u := by
  have hold : ∀ {u}, u ≠ t → (update m.pc t o.pc u).adding = (m.pc u).adding := by
    intro u hu
    rw [update_of_ne hu]
  have hself : (update m.pc t o.pc t).adding = some m.sess.nextLocalChannelID := by
    rw [update_self, ha]
  have hlt : ∀ {u i}, (m.pc u).adding = some i → i < m.sess.nextLocalChannelID := fun h =>
    hK.locals _ _ (Pc.mem_ids_of_adding h)
  intro u i hu
  rw [hids]
  by_cases hut : u = t
  · subst hut
    cases hself.symm.trans hu
    refine ⟨fun hi => Nat.lt_irrefl _ (hP.channels _ hi), fun v hv => ?_⟩
    by_contra hvu
    exact Nat.lt_irrefl _ (hlt (hold hvu ▸ hv))
  · rw [hold hut] at hu
    obtain ⟨hnot, huniq⟩ := hT.adding u i hu
    refine ⟨hnot, fun v hv => ?_⟩
    by_cases hvt : v = t
    · subst hvt
      cases hself.symm.trans hv
      exact absurd (hlt hu) (Nat.lt_irrefl _)
    · exact huniq v (hold hvt ▸ hv)

/-- **Every step keeps it**, until `shutdown` empties the table. -/
theorem Tabled.step (hT : Tabled cfg.config.limits m) (hP : Pairing tr m) (hK : Known m)
    (he : Effect cfg.config m.sess t (m.pc t) o) (hup : o.sess.closing = false) :
    Tabled cfg.config.limits ⟨o.sess, update m.pc t o.pc⟩ := by
  have hmax : cfg.config.limits.maxChannels ≤ hardMaxChannels :=
    @Prepared.limit_le cfg "max channels" _ _ (by simp [Limits.checks])
  generalize hpc : m.pc t = pc at he
  cases table_op he with
  | same h ha =>
    have hids : o.sess.channels = m.sess.channels := congrArg Table.ids h
    exact ⟨h ▸ hT.valid, hT.adding_kept ha fun i hi => .inl (hids ▸ hi),
      (congrArg Table.pending h).trans_le hT.pendingLe, hids ▸ hT.channelsLe⟩
  | made h ha =>
    have h := hT.made_eq hP h
    have hids : o.sess.channels = m.sess.channels := congrArg Table.ids h
    exact ⟨h ▸ hT.valid, hT.adding_made hP hK ha hids,
      (congrArg Table.pending h).trans_le hT.pendingLe, hids ▸ hT.channelsLe⟩
  | @added _ _ i peer hi hp hm hu h ha =>
    have hnot : i ∉ m.sess.channels := (hT.adding t i (hpc ▸ hi)).1
    have hids : o.sess.channels = m.sess.channels.insert i := congrArg Table.ids h
    have htotal : m.sess.activeChannels + m.sess.pendingOpens = m.sess.channels.length :=
      hT.valid.total
    have hle := hT.channelsLe
    refine ⟨h ▸ hT.valid.add hnot peer, hT.adding_kept ha fun j hj => ?_,
      (congrArg Table.pending h).trans_le hp, ?_⟩
    · rw [hids] at hj
      rcases List.mem_insert_iff.mp hj with rfl | hj
      · exact .inr (hpc ▸ hi)
      · exact .inl hj
    · -- the sum of the two counters is far below 2 ^ 32
      rw [addU32_eq (by rw [htotal]; exact hle.trans (hmax.trans (by decide))), htotal] at hm
      rw [show (⟨o.sess, update m.pc t o.pc⟩ : Machine).sess.channels.length = _ from
        congrArg List.length hids, List.length_insert_of_not_mem hnot]
      exact hm
  | activated hi h ha =>
    have hids : o.sess.channels = m.sess.channels := congrArg Table.ids h
    exact ⟨h ▸ hT.valid.activate hi, hT.adding_kept ha fun i hi => .inl (hids ▸ hi),
      (congrArg Table.pending h).trans_le ((Nat.sub_le _ _).trans hT.pendingLe),
      hids ▸ hT.channelsLe⟩
  | @removed _ _ i h ha =>
    have hids : o.sess.channels = m.sess.channels.filter (· ≠ i) := congrArg Table.ids h
    refine ⟨h ▸ hT.valid.remove i, hT.adding_kept ha fun j hj => ?_, ?_, ?_⟩
    · rw [hids] at hj
      exact .inl (List.mem_filter.mp hj).1
    · refine (congrArg Table.pending h).trans_le (le_trans ?_ hT.pendingLe)
      simp only [Table.remove]
      split
      · exact Nat.sub_le _ _
      · exact le_rfl
    · exact (congrArg List.length hids).trans_le ((List.length_filter_le _ _).trans hT.channelsLe)
  | answered hw hu h ha =>
    have hids : o.sess.channels = m.sess.channels := congrArg Table.ids h
    have hvalid := hT.valid
    exact ⟨h ▸ ⟨hvalid.nodup, hvalid.mem, hvalid.active, hvalid.pending⟩,
      hT.adding_kept ha fun i hi => .inl (hids ▸ hi),
      (congrArg Table.pending h).trans_le hT.pendingLe, hids ▸ hT.channelsLe⟩
  | down h => rw [h] at hup; cases hup

end Step

theorem tabled_run {cfg : Prepared} {C : Machine → Act → Prop} {tr : List Event} {m : Machine}
    (h : (Machine.lts cfg.config).Run C tr m) (hup : m.sess.closing = false) :
    Tabled cfg.config.limits m := by
  refine Machine.run_invariant_up (I := fun _ m => Tabled cfg.config.limits m) h hup (tabled_start _)
    fun {tr m a o} hr _ hT _ he hup => ?_
  exact hT.step (pairing_run hr) (known_run hr) he hup

/-! ## 4. The peer map -/

/-- An answer is taken for a channel that is still in the table. -/
def Machine.answersLive (m : Machine) (a : Act) : Bool :=
  match m.pc a.tid with
  | .inOpenResult i (.success _) => m.sess.channels.contains i
  | _ => true

theorem linked_run {cfg : Prepared} {tr : List Event} {m : Machine}
    (h : (Machine.lts cfg.config).Run (fun m a => m.answersLive a = true) tr m)
    (hup : m.sess.closing = false) : m.sess.table.Linked := by
  refine Machine.run_invariant_up (I := fun _ m => m.sess.table.Linked) h hup
    ⟨fun _ _ h => (List.not_mem_nil h).elim, List.nodup_nil, List.nodup_nil⟩
    fun {tr m a o} hr hbefore hL hC he hup => ?_
  have hT := tabled_run hr hbefore
  have hP := pairing_run hr
  unfold Machine.answersLive at hC
  generalize hpc : m.pc a.tid = pc at he hC
  cases table_op he with
  | same h => exact h ▸ hL
  | made h => exact hT.made_eq hP h ▸ hL
  | @added _ _ i peer hi _ _ hu h => exact h ▸ hL.add (hT.adding a.tid i (hpc ▸ hi)).1 hu
  | activated _ h => exact h ▸ ⟨hL.live, hL.keys, hL.chans⟩
  | @removed _ _ i h => exact h ▸ hL.remove i
  | @answered _ i b hw hu h =>
    refine h ▸ hL.answer (List.contains_iff_mem.mp hC) hu fun hm => ?_
    -- a channel that waits for its answer has no pair yet, and an entry is a pair
    obtain ⟨⟨p, j⟩, hpj, rfl⟩ := List.mem_map.mp hm
    exact hP.wait j hw ⟨p, hP.table p j hpj⟩
  | down h => rw [h] at hup; cases hup

/-! ## 5. The invariant of the table -/

/-- What the table promises: the counters count its pending and active channels and stay within the
    limits, the peer map points into it, one entry to a channel, and `removeChannel` finds the
    counter it decrements above zero. -/
structure Session.TableOk (lim : Limits) (s : Session) : Prop where
  distinct : s.channels.Nodup
  pending : s.pendingOpens = s.channels.countP fun i => (s.chan i).slot = .channelSlotPending
  active : s.activeChannels = s.channels.countP fun i => (s.chan i).slot = .channelSlotActive
  total : s.activeChannels + s.pendingOpens = s.channels.length
  pendingLe : s.pendingOpens ≤ lim.maxPendingOpens
  channelsLe : s.channels.length ≤ lim.maxChannels
  keys : s.peerIDs.Nodup
  live : ∀ p i, (p, i) ∈ s.peerChannelIDs → i ∈ s.channels
  single : (s.peerChannelIDs.map (·.2)).Nodup
  pendingPos : ∀ i ∈ s.channels, (s.chan i).slot = .channelSlotPending → 0 < s.pendingOpens
  activePos : ∀ i ∈ s.channels, (s.chan i).slot = .channelSlotActive → 0 < s.activeChannels

/-- **The table keeps its invariant under any peer**, in every run in which the receiver takes the
    answer to an own open only while the channel is in the table. -/
theorem channel_table_ok {cfg : Prepared} {tr : List Event} {m : Machine}
    (h : (Machine.lts cfg.config).Run (fun m a => m.answersLive a = true) tr m)
    (hup : m.sess.closing = false) : m.sess.TableOk cfg.config.limits := by
  have hT := tabled_run h hup
  have hL := linked_run h hup
  have hpos : ∀ i, (m.sess.chan i).slot ≠ .channelSlotNone →
      0 < Table.slotCount m.sess.channels m.sess.table.slot (m.sess.chan i).slot := fun i hi =>
    hT.valid.slotCount_pos (i := i) hi
  refine ⟨hT.valid.nodup, hT.valid.pending, hT.valid.active, hT.valid.total, hT.pendingLe,
    hT.channelsLe, hL.keys, hL.live, hL.chans, fun i _ hs => ?_, fun i _ hs => ?_⟩
  · have hi := hpos i (by rw [hs]; decide)
    rw [hs] at hi
    exact hi.trans_eq hT.valid.pending.symm
  · have hi := hpos i (by rw [hs]; decide)
    rw [hs] at hi
    exact hi.trans_eq hT.valid.active.symm

/-- An own open and the peer's open are in the table. -/
theorem channel_table_ok_two : ∃ tr m,
    (Machine.lts narrow.config).Run (fun m a => m.answersLive a = true) tr m ∧
    m.sess.closing = false ∧ m.sess.channels.length = 2 ∧
    m.sess.TableOk narrow.config.limits := by
  obtain ⟨tr, m, h, hup, htwo⟩ := Lts.exists_run_of_replay (L := Machine.lts narrow.config)
    (C := fun m a => m.answersLive a = true)
    (P := fun _ m => m.sess.closing = false ∧ m.sess.channels.length = 2)
    (Tid.env.does [.activate] ++
      (Tid.call 0).does [.api (.openChannel "t" []), .go, .go, .go, .go, .go, .go] ++
      Tid.receiver.does [.go, .frame (.channelOpenResult 0 (.success ⟨9, 4, 4, []⟩)), .go, .go, .go,
        .frame (.channelOpen ⟨"t", 3, 4, 4, []⟩), .go, .go]) (by decide +kernel)
  exact ⟨tr, m, h, hup, htwo, channel_table_ok h hup⟩

/-- The peer answers an open that its caller gives up before it is written: the receiver has looked
    the channel up, the caller takes it out of the table, and the answer is taken all the same. -/
theorem channel_table_dangling : ∃ tr m,
    (Machine.lts narrow.config).Run (fun _ _ => True) tr m ∧ m.sess.closing = false ∧
    ¬ m.sess.TableOk narrow.config.limits := by
  obtain ⟨tr, m, h, hup, hin, hout⟩ := Lts.exists_run_of_replay (L := Machine.lts narrow.config)
    (C := fun _ _ => True) (P := fun _ m => m.sess.closing = false ∧ (9, 0) ∈ m.sess.peerChannelIDs ∧
      0 ∉ m.sess.channels)
    (Tid.env.does [.activate] ++
      (Tid.call 0).does [.api (.openChannel "t" []), .go, .go, .go, .go, .go, .go] ++
      Tid.receiver.does [.go, .frame (.channelOpenResult 0 (.success ⟨9, 4, 4, []⟩))] ++
      (Tid.call 0).does [.ctxDone, .go] ++ Tid.receiver.does [.go]) (by decide +kernel)
  exact ⟨tr, m, h, hup, fun hok => hout (hok.live 9 0 hin)⟩

end Mygosh.Mux

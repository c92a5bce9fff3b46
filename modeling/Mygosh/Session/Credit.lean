/-
  File:      Mygosh/Session/Credit.lean
  Subject:   The books of flow control at one end.

  * `charge`, `grant` -- the bytes a write reserves of the peer's window, and the bytes it gives back;
  * `credit_run` -- the remote window of a channel and the bytes reserved on it are what the peer has
    granted, whatever the peer does;
  * `owed_run` -- the bytes `Recv` has returned are those granted back and those withheld, as long
    as the counter of withheld bytes does not wrap.
-/
import Mygosh.Tally
import Mygosh.Session.Announce
import Mygosh.Session.Stream

namespace Mygosh.Mux

open Function (update update_self update_of_ne)
open Session

/-! ## 1. Weights of writes -/

/-- The data in a frame, in bytes. -/
def Envelope.dataSize : Envelope → Nat
  | .channelData _ data => data.length
  | _ => 0

/-- The bytes a frame grants. -/
def Envelope.grant : Envelope → Nat
  | .channelWindowAdjust _ n => n
  | _ => 0

/-- What a write reserves of the window of channel `j`, until it is taken back. -/
def charge (j : Nat) (x : OutboundWrite) : Nat :=
  if x.chan = some j ∧ x.undone = false then x.envelope.dataSize else 0

/-- What a write grants the peer of channel `j`. -/
def grant (j : Nat) (x : OutboundWrite) : Nat :=
  if x.chan = some j then x.envelope.grant else 0

/-- The weight of all writes of a session. -/
def total (f : OutboundWrite → Nat) (s : Session) : Nat := tally f s.writes s.nextWrite

/-- A weight that only looks at what a write is and whether it was taken back, and gives none to
    results. -/
structure Weight (f : OutboundWrite → Nat) : Prop where
  same : ∀ x x' : OutboundWrite, x'.chan = x.chan → x'.envelope = x.envelope →
    x'.undone = x.undone → f x' = f x
  result : ∀ x p q res, x.envelope = .channelResult p q res → f x = 0

theorem charge_weight (j : Nat) : Weight (charge j) where
  same x x' hc he hu := by unfold charge; rw [hc, he, hu]
  result x p q res h := by unfold charge; rw [h]; exact ite_self 0

theorem grant_weight (j : Nat) : Weight (grant j) where
  same x x' hc he _ := by unfold grant; rw [hc, he]
  result x p q res h := by unfold grant; rw [h]; exact ite_self 0

/-- What a step does to the weight of the writes. -/
inductive TotalStep (cfg : Config) (f : OutboundWrite → Nat) (s : Session) (t : Tid) :
    Pc → Out → Prop where
  | same {pc o} (h : total f o.sess = total f s) : TotalStep cfg f s t pc o
  | new {pc o env after waits ch} (hd : Decides cfg s t pc env after ch)
      (h : total f o.sess =
        total f s + f ⟨env, after, waits, .writeQueued, none, ch, t, .hand, false⟩) :
      TotalStep cfg f s t pc o
  | undone {pc o w} (hu : pc.undoes = some w)
      (h : total f o.sess + f (s.writes w) = total f s + f { s.writes w with undone := true }) :
      TotalStep cfg f s t pc o

section Total

variable {cfg : Config} {f : OutboundWrite → Nat} {tr : List Event} {m : Machine} {s s' : Session}
  {t : Tid} {pc : Pc} {o : Out} {x : OutboundWrite}

theorem total_same (h : SameWrites s s') : total f s' = total f s := by
  unfold total
  rw [h.writes, h.next]

theorem total_new (hs : s'.writes = update s.writes s.nextWrite x)
    (hn : s'.nextWrite = s.nextWrite + 1) : total f s' = total f s + f x := by
  unfold total
  rw [hs, hn]
  exact tally_new

/-- A change of a write that its weight does not see. -/
theorem total_update {w : Nat} (hs : s'.writes = update s.writes w x)
    (hn : s'.nextWrite = s.nextWrite) (hx : f x = f (s.writes w)) : total f s' = total f s := by
  unfold total
  rw [hs, hn]
  exact tally_congr fun v _ => update_proj f hx

theorem total_set {w : Nat} (hw : w < s.nextWrite)
    (hs : s'.writes = update s.writes w x) (hn : s'.nextWrite = s.nextWrite) :
    total f s' + f (s.writes w) = total f s + f x := by
  unfold total
  rw [hs, hn]
  exact tally_set hw

theorem total_step (hf : Weight f) (hO : Outbox tr m) (hF : Flows cfg m)
    (he : Effect cfg m.sess t pc o) (hpc : m.pc t = pc) : TotalStep cfg f m.sess t pc o := by
  have hw := write_step he
  cases hw with
  | add _ hn hx =>
    cases frame_step he with
    | none hn' => rw [hn] at hn'; exact absurd hn' (Nat.succ_ne_self _)
    | decided hn' hx' hd => exact .new hd (total_new hx' hn')
  | same hs | popped hs | ran hs => exact .same (total_same hs)
  | drop _ hs => exact .same (total_update hs.writes hs.next (hf.same _ _ rfl rfl rfl))
  | skip hs | reported hs => exact .same (total_update hs.writes hs.next (hf.same _ _ rfl rfl rfl))
  | fill _ hs =>
    -- a reply is a result before and after it is filled in
    obtain ⟨-, p, res, henv⟩ := hF.sends t _ _ (by rw [hpc]; rfl)
    refine .same (total_update hs.writes hs.next ?_)
    rw [hf.result _ _ _ _ rfl, hf.result _ _ _ _ henv]
  | undo hu hs =>
    exact .undone hu (total_set (hO.undoes t _ (by rw [hpc]; exact hu)).1 hs.writes hs.next)
  | awaited | claimFails => exact .same rfl
  | _ => exact .same (total_update rfl rfl (hf.same _ _ rfl rfl rfl))

end Total

/-! ## 2. The window of the peer -/

/-- What the peer has granted on channel `j` with window adjusts. -/
def adjustedOn (j : Nat) (tr : List Event) : List Nat :=
  tr.filterMap fun
    | .adjusted i n => if i = j then some n else none
    | _ => none

@[simp] theorem adjustedOn_append (j : Nat) (tr tr' : List Event) :
    adjustedOn j (tr ++ tr') = adjustedOn j tr ++ adjustedOn j tr' := List.filterMap_append

/-- The window the peer has granted with the pair of channel `j`. -/
def Granted (tr : List Event) (j g : Nat) : Prop :=
  (∃ q, .incoming j q ∈ tr ∧ q.initialWindow = g) ∨ ∃ a, .answered j a ∈ tr ∧ a.initialWindow = g

theorem Granted.isPaired {tr : List Event} {j g : Nat} (h : Granted tr j g) : IsPaired tr j := by
  unfold IsPaired pairings
  rcases h with ⟨q, hq, -⟩ | ⟨a, ha, -⟩
  · exact ⟨_, List.mem_filterMap.2 ⟨_, hq, rfl⟩⟩
  · exact ⟨_, List.mem_filterMap.2 ⟨_, ha, rfl⟩⟩

/-- The event shows the pair of channel `j`. -/
def Event.pairs (j : Nat) : Event → Bool
  | .incoming i _ | .answered i _ => i == j
  | _ => false

theorem Granted.of_append {tr evs : List Event} {j g : Nat} (h : Granted (tr ++ evs) j g)
    (he : ∀ e ∈ evs, e.pairs j = false) : Granted tr j g := by
  have hnot : ∀ e ∈ evs, e.pairs j = true → False := fun e hm ht => by rw [he e hm] at ht; cases ht
  rcases h with ⟨q, hq, hg⟩ | ⟨a, ha, hg⟩
  · refine .inl ⟨q, (List.mem_append.1 hq).resolve_right fun h => hnot _ h ?_, hg⟩
    exact beq_self_eq_true j
  · refine .inr ⟨a, (List.mem_append.1 ha).resolve_right fun h => hnot _ h ?_, hg⟩
    exact beq_self_eq_true j

theorem Granted.of_new {tr evs : List Event} {j g : Nat} (h : Granted (tr ++ evs) j g)
    (hnew : ¬ IsPaired tr j) : Granted evs j g := by
  rcases h with ⟨q, hq, hg⟩ | ⟨a, ha, hg⟩
  · refine .inl ⟨q, (List.mem_append.1 hq).resolve_left fun h => hnew ?_, hg⟩
    exact Granted.isPaired (.inl ⟨q, h, rfl⟩)
  · refine .inr ⟨a, (List.mem_append.1 ha).resolve_left fun h => hnew ?_, hg⟩
    exact Granted.isPaired (.inr ⟨a, h, rfl⟩)

/-- What a step does to the remote window of channel `j`. -/
inductive WindowAt (cfg : Config) (s : Session) (t : Tid) (j : Nat) : Pc → Out → Prop where
  | same {pc o} (h : (o.sess.chan j).remoteWindow = (s.chan j).remoteWindow)
      (hg : ∀ e ∈ o.events, e.pairs j = false) (ha : adjustedOn j o.events = []) :
      WindowAt cfg s t j pc o
  | incoming {q o} (hj : j = s.nextLocalChannelID)
      (h : (o.sess.chan j).remoteWindow = q.initialWindow) (he : o.events = [.incoming j q]) :
      WindowAt cfg s t j (.inOpen q) o
  | pending {typ p o} (hj : j = s.nextLocalChannelID)
      (h : (o.sess.chan j).remoteWindow = 0) (he : o.events = []) :
      WindowAt cfg s t j (.openReserve typ p) o
  | opened {a o} (hw : (cores s j).openWait = true)
      (h : (o.sess.chan j).remoteWindow = a.initialWindow)
      (he : o.events = [.answered j a, .channelOpened j a.senderChannelID cfg.initialWindow
        a.initialWindow cfg.maxPacketSize a.maxPacketSize]) :
      WindowAt cfg s t j (.inOpenResult j (.success a)) o
  | adjusted {n o} (hs : (s.chan j).state.allowsRequests = true)
      (hn : n ≤ subU32 maxUint32 (s.chan j).remoteWindow)
      (h : (o.sess.chan j).remoteWindow = addU32 (s.chan j).remoteWindow n)
      (he : o.events = [.adjusted j n, .routed]) : WindowAt cfg s t j (.inAdjust j n) o
  | sent {frame o} (he : o.events = []) : WindowAt cfg s t j (.sendLoop j frame) o
  | refunded {frame w e o} (he : o.events = []) : WindowAt cfg s t j (.sendRefund j frame w e) o

section Window

variable {cfg : Config} {s : Session} {t : Tid} {pc : Pc} {o : Out} {evs : List Event} {j : Nat}

theorem adjustedOn_ofChannel (h : evs.filter Event.ofChannel = []) : adjustedOn j evs = [] := by
  refine List.filterMap_eq_nil_iff.2 fun e he => ?_
  have := List.filter_eq_nil_iff.1 h e he
  cases e <;> first | rfl | exact absurd rfl this

theorem pairs_ofChannel (h : evs.filter Event.ofChannel = []) : ∀ e ∈ evs, e.pairs j = false := by
  intro e he
  have := List.filter_eq_nil_iff.1 h e he
  cases e <;> first | rfl | exact absurd rfl this

/-- The events of a section are listed, so that whether one pairs the channel can be computed. -/
theorem pairs_of_all (h : evs.all (fun e => !e.pairs j) = true) : ∀ e ∈ evs, e.pairs j = false := by
  intro e he
  have hnot := List.all_eq_true.1 h e he
  rwa [Bool.not_eq_true'] at hnot

theorem requestNoted_window {i : Nat} {q : RequestMsg} :
    (requestNoted s i q).remoteWindow = (s.chan i).remoteWindow := by
  unfold requestNoted
  split <;> rfl

theorem Touch.pairs_other {i j : Nat} {c : Channel} (h : Touch cfg s t i pc evs c)
    (hj : j ≠ i) : ∀ e ∈ evs, e.pairs j = false := by
  cases h with
  | opened => simpa [Event.pairs] using Ne.symm hj
  | slotFreed h | requestRefused h | canceled h => rcases h with rfl | rfl <;> exact pairs_of_all rfl
  | finishRequest h => rcases h with rfl | ⟨e, rfl⟩ <;> exact pairs_of_all rfl
  | _ => exact pairs_of_all rfl

theorem Touch.adjustedOn_other {i j : Nat} {c : Channel}
    (h : Touch cfg s t i pc evs c) (hj : j ≠ i) : adjustedOn j evs = [] := by
  cases h with
  | adjust => simpa [adjustedOn] using Ne.symm hj
  | slotFreed h | requestRefused h | canceled h => rcases h with rfl | rfl <;> rfl
  | finishRequest h => rcases h with rfl | ⟨e, rfl⟩ <;> rfl
  | _ => rfl

/-- **What every step does to the remote window of a channel.** -/
theorem window_at (h : Effect cfg s t pc o) (j : Nat) : WindowAt cfg s t j pc o := by
  cases chan_step h with
  | same hc _ he => exact .same (by rw [hc]) (pairs_ofChannel he) (adjustedOn_ofChannel he)
  | @incoming q _ hc _ _ he =>
    by_cases hj : j = s.nextLocalChannelID
    · subst hj
      exact .incoming rfl (by rw [hc, update_self]; rfl) he
    · refine .same (by rw [hc, update_of_ne hj]) ?_ (by rw [he]; rfl)
      rw [he]
      simpa [Event.pairs] using Ne.symm hj
  | pending hc _ _ he =>
    by_cases hj : j = s.nextLocalChannelID
    · exact .pending hj (by rw [hc, hj, update_self]; rfl) he
    · exact .same (by rw [hc, update_of_ne hj]) (by rw [he]; nofun) (by rw [he]; rfl)
  | @touch _ _ i c evs hc _ he ht =>
    by_cases hj : j = i
    · subst hj
      have hrw : (o.sess.chan j).remoteWindow = c.remoteWindow := by rw [hc, update_self]
      -- all but four kinds of change leave the window alone
      have hsame : c.remoteWindow = (s.chan j).remoteWindow →
          evs.all (fun e => !e.pairs j) = true → adjustedOn j evs = [] → WindowAt cfg s t j pc o :=
        fun h hg ha => .same (hrw.trans h) (he ▸ pairs_of_all hg) (he ▸ ha)
      cases ht with
      | opened _ hw => exact .opened hw hrw he
      | adjust hs hn => exact .adjusted hs hn hrw he
      | send => exact .sent he
      | refund => exact .refunded he
      | slotFreed h | canceled h => rcases h with rfl | rfl <;> exact hsame rfl rfl rfl
      | finishRequest h => rcases h with rfl | ⟨e, rfl⟩ <;> exact hsame rfl rfl rfl
      | request => exact hsame requestNoted_window rfl rfl
      | requestRefused h => rcases h with rfl | rfl <;> exact hsame requestNoted_window rfl rfl
      | _ => exact hsame rfl rfl rfl
    · exact .same (by rw [hc, update_of_ne hj]) (he ▸ ht.pairs_other hj)
        (he ▸ ht.adjustedOn_other hj)

end Window

/-! ## 3. Credit -/

/-- The frame a `Send` has not decided yet. -/
def Pc.offers : Pc → Option Bytes
  | .sendLoop _ frame | .sendWait _ frame _ => some frame
  | _ => none

/-- **The books of the sending side.** -/
structure Credit (tr : List Event) (m : Machine) : Prop where
  offers : ∀ t frame, (m.pc t).offers = some frame → frame.length ≤ maxUint32
  short : ∀ w < m.sess.nextWrite, (m.sess.writes w).envelope.dataSize ≤ maxUint32
  window : ∀ j, (m.sess.chan j).remoteWindow ≤ maxUint32
  paired : ∀ j, adjustedOn j tr ≠ [] → IsPaired tr j
  balance : ∀ j g, Granted tr j g →
    (m.sess.chan j).remoteWindow + total (charge j) m.sess = g + (adjustedOn j tr).sum

theorem credit_start : Credit [] Machine.start where
  offers _ _ h := by cases h
  short _ h := absurd h (Nat.not_lt_zero _)
  window _ := Nat.zero_le _
  paired _ h := absurd rfl h
  balance _ _ h := by obtain ⟨p, hp⟩ := h.isPaired; cases hp

section Credit

variable {cfg : Config} {tr : List Event} {m : Machine} {t : Tid} {pc : Pc} {o : Out} {j : Nat}
  {frame : Bytes}

/-- On a channel without a pair nothing is reserved and nothing was granted. -/
theorem Pairing.charge_zero (hP : Pairing tr m) (hj : ¬ IsPaired tr j) : total (charge j) m.sess = 0 := by
  refine tally_eq_zero fun w hw => ?_
  unfold charge
  rw [if_neg]
  rintro ⟨hc, -⟩
  obtain ⟨p, hp, -⟩ := (hP.writes w hw).chan j hc
  exact hj ⟨p, hp⟩

theorem Credit.paired_kept (hI : Credit tr m) (hP : Pairing tr m) (he : Effect cfg m.sess t pc o)
    (ha : adjustedOn j (tr ++ o.events) ≠ []) : IsPaired (tr ++ o.events) j := by
  rw [adjustedOn_append] at ha
  by_cases hold : adjustedOn j tr = []
  · rw [hold, List.nil_append] at ha
    cases window_at he j with
    | same _ _ h => exact absurd h ha
    | incoming _ _ h | pending _ _ h | opened _ _ h | sent h | refunded h =>
      rw [h] at ha
      exact absurd rfl ha
    | adjusted hs =>
      obtain ⟨h1, h2⟩ := allows_live hs
      exact (hP.live j h1 h2).append _
  · exact (hI.paired j hold).append _

theorem Resumes.offers (h : Resumes pc) : pc.offers = none := by cases h <;> rfl

theorem offers_of_step (h : Effect cfg m.sess t pc o) (hf : o.pc.offers = some frame) :
    pc.offers = some frame ∨ frame.length ≤ maxUint32 := by
  cases h with
  | move h =>
    cases h with
    | start h =>
      cases h with
      | sendLoop _ _ hle => cases hf; exact .inr hle
      | _ => cases hf
    | sendBlocks | sendWake => exact .inl hf
    | shutdownOver => rw [(downPc_resumes _).offers] at hf; cases hf
    | requestGone => rw [(droppedPc_resumes ..).offers] at hf; cases hf
    | _ => cases hf
  | found _ _ h =>
    cases h with
    | channel ha => cases ha <;> cases hf
    | _ => cases hf
  | refused | routeFails => cases hf
  | send h =>
    cases h with
    | reserved | pushSync => cases hf
    | _ => rw [(contPc_resumes ..).offers] at hf; cases hf
  | down h =>
    cases h with
    | queues => rw [(downPc_resumes _).offers] at hf; cases hf
    | _ => cases hf
  | close h =>
    cases h with
    | requestReleased => rw [(droppedPc_resumes ..).offers] at hf; cases hf
    | _ => cases hf
  | _ h => cases h <;> cases hf

/-- A frame on its way is one that a `Send` has offered. -/
theorem Credit.short_kept (hI : Credit tr m) (he : Effect cfg m.sess t pc o) (hpc : m.pc t = pc)
    {w : Nat} (hw : w < o.sess.nextWrite) : (o.sess.writes w).envelope.dataSize ≤ maxUint32 := by
  rcases (write_step he).born hw with hlt | ⟨rfl, -⟩
  · rcases (write_step he).envelope hlt with henv | ⟨_, _, _, _, _, _, _, henv⟩
    · rw [henv]; exact hI.short w hlt
    · rw [henv]; exact Nat.zero_le _
  · cases frame_step he with
    | none hn => rw [hn] at hw; exact absurd hw (Nat.lt_irrefl _)
    | decided _ hx hd =>
      rw [hx, update_self]
      cases hd with
      | data => exact hI.offers t _ (by rw [hpc]; rfl)
      | _ => exact Nat.zero_le _

theorem sendLoop_of_step {s : Session} {i : Nat}
    (he : Effect cfg s t (.sendLoop i frame) o) : o.events = [] ∧ (o.sess = s ∨
      toU32 frame.length ≤ (s.chan i).remoteWindow ∧
      o.sess.chan = update s.chan i { s.chan i with
        remoteWindow := subU32 (s.chan i).remoteWindow (toU32 frame.length) } ∧
      o.sess.writes = update s.writes s.nextWrite
        ⟨.channelData (s.chan i).peerID frame, .nothing, true, .writeQueued, none, some i, t, .hand,
          false⟩ ∧
      o.sess.nextWrite = s.nextWrite + 1) := by
  cases he with
  | move h => exact ⟨rfl, .inl rfl⟩
  | data h => cases h with | send _ _ _ h => exact ⟨rfl, .inr ⟨h, rfl, rfl, rfl⟩⟩
  | _ h => cases h

/-- `Send` reserves what its frame takes, or nothing. -/
theorem Credit.balance_send (hI : Credit tr m) {i : Nat}
    (he : Effect cfg m.sess t (.sendLoop i frame) o) (hpc : m.pc t = .sendLoop i frame) :
    (o.sess.chan j).remoteWindow + total (charge j) o.sess =
      (m.sess.chan j).remoteWindow + total (charge j) m.sess := by
  rcases (sendLoop_of_step he).2 with h | ⟨h, hchan, hwrites, hnext⟩
  · rw [h]
  have hlen : toU32 frame.length = frame.length := toU32_eq (hI.offers t frame (by rw [hpc]; rfl))
  rw [hlen] at h
  rw [total_new hwrites hnext]
  by_cases hj : i = j
  · subst hj
    rw [hchan, update_self, hlen, subU32_eq h]
    simp only [charge, Envelope.dataSize, and_self, if_true]
    omega
  · rw [hchan, update_of_ne (Ne.symm hj)]
    simp [charge, hj]

theorem refund_of_step {s : Session} {i w : Nat} {e : Err}
    (he : Effect cfg s t (.sendRefund i frame w e) o) : o.events = [] ∧ (o.sess = s ∨
      toU32 frame.length ≤ subU32 maxUint32 (s.chan i).remoteWindow ∧
      o.sess.chan = update s.chan i { s.chan i with
        remoteWindow := addU32 (s.chan i).remoteWindow (toU32 frame.length)
        gen := (s.chan i).gen + 1 } ∧
      o.sess.writes = update s.writes w { s.writes w with undone := true } ∧
      o.sess.nextWrite = s.nextWrite) := by
  cases he with
  | move h => exact ⟨rfl, .inl rfl⟩
  | data h => cases h with | refund h => exact ⟨rfl, .inr ⟨h, rfl, rfl, rfl⟩⟩
  | _ h => cases h

/-- A refund gives back what was reserved, or nothing. -/
theorem Credit.balance_refund (hI : Credit tr m) (hO : Outbox tr m) (hF : Flows cfg m) {i w : Nat}
    {e : Err} (he : Effect cfg m.sess t (.sendRefund i frame w e) o)
    (hpc : m.pc t = .sendRefund i frame w e) :
    (o.sess.chan j).remoteWindow + total (charge j) o.sess =
      (m.sess.chan j).remoteWindow + total (charge j) m.sess := by
  rcases (refund_of_step he).2 with h | ⟨h, hchan, hwrites, hnext⟩
  · rw [h]
  have hflow : (m.pc t).flow = some (w, .channelData i frame) := by rw [hpc]; rfl
  obtain ⟨hch, p, henv⟩ := hF.sends t w _ hflow
  have hheld := hF.held t w _ hflow
  have hlt := (hO.flow hflow).1
  have hshort := hI.short w hlt
  rw [henv] at hshort
  have hlen : toU32 frame.length = frame.length := toU32_eq hshort
  have hwin := hI.window i
  rw [hlen, subU32_eq hwin] at h
  -- the write leaves the sum, and the window takes it back
  have hset := total_set (f := charge j) hlt hwrites hnext
  have hzero : charge j { m.sess.writes w with undone := true } = 0 := by simp [charge]
  rw [hzero] at hset
  by_cases hj : i = j
  · subst hj
    have hcharge : charge i (m.sess.writes w) = frame.length := by
      simp [charge, hch, hheld, henv, Envelope.dataSize]
    rw [hchan, update_self, hlen, addU32_eq (by omega)]
    dsimp only
    omega
  · have hcharge : charge j (m.sess.writes w) = 0 := by simp [charge, hch, hj]
    rw [hchan, update_of_ne (Ne.symm hj)]
    omega

/-- No other step reserves anything or gives it back. -/
theorem charge_other (hO : Outbox tr m) (hF : Flows cfg m) (he : Effect cfg m.sess t pc o)
    (hpc : m.pc t = pc) (hs : ∀ i frame, pc ≠ .sendLoop i frame)
    (hr : ∀ i frame w e, pc ≠ .sendRefund i frame w e) :
    total (charge j) o.sess = total (charge j) m.sess := by
  cases total_step (charge_weight j) hO hF he hpc with
  | same h => exact h
  | new hd h =>
    rw [h]
    cases hd with
    | data => exact absurd rfl (hs _ _)
    | _ => simp [charge, Envelope.dataSize]
  | @undone w hu h =>
    cases pc with
    | sendRefund => exact absurd rfl (hr _ _ _ _)
    | closeWriteUndo i st v e =>
      cases hu
      obtain ⟨-, ⟨p, henv⟩, -⟩ := hF.sends t w (.channelEof i st) (by rw [hpc]; rfl)
      simpa [charge, henv, Envelope.dataSize] using h
    | _ => cases hu

/-- **The books balance after every step.** -/
theorem Credit.balance_kept (hI : Credit tr m) (hO : Outbox tr m) (hP : Pairing tr m)
    (hF : Flows cfg m) (he : Effect cfg m.sess t pc o) (hpc : m.pc t = pc) {g : Nat}
    (hg : Granted (tr ++ o.events) j g) :
    (o.sess.chan j).remoteWindow + total (charge j) o.sess =
      g + (adjustedOn j (tr ++ o.events)).sum := by
  -- a channel that gets its pair in this step has no account yet
  have hfresh : ¬ IsPaired tr j → total (charge j) m.sess = 0 ∧ adjustedOn j tr = [] :=
    fun hj => ⟨hP.charge_zero hj, by_contra fun ha => hj (hI.paired j ha)⟩
  by_cases hs : ∃ i frame, pc = .sendLoop i frame
  · obtain ⟨i, frame, rfl⟩ := hs
    rw [(sendLoop_of_step he).1, List.append_nil] at hg ⊢
    rw [hI.balance_send he hpc, hI.balance j g hg]
  by_cases hr : ∃ i frame w e, pc = .sendRefund i frame w e
  · obtain ⟨i, frame, w, e, rfl⟩ := hr
    rw [(refund_of_step he).1, List.append_nil] at hg ⊢
    rw [hI.balance_refund hO hF he hpc, hI.balance j g hg]
  rw [charge_other hO hF he hpc (fun i frame h => hs ⟨i, frame, h⟩)
    fun i frame w e h => hr ⟨i, frame, w, e, h⟩, adjustedOn_append, List.sum_append]
  cases window_at he j with
  | same hrw hev ha =>
    rw [hrw, ha, hI.balance j g (hg.of_append hev)]
    rfl
  | @incoming q _ hj hrw hev =>
    have hnew : ¬ IsPaired tr j := fun ⟨p, hp⟩ => absurd (hP.lt j p hp) (by omega)
    obtain ⟨hc, ha⟩ := hfresh hnew
    rw [hev] at hg ⊢
    have hq : q.initialWindow = g := by simpa [Granted] using hg.of_new hnew
    rw [hrw, hc, ha, hq]
    rfl
  | pending hj _ hev =>
    rw [hev, List.append_nil] at hg
    obtain ⟨p, hp⟩ := hg.isPaired
    exact absurd (hP.lt j p hp) (by omega)
  | @opened a _ hw hrw hev =>
    obtain ⟨hc, ha⟩ := hfresh (hP.wait j hw)
    rw [hev] at hg ⊢
    have hq : a.initialWindow = g := by simpa [Granted] using hg.of_new (hP.wait j hw)
    rw [hrw, hc, ha, hq]
    rfl
  | adjusted _ hn hrw hev =>
    have hwin := hI.window j
    rw [subU32_eq hwin] at hn
    have hold := hI.balance j g (hg.of_append (by rw [hev]; simp [Event.pairs]))
    rw [hrw, addU32_eq (by omega), hev]
    simp only [adjustedOn, List.filterMap_cons, if_true, List.filterMap_nil, List.sum_singleton] at hold ⊢
    omega
  | sent => exact absurd ⟨_, _, rfl⟩ hs
  | refunded => exact absurd ⟨_, _, _, _, rfl⟩ hr

theorem window_le_of_open {q : ChannelOpen} (h : (Envelope.channelOpen q).valid = true) :
    q.initialWindow ≤ maxUint32 := by
  simp only [Envelope.valid, windowOk, Bool.and_eq_true, decide_eq_true_eq] at h
  exact h.1.2.1.1.2

theorem window_le_of_accept {a : ChannelOpenAccept}
    (h : (Envelope.channelOpenResult j (.success a)).valid = true) : a.initialWindow ≤ maxUint32 := by
  simp only [Envelope.valid, OpenResult.valid, windowOk, Bool.and_eq_true, decide_eq_true_eq] at h
  exact h.2.1.2.1.1.2

/-- A window stays a `uint32`. -/
theorem Credit.window_kept (hI : Credit tr m) (he : Effect cfg m.sess t pc o)
    (hv : ∀ env, pc.frame = some env → env.valid = true) (j : Nat) :
    (o.sess.chan j).remoteWindow ≤ maxUint32 := by
  have hwin := hI.window j
  cases window_at he j with
  | same h => rw [h]; exact hwin
  | @incoming q _ _ h => rw [h]; exact window_le_of_open (hv (.channelOpen q) rfl)
  | pending _ h => rw [h]; exact Nat.zero_le _
  | @opened a _ _ h => rw [h]; exact window_le_of_accept (hv (.channelOpenResult j (.success a)) rfl)
  | adjusted _ hn h =>
    rw [subU32_eq hwin] at hn
    rw [h, addU32_eq (by omega)]
    omega
  | sent =>
    rcases (sendLoop_of_step he).2 with h | ⟨h, hchan, -, -⟩
    · rw [h]; exact hwin
    · rw [hchan, update_self, subU32_eq h]
      dsimp only
      omega
  | refunded =>
    rcases (refund_of_step he).2 with h | ⟨h, hchan, -, -⟩
    · rw [h]; exact hwin
    · rw [subU32_eq hwin] at h
      rw [hchan, update_self, addU32_eq (by omega)]
      dsimp only
      omega

theorem Credit.step (hI : Credit tr m) (hO : Outbox tr m) (hP : Pairing tr m) (hF : Flows cfg m)
    (he : Effect cfg m.sess t (m.pc t) o)
    (hv : ∀ env, (m.pc t).frame = some env → env.valid = true) :
    Credit (tr ++ o.events) ⟨o.sess, update m.pc t o.pc⟩ where
  offers := forall_update (P := fun _ pc => ∀ frame, pc.offers = some frame → frame.length ≤ maxUint32)
    (fun frame hf => (offers_of_step he hf).elim (hI.offers t frame) id) fun u _ => hI.offers u
  short _ hw := hI.short_kept he rfl hw
  window := hI.window_kept he hv
  paired _ ha := hI.paired_kept hP he ha
  balance _ _ hg := hI.balance_kept hO hP hF he rfl hg

end Credit

/-- **The books of the sending side balance along every run.** -/
theorem credit_run {cfg : Config} {C : Machine → Act → Prop} {tr : List Event} {m : Machine}
    (h : (Machine.lts cfg).Run C tr m) : Credit tr m := by
  refine Machine.run_invariant h credit_start fun {tr m a o} hr hI _ he => ?_
  exact hI.step (outbox_run hr) (pairing_run hr) (flow_run hr) he fun env => valid_run hr a.tid env

/-! ## 4. What is owed to the peer -/

/-- The counter of withheld bytes does not wrap in this step. -/
def Unwrapped (m : Machine) (a : Act) : Prop :=
  ∀ i frame rest, m.pc a.tid = .recvLoop i → (cores m.sess i).frames = frame :: rest →
    (cores m.sess i).pendingWindowBytes + frame.length ≤ maxUint32

/-- **The books of the receiving side.** -/
structure Owed (cfg : Config) (tr : List Event) (m : Machine) : Prop where
  below : ∀ i, (cores m.sess i).pendingWindowBytes < cfg.windowAdjustThreshold
  balance : ∀ i, (cores m.sess i).pendingWindowBytes + total (grant i) m.sess =
    bytes (returnedOn i tr)

theorem owed_start {cfg : Config} (hcfg : 0 < cfg.windowAdjustThreshold) :
    Owed cfg [] Machine.start where
  below _ := hcfg
  balance _ := rfl

/-- The books of channel `j`, after a step. -/
def OwedAt (cfg : Config) (tr : List Event) (s : Session) (j : Nat) : Prop :=
  (cores s j).pendingWindowBytes < cfg.windowAdjustThreshold ∧
    (cores s j).pendingWindowBytes + total (grant j) s = bytes (returnedOn j tr)

section Owed

variable {cfg : Config} {tr : List Event} {m : Machine} {t : Tid} {pc : Pc} {o : Out} {i j : Nat}

/-- What `Recv` does under the lock: nothing, or it takes a frame and may grant what it owes. -/
theorem recvLoop_of_step {s : Session} (he : Effect cfg s t (.recvLoop i) o) :
    (∀ j, cores o.sess j = cores s j) ∧ SameWrites s o.sess ∧ returnedOn j o.events = [] ∨
    ∃ frame rest, (cores s i).frames = frame :: rest ∧
      cores o.sess = update (cores s) i ((cores s i).take cfg frame rest) ∧
      o.events = [.recvFrame i frame] ∧
      total (grant j) o.sess = total (grant j) s +
        if i = j then adjustBytes cfg (s.chan i) frame else 0 := by
  cases he with
  | move h => exact .inl ⟨fun _ => rfl, ⟨rfl, rfl, rfl, rfl⟩, rfl⟩
  | data h =>
    cases h with
    | recvEOF => exact .inl ⟨fun _ => rfl, ⟨rfl, rfl, rfl, rfl⟩, rfl⟩
    | @recv i frame rest hf h =>
      refine .inr ⟨_, _, hf, cores_of_chan (c := takeFrame cfg (s.chan i) frame rest) rfl, rfl, ?_⟩
      rw [h, ite_self]
      rfl
    | @recvAdjust i frame rest hf h =>
      refine .inr ⟨_, _, hf, cores_of_chan (c := takeFrame cfg (s.chan i) frame rest) rfl, rfl, ?_⟩
      rw [total_new rfl rfl]
      simp only [grant, Envelope.grant, Option.some.injEq]
      rfl
  | _ h => cases h

/-- No other step grants anything. -/
theorem grant_other (hO : Outbox tr m) (hF : Flows cfg m) (he : Effect cfg m.sess t pc o)
    (hpc : m.pc t = pc) (hs : ∀ i, pc ≠ .recvLoop i) :
    total (grant j) o.sess = total (grant j) m.sess := by
  cases total_step (grant_weight j) hO hF he hpc with
  | same h => exact h
  | new hd h =>
    rw [h]
    cases hd with
    | adjust => exact absurd rfl (hs _)
    | _ => simp [grant, Envelope.grant]
  | undone _ h =>
    -- a write that is taken back keeps its weight
    exact Nat.add_right_cancel h

theorem Turn.pending_other {c c' : Core} {evs : List Event} (h : Turn cfg t i c pc evs c')
    (hs : ∀ i, pc ≠ .recvLoop i) :
    c'.pendingWindowBytes = c.pendingWindowBytes ∧ returnedOn i evs = [] := by
  cases h with
  | take => exact absurd rfl (hs _)
  | shut h | eof _ h | remoteClose _ h => rcases h with rfl | rfl <;> exact ⟨rfl, rfl⟩
  | _ => exact ⟨rfl, rfl⟩

/-- A section of `Recv`. -/
theorem Owed.recvLoop (hI : Owed cfg tr m) (hcfg : 0 < cfg.windowAdjustThreshold)
    (hu : ∀ frame rest, (cores m.sess i).frames = frame :: rest →
      (cores m.sess i).pendingWindowBytes + frame.length ≤ maxUint32)
    (he : Effect cfg m.sess t (.recvLoop i) o) (j : Nat) :
    OwedAt cfg (tr ++ o.events) o.sess j := by
  have hbelow := hI.below j
  have hbal := hI.balance j
  rw [OwedAt, returnedOn_append, bytes_append]
  rcases @recvLoop_of_step _ _ _ _ j _ he with ⟨hc, hw, hr⟩ | ⟨frame, rest, hf, hc, hevs, hg⟩
  · rw [hc, total_same hw, hr]
    exact ⟨hbelow, hbal⟩
  · rw [hevs, hg]
    by_cases hij : i = j
    · subst hij
      have hfits := hu frame rest hf
      have hsum : addU32 (cores m.sess i).pendingWindowBytes (toU32 frame.length) =
          (cores m.sess i).pendingWindowBytes + frame.length := by
        rw [toU32_eq (by omega), addU32_eq hfits]
      have hadj : adjustBytes cfg (m.sess.chan i) frame =
          if (cores m.sess i).pendingWindowBytes + frame.length ≥ cfg.windowAdjustThreshold then
            (cores m.sess i).pendingWindowBytes + frame.length else 0 := by
        rw [← hsum]
        rfl
      have hret : bytes (returnedOn i [.recvFrame i frame]) = frame.length := by simp [returnedOn]
      rw [hc, update_self, if_pos rfl, hadj, hret]
      simp only [Core.take, hsum]
      split <;> omega
    · have hret : returnedOn j [.recvFrame i frame] = [] := by simp [returnedOn, hij]
      rw [hc, update_of_ne (Ne.symm hij), if_neg hij, hret]
      exact ⟨hbelow, hbal⟩

/-- Any other section. -/
theorem Owed.other (hI : Owed cfg tr m) (hcfg : 0 < cfg.windowAdjustThreshold)
    (hS : Streams cfg tr m) (hO : Outbox tr m) (hP : Pairing tr m) (hF : Flows cfg m)
    (he : Effect cfg m.sess t pc o) (hpc : m.pc t = pc) (hs : ∀ i, pc ≠ .recvLoop i) (j : Nat) :
    OwedAt cfg (tr ++ o.events) o.sess j := by
  have hbelow := hI.below j
  have hbal := hI.balance j
  rw [OwedAt, returnedOn_append, bytes_append, grant_other hO hF he hpc hs]
  cases core_at he j with
  | same hc hevs =>
    rw [hc, returnedOn_other hevs]
    exact ⟨hbelow, hbal⟩
  | incoming hj hc hevs | pending hj hc hevs =>
    -- nothing was returned on a channel that is new
    rw [(hS.unborn hP hj.ge).2] at hbal ⊢
    have hgrant : total (grant j) m.sess = 0 := by
      rw [bytes_nil] at hbal
      omega
    rw [hc, hevs, hgrant]
    exact ⟨hcfg, rfl⟩
  | turn hc hevs ht =>
    obtain ⟨hsame, hnone⟩ := ht.pending_other hs
    rw [hc, hevs, hsame, hnone]
    exact ⟨hbelow, hbal⟩

end Owed

/-- **The books of the receiving side balance along every run** in which the counter does not wrap. -/
theorem owed_run {cfg : Config} {tr : List Event} {m : Machine}
    (hcfg : 0 < cfg.windowAdjustThreshold) (hwin : cfg.initialWindow ≤ maxUint32)
    (h : (Machine.lts cfg).Run Unwrapped tr m) : Owed cfg tr m := by
  refine h.invariant (owed_start hcfg) fun {tr evs m m' a} hr hI hu hs => ?_
  obtain ⟨o, he, hsess, -, rfl⟩ := Machine.effect_of_step hs
  have hnext : ∀ j, OwedAt cfg (tr ++ o.events) o.sess j := by
    by_cases hrecv : ∃ i, m.pc a.tid = .recvLoop i
    · obtain ⟨i, hi⟩ := hrecv
      rw [hi] at he
      exact hI.recvLoop hcfg (fun frame rest => hu i frame rest hi) he
    · exact hI.other hcfg (streams_run hwin hr) (outbox_run hr) (pairing_run hr) (flow_run hr) he rfl
        fun i hi => hrecv ⟨i, hi⟩
  rw [← hsess] at hnext
  exact ⟨fun j => (hnext j).1, fun j => (hnext j).2⟩

end Mygosh.Mux

/-
  File:      Mygosh/Session/Windows.lean
  Subject:   What one end tells the other about its windows, and what becomes of it.

  * `undone_run` -- a write that was taken back does not reach the connection;
  * `advertised_run` -- opens and acceptances carry the configured window and packet size;
  * `adjusts_run` -- the window adjusts taken up are a prefix of those read;
  * `total_split` -- the weight of the writes, divided by whether they are on the connection;
  * `minded_run` -- a frame that is not on the connection has its `Send` or `Recv` still at work;
    `reserved_eq`, `granting_eq` -- so nothing else has bytes reserved or granted;
  * `waits_run` -- a `Send` that waits has no room for its frame.
-/
import Mygosh.Session.Credit
import Mygosh.Session.Locals
import Mygosh.Session.Sends

namespace Mygosh.Mux

open Function (update update_self update_of_ne)
open Session

/-! ## 1. Writes on the connection and others -/

/-- A weight of the writes that are not on the connection. -/
def unsent (f : OutboundWrite → Nat) (x : OutboundWrite) : Nat := if x.place = .sent then 0 else f x

section Writes

variable {cfg : Config} {C : Machine → Act → Prop} {tr : List Event} {m : Machine}

theorem Change.undone_dead {t : Tid} {x x' : OutboundWrite} (h : Change t x x')
    (hu : x'.undone = true) : x.undone = true ∨ x'.dead := by
  cases h with
  | undo _ hd => exact .inr hd
  | _ => exact .inl hu

/-- What was taken back is not written any more. -/
theorem undone_run (h : (Machine.lts cfg).Run C tr m) :
    ∀ w < m.sess.nextWrite, (m.sess.writes w).undone = true → (m.sess.writes w).dead := by
  refine Machine.run_invariant (I := fun _ m => ∀ w < m.sess.nextWrite,
    (m.sess.writes w).undone = true → (m.sess.writes w).dead) h
    (fun _ hw => absurd hw (Nat.not_lt_zero _)) fun {tr m a o} hr hI _ he w hw hu => ?_
  have hs := write_step he
  rcases hs.born hw with hlt | ⟨rfl, _, _, _, _, hx⟩
  · have hc := (outbox_run hr).change hs w hlt
    rcases hc.undone_dead hu with hold | hd
    · exact hc.dead (hI w hlt hold)
    · exact hd
  · rw [hx] at hu
    cases hu

theorem Outbox.not_undone (hO : Outbox tr m) (h : (Machine.lts cfg).Run C tr m) {w : Nat}
    {env : Envelope} (hw : (w, env) ∈ written tr) : (m.sess.writes w).undone = false := by
  refine Bool.eq_false_iff.mpr fun hu => ?_
  exact hO.not_written (undone_run h w ((hO.sent w env).1 hw).1 hu) env hw

/-- **The weight of the writes is that of the ones on the connection and that of the others.** -/
theorem Outbox.total_split (hO : Outbox tr m) (f : OutboundWrite → Nat) :
    total f m.sess = total (unsent f) m.sess +
      ((written tr).map fun x => f (m.sess.writes x.1)).sum := by
  have hsent : ∀ w ∈ Finset.range m.sess.nextWrite,
      f (m.sess.writes w) = unsent f (m.sess.writes w) +
        if (m.sess.writes w).place = .sent then f (m.sess.writes w) else 0 := by
    intro w _
    unfold unsent
    split <;> omega
  have hset : (Finset.range m.sess.nextWrite).filter (fun w => (m.sess.writes w).place = .sent) =
      ((written tr).map (·.1)).toFinset := by
    ext w
    simp only [Finset.mem_filter, Finset.mem_range, List.mem_toFinset, List.mem_map]
    constructor
    · rintro ⟨hw, hp⟩
      exact ⟨(w, _), (hO.sent w _).2 ⟨hw, hp, rfl⟩, rfl⟩
    · rintro ⟨⟨v, env⟩, hv, rfl⟩
      obtain ⟨hw, hp, -⟩ := (hO.sent v env).1 hv
      exact ⟨hw, hp⟩
  have hlist := List.sum_toFinset (fun w => f (m.sess.writes w)) hO.once
  rw [List.map_map] at hlist
  unfold total tally
  rw [Finset.sum_congr rfl hsent, Finset.sum_add_distrib, ← Finset.sum_filter, hset, hlist]
  rfl

end Writes

/-! ## 2. Windows in opens and acceptances -/

/-- The window and the packet size a frame advertises. -/
def Envelope.advertises : Envelope → Option (Nat × Nat)
  | .channelOpen q => some (q.initialWindow, q.maxPacketSize)
  | .channelOpenResult _ (.success a) => some (a.initialWindow, a.maxPacketSize)
  | _ => none

section Advertised

variable {cfg : Config} {s : Session} {t : Tid} {pc : Pc}

theorem Decides.advertises {env : Envelope} {after : After} {ch : Option Nat} {p : Nat × Nat}
    (h : Decides cfg s t pc env after ch) (hp : env.advertises = some p) :
    p = (cfg.initialWindow, cfg.maxPacketSize) := by
  cases h <;> first | exact (Option.some.inj hp).symm | cases hp

/-- **Every window that is advertised is the configured one.** -/
theorem advertised_run {C : Machine → Act → Prop} {tr : List Event} {m : Machine}
    (h : (Machine.lts cfg).Run C tr m) : ∀ w < m.sess.nextWrite, ∀ p,
      (m.sess.writes w).envelope.advertises = some p → p = (cfg.initialWindow, cfg.maxPacketSize) := by
  refine Machine.run_invariant (I := fun _ m => ∀ w < m.sess.nextWrite, ∀ p,
    (m.sess.writes w).envelope.advertises = some p → p = (cfg.initialWindow, cfg.maxPacketSize)) h
    (fun _ hw => absurd hw (Nat.not_lt_zero _)) fun {tr m a o} _ hI _ he w hw p hp => ?_
  have hs := write_step he
  rcases hs.born hw with hlt | ⟨rfl, -⟩
  · rcases hs.envelope hlt with henv | ⟨_, _, _, _, _, _, _, henv⟩
    · exact hI w hlt p (henv ▸ hp)
    · rw [henv] at hp
      cases hp
  · cases frame_step he with
    | none hn => rw [hn] at hw; exact absurd hw (Nat.lt_irrefl _)
    | decided _ hx hd =>
      rw [hx, update_self] at hp
      exact hd.advertises hp

end Advertised

/-! ## 3. Window adjusts -/

/-- The bytes a window adjust grants channel `j`. -/
def adjustTo (j : Nat) : Envelope → Option Nat
  | .channelWindowAdjust i n => if i = j then some n else none
  | _ => none

/-- The event that channel `j` has been granted bytes. -/
def adjustment (j : Nat) : Event → Option Nat
  | .adjusted i n => if i = j then some n else none
  | _ => none

section Adjusts

variable {cfg : Config} {s : Session} {t : Tid} {pc : Pc} {o : Out}

theorem adjustedOn_eq (j : Nat) (tr : List Event) : adjustedOn j tr = tr.filterMap (adjustment j) := by
  unfold adjustedOn
  refine List.filterMap_congr fun e _ => ?_
  cases e <;> rfl

/-- A window adjust is taken up, or the receiver stops. -/
theorem adjust_handles (j : Nat) (h : Effect cfg s t pc o) :
    Handles (adjustTo j) (adjustment j) pc o := by
  by_cases hpc : ∃ i n, pc = .inAdjust i n
  · obtain ⟨i, n, rfl⟩ := hpc
    cases h with
    | routeFails h => cases h <;> exact .skips rfl fun _ _ _ _ => ⟨nofun, rfl⟩
    | inFrame h =>
      cases h with
      | adjust =>
        by_cases hi : i = j
        · exact .marks rfl (if_pos hi) (by simp [adjustment, hi])
        · refine .skips (by simp [adjustment, hi]) fun env b hf hb => ?_
          cases hf
          exact absurd hb (by simp [adjustTo, hi])
    | _ h => cases h
  · refine .skips ?_ fun env b hf hb => ?_
    · rw [← adjustedOn_eq]
      cases window_at h j with
      | same _ _ ha => exact ha
      | incoming _ _ he | pending _ _ he | opened _ _ he | sent he | refunded he => rw [he]; rfl
      | adjusted => exact absurd ⟨_, _, rfl⟩ hpc
    · cases pc with
      | inAdjust i n => exact absurd ⟨i, n, rfl⟩ hpc
      | _ => first | (cases hf; cases hb) | cases hf

/-- **Of the window adjusts read for a channel, what was taken up is a prefix.** -/
theorem adjusts_run {C : Machine → Act → Prop} {tr : List Event} {m : Machine} (j : Nat)
    (h : (Machine.lts cfg).Run C tr m) :
    Ledger (adjustTo j) (adjustment j) tr (m.pc .receiver) := ledger_run (adjust_handles j) h

end Adjusts

/-! ## 4. Frames that are not on the connection -/

/-- `shutdown` has been called and not yet begun. -/
def Pc.falls : Pc → Bool
  | .shutdown _ _ => true
  | _ => false

/-- The call that made write `w` is sending it, or is about to take it back. -/
def Machine.sends (m : Machine) (w : Nat) : Bool :=
  decide ((m.pc (m.sess.writes w).caller).flow.map (·.1) = some w)

/-- The bytes that running calls of `Send` have reserved on channel `j`, of frames that are not on the
    connection. -/
def Machine.reserved (m : Machine) (j : Nat) : Nat :=
  ∑ w ∈ Finset.range m.sess.nextWrite, if m.sends w then unsent (charge j) (m.sess.writes w) else 0

/-- The bytes that running calls of `Recv` grant the peer of channel `i`, of window adjusts that are
    not on the connection. An adjust that cannot be sent makes `Recv` shut the session down; it counts
    from then on. -/
def Machine.granting (m : Machine) (i : Nat) : Nat :=
  ∑ w ∈ Finset.range m.sess.nextWrite,
    if m.sends w || m.sess.closing || (m.pc (m.sess.writes w).caller).falls then
      unsent (grant i) (m.sess.writes w)
    else 0

/-- The refund of a failed `Send` fits the window. -/
def Refunds (m : Machine) (a : Act) : Prop :=
  ∀ i frame w e, m.pc a.tid = .sendRefund i frame w e →
    (m.sess.chan i).remoteWindow + frame.length ≤ maxUint32

/-- What has become of a frame with data or with a window adjust, its caller being at `pc`. -/
inductive Minded (s : Session) (pc : Pc) (w : Nat) : Prop where
  | sends {k} (hk : k.waits = true) (h : pc.flow = some (w, k))
  | undone (hd : (s.writes w).envelope.grant = 0) (h : (s.writes w).undone = true)
  | sent (h : (s.writes w).place = .sent)
  | down (hd : (s.writes w).envelope.dataSize = 0) (h : s.closing = true ∨ pc.falls = true)

section Minded

variable {cfg : Config} {C : Machine → Act → Prop} {tr : List Event} {m : Machine} {t : Tid} {pc : Pc}
  {o : Out} {w i j : Nat}

theorem Change.keeps_undone {x x' : OutboundWrite} (h : Change t x x') (hu : x.undone = true) :
    x'.undone = true := by
  cases h <;> first | exact hu | rfl

/-- A call that has gone to `shutdown` does not leave it before it has begun. -/
theorem falls_down (h : Effect cfg m.sess t pc o) (hf : pc.falls = true) : o.sess.closing = true := by
  cases pc with
  | shutdown e k =>
    cases h with
    | move h => cases h with | shutdownOver hc => exact hc
    | down h => cases h <;> rfl
    | _ h => cases h
  | _ => cases hf

/-- A frame that is sent and waited for is on the connection, or its caller has an error. -/
theorem send_waits {k : Cont} (hO : Outbox tr m) (h : SendEffect cfg m.sess pc o) (hpc : m.pc t = pc)
    (hI : SendAt m.sess t pc) (hk : k.waits = true) (hf : pc.flow = some (w, k)) :
    o.pc.flow = some (w, k) ∨ (o.sess.writes w).place = .sent ∨ ∃ e, o.pc = contPc w (some e) k := by
  cases h with
  | reserved | pushSync => exact .inl hf
  | pushAsync =>
    cases hf
    exact Bool.noConfusion (hk.symm.trans hI.2)
  | @awaited v x k e h =>
    cases hf
    cases e with
    | none => exact .inr (.inl (hO.result w (hO.awaits t w (by rw [hpc]; rfl)).1 none h))
    | some e => exact .inr (.inr ⟨e, rfl⟩)
  | _ =>
    cases hf
    exact .inr (.inr ⟨_, rfl⟩)

/-- **The caller of a frame goes on to tend it.** -/
theorem Minded.self (hO : Outbox tr m) (hF : Flows cfg m) (hS : SendAt m.sess t (m.pc t))
    (he : Effect cfg m.sess t (m.pc t) o) (hfit : ∀ i frame w e, m.pc t = .sendRefund i frame w e →
      (m.sess.chan i).remoteWindow + frame.length ≤ maxUint32) (hw : w < m.sess.nextWrite)
    (henv : (o.sess.writes w).envelope = (m.sess.writes w).envelope)
    (h : Minded m.sess (m.pc t) w) : Minded o.sess o.pc w := by
  have hc := hO.change (write_step he) w hw
  cases h with
  | undone hd h => exact .undone (henv ▸ hd) (hc.keeps_undone h)
  | sent h => exact .sent (hc.keeps_sent h).1
  | down hd h => exact .down (henv ▸ hd) (.inl (h.elim (closing_kept he) (falls_down he)))
  | @sends k hk hf =>
    have hsends := hF.sends t w k hf
    rw [← henv] at hsends
    generalize hpc : m.pc t = pc at he hf hfit hS
    cases he with
    | move h =>
      cases h with
      | ensured => exact .sends hk hf
      | @refundLost i frame v e hlost =>
        have hroom := hfit i frame v e rfl
        have hcut := toU32_le frame.length
        rw [subU32_eq (by omega)] at hlost
        omega
      | _ => cases hf <;> cases hk
    | found | refused => cases hf
    | routeFails h => cases h <;> cases hf
    | send h =>
      rcases send_waits hO h hpc hS hk hf with h | h | ⟨e, h⟩
      · exact .sends hk h
      · exact .sent h
      · cases k with
        | channelData i frame => exact .sends rfl (by rw [h]; rfl)
        | windowAdjust i frame =>
          obtain ⟨-, p, n, hadj⟩ := hsends
          exact .down (by rw [hadj]; rfl) (.inr (by rw [h]; rfl))
        | _ => cases hk
    | work h | close h => cases h <;> cases hf <;> cases hk
    | data h =>
      cases h with
      | refund =>
        cases hf
        obtain ⟨-, p, hdata⟩ := hsends
        exact .undone (by rw [hdata]; rfl) (by simp [Session.setWrite])
      | _ => cases hf
    | _ h => cases h <;> cases hf

theorem Minded.other (hO : Outbox tr m) (he : Effect cfg m.sess t (m.pc t) o)
    (hw : w < m.sess.nextWrite) (henv : (o.sess.writes w).envelope = (m.sess.writes w).envelope)
    (h : Minded m.sess pc w) : Minded o.sess pc w := by
  have hc := hO.change (write_step he) w hw
  cases h with
  | sends hk h => exact .sends hk h
  | undone hd h => exact .undone (henv ▸ hd) (hc.keeps_undone h)
  | sent h => exact .sent (hc.keeps_sent h).1
  | down hd h => exact .down (henv ▸ hd) (h.imp_left (closing_kept he))

/-- A new frame is in the hand of the call that made it. -/
theorem Minded.new (he : Effect cfg m.sess t pc o) (hn : o.sess.nextWrite = m.sess.nextWrite + 1)
    (hpos : 0 < (o.sess.writes m.sess.nextWrite).envelope.dataSize +
      (o.sess.writes m.sess.nextWrite).envelope.grant) : Minded o.sess o.pc m.sess.nextWrite := by
  cases frame_step he with
  | none h => omega
  | decided _ hx hd =>
    rw [hx, update_self] at hpos
    cases hd with
    | data | adjust =>
      cases he with
      | move h => cases h <;> exact absurd hn (Nat.succ_ne_self _).symm
      | data h => cases h <;> first | exact .sends rfl rfl | exact absurd hn (Nat.succ_ne_self _).symm
      | _ h => cases h
    | _ => exact absurd hpos (Nat.lt_irrefl 0)

/-- **What is not on the connection is minded by its caller**, where the refunds fit. -/
theorem minded_run (h : (Machine.lts cfg).Run Refunds tr m) : ∀ w < m.sess.nextWrite,
    0 < (m.sess.writes w).envelope.dataSize + (m.sess.writes w).envelope.grant →
      Minded m.sess (m.pc (m.sess.writes w).caller) w := by
  refine Machine.run_invariant (I := fun _ m => ∀ w < m.sess.nextWrite,
    0 < (m.sess.writes w).envelope.dataSize + (m.sess.writes w).envelope.grant →
      Minded m.sess (m.pc (m.sess.writes w).caller) w) h
    (fun _ hw => absurd hw (Nat.not_lt_zero _)) fun {tr m a o} hr hI hC he w hw hpos => ?_
  have hO := outbox_run hr
  have hs := write_step he
  rcases hs.born hw with hlt | ⟨rfl, _, _, _, _, hx⟩
  · -- only results are filled in, and they weigh nothing
    have henv : (o.sess.writes w).envelope = (m.sess.writes w).envelope := by
      refine (hs.envelope hlt).resolve_right ?_
      rintro ⟨_, _, _, _, _, _, _, h⟩
      dsimp only at hpos
      rw [h] at hpos
      exact Nat.lt_irrefl 0 hpos
    have hold := hI w hlt (henv ▸ hpos)
    show Minded o.sess (update m.pc a.tid o.pc (o.sess.writes w).caller) w
    rw [(hO.change hs w hlt).fixed.1]
    by_cases ht : (m.sess.writes w).caller = a.tid
    · rw [ht] at hold
      rw [ht, update_self]
      exact hold.self hO (flow_run hr) (send_run hr a.tid) he hC hlt henv
    · rw [update_of_ne ht]
      exact hold.other hO he hlt henv
  · show Minded o.sess (update m.pc a.tid o.pc (o.sess.writes _).caller) _
    rw [hx, update_self]
    refine Minded.new he ?_ hpos
    cases frame_step he with
    | none hn => rw [hn] at hw; exact absurd hw (Nat.lt_irrefl _)
    | decided hn => exact hn

theorem sum_unsent {p : Nat → Bool} {load : OutboundWrite → Nat}
    (h : ∀ w < m.sess.nextWrite, (m.sess.writes w).place ≠ .sent → load (m.sess.writes w) ≠ 0 →
      p w = true) :
    ∑ w ∈ Finset.range m.sess.nextWrite, (if p w then unsent load (m.sess.writes w) else 0) =
      total (unsent load) m.sess := by
  refine Finset.sum_congr rfl fun w hw => ?_
  by_cases hx : unsent load (m.sess.writes w) = 0
  · rw [hx, ite_self]
  · unfold unsent at hx
    exact if_pos (h w (Finset.mem_range.1 hw) (fun hp => hx (if_pos hp)) fun hl => hx (by simp [hl]))

/-- **Only running calls of `Send` have bytes reserved.** -/
theorem reserved_eq (h : (Machine.lts cfg).Run Refunds tr m) (j : Nat) :
    m.reserved j = total (unsent (charge j)) m.sess := by
  refine sum_unsent fun w hw hplace hx => ?_
  unfold charge at hx
  split at hx
  · rename_i hj
    cases minded_run h w hw (by omega) with
    | sends hk hf => exact decide_eq_true (by rw [hf]; rfl)
    | undone _ hu => exact Bool.noConfusion (hj.2.symm.trans hu)
    | sent hp => exact absurd hp hplace
    | down hd => exact absurd hd hx
  · exact absurd rfl hx

/-- **Only running calls of `Recv` grant bytes**, until the session is shut down. -/
theorem granting_eq (h : (Machine.lts cfg).Run Refunds tr m) (i : Nat) :
    m.granting i = total (unsent (grant i)) m.sess := by
  refine sum_unsent fun w hw hplace hx => ?_
  unfold grant at hx
  split at hx
  · cases minded_run h w hw (by omega) with
    | sends hk hf => simp [Machine.sends, hf]
    | undone hd => exact absurd hd hx
    | sent hp => exact absurd hp hplace
    | down _ hd => rcases hd with hd | hd <;> simp [hd]
  · exact absurd rfl hx

end Minded

/-! ## 5. Waiting for the window -/

section Waits

variable {cfg : Config} {s : Session} {t : Tid} {pc : Pc} {o : Out} {j : Nat}

/-- A section that lets a window grow wakes those who wait for it. -/
theorem Touch.signals {i : Nat} {c : Channel} {evs : List Event} (h : Touch cfg s t i pc evs c) :
    (s.chan i).gen ≤ c.gen ∧
      (c.gen = (s.chan i).gen → c.remoteWindow ≤ (s.chan i).remoteWindow) := by
  have hkept : c.gen = (s.chan i).gen → c.remoteWindow = (s.chan i).remoteWindow →
      (s.chan i).gen ≤ c.gen ∧
        (c.gen = (s.chan i).gen → c.remoteWindow ≤ (s.chan i).remoteWindow) :=
    fun hg hw => ⟨hg.ge, fun _ => hw.le⟩
  have hnext : c.gen = (s.chan i).gen + 1 → (s.chan i).gen ≤ c.gen ∧
      (c.gen = (s.chan i).gen → c.remoteWindow ≤ (s.chan i).remoteWindow) :=
    fun hg => ⟨by omega, fun h => by omega⟩
  cases h with
  | send _ _ _ h =>
    refine ⟨Nat.le_refl _, fun _ => ?_⟩
    dsimp only
    rw [subU32_eq h]
    exact Nat.sub_le _ _
  | request | requestRefused => refine hkept ?_ ?_ <;> simp only [requestNoted] <;> split <;> rfl
  | _ => first | exact hkept rfl rfl | exact hnext rfl

theorem window_signals (h : Effect cfg s t pc o) (hj : j < s.nextLocalChannelID) :
    (s.chan j).gen ≤ (o.sess.chan j).gen ∧
      ((o.sess.chan j).gen = (s.chan j).gen →
        (o.sess.chan j).remoteWindow ≤ (s.chan j).remoteWindow) := by
  have hsame : o.sess.chan j = s.chan j → (s.chan j).gen ≤ (o.sess.chan j).gen ∧
      ((o.sess.chan j).gen = (s.chan j).gen →
        (o.sess.chan j).remoteWindow ≤ (s.chan j).remoteWindow) := by
    intro h
    rw [h]
    exact ⟨Nat.le_refl _, fun _ => Nat.le_refl _⟩
  cases chan_step h with
  | same h => exact hsame (by rw [h])
  | incoming h | pending h => exact hsame (by rw [h, update_of_ne (Nat.ne_of_lt hj)])
  | @touch _ _ i c _ h _ _ ht =>
    by_cases hi : j = i
    · subst hi
      have hc : o.sess.chan j = c := by rw [h, update_self]
      rw [hc]
      exact ht.signals
    · exact hsame (by rw [h, update_of_ne hi])

theorem Resumes.ne_sendWait (h : Resumes pc) (frame : Bytes) (g : Nat) : pc ≠ .sendWait j frame g := by
  cases h <;> nofun

/-- `Send` goes to wait when its frame does not fit. -/
theorem blocks_of_step {frame : Bytes} {g : Nat} (h : Effect cfg s t pc o)
    (ho : o.pc = .sendWait j frame g) : pc = .sendLoop j frame ∧ o.sess = s ∧ g = (s.chan j).gen ∧
      (s.chan j).remoteWindow < toU32 frame.length := by
  cases h with
  | move h =>
    cases h with
    | start h => cases h <;> cases ho
    | sendBlocks _ _ h => cases ho; exact ⟨rfl, rfl, rfl, h⟩
    | shutdownOver => exact absurd ho ((downPc_resumes _).ne_sendWait _ _)
    | requestGone => exact absurd ho ((droppedPc_resumes ..).ne_sendWait _ _)
    | _ => cases ho
  | found _ _ h =>
    cases h with
    | channel ha => cases ha <;> cases ho
    | _ => cases ho
  | refused | routeFails => cases ho
  | send h =>
    cases h with
    | reserved | pushSync => cases ho
    | _ => exact absurd ho ((contPc_resumes ..).ne_sendWait _ _)
  | down h =>
    cases h with
    | queues => exact absurd ho ((downPc_resumes _).ne_sendWait _ _)
    | _ => cases ho
  | close h =>
    cases h with
    | requestReleased => exact absurd ho ((droppedPc_resumes ..).ne_sendWait _ _)
    | _ => cases ho
  | _ h => cases h <;> cases ho

/-- **A `Send` that waits and has not been woken has no room for its frame.** -/
theorem waits_run {C : Machine → Act → Prop} {tr : List Event} {m : Machine}
    (h : (Machine.lts cfg).Run C tr m) : ∀ t j frame g, m.pc t = .sendWait j frame g →
      g ≤ (m.sess.chan j).gen ∧
        ((m.sess.chan j).gen = g → (m.sess.chan j).remoteWindow < toU32 frame.length) := by
  refine Machine.run_invariant (I := fun _ m => ∀ t j frame g, m.pc t = .sendWait j frame g →
    g ≤ (m.sess.chan j).gen ∧
      ((m.sess.chan j).gen = g → (m.sess.chan j).remoteWindow < toU32 frame.length)) h
    nofun fun {tr m a o} hr hI _ he => ?_
  refine forall_update (P := fun _ pc => ∀ j frame g, pc = .sendWait j frame g →
    g ≤ (o.sess.chan j).gen ∧
      ((o.sess.chan j).gen = g → (o.sess.chan j).remoteWindow < toU32 frame.length)) ?_ ?_
  · intro j frame g ho
    obtain ⟨-, hs, rfl, hlt⟩ := blocks_of_step he ho
    rw [hs]
    exact ⟨Nat.le_refl _, fun _ => hlt⟩
  · intro u _ j frame g hu
    obtain ⟨hle, hlt⟩ := hI u j frame g hu
    have hj : j < m.sess.nextLocalChannelID :=
      (known_run hr).locals u j (by rw [hu]; exact List.mem_singleton.mpr rfl)
    obtain ⟨hgen, hwin⟩ := window_signals he hj
    refine ⟨hle.trans hgen, fun hg => ?_⟩
    -- the generation is the one it waits for, so it has been all the time
    have hsame : (m.sess.chan j).gen = g := by omega
    exact (hwin (by omega)).trans_lt (hlt hsame)

end Waits

end Mygosh.Mux

/-
  File:      Mygosh/Session/Requests.lean
  Subject:   Pending requests are counted exactly.

  * `Asks` -- the requests of a channel that wait for their result, and the next id;
  * `PendingStep`, `pending_step` -- every step of a session, as far as these are concerned: a
    waiter is put in, taken out by whoever finds it, or failed with all others of its channel;
  * `pending_requests_exact` -- `pendingChannelRequests` is the number of waiters of all channels
    and of those taken out and not released yet, and the three limits hold.
-/
import Mygosh.Session.Leak
import Mygosh.Session.Stream

namespace Mygosh.Mux

open Function (update update_self update_of_ne update_eq_self)
open Session

/-! ## 1. What a step does to the waiters -/

/-- The waiters of a channel and its next request id. -/
structure Asks where
  pending : List Nat
  next : Nat

def Channel.asks (c : Channel) : Asks := ⟨c.pendingRequests, c.nextRequestID⟩

def asks (s : Session) : Nat → Asks := fun i => (s.chan i).asks

/-- A goroutine that has taken a waiter out and not released its place. -/
def Pc.releasing : Pc → Nat
  | .inResultRelease .. | .requestRelease .. => 1
  | _ => 0

theorem Resumes.releasing {pc : Pc} (h : Resumes pc) : pc.releasing = 0 := by cases h <;> rfl

/-- The ways a step can touch the waiters. -/
inductive PendingStep (cfg : Config) (s : Session) (pc : Pc) (o : Out) : Prop where
  | keep (hc : o.sess.pendingChannelRequests = s.pendingChannelRequests)
      (ha : asks o.sess = asks s) (hr : pc.releasing = 0) (hr' : o.pc.releasing = 0)
  | new (hc : o.sess.pendingChannelRequests = s.pendingChannelRequests)
      (ha : asks o.sess = update (asks s) s.nextLocalChannelID ⟨[], 0⟩)
      (hr : pc.releasing = 0) (hr' : o.pc.releasing = 0)
  | skip {i} (hc : o.sess.pendingChannelRequests = s.pendingChannelRequests)
      (ha : asks o.sess = update (asks s) i ⟨(asks s i).pending, (asks s i).next + 1⟩)
      (hr : pc.releasing = 0) (hr' : o.pc.releasing = 0)
  | ask {i} (hs : (s.chan i).state.allowsRequests = true)
      (hp : toU32 (asks s i).pending.length < cfg.limits.maxPendingChannelRequestsPerChannel)
      (hl : s.pendingChannelRequests < cfg.limits.maxPendingChannelRequests)
      (hc : o.sess.pendingChannelRequests = s.pendingChannelRequests + 1)
      (ha : asks o.sess = update (asks s) i
        ⟨(asks s i).pending.insert (asks s i).next, (asks s i).next + 1⟩)
      (hr : pc.releasing = 0) (hr' : o.pc.releasing = 0)
  | remove {i q} (hq : q ∈ (asks s i).pending)
      (hc : o.sess.pendingChannelRequests = s.pendingChannelRequests)
      (ha : asks o.sess = update (asks s) i ⟨(asks s i).pending.filter (· ≠ q), (asks s i).next⟩)
      (hr : pc.releasing = 0) (hr' : o.pc.releasing = 1)
  | release (hc : o.sess.pendingChannelRequests = s.pendingChannelRequests - 1)
      (ha : asks o.sess = asks s) (hr : pc.releasing = 1) (hr' : o.pc.releasing = 0)
  | fail {i} (hc : o.sess.pendingChannelRequests =
        s.pendingChannelRequests - (asks s i).pending.length)
      (ha : asks o.sess = update (asks s) i ⟨[], (asks s i).next⟩)
      (hr : pc.releasing = 0) (hr' : o.pc.releasing = 0)
  | down (hd : o.sess.closing = true) (hc : o.sess.pendingChannelRequests = 0)
      (ha : asks o.sess = asks s)

section Classify

variable {cfg : Config} {s s' : Session} {t : Tid} {pc pc' : Pc} {o : Out} {i : Nat} {c : Channel}

theorem asks_update {a : Asks} (h : s'.chan = update s.chan i c) (hc : c.asks = a) :
    asks s' = update (asks s) i a := by
  subst hc
  funext j
  unfold asks
  rw [h]
  by_cases hj : j = i
  · rw [hj, update_self, update_self]
  · rw [update_of_ne hj, update_of_ne hj]

/-- A change of a channel that leaves its waiters. -/
theorem asks_kept (h : s'.chan = update s.chan i c) (hc : c.asks = (s.chan i).asks) :
    asks s' = asks s := by
  rw [asks_update h hc]
  exact update_eq_self i (asks s)

theorem requestNoted_asks (s : Session) (i : Nat) (m : RequestMsg) :
    (requestNoted s i m).asks = (s.chan i).asks := by
  unfold requestNoted
  split <;> rfl

theorem starts_releasing (h : Starts cfg s t pc) : pc.releasing = 0 := by cases h <;> rfl

theorem moves_releasing (h : Moves cfg s t pc pc') : pc.releasing = 0 ∧ pc'.releasing = 0 := by
  cases h with
  | start h => exact ⟨rfl, starts_releasing h⟩
  | shutdownOver => exact ⟨rfl, (downPc_resumes _).releasing⟩
  | requestGone => exact ⟨rfl, (droppedPc_resumes ..).releasing⟩
  | _ => exact ⟨rfl, rfl⟩

theorem finds_releasing {env : Envelope} (h : Finds cfg s env pc) : pc.releasing = 0 := by
  cases h with
  | channel ha => cases ha <;> rfl
  | _ => rfl

theorem routeFails_releasing {e : Err} (h : RouteFails s pc e) : pc.releasing = 0 := by
  cases h <;> rfl

theorem send_pending (h : SendEffect cfg s pc o) : PendingStep cfg s pc o := by
  cases h with
  | reserved | pushSync => exact .keep rfl rfl rfl rfl
  | _ => exact .keep rfl rfl rfl (contPc_resumes ..).releasing

theorem down_pending (h : DownEffect s t pc o) : PendingStep cfg s pc o := by
  cases h with
  | begin | disconnect => exact .down rfl rfl rfl
  | channel => exact .fail rfl (asks_update rfl rfl) rfl rfl
  | queues => exact .keep rfl rfl rfl (downPc_resumes _).releasing
  | _ => exact .keep rfl rfl rfl rfl

theorem writer_pending (h : WriterEffect s pc o) : PendingStep cfg s pc o := by
  cases h with
  | skipRequest | finishRequest | startWorker => exact .keep rfl (asks_kept rfl rfl) rfl rfl
  | _ => exact .keep rfl rfl rfl rfl

theorem inOpen_pending (h : InOpenEffect cfg s t pc o) : PendingStep cfg s pc o := by
  cases h with
  | made => exact .new rfl (asks_update rfl rfl) rfl rfl
  | added | activated | removed | rejectRemoved | resultFails | opened | rejected =>
    exact .keep rfl (asks_kept rfl rfl) rfl rfl
  | started => exact .keep rfl (asks_kept (putOpenResult_chan rfl) rfl) rfl rfl
  | shut => exact .fail rfl (asks_update rfl rfl) rfl rfl
  | rejectShut => exact .fail rfl (asks_update (putOpenResult_chan rfl) rfl) rfl rfl
  | _ => exact .keep rfl rfl rfl rfl

theorem inFrame_pending (h : InEffect cfg s t pc o) : PendingStep cfg s pc o := by
  cases h <;> exact .keep rfl (asks_kept rfl rfl) rfl rfl

theorem inRequest_pending (h : InRequestEffect cfg s t pc o) : PendingStep cfg s pc o := by
  cases h with
  | request => exact .keep rfl (asks_kept rfl (requestNoted_asks ..)) rfl rfl
  | requestRejected | requestLimit => exact .keep rfl (asks_kept rfl (requestNoted_asks ..)) rfl rfl
  | requestFinish => exact .keep rfl (asks_kept rfl rfl) rfl rfl
  | result hq => exact .remove hq rfl (asks_update rfl rfl) rfl rfl
  | resultFails => exact .release rfl rfl rfl rfl
  | resultPut => exact .release rfl (asks_kept rfl rfl) rfl rfl
  | _ => exact .keep rfl rfl rfl rfl

theorem dispatch_pending (h : DispatchEffect cfg s t pc o) : PendingStep cfg s pc o := by
  cases h with
  | abortRemoved | rejectRemoved | activated | accepted =>
    exact .keep rfl (asks_kept rfl rfl) rfl rfl
  | abortShut | rejectShut => exact .fail rfl (asks_update rfl rfl) rfl rfl
  | _ => exact .keep rfl rfl rfl rfl

theorem work_pending (h : WorkEffect cfg s t pc o) : PendingStep cfg s pc o := by
  cases h with
  | start | taken | finishFails | finish | cancel | timeout | timeoutRemoved =>
    exact .keep rfl (asks_kept rfl rfl) rfl rfl
  | remoteClose => exact .fail rfl (asks_update rfl rfl) rfl rfl
  | _ => exact .keep rfl rfl rfl rfl

theorem open_pending (h : OpenEffect cfg s t pc o) : PendingStep cfg s pc o := by
  cases h with
  | made => exact .new rfl (asks_update rfl rfl) rfl rfl
  | added | removed | opened | abandoned => exact .keep rfl (asks_kept rfl rfl) rfl rfl
  | shut => exact .fail rfl (asks_update rfl rfl) rfl rfl
  | _ => exact .keep rfl rfl rfl rfl

theorem data_pending (h : DataEffect cfg s t pc o) : PendingStep cfg s pc o := by
  cases h with
  | send | refund | recvCancel | recv | recvAdjust => exact .keep rfl (asks_kept rfl rfl) rfl rfl
  | _ => exact .keep rfl rfl rfl rfl

theorem close_pending (h : CloseEffect cfg s t pc o) : PendingStep cfg s pc o := by
  cases h with
  | requestLimit | requestSend => exact .skip rfl (asks_update rfl rfl) rfl rfl
  | requestAsk _ hs hp hl => exact .ask hs hp hl rfl (asks_update rfl rfl) rfl rfl
  | requestDropped hq => exact .remove hq rfl (asks_update rfl rfl) rfl rfl
  | requestReleased => exact .release rfl rfl rfl (droppedPc_resumes ..).releasing
  | closeWrite | undone | closeOpening | closeRemoved | closeArmed =>
    exact .keep rfl (asks_kept rfl rfl) rfl rfl
  | close | closeShut => exact .fail rfl (asks_update rfl rfl) rfl rfl

/-- **Every step of a session, as far as the waiters are concerned.** -/
theorem pending_step (h : Effect cfg s t pc o) : PendingStep cfg s pc o := by
  cases h with
  | move h => exact .keep rfl rfl (moves_releasing h).1 (moves_releasing h).2
  | found _ _ h => exact .keep rfl rfl rfl (finds_releasing h)
  | refused => exact .keep rfl rfl rfl rfl
  | routeFails h => exact .keep rfl rfl (routeFails_releasing h) rfl
  | send h => exact send_pending h
  | down h => exact down_pending h
  | writer h => exact writer_pending h
  | inOpen h => exact inOpen_pending h
  | inFrame h => exact inFrame_pending h
  | inRequest h => exact inRequest_pending h
  | dispatch h => exact dispatch_pending h
  | work h => exact work_pending h
  | «open» h => exact open_pending h
  | data h => exact data_pending h
  | close h => exact close_pending h

theorem length_insert_le (q : Nat) (l : List Nat) : (l.insert q).length ≤ l.length + 1 := by
  rw [List.length_insert]
  split <;> omega

/-- The waiters of global requests only become fewer, or there is room for one more. -/
theorem global_step (h : Effect cfg s t pc o) :
    o.sess.pendingGlobal.length ≤ s.pendingGlobal.length ∨
      toU32 s.pendingGlobal.length < cfg.limits.maxPendingGlobalRequests ∧
        o.sess.pendingGlobal.length ≤ s.pendingGlobal.length + 1 := by
  cases h with
  | move | found | refused | routeFails => exact .inl (Nat.le_refl _)
  | send h => cases h <;> exact .inl (Nat.le_refl _)
  | down h =>
    cases h with
    | begin | disconnect => exact .inl (Nat.zero_le _)
    | _ => exact .inl (Nat.le_refl _)
  | writer h => cases h <;> exact .inl (Nat.le_refl _)
  | inOpen h => cases h <;> exact .inl (Nat.le_refl _)
  | inFrame h => cases h <;> exact .inl (Nat.le_refl _)
  | inRequest h =>
    cases h with
    | globalResultFails | globalResultPut => exact .inl (List.length_filter_le ..)
    | _ => exact .inl (Nat.le_refl _)
  | dispatch h => cases h <;> exact .inl (Nat.le_refl _)
  | work h => cases h <;> exact .inl (Nat.le_refl _)
  | «open» h =>
    cases h with
    | globalAsk hl => exact .inr ⟨hl, length_insert_le ..⟩
    | globalDropped => exact .inl (List.length_filter_le ..)
    | _ => exact .inl (Nat.le_refl _)
  | data h => cases h <;> exact .inl (Nat.le_refl _)
  | close h => cases h <;> exact .inl (Nat.le_refl _)

end Classify

/-! ## 2. The invariant -/

/-- A waiter stands for one request that has been sent. -/
structure Asks.Valid (a : Asks) : Prop where
  nodup : a.pending.Nodup
  below : ∀ q ∈ a.pending, q < a.next

/-- The waiters of all channels made so far. -/
def Session.asked (s : Session) : Nat :=
  tally (fun a => a.pending.length) (asks s) s.nextLocalChannelID

/-- **The waiters of a session.** -/
structure Waiters (cfg : Config) (m : Machine) : Prop where
  valid : ∀ i, (asks m.sess i).Valid
  fresh : ∀ i, m.sess.nextLocalChannelID ≤ i → (asks m.sess i).pending = []
  perChannel : ∀ i, (asks m.sess i).pending.length ≤ cfg.limits.maxPendingChannelRequestsPerChannel
  total : m.sess.pendingChannelRequests ≤ cfg.limits.maxPendingChannelRequests
  globals : m.sess.pendingGlobal.length ≤ cfg.limits.maxPendingGlobalRequests
  exact : m.sess.closing = false → ∃ ts : Finset Tid, (∀ t, t ∉ ts → m.pc t = .start) ∧
    m.sess.pendingChannelRequests = m.sess.asked + ∑ t ∈ ts, (m.pc t).releasing

theorem waiters_start (cfg : Config) : Waiters cfg Machine.start where
  valid _ := ⟨List.nodup_nil, nofun⟩
  fresh _ _ := rfl
  perChannel _ := Nat.zero_le _
  total := Nat.zero_le _
  globals := Nat.zero_le _
  exact _ := ⟨∅, fun _ _ => rfl, rfl⟩

section Step

variable {cfg : Config} {s : Session} {pc : Pc} {o : Out} {tr : List Event} {m : Machine} {t : Tid}

theorem Asks.Valid.insert {a : Asks} (h : a.Valid) :
    (⟨a.pending.insert a.next, a.next + 1⟩ : Asks).Valid where
  nodup := h.nodup.insert
  below q hq := by
    rcases List.mem_insert_iff.mp hq with rfl | hq
    · exact Nat.lt_succ_self _
    · exact Nat.lt_succ_of_lt (h.below q hq)

theorem Asks.Valid.filter {a : Asks} (h : a.Valid) (q : Nat) :
    (⟨a.pending.filter (· ≠ q), a.next⟩ : Asks).Valid where
  nodup := h.nodup.filter _
  below q' hq' := h.below q' (List.mem_of_mem_filter hq')

/-- A new request is one more waiter: its id has not been used. -/
theorem Asks.Valid.length_insert {a : Asks} (h : a.Valid) :
    (a.pending.insert a.next).length = a.pending.length + 1 :=
  List.length_insert.trans (congrArg _ (if_neg fun hm => Nat.lt_irrefl _ (h.below _ hm)))

/-- Whoever takes a waiter out takes one. -/
theorem Asks.Valid.length_filter {a : Asks} (h : a.Valid) {q : Nat} (hq : q ∈ a.pending) :
    (a.pending.filter (· ≠ q)).length + 1 = a.pending.length := by
  have herase := h.nodup.erase_eq_filter q
  have hlen := List.length_erase_of_mem hq
  have hpos := List.length_pos_of_mem hq
  rw [herase] at hlen
  have heq : (a.pending.filter (· ≠ q)) = a.pending.filter (· != q) :=
    List.filter_congr fun x _ => by by_cases hx : x = q <;> simp [hx]
  rw [heq]
  omega

/-- What becomes of the waiters of one channel. -/
structure AsksTo (cfg : Config) (s : Session) (i : Nat) (a : Asks) : Prop where
  valid : (asks s i).Valid → a.Valid
  made : a.pending ≠ [] → (asks s i).pending ≠ [] ∨ (s.chan i).state.allowsRequests = true
  length : a.pending.length ≤ (asks s i).pending.length ∨
    toU32 (asks s i).pending.length < cfg.limits.maxPendingChannelRequestsPerChannel ∧
      a.pending.length ≤ (asks s i).pending.length + 1

theorem PendingStep.asks (h : PendingStep cfg s pc o) : Mux.asks o.sess = Mux.asks s ∨
    ∃ i a, Mux.asks o.sess = update (Mux.asks s) i a ∧ AsksTo cfg s i a := by
  have hnil : ∀ i n, AsksTo cfg s i ⟨[], n⟩ := fun i n =>
    ⟨fun _ => ⟨List.nodup_nil, nofun⟩, fun h => absurd rfl h, .inl (Nat.zero_le _)⟩
  cases h with
  | keep _ ha | release _ ha | down _ _ ha => exact .inl ha
  | new _ ha => exact .inr ⟨_, _, ha, hnil _ _⟩
  | fail _ ha => exact .inr ⟨_, _, ha, hnil _ _⟩
  | skip _ ha =>
    refine .inr ⟨_, _, ha, fun hv => ⟨hv.nodup, fun q hq => ?_⟩, .inl, .inl (Nat.le_refl _)⟩
    exact Nat.lt_succ_of_lt (hv.below q hq)
  | ask hs hp _ _ ha =>
    exact .inr ⟨_, _, ha, .insert, fun _ => .inr hs, .inr ⟨hp, length_insert_le ..⟩⟩
  | @remove i q hq _ ha =>
    exact .inr ⟨_, _, ha, fun hv => hv.filter q, fun _ => .inl (List.ne_nil_of_mem hq),
      .inl (List.length_filter_le ..)⟩

/-- The counter stays within its limit. -/
theorem PendingStep.total (h : PendingStep cfg s pc o)
    (hl : s.pendingChannelRequests ≤ cfg.limits.maxPendingChannelRequests) :
    o.sess.pendingChannelRequests ≤ cfg.limits.maxPendingChannelRequests := by
  cases h with
  | keep hc | new hc | skip hc => rwa [hc]
  | remove _ hc => rwa [hc]
  | ask _ _ hl hc => rw [hc]; exact hl
  | release hc | fail hc => rw [hc]; exact (Nat.sub_le ..).trans hl
  | down _ hc => rw [hc]; exact Nat.zero_le _

/-- **The balance of a step**: what the counter gains is what the channels' waiters and the acting
    goroutine gain. -/
theorem PendingStep.balance (h : PendingStep cfg s pc o) (hv : ∀ i, (Mux.asks s i).Valid)
    (hn : s.nextLocalChannelID ≤ o.sess.nextLocalChannelID)
    (hfresh : ∀ i, s.nextLocalChannelID ≤ i → (Mux.asks s i).pending = [])
    (hlive : ∀ i, (s.chan i).state.allowsRequests = true → i < s.nextLocalChannelID)
    (hd : o.sess.closing = false)
    (hle : s.asked + pc.releasing ≤ s.pendingChannelRequests) :
    o.sess.pendingChannelRequests + (s.asked + pc.releasing) =
      s.pendingChannelRequests + (o.sess.asked + o.pc.releasing) := by
  have hempty : ∀ i, s.nextLocalChannelID ≤ i → (Mux.asks s i).pending.length = 0 := fun i hi =>
    congrArg List.length (hfresh i hi)
  have hsame : Mux.asks o.sess = Mux.asks s → o.sess.asked = s.asked := fun ha => by
    unfold Session.asked
    rw [ha]
    exact tally_extend hn hempty
  have hchange : ∀ {i l n}, Mux.asks o.sess = update (Mux.asks s) i ⟨l, n⟩ →
      i < s.nextLocalChannelID ∨ l.length = 0 →
      o.sess.asked + (Mux.asks s i).pending.length = s.asked + l.length := fun ha hi => by
    unfold Session.asked
    rw [ha]
    exact tally_change (f := fun a : Asks => a.pending.length) hn hempty hi
  have hmade : ∀ {i q}, q ∈ (Mux.asks s i).pending → i < s.nextLocalChannelID := fun {i q} hq =>
    Nat.lt_of_not_le fun hi => List.ne_nil_of_mem hq (hfresh i hi)
  cases h with
  | keep hc ha hr hr' => rw [hc, hsame ha, hr, hr']
  | new hc ha hr hr' =>
    have := hchange ha (.inr rfl)
    rw [hempty _ (Nat.le_refl _)] at this
    rw [hc, hr, hr']
    exact congrArg _ this.symm
  | @skip i hc ha hr hr' =>
    have := hchange ha ((Nat.lt_or_ge i _).imp_right (hempty i))
    omega
  | @ask i hs _ _ hc ha hr hr' =>
    have := hchange ha (.inl (hlive i hs))
    have := (hv i).length_insert
    omega
  | @remove i q hq hc ha hr hr' =>
    have := hchange ha (.inl (hmade hq))
    have := (hv i).length_filter hq
    omega
  | release hc ha hr hr' =>
    rw [hr] at hle ⊢
    rw [hc, hsame ha, hr']
    omega
  | @fail i hc ha hr hr' =>
    have hall := hchange ha (.inr rfl)
    rw [List.length_nil] at hall
    omega
  | down hd' => exact absurd (hd.symm.trans hd') Bool.noConfusion

/-- A limit that is read through a 32-bit word is a limit. -/
theorem succ_le_of_toU32_lt {n limit : Nat} (hn : n ≤ limit) (hl : limit ≤ maxUint32)
    (h : toU32 n < limit) : n + 1 ≤ limit := by
  rwa [toU32_eq (hn.trans hl)] at h

/-- The limits of the waiters fit the words they are compared with. -/
structure Limits.FitRequests (lim : Limits) : Prop where
  perChannel : lim.maxPendingChannelRequestsPerChannel ≤ maxUint32
  globals : lim.maxPendingGlobalRequests ≤ maxUint32

/-- **Every step keeps the waiters.** -/
theorem Waiters.step (hf : cfg.limits.FitRequests) (hW : Waiters cfg m) (hP : Pairing tr m)
    (he : Effect cfg m.sess t (m.pc t) o) :
    Waiters cfg ⟨o.sess, update m.pc t o.pc⟩ := by
  have hlive : ∀ i, (m.sess.chan i).state.allowsRequests = true →
      i < m.sess.nextLocalChannelID := fun _ => hP.allows_lt
  have hstep := pending_step he
  -- a property of the waiters of a channel, kept where the step changes them
  have hkeep : ∀ {P : Nat → Asks → Prop}, (∀ i, P i (asks m.sess i)) →
      (∀ i a, AsksTo cfg m.sess i a → P i a) → ∀ i, P i (asks o.sess i) := fun {P} h h' j => by
    rcases hstep.asks with ha | ⟨i, a, ha, hto⟩ <;> rw [ha]
    · exact h j
    · by_cases hj : j = i
      · subst hj
        rw [update_self]
        exact h' j a hto
      · rw [update_of_ne hj]
        exact h j
  refine ⟨?_, fun i hi => ?_, ?_, hstep.total hW.total, ?_, fun hd => ?_⟩
  · exact hkeep (P := fun _ a => a.Valid) hW.valid fun i _ h => h.valid (hW.valid i)
  · refine hkeep (P := fun j a => m.sess.nextLocalChannelID ≤ j → a.pending = []) hW.fresh
      (fun j a h hj => by_contra fun hne => ?_) i ((next_le he).trans hi)
    rcases h.made hne with h | h
    · exact h (hW.fresh j hj)
    · exact Nat.not_lt.mpr hj (hlive j h)
  · refine hkeep (P := fun _ a => a.pending.length ≤ _) hW.perChannel fun i a h => ?_
    rcases h.length with h | ⟨hp, h⟩
    · exact h.trans (hW.perChannel i)
    · exact h.trans (succ_le_of_toU32_lt (hW.perChannel i) hf.perChannel hp)
  · rcases global_step he with h | ⟨hp, h⟩
    · exact h.trans hW.globals
    · exact h.trans (succ_le_of_toU32_lt hW.globals hf.globals hp)
  · have hd' : m.sess.closing = false := Bool.eq_false_iff.mpr fun h =>
      Bool.eq_false_iff.mp hd (closing_kept he h)
    obtain ⟨ts, hts, hexact⟩ := hW.exact hd'
    obtain ⟨hts', hle, hsum⟩ := sum_update (x := o.pc) (p := Pc.releasing) (q := Pc.releasing)
      (t := t) hts rfl fun _ _ => rfl
    refine ⟨insert t ts, hts', ?_⟩
    have hbal := hstep.balance hW.valid (next_le he) hW.fresh hlive hd (by omega)
    show o.sess.pendingChannelRequests = o.sess.asked +
      ∑ u ∈ insert t ts, (update m.pc t o.pc u).releasing
    omega

end Step

/-! ## 3. Every run -/

theorem Prepared.fitRequests (p : Prepared) : p.config.limits.FitRequests := by
  have h1 : p.config.limits.maxPendingChannelRequestsPerChannel ≤
      hardMaxPendingChannelRequestsPerChannel :=
    @Prepared.limit_le p "max pending channel requests per channel" _ _ (by simp [Limits.checks])
  have h2 : p.config.limits.maxPendingGlobalRequests ≤ hardMaxPendingGlobalRequests :=
    @Prepared.limit_le p "max pending global requests" _ _ (by simp [Limits.checks])
  exact ⟨h1.trans (by decide), h2.trans (by decide)⟩

theorem waiters_run {cfg : Prepared} {C : Machine → Act → Prop} {tr : List Event} {m : Machine}
    (h : (Machine.lts cfg.config).Run C tr m) : Waiters cfg.config m := by
  refine Machine.run_invariant (I := fun _ m => Waiters cfg.config m) h (waiters_start _)
    fun {tr m a o} hr hW _ he => ?_
  exact hW.step cfg.fitRequests (pairing_run hr) he

/-- **The pending requests of a session are counted exactly**: the counter is the number of waiters
    of all channels made so far and of waiters taken out whose release is under way; no count is
    above its limit; and no release finds the counter at zero, neither that of one waiter nor those
    of a whole channel when all its waiters fail. -/
structure Machine.PendingExact (cfg : Config) (m : Machine) : Prop where
  sum : ∃ ts : Finset Tid, (∀ t, t ∉ ts → m.pc t = .start) ∧
    m.sess.pendingChannelRequests =
      ∑ i ∈ Finset.range m.sess.nextLocalChannelID, (m.sess.chan i).pendingRequests.length +
        ∑ t ∈ ts, (m.pc t).releasing
  unmade : ∀ i, m.sess.nextLocalChannelID ≤ i → (m.sess.chan i).pendingRequests = []
  total : m.sess.pendingChannelRequests ≤ cfg.limits.maxPendingChannelRequests
  perChannel : ∀ i,
    (m.sess.chan i).pendingRequests.length ≤ cfg.limits.maxPendingChannelRequestsPerChannel
  globals : m.sess.pendingGlobal.length ≤ cfg.limits.maxPendingGlobalRequests
  release : ∀ t, (m.pc t).releasing = 1 → 0 < m.sess.pendingChannelRequests
  failing : ∀ i, (m.sess.chan i).pendingRequests.length ≤ m.sess.pendingChannelRequests

/-- **Pending-request accounting under an arbitrary peer.** -/
theorem pending_requests_exact {cfg : Prepared} {C : Machine → Act → Prop} {tr : List Event}
    {m : Machine} (h : (Machine.lts cfg.config).Run C tr m) (hup : m.sess.closing = false) :
    m.PendingExact cfg.config := by
  have hW := waiters_run h
  obtain ⟨ts, hts, hexact⟩ := hW.exact hup
  refine ⟨⟨ts, hts, hexact⟩, hW.fresh, hW.total, hW.perChannel, hW.globals, fun t ht => ?_,
    fun i => ?_⟩
  · have hmem : t ∈ ts := by_contra fun hn => by
      rw [hts t hn] at ht
      cases ht
    have hle := Finset.single_le_sum (f := fun u => (m.pc u).releasing)
      (fun _ _ => Nat.zero_le _) hmem
    omega
  · rcases Nat.lt_or_ge i m.sess.nextLocalChannelID with hi | hi
    · have hle : (m.sess.chan i).pendingRequests.length ≤ m.sess.asked :=
        le_tally (f := fun a : Asks => a.pending.length) (g := asks m.sess) hi
      omega
    · have hnil : (m.sess.chan i).pendingRequests = [] := hW.fresh i hi
      rw [hnil]
      exact Nat.zero_le _

/-- Two requests on the peer's channel; the first caller has left and not released its place. -/
theorem pending_requests_exact_leaving : ∃ tr m,
    (Machine.lts narrow.config).Run (fun _ _ => True) tr m ∧ m.sess.closing = false ∧
    m.sess.pendingChannelRequests = 2 ∧ (m.sess.chan 0).pendingRequests = [1] ∧
    m.PendingExact narrow.config := by
  obtain ⟨tr, m, h, hup, hc, hr⟩ := Lts.exists_run_of_replay (L := Machine.lts narrow.config)
    (C := fun _ _ => True)
    (P := fun _ m => m.sess.closing = false ∧ m.sess.pendingChannelRequests = 2 ∧
      (m.sess.chan 0).pendingRequests = [1])
    (incomingChannel ++
      (Tid.call 0).does [.api (.sendRequest 0 "t" [] true), .go, .go, .go, .go, .ctxDone, .go] ++
      (Tid.call 1).does [.api (.sendRequest 0 "t" [] true), .go, .go]) (by decide +kernel)
  exact ⟨tr, m, h, hup, hc, hr, pending_requests_exact h hup⟩

end Mygosh.Mux

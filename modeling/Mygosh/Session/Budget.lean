/-
  File:      Mygosh/Session/Budget.lean
  Subject:   The queue budget is exact, in every state a session reaches under an arbitrary peer.

  The session's counters are the sum of the channels' counters, of what its own queues hold, and of
  what a goroutine has in its hand: reserved and not queued yet, or taken and not released yet. So
  they are within the limits, no release asks for more than there is, and a queue has room for
  whatever has been reserved. `HoldAt`, `hold_at` say what a step does to the queues of one channel.
-/
import Mygosh.Tally
import Mygosh.Session.Accounts
import Mygosh.Session.Pairing

namespace Mygosh.Mux

open Function (update update_self update_of_ne update_eq_self update_idem)
open Session

/-! ## 1. What is accounted for -/

/-- What all channels made so far hold. -/
def Session.channelTotal (u : Measure) (s : Session) : Nat :=
  tally (fun n => n) (s.budget.held u) s.nextLocalChannelID

/-- What the session's own queues hold. -/
def Session.stored (u : Measure) (s : Session) : Nat :=
  (s.items.map fun x => u.weigh (x.size s)).sum

/-- What a goroutine has in its hand. -/
def Pc.carried (u : Measure) (s : Session) (pc : Pc) : Nat :=
  match pc.item with
  | some x => u.weigh (x.size s)
  | none => 0

theorem Pc.carried_none {u : Measure} {s : Session} {pc : Pc} (h : pc.item = none) :
    pc.carried u s = 0 := by
  unfold Pc.carried
  rw [h]

theorem Pc.carried_some {u : Measure} {s : Session} {pc : Pc} {x : Item} (h : pc.item = some x) :
    pc.carried u s = u.weigh (x.size s) := by
  unfold Pc.carried
  rw [h]

/-- **The accounts of a session.** -/
structure Accounts (cfg : Config) (m : Machine) : Prop where
  within : m.sess.budget.Within cfg.limits
  fresh : ∀ u i, m.sess.nextLocalChannelID ≤ i → m.sess.budget.held u i = 0
  exact : ∃ ts : Finset Tid, (∀ t, t ∉ ts → m.pc t = .start) ∧
    ∀ u, m.sess.budget.queued u =
      m.sess.channelTotal u + m.sess.stored u + ∑ t ∈ ts, (m.pc t).carried u m.sess

theorem accounts_start (cfg : Config) : Accounts cfg Machine.start where
  within := ⟨fun u => by cases u <;> exact Nat.zero_le _, fun u i => by cases u <;> exact Nat.zero_le _⟩
  fresh u _ _ := by cases u <;> rfl
  exact := ⟨∅, fun _ _ => rfl, fun u => by cases u <;> rfl⟩

/-! ## 2. Items keep their size -/

section Size

variable {cfg : Config} {tr : List Event} {m : Machine} {t : Tid} {o : Out} {x : Item}

/-- An item of a queue, or in a hand. -/
def Machine.Charged (m : Machine) (x : Item) : Prop :=
  x ∈ m.sess.items ∨ ∃ u, (m.pc u).item = some x

/-- A charged write exists, and the goroutine that still fills in a frame has another one. -/
theorem Outbox.charged_write (hO : Outbox tr m) {w : Nat} (hx : m.Charged (.write w)) :
    w < m.sess.nextWrite ∧ ∀ q p, m.pc t ≠ .workRespond q p (some w) := by
  have hfill : ∀ q p, m.pc t = .workRespond q p (some w) → InHand m.sess t w := fun q p hpc =>
    hO.hand t w (by rw [hpc]; rfl)
  have hplace : ∀ {p}, (m.sess.writes w).place = p → p ≠ .hand →
      ∀ q r, m.pc t ≠ .workRespond q r (some w) := fun hp hne q r hpc =>
    hne (hp.symm.trans (hfill q r hpc).place)
  rcases hx with hx | ⟨u, hu⟩
  · simp only [Session.items, List.mem_append, List.mem_map, reduceCtorEq, and_false, exists_false,
      Item.write.injEq, exists_eq_right, false_or] at hx
    rcases hx with hx | hx
    · have hw := hO.control.2 w hx
      exact ⟨hw.lt, hplace hw.place (by decide)⟩
    · have hw := hO.outbound.2 w hx
      exact ⟨hw.lt, hplace hw.place (by decide)⟩
  · have hs := hO.staged u
    have hh := hO.hand u w
    cases hpc : m.pc u <;> rw [hpc] at hu hs hh <;> cases hu
    · have hw := hh rfl
      refine ⟨hw.lt, fun q p ht => ?_⟩
      -- the write has one caller, who is at one counter
      have hut : u = t := hw.caller.symm.trans (hfill q p ht).caller
      rw [hut, ht] at hpc
      cases hpc
    · exact ⟨hs.lt, hplace hs.place (by decide)⟩

/-- **What is charged keeps its size.** -/
theorem Outbox.size_eq (hO : Outbox tr m) (he : Effect cfg m.sess t (m.pc t) o)
    (hx : m.Charged x) : x.size o.sess = x.size m.sess := by
  cases x with
  | task d => rfl
  | write w =>
    obtain ⟨hlt, hfill⟩ := hO.charged_write (t := t) hx
    rcases (write_step he).envelope hlt with h | ⟨_, q, p, _, -, hpc, -⟩
    · exact congrArg Envelope.size h
    · exact absurd hpc (hfill q p)

end Size

/-! ## 3. One step -/

section Step

variable {cfg : Config} {tr : List Event} {m : Machine} {t : Tid} {o : Out} {u : Measure} {i n : Nat}

/-- What the queues hold is measured the same before and after a step. -/
theorem stored_eq {s' : Session} {xs : List Item} (hs : ∀ x ∈ xs, x.size s' = x.size m.sess) :
    (xs.map fun x => u.weigh (x.size s')).sum = (xs.map fun x => u.weigh (x.size m.sess)).sum := by
  refine congrArg List.sum (List.map_congr_left fun x hx => ?_)
  rw [hs x hx]

/-- The counter of one channel changes, of those made so far. -/
theorem channelTotal_update {s s' : Session} {n : Nat} (hn : s.nextLocalChannelID ≤ s'.nextLocalChannelID)
    (hfresh : ∀ j, s.nextLocalChannelID ≤ j → s.budget.held u j = 0)
    (hi : i < s.nextLocalChannelID ∨ n = 0)
    (hb : s'.budget.held u = update (s.budget.held u) i n) :
    s'.channelTotal u + s.budget.held u i = s.channelTotal u + n := by
  unfold Session.channelTotal
  rw [hb]
  exact tally_change (f := fun n => n) hn hfresh hi

theorem channelTotal_same {s s' : Session} (hn : s.nextLocalChannelID ≤ s'.nextLocalChannelID)
    (hfresh : ∀ j, s.nextLocalChannelID ≤ j → s.budget.held u j = 0)
    (hb : s'.budget.held u = s.budget.held u) : s'.channelTotal u = s.channelTotal u := by
  unfold Session.channelTotal
  rw [hb, tally_extend (f := fun n => n) hn hfresh]

/-- A channel's counter is part of the total. -/
theorem held_le_channelTotal {s : Session}
    (hfresh : ∀ j, s.nextLocalChannelID ≤ j → s.budget.held u j = 0) (i : Nat) :
    s.budget.held u i ≤ s.channelTotal u := by
  by_cases hlt : i < s.nextLocalChannelID
  · exact le_tally (f := fun n => n) hlt
  · rw [hfresh i (Nat.le_of_not_lt hlt)]
    exact Nat.zero_le _

/-- A reservation that is given back at once. -/
theorem refuse_eq {lim : Limits} {b b₁ : Budget} (hf : lim.Fit) (hw : b.Within lim)
    (hr : b.reserveQueuedLocked lim i 1 n = some b₁) (u : Measure) :
    (b₁.releaseQueuedLocked i 1 n).queued u = b.queued u ∧
      (b₁.releaseQueuedLocked i 1 n).held u = b.held u := by
  obtain ⟨hq, -, hh, -⟩ := reserveQueuedLocked_eq hf hw hr
  obtain ⟨hq', hh'⟩ := releaseQueuedLocked_eq u b₁ i n
  rw [hq', hh', hq, hh, update_self, update_idem]
  refine ⟨by omega, ?_⟩
  rw [Nat.add_sub_cancel, update_eq_self]

/-- **The balance of a step**: what the session's counter gains is what channels, queues and the
    acting goroutine gain. -/
theorem Accounts.balance (hf : cfg.limits.Fit) (hA : Accounts cfg m) (hO : Outbox tr m)
    (he : Effect cfg m.sess t (m.pc t) o)
    (hlive : ∀ i, (m.sess.chan i).state.allowsRequests = true → i < m.sess.nextLocalChannelID)
    (hle : m.sess.channelTotal u + m.sess.stored u + (m.pc t).carried u m.sess ≤
      m.sess.budget.queued u) :
    o.sess.budget.queued u +
        (m.sess.channelTotal u + m.sess.stored u + (m.pc t).carried u m.sess) =
      m.sess.budget.queued u +
        (o.sess.channelTotal u + o.sess.stored u + o.pc.carried u o.sess) := by
  have hn := next_le he
  have hfresh := hA.fresh u
  have hqueue : ∀ x ∈ m.sess.items, x.size o.sess = x.size m.sess := fun x hx =>
    hO.size_eq he (.inl hx)
  have hsame : o.sess.items = m.sess.items → o.sess.stored u = m.sess.stored u := fun hq => by
    unfold Session.stored
    rw [hq]
    exact stored_eq hqueue
  cases budget_step he with
  | keep hb hq hi hi' =>
    rw [channelTotal_same hn hfresh (by rw [hb]), hsame hq, Pc.carried_none hi,
      Pc.carried_none hi', hb]
  | reserve hb hx hq hi hi' =>
    obtain ⟨hqueued, -, hheld⟩ := reserveQueueBudget_eq hf hA.within hb
    rw [channelTotal_same hn hfresh (by rw [hheld]), hsame hq, Pc.carried_none hi,
      Pc.carried_some hi', hqueued, hx]
    omega
  | release hb hq hi hi' =>
    rw [Pc.carried_some hi] at hle ⊢
    rw [channelTotal_same hn hfresh (by rw [hb, releaseQueueBudget_held]), hsame hq,
      Pc.carried_none hi', hb, release_queued]
    omega
  | @put x hb hq hi hi' =>
    have hstored : o.sess.stored u = u.weigh (x.size m.sess) + m.sess.stored u := by
      unfold Session.stored
      rw [(hq.map _).sum_eq, List.map_cons, List.sum_cons, stored_eq hqueue,
        hO.size_eq he (.inr ⟨t, hi⟩)]
    rw [channelTotal_same hn hfresh (by rw [hb]), Pc.carried_some hi, Pc.carried_none hi', hb,
      hstored]
    omega
  | @take x hb hq hi hi' =>
    have hmem : ∀ y ∈ x :: o.sess.items, y.size o.sess = y.size m.sess := fun y hy =>
      hqueue y (hq.mem_iff.mpr hy)
    have hstored : m.sess.stored u = u.weigh (x.size m.sess) + o.sess.stored u := by
      unfold Session.stored
      rw [(hq.map _).sum_eq, List.map_cons, List.sum_cons,
        stored_eq fun y hy => hmem y (List.mem_cons_of_mem _ hy)]
    rw [channelTotal_same hn hfresh (by rw [hb]), Pc.carried_none hi, Pc.carried_some hi', hb,
      hstored, hmem x List.mem_cons_self]
    omega
  | charge hs hb hq hi hi' =>
    obtain ⟨hqueued, -, hheld, -⟩ := reserveQueuedLocked_eq hf hA.within hb
    have := channelTotal_update hn hfresh (.inl (hlive _ hs)) (hheld u)
    rw [hsame hq, Pc.carried_none hi, Pc.carried_none hi', hqueued]
    omega
  | @discharge i n hb hq hi hi' =>
    obtain ⟨hqueued, hheld⟩ := releaseQueuedLocked_eq u m.sess.budget i n
    have hle' := held_le_channelTotal hfresh i
    have hsmall : i < m.sess.nextLocalChannelID ∨ m.sess.budget.held u i - u.weigh n = 0 := by
      rcases Nat.lt_or_ge i m.sess.nextLocalChannelID with h | h
      · exact .inl h
      · exact .inr (by rw [hfresh i h, Nat.zero_sub])
    have := channelTotal_update hn hfresh hsmall (by rw [hb, hheld])
    rw [hsame hq, Pc.carried_none hi, Pc.carried_none hi', hb, hqueued]
    omega
  | @discard i hb hq hi hi' =>
    obtain ⟨hqueued, hheld⟩ := discardQueuedLocked_eq u m.sess.budget i
    have hle' := held_le_channelTotal hfresh i
    have := channelTotal_update hn hfresh (.inr rfl) (by rw [hb, hheld])
    rw [hsame hq, Pc.carried_none hi, Pc.carried_none hi', hb, hqueued]
    omega
  | refuse hr hb hq hi hi' =>
    obtain ⟨hqueued, hheld⟩ := refuse_eq hf hA.within hr u
    rw [channelTotal_same hn hfresh (by rw [hb, hheld]), hsame hq, Pc.carried_none hi,
      Pc.carried_none hi', hb, hqueued]

/-- What a step does to the channels' counters: one may sink, or rise within its limit while the
    channel takes in frames. -/
theorem BudgetStep.held {s : Session} {pc : Pc} (hf : cfg.limits.Fit)
    (hw : s.budget.Within cfg.limits) (h : BudgetStep cfg s pc o) (u : Measure) :
    o.sess.budget.held u = s.budget.held u ∨
      ∃ i n, o.sess.budget.held u = update (s.budget.held u) i n ∧
        (n ≤ s.budget.held u i ∨
          (s.chan i).state.allowsRequests = true ∧ n ≤ cfg.limits.perChannel u) := by
  cases h with
  | keep hb | put hb | take hb => exact .inl (by rw [hb])
  | reserve hb => exact .inl (reserveQueueBudget_held hb u)
  | release hb => exact .inl (by rw [hb, releaseQueueBudget_held])
  | charge hs hb =>
    obtain ⟨-, -, hheld, hle⟩ := reserveQueuedLocked_eq hf hw hb
    exact .inr ⟨_, _, hheld u, .inr ⟨hs, hle u⟩⟩
  | @discharge i n hb =>
    refine .inr ⟨i, s.budget.held u i - u.weigh n, ?_, .inl (Nat.sub_le _ _)⟩
    rw [hb, (releaseQueuedLocked_eq u s.budget i n).2]
  | @discard i hb =>
    refine .inr ⟨i, 0, ?_, .inl (Nat.zero_le _)⟩
    rw [hb, (discardQueuedLocked_eq u s.budget i).2]
  | refuse hr hb => exact .inl (by rw [hb, (refuse_eq hf hw hr u).2])

/-- The session's counter stays within its limit. -/
theorem BudgetStep.queued_le {s : Session} {pc : Pc} (hf : cfg.limits.Fit)
    (hw : s.budget.Within cfg.limits) (h : BudgetStep cfg s pc o) (u : Measure) :
    o.sess.budget.queued u ≤ cfg.limits.total u := by
  have hle := hw.total u
  cases h with
  | keep hb | put hb | take hb => rwa [hb]
  | reserve hb => exact (reserveQueueBudget_eq hf hw hb).2.1 u
  | release hb =>
    rw [hb, release_queued]
    omega
  | charge _ hb => exact (reserveQueuedLocked_eq hf hw hb).2.1 u
  | @discharge i n hb =>
    rw [hb, (releaseQueuedLocked_eq u s.budget i n).1]
    omega
  | @discard i hb =>
    rw [hb, (discardQueuedLocked_eq u s.budget i).1]
    omega
  | refuse hr hb => rwa [hb, (refuse_eq hf hw hr u).1]

theorem BudgetStep.within {s : Session} {pc : Pc} (hf : cfg.limits.Fit)
    (hw : s.budget.Within cfg.limits) (h : BudgetStep cfg s pc o) :
    o.sess.budget.Within cfg.limits where
  total := h.queued_le hf hw
  perChannel u j := by
    rcases h.held hf hw u with heq | ⟨i, n, heq, hn⟩ <;> rw [heq]
    · exact hw.perChannel u j
    · by_cases hj : j = i
      · subst hj
        rw [update_self]
        exact hn.elim (fun h => h.trans (hw.perChannel u j)) And.right
      · rw [update_of_ne hj]
        exact hw.perChannel u j

/-- A channel that takes part in anything has been made. -/
theorem Pairing.allows_lt (hP : Pairing tr m) (hs : (m.sess.chan i).state.allowsRequests = true) :
    i < m.sess.nextLocalChannelID := by
  obtain ⟨hopening, hfailed⟩ := allows_live hs
  obtain ⟨p, hp⟩ := hP.live i hopening hfailed
  exact hP.lt i p hp

/-- **Every step keeps the accounts.** -/
theorem Accounts.step (hf : cfg.limits.Fit) (hA : Accounts cfg m) (hO : Outbox tr m)
    (hP : Pairing tr m) (he : Effect cfg m.sess t (m.pc t) o) :
    Accounts cfg ⟨o.sess, update m.pc t o.pc⟩ := by
  have hlive : ∀ i, (m.sess.chan i).state.allowsRequests = true →
      i < m.sess.nextLocalChannelID := fun _ => hP.allows_lt
  refine ⟨(budget_step he).within hf hA.within, fun u j hj => ?_, ?_⟩
  · have hj' := (next_le he).trans hj
    rcases (budget_step he).held hf hA.within u with heq | ⟨i, n, heq, hn⟩
    · rw [heq]
      exact hA.fresh u j hj'
    · by_cases hij : j = i
      · subst hij
        have h0 := hA.fresh u j hj'
        rw [heq, update_self]
        rcases hn with hn | ⟨hs, -⟩
        · exact Nat.eq_zero_of_le_zero (hn.trans (Nat.le_of_eq h0))
        · exact absurd (hlive j hs) (Nat.not_lt.mpr hj')
      · rw [heq, update_of_ne hij]
        exact hA.fresh u j hj'
  · obtain ⟨ts, hts, hexact⟩ := hA.exact
    refine ⟨insert t ts, ?_, fun u => ?_⟩
    · exact (sum_update (p := fun _ => 0) (q := fun _ => 0) hts rfl fun _ _ => rfl).1
    · obtain ⟨-, hle, hsum⟩ := sum_update (x := o.pc) (p := fun pc => pc.carried u m.sess)
        (q := fun pc => pc.carried u o.sess) (t := t) hts rfl fun v _ => by
          unfold Pc.carried
          split
          · rename_i x hx
            rw [hO.size_eq he (.inr ⟨v, hx⟩)]
          · rfl
      have hq := hexact u
      have hbal := hA.balance (u := u) hf hO he hlive (by omega)
      show o.sess.budget.queued u = o.sess.channelTotal u + o.sess.stored u +
        ∑ v ∈ insert t ts, (update m.pc t o.pc v).carried u o.sess
      omega

end Step

/-! ## 4. Every run -/

/-- The counters of an accepted configuration cannot wrap: its limits are below the hard maxima. -/
theorem Prepared.fit (p : Prepared) : p.config.limits.Fit := by
  have h1 : p.config.limits.maxQueuedFramesTotal ≤ hardMaxQueuedFramesTotal :=
    @Prepared.limit_le p "max queued frames total" _ _ (by simp [Limits.checks])
  have h2 : p.config.limits.maxQueuedBytesTotal ≤ hardMaxQueuedBytesTotal :=
    @Prepared.limit_le p "max queued bytes total" _ _ (by simp [Limits.checks])
  have h3 : p.config.limits.maxQueuedFramesPerChannel ≤ hardMaxQueuedFramesPerChannel :=
    @Prepared.limit_le p "max queued frames per channel" _ _ (by simp [Limits.checks])
  have h4 : p.config.limits.maxQueuedBytesPerChannel ≤ hardMaxQueuedBytesPerChannel :=
    @Prepared.limit_le p "max queued bytes per channel" _ _ (by simp [Limits.checks])
  exact ⟨h1.trans (by decide), h2.trans (by decide), h3.trans (by decide), h4.trans (by decide)⟩

theorem accounts_run {cfg : Prepared} {C : Machine → Act → Prop} {tr : List Event} {m : Machine}
    (h : (Machine.lts cfg.config).Run C tr m) : Accounts cfg.config m := by
  refine Machine.run_invariant (I := fun _ m => Accounts cfg.config m) h (accounts_start _)
    fun {tr m a o} hr hA _ he => ?_
  exact hA.step cfg.fit (outbox_run hr) (pairing_run hr) he

/-! ## 5. What a channel's counter stands for -/

/-- The frames nobody has received and the events no worker has taken. -/
def Channel.load (u : Measure) (c : Channel) : Nat :=
  (c.frames.map fun f => u.weigh f.length).sum + (c.events.map fun ev => u.weigh ev.size).sum

/-- What a worker has taken and not released. -/
def Pc.due (u : Measure) (pc : Pc) : Nat :=
  match pc.releases with
  | some ev => u.weigh ev.size
  | none => 0

/-- What a channel's counter has to cover. -/
def Machine.stock (u : Measure) (m : Machine) (i : Nat) : Nat :=
  (m.sess.chan i).load u + (m.pc (.worker i)).due u

/-- A channel's counter covers no more than what is there, and while the channel is not dead no
    fewer frames and events. -/
structure Machine.Holding (m : Machine) (i : Nat) : Prop where
  upper : ∀ u, m.sess.budget.held u i ≤ m.stock u i
  lower : (m.sess.chan i).state.dead = false → m.stock .frames i ≤ m.sess.budget.held .frames i

section Holding

variable {cfg : Config} {tr : List Event} {m : Machine} {t : Tid} {o : Out} {i j : Nat} {u : Measure}

theorem holding_start (i : Nat) : Machine.start.Holding i where
  upper u := by cases u <;> exact Nat.zero_le _
  lower _ := Nat.le_refl _

/-- What a goroutine has taken from channel `j` and not released. -/
def Tid.due (t : Tid) (j : Nat) (u : Measure) (pc : Pc) : Nat := if t = .worker j then pc.due u else 0

theorem Tid.due_idle {pc : Pc} (h : pc.releases = none ∨ t ≠ .worker j) : t.due j u pc = 0 := by
  unfold Tid.due Pc.due
  rcases h with h | h
  · rw [h, ite_self]
  · rw [if_neg h]

/-- What a channel's counter has to cover changes with what is queued and with what the goroutine at
    work has in hand. -/
theorem stock_step :
    (⟨o.sess, update m.pc t o.pc⟩ : Machine).stock u j + (m.sess.chan j).load u + t.due j u (m.pc t) =
      (o.sess.chan j).load u + t.due j u o.pc + m.stock u j := by
  unfold Machine.stock Tid.due
  dsimp only
  split_ifs with ht
  · subst ht
    rw [update_self]
    omega
  · rw [update_of_ne (Ne.symm ht)]
    omega

theorem Channel.Keeps.load {u : Measure} {c c' : Channel} (h : c.Keeps c') : c'.load u = c.load u := by
  unfold Channel.load
  rw [h.frames, h.events]

/-- Both rise by one item. -/
theorem Channel.Adds.load {u : Measure} {c c' : Channel} {n : Nat} (h : c.Adds c' n) :
    c.load u + u.weigh n ≤ c'.load u ∧ (u = .frames → c'.load u ≤ c.load u + u.weigh n) := by
  cases h with
  | @frame data hs hk hst =>
    have hle : toU32 data.length ≤ data.length := by
      unfold toU32
      exact Nat.mod_le _ _
    unfold Channel.load
    rw [hk.frames, hk.events, List.map_append, List.sum_append]
    cases u <;> simp [Measure.weigh] <;> omega
  | event hk hst =>
    unfold Channel.load
    rw [hk.frames, hk.events, List.map_append, List.sum_append]
    simp
    omega

/-- A worker takes an event. -/
theorem Channel.load_take {u : Measure} {c : Channel} {ev : ChannelEvent} {rest : List ChannelEvent}
    (h : c.events = ev :: rest) :
    c.load u = ({ c with events := rest } : Channel).load u + u.weigh ev.size := by
  simp only [Channel.load, h, List.map_cons, List.sum_cons]
  omega

/-- `Recv` takes a frame. -/
theorem Channel.load_recv (cfg : Config) {u : Measure} {c : Channel} {frame : Bytes} {rest : List Bytes}
    (h : c.frames = frame :: rest) :
    c.load u = (takeFrame cfg c frame rest).load u + u.weigh frame.length := by
  simp only [Channel.load, takeFrame, h, List.map_cons, List.sum_cons]
  omega

/-- An event that found no room leaves the counters. -/
theorem eventRefused_held {s : Session} {c : Channel} {ev : ChannelEvent} {u : Measure}
    (hf : cfg.limits.Fit) (hw : s.budget.Within cfg.limits) :
    (s.eventRefused cfg i c ev).budget.held u = s.budget.held u := by
  unfold Session.eventRefused
  dsimp only
  split
  · rfl
  · exact (refuse_eq hf hw ‹_› u).2

/-- The worker of a channel that has not been made yet has nothing to release. -/
theorem Pairing.due_fresh {u : Measure} (hP : Pairing tr m) (hi : m.sess.nextLocalChannelID ≤ i) :
    (m.pc (.worker i)).due u = 0 := by
  unfold Pc.due
  split
  · rename_i ev hev
    have hrole : (m.pc (.worker i)).role = some .worker := by
      cases hpc : m.pc (.worker i) <;> rw [hpc] at hev <;> cases hev
      rfl
    obtain ⟨p, hp⟩ := hP.worker i hrole
    exact absurd (hP.lt i p hp) (Nat.not_lt.mpr hi)
  · rfl

/-- The ways a step can touch what channel `j` holds. -/
inductive HoldAt (cfg : Config) (s : Session) (t : Tid) (pc : Pc) (o : Out) (j : Nat) : Prop where
  | keep (hb : ∀ u, o.sess.budget.held u j = s.budget.held u j - t.due j u pc)
      (hk : (s.chan j).Keeps (o.sess.chan j))
      (hs : Shift j pc (s.chan j).state (o.sess.chan j).state) (hd : ∀ u, t.due j u o.pc = 0)
  | cancel (hb : ∀ u, o.sess.budget.held u j = s.budget.held u j)
      (hc : o.sess.chan j = (s.chan j).canceled s.ctxErr .channelClosed)
      (hp : t = .worker j ∧ pc = .workClosed true ∨ pc = .recvCancel j)
      (hd : ∀ u, t.due j u pc = 0 ∧ t.due j u o.pc = 0)
  | new (hj : s.nextLocalChannelID ≤ j) (hb : ∀ u, o.sess.budget.held u j = s.budget.held u j)
      (hf : (o.sess.chan j).frames = []) (he : (o.sess.chan j).events = [])
      (hx : (o.sess.chan j).ctxErr = none) (hx' : (o.sess.chan j).sessionErr = none)
      (hd : ∀ u, t.due j u pc = 0 ∧ t.due j u o.pc = 0)
  | add {n} (hs : (s.chan j).state.allowsRequests = true) (ha : (s.chan j).Adds (o.sess.chan j) n)
      (hb : ∀ u, o.sess.budget.held u j = s.budget.held u j + u.weigh n)
      (hd : ∀ u, t.due j u pc = 0 ∧ t.due j u o.pc = 0)
  | take {ev rest} (hb : ∀ u, o.sess.budget.held u j = s.budget.held u j)
      (he : (s.chan j).events = ev :: rest)
      (hc : o.sess.chan j = { s.chan j with events := rest })
      (hd : ∀ u, t.due j u pc = 0 ∧ t.due j u o.pc = u.weigh ev.size)
  | recv {frame rest} (hb : ∀ u, o.sess.budget.held u j = s.budget.held u j - u.weigh frame.length)
      (hf : (s.chan j).frames = frame :: rest)
      (hc : o.sess.chan j = takeFrame cfg (s.chan j) frame rest)
      (hd : ∀ u, t.due j u pc = 0 ∧ t.due j u o.pc = 0)
  | discard (hb : ∀ u, o.sess.budget.held u j = 0) (hf : (o.sess.chan j).frames = [])
      (he : (o.sess.chan j).events = (s.chan j).events) (hd : (o.sess.chan j).state.dead = true)
      (hs : (s.chan j).state = .channelClosed → (o.sess.chan j).state = .channelClosed)
      (hx : (s.chan j).ctxErr ≠ none → (o.sess.chan j).ctxErr ≠ none)

theorem hold_at {s : Session} {pc : Pc} (hf : cfg.limits.Fit) (hw : s.budget.Within cfg.limits)
    (h : Effect cfg s t pc o) (j : Nat) : HoldAt cfg s t pc o j := by
  -- a channel the step does not touch
  have hother : (∀ u, o.sess.budget.held u j = s.budget.held u j) → o.sess.chan j = s.chan j →
      (pc.releases = none ∨ t ≠ .worker j) → (o.pc.releases = none ∨ t ≠ .worker j) →
      HoldAt cfg s t pc o j := fun hb hc hr hr' =>
    .keep (fun u => by rw [hb, Tid.due_idle hr, Nat.sub_zero])
      (by rw [hc]; exact ⟨rfl, rfl, rfl, rfl⟩) (by rw [hc]; exact .refl) fun _ => Tid.due_idle hr'
  have hidle : ∀ {pc pc' : Pc}, pc.releases = none → pc'.releases = none → ∀ u : Measure,
      t.due j u pc = 0 ∧ t.due j u pc' = 0 := fun hr hr' _ =>
    ⟨Tid.due_idle (.inl hr), Tid.due_idle (.inl hr')⟩
  cases hold_step h with
  | same hb hc hr hr' => exact hother (fun u => by rw [hb]) (by rw [hc]) (.inl hr) (.inl hr')
  | @touch _ _ i c hb hc hk hs hr hr' =>
    by_cases hj : j = i
    · subst hj
      have hcj : o.sess.chan j = c := by rw [hc, update_self]
      exact .keep (fun u => by rw [hb, (hidle hr hr' u).1, Nat.sub_zero]) (hcj ▸ hk) (hcj ▸ hs)
        fun u => (hidle hr hr' u).2
    · exact hother (fun u => by rw [hb]) (by rw [hc, update_of_ne hj]) (.inl hr) (.inl hr')
  | @cancel _ _ i hb hc hp hr hr' =>
    by_cases hj : j = i
    · subst hj
      exact .cancel (fun u => by rw [hb]) (by rw [hc, update_self]) hp (hidle hr hr')
    · exact hother (fun u => by rw [hb]) (by rw [hc, update_of_ne hj]) (.inl hr) (.inl hr')
  | @new _ _ c hb hc hfr hev hst hx hx' hr hr' =>
    by_cases hj : j = s.nextLocalChannelID
    · have hcj : o.sess.chan j = c := by rw [hc, hj, update_self]
      exact .new (Nat.le_of_eq hj.symm) (fun u => by rw [hb]) (hcj ▸ hfr) (hcj ▸ hev) (hcj ▸ hx)
        (hcj ▸ hx') (hidle hr hr')
    · exact hother (fun u => by rw [hb]) (by rw [hc, update_of_ne hj]) (.inl hr) (.inl hr')
  | @add _ _ i c n hs hb hc ha hr hr' =>
    obtain ⟨-, -, hheld, -⟩ := reserveQueuedLocked_eq hf hw hb
    by_cases hj : j = i
    · subst hj
      have hcj : o.sess.chan j = c := by rw [hc, update_self]
      exact .add hs (hcj ▸ ha) (fun u => by rw [hheld, update_self]) (hidle hr hr')
    · refine hother (fun u => ?_) (by rw [hc, update_of_ne hj]) (.inl hr) (.inl hr')
      rw [hheld, update_of_ne hj]
  | @refuse _ _ i c ev hc hk hs hb hr hr' =>
    have hheld : ∀ u, o.sess.budget.held u j = s.budget.held u j := fun u => by
      rw [hb, eventRefused_held hf hw]
    by_cases hj : j = i
    · subst hj
      have hcj : o.sess.chan j = c := by rw [hc, update_self]
      exact .keep (fun u => by rw [hheld, (hidle hr hr' u).1, Nat.sub_zero]) (hcj ▸ hk) (hcj ▸ hs)
        fun u => (hidle hr hr' u).2
    · exact hother hheld (by rw [hc, update_of_ne hj]) (.inl hr) (.inl hr')
  | @take i _ ev rest ht hb hev hc hp =>
    by_cases hj : j = i
    · subst hj
      refine .take (fun u => by rw [hb]) hev (by rw [hc, update_self]) fun u =>
        ⟨Tid.due_idle (.inl rfl), ?_⟩
      rw [Tid.due, if_pos ht, hp]
      rfl
    · have ht' : t ≠ .worker j := fun heq => hj (Tid.worker.inj (heq.symm.trans ht))
      exact hother (fun u => by rw [hb]) (by rw [hc, update_of_ne hj]) (.inr ht') (.inr ht')
  | @release i _ ev ht hb hc hr' =>
    refine .keep (fun u => ?_) (by rw [hc]; exact ⟨rfl, rfl, rfl, rfl⟩) (by rw [hc]; exact .refl)
      fun _ => Tid.due_idle (.inl hr')
    rw [hb, (releaseQueuedLocked_eq u _ i _).2, Tid.due, ht]
    by_cases hj : j = i
    · subst hj
      rw [update_self, if_pos rfl]
      rfl
    · rw [update_of_ne hj, if_neg fun heq => hj (Tid.worker.inj heq).symm, Nat.sub_zero]
  | @recv i _ frame rest hfr hb hc hr' =>
    have hheld := fun u => hb ▸ (releaseQueuedLocked_eq u s.budget i frame.length).2
    by_cases hj : j = i
    · subst hj
      exact .recv (fun u => by rw [hheld, update_self]) hfr (by rw [hc, update_self]) (hidle rfl hr')
    · refine hother (fun u => ?_) (by rw [hc, update_of_ne hj]) (.inl rfl) (.inl hr')
      rw [hheld, update_of_ne hj]
  | @discard _ _ i c hb hc hfr hev hd hs hx hr hr' =>
    have hheld := fun u => hb ▸ (discardQueuedLocked_eq u s.budget i).2
    by_cases hj : j = i
    · subst hj
      have hcj : o.sess.chan j = c := by rw [hc, update_self]
      exact .discard (fun u => by rw [hheld, update_self]) (hcj ▸ hfr) (hcj ▸ hev)
        (hcj ▸ hd) (hcj ▸ hs) (hcj ▸ hx)
    · refine hother (fun u => ?_) (by rw [hc, update_of_ne hj]) (.inl hr) (.inl hr')
      rw [hheld, update_of_ne hj]

/-- **Every step keeps what the counters stand for.** -/
theorem Machine.Holding.step (hA : Accounts cfg m) (hP : Pairing tr m)
    (hat : HoldAt cfg m.sess t (m.pc t) o j) (h : m.Holding j) :
    (⟨o.sess, update m.pc t o.pc⟩ : Machine).Holding j := by
  have hstock := fun u => stock_step (m := m) (t := t) (o := o) (j := j) (u := u)
  generalize hS : (fun u => (⟨o.sess, update m.pc t o.pc⟩ : Machine).stock u j) = S
  suffices hgoal : (∀ u, o.sess.budget.held u j ≤ S u) ∧
      ((o.sess.chan j).state.dead = false → S .frames ≤ o.sess.budget.held .frames j) by
    subst hS
    exact ⟨hgoal.1, hgoal.2⟩
  replace hstock : ∀ u, S u + (m.sess.chan j).load u + t.due j u (m.pc t) =
      (o.sess.chan j).load u + t.due j u o.pc + m.stock u j := hS ▸ hstock
  have hup := h.upper
  -- a channel that is not dead was not
  have hlow : ((m.sess.chan j).state.dead = true → (o.sess.chan j).state.dead = true) →
      (o.sess.chan j).state.dead = false → m.stock .frames j ≤ m.sess.budget.held .frames j :=
    fun hs hdead => h.lower (Bool.eq_false_iff.mpr fun hd => Bool.eq_false_iff.mp hdead (hs hd))
  cases hat with
  | keep hb hk hs hd =>
    have hload := fun u => hk.load (u := u)
    exact ⟨fun u => by grind, fun hdead => by grind [hlow hs.dead hdead]⟩
  | cancel hb hc hp hd =>
    have hload : ∀ u, (o.sess.chan j).load u = (m.sess.chan j).load u := fun u => by rw [hc]; rfl
    exact ⟨fun u => by grind, fun hdead => by grind [hlow (by rw [hc]; exact id) hdead]⟩
  | new hj hb hfr hev hx hx' hd =>
    have hload : ∀ u, (o.sess.chan j).load u = 0 := fun u => by
      rw [Channel.load, hfr, hev]
      rfl
    have hdue := hP.due_fresh (u := .frames) hj
    refine ⟨fun u => ?_, fun _ => by grind [Machine.stock]⟩
    rw [hb, hA.fresh u j hj]
    exact Nat.zero_le _
  | add hs ha hb hd =>
    have hload := fun u => ha.load (u := u)
    have hle := h.lower (allows_alive hs)
    exact ⟨fun u => by grind, fun _ => by grind⟩
  | take hb hev hc hd =>
    have hload := fun u => hc ▸ Channel.load_take (u := u) hev
    exact ⟨fun u => by grind, fun hdead => by grind [hlow (by rw [hc]; exact id) hdead]⟩
  | recv hb hfr hc hd =>
    have hload := fun u => hc ▸ Channel.load_recv cfg (u := u) hfr
    exact ⟨fun u => by grind, fun hdead => by grind [hlow (by rw [hc]; exact id) hdead]⟩
  | discard hb hfr hev hdead =>
    refine ⟨fun u => ?_, fun h => absurd (h.symm.trans hdead) Bool.noConfusion⟩
    rw [hb]
    exact Nat.zero_le _

end Holding

theorem holding_run {cfg : Prepared} {C : Machine → Act → Prop} {tr : List Event} {m : Machine}
    (h : (Machine.lts cfg.config).Run C tr m) : ∀ i, m.Holding i := by
  refine Machine.run_invariant (I := fun _ m => ∀ i, m.Holding i) h holding_start
    fun {tr m a o} hr hH _ he => ?_
  have hA := accounts_run hr
  exact fun j => (hH j).step hA (pairing_run hr) (hold_at cfg.fit hA.within he j)

/-! ## 6. The budget is exact -/

/-- **The budget of a session is exact**: its counters are the sum of the channels' counters, of
    what the three queues hold and of what goroutines have reserved and not queued, or taken and not
    released; no counter is above its limit; no release asks a counter for more than it has; and
    whoever has reserved room finds it. -/
structure Machine.Exact (cfg : Config) (m : Machine) : Prop where
  sum : ∃ ts : Finset Tid, (∀ t, t ∉ ts → m.pc t = .start) ∧
    ∀ u, m.sess.budget.queued u =
      m.sess.channelTotal u + m.sess.stored u + ∑ t ∈ ts, (m.pc t).carried u m.sess
  total : ∀ u, m.sess.budget.queued u ≤ cfg.limits.total u
  perChannel : ∀ u i, m.sess.budget.held u i ≤ cfg.limits.perChannel u
  channelRelease : ∀ u i, m.sess.budget.held u i ≤ m.sess.budget.queued u
  itemRelease : ∀ u t x, (m.pc t).item = some x → u.weigh (x.size m.sess) ≤ m.sess.budget.queued u
  queueRoom : ∀ t x, (m.pc t).item = some x →
    m.sess.dispatchQueue.length < cfg.limits.maxQueuedFramesTotal ∧
    m.sess.controlQueue.length < cfg.limits.maxQueuedFramesTotal ∧
    m.sess.outboundQueue.length < cfg.limits.maxQueuedFramesTotal
  eventRoom : ∀ i n b, (m.sess.chan i).state.allowsRequests = true →
    m.sess.budget.reserveQueuedLocked cfg.limits i 1 n = some b →
    (m.sess.chan i).events.length < cfg.limits.maxQueuedFramesPerChannel

/-- A queue of items weighs as many frames as it is long. -/
theorem stored_frames (s : Session) :
    s.stored .frames =
      s.dispatchQueue.length + (s.controlQueue.length + s.outboundQueue.length) := by
  simp [Session.stored, Session.items, Measure.weigh, Function.comp_def]

section Exact

variable {cfg : Config} {m : Machine}

/-- What a goroutine carries is part of the session's counter, beside what the queues hold. -/
theorem Accounts.carried_le (hA : Accounts cfg m) (u : Measure) (t : Tid) :
    m.sess.stored u + (m.pc t).carried u m.sess ≤ m.sess.budget.queued u := by
  obtain ⟨ts, hts, hexact⟩ := hA.exact
  have hq := hexact u
  by_cases ht : t ∈ ts
  · have := Finset.single_le_sum (f := fun v => (m.pc v).carried u m.sess)
      (fun _ _ => Nat.zero_le _) ht
    omega
  · have := Pc.carried_none (u := u) (s := m.sess) (show (m.pc t).item = none by rw [hts t ht]; rfl)
    omega

theorem Accounts.held_le (hA : Accounts cfg m) (u : Measure) (i : Nat) :
    m.sess.budget.held u i ≤ m.sess.budget.queued u := by
  obtain ⟨ts, -, hexact⟩ := hA.exact
  have := held_le_channelTotal (fun j hj => hA.fresh u j hj) i
  have := hexact u
  omega

theorem Accounts.queueRoom (hA : Accounts cfg m) {t : Tid} {x : Item} (hx : (m.pc t).item = some x) :
    m.sess.stored .frames < cfg.limits.maxQueuedFramesTotal := by
  have hle := hA.carried_le .frames t
  have htotal : m.sess.budget.queued .frames ≤ cfg.limits.maxQueuedFramesTotal :=
    hA.within.total .frames
  have hone : (m.pc t).carried .frames m.sess = 1 := Pc.carried_some hx
  omega

/-- A reservation for an event that succeeds leaves the event queue with room. -/
theorem Machine.Holding.eventRoom {i n : Nat} {b : Budget} (hf : cfg.limits.Fit)
    (hA : Accounts cfg m) (hH : m.Holding i) (hs : (m.sess.chan i).state.allowsRequests = true)
    (hb : m.sess.budget.reserveQueuedLocked cfg.limits i 1 n = some b) :
    (m.sess.chan i).events.length < cfg.limits.maxQueuedFramesPerChannel := by
  obtain ⟨-, -, -, hle⟩ := reserveQueuedLocked_eq hf hA.within hb
  have hper : m.sess.budget.held .frames i + 1 ≤ cfg.limits.maxQueuedFramesPerChannel := hle .frames
  have hlow := hH.lower (allows_alive hs)
  have hload : (m.sess.chan i).load .frames =
      (m.sess.chan i).frames.length + (m.sess.chan i).events.length := by
    simp [Channel.load, Measure.weigh]
  unfold Machine.stock at hlow
  omega

end Exact

/-- **Queue-budget exactness under an arbitrary peer.** -/
theorem budget_exact {cfg : Prepared} {C : Machine → Act → Prop} {tr : List Event} {m : Machine}
    (h : (Machine.lts cfg.config).Run C tr m) : m.Exact cfg.config := by
  have hA := accounts_run h
  refine ⟨hA.exact, hA.within.total, hA.within.perChannel, hA.held_le, fun u t x hx => ?_,
    fun t x hx => ?_, fun i n b hs hb => (holding_run h i).eventRoom cfg.fit hA hs hb⟩
  · have := hA.carried_le u t
    rw [Pc.carried_some hx] at this
    omega
  · have := hA.queueRoom hx
    rw [stored_frames] at this
    omega

/-- An item that has been taken off its queue and not released. -/
def Pc.unreleased : Pc → Option Item
  | .dispRelease d => some (.task d)
  | .popped w _ _ => some (.write w)
  | _ => none

theorem Pc.unreleased_none {pc : Pc} (h : pc.item = none) : pc.unreleased = none := by
  cases pc <;> first | rfl | cases h

/-- A global request up to where its frame has been reserved for and not queued. -/
def reservation : List Act :=
  Tid.env.does [.activate] ++
    (Tid.call 0).does [.api (.sendGlobalRequest "t" [] false), .go, .go, .go]

/-- One frame is charged for, and the exact sum needs the caller's hand. -/
theorem budget_exact_reserved : ∃ tr m, (Machine.lts narrow.config).Run (fun _ _ => True) tr m ∧
    m.sess.budget.queued .frames = 1 ∧ m.Exact narrow.config := by
  obtain ⟨tr, m, h, hp⟩ := Lts.exists_run_of_replay (L := Machine.lts narrow.config)
    (C := fun _ _ => True) (P := fun _ m => m.sess.budget.queued .frames = 1)
    reservation (by decide +kernel)
  exact ⟨tr, m, h, hp, budget_exact h⟩

/-- **Between the reservation and the queue** a frame is charged for while no channel has a counter,
    no queue has an item and nobody has taken one. -/
theorem charged_before_queued : ∃ tr m, (Machine.lts narrow.config).Run (fun _ _ => True) tr m ∧
    m.sess.budget.queued .frames = 1 ∧ m.sess.channelTotal .frames = 0 ∧
    m.sess.dispatchQueue = [] ∧ m.sess.controlQueue = [] ∧ m.sess.outboundQueue = [] ∧
    ∀ t, (m.pc t).unreleased = none := by
  obtain ⟨tr, m, h, hq, hc, hd, hk, ho, hitem, htaken⟩ := Lts.exists_run_of_replay
    (L := Machine.lts narrow.config) (C := fun _ _ => True)
    (P := fun _ m => m.sess.budget.queued .frames = 1 ∧ m.sess.channelTotal .frames = 0 ∧
      m.sess.dispatchQueue = [] ∧ m.sess.controlQueue = [] ∧ m.sess.outboundQueue = [] ∧
      (m.pc (.call 0)).item = some (.write 0) ∧ (m.pc (.call 0)).unreleased = none)
    reservation (by decide +kernel)
  refine ⟨tr, m, h, hq, hc, hd, hk, ho, fun t => ?_⟩
  by_cases ht : t = .call 0
  · rw [ht]
    exact htaken
  · obtain ⟨ts, hts, hexact⟩ := (accounts_run h).exact
    have hcall : .call 0 ∈ ts := by_contra fun hn => by
      rw [hts _ hn] at hitem
      cases hitem
    by_cases htt : t ∈ ts
    · -- the frame is the caller's, so nobody else carries one
      have hsum : (m.pc t).carried .frames m.sess + (m.pc (.call 0)).carried .frames m.sess ≤ _ :=
        Finset.add_le_sum (f := fun v => (m.pc v).carried .frames m.sess)
          (fun _ _ => Nat.zero_le _) htt hcall ht
      have hone : (m.pc (.call 0)).carried .frames m.sess = 1 := Pc.carried_some hitem
      have hq' := hexact .frames
      refine Pc.unreleased_none ?_
      cases hx : (m.pc t).item with
      | none => rfl
      | some x =>
        have : (m.pc t).carried .frames m.sess = 1 := Pc.carried_some hx
        omega
    · rw [hts t htt]
      rfl

end Mygosh.Mux

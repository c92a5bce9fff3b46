/-
  File:      Mygosh/Link/Window.lean
  Subject:   Flow control between two sessions.

  * `undelivered`, `ungranted` -- the data and the window adjusts on their way;
  * `books` -- the windows of both ends and what is on its way add up to the receiver's window and
    what was returned, as long as refunds fit and the counter of withheld bytes does not wrap;
  * `fits_run` -- so they fit, and it does not;
  * `windows_fit`, `flow_control_conserved` -- so no window does, and nothing is lost;
  * `no_deadlock` -- when this keeps `Send` from waiting for ever, and `deadlock_of_narrow`, an
    accepted configuration where it does not.
-/
import Mygosh.Link.Stream
import Mygosh.Session.Windows

namespace Mygosh.Mux

open Session Duplex

/-! ## 1. What is on its way -/

/-- The bytes of a window adjust. -/
def Envelope.adjust : Envelope → Option Nat
  | .channelWindowAdjust _ n => some n
  | _ => none

/-- The window adjusts written for channel `i`, in the order they were written. -/
def adjustsWritten (s : Session) (tr : List Event) (i : Nat) : List Nat :=
  (written tr).filterMap fun x => if (s.writes x.1).chan = some i then x.2.adjust else none

/-- The bytes that `Send` has reserved on channel `j` and that channel `i` of `x`, its pair, has not
    accepted: those of running calls, and those of frames on their way. -/
def undelivered (tr : List (Side × Event)) (d : Duplex Machine Envelope) (x : Side) (i j : Nat) : Nat :=
  (d.party x.other).reserved j +
    bytes ((dataWritten (d.party x.other).sess (events x.other tr) j).drop
      (acceptedOn i (events x tr)).length)

/-- The bytes that channel `i` of `x` has granted and that channel `j`, its pair, has not taken up. -/
def ungranted (tr : List (Side × Event)) (d : Duplex Machine Envelope) (x : Side) (i j : Nat) : Nat :=
  (d.party x).granting i +
    ((adjustsWritten (d.party x).sess (events x tr) i).drop
      (adjustedOn j (events x.other tr)).length).sum

section Written

variable {cfg : Config} {C : Machine → Act → Prop} {tr : List Event} {m : Machine} {j : Nat}

theorem charge_written (h : (Machine.lts cfg).Run C tr m) :
    ((written tr).map fun x => charge j (m.sess.writes x.1)).sum = bytes (dataWritten m.sess tr j) := by
  have hO := outbox_run h
  unfold bytes dataWritten
  rw [sum_map_filterMap]
  refine congrArg List.sum (List.map_congr_left fun x hx => ?_)
  obtain ⟨w, env⟩ := x
  have henv := ((hO.sent w env).1 hx).2.2
  have hu := hO.not_undone h hx
  by_cases hc : (m.sess.writes w).chan = some j
  · cases env <;> simp [charge, hc, hu, henv, Envelope.dataSize, Envelope.data]
  · simp [charge, hc]

theorem grant_written (hO : Outbox tr m) :
    ((written tr).map fun x => grant j (m.sess.writes x.1)).sum = (adjustsWritten m.sess tr j).sum := by
  have hid : (adjustsWritten m.sess tr j).sum = ((adjustsWritten m.sess tr j).map id).sum := by
    rw [List.map_id]
  rw [hid]
  unfold adjustsWritten
  rw [sum_map_filterMap]
  refine congrArg List.sum (List.map_congr_left fun x hx => ?_)
  obtain ⟨w, env⟩ := x
  have henv := ((hO.sent w env).1 hx).2.2
  by_cases hc : (m.sess.writes w).chan = some j
  · cases env <;> simp [grant, hc, henv, Envelope.grant, Envelope.adjust]
  · simp [grant, hc]

end Written

section Link

variable {cfg : Side → Config} {C : Duplex Machine Envelope → Side × Act → Prop}
  {tr : List (Side × Event)} {d : Duplex Machine Envelope} {x : Side} {i j : Nat}

/-- The window adjusts written to a channel are those written for its pair. -/
theorem adjustTo_eq_written (h : (link cfg).Run C tr d) (hi : (i, j) ∈ pairings (events x tr)) :
    (frames (events x.other tr)).filterMap (adjustTo i) =
      adjustsWritten (d.party x.other).sess (events x.other tr) j := by
  unfold frames adjustsWritten
  rw [List.filterMap_map]
  refine List.filterMap_congr fun ⟨w, env⟩ hw => ?_
  cases env with
  | channelWindowAdjust p n =>
    by_cases hp : p = i
    · simp [adjustTo, Envelope.adjust, hp, (addressed h hi hw rfl).1 hp]
    · simp [adjustTo, hp, mt (addressed h hi hw rfl).2 hp]
  | _ => simp [adjustTo, Envelope.adjust]

/-- What was taken up of the window adjusts, and what is in hand, was written for the pair. -/
theorem adjusts_le_written (h : (link cfg).Run C tr d) (hi : (i, j) ∈ pairings (events x tr)) :
    adjustedOn i (events x tr) ++ ((d.party x).pc .receiver).picked (adjustTo i) <+:
      adjustsWritten (d.party x.other).sess (events x.other tr) j := by
  rw [adjustedOn_eq, ← adjustTo_eq_written h hi]
  exact (adjusts_run i (link_party h x)).pre.trans ((received_le h x).filterMap (adjustTo i))

/-- What was accepted, and what is in hand, was written for the pair. -/
theorem accepted_le_written (h : (link cfg).Run C tr d) (hi : (i, j) ∈ pairings (events x tr)) :
    acceptedOn i (events x tr) ++ ((d.party x).pc .receiver).picked (dataTo i) <+:
      dataWritten (d.party x.other).sess (events x.other tr) j := by
  rw [← dataTo_eq_written h hi]
  exact (data_run i (link_party h x)).pre.trans ((received_le h x).filterMap (dataTo i))

/-- What a channel has accepted was written for the channel that is paired with it. -/
theorem accepted_le_of_peer (h : (link cfg).Run C tr d) (hcfg : (cfg x).initialWindow ≤ maxUint32)
    (hj : (j, i) ∈ pairings (events x.other tr)) :
    acceptedOn i (events x tr) <+: dataWritten (d.party x.other).sess (events x.other tr) j := by
  by_cases ha : acceptedOn i (events x tr) = []
  · rw [ha]
    exact List.nil_prefix
  · obtain ⟨k, hk⟩ := (streams_run hcfg (link_party h x)).paired i ha
    rw [← Side.other_other x] at hk
    obtain rfl := pair_agrees h hj hk
    rw [Side.other_other] at hk
    exact (List.prefix_append ..).trans (accepted_le_written h hk)

/-- The window that a channel has been granted with its pair is that of the other end. -/
theorem granted_window (h : (link cfg).Run C tr d) (hj : (j, i) ∈ pairings (events x.other tr)) :
    Granted (events x.other tr) j (cfg x).initialWindow := by
  have hadv : ∀ env p, env ∈ received (events x.other tr) → env.advertises = some p →
      p.1 = (cfg x).initialWindow := by
    intro env p he hp
    obtain ⟨w, hw⟩ := written_of_received h he
    rw [Side.other_other] at hw
    obtain ⟨hlt, -, henv⟩ := ((outbox_run (link_party h x)).sent w env).1 hw
    rw [advertised_run (link_party h x) w hlt p (henv ▸ hp)]
  rcases mem_pairings.1 hj with ⟨q, hq, -⟩ | ⟨a, ha, -⟩
  · exact .inl ⟨q, hq, hadv _ _ (received_of_incoming (link_party h x.other) hq) rfl⟩
  · exact .inr ⟨a, ha, hadv _ _ (received_of_answered (link_party h x.other) ha) rfl⟩

/-- No counter of the windows wraps in this step. -/
def Fits (m : Machine) (a : Act) : Prop := Unwrapped m a ∧ Refunds m a

/-- **The books of both ends.** -/
theorem books (h : (link cfg).Run C tr d) (hcfg : (cfg x).initialWindow ≤ maxUint32)
    (hpos : 0 < (cfg x).windowAdjustThreshold)
    (hF : ∀ x, (Machine.lts (cfg x)).Run Fits (events x tr) (d.party x))
    (hj : (j, i) ∈ pairings (events x.other tr)) :
    ((d.party x.other).sess.chan j).remoteWindow + undelivered tr d x i j +
        bytes (acceptedOn i (events x tr)) + ((d.party x).sess.chan i).pendingWindowBytes +
        ungranted tr d x i j =
      (cfg x).initialWindow + bytes (returnedOn i (events x tr)) := by
  have hr := link_party h x
  have hr' := link_party h x.other
  -- the sender's books, with its writes divided by whether they are on the connection
  have hcredit := (credit_run hr').balance j _ (granted_window h hj)
  rw [(outbox_run hr').total_split (charge j), charge_written hr'] at hcredit
  -- the receiver's books, likewise
  have howed := (owed_run hpos hcfg ((hF x).mono fun _ _ => And.left)).balance i
  rw [(outbox_run hr).total_split (grant i), grant_written (outbox_run hr)] at howed
  -- what one end has taken up of what the other has written
  have hacc := congrArg bytes (List.prefix_iff_eq_append.1 (accepted_le_of_peer h hcfg hj))
  rw [bytes_append] at hacc
  have hadj := congrArg List.sum (List.prefix_iff_eq_append.1
    ((List.prefix_append ..).trans (adjusts_le_written h hj)))
  rw [List.sum_append, Side.other_other] at hadj
  have hpend : (cores (d.party x).sess i).pendingWindowBytes =
      ((d.party x).sess.chan i).pendingWindowBytes := rfl
  unfold undelivered ungranted
  rw [reserved_eq ((hF x.other).mono fun _ _ => And.right), granting_eq ((hF x).mono fun _ _ => And.right)]
  omega

end Link

/-! ## 2. Two sessions with accepted configurations -/

section Connection

variable {cfg : Side → Prepared} {C : Duplex Machine Envelope → Side × Act → Prop}
  {tr : List (Side × Event)} {d : Duplex Machine Envelope} {x : Side} {i j : Nat}

theorem window_le (p : Prepared) : p.config.initialWindow ≤ maxUint32 := p.windows.windowLt.le

/-- Where data was written for a channel, the channel has its pair. -/
theorem peer_of_data (h : (connection cfg).Run C tr d) (hi : (i, j) ∈ pairings (events x tr))
    (hw : dataWritten (d.party x.other).sess (events x.other tr) j ≠ []) :
    (j, i) ∈ pairings (events x.other tr) := by
  obtain ⟨data, hdata⟩ := List.exists_mem_of_ne_nil _ hw
  obtain ⟨⟨w, env⟩, hmem, hif⟩ := List.mem_filterMap.1 hdata
  have hr := link_party h x.other
  have hlt := (((outbox_run hr).sent w env).1 hmem).1
  have hc : ((d.party x.other).sess.writes w).chan = some j := by
    by_contra hc
    rw [if_neg hc] at hif
    cases hif
  obtain ⟨p, hp, -⟩ := ((pairing_run hr).writes w hlt).chan j hc
  rwa [pair_agrees h hi hp] at hp

/-- The books, where the receiver has discarded nothing. -/
theorem conserved (h : (connection cfg).Run C tr d)
    (hF : ∀ x, (Machine.lts (cfg x).config).Run Fits (events x tr) (d.party x))
    (hj : (j, i) ∈ pairings (events x.other tr))
    (hq : returnedOn i (events x tr) ++ ((d.party x).sess.chan i).frames = acceptedOn i (events x tr)) :
    ((d.party x.other).sess.chan j).remoteWindow + undelivered tr d x i j +
        bytes ((d.party x).sess.chan i).frames + ((d.party x).sess.chan i).pendingWindowBytes +
        ungranted tr d x i j = (cfg x).config.initialWindow := by
  have hbooks := books h (window_le (cfg x)) (cfg x).windows.thresholdPos hF hj
  have hbytes := congrArg bytes hq
  rw [bytes_append] at hbytes
  omega

/-- What the sender may still send, what it has sent and what is granted to it is never more than the
    receiver's window, also where the receiver has discarded data. -/
theorem books_le (h : (connection cfg).Run C tr d)
    (hF : ∀ x, (Machine.lts (cfg x).config).Run Fits (events x tr) (d.party x))
    (hj : (j, i) ∈ pairings (events x.other tr)) :
    ((d.party x.other).sess.chan j).remoteWindow + undelivered tr d x i j + ungranted tr d x i j ≤
      (cfg x).config.initialWindow := by
  have hbooks := books h (window_le (cfg x)) (cfg x).windows.thresholdPos hF hj
  obtain ⟨rest, hret⟩ := ((streams_run (window_le (cfg x)) (link_party h x)).intact i).initial
  have hbytes := congrArg bytes hret
  rw [bytes_append] at hbytes
  omega

/-- `Recv` does not let the counter of withheld bytes wrap. -/
theorem unwrapped (h : (connection cfg).Run C tr d)
    (hF : ∀ x, (Machine.lts (cfg x).config).Run Fits (events x tr) (d.party x)) (a : Act) :
    Unwrapped (d.party x) a := by
  intro i frame rest _ hf
  have hr := link_party h x
  have hS := streams_run (window_le (cfg x)) hr
  have hq : returnedOn i (events x tr) ++ (cores (d.party x).sess i).frames =
      acceptedOn i (events x tr) := by
    refine (hS.intact i).resolve_right fun hd => ?_
    rw [hf] at hd
    cases hd.1
  have hacc : acceptedOn i (events x tr) ≠ [] := by
    rw [← hq, hf]
    simp
  obtain ⟨j, hi⟩ := hS.paired i hacc
  have hle := (List.prefix_append ..).trans (accepted_le_written h hi)
  have hj := peer_of_data h hi fun hnil => hacc (List.prefix_nil.1 (hnil ▸ hle))
  have hsum := conserved h hF hj hq
  have hframe : ((d.party x).sess.chan i).frames = frame :: rest := hf
  rw [hframe, bytes_cons] at hsum
  have hwin := window_le (cfg x)
  show ((d.party x).sess.chan i).pendingWindowBytes + frame.length ≤ maxUint32
  omega

/-- A failed `Send` can put its bytes back. -/
theorem refunds (h : (connection cfg).Run C tr d)
    (hF : ∀ x, (Machine.lts (cfg x).config).Run Fits (events x tr) (d.party x)) (a : Act) :
    Refunds (d.party x) a := by
  intro j frame w e hpc
  have hr := link_party h x
  have hO := outbox_run hr
  have hflow : ((d.party x).pc a.tid).flow = some (w, .channelData j frame) := by rw [hpc]; rfl
  obtain ⟨hch, p, henv⟩ := (flow_run hr).sends a.tid w _ hflow
  have hheld := (flow_run hr).held a.tid w _ hflow
  obtain ⟨hlt, -, hdead⟩ := hO.undoes a.tid w (by rw [hpc]; rfl)
  obtain ⟨i, hj, -⟩ := ((pairing_run hr).writes w hlt).chan j hch
  have hunsent : unsent (charge j) ((d.party x).sess.writes w) = frame.length := by
    have hplace : ((d.party x).sess.writes w).place ≠ .sent := fun hp =>
      hO.not_written hdead _ ((hO.sent w _).2 ⟨hlt, hp, rfl⟩)
    simp [unsent, hplace, charge, hch, hheld, henv, Envelope.dataSize]
  have hle : unsent (charge j) ((d.party x).sess.writes w) ≤
      total (unsent (charge j)) (d.party x).sess := le_tally hlt
  have hun : frame.length ≤ undelivered tr d x.other i j := by
    unfold undelivered
    rw [Side.other_other, reserved_eq ((hF x).mono fun _ _ => And.right)]
    omega
  have hbooks := books_le (x := x.other) (i := i) (j := j) h hF (by rwa [Side.other_other])
  rw [Side.other_other] at hbooks
  have hwin := window_le (cfg x.other)
  omega

/-- **Between two sessions no counter of the windows wraps.** -/
theorem fits_run (h : (connection cfg).Run C tr d) :
    ∀ x, (Machine.lts (cfg x).config).Run Fits (events x tr) (d.party x) := by
  refine h.invariant (I := fun tr d =>
    ∀ x, (Machine.lts (cfg x).config).Run Fits (events x tr) (d.party x)) (fun _ => .start) ?_
  rintro tr evs d d' ⟨y, a⟩ hr hI - hs x
  obtain ⟨s, evs', hstep, rfl, hparty, -⟩ := Duplex.step_iff hs
  rw [Duplex.events_append, hparty]
  by_cases hy : y = x
  · subst hy
    rw [Duplex.events_self, Function.update_self]
    exact .step (hI y) ⟨unwrapped hr hI a, refunds hr hI a⟩ hstep
  · rw [Duplex.events_other hy, List.append_nil, Function.update_of_ne (Ne.symm hy)]
    exact hI x

/-- Data in hand fits the window. -/
theorem data_fits (h : (connection cfg).Run C tr d) {data : Bytes}
    (hpc : (d.party x).pc .receiver = .inData i data)
    (hs : ((d.party x).sess.chan i).state.canReceiveData = true) :
    data.length ≤ ((d.party x).sess.chan i).localWindow := by
  have hr := link_party h x
  have hS := streams_run (window_le (cfg x)) hr
  have hng : ((d.party x).sess.chan i).state.gone = false := by
    cases hst : ((d.party x).sess.chan i).state <;> rw [hst] at hs <;>
      first | rfl | exact absurd hs (by decide)
  obtain ⟨h1, h2⟩ := canReceive_live hs
  have hpaired := (pairing_run hr).live i h1 h2
  obtain ⟨j, hi⟩ := hpaired
  have hpick : ((d.party x).pc .receiver).picked (dataTo i) = [data] := by
    rw [hpc]
    simp [Pc.picked, Pc.frame, dataTo]
  have hle := accepted_le_written h hi
  rw [hpick] at hle
  obtain ⟨rest, hrest⟩ := hle
  have hj := peer_of_data h hi (by rw [← hrest]; simp)
  have hsum := conserved h (fits_run h) hj ((hS.intact i).of_not_gone hng)
  have hbal : ((d.party x).sess.chan i).localWindow + bytes ((d.party x).sess.chan i).frames =
      (cfg x).config.initialWindow := by
    refine (hS.balanced i ⟨j, hi⟩).resolve_right fun hd => ?_
    exact Bool.noConfusion (hng.symm.trans hd.2)
  have hun : data.length ≤ undelivered tr d x i j := by
    unfold undelivered
    rw [← hrest, List.append_assoc, List.drop_left, bytes_append, bytes_cons]
    omega
  omega

/-- A window adjust in hand fits the window. -/
theorem adjust_fits (h : (connection cfg).Run C tr d) {n : Nat}
    (hpc : (d.party x).pc .receiver = .inAdjust j n)
    (hs : ((d.party x).sess.chan j).state.allowsRequests = true) :
    ((d.party x).sess.chan j).remoteWindow + n ≤ maxUint32 := by
  obtain ⟨h1, h2⟩ := allowsRequests_live hs
  obtain ⟨i, hj⟩ := (pairing_run (link_party h x)).live j h1 h2
  have hle := adjusts_le_written h hj
  have hpick : ((d.party x).pc .receiver).picked (adjustTo j) = [n] := by
    rw [hpc]
    simp [Pc.picked, Pc.frame, adjustTo]
  rw [hpick] at hle
  obtain ⟨rest, hrest⟩ := hle
  have hun : n ≤ ungranted tr d x.other i j := by
    unfold ungranted
    rw [Side.other_other, ← hrest, List.append_assoc, List.drop_left, List.sum_append,
      List.sum_singleton]
    omega
  have hbooks := books_le (x := x.other) (i := i) (j := j) h (fits_run h) (by rwa [Side.other_other])
  rw [Side.other_other] at hbooks
  have hwin := window_le (cfg x.other)
  omega

/-- A frame taken by `Recv` fits both counters it is added to. -/
theorem take_fits (h : (connection cfg).Run C tr d) {frame : Bytes} {rest : List Bytes}
    (hf : ((d.party x).sess.chan i).frames = frame :: rest) :
    ((d.party x).sess.chan i).localWindow + frame.length ≤ maxUint32 := by
  have hS := streams_run (window_le (cfg x)) (link_party h x)
  have hne : ((d.party x).sess.chan i).frames ≠ [] := by simp [hf]
  have hq := (hS.intact i).resolve_right fun hd => hne hd.1
  have hacc : acceptedOn i (events x tr) ≠ [] := by
    rw [← hq]
    exact fun hnil => hne (List.append_eq_nil_iff.1 hnil).2
  have hbal : ((d.party x).sess.chan i).localWindow + bytes ((d.party x).sess.chan i).frames =
      (cfg x).config.initialWindow :=
    (hS.balanced i (hS.paired i hacc)).resolve_right fun hd => hne hd.1
  rw [hf, bytes_cons] at hbal
  have hwin := window_le (cfg x)
  omega

end Connection

/-! ## 3. Conservation -/

/-- The windows a goroutine is about to change stay in the range of a `uint32`: nothing is added past
    its end, nothing is taken below zero. -/
def Session.WindowsFit (s : Session) : Pc → Prop
  | .inData i data => (s.chan i).state.canReceiveData = true → data.length ≤ (s.chan i).localWindow
  | .inAdjust i n =>
    (s.chan i).state.allowsRequests = true → (s.chan i).remoteWindow + n ≤ maxUint32
  | .sendLoop _ frame => toU32 frame.length = frame.length
  | .sendRefund i frame _ _ => (s.chan i).remoteWindow + frame.length ≤ maxUint32
  | .recvLoop i => ∀ frame rest, (s.chan i).frames = frame :: rest →
      (s.chan i).localWindow + frame.length ≤ maxUint32 ∧
        (s.chan i).pendingWindowBytes + frame.length ≤ maxUint32
  | _ => True

/-- `handleChannelData` does not complain about the window where the data fits. -/
theorem inData_within {cfg : Config} {s : Session} {i : Nat} {data : Bytes} {size window : Nat}
    (hfit : s.WindowsFit (.inData i data)) :
    s.inData cfg i data ≠ s.routeFailed (.protocol (.exceededWindow i size window)) := by
  intro hf
  unfold inData at hf
  dsimp only at hf
  split at hf
  · simp [routeFailed] at hf
  · rename_i hs
    split at hf
    · simp [routeFailed] at hf
    · split at hf
      · rename_i hlt
        have hle := hfit (by simpa using hs)
        have hcut := toU32_le data.length
        omega
      · split at hf <;> simp [routeFailed] at hf

/-- `handleChannelWindowAdjust` does not report an overflow where the sum fits. -/
theorem inAdjust_within {s : Session} {j n : Nat} (hw : (s.chan j).remoteWindow ≤ maxUint32)
    (hfit : s.WindowsFit (.inAdjust j n)) :
    s.inAdjust j n ≠ s.routeFailed (.protocol (.remoteWindowOverflow j)) := by
  intro hf
  unfold inAdjust at hf
  dsimp only at hf
  split at hf
  · simp [routeFailed] at hf
  · rename_i hs
    split at hf
    · rename_i hlt
      have hle := hfit (by simpa using hs)
      rw [subU32_eq hw] at hlt
      omega
    · simp [routeFailed] at hf

section Connection

variable {cfg : Side → Prepared} {C : Duplex Machine Envelope → Side × Act → Prop}
  {tr : List (Side × Event)} {d : Duplex Machine Envelope}

theorem windows_fit (h : (connection cfg).Run C tr d) (x : Side) (t : Tid) :
    (d.party x).sess.WindowsFit ((d.party x).pc t) := by
  have hr := link_party h x
  have hO := outbox_run hr
  cases hpc : (d.party x).pc t with
  | inData i data =>
    obtain rfl := hO.is_receiver (t := t) (by rw [hpc]; rfl)
    exact data_fits h hpc
  | inAdjust i n =>
    obtain rfl := hO.is_receiver (t := t) (by rw [hpc]; rfl)
    exact adjust_fits h hpc
  | sendLoop i frame => exact toU32_eq ((credit_run hr).offers t frame (by rw [hpc]; rfl))
  | sendRefund i frame w e => exact refunds h (fits_run h) ⟨t, .go⟩ i frame w e hpc
  | recvLoop i =>
    intro frame rest hf
    exact ⟨take_fits h hf, unwrapped h (fits_run h) ⟨t, .go⟩ i frame rest hpc hf⟩
  | _ => trivial

end Connection

/-- **Flow control is conservative.** In every run of two sessions on one connection, for each
    channel that has not discarded what it received: what its pair may still send, what that has
    reserved and is not accepted, what is queued, what is withheld and what is granted and not taken
    up is the receiver's window; and its local window is what the queue leaves of it. So neither
    handler finds the peer beyond its window, and no window leaves its range. -/
theorem flow_control_conserved {cfg : Side → Prepared}
    {C : Duplex Machine Envelope → Side × Act → Prop} {tr : List (Side × Event)}
    {d : Duplex Machine Envelope} (h : (connection cfg).Run C tr d) :
    (∀ x i j, (j, i) ∈ pairings (events x.other tr) →
      ((d.party x).sess.chan i).state.gone = false →
      ((d.party x.other).sess.chan j).remoteWindow + undelivered tr d x i j +
        bytes ((d.party x).sess.chan i).frames + ((d.party x).sess.chan i).pendingWindowBytes +
        ungranted tr d x i j = (cfg x).config.initialWindow) ∧
    (∀ x i, IsPaired (events x tr) i → ((d.party x).sess.chan i).state.gone = false →
      ((d.party x).sess.chan i).localWindow + bytes ((d.party x).sess.chan i).frames =
        (cfg x).config.initialWindow) ∧
    (∀ x i data, (d.party x).pc .receiver = .inData i data → ∀ size window,
      (d.party x).sess.inData (cfg x).config i data ≠
        (d.party x).sess.routeFailed (.protocol (.exceededWindow i size window))) ∧
    (∀ x j n, (d.party x).pc .receiver = .inAdjust j n → (d.party x).sess.inAdjust j n ≠
      (d.party x).sess.routeFailed (.protocol (.remoteWindowOverflow j))) ∧
    ∀ x t, (d.party x).sess.WindowsFit ((d.party x).pc t) := by
  refine ⟨fun x i j hj hg => ?_, fun x i hi hg => ?_, fun x i data hpc size window hf => ?_,
    fun x j n hpc hf => ?_, windows_fit h⟩
  · have hS := streams_run (window_le (cfg x)) (link_party h x)
    exact conserved h (fits_run h) hj ((hS.intact i).of_not_gone hg)
  · have hS := streams_run (window_le (cfg x)) (link_party h x)
    exact (hS.balanced i hi).resolve_right fun hd => Bool.noConfusion (hg.symm.trans hd.2)
  · have hfit := windows_fit h x .receiver
    rw [hpc] at hfit
    exact inData_within hfit hf
  · have hfit := windows_fit h x .receiver
    rw [hpc] at hfit
    exact inAdjust_within ((credit_run (link_party h x)).window j) hfit hf

/-- A run in which one byte has been sent and taken and one more is queued, a `Send` has been cancelled
    in the queue and another one is running. -/
theorem flow_control_conserved_withheld :
    ∃ tr d, (connection fun _ => narrow).Run (fun _ _ => True) tr d ∧
      (0, 0) ∈ pairings (events .left tr) ∧ ((d.party .right).sess.chan 0).state.gone = false ∧
      ((d.party .left).sess.chan 0).remoteWindow = 1 ∧ undelivered tr d .right 0 0 = 1 ∧
      ((d.party .right).sess.chan 0).frames = [[8]] ∧
      ((d.party .right).sess.chan 0).pendingWindowBytes = 1 ∧
      ((d.party .left).sess.chan 0).remoteWindow + undelivered tr d .right 0 0 +
        bytes ((d.party .right).sess.chan 0).frames +
        ((d.party .right).sess.chan 0).pendingWindowBytes + ungranted tr d .right 0 0 = 4 := by
  obtain ⟨tr, d, h, hpair, hgone, hwindow, hun, hframes, hpending⟩ := Lts.exists_run_of_replay
    (L := connection fun _ => narrow) (C := fun _ _ => True)
    (P := fun tr d => (0, 0) ∈ pairings (events .left tr) ∧
      ((d.party .right).sess.chan 0).state.gone = false ∧
      ((d.party .left).sess.chan 0).remoteWindow = 1 ∧ undelivered tr d .right 0 0 = 1 ∧
      ((d.party .right).sess.chan 0).frames = [[8]] ∧
      ((d.party .right).sess.chan 0).pendingWindowBytes = 1)
    (activation .left ++ activation .right ++ openChannel narrow.config ++ sendFrame 1 [7] ++
      steps .right .receiver [.frame (.channelData 0 [7]), .go] ++
      steps .right (.call 0) [.api (.recv 0), .go] ++ sendFrame 2 [8] ++
      steps .right .receiver [.frame (.channelData 0 [8]), .go] ++
      steps .left (.call 3) [.api (.send 0 [9]), .go, .go, .go, .go, .ctxDone, .go] ++
      steps .left (.call 4) [.api (.send 0 [5]), .go]) (by decide +kernel)
  exact ⟨tr, d, h, hpair, hgone, hwindow, hun, hframes, hpending,
    (flow_control_conserved h).1 .right 0 0 hpair hgone⟩

/-! ## 4. Deadlock -/

/-- Flow control has come to rest with a `Send` that waits: channel `i` of `x` is open and all of its
    frames are taken, no data and no window adjust is on its way, and `Send` on channel `j`, its pair,
    waits with a frame that the receiver has said it takes. -/
def Deadlocked (cfg : Side → Prepared) (tr : List (Side × Event)) (d : Duplex Machine Envelope)
    (x : Side) (i j : Nat) : Prop :=
  (j, i) ∈ pairings (events x.other tr) ∧ ((d.party x).sess.chan i).state.gone = false ∧
    ((d.party x).sess.chan i).frames = [] ∧ undelivered tr d x i j = 0 ∧ ungranted tr d x i j = 0 ∧
    ∃ t frame, (d.party x.other).pc t = .sendWait j frame ((d.party x.other).sess.chan j).gen ∧
      1 ≤ frame.length ∧ frame.length ≤ (cfg x).config.maxPacketSize

/-- **Flow control does not come to rest** with a receiver whose window has room for a packet beside
    what it may withhold. -/
theorem no_deadlock {cfg : Side → Prepared} {C : Duplex Machine Envelope → Side × Act → Prop}
    {tr : List (Side × Event)} {d : Duplex Machine Envelope} {x : Side}
    (hcfg : (cfg x).config.maxPacketSize + (cfg x).config.windowAdjustThreshold ≤
      (cfg x).config.initialWindow + 1) (h : (connection cfg).Run C tr d) (i j : Nat) :
    ¬ Deadlocked cfg tr d x i j := by
  rintro ⟨hj, hg, hframes, hun, hgr, t, frame, hpc, -, hle⟩
  have hO := owed_run (cfg x).windows.thresholdPos (window_le (cfg x))
    ((fits_run h x).mono fun _ _ => And.left)
  have hS := streams_run (window_le (cfg x)) (link_party h x)
  have hsum := conserved h (fits_run h) hj ((hS.intact i).of_not_gone hg)
  rw [hframes, hun, hgr] at hsum
  have hnil : bytes [] = 0 := rfl
  -- what is withheld stays below the threshold, so the rest of the window has room for a packet
  have hbelow : ((d.party x).sess.chan i).pendingWindowBytes <
      (cfg x).config.windowAdjustThreshold := hO.below i
  have hlt := (waits_run (link_party h x.other) t j frame _ hpc).2 rfl
  have hcut := toU32_le frame.length
  omega

/-- One byte is sent and taken, and then `Send` is called with four. -/
def packetAfterByte (cfg : Config) : List (Side × Act) :=
  activation .left ++ activation .right ++ openChannel cfg ++ sendFrame 1 [7] ++
    steps .right .receiver [.frame (.channelData 0 [7]), .go] ++
    steps .right (.call 0) [.api (.recv 0), .go] ++
    steps .left (.call 2) [.api (.send 0 [1, 2, 3, 4]), .go]

theorem no_deadlock_roomy : ∃ tr d, (connection fun _ => roomy).Run (fun _ _ => True) tr d ∧
    (0, 0) ∈ pairings (events .left tr) ∧ ((d.party .right).sess.chan 0).frames = [] ∧
    ((d.party .right).sess.chan 0).pendingWindowBytes = 1 ∧
    ¬ Deadlocked (fun _ => roomy) tr d .right 0 0 := by
  obtain ⟨tr, d, h, hpair, hframes, hpending⟩ := Lts.exists_run_of_replay
    (L := connection fun _ => roomy) (C := fun _ _ => True)
    (P := fun tr d => (0, 0) ∈ pairings (events .left tr) ∧
      ((d.party .right).sess.chan 0).frames = [] ∧
      ((d.party .right).sess.chan 0).pendingWindowBytes = 1)
    (packetAfterByte roomy.config) (by decide +kernel)
  exact ⟨tr, d, h, hpair, hframes, hpending, no_deadlock (by decide) h 0 0⟩

/-- The channel, the frame and the generation with which `Send` waits. -/
def Pc.blocked : Pc → Option (Nat × Bytes × Nat)
  | .sendWait j frame g => some (j, frame, g)
  | _ => none

theorem Pc.eq_sendWait {pc : Pc} {j g : Nat} {frame : Bytes} (h : pc.blocked = some (j, frame, g)) :
    pc = .sendWait j frame g := by
  cases pc with
  | sendWait => cases h; rfl
  | _ => cases h

/-- `Validate` accepts a configuration with which flow control comes to rest: one byte is withheld, so
    three are left, and a packet of four waits for ever. -/
theorem deadlock_of_narrow : ∃ tr d, (connection fun _ => narrow).Run (fun _ _ => True) tr d ∧
    Deadlocked (fun _ => narrow) tr d .right 0 0 := by
  obtain ⟨tr, d, h, hpair, hgone, hframes, hun, hgr, hpc⟩ := Lts.exists_run_of_replay
    (L := connection fun _ => narrow) (C := fun _ _ => True)
    (P := fun tr d => (0, 0) ∈ pairings (events .left tr) ∧
      ((d.party .right).sess.chan 0).state.gone = false ∧
      ((d.party .right).sess.chan 0).frames = [] ∧ undelivered tr d .right 0 0 = 0 ∧
      ungranted tr d .right 0 0 = 0 ∧
      ((d.party .left).pc (.call 2)).blocked =
        some (0, [1, 2, 3, 4], ((d.party .left).sess.chan 0).gen))
    (packetAfterByte narrow.config) (by decide +kernel)
  exact ⟨tr, d, h, hpair, hgone, hframes, hun, hgr, .call 2, [1, 2, 3, 4], Pc.eq_sendWait hpc,
    by decide, by decide⟩

end Mygosh.Mux

/-
  File:      Mygosh/Session/Whole.lean
  Subject:   What has been accepted for a channel when `Recv` reports its end.

  Queued frames are thrown away by `Channel.shutdown`, whatever has been told about them, and a
  `Recv` that waits does not look at the queue again when the session's context ends. In a run in
  which neither meets a queued frame (`Machine.spares`), everything accepted has been returned before
  the end is reported.
-/
import Mygosh.Session.Leak
import Mygosh.Session.Stream

namespace Mygosh.Mux

open Session

/-- What a report of the end of a stream says: if no one here has closed the channel, every frame
    accepted for it has been returned. -/
def EndsWhole (pre : List Event) : Event → Prop
  | .recvEOF i => .closeCalled i ∉ pre → returnedOn i pre = acceptedOn i pre
  | _ => True

/-- A step that loses no frame: `Channel.shutdown` finds nothing queued, and neither does a `Recv`
    that stops waiting because the session's context has ended. -/
def Machine.spares (m : Machine) (a : Act) : Bool :=
  match m.pc a.tid with
  | .shutChannels _ =>
    match a.choice with
    | .pick i => (m.sess.chan i).frames.isEmpty
    | _ => true
  | .recvWait i _ => a.choice ≠ .chanDone || m.sess.ctxErr = none || (m.sess.chan i).frames.isEmpty
  | .inOpenShut i _ | .inRejectShut i _ | .admitAbortShut i _ | .admitRejectShut i _ _ =>
    (m.sess.chan i).frames.isEmpty
  | .openShut i _ _ _ | .closeShut i _ => (m.sess.chan i).frames.isEmpty
  | _ => true

/-! ## 1. Nothing is thrown away -/

/-- What was returned and what is queued is what was accepted. -/
def Whole (tr : List Event) (m : Machine) : Prop :=
  ∀ i, .closeCalled i ∉ tr → returnedOn i tr ++ (m.sess.chan i).frames = acceptedOn i tr

section Step

variable {cfg : Config} {tr : List Event} {m : Machine} {t : Tid} {c : Choice} {o : Out} {i : Nat}

/-- A turn that throws nothing away. -/
theorem Turn.whole {core core' : Core} {pc : Pc} {evs : List Event} {ret acc : List Bytes}
    (h : Turn cfg t i core pc evs core')
    (hshut : pc.shuts i = true → core'.frames = [] → core.frames = [])
    (hn : .closeCalled i ∉ evs) (hw : ret ++ core.frames = acc) :
    (ret ++ returnedOn i evs) ++ core'.frames = acc ++ acceptedOn i evs := by
  -- most turns neither accept nor return
  have hquiet : returnedOn i evs = [] → acceptedOn i evs = [] → core'.frames = core.frames →
      (ret ++ returnedOn i evs) ++ core'.frames = acc ++ acceptedOn i evs := by
    intro hr ha hf
    rw [hr, ha, hf, List.append_nil, List.append_nil, hw]
  cases h with
  | @data data =>
    have ha : acceptedOn i [.accepted i data, .routed] = [data] := by simp [acceptedOn, acceptance]
    have hr : returnedOn i [.accepted i data, .routed] = [] := rfl
    rw [ha, hr, List.append_nil, ← hw, List.append_assoc]
  | @take frame rest hf =>
    have hr : returnedOn i [.recvFrame i frame] = [frame] := by simp [returnedOn]
    have ha : acceptedOn i [.recvFrame i frame] = [] := rfl
    rw [ha, hr, List.append_nil, ← hw, hf, List.append_assoc]
    rfl
  | shut he hp => rcases he with rfl | rfl <;> exact hquiet rfl rfl (hshut hp rfl).symm
  | eof _ he | remoteClose _ he => rcases he with rfl | rfl <;> exact hquiet rfl rfl rfl
  | closing => exact absurd List.mem_cons_self hn
  | _ => exact hquiet rfl rfl rfl

/-- A shutdown of channel `i` in a run that loses no frame finds nothing queued, or is one of another
    channel. -/
theorem frames_of_spares (hC : m.spares ⟨t, c⟩ = true)
    (hx : m.sess.exec cfg t c (m.pc t) = some o) (hp : (m.pc t).shuts i = true)
    (hf : (o.sess.chan i).frames = []) : (m.sess.chan i).frames = [] := by
  unfold Machine.spares at hC
  generalize m.pc t = pc at hC hx hp
  cases pc <;> first
    | cases hp; done
    | (cases of_decide_eq_true hp; exact List.isEmpty_iff.mp hC)
    | skip
  -- the session's own shutdown takes the channels one by one
  simp only [exec, shutChannels] at hx
  split at hx
  · rename_i j
    split at hx
    · cases hx
      by_cases hj : i = j
      · subst hj
        exact List.isEmpty_iff.mp hC
      · simpa only [channelShutdown, Function.update_of_ne hj] using hf
    · cases hx
  · split at hx
    · cases hx
      exact hf
    · cases hx
  · cases hx

/-- **Every such step keeps the frames.** -/
theorem Whole.step (hW : Whole tr m) (hS : Streams cfg tr m) (hP : Pairing tr m)
    (hC : m.spares ⟨t, c⟩ = true) (hx : m.sess.exec cfg t c (m.pc t) = some o) :
    Whole (tr ++ o.events) ⟨o.sess, Function.update m.pc t o.pc⟩ := by
  intro i hn
  obtain ⟨hn, hn'⟩ := not_or.mp (fun h => hn (List.mem_append.mpr h))
  rw [returnedOn_append, acceptedOn_append]
  show _ ++ (cores o.sess i).frames = _
  have hat := core_at (effect_of_exec hx) i
  generalize hpc : m.pc t = pc at hat
  cases hat with
  | same hc he =>
    rw [returnedOn_other he, acceptedOn_other he, List.append_nil, List.append_nil, hc]
    exact hW i hn
  | incoming hj hc he | pending hj hc he =>
    obtain ⟨ha, hr⟩ := hS.unborn hP hj.ge
    rw [ha, hr, hc, he]
    rfl
  | turn hc he ht =>
    rw [he] at hn' ⊢
    rw [hc]
    refine ht.whole (fun hp hf => frames_of_spares hC hx (hpc ▸ hp) ?_) hn' (hW i hn)
    rwa [← hc] at hf

/-- A `Recv` that waits reports the end when its channel's context has ended. -/
theorem recvEOF_choice {gen : Nat} (hx : m.sess.exec cfg t c (.recvWait i gen) = some o)
    (he : .recvEOF i ∈ o.events) : c = .chanDone := by
  cases c <;> simp only [exec, recvWait] at hx <;> first
    | rfl
    | cases hx; done
    | (cases hx; cases he)
    | (split at hx <;> cases hx; cases he)

/-- The end is reported of a channel with nothing queued. -/
theorem frames_of_recvEOF (hE : Ending m) (hC : m.spares ⟨t, c⟩ = true)
    (hx : m.sess.exec cfg t c (m.pc t) = some o) (he : .recvEOF i ∈ o.events) :
    (m.sess.chan i).frames = [] := by
  rcases (recvEOF_of_step (effect_of_exec hx) he).2.2 with
    ⟨-, hends, -⟩ | ⟨hpc, -⟩ | ⟨⟨gen, hpc⟩, hcause, -⟩
  · cases hends with
    | state hf | session hf => exact hf
  · exact (hE.cancels t i hpc).2
  · by_cases hctx : (m.sess.chan i).ctxErr = none
    · -- the session's context has ended; the choice of `select` has fallen on it
      have hsess : m.sess.ctxErr ≠ none := by
        rw [chanCause, hctx, Option.none_or] at hcause
        exact Option.isSome_iff_ne_none.mp hcause
      rw [hpc] at hx
      unfold Machine.spares at hC
      simp only [hpc] at hC
      have hchoice : c = .chanDone := recvEOF_choice hx he
      simpa [hchoice, hsess] using hC
    · exact ((hE.cut i).ctx hctx).2

end Step

/-! ## 2. Along a run -/

theorem whole_run {cfg : Prepared} {tr : List Event} {m : Machine}
    (h : (Machine.lts cfg.config).Run (fun m a => m.spares a = true) tr m) : Whole tr m := by
  refine h.invariant (I := Whole) (fun i _ => rfl) fun {tr evs m m' a} hr hW hC hs => ?_
  obtain ⟨o, hx, rfl, rfl⟩ := Machine.exec_of_step hs
  exact hW.step (streams_run cfg.windows.windowLt.le hr) (pairing_run hr) hC hx

/-- **No silent truncation.** In every run that loses no queued frame, `Recv` reports the end of a
    channel that no one here has closed only after every frame accepted for it. -/
theorem eof_after_accepted {cfg : Prepared} {tr : List Event} {m : Machine}
    (h : (Machine.lts cfg.config).Run (fun m a => m.spares a = true) tr m) :
    Lts.Explained EndsWhole tr := by
  refine h.invariant (I := fun tr _ => Lts.Explained EndsWhole tr) .nil
    fun {tr evs m m' a} hr hI hC hs => hI.append ?_
  obtain ⟨o, hx, rfl, rfl⟩ := Machine.exec_of_step hs
  intro pre e post heq
  cases e with
  | recvEOF i =>
    have he : .recvEOF i ∈ o.events := by
      rw [heq]
      exact List.mem_append_right _ List.mem_cons_self
    -- the report is the step's only event
    have hpre : pre = [] := by
      rw [(recvEOF_of_step (effect_of_exec hx) he).2.1] at heq
      exact (List.append_eq_singleton_iff.mp heq.symm).elim (·.1) fun h => by cases h.2
    intro hn
    rw [hpre, List.append_nil] at hn ⊢
    have hw := whole_run hr i hn
    rwa [frames_of_recvEOF (ending_run hr) hC hx he, List.append_nil] at hw
  | _ => trivial

/-- A byte is received, the peer sends EOF, and the end is reported. -/
theorem eof_after_accepted_byte : ∃ tr m,
    (Machine.lts narrow.config).Run (fun m a => m.spares a = true) tr m ∧
    acceptedOn 0 tr = [[7]] ∧ .recvEOF 0 ∈ tr ∧ Lts.Explained EndsWhole tr := by
  obtain ⟨tr, m, h, hacc, heof⟩ := Lts.exists_run_of_replay (L := Machine.lts narrow.config)
    (C := fun m a => m.spares a = true) (P := fun tr _ => acceptedOn 0 tr = [[7]] ∧ .recvEOF 0 ∈ tr)
    (incomingChannel ++ peerData ++ (Tid.call 0).does [.api (.recv 0), .go] ++
      Tid.receiver.does [.frame (.channelEof 0), .go] ++ (Tid.call 1).does [.api (.recv 0), .go])
    (by decide +kernel)
  exact ⟨tr, m, h, hacc, heof, eof_after_accepted h⟩

/-- **Two ends that hide a frame.** The peer closes the connection: the session shuts the channel down
    with a byte queued, and the next `Recv` reports a clean end. Or a `Recv` is waiting when the byte
    and the end of the session come in, and its `select` takes the end. -/
theorem eof_before_accepted :
    (∃ pre m, (Machine.lts narrow.config).Run (fun _ _ => True) (pre ++ [.recvEOF 0]) m ∧
      acceptedOn 0 pre = [[7]] ∧ ¬ EndsWhole pre (.recvEOF 0)) ∧
    ∃ pre m, (Machine.lts narrow.config).Run (fun _ _ => True) (pre ++ [.recvEOF 0]) m ∧
      acceptedOn 0 pre = [[7]] ∧ (m.sess.chan 0).frames = [[7]] ∧ ¬ EndsWhole pre (.recvEOF 0) := by
  refine ⟨?_, ?_⟩
  · obtain ⟨tr, m, h, htr, hacc, hn, hret⟩ := Lts.exists_run_of_replay
      (L := Machine.lts narrow.config) (C := fun _ _ => True)
      (P := fun tr _ => tr = tr.dropLast ++ [.recvEOF 0] ∧
        acceptedOn 0 tr.dropLast = [[7]] ∧ .closeCalled 0 ∉ tr.dropLast ∧
        returnedOn 0 tr.dropLast = [])
      (incomingChannel ++ peerData ++ Tid.receiver.does [.eof, .go, .go, .pick 0] ++
        (Tid.call 0).does [.api (.recv 0), .go]) (by decide +kernel)
    refine ⟨tr.dropLast, m, htr ▸ h, hacc, fun hw => ?_⟩
    rw [EndsWhole, hacc, hret] at hw
    exact absurd (hw hn) (by decide)
  · obtain ⟨tr, m, h, htr, hacc, hf, hn, hret⟩ := Lts.exists_run_of_replay
      (L := Machine.lts narrow.config) (C := fun _ _ => True)
      (P := fun tr m => tr = tr.dropLast ++ [.recvEOF 0] ∧
        acceptedOn 0 tr.dropLast = [[7]] ∧ (m.sess.chan 0).frames = [[7]] ∧
        .closeCalled 0 ∉ tr.dropLast ∧ returnedOn 0 tr.dropLast = [])
      (incomingChannel ++ (Tid.call 0).does [.api (.recv 0), .go] ++ peerData ++
        Tid.receiver.does [.eof, .go, .go] ++ (Tid.call 0).does [.chanDone]) (by decide +kernel)
    refine ⟨tr.dropLast, m, htr ▸ h, hacc, hf, fun hw => ?_⟩
    rw [EndsWhole, hacc, hret] at hw
    exact absurd (hw hn) (by decide)

end Mygosh.Mux

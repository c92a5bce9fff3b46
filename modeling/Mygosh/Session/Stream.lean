/-
  File:      Mygosh/Session/Stream.lean
  Subject:   The data of a channel on the receiving side: read, accepted, queued, returned.

  * `data_run` -- the frames accepted for a channel are a prefix of those read for it;
  * `Intact` -- what `Recv` has returned and what is queued is what was accepted, unless the
    queue has been discarded; `Balanced` -- the window is what the queue leaves of it;
  * `streams_run` -- both along every run.
-/
import Mygosh.Session.Reads

namespace Mygosh.Mux

open Session

/-! ## 1. Streams in a trace -/

/-- The data of the frames for channel `i`. -/
def dataTo (i : Nat) : Envelope → Option Bytes
  | .channelData j data => if j = i then some data else none
  | _ => none

/-- The event that the data of a frame has been accepted for channel `i`. -/
def acceptance (i : Nat) : Event → Option Bytes
  | .accepted j data => if j = i then some data else none
  | _ => none

/-- What `handleChannelData` has accepted for channel `i`. -/
def acceptedOn (i : Nat) (tr : List Event) : List Bytes := tr.filterMap (acceptance i)

/-- What `Recv` has returned on channel `i`. -/
def returnedOn (i : Nat) (tr : List Event) : List Bytes :=
  tr.filterMap fun
    | .recvFrame j data => if j = i then some data else none
    | _ => none

@[simp] theorem acceptedOn_append (i : Nat) (tr tr' : List Event) :
    acceptedOn i (tr ++ tr') = acceptedOn i tr ++ acceptedOn i tr' := List.filterMap_append

@[simp] theorem returnedOn_append (i : Nat) (tr tr' : List Event) :
    returnedOn i (tr ++ tr') = returnedOn i tr ++ returnedOn i tr' := List.filterMap_append

theorem acceptedOn_ofCore {i : Nat} {evs : List Event} (h : evs.filter Event.ofCore = []) :
    acceptedOn i evs = [] :=
  filterMap_ofCore (fun e he => by cases e <;> first | rfl | cases he) h

theorem returnedOn_ofCore {i : Nat} {evs : List Event} (h : evs.filter Event.ofCore = []) :
    returnedOn i evs = [] :=
  filterMap_ofCore (fun e he => by cases e <;> first | rfl | cases he) h

/-- The data in a list of frames, in bytes. -/
def bytes (frames : List Bytes) : Nat := (frames.map List.length).sum

@[simp] theorem bytes_append (l l' : List Bytes) : bytes (l ++ l') = bytes l + bytes l' := by
  simp [bytes]

@[simp] theorem bytes_cons (x : Bytes) (l : List Bytes) : bytes (x :: l) = x.length + bytes l := by
  simp [bytes]

@[simp] theorem bytes_nil : bytes [] = 0 := rfl

/-! ## 2. Acceptance -/

/-- What a step accepts and returns, and on which channel. -/
inductive StreamStep (s : Session) : Pc → Out → Prop where
  | quiet {pc o} (ha : ∀ i, acceptedOn i o.events = []) (hr : ∀ i, returnedOn i o.events = []) :
      StreamStep s pc o
  | accepts {i data o} (he : o.events = [.accepted i data, .routed]) :
      StreamStep s (.inData i data) o
  | returns {i frame rest o} (hf : (cores s i).frames = frame :: rest)
      (he : o.events = [.recvFrame i frame]) : StreamStep s (.recvLoop i) o

section Accept

variable {cfg : Config} {s : Session} {t : Tid} {pc : Pc} {o : Out}

theorem stream_step (h : Effect cfg s t pc o) : StreamStep s pc o := by
  have hquiet : ∀ {evs}, o.events = evs → (∀ i, acceptedOn i evs = []) →
      (∀ i, returnedOn i evs = []) → StreamStep s pc o := by
    rintro _ rfl ha hr
    exact .quiet ha hr
  cases core_step h with
  | same _ _ he => exact .quiet (fun _ => acceptedOn_ofCore he) fun _ => returnedOn_ofCore he
  | incoming _ _ _ he => exact hquiet he (fun _ => rfl) fun _ => rfl
  | pending _ _ _ he => exact hquiet he (fun _ => rfl) fun _ => rfl
  | turn _ _ he ht =>
    cases ht with
    | data => exact .accepts he
    | take hf => exact .returns hf he
    | shut h' | eof _ h' | remoteClose _ h' =>
      rcases h' with rfl | rfl <;> exact hquiet he (fun _ => rfl) fun _ => rfl
    | _ => exact hquiet he (fun _ => rfl) fun _ => rfl

/-- A frame of data is accepted, or the receiver stops. -/
theorem data_handles (i : Nat) (h : Effect cfg s t pc o) :
    Handles (dataTo i) (acceptance i) pc o := by
  by_cases hpc : ∃ j data, pc = .inData j data
  · obtain ⟨j, data, rfl⟩ := hpc
    cases h with
    | routeFails h => cases h <;> exact .skips rfl fun _ _ _ _ => ⟨nofun, rfl⟩
    | inFrame h =>
      cases h with
      | data =>
        by_cases hj : j = i
        · exact .marks rfl (if_pos hj) (by simp [acceptance, hj])
        · refine .skips (by simp [acceptance, hj]) fun env b hf hb => ?_
          cases hf
          exact absurd hb (by simp [dataTo, hj])
    | _ h => cases h
  · -- no other frame carries data
    have hskip : ∀ env b, pc.frame = some env → dataTo i env = some b → o.pc.stopped := by
      intro env b hf hb
      cases pc with
      | inData j data => exact absurd ⟨j, data, rfl⟩ hpc
      | _ => first | (cases hf; cases hb) | cases hf
    cases stream_step h with
    | quiet ha => exact .skips (ha i) hskip
    | accepts => exact absurd ⟨_, _, rfl⟩ hpc
    | returns _ he => exact .skips (by rw [he]; rfl) hskip

/-- **Of the data read for a channel, what was accepted is a prefix.** -/
theorem data_run {C : Machine → Act → Prop} {tr : List Event} {m : Machine} (i : Nat)
    (h : (Machine.lts cfg).Run C tr m) :
    Ledger (dataTo i) (acceptance i) tr (m.pc .receiver) := ledger_run (data_handles i) h

/-- A frame in hand is one the schema admits. -/
theorem valid_run {C : Machine → Act → Prop} {tr : List Event} {m : Machine}
    (h : (Machine.lts cfg).Run C tr m) :
    ∀ (t : Tid) env, (m.pc t).frame = some env → env.valid = true := by
  refine Machine.run_invariant
    (I := fun _ m => ∀ (t : Tid) env, (m.pc t).frame = some env → env.valid = true) h
    nofun fun {tr m a o} _ hI _ he => ?_
  refine forall_update (P := fun _ pc => ∀ env, pc.frame = some env → env.valid = true) ?_
    fun u _ => hI u
  intro env hf
  generalize m.pc a.tid = pc at he
  cases read_step he with
  | read hv _ _ hp => cases hp.symm.trans hf; exact hv
  | refused _ _ _ hp => rw [frame_of_stopped hp] at hf; cases hf
  | handled _ _ hp | other _ _ hp => rw [hp] at hf; cases hf

end Accept

/-! ## 3. The queue -/

/-- The channel takes no more data and will not. -/
def ChannelState.gone : ChannelState → Bool
  | .channelClosing | .channelClosed | .channelFailed => true
  | _ => false

theorem ChannelState.gone_shut (st : ChannelState) : st.shut.gone = true := by
  unfold ChannelState.shut
  split <;> rfl

/-- What was returned and what is queued is what was accepted, unless the queue was discarded. -/
def Intact (c : Core) (ret acc : List Bytes) : Prop :=
  ret ++ c.frames = acc ∨ c.frames = [] ∧ c.state.gone = true ∧ ret <+: acc

theorem Intact.initial {c : Core} {ret acc : List Bytes} (h : Intact c ret acc) : ret <+: acc := by
  rcases h with h | h
  · exact ⟨c.frames, h⟩
  · exact h.2.2

theorem Intact.of_not_gone {c : Core} {ret acc : List Bytes} (h : Intact c ret acc)
    (hg : c.state.gone = false) : ret ++ c.frames = acc := by
  refine h.resolve_right fun h => ?_
  rw [hg] at h
  cases h.2.1

section Turn

variable {cfg : Config} {t : Tid} {i : Nat} {c c' : Core} {pc : Pc} {evs : List Event}

/-- A turn that neither accepts nor returns and keeps the queue. -/
theorem Intact.of_frames {ret acc : List Bytes} (h : Intact c ret acc) (hf : c'.frames = c.frames)
    (hg : c.state.gone = true → c'.state.gone = true) : Intact c' ret acc := by
  rcases h with h | ⟨h, hg', hp⟩
  · exact .inl (hf ▸ h)
  · exact .inr ⟨hf ▸ h, hg hg', hp⟩

theorem Turn.intact (h : Turn cfg t i c pc evs c') {ret acc : List Bytes} (hq : Intact c ret acc) :
    Intact c' (ret ++ returnedOn i evs) (acc ++ acceptedOn i evs) := by
  have hquiet : returnedOn i evs = [] → acceptedOn i evs = [] → Intact c' ret acc →
      Intact c' (ret ++ returnedOn i evs) (acc ++ acceptedOn i evs) := by
    intro hr ha h
    rwa [hr, ha, List.append_nil, List.append_nil]
  cases h with
  | @data data hs _ _ =>
    have hng : c.state.gone = false := by
      cases hst : c.state <;> rw [hst] at hs <;> first | rfl | exact absurd hs (by decide)
    have ha : acceptedOn i [.accepted i data, .routed] = [data] := by simp [acceptedOn, acceptance]
    rw [ha, ← hq.of_not_gone hng]
    exact .inl (by simp [returnedOn])
  | @take frame rest hf =>
    have hr : returnedOn i [.recvFrame i frame] = [frame] := by simp [returnedOn]
    rw [hr]
    rcases hq with hq | hq
    · exact .inl (by rw [← hq, hf]; simp [Core.take, acceptedOn, acceptance])
    · rw [hf] at hq; cases hq.1
  | shut he =>
    refine hquiet ?_ ?_ (.inr ⟨rfl, c.state.gone_shut, hq.initial⟩) <;>
      rcases he with rfl | rfl <;> rfl
  | closing => exact hquiet rfl rfl (.inr ⟨rfl, rfl, hq.initial⟩)
  | openFails hs => exact hquiet rfl rfl (hq.of_frames rfl id)
  | opened hs | accept hs =>
    exact hquiet rfl rfl (hq.of_frames rfl fun hg => by rw [hs] at hg; cases hg)
  | rejected | abandoned => exact hquiet rfl rfl (hq.of_frames rfl fun _ => rfl)
  | closeOpening => exact hquiet rfl rfl (hq.of_frames rfl fun _ => rfl)
  | eof hs he =>
    refine hquiet ?_ ?_ (hq.of_frames rfl fun hg => ?_)
    · rcases he with rfl | rfl <;> rfl
    · rcases he with rfl | rfl <;> rfl
    · cases hst : c.state <;> rw [hst] at hs hg <;> first | cases hs; done | cases hg
  | closeWrite hs =>
    refine hquiet rfl rfl (hq.of_frames rfl fun hg => ?_)
    cases hst : c.state <;> rw [hst] at hs hg <;> first | cases hs; done | cases hg
  | undo hs =>
    refine hquiet rfl rfl (hq.of_frames rfl fun hg => ?_)
    rcases hs with hs | hs <;> rw [hs] at hg <;> cases hg
  | closeAcked | timeout => exact hquiet rfl rfl (hq.of_frames rfl fun _ => rfl)
  | remoteClose _ he =>
    refine hquiet ?_ ?_ (hq.of_frames rfl fun _ => rfl) <;> rcases he with rfl | rfl <;> rfl

end Turn

/-- A selection of events of one channel finds none among those of others. -/
theorem filterMap_coreOf {β : Type} {f : Event → Option β} {j : Nat} {evs : List Event}
    (hf : ∀ e, e.coreOf ≠ some j → f e = none) (h : ∀ e ∈ evs, e.coreOf ≠ some j) :
    evs.filterMap f = [] :=
  List.filterMap_eq_nil_iff.2 fun e he => hf e (h e he)

theorem acceptedOn_other {j : Nat} {evs : List Event} (h : ∀ e ∈ evs, e.coreOf ≠ some j) :
    acceptedOn j evs = [] := by
  refine filterMap_coreOf (fun e he => ?_) h
  cases e <;> first | rfl | exact if_neg fun hj => he (congrArg some hj)

theorem returnedOn_other {j : Nat} {evs : List Event} (h : ∀ e ∈ evs, e.coreOf ≠ some j) :
    returnedOn j evs = [] := by
  refine filterMap_coreOf (fun e he => ?_) h
  cases e <;> first | rfl | exact if_neg fun hj => he (congrArg some hj)

/-! ## 4. The window -/

/-- The longest data a frame can carry. -/
def maxData : Nat := 24576

theorem maxData_le : maxData ≤ maxUint32 := by decide

theorem data_le_of_valid {i : Nat} {data : Bytes} (h : (Envelope.channelData i data).valid = true) :
    data.length ≤ maxData := by
  simp only [Envelope.valid, Bool.and_eq_true, decide_eq_true_eq] at h
  exact h.2

/-- The window is what the queue leaves of it, unless the queue was discarded. -/
def Balanced (cfg : Config) (c : Core) : Prop :=
  c.localWindow + bytes c.frames = cfg.initialWindow ∨ c.frames = [] ∧ c.state.gone = true

section Turn

variable {cfg : Config} {t : Tid} {i : Nat} {c c' : Core} {pc : Pc} {evs : List Event}

theorem Balanced.of_same (h : Balanced cfg c) (hf : c'.frames = c.frames)
    (hw : c'.localWindow = c.localWindow) (hg : c.state.gone = true → c'.state.gone = true) :
    Balanced cfg c' := by
  rcases h with h | ⟨h, hg'⟩
  · exact .inl (by rw [hf, hw, h])
  · exact .inr ⟨hf ▸ h, hg hg'⟩

theorem Turn.balanced (h : Turn cfg t i c pc evs c') (hcfg : cfg.initialWindow ≤ maxUint32)
    (hin : ∀ data, pc = .inData i data → data.length ≤ maxData)
    (hshort : ∀ data ∈ c.frames, data.length ≤ maxData) (hopen : c.openWait = true → c.frames = [])
    (hb : Balanced cfg c) : Balanced cfg c' := by
  cases h with
  | @data data hs _ hw =>
    have hlen : toU32 data.length = data.length := toU32_eq ((hin data rfl).trans maxData_le)
    have hng : c.state.gone = false := by
      cases hst : c.state <;> rw [hst] at hs <;> first | rfl | exact absurd hs (by decide)
    have hwin := hb.resolve_right fun h => by rw [hng] at h; cases h.2
    rw [hlen] at hw
    refine .inl ?_
    show subU32 c.localWindow (toU32 data.length) + bytes (c.frames ++ [data]) = _
    rw [hlen, subU32_eq hw, bytes_append, bytes_cons, bytes_nil, ← hwin]
    omega
  | @take frame rest hf =>
    have hlen : toU32 frame.length = frame.length :=
      toU32_eq ((hshort frame (hf ▸ List.mem_cons_self)).trans maxData_le)
    have hwin := hb.resolve_right fun h => by rw [hf] at h; cases h.1
    rw [hf, bytes_cons] at hwin
    refine .inl ?_
    show addU32 c.localWindow (toU32 frame.length) + bytes rest = _
    rw [hlen, addU32_eq (by omega), ← hwin]
    omega
  | opened _ hw =>
    refine .inl ?_
    show cfg.initialWindow + bytes c.frames = _
    rw [hopen hw]
    rfl
  | shut => exact .inr ⟨rfl, c.state.gone_shut⟩
  | closing => exact .inr ⟨rfl, rfl⟩
  | openFails => exact hb.of_same rfl rfl id
  | rejected | abandoned => exact hb.of_same rfl rfl fun _ => rfl
  | closeOpening => exact hb.of_same rfl rfl fun _ => rfl
  | accept hs => exact hb.of_same rfl rfl fun hg => by rw [hs] at hg; cases hg
  | eof hs =>
    refine hb.of_same rfl rfl fun hg => ?_
    cases hst : c.state <;> rw [hst] at hs hg <;> first | cases hs; done | cases hg
  | closeWrite hs =>
    refine hb.of_same rfl rfl fun hg => ?_
    cases hst : c.state <;> rw [hst] at hs hg <;> first | cases hs; done | cases hg
  | undo hs =>
    refine hb.of_same rfl rfl fun hg => ?_
    rcases hs with hs | hs <;> rw [hs] at hg <;> cases hg
  | closeAcked | timeout => exact hb.of_same rfl rfl fun _ => rfl
  | remoteClose => exact hb.of_same rfl rfl fun _ => rfl

/-- The queue of a turn holds nothing longer than a frame can carry. -/
theorem Turn.short (h : Turn cfg t i c pc evs c')
    (hin : ∀ data, pc = .inData i data → data.length ≤ maxData)
    (hshort : ∀ data ∈ c.frames, data.length ≤ maxData) :
    ∀ data ∈ c'.frames, data.length ≤ maxData := by
  intro d hd
  cases h with
  | @data data =>
    rcases List.mem_append.1 hd with hd | hd
    · exact hshort d hd
    · rw [List.mem_singleton.1 hd]
      exact hin data rfl
  | take hf => exact hshort d (hf ▸ List.mem_cons_of_mem _ hd)
  | shut | closing => cases hd
  | _ => exact hshort d hd

end Turn

/-! ## 5. Along a run -/

/-- **The receiving side of every channel.** -/
structure Streams (cfg : Config) (tr : List Event) (m : Machine) : Prop where
  intact : ∀ i, Intact (cores m.sess i) (returnedOn i tr) (acceptedOn i tr)
  paired : ∀ i, acceptedOn i tr ≠ [] → IsPaired tr i
  short : ∀ i, ∀ data ∈ (cores m.sess i).frames, data.length ≤ maxData
  balanced : ∀ i, IsPaired tr i → Balanced cfg (cores m.sess i)

theorem streams_start (cfg : Config) : Streams cfg [] Machine.start where
  intact _ := .inl rfl
  paired _ h := absurd rfl h
  short _ _ h := by cases h
  balanced _ h := by obtain ⟨p, hp⟩ := h; cases hp

section Step

variable {cfg : Config} {tr : List Event} {m : Machine} {t : Tid} {pc : Pc} {o : Out}

/-- On a channel that has just been made nothing has happened. -/
theorem Streams.unborn (hI : Streams cfg tr m) (hP : Pairing tr m) {i : Nat}
    (hi : m.sess.nextLocalChannelID ≤ i) : acceptedOn i tr = [] ∧ returnedOn i tr = [] := by
  have ha : acceptedOn i tr = [] := by
    by_contra hne
    obtain ⟨p, hp⟩ := hI.paired i hne
    exact absurd (hP.lt i p hp) (Nat.not_lt.2 hi)
  exact ⟨ha, List.prefix_nil.1 (ha ▸ (hI.intact i).initial)⟩

theorem Streams.intact_kept (hI : Streams cfg tr m) (hP : Pairing tr m)
    (h : Effect cfg m.sess t pc o) (i : Nat) :
    Intact (cores o.sess i) (returnedOn i (tr ++ o.events)) (acceptedOn i (tr ++ o.events)) := by
  rw [returnedOn_append, acceptedOn_append]
  cases core_at h i with
  | same hc he =>
    rw [returnedOn_other he, acceptedOn_other he, List.append_nil, List.append_nil, hc]
    exact hI.intact i
  | incoming hj hc he | pending hj hc he =>
    obtain ⟨ha, hr⟩ := hI.unborn hP hj.ge
    rw [ha, hr, hc, he]
    exact .inl rfl
  | turn hc he ht =>
    rw [hc, he]
    exact ht.intact (hI.intact i)

theorem Streams.paired_kept (hI : Streams cfg tr m) (hP : Pairing tr m)
    (h : Effect cfg m.sess t pc o) (i : Nat) (ha : acceptedOn i (tr ++ o.events) ≠ []) :
    IsPaired (tr ++ o.events) i := by
  rw [acceptedOn_append] at ha
  by_cases hold : acceptedOn i tr = []
  · rw [hold, List.nil_append] at ha
    cases core_at h i with
    | same _ he => exact absurd (acceptedOn_other he) ha
    | incoming _ _ he | pending _ _ he => rw [he] at ha; exact absurd rfl ha
    | turn _ he ht =>
      rw [he] at ha
      cases ht with
      | data hs =>
        obtain ⟨h1, h2⟩ := canReceive_live hs
        exact (hP.live i h1 h2).append _
      | shut h' | eof _ h' | remoteClose _ h' => rcases h' with rfl | rfl <;> exact absurd rfl ha
      | _ => exact absurd rfl ha
  · exact (hI.paired i hold).append _

theorem Streams.short_kept (hI : Streams cfg tr m) (h : Effect cfg m.sess t pc o)
    (hin : ∀ i data, pc = .inData i data → data.length ≤ maxData) (i : Nat) :
    ∀ data ∈ (cores o.sess i).frames, data.length ≤ maxData := by
  cases core_at h i with
  | same hc => rw [hc]; exact hI.short i
  | turn hc _ ht => rw [hc]; exact ht.short (hin i) (hI.short i)
  | incoming _ hc | pending _ hc => rw [hc]; exact nofun

theorem Streams.balanced_kept (hI : Streams cfg tr m) (hP : Pairing tr m)
    (hcfg : cfg.initialWindow ≤ maxUint32) (hpc : m.pc t = pc) (h : Effect cfg m.sess t pc o)
    (hin : ∀ i data, pc = .inData i data → data.length ≤ maxData) (i : Nat)
    (hi : IsPaired (tr ++ o.events) i) : Balanced cfg (cores o.sess i) := by
  -- a channel that waits for its answer is not paired, and has no data yet
  have hopen : (cores m.sess i).openWait = true → (cores m.sess i).frames = [] := by
    intro hw
    by_contra hf
    exact hP.wait i hw (hP.frames i hf)
  cases core_at h i with
  | same hc he =>
    rw [hc]
    obtain ⟨p, hp⟩ := hi
    rw [pairings_append, List.mem_append] at hp
    rcases hp with hp | hp
    · exact hI.balanced i ⟨p, hp⟩
    · obtain ⟨e, hm, hep⟩ := List.mem_filterMap.1 hp
      refine absurd ?_ (he e hm)
      cases e <;> first | (cases hep; rfl) | cases hep
  | incoming _ hc => rw [hc]; exact .inl rfl
  | pending hj _ he =>
    obtain ⟨p, hp⟩ := hi
    rw [he, List.append_nil] at hp
    exact absurd (hP.lt i p hp) (hj ▸ Nat.lt_irrefl _)
  | turn hc he ht =>
    rw [hc]
    by_cases hold : IsPaired tr i
    · exact ht.balanced hcfg (hin i) (hI.short i) hopen (hI.balanced i hold)
    · -- the pair is new, so the step is the one that opens the channel
      obtain ⟨p, hp⟩ := hi
      rw [pairings_append, List.mem_append] at hp
      have hp := hp.resolve_left fun hp => hold ⟨p, hp⟩
      rw [he] at hp
      cases ht with
      | opened _ hw =>
        refine .inl ?_
        show cfg.initialWindow + bytes (cores m.sess i).frames = _
        rw [hopen hw]
        rfl
      | shut h' | eof _ h' | remoteClose _ h' => rcases h' with rfl | rfl <;> cases hp
      | _ => cases hp

/-- **Every step keeps the invariant.** -/
theorem Streams.step (hI : Streams cfg tr m) (hP : Pairing tr m)
    (hcfg : cfg.initialWindow ≤ maxUint32) (h : Effect cfg m.sess t (m.pc t) o)
    (hin : ∀ i data, m.pc t = .inData i data → data.length ≤ maxData) :
    Streams cfg (tr ++ o.events) ⟨o.sess, Function.update m.pc t o.pc⟩ where
  intact := hI.intact_kept hP h
  paired := hI.paired_kept hP h
  short := hI.short_kept h hin
  balanced := hI.balanced_kept hP hcfg rfl h hin

end Step

/-- **The receiving side of every channel, along every run.** -/
theorem streams_run {cfg : Config} {C : Machine → Act → Prop} {tr : List Event} {m : Machine}
    (hcfg : cfg.initialWindow ≤ maxUint32) (h : (Machine.lts cfg).Run C tr m) :
    Streams cfg tr m := by
  refine Machine.run_invariant h (streams_start cfg) fun {tr m a o} hr hI _ he => ?_
  refine hI.step (pairing_run hr) hcfg he fun i data hp => ?_
  exact data_le_of_valid (valid_run hr a.tid (.channelData i data) (by rw [hp]; rfl))

end Mygosh.Mux

/-
  File:      Mygosh/Establish/Decision.lean
  Subject:   One decision on a verified client, and no session traffic before it succeeds.

  Whoever claims the pending state is the only call that may answer; the flag of the pending
  authentication lets it answer once. `Inv` says what the trace has shown where each call is; each
  kind of change keeps it, and the sections are composed of these.
-/
import Mygosh.Establish.Pending

namespace Mygosh.Establish

open Mux (Dormant)

/-! ## 1. Claims and answers in a trace -/

def Event.claim : Event → Option (Nat × PendingState)
  | .claimed n next => some (n, next)
  | _ => none

def Event.isAnswer : Event → Bool
  | .sentOK _ _ | .sentReject _ _ => true
  | _ => false

/-- The successful claims. -/
def claims (tr : List Event) : List (Nat × PendingState) := tr.filterMap Event.claim

/-- The answers sent to the client, written or not. -/
def answers (tr : List Event) : List Event := tr.filter Event.isAnswer

/-- An event that neither claims, nor answers, nor ends the deadline's context. -/
def Event.plain : Event → Bool
  | .claimed _ _ | .ended _ | .sentOK _ _ | .sentReject _ _ => false
  | _ => true

section Lists

variable {tr evs : List Event} {e : Event} {n : Nat} {d : PendingState}

@[simp] theorem claims_append : claims (tr ++ evs) = claims tr ++ claims evs :=
  List.filterMap_append

@[simp] theorem answers_append : answers (tr ++ evs) = answers tr ++ answers evs :=
  List.filter_append ..

theorem mem_claims : (n, d) ∈ claims tr ↔ .claimed n d ∈ tr := by
  unfold claims
  rw [List.mem_filterMap]
  constructor
  · rintro ⟨e, he, hc⟩
    cases e <;> cases hc
    exact he
  · intro h
    exact ⟨_, h, rfl⟩

theorem Event.plain.claims (h : e.plain = true) : claims [e] = [] := by
  cases e <;> first | rfl | cases h

theorem Event.plain.answers (h : e.plain = true) : answers [e] = [] := by
  cases e <;> first | rfl | cases h

end Lists

/-! ## 2. What holds where a goroutine is -/

/-- Only an `Accept` that has claimed the decision is on its way to return as an `Accept`. -/
def Ret.Backed (tr : List Event) (n : Nat) : Ret → Prop
  | .accept _ => .claimed n .pendingAccepted ∈ tr
  | _ => True

/-- What the trace has shown, by the place of call `n`. -/
def CallHolds (tr : List Event) (s : State) (n : Nat) : Pc → Prop
  | .acceptPrepare | .acceptCheck | .acceptPhase | .acceptBind =>
    .claimed n .pendingAccepted ∈ tr ∧ s.sess = none
  | .acceptOwner | .stopAuth .accept | .readCause .accept | .acceptFinal | .acceptRelease
  | .acceptTransfer => .claimed n .pendingAccepted ∈ tr
  | .cancelAuth .accept cause => .claimed n .pendingAccepted ∈ tr ∧ .evaluated n .accept cause ∈ tr
  | .acceptDecide => .claimed n .pendingAccepted ∈ tr ∧ .evaluated n .accept none ∈ tr
  | .acceptSend => .claimed n .pendingAccepted ∈ tr ∧ .evaluated n .accept none ∈ tr ∧
      s.decided = true ∧ answers tr = []
  | .acceptAdvance | .acceptActivate => .claimed n .pendingAccepted ∈ tr ∧ .sentOK n true ∈ tr
  | .rejectDecide => .claimed n .pendingRejected ∈ tr
  | .rejectSend => .claimed n .pendingRejected ∈ tr ∧ s.decided = true ∧ answers tr = []
  | .fail _ ret | .failCancel _ ret | .takeOwner ret | .closeOwner _ ret => ret.Backed tr n
  | _ => True

/-- The callbacks and the watcher only fail the connection. -/
def Background : Pc → Prop
  | .idle | .done => True
  | .fail _ ret | .failCancel _ ret | .takeOwner ret | .closeOwner _ ret => ret = .background
  | _ => False

def Holds (tr : List Event) (s : State) : Tid → Pc → Prop
  | .call n, pc => CallHolds tr s n pc
  | _, pc => Background pc

/-- What an event needs of the events before it. -/
def Caused (pre : List Event) : Event → Prop
  | .evaluated n k cause => (k = .accept → .claimed n .pendingAccepted ∈ pre) ∧
      (cause = none → ∀ e, .ended e ∉ pre)
  | .sentOK n _ => .claimed n .pendingAccepted ∈ pre ∧ .evaluated n .accept none ∈ pre
  | .sentReject n _ => .claimed n .pendingRejected ∈ pre
  | .activated n => .sentOK n true ∈ pre
  | .session _ => ∃ n, .activated n ∈ pre
  | .returned n (.accept err) => err = some .decisionMade ∨ .claimed n .pendingAccepted ∈ pre
  | _ => True

/-- The state is undecided and nobody has claimed it, or one call has. -/
def ClaimedOnce (tr : List Event) (state : PendingState) : Prop :=
  (state = .pendingUndecided ∧ claims tr = []) ∨
    state ≠ .pendingUndecided ∧ ∃ n, claims tr = [(n, state)]

structure Inv (tr : List Event) (s : State) : Prop where
  claimed : ClaimedOnce tr s.state
  unbound : s.state = .pendingUndecided → s.sess = none
  unsent : s.decided = false → answers tr = []
  once : (answers tr).length ≤ 1
  running : s.authErr = none → ∀ e, .ended e ∉ tr
  dormant : ∀ m, s.sess = some m → Dormant m ∨ ∃ n, .activated n ∈ tr
  places : ∀ t, Holds tr s t (s.pc t)
  explained : Lts.Explained Caused tr

section Places

variable {tr tr' evs : List Event} {s s' : State} {n m : Nat} {d d' : PendingState} {t : Tid}
  {pc : Pc}

theorem Ret.Backed.append {ret : Ret} (h : ret.Backed tr n) : ret.Backed (tr ++ evs) n := by
  cases ret with
  | accept err => exact List.mem_append_left _ h
  | _ => trivial

/-- A call's place survives events that are no answers, and changes elsewhere in the state. -/
theorem CallHolds.frame (h : CallHolds tr s n pc) (ha : answers evs = [])
    (hs : s.sess = none → s'.sess = none) (hd : s.decided = true → s'.decided = true) :
    CallHolds (tr ++ evs) s' n pc := by
  have hm : ∀ {e}, e ∈ tr → e ∈ tr ++ evs := List.mem_append_left _
  have hans : answers tr = [] → answers (tr ++ evs) = [] := fun h => by
    rw [answers_append, h, ha, List.append_nil]
  cases pc with
  | acceptPrepare | acceptCheck | acceptPhase | acceptBind => exact ⟨hm h.1, hs h.2⟩
  | acceptOwner | acceptFinal | acceptRelease | acceptTransfer | rejectDecide => exact hm h
  | stopAuth k | readCause k => cases k <;> first | exact hm h | trivial
  | cancelAuth k cause => cases k <;> first | exact ⟨hm h.1, hm h.2⟩ | trivial
  | acceptDecide | acceptAdvance | acceptActivate => exact ⟨hm h.1, hm h.2⟩
  | acceptSend => exact ⟨hm h.1, hm h.2.1, hd h.2.2.1, hans h.2.2.2⟩
  | rejectSend => exact ⟨hm h.1, hd h.2.1, hans h.2.2⟩
  | fail cause ret | failCancel cause ret | takeOwner ret | closeOwner owner ret =>
    exact Ret.Backed.append h
  | idle | done => trivial

/-- A call that has claimed nothing is where nothing depends on the trace or the state. -/
theorem CallHolds.bystander (h : CallHolds tr s n pc) (hn : ∀ d, .claimed n d ∉ tr) :
    CallHolds tr' s' n pc := by
  have hret : ∀ {ret : Ret}, ret.Backed tr n → ret.Backed tr' n := fun {ret} h => by
    cases ret with
    | accept err => exact absurd h (hn _)
    | _ => trivial
  cases pc with
  | acceptPrepare | acceptCheck | acceptPhase | acceptBind | acceptDecide | acceptAdvance
  | acceptActivate | acceptSend | rejectSend => exact absurd h.1 (hn _)
  | acceptOwner | acceptFinal | acceptRelease | acceptTransfer | rejectDecide =>
    exact absurd h (hn _)
  | stopAuth k | readCause k => cases k <;> first | exact absurd h (hn _) | trivial
  | cancelAuth k cause => cases k <;> first | exact absurd h.1 (hn _) | trivial
  | fail cause ret | failCancel cause ret | takeOwner ret | closeOwner owner ret => exact hret h
  | idle | done => trivial

theorem Holds.frame (h : Holds tr s t pc) (ha : answers evs = [])
    (hs : s.sess = none → s'.sess = none) (hd : s.decided = true → s'.decided = true) :
    Holds (tr ++ evs) s' t pc := by
  cases t with
  | call n => exact CallHolds.frame h ha hs hd
  | _ => exact h

/-- A place depends on the session and the flag only. -/
theorem Holds.congr (h : Holds tr s t pc) (hs : s.sess = none → s'.sess = none)
    (hd : s.decided = true → s'.decided = true) : Holds tr s' t pc := by
  have := @Holds.frame tr [] s s' t pc h rfl hs hd
  rwa [List.append_nil] at this

/-- The places after goroutine `t` has moved. -/
theorem places_goto (ht : Holds tr s t pc) (hu : ∀ u, u ≠ t → Holds tr s u (s.pc u)) (u : Tid) :
    Holds tr (s.goto t pc) u ((s.goto t pc).pc u) := by
  refine Holds.congr (s := s) ?_ id id
  show Holds tr s u (Function.update s.pc t pc u)
  by_cases h : u = t
  · subst h
    rwa [Function.update_self]
  · rw [Function.update_of_ne h]
    exact hu u h

theorem ClaimedOnce.append {state : PendingState} (h : ClaimedOnce tr state)
    (he : claims evs = []) : ClaimedOnce (tr ++ evs) state := by
  unfold ClaimedOnce
  rw [claims_append, he, List.append_nil]
  exact h

theorem ClaimedOnce.unique {state : PendingState} (h : ClaimedOnce tr state)
    (hn : .claimed n d ∈ tr) : d = state ∧ claims tr = [(n, d)] := by
  have hn := mem_claims.mpr hn
  rcases h with ⟨-, h⟩ | ⟨-, k, h⟩
  · rw [h] at hn
    cases hn
  · rw [h] at hn ⊢
    cases List.mem_singleton.mp hn
    exact ⟨rfl, rfl⟩

theorem ClaimedOnce.decided {state : PendingState} (h : ClaimedOnce tr state)
    (hn : .claimed n d ∈ tr) : state ≠ .pendingUndecided := by
  rcases h with ⟨-, h⟩ | ⟨h, -⟩
  · have hn := mem_claims.mpr hn
    rw [h] at hn
    cases hn
  · exact h

/-- While call `n` holds the claim the others are bystanders. -/
theorem Holds.other {state : PendingState} (hc : ClaimedOnce tr state) (hn : .claimed n d ∈ tr)
    (ht : t ≠ .call n) (h : Holds tr s t pc) : Holds tr' s' t pc := by
  cases t with
  | call m =>
    refine CallHolds.bystander h fun d' hm => ht ?_
    have hm := mem_claims.mpr hm
    rw [(hc.unique hn).2] at hm
    cases List.mem_singleton.mp hm
    rfl
  | _ => exact h

end Places

/-! ## 3. The kinds of change -/

section Changes

variable {tr : List Event} {s s' : State} {e : Event} {n : Nat} {d : PendingState} {t : Tid} {pc : Pc}

theorem Inv.start : Inv [] State.start where
  claimed := .inl ⟨rfl, rfl⟩
  unbound _ := rfl
  unsent _ := rfl
  once := Nat.zero_le _
  running _ _ h := nomatch h
  dormant _ h := nomatch h
  places t := by cases t <;> trivial
  explained := .nil

/-- A goroutine goes where what is wanted of it holds. -/
theorem Inv.goto (h : Inv tr s) (hp : Holds tr s t pc) : Inv tr (s.goto t pc) where
  __ := h
  places := places_goto hp fun u _ => h.places u

/-- The other fields do not matter. -/
theorem Inv.congr (h : Inv tr s) (hstate : s'.state = s.state) (hd : s'.decided = s.decided)
    (ha : s'.authErr = s.authErr) (hs : s'.sess = s.sess) (hpc : s'.pc = s.pc) : Inv tr s' where
  claimed := hstate ▸ h.claimed
  unbound hu := hs.trans (h.unbound (hstate.symm.trans hu))
  unsent := hd ▸ h.unsent
  once := h.once
  running := ha ▸ h.running
  dormant := hs ▸ h.dormant
  places u := by
    rw [hpc]
    exact (h.places u).congr hs.trans hd.trans
  explained := h.explained

/-- An event that changes nothing but the trace. -/
theorem Inv.event (h : Inv tr s) (he : e.plain = true) (hc : Caused tr e) : Inv (tr ++ [e]) s where
  claimed := h.claimed.append (Event.plain.claims he)
  unbound := h.unbound
  unsent hd := by rw [answers_append, h.unsent hd, Event.plain.answers he]; rfl
  once := by simpa [Event.plain.answers he] using h.once
  running ha c hm := by
    rcases List.mem_append.mp hm with hm | hm
    · exact h.running ha c hm
    · cases List.mem_singleton.mp hm
      cases he
  dormant m hm := (h.dormant m hm).imp_right fun ⟨n, hn⟩ => ⟨n, List.mem_append_left _ hn⟩
  places u := (h.places u).frame (Event.plain.answers he) id id
  explained := h.explained.concat hc

/-- The deadline's context ends. -/
theorem Inv.endAuth (h : Inv tr s) (c : Err) :
    Inv (tr ++ (s.endAuth c).2) (s.endAuth c).1 := by
  unfold State.endAuth
  split
  · simpa using h
  · exact {
      claimed := h.claimed.append rfl
      unbound := h.unbound
      unsent := fun hd => by rw [answers_append, h.unsent hd]; rfl
      once := by simpa [answers, Event.isAnswer] using h.once
      running := fun ha => nomatch ha
      dormant := fun m hm =>
        (h.dormant m hm).imp_right fun ⟨n, hn⟩ => ⟨n, List.mem_append_left _ hn⟩
      places := fun u => (h.places u).frame rfl id id
      explained := h.explained.concat trivial }

/-- The pending state is claimed. -/
theorem Inv.claim (h : Inv tr s) (hu : s.state = .pendingUndecided) (hd : d ≠ .pendingUndecided)
    (hp : Holds (tr ++ [.claimed n d]) s t pc) :
    Inv (tr ++ [.claimed n d]) ({ s with state := d }.goto t pc) := by
  have hnone : claims tr = [] := h.claimed.elim And.right fun hc => absurd hu hc.1
  refine Inv.goto ?_ hp
  exact {
    claimed := .inr ⟨hd, n, by rw [claims_append, hnone]; rfl⟩
    unbound := fun hu => absurd hu hd
    unsent := fun hd => by rw [answers_append, h.unsent hd]; rfl
    once := by simpa [answers, Event.isAnswer] using h.once
    running := fun ha c hm => by
      rcases List.mem_append.mp hm with hm | hm
      · exact h.running ha c hm
      · cases List.mem_singleton.mp hm
    dormant := fun m hm =>
      (h.dormant m hm).imp_right fun ⟨n, hn⟩ => ⟨n, List.mem_append_left _ hn⟩
    places := fun u => (h.places u).frame rfl id id
    explained := h.explained.concat trivial }

/-- The flag of the pending authentication is set. -/
theorem Inv.decide (h : Inv tr s) : Inv tr { s with decided := true } where
  __ := h
  unsent hd := nomatch hd
  places u := (h.places u).congr id fun _ => rfl

/-- The call that holds the claim answers, for the first time. -/
theorem Inv.answer (h : Inv tr s) (hn : .claimed n d ∈ tr) (ha : answers tr = [])
    (hd : s.decided = true) (he : e.isAnswer = true) (hc : Caused tr e)
    (hp : Holds (tr ++ [e]) s (.call n) pc) : Inv (tr ++ [e]) (s.goto (.call n) pc) where
  claimed := h.claimed.append (by cases e <;> first | rfl | cases he)
  unbound := h.unbound
  unsent hd' := absurd (hd.symm.trans hd') Bool.noConfusion
  once := by
    rw [answers_append, ha]
    exact List.length_filter_le _ [e]
  running hr c hm := by
    rcases List.mem_append.mp hm with hm | hm
    · exact h.running hr c hm
    · cases List.mem_singleton.mp hm
      cases he
  dormant m hm := (h.dormant m hm).imp_right fun ⟨n, hn⟩ => ⟨n, List.mem_append_left _ hn⟩
  places := places_goto hp fun u hu => (h.places u).other h.claimed hn hu
  explained := h.explained.concat hc

/-- The call that holds the claim replaces the session. -/
theorem Inv.setSess {m : Mux.Machine} (h : Inv tr s) (hn : .claimed n d ∈ tr)
    (hm : Dormant m ∨ ∃ k, .activated k ∈ tr)
    (hp : Holds tr { s with sess := some m } (.call n) pc) :
    Inv tr ({ s with sess := some m }.goto (.call n) pc) where
  __ := h
  unbound hu := absurd hu (h.claimed.decided hn)
  dormant m' hm' := by
    cases hm'
    exact hm
  places := places_goto hp fun u hu => (h.places u).other h.claimed hn hu

/-- A goroutine returns. -/
theorem Inv.ret {ret : Ret} (h : Inv tr s) (hp : Holds tr s t (.takeOwner ret)) :
    Inv (tr ++ t.returns ret) (s.goto t .done) := by
  cases t with
  | call n =>
    refine (h.event rfl ?_).goto trivial
    cases ret with
    | accept err => exact .inr hp
    | _ => trivial
  | _ =>
    rw [Tid.returns, List.append_nil]
    · exact h.goto trivial
    · exact fun _ h => nomatch h

theorem Inv.returned (h : Inv tr s) (ret : Ret)
    (hr : ∀ err, ret = .accept err → err = some .decisionMade) :
    Inv (tr ++ [.returned n ret]) (s.goto (.call n) .done) := by
  refine (h.event rfl ?_).goto trivial
  cases ret with
  | accept err => exact .inl (hr err rfl)
  | _ => trivial

end Changes

/-! ## 4. The sections -/

section Sections

variable {tr evs : List Event} {s s' : State} {n : Nat} {t : Tid} {pc : Pc} {ok : Bool}

/-- `runtime.Fail` and `closeCurrentOwner`, whoever runs them. -/
theorem fail_inv {cause : Err} {ret : Ret} (h : Inv tr s) (hp : Holds tr s t (.fail cause ret))
    (hs : s.section t ok (.fail cause ret) = some (s', evs)) : Inv (tr ++ evs) s' := by
  cases hs
  rw [List.append_nil]
  have hp' : Holds tr s t (.failCancel cause ret) := by cases t <;> exact hp
  exact Inv.goto (h.congr rfl rfl rfl rfl rfl) (hp'.congr id id)

theorem failCancel_inv {cause : Err} {ret : Ret} (h : Inv tr s)
    (hp : Holds tr s t (.failCancel cause ret))
    (hs : s.section t ok (.failCancel cause ret) = some (s', evs)) : Inv (tr ++ evs) s' := by
  cases hs
  rw [List.append_nil]
  have hp' : Holds tr s t (.takeOwner ret) := by cases t <;> exact hp
  exact Inv.goto (h.congr rfl rfl rfl rfl rfl) (hp'.congr id id)

theorem takeOwner_inv {ret : Ret} (h : Inv tr s) (hp : Holds tr s t (.takeOwner ret))
    (hs : s.section t ok (.takeOwner ret) = some (s', evs)) : Inv (tr ++ evs) s' := by
  simp only [State.section] at hs
  split at hs <;> cases hs
  · exact Inv.ret (h.congr rfl rfl rfl rfl rfl) (hp.congr id id)
  · rename_i owner _
    rw [List.append_nil]
    have hp' : Holds tr s t (.closeOwner owner ret) := by cases t <;> exact hp
    exact Inv.goto (h.congr rfl rfl rfl rfl rfl) (hp'.congr id id)

theorem closeOwner_inv {owner : Owner} {ret : Ret} (h : Inv tr s)
    (hp : Holds tr s t (.closeOwner owner ret))
    (hs : s.section t ok (.closeOwner owner ret) = some (s', evs)) : Inv (tr ++ evs) s' := by
  have hp' : Holds tr s t (.takeOwner (if ok then ret else ret.closeErr)) := by
    cases t with
    | call n =>
      show Ret.Backed tr n _
      split
      · exact hp
      · cases ret <;> exact hp
    | _ =>
      obtain rfl : ret = .background := hp
      cases ok <;> rfl
  cases hs
  exact Inv.ret (h.congr rfl rfl rfl rfl rfl) (hp'.congr id id)

/-- A call moves on and lets nothing be seen. -/
theorem Inv.moves (h : Inv tr s) (hp : CallHolds tr s n pc) :
    Inv (tr ++ []) (s.goto (.call n) pc) := by
  rw [List.append_nil]
  exact h.goto hp

/-- `Accept` up to the bound session. -/
theorem prepare_inv (h : Inv tr s) (hn : .claimed n .pendingAccepted ∈ tr) (hb : s.sess = none)
    (hpc : pc = .acceptPrepare ∨ pc = .acceptCheck ∨ pc = .acceptPhase ∨ pc = .acceptBind)
    (hs : s.section (.call n) ok pc = some (s', evs)) : Inv (tr ++ evs) s' := by
  rcases hpc with rfl | rfl | rfl | rfl
  · simp only [State.section] at hs
    split_ifs at hs <;> cases hs
    · exact h.moves ⟨hn, hb⟩
    · exact h.moves hn
  · simp only [State.section] at hs
    split at hs <;> cases hs
    · exact h.moves hn
    · exact h.moves ⟨hn, hb⟩
  · cases hs
    exact Inv.moves (h.congr rfl rfl rfl rfl rfl) ⟨hn, hb⟩
  · simp only [State.section] at hs
    split at hs <;> cases hs
    · exact h.moves hn
    · rw [List.append_nil]
      exact h.setSess hn (.inl Dormant.start) hn

/-- `completeAuthDeadline`. -/
theorem complete_inv {k : Caller} {cause : Option Err} (h : Inv tr s)
    (hpc : pc = .stopAuth k ∨ pc = .readCause k ∨ pc = .cancelAuth k cause)
    (hp : Holds tr s (.call n) pc) (hs : s.section (.call n) ok pc = some (s', evs)) :
    Inv (tr ++ evs) s' := by
  rcases hpc with rfl | rfl | rfl
  · cases hs
    refine Inv.moves (h.congr rfl rfl rfl rfl rfl) ?_
    cases k <;> exact hp
  · cases hs
    have hc : Caused tr (.evaluated n k s.authErr) := by
      refine ⟨fun hk => ?_, h.running⟩
      subst hk
      exact hp
    refine (h.event rfl hc).goto ?_
    cases k with
    | accept => exact ⟨List.mem_append_left _ hp, List.mem_append_right _ List.mem_cons_self⟩
    | _ => trivial
  · cases hs
    refine (h.endAuth .canceled).goto ?_
    cases k with
    | accept =>
      obtain ⟨hn, he⟩ := hp
      cases cause with
      | some e => exact List.mem_append_left _ hn
      | none => exact ⟨List.mem_append_left _ hn, List.mem_append_left _ he⟩
    | reject err => trivial
    | close server => cases server <;> trivial

/-- `PendingServerAuth.Accept`. -/
theorem authAccept_inv (h : Inv tr s)
    (hpc : pc = .acceptDecide ∨ pc = .acceptSend ∨ pc = .acceptAdvance)
    (hp : Holds tr s (.call n) pc) (hs : s.section (.call n) ok pc = some (s', evs)) :
    Inv (tr ++ evs) s' := by
  rcases hpc with rfl | rfl | rfl
  · obtain ⟨hn, he⟩ := hp
    simp only [State.section] at hs
    split_ifs at hs with hd <;> cases hs
    · exact h.moves hn
    · exact h.decide.moves ⟨hn, he, rfl, h.unsent (Bool.eq_false_iff.mpr hd)⟩
  · obtain ⟨hn, he, hd, ha⟩ := hp
    have hn' : ∀ e, .claimed n .pendingAccepted ∈ tr ++ [e] := fun e => List.mem_append_left _ hn
    simp only [State.section] at hs
    split_ifs at hs <;> cases hs
    · exact h.answer hn ha hd rfl ⟨hn, he⟩ ⟨hn' _, List.mem_append_right _ List.mem_cons_self⟩
    · exact h.answer hn ha hd rfl ⟨hn, he⟩ (hn' _)
  · obtain ⟨hn, ho⟩ := hp
    simp only [State.section] at hs
    split_ifs at hs <;> cases hs
    · exact h.moves hn
    · exact Inv.moves (h.congr rfl rfl rfl rfl rfl) ⟨hn, ho⟩

/-- `Accept` from the activation on. -/
theorem activate_inv (h : Inv tr s)
    (hpc : pc = .acceptActivate ∨ pc = .acceptFinal ∨ pc = .acceptRelease ∨ pc = .acceptTransfer)
    (hp : Holds tr s (.call n) pc) (hs : s.section (.call n) ok pc = some (s', evs)) :
    Inv (tr ++ evs) s' := by
  rcases hpc with rfl | rfl | rfl | rfl
  · obtain ⟨hn, ho⟩ := hp
    simp only [State.section] at hs
    split at hs <;> cases hs
    rename_i hk _
    cases hk
    have hn' : .claimed n .pendingAccepted ∈ tr ++ [.activated n] := List.mem_append_left _ hn
    have hc : Caused tr (.activated n) := ho
    exact (h.event rfl hc).setSess hn' (.inr ⟨n, List.mem_append_right _ List.mem_cons_self⟩) hn'
  · simp only [State.section] at hs
    split at hs <;> cases hs <;> exact h.moves hp
  · cases hs
    exact Inv.moves (h.congr rfl rfl rfl rfl rfl) hp
  · cases hs
    exact Inv.ret (h.congr rfl rfl rfl rfl rfl) hp

/-- `PendingServerAuth.Reject`. -/
theorem authReject_inv (h : Inv tr s) (hpc : pc = .rejectDecide ∨ pc = .rejectSend)
    (hp : Holds tr s (.call n) pc) (hs : s.section (.call n) ok pc = some (s', evs)) :
    Inv (tr ++ evs) s' := by
  rcases hpc with rfl | rfl
  · simp only [State.section] at hs
    split_ifs at hs with hd <;> cases hs
    · exact h.moves trivial
    · exact h.decide.moves ⟨hp, rfl, h.unsent (Bool.eq_false_iff.mpr hd)⟩
  · obtain ⟨hn, hd, ha⟩ := hp
    simp only [State.section] at hs
    split_ifs at hs <;> cases hs <;> exact h.answer hn ha hd rfl hn trivial

/-- **One section** of a goroutine. -/
theorem section_inv (h : Inv tr s) (hp : Holds tr s t pc)
    (hs : s.section t ok pc = some (s', evs)) : Inv (tr ++ evs) s' := by
  cases pc with
  | idle | done => cases hs
  | fail cause ret => exact fail_inv h hp hs
  | failCancel cause ret => exact failCancel_inv h hp hs
  | takeOwner ret => exact takeOwner_inv h hp hs
  | closeOwner owner ret => exact closeOwner_inv h hp hs
  | acceptPrepare | acceptCheck | acceptPhase | acceptBind =>
    cases t with
    | call n => exact prepare_inv h hp.1 hp.2 (by simp) hs
    | _ => exact hp.elim
  | acceptOwner =>
    cases t with
    | call n =>
      cases hs
      exact Inv.moves (h.congr rfl rfl rfl rfl rfl) hp
    | _ => exact hp.elim
  | stopAuth k | readCause k =>
    cases t with
    | call n => exact @complete_inv _ _ _ _ _ _ _ k none h (by simp) hp hs
    | _ => exact hp.elim
  | cancelAuth k cause =>
    cases t with
    | call n => exact complete_inv h (.inr (.inr rfl)) hp hs
    | _ => exact hp.elim
  | acceptDecide | acceptSend | acceptAdvance =>
    cases t with
    | call n => exact authAccept_inv h (by simp) hp hs
    | _ => exact hp.elim
  | acceptActivate | acceptFinal | acceptRelease | acceptTransfer =>
    cases t with
    | call n => exact activate_inv h (by simp) hp hs
    | _ => exact hp.elim
  | rejectDecide | rejectSend =>
    cases t with
    | call n => exact authReject_inv h (by simp) hp hs
    | _ => exact hp.elim

end Sections

/-! ## 5. One step, every run -/

section Runs

variable {cfg : Mux.Config} {tr evs : List Event} {s s' : State} {a : Act} {n : Nat}
  {d : PendingState} {pc : Pc} {ret : Ret}

/-- `claim`. -/
theorem claim_inv (h : Inv tr s) (hd : d ≠ .pendingUndecided)
    (hp : s.state = .pendingUndecided → Holds (tr ++ [.claimed n d]) s (.call n) pc)
    (hr : ∀ err, ret = .accept err → err = some .decisionMade) :
    Inv (tr ++ (s.claim n d pc ret).2) (s.claim n d pc ret).1 := by
  unfold State.claim
  split
  · exact h.returned ret hr
  · rename_i hu
    have hu := not_ne_iff.mp hu
    exact h.claim hu hd (hp hu)

/-- The first section of `Close`. -/
theorem closeCall_inv (h : Inv tr s) : Inv (tr ++ (s.closeCall n).2) (s.closeCall n).1 := by
  unfold State.closeCall
  split_ifs with _ hu
  · exact h.returned _ fun _ he => nomatch he
  · exact h.claim hu (fun he => nomatch he) trivial
  · exact h.moves trivial

/-- What an activated session shows. -/
theorem Inv.sessionEvents {mevs : List Mux.Event} (h : Inv tr s) (hact : ∃ n, .activated n ∈ tr) :
    Inv (tr ++ mevs.map .session) s := by
  induction mevs generalizing tr with
  | nil => simpa using h
  | cons e mevs ih =>
    have hc : Caused tr (.session e) := hact
    rw [List.map_cons, List.append_cons]
    exact ih (h.event rfl hc) (hact.imp fun _ hn => List.mem_append_left _ hn)

/-- The session is dormant and shows nothing, or it has been activated. -/
theorem session_inv {a : Mux.Act} (h : Inv tr s) (hs : s.sessionStep cfg a = some (s', evs)) :
    Inv (tr ++ evs) s' := by
  unfold State.sessionStep at hs
  split at hs
  · cases hs
  rename_i m hm
  split_ifs at hs with hc
  obtain ⟨⟨m', mevs⟩, hstep, heq⟩ := Option.map_eq_some_iff.mp hs
  cases heq
  have hevs : Inv (tr ++ mevs.map .session) s ∧ (Dormant m' ∨ ∃ n, .activated n ∈ tr) := by
    rcases h.dormant m hm with hd | hact
    · obtain ⟨hd', rfl⟩ := hd.step hc hstep
      exact ⟨by simpa using h, .inl hd'⟩
    · exact ⟨h.sessionEvents hact, .inr hact⟩
  obtain ⟨h', hd'⟩ := hevs
  have hbound : s.sess ≠ none := fun hnone => nomatch hm.symm.trans hnone
  exact {
    h' with
    unbound := fun hu => hbound.elim (h.unbound hu)
    dormant := fun _ he => by
      cases he
      exact hd'.imp_right fun ⟨n, hn⟩ => ⟨n, List.mem_append_left _ hn⟩
    places := fun u => (h'.places u).congr hbound.elim id }

theorem Inv.of_eq {r : State × List Event} (h : Inv (tr ++ r.2) r.1) (hr : r = (s', evs)) :
    Inv (tr ++ evs) s' := by
  subst hr
  exact h

theorem step_inv (h : Inv tr s) (hs : s.step cfg a = some (s', evs)) : Inv (tr ++ evs) s' := by
  cases a with
  | accept n own =>
    simp only [State.step] at hs
    split_ifs at hs
    all_goals
      refine Inv.of_eq ?_ (Option.some.inj hs)
      refine claim_inv h (fun he => nomatch he) (fun hu => ?_) fun err he => ?_
      · exact ⟨List.mem_append_right _ List.mem_cons_self, h.unbound hu⟩
      · cases he
        rfl
  | reject n =>
    simp only [State.step] at hs
    split_ifs at hs
    refine Inv.of_eq ?_ (Option.some.inj hs)
    exact claim_inv h (fun he => nomatch he)
      (fun _ => List.mem_append_right _ List.mem_cons_self) fun _ he => nomatch he
  | close n =>
    simp only [State.step] at hs
    split_ifs at hs
    exact (closeCall_inv h).of_eq (Option.some.inj hs)
  | next t ok => exact section_inv h (h.places t) hs
  | expire => exact (h.endAuth _).of_eq (Option.some.inj hs)
  | parentCancel n =>
    cases hs
    rw [List.append_nil]
    exact h.congr rfl rfl rfl rfl rfl
  | propagate =>
    obtain ⟨e, -, heq⟩ := Option.map_eq_some_iff.mp hs
    exact (h.endAuth e).of_eq heq
  | fire =>
    simp only [State.step] at hs
    split at hs <;> cases hs
    rw [List.append_nil]
    exact Inv.goto (h.congr rfl rfl rfl rfl rfl) rfl
  | ring =>
    simp only [State.step] at hs
    split_ifs at hs
    cases hs
    rw [List.append_nil]
    exact h.goto rfl
  | watch =>
    simp only [State.step] at hs
    split_ifs at hs
    cases hs
    rw [List.append_nil]
    exact h.goto rfl
  | session a => exact session_inv h hs

theorem inv_run (h : (pending cfg).Run (fun _ _ => True) tr s) : Inv tr s :=
  h.invariant Inv.start fun _ hi _ hs => step_inv hi hs

/-- An `OK` is the answer of the one call that claimed the decision, and that call found the
    deadline's context alive after its claim. -/
theorem Inv.sentOK (h : Inv tr s) {pre post : List Event} {ok : Bool}
    (htr : tr = pre ++ .sentOK n ok :: post) :
    claims tr = [(n, .pendingAccepted)] ∧
      ∃ before after, pre = before ++ .evaluated n .accept none :: after ∧
        .claimed n .pendingAccepted ∈ before ∧ ∀ e, .ended e ∉ before := by
  obtain ⟨hn, he⟩ := h.explained pre _ post htr
  obtain ⟨before, after, rfl⟩ := List.append_of_mem he
  have hmem : .claimed n .pendingAccepted ∈ tr := htr ▸ List.mem_append_left _ hn
  obtain ⟨hclaim, halive⟩ := h.explained before (.evaluated n .accept none)
    (after ++ .sentOK n ok :: post) (by simpa using htr)
  exact ⟨(h.claimed.unique hmem).2, before, after, rfl, hclaim rfl, halive rfl⟩

/-- **One decision, and no session before it succeeds.** In every interleaving of any calls of
    `Accept`, `Reject` and `Close` with the deadline, the parent's context and the bound session:

    * at most one answer is sent, counting those whose sending fails;
    * an `OK` is sent by the call whose `Accept` made the only claim, after its
      `completeAuthDeadline` found a context that had not ended;
    * the session is activated after the `OK` was written; until then nothing is seen of it, and its
      goroutines have not come to read, write or call a handler;
    * once `Reject` or `Close` has claimed, no `OK` is sent, and an `Accept` only returns
      `ErrDecisionMade`, which a new one does at once. -/
theorem one_decision (h : (pending cfg).Run (fun _ _ => True) tr s) :
    (answers tr).length ≤ 1 ∧
    (∀ pre n ok post, tr = pre ++ .sentOK n ok :: post →
      claims tr = [(n, .pendingAccepted)] ∧
        ∃ before after, pre = before ++ .evaluated n .accept none :: after ∧
          .claimed n .pendingAccepted ∈ before ∧ ∀ e, .ended e ∉ before) ∧
    (∀ pre n post, tr = pre ++ .activated n :: post → .sentOK n true ∈ pre) ∧
    (∀ pre e post, tr = pre ++ .session e :: post → ∃ n, .activated n ∈ pre) ∧
    (∀ m, s.sess = some m → (∀ n, .activated n ∉ tr) → Dormant m) ∧
    (∀ k d, .claimed k d ∈ tr → d ≠ .pendingAccepted →
      (∀ n ok, .sentOK n ok ∉ tr) ∧
      (∀ n err, .returned n (.accept err) ∈ tr → err = some .decisionMade) ∧
      ∀ n own, s.pc (.call n) = .idle → s.step cfg (.accept n own) =
        some (s.goto (.call n) .done, [.returned n (.accept (some .decisionMade))])) := by
  have hi := inv_run h
  refine ⟨hi.once, fun pre n ok post => hi.sentOK, fun pre n post => hi.explained pre _ post,
    fun pre e post => hi.explained pre _ post, fun m hm hnone => ?_, fun k d hk hd => ?_⟩
  · exact (hi.dormant m hm).resolve_right fun ⟨n, hn⟩ => hnone n hn
  -- the claim is the only one, so no call has claimed the acceptance
  have honly : ∀ n, .claimed n .pendingAccepted ∉ tr := fun n hn =>
    hd ((hi.claimed.unique hk).1.trans (hi.claimed.unique hn).1.symm)
  refine ⟨fun n ok hmem => ?_, fun n err hmem => ?_, fun n own hidle => ?_⟩
  · obtain ⟨pre, post, rfl, hn, -⟩ := hi.explained.of_mem hmem
    exact honly n (List.mem_append_left _ hn)
  · obtain ⟨pre, post, rfl, hc⟩ := hi.explained.of_mem hmem
    exact hc.resolve_right fun hn => honly n (List.mem_append_left _ hn)
  · simp only [State.step, State.claim, hidle, hi.claimed.decided hk, ne_eq, not_true_eq_false,
      not_false_eq_true, if_true, if_false]

/-- Small windows and queues. -/
def tight : Mux.Config := ⟨4, 4, 4, 1, 1, ⟨8, 8, 8, 8, 8, 8, 64, 1024, 4096, 64, 64, 64, 64⟩⟩

/-- A run in which an `Accept` succeeds and the session reads a frame, and one in which an `Accept`
    comes after a `Reject`. -/
theorem one_decision_accepted :
    (∃ tr s, (pending tight).Run (fun _ _ => True) tr s ∧ claims tr = [(0, .pendingAccepted)] ∧
      .sentOK 0 true ∈ tr ∧ .session (.received (.channelData 0 [7])) ∈ tr) ∧
    ∃ tr s, (pending tight).Run (fun _ _ => True) tr s ∧ .sentReject 1 true ∈ tr ∧
      (∃ err, .returned 0 (.accept err) ∈ tr) ∧
      ∀ err, .returned 0 (.accept err) ∈ tr → err = some .decisionMade := by
  constructor
  · obtain ⟨tr, s, h, hok, hread⟩ := Lts.exists_run_of_replay (L := pending tight)
      (C := fun _ _ => True) (P := fun tr _ => .sentOK 0 true ∈ tr ∧
        .session (.received (.channelData 0 [7])) ∈ tr)
      (.accept 0 false :: List.replicate 15 (.next (.call 0) true) ++
        ([.session ⟨.receiver, .go⟩, .session ⟨.receiver, .frame (.channelData 0 [7])⟩] : List Act))
      (by decide +kernel)
    obtain ⟨pre, post, htr⟩ := List.append_of_mem hok
    exact ⟨tr, s, h, ((one_decision h).2.1 pre 0 true post htr).1, hok, hread⟩
  · obtain ⟨tr, s, h, hclaim, hsent, hret⟩ := Lts.exists_run_of_replay (L := pending tight)
      (C := fun _ _ => True)
      (P := fun tr _ => .claimed 1 .pendingRejected ∈ tr ∧ .sentReject 1 true ∈ tr ∧
        .returned 0 (.accept (some .decisionMade)) ∈ tr)
      (([.reject 1, .accept 0 true] : List Act) ++ List.replicate 8 (.next (.call 1) true))
      (by decide +kernel)
    obtain ⟨-, hfails, -⟩ := (one_decision h).2.2.2.2.2 1 .pendingRejected hclaim (by decide)
    exact ⟨tr, s, h, hsent, ⟨_, hret⟩, hfails 0⟩

end Runs

end Mygosh.Establish

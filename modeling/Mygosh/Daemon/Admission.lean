/-
  File:      Mygosh/Daemon/Admission.lean
  Subject:   The limits on connections: `connectionAdmission` and its use by `runDaemon`
             (`app/server/daemon.go`).

  The methods hold the lock from the first line to the last, so that a history of calls is a sequence.
  `runDaemon` makes them from the accept loop and from any number of handler goroutines. A handler may
  return or panic, whenever it likes; the deferred calls come after it, one after the other. `snapshot`
  only feeds the log and is left out, with the connections' ids.
-/
import Mygosh.Config.Server
import Mygosh.Counts
import Mygosh.Lts

namespace Mygosh.Admission

open Config (ServerDaemon Library)

/-! ## 1. `connectionAdmission` -/

structure ConnectionAdmission where
  maxTotal : Int
  maxPerIP : Int
  total : Int
  perIP : CountMap String

def newConnectionAdmission (maxTotal maxPerIP : Int) : ConnectionAdmission :=
  ⟨maxTotal, maxPerIP, 0, ∅⟩

def ConnectionAdmission.acquire (a : ConnectionAdmission) (source : String) :
    Bool × ConnectionAdmission :=
  if a.total ≥ a.maxTotal ∨ a.perIP.get source ≥ a.maxPerIP then (false, a)
  else
    (true, { a with total := a.total + 1, perIP := a.perIP.insert source (a.perIP.get source + 1) })

def ConnectionAdmission.release (a : ConnectionAdmission) (source : String) : ConnectionAdmission :=
  { a with
    total := if a.total > 0 then a.total - 1 else a.total
    perIP := if a.perIP.get source ≤ 1 then a.perIP.erase source
      else a.perIP.insert source (a.perIP.get source - 1) }

/-! ## 2. Histories of calls -/

inductive Call where
  | acquire (source : String)
  | release (source : String)
  deriving DecidableEq, Repr

/-- What a call was and, for `acquire`, what it returned. -/
inductive Event where
  | acquired (source : String)
  | refused (source : String)
  | released (source : String)
  deriving DecidableEq, Repr

def ConnectionAdmission.call (a : ConnectionAdmission) : Call → ConnectionAdmission × Event
  | .acquire source =>
    ((a.acquire source).2, if (a.acquire source).1 then .acquired source else .refused source)
  | .release source => (a.release source, .released source)

/-- Calls in any order. -/
def admission (maxTotal maxPerIP : Int) : Lts ConnectionAdmission Call Event :=
  ⟨newConnectionAdmission maxTotal maxPerIP, fun a c => some ((a.call c).1, [(a.call c).2])⟩

/-- What is held after a call. -/
def hold (bag : Multiset String) : Event → Multiset String
  | .acquired source => source ::ₘ bag
  | .refused _ => bag
  | .released source => bag.erase source

/-- The sources of the successful calls of `acquire` that have not been released. -/
def outstanding (tr : List Event) : Multiset String := tr.foldl hold 0

/-- A release has an acquisition of its source before it that has not been released. -/
def Matches (pre : List Event) (e : Event) : Prop :=
  ∀ source, e = .released source → source ∈ outstanding pre

theorem outstanding_concat (tr : List Event) (e : Event) :
    outstanding (tr ++ [e]) = hold (outstanding tr) e := List.foldl_concat hold 0 e tr

/-! ## 3. The two counters -/

/-- The record counts what is held, within its limits. -/
structure Accounted (a : ConnectionAdmission) (bag : Multiset String) : Prop where
  total : a.total = bag.card
  counts : Counts a.perIP bag
  totalLimit : a.total ≤ a.maxTotal
  perIPLimit : ∀ source, a.perIP.get source ≤ a.maxPerIP

section Accounted

variable {a : ConnectionAdmission} {bag : Multiset String} {source : String}

theorem acquire_eq_false : (a.acquire source).1 = false ↔
    a.maxTotal ≤ a.total ∨ a.maxPerIP ≤ a.perIP.get source := by
  unfold ConnectionAdmission.acquire
  split_ifs with h
  · exact iff_of_true rfl h
  · exact iff_of_false (by decide) h

theorem acquire_refused (h : (a.acquire source).1 = false) : (a.acquire source).2 = a := by
  unfold ConnectionAdmission.acquire at h ⊢
  split_ifs at h ⊢
  rfl

theorem Accounted.acquired (h : Accounted a bag) (hok : (a.acquire source).1 = true) :
    Accounted (a.acquire source).2 (source ::ₘ bag) := by
  have hroom : ¬(a.maxTotal ≤ a.total ∨ a.maxPerIP ≤ a.perIP.get source) := fun hfull =>
    nomatch hok.symm.trans (acquire_eq_false.mpr hfull)
  have hnext : (a.acquire source).2 =
      { a with total := a.total + 1, perIP := a.perIP.insert source (a.perIP.get source + 1) } := by
    unfold ConnectionAdmission.acquire
    rw [if_neg hroom]
  rw [not_or, not_le, not_le] at hroom
  rw [hnext]
  have hadd := h.counts.add source
  refine ⟨?_, hadd, by dsimp only; omega, fun s => ?_⟩
  · rw [Multiset.card_cons, h.total]
    rfl
  · have hs := h.perIPLimit s
    rw [h.counts.get_eq] at hroom hs
    dsimp only
    rw [hadd.get_eq]
    by_cases heq : s = source
    · subst heq
      rw [Multiset.count_cons_self]
      omega
    · rwa [Multiset.count_cons_of_ne heq]

theorem Accounted.released (h : Accounted a bag) (hmem : source ∈ bag) :
    Accounted (a.release source) (bag.erase source) := by
  have hpos : 0 < bag.card := Multiset.card_pos_iff_exists_mem.mpr ⟨source, hmem⟩
  have htotal := h.total
  have hlimit := h.totalLimit
  have hcard : (bag.erase source).card = bag.card - 1 := Multiset.card_erase_of_mem hmem
  have hcounts := h.counts.remove hmem
  have hdown : (a.release source).total = a.total - 1 := if_pos (by omega)
  refine ⟨by omega, hcounts, ?_, fun s => ?_⟩
  · rw [hdown]
    exact (Int.sub_le_self _ (by decide)).trans hlimit
  · have hs := h.perIPLimit s
    rw [h.counts.get_eq] at hs
    have hle : (bag.erase source).count s ≤ bag.count s :=
      Multiset.count_le_of_le s (Multiset.erase_le source bag)
    calc (a.release source).perIP.get s = (bag.erase source).count s := hcounts.get_eq s
      _ ≤ bag.count s := Int.ofNat_le.mpr hle
      _ ≤ a.maxPerIP := hs

theorem Accounted.call {c : Call} (h : Accounted a bag)
    (hc : ∀ s, (a.call c).2 = .released s → s ∈ bag) :
    Accounted (a.call c).1 (hold bag (a.call c).2) := by
  cases c with
  | acquire source =>
    cases hok : (a.acquire source).1 with
    | true =>
      have := h.acquired hok
      simpa only [ConnectionAdmission.call, hok, if_true, hold] using this
    | false =>
      have hsame := acquire_refused hok
      simpa only [ConnectionAdmission.call, hok, Bool.false_eq_true, if_false, hold, hsame] using h
  | release source => exact h.released (hc source rfl)

end Accounted

/-- **Every history of matched calls is accounted for.** -/
theorem accounted_of_run {maxTotal maxPerIP : Int} {tr : List Event} {a : ConnectionAdmission}
    (ht : 0 ≤ maxTotal) (hp : 0 ≤ maxPerIP)
    (h : (admission maxTotal maxPerIP).Run (fun _ _ => True) tr a)
    (hm : Lts.Explained Matches tr) :
    Accounted a (outstanding tr) ∧ a.maxTotal = maxTotal ∧ a.maxPerIP = maxPerIP := by
  refine h.invariant (I := fun tr a => Lts.Explained Matches tr →
    Accounted a (outstanding tr) ∧ a.maxTotal = maxTotal ∧ a.maxPerIP = maxPerIP) ?_ ?_ hm
  · exact fun _ => ⟨⟨rfl, .empty, ht, fun _ => hp⟩, rfl, rfl⟩
  · intro tr evs a a' c _ ih _ hs hm
    obtain ⟨hacc, htotal, hper⟩ := ih hm.left
    cases hs
    have hlimits : (a.call c).1.maxTotal = a.maxTotal ∧ (a.call c).1.maxPerIP = a.maxPerIP := by
      cases c with
      | acquire source =>
        simp only [ConnectionAdmission.call, ConnectionAdmission.acquire]
        split_ifs <;> exact ⟨rfl, rfl⟩
      | release source => exact ⟨rfl, rfl⟩
    rw [outstanding_concat]
    exact ⟨hacc.call (hm tr _ [] rfl), hlimits.1.trans htotal, hlimits.2.trans hper⟩

/-! ## 4. `runDaemon` -/

/-- Where a handler goroutine is: in `handle`, and then in its deferred calls. -/
inductive HandlerPc where
  | handling
  | recovering (panicked : Bool)
  | releasing
  | closing
  | finishing
  | done
  deriving DecidableEq, Repr

structure Handler where
  source : String
  pc : HandlerPc
  deriving DecidableEq, Repr

/-- The errors of `runDaemon`: "accept connection" around the listener's, and
    "server shutdown exceeded" with the timeout. -/
inductive DaemonErr where
  | acceptConnection
  | shutdownExceeded (timeout : Int)
  deriving DecidableEq, Repr

/-- Where the accept loop is. -/
inductive MainPc where
  | accept
  | delay
  | acquire (source : String)
  | rejected
  | admitted (source : String)
  | shutdown
  | returned (err : Option DaemonErr)
  deriving DecidableEq, Repr

structure Daemon where
  admission : ConnectionAdmission
  ctxDone : Bool
  /-- in milliseconds -/
  temporaryDelay : Nat
  main : MainPc
  handlers : List Handler

def Daemon.start (cfg : ServerDaemon) : Daemon :=
  ⟨newConnectionAdmission cfg.maxConnections cfg.maxConnectionsPerIP, false, 0, .accept, []⟩

/-- What a step leaves open: what `Accept` and `handle` do, and which branch of a `select` is taken. -/
inductive Act where
  | cancel
  | accepted (source : String)
  | acceptErr (temporary : Bool)
  | main
  | timer
  | ctxDone
  | returns (i : Nat)
  | panics (i : Nat)
  | deferred (i : Nat)
  deriving DecidableEq, Repr

/-- The delay after the next temporary failure. -/
def nextDelay (delay : Nat) : Nat := min (if delay = 0 then 5 else delay * 2) 1000

/-- The accept loop from `acquire` on, and the end of the wait group. -/
def Daemon.mainSection (d : Daemon) : Option (Daemon × List Event) :=
  match d.main with
  | .acquire source =>
    if (d.admission.acquire source).1 then
      some ({ d with admission := (d.admission.acquire source).2, main := .admitted source },
        [.acquired source])
    else
      some ({ d with admission := (d.admission.acquire source).2, main := .rejected },
        [.refused source])
  | .rejected => some ({ d with main := .accept }, [])
  | .admitted source =>
    some ({ d with main := .accept, handlers := d.handlers ++ [⟨source, .handling⟩] }, [])
  | .shutdown =>
    if d.handlers.all (·.pc = .done) then some ({ d with main := .returned none }, []) else none
  | _ => none

/-- A handler goroutine: `handle`, the recovery, the release, `conn.Close`, `connections.Done`. -/
def handlerSection (a : ConnectionAdmission) (h : Handler) (panics : Bool) :
    Option (ConnectionAdmission × Handler × List Event) :=
  match h.pc with
  | .handling => some (a, { h with pc := .recovering panics }, [])
  | .recovering _ => some (a, { h with pc := .releasing }, [])
  | .releasing => some (a.release h.source, { h with pc := .closing }, [.released h.source])
  | .closing => some (a, { h with pc := .finishing }, [])
  | .finishing => some (a, { h with pc := .done }, [])
  | .done => none

/-- A section of the handler `i`, in `handle` or behind it. -/
def Daemon.handler (d : Daemon) (i : Nat) (inside panics : Bool) : Option (Daemon × List Event) :=
  match d.handlers[i]? with
  | none => none
  | some h =>
    if decide (h.pc = .handling) = inside then
      (handlerSection d.admission h panics).map fun r =>
        ({ d with admission := r.1, handlers := d.handlers.set i r.2.1 }, r.2.2)
    else none

def Daemon.step (cfg : ServerDaemon) (d : Daemon) : Act → Option (Daemon × List Event)
  | .cancel => some ({ d with ctxDone := true }, [])
  | .accepted source =>
    if d.main = .accept then some ({ d with main := .acquire source, temporaryDelay := 0 }, [])
    else none
  | .acceptErr temporary =>
    if d.main = .accept then
      if d.ctxDone then some ({ d with main := .shutdown }, [])
      else if temporary then
        some ({ d with main := .delay, temporaryDelay := nextDelay d.temporaryDelay }, [])
      else some ({ d with main := .returned (some .acceptConnection) }, [])
    else none
  | .main => d.mainSection
  | .timer =>
    match d.main with
    | .delay => some ({ d with main := .accept }, [])
    | .shutdown =>
      some ({ d with main := .returned (some (.shutdownExceeded cfg.shutdownTimeout)) }, [])
    | _ => none
  | .ctxDone =>
    if d.main = .delay ∧ d.ctxDone = true then some ({ d with main := .accept }, []) else none
  | .returns i => d.handler i true false
  | .panics i => d.handler i true true
  | .deferred i => d.handler i false false

def runDaemon (cfg : ServerDaemon) : Lts Daemon Act Event := ⟨.start cfg, Daemon.step cfg⟩

/-! ## 5. What the goroutines hold -/

/-- From the spawn to the deferred release. -/
def Handler.holds (h : Handler) : Option String :=
  match h.pc with
  | .handling | .recovering _ | .releasing => some h.source
  | _ => none

/-- From `acquire` to the spawn. -/
def MainPc.holds : MainPc → Option String
  | .admitted source => some source
  | _ => none

def Daemon.holding (d : Daemon) : Multiset String :=
  (d.main.holds.toList : Multiset String) + (d.handlers.filterMap Handler.holds : Multiset String)

/-- What a step does to the record: nothing, or one call, which changes what is held as it should. -/
inductive StepEffect (d : Daemon) : Daemon → List Event → Prop where
  | silent {d' : Daemon} (ha : d'.admission = d.admission) (hh : d'.holding = d.holding) :
      StepEffect d d' []
  | calls {d' : Daemon} (c : Call) (ha : d'.admission = (d.admission.call c).1)
      (hh : d'.holding = hold d.holding (d.admission.call c).2)
      (hm : ∀ s, c = .release s → s ∈ d.holding) : StepEffect d d' [(d.admission.call c).2]

section Steps

variable {cfg : ServerDaemon} {d d' : Daemon} {evs : List Event} {i : Nat} {h h' : Handler}

/-- The accept loop moves between places where it holds nothing. -/
theorem StepEffect.move {d : Daemon} {pc : MainPc} {ctxDone : Bool} {delay : Nat}
    (hpc : pc.holds = d.main.holds) :
    StepEffect d { d with main := pc, ctxDone := ctxDone, temporaryDelay := delay } [] :=
  .silent rfl (by simp only [Daemon.holding, hpc])

theorem mainSection_effect (hs : d.mainSection = some (d', evs)) : StepEffect d d' evs := by
  unfold Daemon.mainSection at hs
  split at hs
  · rename_i source hmain
    split_ifs at hs with hok
    · cases hs
      have he : (d.admission.call (.acquire source)).2 = .acquired source := if_pos hok
      rw [← he]
      refine .calls (.acquire source) rfl ?_ (fun _ h => nomatch h)
      rw [he]
      simp [Daemon.holding, hmain, MainPc.holds, hold]
    · cases hs
      have he : (d.admission.call (.acquire source)).2 = .refused source := if_neg hok
      rw [← he]
      refine .calls (.acquire source) rfl ?_ (fun _ h => nomatch h)
      rw [he]
      simp [Daemon.holding, hmain, MainPc.holds, hold]
  · rename_i hmain
    cases hs
    exact .move (by rw [hmain]; rfl)
  · rename_i source hmain
    cases hs
    -- the new handler takes over what the loop has acquired
    have hnew : List.filterMap Handler.holds (d.handlers ++ [⟨source, .handling⟩]) =
        d.handlers.filterMap Handler.holds ++ [source] := List.filterMap_append
    refine .silent rfl ?_
    simp only [Daemon.holding, hmain, MainPc.holds, hnew, Option.toList_none, Option.toList_some,
      Multiset.coe_nil, zero_add]
    rw [← Multiset.coe_add, add_comm]
  · rename_i hmain
    split_ifs at hs
    cases hs
    exact .move (by rw [hmain]; rfl)
  · cases hs

theorem filterMap_cons_holds (h : Handler) (hs : List Handler) :
    ((h :: hs).filterMap Handler.holds : Multiset String) =
      h.holds.toList + hs.filterMap Handler.holds := by
  rw [List.filterMap_cons]
  cases h.holds <;> rfl

/-- What the handler `i` holds beside the rest, and what another one in its place would. -/
theorem holding_split (hi : d.handlers[i]? = some h) (h' : Handler) :
    ∃ rest : Multiset String, d.holding = h.holds.toList + rest ∧
      ∀ a, ({ d with admission := a, handlers := d.handlers.set i h' } : Daemon).holding =
        h'.holds.toList + rest := by
  obtain ⟨hlt, rfl⟩ := List.getElem?_eq_some_iff.mp hi
  have hold := (List.getElem_cons_eraseIdx_perm hlt).filterMap Handler.holds
  have hnew := (List.set_perm_cons_eraseIdx hlt h').filterMap Handler.holds
  refine ⟨d.main.holds.toList + (d.handlers.eraseIdx i).filterMap Handler.holds, ?_, fun a => ?_⟩
  · rw [Daemon.holding, ← Multiset.coe_eq_coe.mpr hold, filterMap_cons_holds, add_left_comm]
  · rw [Daemon.holding, Multiset.coe_eq_coe.mpr hnew, filterMap_cons_holds, add_left_comm]

theorem handler_effect {inside panics : Bool} (hs : d.handler i inside panics = some (d', evs)) :
    StepEffect d d' evs := by
  unfold Daemon.handler at hs
  split at hs
  · cases hs
  rename_i h hi
  split_ifs at hs
  obtain ⟨⟨a, h', es⟩, hsec, heq⟩ := Option.map_eq_some_iff.mp hs
  cases heq
  obtain ⟨rest, hbefore, hafter⟩ := holding_split hi h'
  -- where the handler holds what it held, nothing has changed
  have hsilent : a = d.admission → h'.holds = h.holds → es = [] →
      StepEffect d { d with admission := a, handlers := d.handlers.set i h' } es := by
    rintro rfl hholds rfl
    exact .silent rfl (by rw [hafter, hbefore, hholds])
  unfold handlerSection at hsec
  split at hsec
  case h_3 hpc =>
    cases hsec
    have hholds : h.holds = some h.source := by simp only [Handler.holds, hpc]
    rw [hholds] at hbefore
    refine .calls (.release h.source) rfl ?_ fun s hs => ?_
    · rw [hafter, hbefore]
      simp [hold, Handler.holds, ConnectionAdmission.call]
    · cases hs
      rw [hbefore]
      simp
  case h_6 => cases hsec
  all_goals
    rename_i hpc
    cases hsec
    exact hsilent rfl (by simp only [Handler.holds, hpc]) rfl

theorem step_effect {a : Act} (hs : d.step cfg a = some (d', evs)) : StepEffect d d' evs := by
  cases a with
  | cancel =>
    cases hs
    exact .silent rfl rfl
  | accepted source =>
    simp only [Daemon.step] at hs
    split_ifs at hs with hmain
    cases hs
    exact .move (by rw [hmain]; rfl)
  | acceptErr temporary =>
    simp only [Daemon.step] at hs
    split_ifs at hs with hmain
    all_goals
      cases hs
      exact .move (by rw [hmain]; rfl)
  | main => exact mainSection_effect hs
  | timer =>
    simp only [Daemon.step] at hs
    split at hs
    · rename_i hmain
      cases hs
      exact .move (by rw [hmain]; rfl)
    · rename_i hmain
      cases hs
      exact .move (by rw [hmain]; rfl)
    · cases hs
  | ctxDone =>
    simp only [Daemon.step] at hs
    split_ifs at hs with hmain
    cases hs
    exact .move (by rw [hmain.1]; rfl)
  | returns i => exact handler_effect hs
  | panics i => exact handler_effect hs
  | deferred i => exact handler_effect hs

end Steps

/-! ## 6. Every run -/

/-- A run of the daemon is a history of matched calls, and what is outstanding is what its goroutines
    hold. -/
structure Served (cfg : ServerDaemon) (tr : List Event) (d : Daemon) : Prop where
  history : (admission cfg.maxConnections cfg.maxConnectionsPerIP).Run (fun _ _ => True) tr d.admission
  matched : Lts.Explained Matches tr
  holding : outstanding tr = d.holding

theorem Served.step {cfg : ServerDaemon} {tr evs : List Event} {d d' : Daemon} (h : Served cfg tr d)
    (he : StepEffect d d' evs) : Served cfg (tr ++ evs) d' := by
  cases he with
  | silent ha hh =>
    rw [List.append_nil]
    exact ⟨ha ▸ h.history, h.matched, h.holding.trans hh.symm⟩
  | calls c ha hh hm =>
    refine ⟨?_, h.matched.concat fun s hs => ?_, ?_⟩
    · rw [ha]
      exact .step h.history trivial rfl
    · cases c with
      | acquire source =>
        simp only [ConnectionAdmission.call] at hs
        split_ifs at hs
      | release source =>
        cases hs
        rw [h.holding]
        exact hm s rfl
    · rw [outstanding_concat, h.holding, hh]

theorem served_of_run {cfg : ServerDaemon} {tr : List Event} {d : Daemon}
    (h : (runDaemon cfg).Run (fun _ _ => True) tr d) : Served cfg tr d :=
  h.invariant ⟨.start, .nil, rfl⟩ fun _ hserved _ hs => hserved.step (step_effect hs)

/-- **Admission accounting.** After every history of matched calls `total` is the sum of `perIP` and
    the number of outstanding acquisitions, within the limits, `perIP` has an entry for exactly the
    sources that hold one, and `acquire` fails, changing nothing, if and only if a limit is reached.
    The calls of every run of `runDaemon` are matched, handlers that panic included. -/
theorem admission_accounting :
    (∀ maxTotal maxPerIP : Int, 0 ≤ maxTotal → 0 ≤ maxPerIP → ∀ tr a,
      (admission maxTotal maxPerIP).Run (fun _ _ => True) tr a → Lts.Explained Matches tr →
        a.total = a.perIP.sum ∧ a.total = (outstanding tr).card ∧ a.total ≤ maxTotal ∧
        (∀ s, a.perIP.get s = (outstanding tr).count s ∧ a.perIP.get s ≤ maxPerIP ∧
          (s ∈ a.perIP ↔ s ∈ outstanding tr)) ∧
        ∀ s, ((a.acquire s).1 = false → (a.acquire s).2 = a) ∧
          ((a.acquire s).1 = false ↔
            maxTotal ≤ (outstanding tr).card ∨ maxPerIP ≤ (outstanding tr).count s)) ∧
    ∀ (lib : Library) (cfg : Config.Server), cfg.validate lib = .ok () →
      0 ≤ cfg.daemon.maxConnections ∧ 0 ≤ cfg.daemon.maxConnectionsPerIP ∧
      ∀ tr d, (runDaemon cfg.daemon).Run (fun _ _ => True) tr d →
        (admission cfg.daemon.maxConnections cfg.daemon.maxConnectionsPerIP).Run (fun _ _ => True) tr
          d.admission ∧ Lts.Explained Matches tr ∧ outstanding tr = d.holding := by
  constructor
  · intro maxTotal maxPerIP ht hp tr a h hm
    obtain ⟨hacc, rfl, rfl⟩ := accounted_of_run ht hp h hm
    refine ⟨?_, hacc.total, hacc.totalLimit, fun s => ?_, fun s => ⟨acquire_refused, ?_⟩⟩
    · rw [hacc.counts.sum_eq, hacc.total]
    · exact ⟨hacc.counts.get_eq s, hacc.perIPLimit s, hacc.counts.mem_iff s⟩
    · rw [acquire_eq_false, hacc.total, hacc.counts.get_eq]
  · intro lib cfg hcfg
    obtain ⟨⟨hmax, -⟩, ⟨hper, -⟩, -⟩ := Config.Server.validate_eq_ok hcfg
    refine ⟨by omega, by omega, fun tr d h => ?_⟩
    have hserved := served_of_run h
    exact ⟨hserved.history, hserved.matched, hserved.holding⟩

/-- Two connections at most and one per source: the handler of the first one panics, its source is
    refused before that and admitted again afterwards. -/
theorem admission_accounting_panic : ∃ tr d,
    (runDaemon ⟨2, 1, 5000000000⟩).Run (fun _ _ => True) tr d ∧
    tr = [.acquired "192.0.2.1", .refused "192.0.2.1", .acquired "192.0.2.2", .released "192.0.2.1",
      .acquired "192.0.2.1"] ∧
    d.admission.total = d.admission.perIP.sum ∧ d.admission.total = (outstanding tr).card ∧
    outstanding tr = d.holding := by
  let cfg : Config.Server :=
    ⟨"server.toml", "localhost:42022", ⟨2, 1, 5000000000⟩, "~/.mygosh/host_ed25519",
      Config.defaultAuthorizedKeys, some ⟨true, true, true, [], ""⟩, ⟨"", false, ""⟩⟩
  let lib : Library :=
    ⟨fun _ => .ok ("localhost", "42022"), fun _ => .ok 42022, fun text => text⟩
  have hcfg : cfg.validate lib = .ok () := by decide +kernel
  obtain ⟨tr, d, hrun, htr⟩ := Lts.exists_run_of_replay (L := runDaemon cfg.daemon)
    (C := fun _ _ => True) (P := fun tr _ => tr = [.acquired "192.0.2.1", .refused "192.0.2.1",
      .acquired "192.0.2.2", .released "192.0.2.1", .acquired "192.0.2.1"])
    [.accepted "192.0.2.1", .main, .main, .accepted "192.0.2.1", .main, .main, .accepted "192.0.2.2",
      .main, .main, .panics 0, .deferred 0, .deferred 0, .accepted "192.0.2.1", .main]
    (by decide +kernel)
  obtain ⟨hmax, hper, hruns⟩ := admission_accounting.2 lib cfg hcfg
  obtain ⟨hhist, hmatched, hholding⟩ := hruns tr d hrun
  obtain ⟨hsum, hcard, -⟩ := admission_accounting.1 _ _ hmax hper tr _ hhist hmatched
  exact ⟨tr, d, hrun, htr, hsum, hcard, hholding⟩

end Mygosh.Admission

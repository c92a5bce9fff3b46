/-
  File:      Mygosh/Trust/KnownHosts.lean
  Subject:   Matching a host key against known_hosts (`lib/trust/known_hosts_ssh.go`,
             `app/client/files.go`).

  * `matchHostKey` -- the loop with its two flags and its early return;
  * `verdict`, `strongest` -- what one entry says, and the strongest thing any entry of a finite set
    says. A set has no order, so the loop that computes it does not depend on one.
-/
import Mygosh.Keys
import Mathlib.Data.Finset.Lattice.Fold

namespace Mygosh.Trust

open Keys (PublicKey)

/-! ## 1. Entries and results -/

/-- `KnownHostMarker`, an `int`. -/
abbrev KnownHostMarker := Int

/-- `KnownHostEmptyMarker`. -/
def knownHostEmptyMarker : KnownHostMarker := 0

/-- `KnownHostRevoked`. -/
def knownHostRevoked : KnownHostMarker := 2

/-- `KnownHostEntry`. -/
structure KnownHostEntry where
  marker : KnownHostMarker
  hosts : List String
  hostKey : PublicKey
  deriving DecidableEq, Repr

/-- `KnownHostEntry.Match`, of an entry that is not nil. -/
def KnownHostEntry.matches (e : KnownHostEntry) (host : String) : Bool := e.hosts.contains host

/-- `HostKeyMatch`, in the order of its constants. -/
inductive HostKeyMatch where
  | noHost
  | mismatch
  | accepted
  | revoked
  deriving DecidableEq, Repr

/-- The constant behind a name. -/
def HostKeyMatch.toNat : HostKeyMatch → Nat
  | noHost => 0
  | mismatch => 1
  | accepted => 2
  | revoked => 3

instance : LinearOrder HostKeyMatch :=
  LinearOrder.lift' HostKeyMatch.toNat fun a b h => by cases a <;> cases b <;> first | rfl | cases h

instance : OrderBot HostKeyMatch where
  bot := .noHost
  bot_le a := Nat.zero_le a.toNat

/-! ## 2. The loop -/

/-- The loop of `MatchHostKey`, with its two flags. -/
def matchLoop (host : String) (key : PublicKey) : Bool → Bool → List KnownHostEntry → HostKeyMatch
  | hostFound, keyAccepted, [] =>
    if keyAccepted then .accepted else if hostFound then .mismatch else .noHost
  | hostFound, keyAccepted, entry :: entries =>
    if !entry.matches host then matchLoop host key hostFound keyAccepted entries
    else if !entry.hostKey.equal key then matchLoop host key true keyAccepted entries
    else if entry.marker = knownHostRevoked then .revoked
    else if entry.marker = knownHostEmptyMarker then matchLoop host key true true entries
    else matchLoop host key true keyAccepted entries

/-- `KnownHosts.MatchHostKey`; the receiver may be nil. -/
def matchHostKey (k : Option (List KnownHostEntry)) (host : String) (key : PublicKey) :
    HostKeyMatch :=
  match k with
  | none => .noHost
  | some entries => matchLoop host key false false entries

/-- The function that `knownHostsVerifier` returns; `fingerprint` is `FingerprintSHA256`. -/
def knownHostsVerifier (fingerprint : PublicKey → String) (k : Option (List KnownHostEntry))
    (referenceIdentity : String) (hostKey : PublicKey) : Except String Unit :=
  match matchHostKey k referenceIdentity hostKey with
  | .accepted => .ok ()
  | .revoked => .error
      s!"host key fingerprint {fingerprint hostKey} is revoked for reference identity {referenceIdentity.quote}"
  | .mismatch => .error
      s!"unexpected host key fingerprint {fingerprint hostKey} for reference identity {referenceIdentity.quote}"
  | .noHost => .error s!"no known host keys for reference identity {referenceIdentity.quote}"

/-! ## 3. Sets of entries -/

section Verdicts

variable (host : String) (key : PublicKey)

/-- What one entry says about a host and its key. -/
def KnownHostEntry.verdict (e : KnownHostEntry) : HostKeyMatch :=
  if !e.matches host then .noHost
  else if !e.hostKey.equal key then .mismatch
  else if e.marker = knownHostRevoked then .revoked
  else if e.marker = knownHostEmptyMarker then .accepted
  else .mismatch

/-- The strongest verdict in a set of entries. -/
def strongest (entries : Finset KnownHostEntry) : HostKeyMatch :=
  entries.sup fun e => e.verdict host key

/-- What the flags say before the loop goes on. -/
def flagged (hostFound keyAccepted : Bool) : HostKeyMatch :=
  if keyAccepted then .accepted else if hostFound then .mismatch else .noHost

variable {host key} {e : KnownHostEntry} {entries : List KnownHostEntry} {hostFound keyAccepted : Bool}

theorem flagged_mismatch : flagged true keyAccepted = flagged hostFound keyAccepted ⊔ .mismatch := by
  cases hostFound <;> cases keyAccepted <;> decide

theorem flagged_accepted : flagged true true = flagged hostFound keyAccepted ⊔ .accepted := by
  cases hostFound <;> cases keyAccepted <;> decide

theorem le_revoked (a : HostKeyMatch) : a ≤ .revoked := by cases a <;> decide

/-- **The loop computes the strongest verdict**, the flags standing for the entries before. -/
theorem matchLoop_eq : matchLoop host key hostFound keyAccepted entries =
    flagged hostFound keyAccepted ⊔ strongest host key entries.toFinset := by
  induction entries generalizing hostFound keyAccepted with
  | nil => exact (sup_bot_eq _).symm
  | cons e entries ih =>
    have hsup : strongest host key (e :: entries).toFinset =
        e.verdict host key ⊔ strongest host key entries.toFinset := by
      rw [strongest, List.toFinset_cons, Finset.sup_insert]
      rfl
    rw [hsup, ← sup_assoc, matchLoop, KnownHostEntry.verdict]
    split_ifs with hhost hkey hrevoked hempty
    · rw [ih, show HostKeyMatch.noHost = ⊥ from rfl, sup_bot_eq]
    · rw [ih, flagged_mismatch]
    · rw [sup_eq_right.mpr (le_revoked _), sup_eq_left.mpr (le_revoked _)]
    · rw [ih, flagged_accepted]
    · rw [ih, flagged_mismatch]

/-! ## 4. Which verdict -/

/-- The entry names the host and has the key; comments are not compared. -/
def KnownHostEntry.Carries (e : KnownHostEntry) (host : String) (key : PublicKey) : Prop :=
  host ∈ e.hosts ∧ e.hostKey.algorithm = key.algorithm ∧ e.hostKey.bytes = key.bytes

theorem matches_iff : e.matches host = true ↔ host ∈ e.hosts := List.contains_iff_mem

theorem equal_iff : e.hostKey.equal key = true ↔
    e.hostKey.algorithm = key.algorithm ∧ e.hostKey.bytes = key.bytes := by
  rw [PublicKey.equal, Bool.and_eq_true, decide_eq_true_iff, decide_eq_true_iff]

theorem noHost_lt_verdict : .noHost < e.verdict host key ↔ host ∈ e.hosts := by
  rw [← matches_iff]
  unfold KnownHostEntry.verdict
  split_ifs with hhost hkey hrevoked hempty <;> simp_all <;> decide

theorem mismatch_lt_verdict : .mismatch < e.verdict host key ↔
    e.Carries host key ∧ (e.marker = knownHostRevoked ∨ e.marker = knownHostEmptyMarker) := by
  rw [KnownHostEntry.Carries, ← matches_iff, ← equal_iff]
  unfold KnownHostEntry.verdict
  split_ifs with hhost hkey hrevoked hempty <;> simp_all <;> decide

theorem accepted_lt_verdict : .accepted < e.verdict host key ↔
    e.Carries host key ∧ e.marker = knownHostRevoked := by
  rw [KnownHostEntry.Carries, ← matches_iff, ← equal_iff]
  unfold KnownHostEntry.verdict
  split_ifs with hhost hkey hrevoked hempty <;> simp_all <;> decide

theorem matchHostKey_eq (k : Option (List KnownHostEntry)) :
    matchHostKey k host key = strongest host key (k.getD []).toFinset := by
  cases k with
  | none => rfl
  | some entries =>
    rw [matchHostKey, matchLoop_eq, show flagged false false = ⊥ from rfl, bot_sup_eq]
    rfl

theorem lt_matchHostKey {k : Option (List KnownHostEntry)} {a : HostKeyMatch} :
    a < matchHostKey k host key ↔ ∃ e ∈ k.getD [], a < e.verdict host key := by
  rw [matchHostKey_eq, strongest, Finset.lt_sup_iff]
  simp only [List.mem_toFinset]

/-- Some entry for the host revokes the key. -/
def Revokes (k : Option (List KnownHostEntry)) (host : String) (key : PublicKey) : Prop :=
  ∃ e ∈ k.getD [], e.Carries host key ∧ e.marker = knownHostRevoked

/-- Some unmarked entry for the host has the key. -/
def Accepts (k : Option (List KnownHostEntry)) (host : String) (key : PublicKey) : Prop :=
  ∃ e ∈ k.getD [], e.Carries host key ∧ e.marker = knownHostEmptyMarker

/-- Some entry names the host. -/
def Names (k : Option (List KnownHostEntry)) (host : String) : Prop :=
  ∃ e ∈ k.getD [], host ∈ e.hosts

theorem below_matchHostKey (k : Option (List KnownHostEntry)) :
    (.accepted < matchHostKey k host key ↔ Revokes k host key) ∧
      (.mismatch < matchHostKey k host key ↔ Revokes k host key ∨ Accepts k host key) ∧
      (.noHost < matchHostKey k host key ↔ Names k host) := by
  simp only [lt_matchHostKey, accepted_lt_verdict, mismatch_lt_verdict, noHost_lt_verdict,
    and_or_left, exists_or]
  exact ⟨Iff.rfl, Iff.rfl, Iff.rfl⟩

/-- The four results by what lies below them. -/
theorem result_iff (a : HostKeyMatch) :
    (a = .revoked ↔ .accepted < a) ∧ (a = .accepted ↔ ¬.accepted < a ∧ .mismatch < a) ∧
      (a = .mismatch ↔ ¬.mismatch < a ∧ .noHost < a) ∧ (a = .noHost ↔ ¬.noHost < a) := by
  cases a <;> decide

/-- One more entry: the stronger of the result and its verdict. -/
theorem matchHostKey_insert (front back : List KnownHostEntry) :
    matchHostKey (some (front ++ e :: back)) host key =
      e.verdict host key ⊔ matchHostKey (some (front ++ back)) host key := by
  have hset : (front ++ e :: back).toFinset = insert e (front ++ back).toFinset := by
    ext x
    simp only [List.mem_toFinset, List.mem_append, List.mem_cons, Finset.mem_insert]
    exact or_left_comm
  rw [matchHostKey_eq, matchHostKey_eq, Option.getD_some, Option.getD_some, hset, strongest,
    Finset.sup_insert]
  rfl

/-- An entry that is not unmarked accepts nothing. -/
theorem verdict_of_revoked (h : e.marker = knownHostRevoked) :
    e.verdict host key = .noHost ∨ e.verdict host key = .mismatch ∨
      e.verdict host key = .revoked := by
  unfold KnownHostEntry.verdict
  split_ifs <;> simp_all

end Verdicts

/-- **Revocation first, in any order.** The result is revoked if an entry for the host revokes the key,
    else accepted if an unmarked entry has it, else a mismatch if the host is named at all. It depends
    only on which entries there are; one more revoking entry accepts nothing new; and the verifier
    accepts in one case only. -/
theorem matchHostKey_spec :
    (∀ k host key,
      (matchHostKey k host key = .revoked ↔ Revokes k host key) ∧
      (matchHostKey k host key = .accepted ↔ ¬Revokes k host key ∧ Accepts k host key) ∧
      (matchHostKey k host key = .mismatch ↔
        ¬Revokes k host key ∧ ¬Accepts k host key ∧ Names k host) ∧
      (matchHostKey k host key = .noHost ↔ ¬Names k host)) ∧
    (∀ entries entries' host key, (∀ e, e ∈ entries ↔ e ∈ entries') →
      matchHostKey (some entries) host key = matchHostKey (some entries') host key) ∧
    (∀ front back e host key, e.marker = knownHostRevoked →
      matchHostKey (some (front ++ e :: back)) host key = .revoked ∨
      matchHostKey (some (front ++ e :: back)) host key = .mismatch ∨
      matchHostKey (some (front ++ e :: back)) host key =
        matchHostKey (some (front ++ back)) host key) ∧
    ∀ fingerprint k host key,
      knownHostsVerifier fingerprint k host key = .ok () ↔ matchHostKey k host key = .accepted := by
  refine ⟨fun k host key => ?_, fun entries entries' host key h => ?_,
    fun front back e host key h => ?_, fun fingerprint k host key => ?_⟩
  · obtain ⟨hrevoked, haccepted, hmismatch, hnoHost⟩ := result_iff (matchHostKey k host key)
    obtain ⟨hrevokes, hcarries, hnames⟩ := below_matchHostKey k
    rw [hrevoked, haccepted, hmismatch, hnoHost, hrevokes, hcarries, hnames, not_or, and_assoc]
    exact ⟨Iff.rfl, and_congr_right fun hnot => or_iff_right hnot, Iff.rfl, Iff.rfl⟩
  · rw [matchHostKey_eq, matchHostKey_eq, Option.getD_some, Option.getD_some]
    congr 1
    ext e
    rw [List.mem_toFinset, List.mem_toFinset, h]
  · rw [matchHostKey_insert]
    rcases verdict_of_revoked h with hv | hv | hv
    · exact .inr (.inr (by rw [hv]; exact bot_sup_eq _))
    · rw [hv]
      cases matchHostKey (some (front ++ back)) host key <;> decide
    · exact .inl (by rw [hv]; exact sup_eq_left.mpr (le_revoked _))
  · unfold knownHostsVerifier
    cases matchHostKey k host key <;> simp

/-- A key that is accepted by one line and revoked by another, in either order. -/
theorem matchHostKey_spec_revoked :
    let key : PublicKey := ⟨"ed25519", [1], ""⟩
    let good : KnownHostEntry := ⟨knownHostEmptyMarker, ["h"], key⟩
    let bad : KnownHostEntry := ⟨knownHostRevoked, ["h"], key⟩
    matchHostKey (some [good, bad]) "h" key = .revoked ∧
      matchHostKey (some [bad, good]) "h" key = matchHostKey (some [good, bad]) "h" key := by
  intro key good bad
  refine ⟨(matchHostKey_spec.1 _ _ _).1.mpr ⟨bad, by simp, ⟨by simp [bad], rfl, rfl⟩, rfl⟩,
    matchHostKey_spec.2.1 _ _ _ _ fun e => ?_⟩
  simp only [List.mem_cons, List.not_mem_nil, or_false]
  exact or_comm

end Mygosh.Trust

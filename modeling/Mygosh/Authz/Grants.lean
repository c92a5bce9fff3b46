/-
  File:      Mygosh/Authz/Grants.lean
  Subject:   Channel grants and the credentials they belong to, over any sequence of calls.

  A grant names its credentials by a pointer to a value of an empty struct type. The runtime gives
  all heap values of size zero one address, so the pointer tells no two credentials apart. This file
  follows a process through its authorization calls and says exactly when a grant is nevertheless
  refused with foreign credentials.
-/
import Mygosh.Authz.Service

namespace Mygosh.Server

/-! ## 1. A sequence of calls -/

/-- A call of the process: a new connection, with the policies as they are at that time, or a channel
    on the credentials of an earlier one. -/
inductive Call where
  | connection (a : Authz) (ctx : Option String) (request : ConnectionRequest)
  | channel (ctx : Option String) (owner : Nat) (request : ChannelAuthorizationRequest)

/-- What the calls so far have left: the heap, the credentials in the order in which the connection
    calls returned them, and each grant with the connection it was obtained from. -/
structure Issues where
  heap : Heap
  credentials : List ConnectionCredentials
  grants : List (Nat × AuthorizedChannel)

def Issues.call (s : Issues) : Call → Issues
  | .connection a ctx request =>
    match a.authorizeConnection ctx request s.heap with
    | (.error _, heap) => { s with heap := heap }
    | (.ok c, heap) => { s with heap := heap, credentials := s.credentials ++ [c] }
  | .channel ctx owner request =>
    match s.credentials[owner]? with
    | none => s
    | some c =>
      match authorizeChannel ctx c request with
      | .error _ => s
      | .ok channel => { s with grants := s.grants ++ [(owner, channel)] }

/-- The state after a list of calls on a fresh heap. -/
def issue (calls : List Call) : Issues := calls.foldl Issues.call ⟨⟨1⟩, [], []⟩

/-! ## 2. All tokens are one -/

/-- What one call can do: nothing, add credentials, or add a grant with the token of its owner. -/
theorem Issues.call_cases (s : Issues) (c : Call) :
    (s.call c).credentials = s.credentials ∧ (s.call c).grants = s.grants ∨
    (∃ a request decision new, Issued a request s.heap decision new ∧
      (s.call c).credentials = s.credentials ++ [new] ∧ (s.call c).grants = s.grants) ∨
    ∃ owner cr, s.credentials[owner]? = some cr ∧ (s.call c).credentials = s.credentials ∧
      (s.call c).grants = s.grants ++ [(owner, ⟨commandChannelType, cr.identityToken⟩)] := by
  cases c with
  | connection a ctx request =>
    simp only [Issues.call]
    split
    · exact .inl ⟨rfl, rfl⟩
    · rename_i new heap hr
      obtain ⟨decision, hI⟩ := Authz.authorizeConnection_eq_ok (congrArg Prod.fst hr)
      exact .inr (.inl ⟨a, request, decision, new, hI, rfl, rfl⟩)
  | channel ctx owner request =>
    simp only [Issues.call]
    split
    · exact .inl ⟨rfl, rfl⟩
    · rename_i cr hcr
      split
      · exact .inl ⟨rfl, rfl⟩
      · rename_i channel hch
        rw [authorizeChannel_eq_ok hch]
        exact .inr (.inr ⟨owner, cr, hcr, rfl, rfl⟩)

/-- What holds after every call: credentials are valid, and credentials and grants carry the address
    of values of size zero. -/
structure OneToken (s : Issues) : Prop where
  valid : ∀ c ∈ s.credentials, c.validate = .ok ()
  token : ∀ c ∈ s.credentials, c.identityToken = some zerobase
  grants : ∀ g ∈ s.grants, g.2 = ⟨commandChannelType, some zerobase⟩

/-- One call keeps it. -/
theorem OneToken.call {s : Issues} (h : OneToken s) (c : Call) : OneToken (s.call c) := by
  rcases s.call_cases c with ⟨hc, hg⟩ | ⟨a, request, decision, new, hI, hc, hg⟩ |
    ⟨owner, cr, hcr, hc, hg⟩
  · exact ⟨hc ▸ h.valid, hc ▸ h.token, hg ▸ h.grants⟩
  · constructor
    · rw [hc, List.forall_mem_append]
      exact ⟨h.valid, List.forall_mem_singleton.mpr hI.valid⟩
    · rw [hc, List.forall_mem_append]
      exact ⟨h.token, List.forall_mem_singleton.mpr hI.token⟩
    · rw [hg]
      exact h.grants
  · refine ⟨hc ▸ h.valid, hc ▸ h.token, ?_⟩
    rw [hg, List.forall_mem_append, List.forall_mem_singleton, h.token cr (List.mem_of_getElem? hcr)]
    exact ⟨h.grants, rfl⟩

/-- So it holds after every list of calls. -/
theorem oneToken_issue (calls : List Call) : OneToken (issue calls) := by
  have hstart : OneToken ⟨⟨1⟩, [], []⟩ :=
    ⟨fun _ h => (List.not_mem_nil h).elim, fun _ h => (List.not_mem_nil h).elim,
      fun _ h => (List.not_mem_nil h).elim⟩
  unfold issue
  induction calls using List.reverseRecOn with
  | nil => exact hstart
  | append_singleton calls c ih =>
    rw [List.foldl_append]
    exact ih.call c

/-! ## 3. Launches with foreign credentials -/

/-- The directories of valid credentials that permit a launch are absolute. -/
theorem ConnectionCredentials.absolute {c : ConnectionCredentials} (h : c.validate = .ok ()) :
    isAbs c.account.homeDir = true ∧
    (c.permissions.allowShell = true ∨ c.permissions.allowExec = true →
      isAbs c.account.loginShell = true) := by
  obtain ⟨-, h⟩ := guardWith_eq_ok h
  obtain ⟨-, h⟩ := guardWith_eq_ok h
  obtain ⟨_, -, h⟩ := bind_eq_ok h
  obtain ⟨-, h⟩ := guardWith_eq_ok h
  obtain ⟨_, -, h⟩ := bind_eq_ok h
  obtain ⟨hhome, h⟩ := guardWith_eq_ok h
  obtain ⟨-, h⟩ := guardWith_eq_ok h
  obtain ⟨_, -, h⟩ := bind_eq_ok h
  obtain ⟨_, -, h⟩ := bind_eq_ok h
  obtain ⟨hshell, -⟩ := guardWith_eq_ok h
  refine ⟨by simpa using hhome, fun hl => ?_⟩
  simp only [Bool.and_eq_false_iff, Bool.or_eq_false_iff, Bool.not_eq_false'] at hshell
  rcases hshell with ⟨hs, hx⟩ | habs
  · simp [hs, hx] at hl
  · exact habs

/-- The plainest launch of a kind. -/
def plainRequest (kind : LaunchKind) (command : String) : LaunchRequest := ⟨kind, command, none, ∅⟩

/-- What it is authorized as. -/
def plainLaunch (c : ConnectionCredentials) (kind : LaunchKind) (command : String) :
    AuthorizedLaunchSpec where
  kind := if c.permissions.forcedCommand ≠ "" then .exec else kind
  command := if c.permissions.forcedCommand ≠ "" then c.permissions.forcedCommand
    else trimSpace command
  executable := c.account.loginShell
  workingDirectory := c.account.homeDir
  pty := none
  environment := ∅
  account := c.account

/-- A plain launch of a permitted kind is authorized with any command grant that carries the
    token. -/
theorem authorizeLaunch_plain {c : ConnectionCredentials} (kind : LaunchKind) (command : String)
    (hv : c.validate = .ok ()) (ht : c.identityToken = some zerobase)
    (hl : c.permissions.allowShell = true ∨ c.permissions.allowExec = true)
    (hk : authorizeKind c.permissions (plainRequest kind command) = .ok ())
    (hnul : containsRune (trimSpace command) nul = false)
    (hlen : byteLength (trimSpace command) ≤ maxCommandLength) :
    authorizeLaunch none c ⟨commandChannelType, some zerobase⟩ (plainRequest kind command) =
      .ok (plainLaunch c kind command) := by
  obtain ⟨hhome, hshell⟩ := c.absolute hv
  unfold authorizeLaunch
  simp only [hv, ht, hk, wrap, Except.bind]
  refine (guardWith_false (by decide)).trans ?_
  have henv : authorizeEnvironment ∅ c.permissions.allowedEnvironment = .ok ∅ := rfl
  simp only [plainRequest, authorizePTY, henv]
  refine (guardWith_false (by simp [hhome])).trans ?_
  refine (guardWith_false (by simp [hshell hl])).trans ?_
  refine (guardWith_false hnul).trans ?_
  exact guardWith_false (by simpa using hlen)

/-- No grant is usable with credentials of another connection call. -/
def Bound (s : Issues) : Prop :=
  ∀ g ∈ s.grants, ∀ n c, s.credentials[n]? = some c → ∀ ctx request spec,
    authorizeLaunch ctx c g.2 request = .ok spec → n = g.1

/-- **When grants are bound to their credentials**: exactly when no connection call but the grant's
    own returned credentials that permit a launch. -/
theorem bound_iff (calls : List Call) :
    Bound (issue calls) ↔
      ∀ g ∈ (issue calls).grants, ∀ n c, (issue calls).credentials[n]? = some c → n ≠ g.1 →
        c.permissions.allowShell = false ∧ c.permissions.allowExec = false := by
  have hT := oneToken_issue calls
  constructor
  · intro hB g hg n c hc hne
    have hmem := List.mem_of_getElem? hc
    -- a permitted kind would be launched with the foreign grant
    have hfree : ∀ kind command spec, authorizeLaunch none c ⟨commandChannelType, some zerobase⟩
        (plainRequest kind command) ≠ .ok spec := fun kind command spec h =>
      hne (hB g hg n c hc none _ spec (by rw [hT.grants g hg]; exact h))
    constructor
    · by_contra hs
      have hs := Bool.eq_true_of_not_eq_false hs
      exact hfree _ _ _ (authorizeLaunch_plain .shell "" (hT.valid c hmem) (hT.token c hmem) (.inl hs)
        (by simp only [authorizeKind, plainRequest, hs]; rfl) rfl (by decide))
    · by_contra hx
      have hx := Bool.eq_true_of_not_eq_false hx
      exact hfree _ _ _ (authorizeLaunch_plain .exec "true" (hT.valid c hmem) (hT.token c hmem)
        (.inr hx) (by simp only [authorizeKind, plainRequest, hx]; rfl) rfl (by decide))
  · intro h g hg n c hc ctx request spec hl
    by_contra hne
    obtain ⟨hs, hx⟩ := h g hg n c hc hne
    rcases (authorizeLaunch_eq_ok hl).kind with ⟨-, ha, -⟩ | ⟨-, ha⟩
    · rw [hs] at ha
      cases ha
    · rw [hx] at ha
      cases ha

/-- Two connections of one user; the grant is obtained from the first. -/
def twoConnections : List Call :=
  [.connection (soleServer blankPolicy []) none soleConnection,
   .connection (soleServer blankPolicy []) none soleConnection,
   .channel none 0 ⟨"command", []⟩]

/-- The grant of the first connection launches a shell with the credentials of the second. -/
theorem grant_used_with_foreign_credentials :
    (issue twoConnections).credentials = [langCredentials, langCredentials] ∧
    (issue twoConnections).grants = [(0, ⟨"command", some zerobase⟩)] ∧
    authorizeLaunch none langCredentials ⟨"command", some zerobase⟩ (plainRequest .shell "") =
      .ok (plainLaunch langCredentials .shell "") ∧
    ¬ Bound (issue twoConnections) := by
  refine ⟨rfl, rfl, rfl, fun hB => ?_⟩
  exact absurd (hB (0, ⟨"command", some zerobase⟩) (List.mem_singleton.mpr rfl) 1 langCredentials rfl
    none _ _ (show authorizeLaunch none langCredentials ⟨"command", some zerobase⟩
      (plainRequest .shell "") = .ok (plainLaunch langCredentials .shell "") from rfl)) (by decide)

end Mygosh.Server

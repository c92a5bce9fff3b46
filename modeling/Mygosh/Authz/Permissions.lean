/-
  File:      Mygosh/Authz/Permissions.lean
  Subject:   What a connection may do (`app/server/authz/permissions.go`, `key_constraints.go` and the
             constraint parser of `lib/trust/authorized_keys_ssh.go`).

  Two sources say what a connection may do: the policy's decision and the options of the matched
  authorized key. They are merged, trimmed and validated into one snapshot. Each check is kept with
  its text, and one lemma per function says what its success means.
-/
import Mygosh.Text

namespace Mygosh.Server

/-! ## 1. Checks -/

/-- `eris.Wrap`. -/
def wrap {α : Type} (message : String) : Except String α → Except String α
  | .error e => .error s!"{message}: {e}"
  | .ok a => .ok a

/-- A guard in front of a computation. -/
def guardWith {α : Type} (refuse : Bool) (e : String) (x : Except String α) : Except String α :=
  if refuse then .error e else x

section Checks

variable {α β : Type} {message e : String} {refuse : Bool} {a : α} {b : β}

theorem wrap_eq_ok {x : Except String α} (h : wrap message x = .ok a) : x = .ok a := by
  cases x with
  | error => cases h
  | ok => exact h

theorem guardWith_eq_ok {x : Except String α} (h : guardWith refuse e x = .ok a) :
    refuse = false ∧ x = .ok a := by
  cases refuse with
  | false => exact ⟨rfl, h⟩
  | true => cases h

theorem guardWith_false {x : Except String α} (h : refuse = false) : guardWith refuse e x = x := by
  rw [h]
  rfl

theorem bind_eq_ok {x : Except String α} {f : α → Except String β} (h : x.bind f = .ok b) :
    ∃ a, x = .ok a ∧ f a = .ok b := by
  cases x with
  | error => cases h
  | ok a => exact ⟨a, rfl, h⟩

theorem map_eq_ok {x : Except String α} {f : α → β} (h : x.map f = .ok b) :
    ∃ a, x = .ok a ∧ f a = b := by
  cases x with
  | error => cases h
  | ok a => exact ⟨a, rfl, Except.ok.inj h⟩

end Checks

/-- The bound on a command, `24<<10`. -/
def maxCommandLength : Nat := 24576

/-- `validateEnvironmentName`. -/
def validateEnvironmentName (name : String) : Except String Unit :=
  guardWith (name = "") "environment variable name is required" <|
  guardWith (containsAny name (String.ofList ['=', nul]))
    s!"invalid environment variable name {name.quote}" <|
  guardWith (byteLength name > 256)
    s!"environment variable name {name.quote} exceeds maximum size" <|
  .ok ()

/-! ## 2. Constraints of an authorized key -/

/-- `trust.AuthorizedKeyOption`. -/
structure AuthorizedKeyOption where
  name : String
  value : String
  hasValue : Bool
  deriving DecidableEq, Repr

/-- `trust.AuthorizedKeyConstraints`, and `MatchedKeyConstraints`, which copies its fields. -/
structure MatchedKeyConstraints where
  forcedCommand : String
  noPTY : Bool
  restricted : Bool
  deriving DecidableEq, Repr

/-- The option `command`, decoded by `unquote` (`strconv.Unquote`). -/
def commandOption (unquote : String → Except String String) (option : AuthorizedKeyOption) :
    Except String String :=
  guardWith (!option.hasValue) "authorized_keys command option requires a value" <|
  (wrap "decode authorized_keys command option" (unquote option.value)).bind fun command =>
  guardWith (trimSpace command = "") "authorized_keys command option must not be empty" <|
  guardWith (containsRune command nul) "authorized_keys command option contains NUL" <|
  guardWith (byteLength command > maxCommandLength)
    "authorized_keys command option exceeds maximum size" <|
  .ok command

/-- One round of the loop of `parseAuthorizedKeyConstraints`. -/
def applyOption (unquote : String → Except String String) (constraints : MatchedKeyConstraints)
    (option : AuthorizedKeyOption) : Except String MatchedKeyConstraints :=
  if option.name = "command" then
    (commandOption unquote option).map fun command => { constraints with forcedCommand := command }
  else if option.name = "no-pty" then
    guardWith option.hasValue "authorized_keys no-pty option must not have a value" <|
    .ok { constraints with noPTY := true }
  else if option.name = "restrict" then
    guardWith option.hasValue "authorized_keys restrict option must not have a value" <|
    .ok { constraints with restricted := true, noPTY := true }
  else .error s!"unsupported authorized_keys option {option.name.quote}"

/-- The loop of `parseAuthorizedKeyConstraints`; `seen` holds the names already met. -/
def parseOptions (unquote : String → Except String String) :
    List AuthorizedKeyOption → List String → MatchedKeyConstraints →
      Except String MatchedKeyConstraints
  | [], _, constraints => .ok constraints
  | option :: rest, seen, constraints =>
    guardWith (seen.contains option.name)
      s!"duplicate authorized_keys option {option.name.quote}" <|
    (applyOption unquote constraints option).bind fun constraints =>
      parseOptions unquote rest (option.name :: seen) constraints

def parseAuthorizedKeyConstraints (unquote : String → Except String String)
    (options : List AuthorizedKeyOption) : Except String MatchedKeyConstraints :=
  parseOptions unquote options [] ⟨"", false, false⟩

/-- What every parsed set of constraints satisfies: a command is not blank, and `restrict` takes
    the terminal away. -/
structure MatchedKeyConstraints.WellFormed (c : MatchedKeyConstraints) : Prop where
  command : c.forcedCommand ≠ "" → trimSpace c.forcedCommand ≠ ""
  restricted : c.restricted = true → c.noPTY = true

theorem commandOption_not_blank {unquote : String → Except String String}
    {option : AuthorizedKeyOption} {command : String}
    (h : commandOption unquote option = .ok command) : trimSpace command ≠ "" := by
  obtain ⟨-, h⟩ := guardWith_eq_ok h
  obtain ⟨text, -, h⟩ := bind_eq_ok h
  obtain ⟨hblank, h⟩ := guardWith_eq_ok h
  obtain ⟨-, h⟩ := guardWith_eq_ok h
  obtain ⟨-, h⟩ := guardWith_eq_ok h
  cases h
  exact of_decide_eq_false hblank

theorem applyOption_wellFormed {unquote : String → Except String String}
    {c c' : MatchedKeyConstraints} {option : AuthorizedKeyOption} (hc : c.WellFormed)
    (h : applyOption unquote c option = .ok c') : c'.WellFormed := by
  unfold applyOption at h
  split_ifs at h
  · obtain ⟨command, hcmd, rfl⟩ := map_eq_ok h
    exact ⟨fun _ => commandOption_not_blank hcmd, hc.restricted⟩
  · obtain ⟨-, h⟩ := guardWith_eq_ok h
    cases h
    exact ⟨hc.command, fun _ => rfl⟩
  · obtain ⟨-, h⟩ := guardWith_eq_ok h
    cases h
    exact ⟨hc.command, fun _ => rfl⟩

/-- The loop keeps what each option keeps. -/
theorem parseOptions_wellFormed {unquote : String → Except String String}
    (options : List AuthorizedKeyOption) :
    ∀ {seen : List String} {c c' : MatchedKeyConstraints}, c.WellFormed →
      parseOptions unquote options seen c = .ok c' → c'.WellFormed := by
  induction options with
  | nil =>
    intro seen c c' hc h
    cases h
    exact hc
  | cons option rest ih =>
    intro seen c c' hc h
    obtain ⟨-, h⟩ := guardWith_eq_ok h
    obtain ⟨c₁, h₁, h⟩ := bind_eq_ok h
    exact ih (applyOption_wellFormed hc h₁) h

theorem parseAuthorizedKeyConstraints_wellFormed {unquote : String → Except String String}
    {options : List AuthorizedKeyOption} {c : MatchedKeyConstraints}
    (h : parseAuthorizedKeyConstraints unquote options = .ok c) : c.WellFormed :=
  parseOptions_wellFormed options ⟨fun h => absurd rfl h, fun h => absurd h (by decide)⟩ h

/-- `MatchedKeyConstraints.validate`. -/
def MatchedKeyConstraints.validate (c : MatchedKeyConstraints) : Except String Unit :=
  guardWith (c.restricted && !c.noPTY) "restricted authorized key must disable PTY" <|
  guardWith (byteLength c.forcedCommand > maxCommandLength)
    "authorized key forced command exceeds maximum size" <|
  .ok ()

/-! ## 3. The policy's decision -/

/-- `PermissionDecision`. -/
structure PermissionDecision where
  allowCommand : Bool
  allowShell : Bool
  allowExec : Bool
  allowPTY : Bool
  forcedCommand : String
  allowedEnvironment : List String
  deriving DecidableEq, Repr

/-- `applyMatchedKeyConstraints`. -/
def applyMatchedKeyConstraints (decision : PermissionDecision)
    (constraints : MatchedKeyConstraints) : Except String PermissionDecision :=
  constraints.validate.bind fun _ =>
  let decision := if constraints.noPTY then { decision with allowPTY := false } else decision
  if constraints.forcedCommand ≠ "" then
    guardWith (decision.forcedCommand ≠ "" && decision.forcedCommand ≠ constraints.forcedCommand)
      "configured and authorized-key forced commands conflict" <|
    .ok { decision with forcedCommand := constraints.forcedCommand }
  else .ok decision

/-- What a merged decision keeps of the policy's and takes from the key. -/
structure Merged (decision : PermissionDecision) (constraints : MatchedKeyConstraints)
    (merged : PermissionDecision) : Prop where
  command : merged.allowCommand = decision.allowCommand
  shell : merged.allowShell = decision.allowShell
  exec : merged.allowExec = decision.allowExec
  pty : merged.allowPTY = true →
    decision.allowPTY = true ∧ constraints.noPTY = false ∧ constraints.restricted = false
  forced : merged.forcedCommand =
    if constraints.forcedCommand ≠ "" then constraints.forcedCommand else decision.forcedCommand
  environment : merged.allowedEnvironment = decision.allowedEnvironment

theorem MatchedKeyConstraints.noPTY_of_validate {c : MatchedKeyConstraints}
    (h : c.validate = .ok ()) (hr : c.restricted = true) : c.noPTY = true := by
  obtain ⟨h, -⟩ := guardWith_eq_ok h
  simpa [hr] using h

theorem applyMatchedKeyConstraints_eq_ok {decision merged : PermissionDecision}
    {constraints : MatchedKeyConstraints}
    (h : applyMatchedKeyConstraints decision constraints = .ok merged) :
    Merged decision constraints merged := by
  obtain ⟨_, hv, h⟩ := bind_eq_ok h
  dsimp only at h
  by_cases hn : constraints.noPTY = true
  · rw [if_pos hn] at h
    split_ifs at h with hf
    · obtain ⟨-, h⟩ := guardWith_eq_ok h
      cases h
      exact ⟨rfl, rfl, rfl, (fun hp => nomatch hp), (if_pos hf).symm, rfl⟩
    · cases h
      exact ⟨rfl, rfl, rfl, (fun hp => nomatch hp), (if_neg hf).symm, rfl⟩
  · have hr : constraints.restricted = false :=
      Bool.eq_false_iff.mpr fun hr => hn (MatchedKeyConstraints.noPTY_of_validate hv hr)
    rw [if_neg hn] at h
    have hn := Bool.eq_false_iff.mpr hn
    split_ifs at h with hf
    · obtain ⟨-, h⟩ := guardWith_eq_ok h
      cases h
      exact ⟨rfl, rfl, rfl, fun hp => ⟨hp, hn, hr⟩, (if_pos hf).symm, rfl⟩
    · cases h
      exact ⟨rfl, rfl, rfl, fun hp => ⟨hp, hn, hr⟩, (if_neg hf).symm, rfl⟩

/-! ## 4. The snapshot -/

/-- `ConnectionPermissions`. -/
structure ConnectionPermissions where
  allowCommand : Bool
  allowShell : Bool
  allowExec : Bool
  allowPTY : Bool
  forcedCommand : String
  allowedEnvironment : List String
  deriving DecidableEq, Repr

/-- The loop over the allowed names: each is trimmed and checked, repetitions are skipped. -/
def allowNames : List String → List String → Except String (List String)
  | [], allowed => .ok allowed
  | name :: rest, allowed =>
    (validateEnvironmentName (trimSpace name)).bind fun _ =>
      if allowed.contains (trimSpace name) then allowNames rest allowed
      else allowNames rest (allowed ++ [trimSpace name])

def newConnectionPermissions (decision : PermissionDecision) :
    Except String ConnectionPermissions :=
  let forced := trimSpace decision.forcedCommand
  guardWith (containsRune forced nul) "forced command contains NUL" <|
  guardWith (byteLength forced > maxCommandLength) "forced command exceeds maximum size" <|
  guardWith ((decision.allowShell || decision.allowExec || decision.allowPTY || forced ≠ "")
    && !decision.allowCommand) "command sub-permissions require command permission" <|
  guardWith (forced ≠ "" && !decision.allowShell && !decision.allowExec)
    "forced command requires shell or exec permission" <|
  guardWith (decision.allowPTY && !decision.allowShell && !decision.allowExec)
    "PTY permission requires shell or exec permission" <|
  guardWith (decision.allowedEnvironment.length > 128) "too many allowed environment variables" <|
  (allowNames decision.allowedEnvironment []).map fun allowed =>
    { allowCommand := decision.allowCommand
      allowShell := decision.allowShell
      allowExec := decision.allowExec
      allowPTY := decision.allowPTY
      forcedCommand := forced
      allowedEnvironment := sortTexts allowed }

/-- `ConnectionPermissions.validate`: the snapshot is checked as a decision again. -/
def ConnectionPermissions.validate (p : ConnectionPermissions) : Except String Unit :=
  (newConnectionPermissions
    ⟨p.allowCommand, p.allowShell, p.allowExec, p.allowPTY, p.forcedCommand,
      p.allowedEnvironment⟩).map fun _ => ()

theorem mem_allowNames {name : String} (names : List String) :
    ∀ {allowed result : List String}, allowNames names allowed = .ok result →
      (name ∈ result ↔ name ∈ allowed ∨ name ∈ names.map trimSpace) := by
  induction names with
  | nil =>
    intro allowed result h
    cases h
    simp
  | cons n rest ih =>
    intro allowed result h
    obtain ⟨_, -, h⟩ := bind_eq_ok h
    -- a repeated name is already among the allowed ones, so skipping it loses nothing
    split_ifs at h with hc
    · rw [ih h, List.map_cons, List.mem_cons]
      have hmem : trimSpace n ∈ allowed := List.contains_iff_mem.mp hc
      constructor
      · rintro (h | h)
        · exact .inl h
        · exact .inr (.inr h)
      · rintro (h | rfl | h)
        · exact .inl h
        · exact .inl hmem
        · exact .inr h
    · rw [ih h, List.map_cons, List.mem_cons, List.mem_append, List.mem_singleton, or_assoc]

/-- What an accepted snapshot holds of the decision it was made from. -/
structure Snapshot (decision : PermissionDecision) (p : ConnectionPermissions) : Prop where
  command : p.allowCommand = decision.allowCommand
  shell : p.allowShell = decision.allowShell
  exec : p.allowExec = decision.allowExec
  pty : p.allowPTY = decision.allowPTY
  forced : p.forcedCommand = trimSpace decision.forcedCommand
  environment : ∀ name,
    name ∈ p.allowedEnvironment ↔ name ∈ decision.allowedEnvironment.map trimSpace
  launches : p.allowShell = true ∨ p.allowExec = true → p.allowCommand = true

theorem newConnectionPermissions_eq_ok {decision : PermissionDecision} {p : ConnectionPermissions}
    (h : newConnectionPermissions decision = .ok p) : Snapshot decision p := by
  obtain ⟨-, h⟩ := guardWith_eq_ok h
  obtain ⟨-, h⟩ := guardWith_eq_ok h
  obtain ⟨hsub, h⟩ := guardWith_eq_ok h
  obtain ⟨-, h⟩ := guardWith_eq_ok h
  obtain ⟨-, h⟩ := guardWith_eq_ok h
  obtain ⟨-, h⟩ := guardWith_eq_ok h
  obtain ⟨allowed, ha, rfl⟩ := map_eq_ok h
  refine ⟨rfl, rfl, rfl, rfl, rfl, fun name => ?_, fun hl => ?_⟩
  · rw [mem_sortTexts, mem_allowNames _ ha]
    simp
  · simp only [Bool.and_eq_false_iff, Bool.or_eq_false_iff, Bool.not_eq_false'] at hsub
    rcases hsub with ⟨⟨⟨hs, hx⟩, -⟩, -⟩ | hc
    · simp [hs, hx] at hl
    · exact hc

end Mygosh.Server

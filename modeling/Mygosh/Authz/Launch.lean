/-
  File:      Mygosh/Authz/Launch.lean
  Subject:   Authorization of one launch (`app/server/authz/launch.go`).

  The checks are made in the order of the source. Success is described once, by `Launches`, and no
  later proof unfolds the function again.
-/
import Mygosh.Authz.Connection

namespace Mygosh.Server

/-! ## 1. Requests and authorized launches -/

/-- `LaunchKind`, a string type with two known values. -/
inductive LaunchKind where
  | shell
  | exec
  | other (text : String)
  deriving DecidableEq, Repr

/-- `PTYRequest`, and `PTYSpec`, which has the same fields. -/
structure PTYRequest where
  terminal : String
  rows : Nat
  columns : Nat
  deriving DecidableEq, Repr

/-- `LaunchRequest`. -/
structure LaunchRequest where
  kind : LaunchKind
  command : String
  pty : Option PTYRequest
  environment : TextMap
  deriving DecidableEq

/-- `AuthorizedLaunchSpec`. -/
structure AuthorizedLaunchSpec where
  kind : LaunchKind
  command : String
  executable : String
  workingDirectory : String
  pty : Option PTYRequest
  environment : TextMap
  account : Account
  deriving DecidableEq

/-! ## 2. The checks -/

/-- The switch on the requested kind. -/
def authorizeKind (permissions : ConnectionPermissions) (request : LaunchRequest) :
    Except String Unit :=
  match request.kind with
  | .shell =>
    guardWith (!permissions.allowShell) "shell launch is not permitted" <|
    guardWith (trimSpace request.command ≠ "") "shell request must not contain a command" <|
    .ok ()
  | .exec =>
    guardWith (!permissions.allowExec) "exec launch is not permitted" <|
    guardWith (trimSpace request.command = "" && permissions.forcedCommand = "")
      "exec command is required" <|
    .ok ()
  | .other text => .error s!"unsupported launch kind {text.quote}"

/-- The checks of a requested terminal. -/
def authorizePTY (permissions : ConnectionPermissions) :
    Option PTYRequest → Except String (Option PTYRequest)
  | none => .ok none
  | some pty =>
    guardWith (!permissions.allowPTY) "PTY allocation is not permitted" <|
    guardWith (pty.rows = 0 || pty.columns = 0) "PTY rows and columns must be greater than zero" <|
    guardWith (containsRune pty.terminal nul) "PTY terminal contains NUL" <|
    .ok (some pty)

/-- The loop of `authorizeEnvironment` over the sorted names. -/
def authorizeNames (requested : TextMap) (allowed : List String) :
    List String → TextMap → Except String TextMap
  | [], environment => .ok environment
  | name :: rest, environment =>
    (validateEnvironmentName name).bind fun _ =>
    guardWith (!allowed.contains name) s!"environment variable {name.quote} is not permitted" <|
    let value := (requested.lookup name).getD ""
    guardWith (containsRune value nul) s!"environment variable {name.quote} contains NUL" <|
    guardWith (byteLength value > 16384)
      s!"environment variable {name.quote} exceeds maximum size" <|
    authorizeNames requested allowed rest (environment.insert name value)

def authorizeEnvironment (requested : TextMap) (allowed : List String) : Except String TextMap :=
  guardWith (requested.keys.length > 128) "too many environment variables" <|
  authorizeNames requested allowed (sortTexts requested.keys) ∅

/-- `Authz.AuthorizeLaunch`. -/
def authorizeLaunch (ctx : Option String) (credentials : ConnectionCredentials)
    (channel : AuthorizedChannel) (request : LaunchRequest) :
    Except String AuthorizedLaunchSpec :=
  match ctx with
  | some e => .error e
  | none =>
    let permissions := credentials.permissions
    let account := credentials.account
    let command := trimSpace request.command
    (wrap "validate connection credentials" credentials.validate).bind fun _ =>
    guardWith (channel.channelType ≠ commandChannelType || channel.credentialIdentity = none
        || channel.credentialIdentity ≠ credentials.identityToken)
      "authorized channel does not belong to these credentials" <|
    (authorizeKind permissions request).bind fun _ =>
    (authorizePTY permissions request.pty).bind fun pty =>
    (authorizeEnvironment request.environment permissions.allowedEnvironment).bind
      fun environment =>
    guardWith (!isAbs account.homeDir) "account home directory must be absolute" <|
    guardWith (!isAbs account.loginShell) "account login shell must be absolute" <|
    guardWith (containsRune command nul) "command contains NUL" <|
    guardWith (byteLength command > maxCommandLength) "command exceeds maximum size" <|
    .ok
      { kind := if permissions.forcedCommand ≠ "" then .exec else request.kind
        command := if permissions.forcedCommand ≠ "" then permissions.forcedCommand else command
        executable := account.loginShell
        workingDirectory := account.homeDir
        pty := pty
        environment := environment
        account := account }

/-! ## 3. What success means -/

theorem authorizeKind_eq_ok {permissions : ConnectionPermissions} {request : LaunchRequest}
    (h : authorizeKind permissions request = .ok ()) :
    request.kind = .shell ∧ permissions.allowShell = true ∧ trimSpace request.command = "" ∨
    request.kind = .exec ∧ permissions.allowExec = true := by
  unfold authorizeKind at h
  cases hk : request.kind with
  | shell =>
    rw [hk] at h
    obtain ⟨hs, h⟩ := guardWith_eq_ok h
    obtain ⟨hc, -⟩ := guardWith_eq_ok h
    exact .inl ⟨rfl, by simpa using hs, by simpa using hc⟩
  | exec =>
    rw [hk] at h
    obtain ⟨hx, -⟩ := guardWith_eq_ok h
    exact .inr ⟨rfl, by simpa using hx⟩
  | other text =>
    rw [hk] at h
    cases h

theorem authorizePTY_eq_ok {permissions : ConnectionPermissions} {asked pty : Option PTYRequest}
    (h : authorizePTY permissions asked = .ok pty) :
    pty = asked ∧ (asked ≠ none → permissions.allowPTY = true) := by
  cases asked with
  | none =>
    cases h
    exact ⟨rfl, fun h => absurd rfl h⟩
  | some p =>
    obtain ⟨ha, h⟩ := guardWith_eq_ok h
    obtain ⟨-, h⟩ := guardWith_eq_ok h
    obtain ⟨-, h⟩ := guardWith_eq_ok h
    cases h
    exact ⟨rfl, fun _ => by simpa using ha⟩

/-- Entries that are requested and allowed. -/
def EnvironmentOf (requested : TextMap) (allowed : List String) (environment : TextMap) : Prop :=
  ∀ name value, environment.lookup name = some value →
    requested.lookup name = some value ∧ name ∈ allowed

/-- One round adds one requested and allowed entry. -/
theorem EnvironmentOf.insert {requested environment : TextMap} {allowed : List String}
    {name : String} (h : EnvironmentOf requested allowed environment)
    (hr : name ∈ requested.keys) (ha : name ∈ allowed) :
    EnvironmentOf requested allowed
      (environment.insert name ((requested.lookup name).getD "")) := by
  intro n v hv
  rcases TextMap.lookup_insert_eq hv with ⟨rfl, rfl⟩ | ⟨-, hv⟩
  · obtain ⟨value, hvalue⟩ := Option.isSome_iff_exists.mp (AList.lookup_isSome.mpr hr)
    rw [hvalue]
    exact ⟨rfl, ha⟩
  · exact h n v hv

theorem authorizeNames_eq_ok {requested : TextMap} {allowed : List String} (names : List String) :
    ∀ {environment result : TextMap}, (∀ name ∈ names, name ∈ requested.keys) →
      EnvironmentOf requested allowed environment →
      authorizeNames requested allowed names environment = .ok result →
      EnvironmentOf requested allowed result := by
  induction names with
  | nil =>
    intro environment result _ henv h
    cases h
    exact henv
  | cons name rest ih =>
    intro environment result hnames henv h
    obtain ⟨_, -, h⟩ := bind_eq_ok h
    obtain ⟨ha, h⟩ := guardWith_eq_ok h
    obtain ⟨-, h⟩ := guardWith_eq_ok h
    obtain ⟨-, h⟩ := guardWith_eq_ok h
    have hallowed : name ∈ allowed := List.contains_iff_mem.mp (by simpa using ha)
    exact ih (fun n hn => hnames n (List.mem_cons_of_mem _ hn))
      (henv.insert (hnames name List.mem_cons_self) hallowed) h

theorem authorizeEnvironment_eq_ok {requested environment : TextMap} {allowed : List String}
    (h : authorizeEnvironment requested allowed = .ok environment) :
    EnvironmentOf requested allowed environment := by
  obtain ⟨-, h⟩ := guardWith_eq_ok h
  exact authorizeNames_eq_ok _ (fun _ hn => mem_sortTexts.mp hn) (fun _ _ hv => absurd hv (by simp)) h

/-- **What an authorized launch promises.** -/
structure Launches (credentials : ConnectionCredentials) (channel : AuthorizedChannel)
    (request : LaunchRequest) (spec : AuthorizedLaunchSpec) : Prop where
  token : channel.credentialIdentity = credentials.identityToken
  kind : request.kind = .shell ∧ credentials.permissions.allowShell = true ∧
      trimSpace request.command = "" ∨
    request.kind = .exec ∧ credentials.permissions.allowExec = true
  pty : spec.pty = request.pty
  ptyAllowed : request.pty ≠ none → credentials.permissions.allowPTY = true
  environment : EnvironmentOf request.environment credentials.permissions.allowedEnvironment
    spec.environment
  forced : credentials.permissions.forcedCommand ≠ "" →
    spec.kind = .exec ∧ spec.command = credentials.permissions.forcedCommand
  free : credentials.permissions.forcedCommand = "" →
    spec.kind = request.kind ∧ spec.command = trimSpace request.command
  account : spec.account = credentials.account
  executable : spec.executable = credentials.account.loginShell
  workingDirectory : spec.workingDirectory = credentials.account.homeDir

theorem authorizeLaunch_eq_ok {ctx : Option String} {credentials : ConnectionCredentials}
    {channel : AuthorizedChannel} {request : LaunchRequest} {spec : AuthorizedLaunchSpec}
    (h : authorizeLaunch ctx credentials channel request = .ok spec) :
    Launches credentials channel request spec := by
  cases ctx with
  | some e => cases h
  | none =>
    obtain ⟨_, -, h⟩ := bind_eq_ok h
    obtain ⟨hchannel, h⟩ := guardWith_eq_ok h
    obtain ⟨_, hkind, h⟩ := bind_eq_ok h
    obtain ⟨pty, hpty, h⟩ := bind_eq_ok h
    obtain ⟨environment, henv, h⟩ := bind_eq_ok h
    obtain ⟨-, h⟩ := guardWith_eq_ok h
    obtain ⟨-, h⟩ := guardWith_eq_ok h
    obtain ⟨-, h⟩ := guardWith_eq_ok h
    obtain ⟨-, h⟩ := guardWith_eq_ok h
    cases h
    obtain ⟨rfl, hallowed⟩ := authorizePTY_eq_ok hpty
    simp only [Bool.or_eq_false_iff, decide_eq_false_iff_not, not_not] at hchannel
    exact ⟨hchannel.2, authorizeKind_eq_ok hkind, rfl, hallowed, authorizeEnvironment_eq_ok henv,
      fun hf => ⟨if_pos hf, if_pos hf⟩, fun hf => ⟨if_neg (not_not.mpr hf), if_neg (not_not.mpr hf)⟩,
      rfl, rfl, rfl⟩

end Mygosh.Server

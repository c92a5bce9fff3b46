/-
  File:      Mygosh/Authz/Service.lean
  Subject:   From a start request to a process specification (`app/server/command/service.go`), and
             what the four layers together let through.

  Policy decision, key constraints, launch authorization and process specification each copy, trim,
  check and override parts of a request. `SoundLaunch` says what the specification may contain in
  terms of the first two and of the account; the theorem follows it through all layers.
-/
import Mygosh.Process.Spec

namespace Mygosh.Server

/-! ## 1. The start request and its translations -/

/-- `StartKind`, an integer type with two known values. -/
inductive StartKind where
  | shell
  | exec
  | other (value : Nat)
  deriving DecidableEq, Repr

/-- `command.StartRequest`. -/
structure StartRequest where
  kind : StartKind
  command : String
  pty : Option PTYRequest
  environment : TextMap
  deriving DecidableEq

/-- `trustedPath`. -/
def trustedPath : String := "/usr/local/bin:/usr/bin:/bin"

/-- The kind of the launch a start asks for. -/
def launchKind : StartKind → Except String LaunchKind
  | .shell => .ok .shell
  | .exec => .ok .exec
  | .other value => .error s!"unsupported command start kind {value}"

/-- The environment of the launch: the requested one, with `TERM` from the terminal. -/
def launchEnvironment (request : StartRequest) : Except String TextMap :=
  match request.pty with
  | none => .ok request.environment
  | some pty =>
    if pty.terminal = "" then .ok request.environment
    else
      guardWith ((request.environment.lookup "TERM").any (· ≠ pty.terminal))
        "PTY terminal conflicts with requested TERM" <|
      .ok (request.environment.insert "TERM" pty.terminal)

/-- `toLaunchRequest`. -/
def toLaunchRequest (request : StartRequest) : Except String LaunchRequest :=
  (launchKind request.kind).bind fun kind =>
  (launchEnvironment request).map fun environment =>
    { kind := kind, command := request.command, pty := request.pty, environment := environment }

/-- The arguments of an authorized launch. -/
def launchArgv (launch : AuthorizedLaunchSpec) : Except String (List String) :=
  match launch.kind with
  | .shell => .ok ["-" ++ filepathBase launch.executable]
  | .exec => .ok [filepathBase launch.executable, "-c", launch.command]
  | .other text => .error s!"unsupported authorized launch kind {text.quote}"

/-- The trusted part of the environment. -/
def trustedEnvironment (account : Account) (shell : String) : TextMap :=
  ((((∅ : TextMap).insert "PATH" trustedPath).insert "SHELL" shell).insert "LOGNAME"
    account.username).insert "USER" account.username |>.insert "HOME" account.homeDir

/-- `toProcessSpec`. -/
def toProcessSpec (launch : AuthorizedLaunchSpec) : Except String Spec :=
  (launchArgv launch).map fun argv =>
    { executable := launch.executable
      argv := argv
      workingDirectory := launch.workingDirectory
      trustedEnvironment := trustedEnvironment launch.account launch.executable
      requestedEnvironment := launch.environment
      uid := launch.account.id
      gid := launch.account.primaryGroup.id
      supplementaryGroups := launch.account.supplementaryGroups.map (·.id)
      pty := launch.pty
      terminationGrace := 0 }

/-- `authorizedStarter.Start` up to the runner, which validates the specification first. -/
def startSpec (ctx : Option String) (credentials : ConnectionCredentials)
    (authorized : AuthorizedChannel) (request : StartRequest) : Except String Spec :=
  (toLaunchRequest request).bind fun launchRequest =>
  (wrap "authorize command launch"
    (authorizeLaunch ctx credentials authorized launchRequest)).bind fun launch =>
  (toProcessSpec launch).bind fun spec =>
  (wrap "validate process specification" spec.validate).map fun _ => spec

/-! ## 2. What each translation keeps -/

theorem toLaunchRequest_eq_ok {request : StartRequest} {launch : LaunchRequest}
    (h : toLaunchRequest request = .ok launch) :
    launchKind request.kind = .ok launch.kind ∧ launchEnvironment request = .ok launch.environment ∧
      launch.command = request.command ∧ launch.pty = request.pty := by
  obtain ⟨kind, hk, h⟩ := bind_eq_ok h
  obtain ⟨environment, he, rfl⟩ := map_eq_ok h
  exact ⟨hk, he, rfl, rfl⟩

/-- An entry of the launch's environment was requested or is the terminal's `TERM`. -/
theorem launchEnvironment_eq_ok {request : StartRequest} {environment : TextMap}
    (h : launchEnvironment request = .ok environment) {name value : String}
    (hl : environment.lookup name = some value) :
    request.environment.lookup name = some value ∨
      name = "TERM" ∧ ∃ pty, request.pty = some pty ∧ value = pty.terminal := by
  unfold launchEnvironment at h
  split at h
  · cases h
    exact .inl hl
  · rename_i pty hpty
    split_ifs at h
    · cases h
      exact .inl hl
    · obtain ⟨-, h⟩ := guardWith_eq_ok h
      cases h
      rcases TextMap.lookup_insert_eq hl with ⟨rfl, rfl⟩ | ⟨-, hl⟩
      · exact .inr ⟨rfl, pty, hpty, rfl⟩
      · exact .inl hl

/-- The kinds correspond. -/
theorem launchKind_eq_ok {kind : StartKind} {launch : LaunchKind}
    (h : launchKind kind = .ok launch) :
    kind = .shell ∧ launch = .shell ∨ kind = .exec ∧ launch = .exec := by
  cases kind with
  | shell => cases h; exact .inl ⟨rfl, rfl⟩
  | exec => cases h; exact .inr ⟨rfl, rfl⟩
  | other value => cases h

/-- The trusted part has only protected names. -/
theorem trustedEnvironment_protected {account : Account} {shell name value : String}
    (h : (trustedEnvironment account shell).lookup name = some value) :
    name ∈ protectedEnvironment := by
  have hm : name ∈ trustedEnvironment account shell := AList.lookup_isSome.mp (by rw [h]; rfl)
  simpa [trustedEnvironment, protectedEnvironment, AList.mem_insert, -AList.insert_empty] using hm

/-! ## 3. Soundness of a launch -/

/-- The forced command in effect: the key's if it has one, else the policy's; a blank one of the
    policy is none. -/
def forcedCommand (decision : PermissionDecision) (key : MatchedKeyConstraints) : String :=
  if key.forcedCommand ≠ "" then trimSpace key.forcedCommand else trimSpace decision.forcedCommand

/-- The arguments a launch runs with: the forced command if there is one, else what was asked. -/
def launchedArgv (decision : PermissionDecision) (key : MatchedKeyConstraints) (shell : String)
    (request : StartRequest) : List String :=
  if forcedCommand decision key ≠ "" then
    [filepathBase shell, "-c", forcedCommand decision key]
  else if request.kind = .exec then [filepathBase shell, "-c", trimSpace request.command]
  else ["-" ++ filepathBase shell]

/-- **What a launch may contain**, in terms of the policy's decision, the constraints of the matched
    key, the resolved account and the start request. -/
structure SoundLaunch (decision : PermissionDecision) (key : MatchedKeyConstraints)
    (account : Account) (request : StartRequest) (spec : Spec) : Prop where
  pty : ∀ pty, spec.pty = some pty → request.pty = some pty ∧ decision.allowPTY = true ∧
    key.noPTY = false ∧ key.restricted = false
  kind : request.kind = .shell ∧ decision.allowShell = true ∧ trimSpace request.command = "" ∨
    request.kind = .exec ∧ decision.allowExec = true
  command : spec.argv = launchedArgv decision key account.loginShell request
  environment : ∀ name value, spec.combined.lookup name = some value →
    name ∉ protectedEnvironment →
    (request.environment.lookup name = some value ∨
      name = "TERM" ∧ ∃ pty, request.pty = some pty ∧ value = pty.terminal) ∧
    name ∈ decision.allowedEnvironment.map trimSpace
  home : spec.combined.lookup "HOME" = some account.homeDir
  user : spec.combined.lookup "USER" = some account.username
  logname : spec.combined.lookup "LOGNAME" = some account.username
  shell : spec.combined.lookup "SHELL" = some account.loginShell
  path : spec.combined.lookup "PATH" = some trustedPath
  uid : spec.uid = account.id
  gid : spec.gid = account.primaryGroup.id
  groups : spec.supplementaryGroups = account.supplementaryGroups.map (·.id)
  executable : spec.executable = account.loginShell
  workingDirectory : spec.workingDirectory = account.homeDir

section Sound

variable {a : Authz} {connection : ConnectionRequest} {heap : Heap} {decision : PermissionDecision}
  {credentials : ConnectionCredentials} {channel : AuthorizedChannel} {request : StartRequest}
  {launchRequest : LaunchRequest} {launch : AuthorizedLaunchSpec} {spec : Spec}

/-- The forced command of the snapshot is the one in effect. -/
theorem Issued.forced (hI : Issued a connection heap decision credentials) :
    credentials.permissions.forcedCommand =
      forcedCommand decision credentials.matchedKeyConstraints := by
  obtain ⟨merged, hm, hs⟩ := hI.permissions
  rw [hs.forced, hm.forced]
  unfold forcedCommand
  split_ifs <;> rfl

/-- The kind that was asked for is one the policy allows. -/
theorem Issued.kind (hI : Issued a connection heap decision credentials)
    (hL : Launches credentials channel launchRequest launch)
    (hR : toLaunchRequest request = .ok launchRequest) :
    request.kind = .shell ∧ decision.allowShell = true ∧ trimSpace request.command = "" ∨
      request.kind = .exec ∧ decision.allowExec = true := by
  obtain ⟨merged, hm, hs⟩ := hI.permissions
  obtain ⟨hkind, -, hcommand, -⟩ := toLaunchRequest_eq_ok hR
  rcases launchKind_eq_ok hkind with ⟨hk, hl⟩ | ⟨hk, hl⟩
  · rcases hL.kind with ⟨-, ha, hc⟩ | ⟨hx, -⟩
    · exact .inl ⟨hk, by rw [← hm.shell, ← hs.shell, ha], by rw [← hcommand, hc]⟩
    · rw [hl] at hx
      cases hx
  · rcases hL.kind with ⟨hx, -⟩ | ⟨-, ha⟩
    · rw [hl] at hx
      cases hx
    · exact .inr ⟨hk, by rw [← hm.exec, ← hs.exec, ha]⟩

/-- The arguments are those of the forced command, or of the request. -/
theorem Issued.argv (hI : Issued a connection heap decision credentials)
    (hL : Launches credentials channel launchRequest launch)
    (hR : toLaunchRequest request = .ok launchRequest) {argv : List String}
    (hA : launchArgv launch = .ok argv) :
    argv = launchedArgv decision credentials.matchedKeyConstraints credentials.account.loginShell
      request := by
  obtain ⟨hkind, -, hcommand, -⟩ := toLaunchRequest_eq_ok hR
  unfold launchArgv at hA
  unfold launchedArgv
  rw [hL.executable] at hA
  by_cases hf : forcedCommand decision credentials.matchedKeyConstraints = ""
  · obtain ⟨hk, hc⟩ := hL.free (hI.forced.trans hf)
    rw [if_neg (not_not.mpr hf)]
    rw [hk, hc, hcommand] at hA
    rcases launchKind_eq_ok hkind with ⟨hs, hl⟩ | ⟨hs, hl⟩
    · rw [hl] at hA
      rw [if_neg (by rw [hs]; decide)]
      cases hA
      rfl
    · rw [hl] at hA
      rw [if_pos hs]
      cases hA
      rfl
  · obtain ⟨hk, hc⟩ := hL.forced (by rw [hI.forced]; exact hf)
    rw [if_pos hf]
    rw [hk, hc, hI.forced] at hA
    cases hA
    rfl

/-- A requested entry is one that was asked for and that the policy allows. -/
theorem Issued.environment (hI : Issued a connection heap decision credentials)
    (hL : Launches credentials channel launchRequest launch)
    (hR : toLaunchRequest request = .ok launchRequest) {name value : String}
    (hl : launch.environment.lookup name = some value) :
    (request.environment.lookup name = some value ∨
      name = "TERM" ∧ ∃ pty, request.pty = some pty ∧ value = pty.terminal) ∧
    name ∈ decision.allowedEnvironment.map trimSpace := by
  obtain ⟨merged, hm, hs⟩ := hI.permissions
  obtain ⟨-, henv, -, -⟩ := toLaunchRequest_eq_ok hR
  obtain ⟨hreq, hallowed⟩ := hL.environment name value hl
  refine ⟨launchEnvironment_eq_ok henv hreq, ?_⟩
  rw [← hm.environment]
  exact (hs.environment name).mp hallowed

/-- A terminal was asked for and is allowed by policy and key. -/
theorem Issued.pty (hI : Issued a connection heap decision credentials)
    (hL : Launches credentials channel launchRequest launch)
    (hR : toLaunchRequest request = .ok launchRequest) {pty : PTYRequest}
    (hp : launch.pty = some pty) :
    request.pty = some pty ∧ decision.allowPTY = true ∧
      credentials.matchedKeyConstraints.noPTY = false ∧
      credentials.matchedKeyConstraints.restricted = false := by
  obtain ⟨merged, hm, hs⟩ := hI.permissions
  obtain ⟨-, -, -, hpty⟩ := toLaunchRequest_eq_ok hR
  rw [hL.pty] at hp
  have hallowed := hL.ptyAllowed (by rw [hp]; exact Option.some_ne_none _)
  exact ⟨by rw [← hpty, hp], hm.pty (by rw [← hs.pty, hallowed])⟩

end Sound

/-- **Whatever a client asks for, the process specification it leads to is sound** for the policy's
    decision, the constraints of the matched key and the account the name resolves to. -/
theorem launch_sound {a : Authz} {ctx₁ ctx₂ ctx₃ : Option String} {connection : ConnectionRequest}
    {heap : Heap} {credentials : ConnectionCredentials} {open_ : ChannelAuthorizationRequest}
    {channel : AuthorizedChannel} {request : StartRequest} {spec : Spec}
    (hc : (a.authorizeConnection ctx₁ connection heap).1 = .ok credentials)
    (_hg : authorizeChannel ctx₂ credentials open_ = .ok channel)
    (hs : startSpec ctx₃ credentials channel request = .ok spec) :
    ∃ account decision,
      a.resolve connection.verifiedClient.requestedUsername = .ok account ∧
      a.permissionPolicy connection account credentials.matchedSource = .ok decision ∧
      SoundLaunch decision credentials.matchedKeyConstraints account request spec := by
  obtain ⟨decision, hI⟩ := Authz.authorizeConnection_eq_ok hc
  obtain ⟨launchRequest, hR, hs⟩ := bind_eq_ok hs
  obtain ⟨launch, hlaunch, hs⟩ := bind_eq_ok hs
  have hL := authorizeLaunch_eq_ok (wrap_eq_ok hlaunch)
  obtain ⟨_, hspec, hs⟩ := bind_eq_ok hs
  obtain ⟨_, hv, rfl⟩ := map_eq_ok hs
  have hv := wrap_eq_ok hv
  obtain ⟨argv, hA, rfl⟩ := map_eq_ok hspec
  have htrusted {name : String} (hn : name ∈ protectedEnvironment) := Spec.combined_protected hv hn
  refine ⟨credentials.account, decision, hI.account, hI.decided, ?_⟩
  exact
    { pty := fun _ hp => hI.pty hL hR hp
      kind := hI.kind hL hR
      command := hI.argv hL hR hA
      environment := fun name value hl hn => by
        rcases Spec.combined_eq_some hl with hl | hl
        · exact hI.environment hL hR hl
        · exact absurd (trustedEnvironment_protected hl) hn
      home := by rw [htrusted (by decide), ← hL.account]; rfl
      user := by rw [htrusted (by decide), ← hL.account]; rfl
      logname := by rw [htrusted (by decide), ← hL.account]; rfl
      shell := by rw [htrusted (by decide), ← hL.executable]; rfl
      path := by rw [htrusted (by decide)]; rfl
      uid := by rw [← hL.account]
      gid := by rw [← hL.account]
      groups := by rw [← hL.account]
      executable := hL.executable
      workingDirectory := hL.workingDirectory }

/-! ## 4. A server with one user -/

/-- The key of the one user. -/
def soleKey : Keys.PublicKey := ⟨"ed25519", List.replicate 32 7, ""⟩

def soleAccount : Account :=
  ⟨"alice", "Alice", 1000, ⟨1000, "alice"⟩, [⟨27, "sudo"⟩], "/home/alice", "/bin/sh"⟩

/-- A server whose policy decides `decision` for its one user, whose key has the given options. -/
def soleServer (decision : PermissionDecision) (options : List AuthorizedKeyOption) : Authz where
  resolve _ := .ok soleAccount
  authorizedKeysPaths := ["~/.ssh/authorized_keys"]
  load _ _ := .entries "/home/alice/.ssh/authorized_keys" [⟨options, soleKey⟩]
  accountPolicy _ _ _ := .ok ()
  permissionPolicy _ _ _ := .ok decision
  unquote := .ok
  digest _ := "digest"

def soleConnection : ConnectionRequest := ⟨⟨"alice", soleKey⟩, "192.0.2.1:4000"⟩

/-- The credentials that server issues when the key has no options. -/
def soleCredentials (permissions : ConnectionPermissions) : ConnectionCredentials where
  authenticationMethod := "public-key"
  keyFingerprint := "SHA256:digest"
  requestedUsername := "alice"
  peerAddress := "192.0.2.1:4000"
  provedKey := soleKey
  account := soleAccount
  matchedSource := "/home/alice/.ssh/authorized_keys"
  matchedKeyConstraints := ⟨"", false, false⟩
  permissions := permissions
  identityToken := some zerobase

/-- A policy that allows shells and lists one environment name, with a blank before it. -/
def blankPolicy : PermissionDecision := ⟨true, true, false, false, "", [" LANG"]⟩

def langRequest : StartRequest := ⟨.shell, "", none, (∅ : TextMap).insert "LANG" "C"⟩

def langSpec : Spec where
  executable := "/bin/sh"
  argv := ["-sh"]
  workingDirectory := "/home/alice"
  trustedEnvironment := trustedEnvironment soleAccount "/bin/sh"
  requestedEnvironment := (∅ : TextMap).insert "LANG" "C"
  uid := 1000
  gid := 1000
  supplementaryGroups := [27]
  pty := none
  terminationGrace := 0

def langCredentials : ConnectionCredentials :=
  soleCredentials ⟨true, true, false, false, "", ["LANG"]⟩

/-- The server lets its user have a terminal, and the key has the option `command="uptime"`. -/
def forcedServer : Authz :=
  { soleServer ⟨true, true, false, true, "", ["TERM"]⟩ [⟨"command", "\"uptime\"", true⟩] with
    unquote := fun text => if text = "\"uptime\"" then .ok "uptime" else .error "invalid quoting" }

def forcedCredentials : ConnectionCredentials :=
  { soleCredentials ⟨true, true, false, true, "uptime", ["TERM"]⟩ with
    matchedKeyConstraints := ⟨"uptime", false, false⟩ }

def forcedRequest : StartRequest := ⟨.shell, "", some ⟨"xterm", 24, 80⟩, ∅⟩

def forcedSpec : Spec :=
  { langSpec with
    argv := ["sh", "-c", "uptime"]
    requestedEnvironment := (∅ : TextMap).insert "TERM" "xterm"
    pty := some ⟨"xterm", 24, 80⟩ }

/-- A shell in a terminal is asked for, and the forced command runs in it. -/
theorem launch_sound_forced :
    (forcedServer.authorizeConnection none soleConnection ⟨1⟩).1 = .ok forcedCredentials ∧
    ∃ account decision,
      forcedServer.resolve soleConnection.verifiedClient.requestedUsername = .ok account ∧
      forcedServer.permissionPolicy soleConnection account forcedCredentials.matchedSource =
        .ok decision ∧
      SoundLaunch decision forcedCredentials.matchedKeyConstraints account forcedRequest forcedSpec :=
  have hc : (forcedServer.authorizeConnection none soleConnection ⟨1⟩).1 =
      .ok forcedCredentials := rfl
  have hg : authorizeChannel none forcedCredentials ⟨"command", []⟩ =
      .ok ⟨"command", some zerobase⟩ := rfl
  have hs : startSpec none forcedCredentials ⟨"command", some zerobase⟩ forcedRequest =
      .ok forcedSpec := rfl
  ⟨hc, launch_sound hc hg hs⟩

/-- The process gets `LANG`, which is not in the policy's list: the list is trimmed on the way. -/
theorem lang_not_listed :
    ((soleServer blankPolicy []).authorizeConnection none soleConnection ⟨1⟩).1 =
      .ok langCredentials ∧
    authorizeChannel none langCredentials ⟨"command", []⟩ = .ok ⟨"command", some zerobase⟩ ∧
    startSpec none langCredentials ⟨"command", some zerobase⟩ langRequest = .ok langSpec ∧
    langSpec.combined.lookup "LANG" = some "C" ∧ "LANG" ∉ protectedEnvironment ∧
    "LANG" ∉ blankPolicy.allowedEnvironment :=
  ⟨rfl, rfl, rfl, rfl, by decide, by decide⟩

end Mygosh.Server

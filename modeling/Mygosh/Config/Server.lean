/-
  File:      Mygosh/Config/Server.lean
  Subject:   The server's configuration (`app/config/server.go`, with `Config` of `app/logging`):
             what `LoadServer` makes of the decoded file, and what it accepts.

  Reading the file and decoding it is the work of a library: what the file sets arrives here as
  `Settings`, and what it does not set has the registered default. Durations are in nanoseconds.
-/
import Mygosh.Authz.Permissions

namespace Mygosh.Config

open Mygosh.Server (wrap guardWith guardWith_eq_ok bind_eq_ok map_eq_ok maxCommandLength)

/-! ## 1. The library -/

/-- The functions of the standard library that the checks call: `net.SplitHostPort`,
    `strconv.Atoi`, `strings.ToUpper`. -/
structure Library where
  splitHostPort : String → Except String (String × String)
  atoi : String → Except String Int
  toUpper : String → String

/-! ## 2. The record -/

/-- `logging.Config`. -/
structure Log where
  level : String
  json : Bool
  file : String
  deriving DecidableEq, Repr

structure ServerDaemon where
  maxConnections : Int
  maxConnectionsPerIP : Int
  shutdownTimeout : Int
  deriving DecidableEq, Repr

structure ServerPermissions where
  allowShell : Bool
  allowExec : Bool
  allowPTY : Bool
  allowedEnvironment : List String
  forcedCommand : String
  deriving DecidableEq, Repr

/-- `Server`, with `ServerListen`, `ServerIdentity` and `ServerAuthorization` spread out; nil
    permissions are `none`. -/
structure Server where
  configFile : String
  listenAddress : String
  daemon : ServerDaemon
  hostKey : String
  authorizedKeys : List String
  permissions : Option ServerPermissions
  log : Log
  deriving DecidableEq, Repr

/-- What a file sets. -/
structure Settings where
  listenAddress : Option String
  maxConnections : Option Int
  maxConnectionsPerIP : Option Int
  shutdownTimeout : Option Int
  hostKey : Option String
  authorizedKeys : Option (List String)
  permissions : Option ServerPermissions
  logLevel : Option String
  logJSON : Option Bool
  logFile : Option String
  deriving DecidableEq, Repr

def defaultServerFile : String := "mygosh-server.toml"

def defaultAuthorizedKeys : List String := ["~/.mygosh/authorized_keys", "~/.ssh/authorized_keys"]

/-- The settings over the defaults that `LoadServer` registers. -/
def Settings.server (s : Settings) (path : String) : Server where
  configFile := path
  listenAddress := s.listenAddress.getD "localhost:42022"
  daemon :=
    { maxConnections := s.maxConnections.getD 32
      maxConnectionsPerIP := s.maxConnectionsPerIP.getD 4
      shutdownTimeout := s.shutdownTimeout.getD 5000000000 }
  hostKey := s.hostKey.getD "~/.mygosh/host_ed25519"
  authorizedKeys := s.authorizedKeys.getD defaultAuthorizedKeys
  permissions := s.permissions
  log := ⟨s.logLevel.getD "", s.logJSON.getD false, s.logFile.getD ""⟩

/-! ## 3. Checks -/

def logLevels : List String := ["", "NONE", "DEBUG", "INFO", "WARN", "ERROR", "FATAL"]

/-- `Config.Validate` of the logging package. -/
def Log.validate (lib : Library) (c : Log) : Except String Unit :=
  guardWith (lib.toUpper (trimSpace c.level) ∉ logLevels)
    s!"log.level must be one of DEBUG, INFO, WARN, ERROR, FATAL, NONE; got {c.level.quote}" <|
  .ok ()

/-- `NormalizeConfig`. -/
def normalizeConfig (lib : Library) (cfg : Log) (verbosity : Int) : Except String Log :=
  let level := lib.toUpper (trimSpace cfg.level)
  let level := if level = "WARNING" then "WARN" else level
  let level := if verbosity = 1 then "INFO" else level
  let level := if verbosity ≥ 2 then "DEBUG" else level
  let cfg := { cfg with level := level, file := trimSpace cfg.file }
  (cfg.validate lib).map fun _ => cfg

/-- The loop over the names in `ServerPermissions.Validate`; `seen` holds those already met. -/
def validateNames : List String → List String → Except String Unit
  | [], _ => .ok ()
  | name :: rest, seen =>
    guardWith (name = "" || containsAny name (String.ofList ['=', nul]) || byteLength name > 256)
      s!"authorization.permissions.allowed_environment contains invalid name {name.quote}" <|
    guardWith (seen.contains name)
      s!"authorization.permissions.allowed_environment contains duplicate {name.quote}" <|
    validateNames rest (name :: seen)

/-- `ServerPermissions.Validate`. -/
def ServerPermissions.validate (p : ServerPermissions) : Except String Unit :=
  guardWith (p.allowPTY && !p.allowShell && !p.allowExec)
    "authorization.permissions.allow_pty requires shell or exec permission" <|
  guardWith (p.forcedCommand ≠ "" && !p.allowShell && !p.allowExec)
    "authorization.permissions.forced_command requires shell or exec permission" <|
  guardWith (containsRune p.forcedCommand nul)
    "authorization.permissions.forced_command contains NUL" <|
  guardWith (byteLength p.forcedCommand > maxCommandLength)
    "authorization.permissions.forced_command exceeds maximum size" <|
  guardWith (p.allowedEnvironment.length > 128)
    "authorization.permissions.allowed_environment has too many entries" <|
  validateNames p.allowedEnvironment []

/-- The port of an address is a number that a port can be. -/
def portOk (lib : Library) (portText : String) : Bool :=
  match lib.atoi portText with
  | .ok port => 1 ≤ port ∧ port ≤ 65535
  | .error _ => false

/-- The checks of the permissions, which must be there. -/
def validatePermissions : Option ServerPermissions → Except String Unit
  | none => .error "authorization.permissions must be configured explicitly"
  | some p => p.validate

/-- `Server.Validate`. -/
def Server.validate (lib : Library) (s : Server) : Except String Unit :=
  (wrap "listen.address must be a host:port address" (lib.splitHostPort s.listenAddress)).bind
    fun (host, portText) =>
  guardWith (trimSpace host = "") "listen.address host must not be empty" <|
  guardWith (!portOk lib portText)
    s!"listen.address port must be between 1 and 65535, got {portText.quote}" <|
  guardWith (trimSpace s.hostKey = "") "identity.host_key must not be empty" <|
  guardWith (s.daemon.maxConnections < 1 || s.daemon.maxConnections > 4096)
    "daemon.max_connections must be between 1 and 4096" <|
  guardWith (s.daemon.maxConnectionsPerIP < 1 ||
      s.daemon.maxConnectionsPerIP > s.daemon.maxConnections)
    "daemon.max_connections_per_ip must be between 1 and daemon.max_connections" <|
  guardWith (s.daemon.shutdownTimeout ≤ 0 || s.daemon.shutdownTimeout > 300000000000)
    "daemon.shutdown_timeout must be greater than zero and at most 5m" <|
  guardWith (s.authorizedKeys.length = 0) "authorization.authorized_keys must not be empty" <|
  guardWith (s.authorizedKeys.contains "")
    "authorization.authorized_keys entries must not be empty" <|
  (validatePermissions s.permissions).bind fun _ =>
  s.log.validate lib

/-! ## 4. Loading -/

def ServerPermissions.trim (p : ServerPermissions) : ServerPermissions :=
  { p with
    forcedCommand := trimSpace p.forcedCommand
    allowedEnvironment := p.allowedEnvironment.map trimSpace }

/-- The part of `LoadServer` that takes white space off the texts. -/
def Server.trim (s : Server) : Server :=
  { s with
    listenAddress := trimSpace s.listenAddress
    hostKey := trimSpace s.hostKey
    authorizedKeys := s.authorizedKeys.map trimSpace
    permissions := s.permissions.map (·.trim) }

/-- `LoadServer`; `readInConfig` reads a file, `unmarshalExact` decodes it. -/
def loadServer {File : Type} (lib : Library) (readInConfig : String → Except String File)
    (unmarshalExact : File → Except String Settings) (path : String) (verbosity : Int) :
    Except String Server :=
  let path := if trimSpace path = "" then defaultServerFile else path
  (wrap s!"read server config file {path}" (readInConfig path)).bind fun file =>
  (wrap "decode server config" (unmarshalExact file)).bind fun settings =>
  let cfg := (settings.server path).trim
  (normalizeConfig lib cfg.log verbosity).bind fun log =>
  let cfg := { cfg with log := log }
  (cfg.validate lib).map fun _ => cfg

/-! ## 5. What an accepted configuration holds -/

section Accepted

variable {lib : Library} {s : Server}

/-- What an accepted record has been checked for, as far as the server relies on it. -/
structure Server.Accepted (s : Server) : Prop where
  connections : 1 ≤ s.daemon.maxConnections ∧ s.daemon.maxConnections ≤ 4096
  perIP : 1 ≤ s.daemon.maxConnectionsPerIP ∧ s.daemon.maxConnectionsPerIP ≤ s.daemon.maxConnections
  permissions : ∃ p, s.permissions = some p ∧ p.validate = .ok ()

theorem Server.validate_eq_ok (h : s.validate lib = .ok ()) : s.Accepted := by
  obtain ⟨⟨host, portText⟩, -, h⟩ := bind_eq_ok h
  obtain ⟨-, h⟩ := guardWith_eq_ok h
  obtain ⟨-, h⟩ := guardWith_eq_ok h
  obtain ⟨-, h⟩ := guardWith_eq_ok h
  obtain ⟨hmax, h⟩ := guardWith_eq_ok h
  obtain ⟨hper, h⟩ := guardWith_eq_ok h
  obtain ⟨-, h⟩ := guardWith_eq_ok h
  obtain ⟨-, h⟩ := guardWith_eq_ok h
  obtain ⟨-, h⟩ := guardWith_eq_ok h
  obtain ⟨_, hp, -⟩ := bind_eq_ok h
  simp only [gt_iff_lt, Bool.or_eq_false_iff, decide_eq_false_iff_not, not_lt] at hmax hper
  refine ⟨hmax, hper, ?_⟩
  cases hs : s.permissions with
  | none =>
    rw [hs] at hp
    cases hp
  | some p =>
    rw [hs] at hp
    exact ⟨p, rfl, hp⟩

/-- What `LoadServer` returns has passed `Validate`, and its texts are trimmed. -/
theorem loadServer_eq_ok {File : Type} {readInConfig : String → Except String File}
    {unmarshalExact : File → Except String Settings} {path : String} {verbosity : Int} {cfg : Server}
    (h : loadServer lib readInConfig unmarshalExact path verbosity = .ok cfg) :
    cfg.validate lib = .ok () ∧ ∃ raw : Option ServerPermissions, cfg.permissions = raw.map (·.trim) := by
  obtain ⟨file, -, h⟩ := bind_eq_ok h
  obtain ⟨settings, -, h⟩ := bind_eq_ok h
  obtain ⟨log, -, h⟩ := bind_eq_ok h
  obtain ⟨_, hv, rfl⟩ := map_eq_ok h
  exact ⟨hv, settings.permissions, rfl⟩

end Accepted

end Mygosh.Config

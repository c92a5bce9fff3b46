/-
  File:      Mygosh/Session/Config.lean
  Subject:   The session configuration (`lib/session/config.go`): limits, defaults, hard maxima
             and the two validators.

  Durations are integers of nanoseconds. A configuration a session runs with is a `Prepared`
  one: the defaults are filled in and `Config.validate` has accepted it, both as fields, so
  that no run is ever taken with a configuration the code would refuse.
-/
import Mygosh.Word

namespace Mygosh.Mux

/-! ## 1. Defaults and hard maxima -/

def defaultInitialWindow : Nat := 256 * 1024
def defaultMaxPacketSize : Nat := 16 * 1024
def defaultWindowAdjustTrigger : Nat := 64 * 1024
def defaultDisconnectTimeout : Int := 250 * 1000000
def defaultChannelCloseTimeout : Int := 5 * 1000000000

def defaultMaxChannels : Nat := 64
def defaultMaxPendingOpens : Nat := 32
def defaultMaxPendingChannelRequests : Nat := 1024
def defaultMaxPendingChannelRequestsPerChannel : Nat := 64
def defaultMaxPendingGlobalRequests : Nat := 128
def defaultMaxQueuedFramesPerChannel : Nat := 256
def defaultMaxQueuedFramesTotal : Nat := 8192
def defaultMaxQueuedBytesPerChannel : Nat := 1048576
def defaultMaxQueuedBytesTotal : Nat := 16777216
def defaultMaxControlPayload : Nat := 16384
def defaultMaxTypeLength : Nat := 128
def defaultMaxCodeLength : Nat := 64
def defaultMaxMessageLength : Nat := 1024

def hardMaxChannels : Nat := 1024
def hardMaxPendingOpens : Nat := 1024
def hardMaxPendingChannelRequests : Nat := 16 * 1024
def hardMaxPendingChannelRequestsPerChannel : Nat := 1024
def hardMaxPendingGlobalRequests : Nat := 2048
def hardMaxQueuedFramesPerChannel : Nat := 4096
def hardMaxQueuedFramesTotal : Nat := 64 * 1024
def hardMaxQueuedBytesPerChannel : Nat := 8388608
def hardMaxQueuedBytesTotal : Nat := 67108864
def hardMaxControlPayload : Nat := 24576
def hardMaxTypeLength : Nat := 256
def hardMaxCodeLength : Nat := 128
def hardMaxMessageLength : Nat := 4096

/-! ## 2. Limits -/

/-- `Limits`: the bounds on every peer-controlled collection of one session. -/
structure Limits where
  maxChannels : Nat
  maxPendingOpens : Nat
  maxPendingChannelRequests : Nat
  maxPendingChannelRequestsPerChannel : Nat
  maxPendingGlobalRequests : Nat
  maxQueuedFramesPerChannel : Nat
  maxQueuedFramesTotal : Nat
  maxQueuedBytesPerChannel : Nat
  maxQueuedBytesTotal : Nat
  maxControlPayload : Nat
  maxTypeLength : Nat
  maxCodeLength : Nat
  maxMessageLength : Nat
  deriving DecidableEq, Repr

/-- A zero field selects its default. -/
def orDefault (v d : Nat) : Nat := if v = 0 then d else v

def Limits.withDefaults (l : Limits) : Limits where
  maxChannels := orDefault l.maxChannels defaultMaxChannels
  maxPendingOpens := orDefault l.maxPendingOpens defaultMaxPendingOpens
  maxPendingChannelRequests :=
    orDefault l.maxPendingChannelRequests defaultMaxPendingChannelRequests
  maxPendingChannelRequestsPerChannel :=
    orDefault l.maxPendingChannelRequestsPerChannel defaultMaxPendingChannelRequestsPerChannel
  maxPendingGlobalRequests := orDefault l.maxPendingGlobalRequests defaultMaxPendingGlobalRequests
  maxQueuedFramesPerChannel :=
    orDefault l.maxQueuedFramesPerChannel defaultMaxQueuedFramesPerChannel
  maxQueuedFramesTotal := orDefault l.maxQueuedFramesTotal defaultMaxQueuedFramesTotal
  maxQueuedBytesPerChannel := orDefault l.maxQueuedBytesPerChannel defaultMaxQueuedBytesPerChannel
  maxQueuedBytesTotal := orDefault l.maxQueuedBytesTotal defaultMaxQueuedBytesTotal
  maxControlPayload := orDefault l.maxControlPayload defaultMaxControlPayload
  maxTypeLength := orDefault l.maxTypeLength defaultMaxTypeLength
  maxCodeLength := orDefault l.maxCodeLength defaultMaxCodeLength
  maxMessageLength := orDefault l.maxMessageLength defaultMaxMessageLength

/-- `check32` and `check64` of `Limits.Validate` (the same test at two widths). -/
def checkLimit (name : String) (value maximum : Nat) : Except String Unit :=
  if value = 0 then .error s!"{name} must be greater than zero"
  else if value > maximum then .error s!"{name} {value} exceeds hard maximum {maximum}"
  else .ok ()

/-- The table `Limits.Validate` walks, in its order, with the two byte limits checked after it. -/
def Limits.checks (l : Limits) : List (String × Nat × Nat) :=
  [("max channels", l.maxChannels, hardMaxChannels),
   ("max pending opens", l.maxPendingOpens, hardMaxPendingOpens),
   ("max pending channel requests", l.maxPendingChannelRequests, hardMaxPendingChannelRequests),
   ("max pending channel requests per channel", l.maxPendingChannelRequestsPerChannel,
     hardMaxPendingChannelRequestsPerChannel),
   ("max pending global requests", l.maxPendingGlobalRequests, hardMaxPendingGlobalRequests),
   ("max queued frames per channel", l.maxQueuedFramesPerChannel, hardMaxQueuedFramesPerChannel),
   ("max queued frames total", l.maxQueuedFramesTotal, hardMaxQueuedFramesTotal),
   ("max control payload", l.maxControlPayload, hardMaxControlPayload),
   ("max type length", l.maxTypeLength, hardMaxTypeLength),
   ("max code length", l.maxCodeLength, hardMaxCodeLength),
   ("max message length", l.maxMessageLength, hardMaxMessageLength),
   ("max queued bytes per channel", l.maxQueuedBytesPerChannel, hardMaxQueuedBytesPerChannel),
   ("max queued bytes total", l.maxQueuedBytesTotal, hardMaxQueuedBytesTotal)]

/-- The checks of a table, one after the other. -/
def runChecks : List (String × Nat × Nat) → Except String Unit
  | [] => .ok ()
  | (name, value, maximum) :: rest =>
    match checkLimit name value maximum with
    | .error e => .error e
    | .ok _ => runChecks rest

/-- The relations between limits, checked on a defaulted value. -/
def Limits.coherent (l : Limits) : Except String Unit :=
  if l.maxPendingOpens > l.maxChannels then
    .error "max pending opens cannot exceed max channels"
  else if l.maxPendingChannelRequestsPerChannel > l.maxPendingChannelRequests then
    .error "per-channel pending request limit cannot exceed connection limit"
  else if l.maxQueuedFramesPerChannel > l.maxQueuedFramesTotal then
    .error "per-channel queued frame limit cannot exceed connection limit"
  else if l.maxQueuedBytesPerChannel > l.maxQueuedBytesTotal then
    .error "per-channel queued byte limit cannot exceed connection limit"
  else .ok ()

/-- `Limits.Validate`. -/
def Limits.validate (l : Limits) : Except String Unit :=
  match runChecks l.withDefaults.checks with
  | .error e => .error e
  | .ok _ => l.withDefaults.coherent

/-! ## 3. Config -/

structure Config where
  initialWindow : Nat
  maxPacketSize : Nat
  windowAdjustThreshold : Nat
  disconnectTimeout : Int
  channelCloseTimeout : Int
  limits : Limits
  deriving DecidableEq, Repr

def Config.withDefaults (c : Config) : Config where
  initialWindow := orDefault c.initialWindow defaultInitialWindow
  maxPacketSize := orDefault c.maxPacketSize defaultMaxPacketSize
  windowAdjustThreshold := orDefault c.windowAdjustThreshold defaultWindowAdjustTrigger
  disconnectTimeout := if c.disconnectTimeout = 0 then defaultDisconnectTimeout else c.disconnectTimeout
  channelCloseTimeout :=
    if c.channelCloseTimeout = 0 then defaultChannelCloseTimeout else c.channelCloseTimeout
  limits := c.limits.withDefaults

/-- The body of `Config.Validate`, on the value with its defaults. -/
def Config.check (c : Config) : Except String Unit :=
  if c.initialWindow = 0 then .error "initial window must be greater than zero"
  else if c.maxPacketSize = 0 then .error "max packet size must be greater than zero"
  else if c.maxPacketSize > c.initialWindow then
    .error s!"max packet size {c.maxPacketSize} exceeds initial window {c.initialWindow}"
  else if c.maxPacketSize > hardMaxControlPayload then
    .error s!"max packet size {c.maxPacketSize} exceeds protocol maximum {hardMaxControlPayload}"
  else if c.windowAdjustThreshold = 0 then
    .error "window adjust threshold must be greater than zero"
  else if c.windowAdjustThreshold > c.initialWindow then
    .error s!"window adjust threshold {c.windowAdjustThreshold} exceeds initial window {c.initialWindow}"
  else if c.initialWindow = maxUint32 then .error "initial window must be less than max uint32"
  else if c.disconnectTimeout < 0 then .error "disconnect timeout must be non-negative"
  else if c.channelCloseTimeout ≤ 0 then .error "channel close timeout must be greater than zero"
  else match c.limits.validate with
    | .error e => .error s!"validate session limits: {e}"
    | .ok _ =>
      if c.maxPacketSize > c.limits.maxQueuedBytesPerChannel then
        .error "max packet size cannot exceed per-channel queued byte limit"
      else if c.maxPacketSize > c.limits.maxQueuedBytesTotal then
        .error "max packet size cannot exceed total queued byte limit"
      else if c.limits.maxControlPayload > c.limits.maxQueuedBytesTotal then
        .error "max control payload cannot exceed total queued byte limit"
      else .ok ()

/-- `Config.Validate`. The fields of the Go type are `uint32` and `uint64`, so a value of it is
    below `2 ^ 32` (or `2 ^ 64`) before the check. -/
def Config.validate (c : Config) : Except String Unit := c.withDefaults.check

/-- The window fields fit the `uint32` the Go type gives them. -/
def Config.InRange (c : Config) : Prop :=
  c.initialWindow ≤ maxUint32 ∧ c.maxPacketSize ≤ maxUint32 ∧ c.windowAdjustThreshold ≤ maxUint32

instance (c : Config) : Decidable c.InRange := inferInstanceAs (Decidable (_ ∧ _ ∧ _))

theorem orDefault_idem {v d : Nat} (hd : d ≠ 0) : orDefault (orDefault v d) d = orDefault v d := by
  unfold orDefault
  by_cases hv : v = 0
  · rw [if_pos hv, if_neg hd]
  · rw [if_neg hv, if_neg hv]

theorem Limits.withDefaults_idem (l : Limits) : l.withDefaults.withDefaults = l.withDefaults := by
  unfold Limits.withDefaults
  congr 1 <;> exact orDefault_idem (by decide)

/-- Filling in the defaults twice changes nothing, so a prepared configuration validates as it
    stands. -/
theorem Config.withDefaults_idem (c : Config) : c.withDefaults.withDefaults = c.withDefaults := by
  unfold Config.withDefaults
  congr 1
  · exact orDefault_idem (by decide)
  · exact orDefault_idem (by decide)
  · exact orDefault_idem (by decide)
  · by_cases h : c.disconnectTimeout = 0 <;> simp [h, defaultDisconnectTimeout]
  · by_cases h : c.channelCloseTimeout = 0 <;> simp [h, defaultChannelCloseTimeout]
  · exact Limits.withDefaults_idem _

/-- `Prepared`, less its handler: a configuration with its defaults that `Config.validate`
    accepts. -/
structure Prepared where
  config : Config
  inRange : config.InRange
  defaulted : config.withDefaults = config
  accepted : config.validate = .ok ()

theorem orDefault_le {v d m : Nat} (hv : v ≤ m) (hd : d ≤ m) : orDefault v d ≤ m := by
  unfold orDefault
  split <;> assumption

/-- `Prepare`. -/
def prepare (c : Config) (h : c.InRange) : Except String Prepared :=
  match hv : c.validate with
  | .error e => .error s!"validate session mux config: {e}"
  | .ok _ => .ok
      { config := c.withDefaults
        inRange := ⟨orDefault_le h.1 (by decide), orDefault_le h.2.1 (by decide),
          orDefault_le h.2.2 (by decide)⟩
        defaulted := c.withDefaults_idem
        accepted := by unfold Config.validate at hv ⊢; rw [c.withDefaults_idem]; exact hv }

/-- **What an accepted configuration promises about its windows.** -/
structure Config.Windows (c : Config) : Prop where
  packetPos : 0 < c.maxPacketSize
  packetLe : c.maxPacketSize ≤ c.initialWindow
  thresholdPos : 0 < c.windowAdjustThreshold
  thresholdLe : c.windowAdjustThreshold ≤ c.initialWindow
  windowLt : c.initialWindow < maxUint32

/-- A guard that passed: its test was false and the rest accepted. -/
theorem ite_error_eq_ok {p : Prop} [Decidable p] {e : String} {x : Except String Unit}
    (h : (if p then .error e else x) = .ok ()) : ¬ p ∧ x = .ok () := by
  by_cases hp : p
  · rw [if_pos hp] at h
    cases h
  · rw [if_neg hp] at h
    exact ⟨hp, h⟩

theorem Config.windows_of_check {c : Config} (hr : c.InRange) (h : c.check = .ok ()) :
    c.Windows := by
  unfold Config.check at h
  obtain ⟨_, h⟩ := ite_error_eq_ok h
  obtain ⟨h2, h⟩ := ite_error_eq_ok h
  obtain ⟨h3, h⟩ := ite_error_eq_ok h
  obtain ⟨_, h⟩ := ite_error_eq_ok h
  obtain ⟨h5, h⟩ := ite_error_eq_ok h
  obtain ⟨h6, h⟩ := ite_error_eq_ok h
  obtain ⟨h7, _⟩ := ite_error_eq_ok h
  have hlt := hr.1
  exact ⟨by omega, by omega, by omega, by omega, by omega⟩

theorem Prepared.windows (p : Prepared) : p.config.Windows := by
  have h := p.accepted
  unfold Config.validate at h
  rw [p.defaulted] at h
  exact Config.windows_of_check p.inRange h

/-- The packets an accepted configuration announces are at most the protocol's. -/
theorem Prepared.packet_le (p : Prepared) : p.config.maxPacketSize ≤ hardMaxControlPayload := by
  have h := p.accepted
  unfold Config.validate at h
  rw [p.defaulted, Config.check] at h
  iterate 3 obtain ⟨_, h⟩ := ite_error_eq_ok h
  exact Nat.le_of_not_lt (ite_error_eq_ok h).1

/-- A table of checks that passed: every value is at most its maximum. -/
theorem runChecks_le {l : List (String × Nat × Nat)} (h : runChecks l = .ok ()) {name : String}
    {value maximum : Nat} (hm : (name, value, maximum) ∈ l) : value ≤ maximum := by
  induction l with
  | nil => cases hm
  | cons c l ih =>
    obtain ⟨name', value', maximum'⟩ := c
    rw [runChecks] at h
    split at h
    · cases h
    · rename_i hc
      rcases List.mem_cons.mp hm with heq | hm
      · cases heq
        obtain ⟨-, hc⟩ := ite_error_eq_ok hc
        exact Nat.le_of_not_lt (ite_error_eq_ok hc).1
      · exact ih h hm

/-- **The limits of an accepted configuration are at most the hard maxima.** -/
theorem Prepared.limit_le (p : Prepared) {name : String} {value maximum : Nat}
    (hm : (name, value, maximum) ∈ p.config.limits.checks) : value ≤ maximum := by
  have hd : p.config.limits.withDefaults = p.config.limits := congrArg Config.limits p.defaulted
  have h := p.accepted
  unfold Config.validate at h
  rw [p.defaulted, Config.check] at h
  iterate 9 obtain ⟨_, h⟩ := ite_error_eq_ok h
  split at h
  · cases h
  · rename_i hv
    unfold Limits.validate at hv
    rw [hd] at hv
    split at hv
    · cases hv
    · rename_i hc
      exact runChecks_le hc hm

/-- A configuration with windows of four bytes. -/
def narrow : Prepared where
  config := ⟨4, 4, 4, 1, 1, ⟨8, 8, 8, 8, 8, 8, 64, 1024, 4096, 64, 64, 64, 64⟩⟩
  inRange := by decide
  defaulted := by decide
  accepted := rfl

/-- A configuration with room for a packet beside what is withheld. -/
def roomy : Prepared where
  config := ⟨8, 4, 4, 1, 1, ⟨8, 8, 8, 8, 8, 8, 64, 1024, 4096, 64, 64, 64, 64⟩⟩
  inRange := by decide
  defaulted := by decide
  accepted := rfl

end Mygosh.Mux

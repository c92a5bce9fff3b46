/-
  File:      Mygosh/Config/Permissions.lean
  Subject:   The configured permissions at login: what `LoadServer` accepts, `newConnectionPermissions`
             accepts too, and without a change.

  The two validators are written apart. The configuration's establishes `Coherent` of the trimmed
  permissions, which is what the runtime's wants.
-/
import Mygosh.Config.Server
import Mygosh.Authz.Coherent

namespace Mygosh.Config

open Mygosh.Server (PermissionDecision ConnectionPermissions MatchedKeyConstraints AuthorizedKeyOption
  newConnectionPermissions applyMatchedKeyConstraints parseAuthorizedKeyConstraints
  parseOptions_terminal parseAuthorizedKeyConstraints_wellFormed Coherent needsLaunch_iff
  coherent_of_accepted validateEnvironmentName guardWith_eq_ok guardWith_false)

/-! ## 1. The policy of `RunServer` -/

/-- The decision of `RunServer`'s permission policy. -/
def ServerPermissions.decision (p : ServerPermissions) : PermissionDecision where
  allowCommand := p.allowShell || p.allowExec
  allowShell := p.allowShell
  allowExec := p.allowExec
  allowPTY := p.allowPTY
  forcedCommand := p.forcedCommand
  allowedEnvironment := p.allowedEnvironment

/-- `ResolvePermissions` of that policy; without permissions it would read through a nil pointer. -/
def Server.resolvePermissions (cfg : Server) : Option PermissionDecision :=
  cfg.permissions.map (·.decision)

/-! ## 2. The configuration's validator -/

theorem validateNames_eq_ok {names seen : List String} (h : validateNames names seen = .ok ()) :
    (∀ name ∈ names, validateEnvironmentName name = .ok ()) ∧ names.Nodup ∧
      ∀ name ∈ names, name ∉ seen := by
  induction names generalizing seen with
  | nil => exact ⟨(fun _ h => nomatch h), List.nodup_nil, (fun _ h => nomatch h)⟩
  | cons name rest ih =>
    obtain ⟨hvalid, h⟩ := guardWith_eq_ok h
    obtain ⟨hseen, h⟩ := guardWith_eq_ok h
    obtain ⟨hall, hnodup, hnew⟩ := ih h
    simp only [Bool.or_eq_false_iff] at hvalid
    have hname : validateEnvironmentName name = .ok () := by
      unfold validateEnvironmentName
      rw [guardWith_false hvalid.1.1, guardWith_false hvalid.1.2, guardWith_false hvalid.2]
    have hfresh : name ∉ rest := fun hin => hnew name hin List.mem_cons_self
    refine ⟨List.forall_mem_cons.mpr ⟨hname, hall⟩, List.nodup_cons.mpr ⟨hfresh, hnodup⟩,
      List.forall_mem_cons.mpr ⟨fun hin => ?_, fun n hn hin => ?_⟩⟩
    · rw [List.contains_iff_mem.mpr hin] at hseen
      cases hseen
    · exact hnew n hn (List.mem_cons_of_mem _ hin)

/-- **An accepted configuration is coherent.** -/
theorem ServerPermissions.coherent {p : ServerPermissions} (h : p.trim.validate = .ok ()) :
    Coherent p.trim.decision := by
  obtain ⟨hpty, h⟩ := guardWith_eq_ok h
  obtain ⟨hforced, h⟩ := guardWith_eq_ok h
  obtain ⟨hnul, h⟩ := guardWith_eq_ok h
  obtain ⟨hsize, h⟩ := guardWith_eq_ok h
  obtain ⟨hcount, h⟩ := guardWith_eq_ok h
  obtain ⟨hall, hnodup, -⟩ := validateNames_eq_ok h
  refine ⟨fun hl => ?_, needsLaunch_iff.mp hpty, fun hf => needsLaunch_iff.mp hforced (decide_eq_true hf),
    hnul, not_lt.mp (of_decide_eq_false hsize), trimSpace_trimSpace _,
    not_lt.mp (of_decide_eq_false hcount), fun name hname => ⟨hall name hname, ?_⟩, hnodup⟩
  · exact Bool.or_eq_true_iff.mpr hl
  · obtain ⟨raw, -, rfl⟩ := List.mem_map.mp hname
    exact trimSpace_trimSpace raw

/-! ## 3. Agreement -/

/-- **The two validators agree.** For every accepted configuration and every key whose options are
    `no-pty` and `restrict` at most, the decision of the policy is accepted at login, with the shell,
    the commands, the forced command and the names of the configuration, and with the terminal if and
    only if it is configured and the key has no such option; and what the runtime accepts it accepts
    again unchanged. -/
theorem validators_agree :
    (∀ (File : Type) (lib : Library) (readInConfig : String → Except String File)
      (unmarshalExact : File → Except String Settings) (path : String) (verbosity : Int) (cfg : Server),
      loadServer lib readInConfig unmarshalExact path verbosity = .ok cfg →
      cfg.validate lib = .ok () ∧
      ∃ p, cfg.permissions = some p ∧ ∃ decision, cfg.resolvePermissions = some decision ∧
        ∀ (unquote : String → Except String String) (options : List AuthorizedKeyOption)
          (constraints : MatchedKeyConstraints),
          parseAuthorizedKeyConstraints unquote options = .ok constraints →
          (∀ option ∈ options, option.name = "no-pty" ∨ option.name = "restrict") →
          ∃ merged permissions, applyMatchedKeyConstraints decision constraints = .ok merged ∧
            newConnectionPermissions merged = .ok permissions ∧
            permissions.allowCommand = (p.allowShell || p.allowExec) ∧
            permissions.allowShell = p.allowShell ∧ permissions.allowExec = p.allowExec ∧
            permissions.forcedCommand = p.forcedCommand ∧
            (permissions.allowPTY = true ↔ p.allowPTY = true ∧ options = []) ∧
            permissions.allowedEnvironment.Perm p.allowedEnvironment) ∧
    ∀ decision permissions, newConnectionPermissions decision = .ok permissions →
      newConnectionPermissions permissions.decision = .ok permissions := by
  constructor
  · intro File lib readInConfig unmarshalExact path verbosity cfg h
    obtain ⟨hvalid, raw, hraw⟩ := loadServer_eq_ok h
    obtain ⟨p, hp, hpv⟩ := (Server.validate_eq_ok hvalid).permissions
    obtain ⟨q, -, rfl⟩ := Option.map_eq_some_iff.mp (hraw.symm.trans hp)
    have hdecision : cfg.resolvePermissions = some q.trim.decision := by
      rw [Server.resolvePermissions, hp]
      rfl
    refine ⟨hvalid, q.trim, hp, q.trim.decision, hdecision, fun unquote options c hc ho => ?_⟩
    obtain ⟨hcmd, hpty⟩ := parseOptions_terminal ho hc
    obtain ⟨hmerged, hcoh⟩ := (ServerPermissions.coherent hpv).constrained
      (parseAuthorizedKeyConstraints_wellFormed hc) hcmd
    refine ⟨_, _, hmerged, hcoh.accepted, rfl, rfl, rfl, rfl, ?_, List.perm_insertionSort _ _⟩
    simp [hpty, ServerPermissions.decision]
  · intro decision permissions h
    obtain ⟨hcoh, hsorted⟩ := coherent_of_accepted h
    rw [hcoh.accepted]
    simp only [ConnectionPermissions.decision, hsorted]

/-- A file that allows everything and two names, one of them with blanks around it, and a key with the
    option `restrict`. -/
theorem validators_agree_restrict : ∃ (cfg : Server) (decision merged : PermissionDecision)
    (permissions : ConnectionPermissions), cfg.resolvePermissions = some decision ∧
    applyMatchedKeyConstraints decision ⟨"", true, true⟩ = .ok merged ∧
    newConnectionPermissions merged = .ok permissions ∧
    permissions.allowPTY = false ∧ permissions.allowedEnvironment.Perm ["TERM", "LANG"] ∧
    newConnectionPermissions permissions.decision = .ok permissions := by
  let lib : Library :=
    ⟨fun _ => .ok ("localhost", "42022"), fun _ => .ok 42022, fun text => text⟩
  let settings : Settings :=
    ⟨none, none, none, none, none, none, some ⟨true, true, true, ["TERM", "  LANG "], ""⟩, none, none,
      none⟩
  let cfg : Server :=
    ⟨"server.toml", "localhost:42022", ⟨32, 4, 5000000000⟩, "~/.mygosh/host_ed25519",
      defaultAuthorizedKeys, some ⟨true, true, true, ["TERM", "LANG"], ""⟩, ⟨"", false, ""⟩⟩
  have hload : loadServer lib (fun _ => .ok ()) (fun _ => .ok settings) "server.toml" 0 = .ok cfg := by
    decide +kernel
  obtain ⟨-, p, hp, decision, hdecision, hkeys⟩ := validators_agree.1 Unit lib _ _ _ _ cfg hload
  obtain ⟨merged, permissions, hmerged, hnew, -, -, -, -, hpty, henv⟩ :=
    hkeys (fun text => .ok text) [⟨"restrict", "", false⟩] ⟨"", true, true⟩ (by decide +kernel)
      (by simp)
  obtain rfl := Option.some.inj hp
  refine ⟨cfg, decision, merged, permissions, hdecision, hmerged, hnew, ?_, henv,
    validators_agree.2 merged permissions hnew⟩
  simpa using hpty

end Mygosh.Config

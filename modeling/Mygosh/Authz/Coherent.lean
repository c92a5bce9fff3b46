/-
  File:      Mygosh/Authz/Coherent.lean
  Subject:   The decisions that `newConnectionPermissions` takes as they are.

  `Coherent` says what the runtime wants of a decision that needs no more trimming. What it has accepted
  is coherent, a coherent decision is accepted unchanged but for the order of the names, and the
  constraints of a key without a command keep it coherent.
-/
import Mygosh.Authz.Permissions

namespace Mygosh.Server

/-! ## 1. What the runtime wants -/

/-- A decision that the runtime takes as it is, but for the order of the names. -/
structure Coherent (d : PermissionDecision) : Prop where
  launches : d.allowShell = true ∨ d.allowExec = true → d.allowCommand = true
  pty : d.allowPTY = true → d.allowShell = true ∨ d.allowExec = true
  forced : d.forcedCommand ≠ "" → d.allowShell = true ∨ d.allowExec = true
  noNul : containsRune d.forcedCommand nul = false
  size : byteLength d.forcedCommand ≤ maxCommandLength
  trimmed : trimSpace d.forcedCommand = d.forcedCommand
  count : d.allowedEnvironment.length ≤ 128
  names : ∀ name ∈ d.allowedEnvironment, validateEnvironmentName name = .ok () ∧ trimSpace name = name
  nodup : d.allowedEnvironment.Nodup

/-- The decision that `ConnectionPermissions.validate` checks again. -/
def ConnectionPermissions.decision (p : ConnectionPermissions) : PermissionDecision :=
  ⟨p.allowCommand, p.allowShell, p.allowExec, p.allowPTY, p.forcedCommand, p.allowedEnvironment⟩

/-- The guard that a permission needs a shell or a command. -/
theorem needsLaunch_iff {a shell exec : Bool} :
    (a && !shell && !exec) = false ↔ (a = true → shell = true ∨ exec = true) := by
  cases a <;> cases shell <;> cases exec <;> simp

/-! ## 2. What it accepts -/

section Runtime

variable {d : PermissionDecision} {p : ConnectionPermissions} {names allowed result : List String}

/-- Names that are trimmed, valid, distinct and new are all taken. -/
theorem allowNames_of_distinct
    (hok : ∀ name ∈ names, validateEnvironmentName name = .ok () ∧ trimSpace name = name)
    (hnodup : names.Nodup) (hnew : ∀ name ∈ names, name ∉ allowed) :
    allowNames names allowed = .ok (allowed ++ names) := by
  induction names generalizing allowed with
  | nil => rw [List.append_nil]; rfl
  | cons name rest ih =>
    obtain ⟨hvalid, htrim⟩ := hok name List.mem_cons_self
    obtain ⟨hfresh, hrest⟩ := List.nodup_cons.mp hnodup
    have hnot : allowed.contains name = false := by
      rw [List.contains_eq_mem]
      exact decide_eq_false (hnew name List.mem_cons_self)
    have hnext : ∀ other ∈ rest, other ∉ allowed ++ [name] := by
      intro other hmem hin
      rcases List.mem_append.mp hin with hin | hin
      · exact hnew other (List.mem_cons_of_mem _ hmem) hin
      · exact hfresh (List.mem_singleton.mp hin ▸ hmem)
    calc allowNames (name :: rest) allowed = allowNames rest (allowed ++ [name]) := by
          rw [allowNames, htrim, hvalid]
          simp only [Except.bind, hnot, Bool.false_eq_true, if_false]
      _ = .ok (allowed ++ name :: rest) := by
          rw [ih (fun n hn => hok n (List.mem_cons_of_mem _ hn)) hrest hnext, List.append_assoc]
          rfl

/-- The names that are taken are trimmed, valid and distinct, and no more than were given. -/
theorem allowNames_distinct (h : allowNames names allowed = .ok result)
    (hok : ∀ name ∈ allowed, validateEnvironmentName name = .ok () ∧ trimSpace name = name)
    (hnodup : allowed.Nodup) :
    (∀ name ∈ result, validateEnvironmentName name = .ok () ∧ trimSpace name = name) ∧
      result.Nodup ∧ result.length ≤ allowed.length + names.length := by
  induction names generalizing allowed with
  | nil =>
    cases h
    exact ⟨hok, hnodup, Nat.le_add_right _ _⟩
  | cons name rest ih =>
    obtain ⟨_, hvalid, h⟩ := bind_eq_ok h
    split_ifs at h with hseen
    · obtain ⟨hall, hdist, hlen⟩ := ih h hok hnodup
      exact ⟨hall, hdist, hlen.trans (by simp)⟩
    · have hfresh : trimSpace name ∉ allowed := by
        intro hin
        exact hseen (List.contains_iff_mem.mpr hin)
      have hok' : ∀ n ∈ allowed ++ [trimSpace name],
          validateEnvironmentName n = .ok () ∧ trimSpace n = n := by
        intro n hn
        rcases List.mem_append.mp hn with hn | hn
        · exact hok n hn
        · rw [List.mem_singleton.mp hn]
          exact ⟨hvalid, trimSpace_trimSpace name⟩
      obtain ⟨hall, hdist, hlen⟩ := ih h hok' (List.nodup_append.mpr
        ⟨hnodup, List.nodup_singleton _, fun a ha b hb => by
          rintro rfl
          exact hfresh (List.mem_singleton.mp hb ▸ ha)⟩)
      refine ⟨hall, hdist, hlen.trans ?_⟩
      simp only [List.length_append, List.length_cons, List.length_nil]
      omega

/-- **A coherent decision is taken as it is.** -/
theorem Coherent.accepted (h : Coherent d) : newConnectionPermissions d = .ok
    { allowCommand := d.allowCommand, allowShell := d.allowShell, allowExec := d.allowExec,
      allowPTY := d.allowPTY, forcedCommand := d.forcedCommand,
      allowedEnvironment := sortTexts d.allowedEnvironment } := by
  have hforced : (decide (d.forcedCommand ≠ "") && !d.allowShell && !d.allowExec) = false :=
    needsLaunch_iff.mpr fun hf => h.forced (of_decide_eq_true hf)
  have hpty : (d.allowPTY && !d.allowShell && !d.allowExec) = false := needsLaunch_iff.mpr h.pty
  -- each of the four permissions needs one of the first two, and these come with the first guard's
  have hsub : ((d.allowShell || d.allowExec || d.allowPTY || decide (d.forcedCommand ≠ "")) &&
      !d.allowCommand) = false := by
    cases hc : d.allowCommand with
    | true => simp
    | false =>
      have hnone : ¬(d.allowShell = true ∨ d.allowExec = true) := fun hl =>
        nomatch hc.symm.trans (h.launches hl)
      have hp : d.allowPTY = false := Bool.eq_false_iff.mpr fun hp => hnone (h.pty hp)
      have hf : d.forcedCommand = "" := by
        by_contra hf
        exact hnone (h.forced hf)
      rw [not_or, Bool.not_eq_true, Bool.not_eq_true] at hnone
      simp [hnone, hp, hf]
  have hnames : allowNames d.allowedEnvironment [] = .ok d.allowedEnvironment :=
    allowNames_of_distinct h.names h.nodup fun _ _ => List.not_mem_nil
  have hcount := h.count
  have hsize := h.size
  unfold newConnectionPermissions
  simp only [h.trimmed]
  rw [guardWith_false h.noNul, guardWith_false (decide_eq_false (by omega)), guardWith_false hsub,
    guardWith_false hforced, guardWith_false hpty, guardWith_false (decide_eq_false (by omega)), hnames]
  rfl

/-- **What the runtime accepts is coherent**, and its names are in order. -/
theorem coherent_of_accepted (h : newConnectionPermissions d = .ok p) :
    Coherent p.decision ∧ sortTexts p.allowedEnvironment = p.allowedEnvironment := by
  have hlaunches := (newConnectionPermissions_eq_ok h).launches
  obtain ⟨hnul, h⟩ := guardWith_eq_ok h
  obtain ⟨hsize, h⟩ := guardWith_eq_ok h
  obtain ⟨-, h⟩ := guardWith_eq_ok h
  obtain ⟨hforced, h⟩ := guardWith_eq_ok h
  obtain ⟨hpty, h⟩ := guardWith_eq_ok h
  obtain ⟨hcount, h⟩ := guardWith_eq_ok h
  obtain ⟨allowed, ha, rfl⟩ := map_eq_ok h
  obtain ⟨hnames, hnodup, hlen⟩ := allowNames_distinct ha (fun _ h => nomatch h) List.nodup_nil
  have hperm : (sortTexts allowed).Perm allowed := List.perm_insertionSort _ _
  refine ⟨⟨hlaunches, needsLaunch_iff.mp hpty, fun hf => ?_, hnul, ?_, trimSpace_trimSpace _, ?_,
    fun name hname => hnames name (mem_sortTexts.mp hname), hperm.nodup_iff.mpr hnodup⟩,
    sortTexts_sortTexts allowed⟩
  · exact needsLaunch_iff.mp hforced (decide_eq_true hf)
  · exact not_lt.mp (of_decide_eq_false hsize)
  · have := not_lt.mp (of_decide_eq_false hcount)
    calc (sortTexts allowed).length = allowed.length := hperm.length_eq
      _ ≤ d.allowedEnvironment.length := by simpa using hlen
      _ ≤ 128 := this

/-- The constraints of a key take the terminal away, and a coherent decision stays coherent. -/
theorem Coherent.constrained {c : MatchedKeyConstraints} (h : Coherent d) (hc : c.WellFormed)
    (hcmd : c.forcedCommand = "") :
    applyMatchedKeyConstraints d c = .ok { d with allowPTY := d.allowPTY && !c.noPTY } ∧
      Coherent { d with allowPTY := d.allowPTY && !c.noPTY } := by
  have hvalid : c.validate = .ok () := by
    unfold MatchedKeyConstraints.validate
    have hrestricted : (c.restricted && !c.noPTY) = false := by
      cases hr : c.restricted with
      | false => rfl
      | true => simp [hc.restricted hr]
    rw [guardWith_false hrestricted, hcmd]
    rfl
  constructor
  · unfold applyMatchedKeyConstraints
    rw [hvalid]
    cases hn : c.noPTY <;> simp [Except.bind, hcmd]
  · exact { h with pty := fun hp => h.pty (Bool.and_eq_true_iff.mp hp).1 }

end Runtime

/-! ## 3. Keys without a command -/

theorem applyOption_terminal {unquote : String → Except String String}
    {option : AuthorizedKeyOption} {c c' : MatchedKeyConstraints}
    (ho : option.name = "no-pty" ∨ option.name = "restrict")
    (h : applyOption unquote c option = .ok c') :
    c'.forcedCommand = c.forcedCommand ∧ c'.noPTY = true := by
  unfold applyOption at h
  split_ifs at h with hcmd
  · rcases ho with ho | ho <;> rw [ho] at hcmd <;> exact absurd hcmd (by decide)
  · obtain ⟨-, h⟩ := guardWith_eq_ok h
    cases h
    exact ⟨rfl, rfl⟩
  · obtain ⟨-, h⟩ := guardWith_eq_ok h
    cases h
    exact ⟨rfl, rfl⟩

/-- The options `no-pty` and `restrict` set no command; one of them is enough to lose the terminal. -/
theorem parseOptions_terminal {unquote : String → Except String String}
    {options : List AuthorizedKeyOption} {seen : List String} {c c' : MatchedKeyConstraints}
    (ho : ∀ option ∈ options, option.name = "no-pty" ∨ option.name = "restrict")
    (h : parseOptions unquote options seen c = .ok c') :
    c'.forcedCommand = c.forcedCommand ∧ c'.noPTY = (c.noPTY || !options.isEmpty) := by
  induction options generalizing seen c with
  | nil =>
    cases h
    simp
  | cons option rest ih =>
    obtain ⟨-, h⟩ := guardWith_eq_ok h
    obtain ⟨c₁, h₁, h⟩ := bind_eq_ok h
    obtain ⟨hcmd, hpty⟩ := applyOption_terminal (ho option List.mem_cons_self) h₁
    obtain ⟨hcmd', hpty'⟩ := ih (fun o hm => ho o (List.mem_cons_of_mem _ hm)) h
    refine ⟨hcmd'.trans hcmd, ?_⟩
    rw [hpty', hpty]
    simp

end Mygosh.Server

/-
  File:      Mygosh/Process/Spec.lean
  Subject:   The specification a process is started from (`app/server/process/spec.go`).

  The runner makes no policy decision: it checks the specification's shape and combines the two
  environments, requested entries over trusted ones.
-/
import Mygosh.Authz.Launch

namespace Mygosh.Server

/-- `protectedEnvironment`. -/
def protectedEnvironment : List String := ["HOME", "USER", "LOGNAME", "SHELL", "PATH"]

def maxEnvironmentEntries : Nat := 256

/-- `process.Spec`; the grace period is in nanoseconds. -/
structure Spec where
  executable : String
  argv : List String
  workingDirectory : String
  trustedEnvironment : TextMap
  requestedEnvironment : TextMap
  uid : Nat
  gid : Nat
  supplementaryGroups : List Nat
  pty : Option PTYRequest
  terminationGrace : Int
  deriving DecidableEq

/-- `validateEnvironment`. -/
def validateEnvironment (name value : String) : Except String Unit :=
  guardWith (name = "" || containsAny name (String.ofList ['=', nul]))
    s!"invalid environment variable name {name.quote}" <|
  guardWith (containsRune value nul) s!"environment variable {name.quote} contains NUL" <|
  .ok ()

/-- The checks of a list, one after the other. -/
def checkAll {α : Type} (check : α → Except String Unit) : List α → Except String Unit
  | [] => .ok ()
  | a :: rest => (check a).bind fun _ => checkAll check rest

/-- The check of one requested entry. -/
def validateRequested (entry : Sigma fun _ : String => String) : Except String Unit :=
  (validateEnvironment entry.1 entry.2).bind fun _ =>
  guardWith (protectedEnvironment.contains entry.1)
    s!"requested environment cannot replace trusted {entry.1}" <|
  .ok ()

/-- The loop over the supplementary groups. -/
def validateGroups (gid : Nat) : List Nat → List Nat → Except String Unit
  | [], _ => .ok ()
  | group :: rest, seen =>
    guardWith (group = gid) "supplementary groups must not repeat the primary GID" <|
    guardWith (seen.contains group) s!"duplicate supplementary GID {group}" <|
    validateGroups gid rest (group :: seen)

/-- The check of the terminal. -/
def validatePTY : Option PTYRequest → Except String Unit
  | none => .ok ()
  | some pty =>
    guardWith (pty.rows = 0 || pty.rows > 65535 || pty.columns = 0 || pty.columns > 65535)
      "PTY dimensions are invalid" <|
    guardWith (containsRune pty.terminal nul) "PTY terminal contains NUL" <|
    .ok ()

/-- `Spec.validate`. Go leaves the order of a map's entries open; which entry an error names
    depends on it, success does not. -/
def Spec.validate (s : Spec) : Except String Unit :=
  guardWith (!isAbs s.executable) "process executable must be absolute" <|
  guardWith (s.argv.head?.getD "" = "") "process argv[0] is required" <|
  guardWith (!isAbs s.workingDirectory) "process working directory must be absolute" <|
  guardWith (s.terminationGrace < 0) "process termination grace must be non-negative" <|
  guardWith (s.trustedEnvironment.keys.length + s.requestedEnvironment.keys.length
      > maxEnvironmentEntries) "process environment has too many entries" <|
  (checkAll (fun entry => validateEnvironment entry.1 entry.2) s.trustedEnvironment.entries).bind
    fun _ =>
  (checkAll validateRequested s.requestedEnvironment.entries).bind fun _ =>
  (validateGroups s.gid s.supplementaryGroups []).bind fun _ =>
  validatePTY s.pty

/-- The environments combined: requested entries are written over trusted ones. -/
def Spec.combined (s : Spec) : TextMap :=
  s.requestedEnvironment.entries.foldl (fun m entry => m.insert entry.1 entry.2)
    s.trustedEnvironment

theorem checkAll_eq_ok {α : Type} {check : α → Except String Unit} (l : List α)
    (h : checkAll check l = .ok ()) : ∀ a ∈ l, check a = .ok () := by
  induction l with
  | nil => exact fun a ha => nomatch ha
  | cons a rest ih =>
    obtain ⟨_, ha, h⟩ := bind_eq_ok h
    intro b hb
    rcases List.mem_cons.mp hb with rfl | hb
    · exact ha
    · exact ih h b hb

/-- A valid specification requests no protected name. -/
theorem Spec.requested_not_protected {s : Spec} (h : s.validate = .ok ()) {name value : String}
    (hr : s.requestedEnvironment.lookup name = some value) : name ∉ protectedEnvironment := by
  obtain ⟨-, h⟩ := guardWith_eq_ok h
  obtain ⟨-, h⟩ := guardWith_eq_ok h
  obtain ⟨-, h⟩ := guardWith_eq_ok h
  obtain ⟨-, h⟩ := guardWith_eq_ok h
  obtain ⟨-, h⟩ := guardWith_eq_ok h
  obtain ⟨_, -, h⟩ := bind_eq_ok h
  obtain ⟨_, hreq, -⟩ := bind_eq_ok h
  have hmem : (⟨name, value⟩ : Sigma fun _ : String => String) ∈ s.requestedEnvironment.entries :=
    AList.mem_lookup_iff.mp hr
  obtain ⟨_, -, hc⟩ := bind_eq_ok (checkAll_eq_ok _ hreq _ hmem)
  obtain ⟨hp, -⟩ := guardWith_eq_ok hc
  intro hin
  rw [List.contains_iff_mem.mpr hin] at hp
  cases hp

/-- Writing entries over a map: every entry of the result is one of them or was there before under
    a name none of them has. -/
theorem lookup_foldl_insert {name value : String}
    (entries : List (Sigma fun _ : String => String)) :
    ∀ {m : TextMap},
      (entries.foldl (fun m entry => m.insert entry.1 entry.2) m).lookup name = some value →
      ⟨name, value⟩ ∈ entries ∨ m.lookup name = some value ∧ ∀ e ∈ entries, e.1 ≠ name := by
  induction entries with
  | nil => exact fun h => .inr ⟨h, fun e he => nomatch he⟩
  | cons e rest ih =>
    intro m h
    rcases ih h with hmem | ⟨hm, hrest⟩
    · exact .inl (List.mem_cons_of_mem _ hmem)
    · rcases TextMap.lookup_insert_eq hm with ⟨rfl, rfl⟩ | ⟨hne, hm⟩
      · exact .inl List.mem_cons_self
      · refine .inr ⟨hm, fun e' he' => ?_⟩
        rcases List.mem_cons.mp he' with rfl | he'
        · exact Ne.symm hne
        · exact hrest e' he'

/-- Names that are not written keep their value. -/
theorem lookup_foldl_insert_of_ne {name : String}
    (entries : List (Sigma fun _ : String => String)) :
    ∀ {m : TextMap}, (∀ e ∈ entries, e.1 ≠ name) →
      (entries.foldl (fun m entry => m.insert entry.1 entry.2) m).lookup name = m.lookup name := by
  induction entries with
  | nil => exact fun _ => rfl
  | cons e rest ih =>
    intro m h
    rw [List.foldl_cons, ih fun e' he' => h e' (List.mem_cons_of_mem _ he'),
      AList.lookup_insert_ne (h e List.mem_cons_self).symm]

/-- In a valid specification the protected names keep their trusted values. -/
theorem Spec.combined_protected {s : Spec} (h : s.validate = .ok ()) {name : String}
    (hn : name ∈ protectedEnvironment) :
    s.combined.lookup name = s.trustedEnvironment.lookup name := by
  refine lookup_foldl_insert_of_ne _ fun e he heq => ?_
  subst heq
  exact s.requested_not_protected h (AList.mem_lookup_iff.mpr he) hn

/-- An entry of the combined environment is requested, or it is trusted. -/
theorem Spec.combined_eq_some {s : Spec} {name value : String}
    (h : s.combined.lookup name = some value) :
    s.requestedEnvironment.lookup name = some value ∨
      s.trustedEnvironment.lookup name = some value := by
  rcases lookup_foldl_insert _ h with hmem | ⟨hm, -⟩
  · exact .inl (AList.mem_lookup_iff.mpr hmem)
  · exact .inr hm

end Mygosh.Server

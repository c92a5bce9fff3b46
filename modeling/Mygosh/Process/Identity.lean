/-
  File:      Mygosh/Process/Identity.lean
  Subject:   Whose identity a process runs under: the account database (`lib/account`), the
             specification, and the credential of the runner (`app/server/process/runner.go`).

  * `getgrouplist_complete` -- the groups of a user are listed completely or not at all;
  * `credentialFor` -- a privileged runner sets the identity, any other one must have it already;
  * `process_identity` -- a process is in the groups the database gives its user and in no other.
-/
import Mygosh.Authz.Service

namespace Mygosh.Server

/-! ## 1. The account database -/

/-- `passwd_t`; nothing reads the password. -/
structure Passwd where
  name : String
  uid : Nat
  gid : Nat
  gecos : String
  dir : String
  shell : String

/-- The C library in front of the account database: an error, an entry or nothing, the bytes an entry
    takes and what `sysconf` says about them; the groups of a user and the given one; and the count
    that is left when the array is too small for them. -/
structure NameService where
  passwd : String → Except String (Option Passwd)
  passwdSize : String → Nat
  passwdHint : Int
  group : Nat → Except String (Option String)
  groupSize : Nat → Nat
  groupHint : Int
  groups : String → Nat → List Nat
  report : Int → Int

/-- `get_pw_buf_size`, `get_gr_buf_size`. -/
def bufSize (hint : Int) : Nat := if hint < 1024 then 16384 else hint.toNat

/-- The loop over `ERANGE`: the size doubles until the entry fits or one MiB is passed, from 1024 bytes
    on after eleven calls at most. -/
def fitsBuffer (need : Nat) : Nat → Nat → Bool
  | 0, _ => false
  | calls + 1, size => need ≤ size || (size * 2 ≤ 1048576 && fitsBuffer need calls (size * 2))

/-- A reentrant lookup: `call` is how it is named in an error of the C library. -/
def reentrant {α : Type} (call missing tooLarge : String) (hint : Int) (need : Nat)
    (found : Except String (Option α)) : Except String α :=
  if fitsBuffer need 11 (bufSize hint) then
    match found with
    | .error e => .error s!"{call}: {e}"
    | .ok none => .error missing
    | .ok (some a) => .ok a
  else .error tooLarge

theorem reentrant_ok {α : Type} {call missing tooLarge : String} {hint : Int} {need : Nat}
    {found : Except String (Option α)} {a : α}
    (h : reentrant call missing tooLarge hint need found = .ok a) : found = .ok (some a) := by
  unfold reentrant at h
  split_ifs at h
  split at h <;> cases h
  rfl

namespace NameService

variable (ns : NameService)

/-- `getpwnamR`. -/
def getpwnamR (name : String) : Except String Passwd :=
  reentrant s!"getpwnam_r({name.quote})" "user not found" "passwd entry too large"
    ns.passwdHint (ns.passwdSize name) (ns.passwd name)

/-- `getgrgidR`. -/
def getgrgidR (gid : Nat) : Except String String :=
  let id := (toString gid).quote
  reentrant s!"getgrgid_r({id})" s!"group {id} not found" s!"group entry {id} is too large"
    ns.groupHint (ns.groupSize gid) (ns.group gid)

/-- `lookupGroup`. -/
def lookupGroup (gid : Nat) : Except String Group :=
  (wrap s!"lookup group {(toString gid).quote}" (ns.getgrgidR gid)).map fun name => ⟨gid, name⟩

/-- `getgrouplist` from an array of `count` entries on. -/
def getgrouplist (username : String) (gid : Nat) (count : Int) : Except String (List Nat) :=
  if count ≤ 0 ∨ count > 65536 then
    .error s!"group count for user {username.quote} exceeds limit 65536"
  else if (ns.groups username gid).length > count then
    getgrouplist username gid (if ns.report count ≤ count then count * 2 else ns.report count)
  else .ok (ns.groups username gid)
termination_by (65537 - count).toNat
decreasing_by split <;> omega

/-- The loop of `lookupSupplementaryGroups`. -/
def supplementary (username : String) : List Nat → List Nat → Except String (List Group)
  | [], _ => .ok []
  | gid :: rest, seen =>
    if seen.contains gid then supplementary username rest seen
    else
      (wrap s!"lookup supplementary group {(toString gid).quote} for user {username.quote}"
        (ns.lookupGroup gid)).bind fun group =>
      (supplementary username rest (gid :: seen)).map (group :: ·)

/-- `OSResolver.Resolve`. -/
def resolve (username : String) : Except String Account :=
  (wrap s!"lookup user {username.quote}" (ns.getpwnamR username)).bind fun pwd =>
  (wrap s!"lookup primary group {(toString pwd.gid).quote} for user {username.quote}"
    (ns.lookupGroup pwd.gid)).bind fun primary =>
  (wrap s!"lookup supplementary groups for user {username.quote}"
    ((wrap s!"list groups for user {pwd.name.quote}" (ns.getgrouplist pwd.name primary.id 16)).bind
      fun gids => ns.supplementary pwd.name gids [primary.id])).map fun groups =>
  ⟨pwd.name, String.ofList (pwd.gecos.toList.takeWhile (· ≠ ',')), pwd.uid, primary, groups, pwd.dir,
    pwd.shell⟩

variable {ns} {username : String} {gid : Nat} {count : Int}

theorem lookupGroup_id {group : Group} (h : ns.lookupGroup gid = .ok group) : group.id = gid := by
  obtain ⟨name, -, rfl⟩ := map_eq_ok h
  rfl

theorem getgrouplist_ok {gids : List Nat} (h : ns.getgrouplist username gid count = .ok gids) :
    gids = ns.groups username gid ∧ (gids.length : Int) ≤ 65536 := by
  induction count using getgrouplist.induct ns username gid with
  | case1 count hc => rw [getgrouplist, if_pos hc] at h; cases h
  | case2 count hc hlt ih => rw [getgrouplist, if_neg hc, if_pos hlt] at h; exact ih h
  | case3 count hc hle =>
    rw [getgrouplist, if_neg hc, if_neg hle] at h
    cases h
    exact ⟨rfl, by omega⟩

theorem getgrouplist_fits (hc : 0 < count ∧ count ≤ 65536)
    (hle : (ns.groups username gid).length ≤ count) :
    ns.getgrouplist username gid count = .ok (ns.groups username gid) := by
  rw [getgrouplist, if_neg (by omega), if_neg (by omega)]

/-- A C library that reports the number of groups, or nothing new, leads to all of them. -/
theorem getgrouplist_doubling (hlen : (ns.groups username gid).length ≤ 65536)
    (hreport : ∀ n, ns.report n ≤ n ∨ ns.report n = (ns.groups username gid).length) {j k : Nat}
    (hk : j + k = 16) :
    ns.getgrouplist username gid (2 ^ j) = .ok (ns.groups username gid) := by
  induction k generalizing j with
  | zero =>
    obtain rfl : j = 16 := hk
    exact getgrouplist_fits (by norm_num) (by norm_num; omega)
  | succ k ih =>
    have hcount : (0 : Int) < 2 ^ j ∧ (2 : Int) ^ j ≤ 65536 :=
      ⟨by positivity, by exact_mod_cast Nat.pow_le_pow_right (n := 2) (by omega) (by omega : j ≤ 16)⟩
    by_cases hle : (ns.groups username gid).length ≤ (2 : Int) ^ j
    · exact getgrouplist_fits hcount hle
    · rw [getgrouplist, if_neg (by omega), if_pos (by omega)]
      by_cases hr : ns.report (2 ^ j) ≤ 2 ^ j
      · rw [if_pos hr, ← pow_succ]
        exact ih (by omega)
      · rw [if_neg hr, (hreport _).resolve_left hr]
        exact getgrouplist_fits (by omega) le_rfl

/-- The groups that are listed beside those seen before. -/
theorem supplementary_ids {gids seen : List Nat} {groups : List Group}
    (h : ns.supplementary username gids seen = .ok groups) (g : Nat) :
    g ∈ groups.map (·.id) ↔ g ∈ gids ∧ g ∉ seen := by
  induction gids generalizing seen groups with
  | nil => cases h; simp
  | cons gid rest ih =>
    unfold supplementary at h
    split_ifs at h with hseen
    · rw [ih h, List.mem_cons]
      have hmem := List.contains_iff_mem.mp hseen
      grind
    · obtain ⟨group, hgroup, h⟩ := bind_eq_ok h
      obtain ⟨groups', hrest, rfl⟩ := map_eq_ok h
      rw [List.map_cons, List.mem_cons, ih hrest, lookupGroup_id (wrap_eq_ok hgroup)]
      have hmem : gid ∉ seen := fun hm => hseen (List.contains_iff_mem.mpr hm)
      grind

/-- **All groups or none**: whatever sizes the C library makes it try, `getgrouplist` returns the
    groups of the user exactly if they are no more than its limit. -/
theorem getgrouplist_complete
    (hreport : ∀ n, ns.report n ≤ n ∨ ns.report n = (ns.groups username gid).length)
    (gids : List Nat) : ns.getgrouplist username gid 16 = .ok gids ↔
      gids = ns.groups username gid ∧ gids.length ≤ 65536 := by
  constructor
  · intro h
    obtain ⟨heq, hlen⟩ := getgrouplist_ok h
    exact ⟨heq, by omega⟩
  · rintro ⟨rfl, hlen⟩
    exact getgrouplist_doubling (j := 4) (k := 12) hlen hreport rfl

theorem resolve_ok {account : Account} (h : ns.resolve username = .ok account) :
    ∃ pwd, ns.passwd username = .ok (some pwd) ∧ account.id = pwd.uid ∧
      account.primaryGroup.id = pwd.gid ∧ ∀ g, g ∈ account.supplementaryGroups.map (·.id) ↔
        g ∈ ns.groups pwd.name pwd.gid ∧ g ≠ pwd.gid := by
  obtain ⟨pwd, hpwd, h⟩ := bind_eq_ok h
  obtain ⟨primary, hprimary, h⟩ := bind_eq_ok h
  obtain ⟨groups, hgroups, rfl⟩ := map_eq_ok h
  obtain ⟨gids, hgids, hgroups⟩ := bind_eq_ok (wrap_eq_ok hgroups)
  have hid := lookupGroup_id (wrap_eq_ok hprimary)
  refine ⟨pwd, reentrant_ok (wrap_eq_ok hpwd), rfl, hid, fun g => ?_⟩
  rw [supplementary_ids hgroups, (getgrouplist_ok (wrap_eq_ok hgids)).1, hid, List.mem_singleton]

end NameService

/-! ## 2. The credential of a process -/

/-- The effective ids of a process and its supplementary groups. -/
structure Identity where
  uid : Nat
  gid : Nat
  groups : List Nat

/-- `syscall.Credential`. -/
structure Credential where
  uid : Nat
  gid : Nat
  groups : List Nat
  noSetGroups : Bool

/-- A slice as `%v` prints it. -/
def formatSlice (ids : List Nat) : String := "[" ++ " ".intercalate (ids.map toString) ++ "]"

/-- `credentialFor` in a server that runs as `self`; `os.Getgroups` may fail. -/
def credentialFor (self : Identity) (getgroups : Except String Unit) (spec : Spec) :
    Except String Credential :=
  if self.uid = 0 then .ok ⟨spec.uid, spec.gid, spec.supplementaryGroups, false⟩
  else if self.uid ≠ spec.uid ∨ self.gid ≠ spec.gid then
    .error (s!"unprivileged runner identity mismatch: current {self.uid}:{self.gid}, " ++
      s!"requested {spec.uid}:{spec.gid}")
  else
    (wrap "read current supplementary groups" getgroups).bind fun _ =>
    let normalized := (self.groups.filter (· ≠ spec.gid)).insertionSort (· ≤ ·)
    let requested := spec.supplementaryGroups.insertionSort (· ≤ ·)
    if normalized ≠ requested then
      .error (s!"unprivileged runner supplementary groups mismatch: " ++
        s!"current {formatSlice normalized}, requested {formatSlice requested}")
    else .ok ⟨spec.uid, spec.gid, [], true⟩

/-- The identity of a child that `exec.Cmd` starts with the credential. -/
def Identity.start (self : Identity) (c : Credential) : Identity :=
  ⟨c.uid, c.gid, if c.noSetGroups then self.groups else c.groups⟩

theorem credentialFor_ok {self : Identity} {getgroups : Except String Unit} {spec : Spec}
    {c : Credential} (h : credentialFor self getgroups spec = .ok c) :
    (self.start c).uid = spec.uid ∧ (self.start c).gid = spec.gid ∧
      ∀ g ≠ spec.gid, g ∈ (self.start c).groups ↔ g ∈ spec.supplementaryGroups := by
  unfold credentialFor at h
  split_ifs at h with hroot
  · cases h
    exact ⟨rfl, rfl, fun _ _ => Iff.rfl⟩
  · obtain ⟨_, -, h⟩ := bind_eq_ok h
    dsimp only at h
    split_ifs at h with hsame
    cases h
    refine ⟨rfl, rfl, fun g hg => ?_⟩
    -- equal after sorting, so equal up to order
    have hmem : g ∈ (self.groups.filter (· ≠ spec.gid)).insertionSort (· ≤ ·) ↔
        g ∈ spec.supplementaryGroups.insertionSort (· ≤ ·) := by rw [not_not.mp hsame]
    show g ∈ self.groups ↔ g ∈ spec.supplementaryGroups
    simpa [hg] using hmem

/-- **A process runs under the identity the account database gives its user**: it has the user's id and
    primary group, and is in the groups of the user and in no other. -/
theorem process_identity {ns : NameService} {a : Authz} {ctx₁ ctx₂ : Option String}
    {connection : ConnectionRequest} {heap : Heap} {credentials : ConnectionCredentials}
    {channel : AuthorizedChannel} {request : StartRequest} {spec : Spec} {self : Identity}
    {getgroups : Except String Unit} {c : Credential}
    (ha : a.resolve connection.verifiedClient.requestedUsername =
      ns.resolve connection.verifiedClient.requestedUsername)
    (hc : (a.authorizeConnection ctx₁ connection heap).1 = .ok credentials)
    (hs : startSpec ctx₂ credentials channel request = .ok spec)
    (hr : credentialFor self getgroups spec = .ok c) :
    ∃ pwd, ns.passwd connection.verifiedClient.requestedUsername = .ok (some pwd) ∧
      (self.start c).uid = pwd.uid ∧ (self.start c).gid = pwd.gid ∧
      ∀ g, g = pwd.gid ∨ g ∈ (self.start c).groups ↔ g = pwd.gid ∨ g ∈ ns.groups pwd.name pwd.gid := by
  obtain ⟨decision, hI⟩ := Authz.authorizeConnection_eq_ok hc
  obtain ⟨_, -, hs⟩ := bind_eq_ok hs
  obtain ⟨launch, hlaunch, hs⟩ := bind_eq_ok hs
  obtain ⟨_, hspec, hs⟩ := bind_eq_ok hs
  obtain ⟨_, -, rfl⟩ := map_eq_ok hs
  obtain ⟨argv, -, rfl⟩ := map_eq_ok hspec
  have haccount := (authorizeLaunch_eq_ok (wrap_eq_ok hlaunch)).account
  obtain ⟨pwd, hpwd, huid, hgid, hgroups⟩ := NameService.resolve_ok (ha ▸ hI.account)
  obtain ⟨hu, hg, hmem⟩ := credentialFor_ok hr
  simp only [haccount, huid, hgid] at hu hg hmem
  refine ⟨pwd, hpwd, hu, hg, fun g => or_congr_right' fun hne => ?_⟩
  rw [hmem g hne, hgroups]
  exact and_iff_left hne

/-- A database with one user in one more group, on a C library that reports nothing. -/
def soleDatabase : NameService where
  passwd _ := .ok (some ⟨"alice", 1000, 1000, "Alice", "/home/alice", "/bin/sh"⟩)
  passwdSize _ := 64
  passwdHint := -1
  group gid := .ok (some (if gid = 27 then "sudo" else "alice"))
  groupSize _ := 32
  groupHint := -1
  groups _ _ := [1000, 27]
  report count := count

/-- The user in twenty groups, on a C library that leaves the given counts. -/
def crowdedDatabase (report : Int → Int) : NameService :=
  { soleDatabase with groups := fun _ _ => List.range' 1000 20, report := report }

/-- Twenty groups do not fit into the first array. If the C library leaves its count, the array is
    doubled; if it reports how many they are, it gets an array of that many. -/
theorem getgrouplist_complete_crowded :
    (crowdedDatabase id).getgrouplist "alice" 1000 16 = .ok (List.range' 1000 20) ∧
      (crowdedDatabase fun _ => 20).getgrouplist "alice" 1000 16 = .ok (List.range' 1000 20) :=
  ⟨(NameService.getgrouplist_complete (fun _ => .inl le_rfl) _).mpr ⟨rfl, by decide⟩,
    (NameService.getgrouplist_complete (fun _ => .inr rfl) _).mpr ⟨rfl, by decide⟩⟩

/-- The one user's shell on a server that runs as this user. -/
theorem process_identity_sole : ∃ c pwd,
    credentialFor ⟨1000, 1000, [27, 1000]⟩ (.ok ()) langSpec = .ok c ∧
    soleDatabase.passwd "alice" = .ok (some pwd) ∧ pwd.uid = 1000 ∧
    ∀ g, g = pwd.gid ∨ g ∈ [27, 1000] ↔ g = pwd.gid ∨ g ∈ soleDatabase.groups pwd.name pwd.gid := by
  have ha : .ok soleAccount = soleDatabase.resolve "alice" := by
    have hgids : soleDatabase.getgrouplist "alice" 1000 16 = .ok [1000, 27] :=
      NameService.getgrouplist_fits (by decide) (by decide)
    show _ = ((wrap _ ((wrap _ (soleDatabase.getgrouplist "alice" 1000 16)).bind fun gids =>
      soleDatabase.supplementary "alice" gids [1000])).map fun groups =>
      (⟨"alice", _, 1000, _, groups, _, _⟩ : Account))
    rw [hgids]
    rfl
  have hc : ((soleServer blankPolicy []).authorizeConnection none soleConnection ⟨1⟩).1 =
      .ok langCredentials := rfl
  have hs : startSpec none langCredentials ⟨"command", some zerobase⟩ langRequest = .ok langSpec := rfl
  have hr : credentialFor ⟨1000, 1000, [27, 1000]⟩ (.ok ()) langSpec =
      .ok ⟨1000, 1000, [], true⟩ := rfl
  obtain ⟨pwd, hpwd, huid, -, hgroups⟩ := process_identity ha hc hs hr
  exact ⟨_, pwd, hr, hpwd, huid.symm, hgroups⟩

end Mygosh.Server

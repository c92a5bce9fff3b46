/-
  File:      Mygosh/Authz/Match.lean
  Subject:   The lookup of a proved key in the configured files (`matchAuthorizedKey` and
             `resolveAccountPath` of `app/server/authz/authz.go`).

  * `Visit` -- what the outside answers in one round of the loop; two rounds may differ even for one
    path;
  * `FirstMatch` -- the entry the lookup is about: the first one with the key in the first file that has
    one, behind files that are absent or hold other keys.
-/
import Mygosh.Authz.AuthorizedKeys

namespace Mygosh.Server

open Keys (PublicKey)

/-! ## 1. One round -/

/-- What `securefiles.Read` returns. -/
inductive ReadOutcome where
  | absent
  | failed (err : String)
  | contents (contents : List Rune)
  deriving Repr

/-- A configured path and what the outside answers about it: `ctx.Err()`, `os.Getwd()` and
    `securefiles.Read`, by anchor and relative path. -/
structure Visit where
  configuredPath : String
  ctxErr : Option String
  getwd : Except String String
  read : String → String → ReadOutcome

/-- The path of a file, the directory it is looked up from and its path from there. -/
structure ResolvedPath where
  resolved : String
  anchor : String
  relative : String
  deriving DecidableEq, Repr

/-- `resolveAccountPath`. -/
def resolveAccountPath (getwd : Except String String) (homeDir configuredPath : String) :
    Except String ResolvedPath :=
  if configuredPath.toList.take 2 = ['~', '/'] then
    guardWith (homeDir = "") "account home directory is required for ~ path" <|
    let relative := String.ofList (configuredPath.toList.drop 2)
    .ok ⟨filepathJoin homeDir relative, homeDir, relative⟩
  else if isAbs configuredPath then
    .ok ⟨configuredPath, filepathDir configuredPath, filepathBase configuredPath⟩
  else
    (wrap "resolve relative authorized_keys path" getwd).map fun workingDir =>
      ⟨filepathJoin workingDir configuredPath, workingDir, configuredPath⟩

/-- The round of the loop up to the parsed file. -/
def visitKeyFile (P : LineParser) (unquote : String → Except String String) (homeDir : String)
    (v : Visit) : KeyFile :=
  match v.ctxErr with
  | some e => .cancelled e
  | none =>
    match resolveAccountPath v.getwd homeDir v.configuredPath with
    | .error e => .unresolved e
    | .ok path =>
      match v.read path.anchor path.relative with
      | .absent => .missing
      | .failed e => .unreadable path.resolved e
      | .contents contents =>
        match parseAuthorizedKeys P unquote contents with
        | .error e => .malformed path.resolved e
        | .ok entries => .entries path.resolved entries

/-- `matchAuthorizedKey`. -/
def matchAuthorizedKey (P : LineParser) (unquote : String → Except String String)
    (account : Account) (provedKey : PublicKey) (visits : List Visit) :
    Except String MatchedAuthorizedKey :=
  matchFiles unquote account.username provedKey (visits.map (visitKeyFile P unquote account.homeDir))
    none false

/-! ## 2. The entry that counts -/

/-- The first entry with the key. -/
def IsFirst (key : PublicKey) (entry : AuthorizedKeyEntry) (entries : List AuthorizedKeyEntry) :
    Prop :=
  ∃ pre post, entries = pre ++ entry :: post ∧ entry.key.equal key = true ∧
    ∀ e ∈ pre, e.key.equal key = false

/-- A file that is absent, or was read and does not hold the key. -/
def KeyFile.Passes (key : PublicKey) : KeyFile → Prop
  | .missing => True
  | .entries _ es => ∀ e ∈ es, e.key.equal key = false
  | _ => False

/-- The first entry with the key in the first file that has one; every file before it passes. -/
def FirstMatch (key : PublicKey) (files : List KeyFile) (resolved : String)
    (entry : AuthorizedKeyEntry) : Prop :=
  ∃ front entries back, files = front ++ .entries resolved entries :: back ∧
    (∀ f ∈ front, f.Passes key) ∧ IsFirst key entry entries

section Lookup

variable {unquote : String → Except String String} {username resolved errs : String}
  {key : PublicKey} {file : KeyFile} {files : List KeyFile} {entry entry' : AuthorizedKeyEntry}
  {entries : List AuthorizedKeyEntry} {found : Bool} {m : MatchedAuthorizedKey}

theorem matchEntry_eq_some : matchEntry key entries = some entry ↔ IsFirst key entry entries := by
  rw [matchEntry, List.find?_eq_some_iff_append]
  constructor
  · rintro ⟨hkey, pre, post, rfl, hpre⟩
    exact ⟨pre, post, rfl, hkey, fun e he => by simpa using hpre e he⟩
  · rintro ⟨pre, post, rfl, hkey, hpre⟩
    exact ⟨hkey, pre, post, rfl, fun e he => by simpa using hpre e he⟩

theorem matchEntry_eq_none :
    matchEntry key entries = none ↔ ∀ e ∈ entries, e.key.equal key = false := by
  rw [matchEntry, List.find?_eq_none]
  exact forall₂_congr fun e _ => by rw [Bool.not_eq_true]

theorem firstMatch_cons : FirstMatch key (file :: files) resolved entry ↔
    (∃ entries, file = .entries resolved entries ∧ IsFirst key entry entries) ∨
      file.Passes key ∧ FirstMatch key files resolved entry := by
  constructor
  · rintro ⟨front, entries, back, heq, hfront, hfirst⟩
    cases front with
    | nil =>
      obtain ⟨rfl, -⟩ := List.cons.inj heq
      exact .inl ⟨entries, rfl, hfirst⟩
    | cons f front =>
      obtain ⟨rfl, rfl⟩ := List.cons.inj heq
      obtain ⟨hfile, hrest⟩ := List.forall_mem_cons.mp hfront
      exact .inr ⟨hfile, front, entries, back, rfl, hrest, hfirst⟩
  · rintro (⟨entries, rfl, hfirst⟩ | ⟨hfile, front, entries, back, rfl, hfront, hfirst⟩)
    · exact ⟨[], entries, files, rfl, (fun _ h => nomatch h), hfirst⟩
    · exact ⟨file :: front, entries, back, rfl, List.forall_mem_cons.mpr ⟨hfile, hfront⟩, hfirst⟩

/-- After a failure no later file is accepted. -/
theorem matchFiles_after_error :
    matchFiles unquote username key files (some errs) found ≠ .ok m := by
  induction files generalizing errs found with
  | nil => rintro ⟨⟩
  | cons file files ih =>
    cases file with
    | cancelled e => rintro ⟨⟩
    | unresolved e => exact ih
    | missing => exact ih
    | unreadable resolved e => exact ih
    | malformed resolved e => exact ih
    | entries resolved entries =>
      rw [matchFiles]
      cases matchEntry key entries with
      | none => exact ih
      | some entry => rintro ⟨⟩

/-- **What the loop returns**: the path and the constraints of the entry that counts. -/
theorem matchFiles_eq_ok :
    matchFiles unquote username key files none found = .ok m ↔
      ∃ entry, FirstMatch key files m.source entry ∧
        parseAuthorizedKeyConstraints unquote entry.options = .ok m.constraints := by
  induction files generalizing found with
  | nil =>
    constructor
    · intro h
      cases found <;> cases h
    · rintro ⟨entry, ⟨front, entries, back, heq, -⟩, -⟩
      cases front <;> cases heq
  | cons file files ih =>
    simp only [firstMatch_cons]
    -- a file that failed: the loop ends in an error, and no file behind it counts
    have hfailed : (∀ es, file ≠ .entries m.source es) → ¬file.Passes key →
        matchFiles unquote username key (file :: files) none found ≠ .ok m →
        (matchFiles unquote username key (file :: files) none found = .ok m ↔
          ∃ entry, ((∃ es, file = .entries m.source es ∧ IsFirst key entry es) ∨
            file.Passes key ∧ FirstMatch key files m.source entry) ∧
            parseAuthorizedKeyConstraints unquote entry.options = .ok m.constraints) := by
      intro hkind hpass hloop
      refine iff_of_false hloop ?_
      rintro ⟨entry, ⟨es, heq, -⟩ | ⟨hp, -⟩, -⟩
      · exact hkind es heq
      · exact hpass hp
    cases file with
    | cancelled e => exact hfailed (by rintro _ ⟨⟩) id (by rintro ⟨⟩)
    | unresolved e => exact hfailed (by rintro _ ⟨⟩) id matchFiles_after_error
    | unreadable resolved e => exact hfailed (by rintro _ ⟨⟩) id matchFiles_after_error
    | malformed resolved e => exact hfailed (by rintro _ ⟨⟩) id matchFiles_after_error
    | missing =>
      rw [matchFiles, ih]
      refine exists_congr fun entry => and_congr_left fun _ => ?_
      exact ⟨fun h => .inr ⟨True.intro, h⟩, fun h => h.elim (by rintro ⟨_, ⟨⟩, _⟩) (·.2)⟩
    | entries resolved entries =>
      rw [matchFiles]
      cases hentry : matchEntry key entries with
      | none =>
        have hpass : KeyFile.Passes key (.entries resolved entries) := matchEntry_eq_none.mp hentry
        rw [ih]
        refine exists_congr fun entry => and_congr_left fun _ => ?_
        refine ⟨fun h => .inr ⟨hpass, h⟩, fun h => h.elim ?_ (·.2)⟩
        rintro ⟨es, ⟨⟩, hfirst⟩
        rw [matchEntry_eq_some.mpr hfirst] at hentry
        cases hentry
      | some entry =>
        constructor
        · intro h
          obtain ⟨c, hc, rfl⟩ := map_eq_ok h
          exact ⟨entry, .inl ⟨entries, rfl, matchEntry_eq_some.mp hentry⟩, wrap_eq_ok hc⟩
        · obtain ⟨source, constraints⟩ := m
          rintro ⟨entry', ⟨es, heq, hfirst⟩ | ⟨hpass, -⟩, hc⟩
          · cases heq
            rw [matchEntry_eq_some.mpr hfirst] at hentry
            cases hentry
            simp only [hc]
            rfl
          · rw [matchEntry_eq_none.mpr hpass] at hentry
            cases hentry

end Lookup

/-! ## 3. Parsed files -/

section Parsed

variable {P : LineParser} {unquote : String → Except String String}

/-- The options of an entry have been checked. -/
def AuthorizedKeyEntry.Checked (unquote : String → Except String String) (e : AuthorizedKeyEntry) :
    Prop :=
  ∃ c, parseAuthorizedKeyConstraints unquote e.options = .ok c

theorem parseEntry_checked {pk : SSHKey} {o : Option AuthorizedKeyEntry}
    (h : parseEntry unquote pk = .ok o) : ∀ e ∈ o.toList, e.Checked unquote := by
  unfold parseEntry at h
  split_ifs at h with htype
  · cases h
    exact fun _ h => nomatch h
  · obtain ⟨publicKey, -, h⟩ := bind_eq_ok h
    cases publicKey with
    | none =>
      cases h
      exact fun _ h => nomatch h
    | some key =>
      obtain ⟨options, -, h⟩ := bind_eq_ok h
      obtain ⟨c, hc, rfl⟩ := map_eq_ok h
      intro e he
      obtain rfl := List.mem_singleton.mp he
      exact ⟨c, wrap_eq_ok hc⟩

theorem parseLoop_checked {contents : List Rune} {entries result : List AuthorizedKeyEntry}
    (h : parseLoop P unquote contents entries = .ok result)
    (hentries : ∀ e ∈ entries, e.Checked unquote) : ∀ e ∈ result, e.Checked unquote := by
  induction hn : contents.length using Nat.strong_induction_on generalizing contents entries with
  | _ n ih =>
    rw [parseLoop] at h
    split_ifs at h with hnil
    · cases h
      exact hentries
    · split at h
      · cases h
      · rename_i pk rest hsome
        obtain ⟨entry, hentry, h⟩ := bind_eq_ok h
        refine ih _ (hn ▸ parseAuthorizedKey_shorter hsome) h ?_ rfl
        intro e he
        rcases List.mem_append.mp he with he | he
        · exact hentries e he
        · exact parseEntry_checked hentry e he

/-- A file that was read holds checked entries only. -/
theorem visitKeyFile_checked {homeDir resolved : String} {v : Visit}
    {entries : List AuthorizedKeyEntry}
    (h : visitKeyFile P unquote homeDir v = .entries resolved entries) :
    ∀ e ∈ entries, e.Checked unquote := by
  unfold visitKeyFile at h
  split at h
  · cases h
  split at h
  · cases h
  split at h
  · cases h
  · cases h
  split at h
  · cases h
  · rename_i hparse
    cases h
    exact parseLoop_checked hparse fun _ h => nomatch h

/-- The entry that counts has constraints, and the lookup returns them. -/
theorem matchAuthorizedKey_of_firstMatch {account : Account} {key : PublicKey} {visits : List Visit}
    {resolved : String} {entry : AuthorizedKeyEntry}
    (h : FirstMatch key (visits.map (visitKeyFile P unquote account.homeDir)) resolved entry) :
    ∃ c, parseAuthorizedKeyConstraints unquote entry.options = .ok c ∧
      matchAuthorizedKey P unquote account key visits = .ok ⟨resolved, c⟩ := by
  obtain ⟨front, entries, back, heq, -, pre, post, rfl, -⟩ := id h
  have hmem : KeyFile.entries resolved (pre ++ entry :: post) ∈
      visits.map (visitKeyFile P unquote account.homeDir) := by
    rw [heq]
    exact List.mem_append_right _ List.mem_cons_self
  obtain ⟨v, -, hv⟩ := List.mem_map.mp hmem
  obtain ⟨c, hc⟩ := visitKeyFile_checked hv entry (List.mem_append_right _ List.mem_cons_self)
  exact ⟨c, hc, matchFiles_eq_ok.mpr ⟨entry, h, hc⟩⟩

end Parsed

/-! ## 4. The result -/

/-- **Lookup fails closed and takes the first match.** It succeeds exactly if some file holds the key
    and every file before the first such one is absent or was read without finding it. It then returns
    that file's path and the constraints of the first entry with the key, whatever else the files
    hold; otherwise it returns an error. -/
theorem matchAuthorizedKey_first_match (P : LineParser) (unquote : String → Except String String)
    (account : Account) (key : PublicKey) (visits : List Visit) :
    let files := visits.map (visitKeyFile P unquote account.homeDir)
    ((∃ m, matchAuthorizedKey P unquote account key visits = .ok m) ↔
      ∃ resolved entry, FirstMatch key files resolved entry) ∧
    (∀ m, matchAuthorizedKey P unquote account key visits = .ok m ↔
      ∃ entry, FirstMatch key files m.source entry ∧
        parseAuthorizedKeyConstraints unquote entry.options = .ok m.constraints) ∧
    (∀ visits' resolved entry, FirstMatch key files resolved entry →
      FirstMatch key (visits'.map (visitKeyFile P unquote account.homeDir)) resolved entry →
      matchAuthorizedKey P unquote account key visits' =
        matchAuthorizedKey P unquote account key visits) ∧
    ((¬∃ resolved entry, FirstMatch key files resolved entry) →
      ∃ e, matchAuthorizedKey P unquote account key visits = .error e) := by
  intro files
  have hok : ∀ m, matchAuthorizedKey P unquote account key visits = .ok m ↔
      ∃ entry, FirstMatch key files m.source entry ∧
        parseAuthorizedKeyConstraints unquote entry.options = .ok m.constraints :=
    fun m => matchFiles_eq_ok
  refine ⟨?_, hok, fun visits' resolved entry h h' => ?_, fun hnone => ?_⟩
  · constructor
    · rintro ⟨m, hm⟩
      obtain ⟨entry, hfirst, -⟩ := (hok m).mp hm
      exact ⟨m.source, entry, hfirst⟩
    · rintro ⟨resolved, entry, hfirst⟩
      obtain ⟨c, -, hc⟩ := matchAuthorizedKey_of_firstMatch hfirst
      exact ⟨_, hc⟩
  · obtain ⟨c, hc, hm⟩ := matchAuthorizedKey_of_firstMatch h
    obtain ⟨c', hc', hm'⟩ := matchAuthorizedKey_of_firstMatch h'
    obtain rfl : c = c' := Except.ok.inj (hc.symm.trans hc')
    rw [hm, hm']
  · cases hm : matchAuthorizedKey P unquote account key visits with
    | error e => exact ⟨e, rfl⟩
    | ok m =>
      obtain ⟨entry, hfirst, -⟩ := (hok m).mp hm
      exact absurd ⟨m.source, entry, hfirst⟩ hnone

end Mygosh.Server

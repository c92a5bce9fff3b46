/-
  File:      Mygosh/Files/Strict.lean
  Subject:   Descriptors whose metadata has been checked (`lib/strictfiles/files.go`).

  A function here returns its result and the kernel after it. What it does to the descriptor table is
  said by `Opens`: one new descriptor behind a success, none behind an error.
-/
import Mygosh.Posix
import Mygosh.Authz.Permissions

namespace Mygosh.Strictfiles

open Posix
open Server (guardWith guardWith_eq_ok)

/-! ## 1. Checks -/

/-- `CheckedFile`; `isOpen` is its field `open`. -/
structure CheckedFile where
  fd : Int
  name : String
  isOpen : Bool
  st : Stat
  deriving DecidableEq, Repr

structure CheckOptions where
  wantDir : Bool
  ownerID : UInt32
  allowSymlinks : Bool
  allowGlobalRead : Bool
  maxSize : UInt64
  deriving DecidableEq, Repr

def invalidFD : Int := -1

/-- `%#o`. -/
def octal (mode : UInt32) : String :=
  if mode = 0 then "0" else "0" ++ String.ofList (Nat.toDigits 8 mode.toNat)

def checkStat (st : Stat) (opt : CheckOptions) : Except String Unit :=
  guardWith (opt.wantDir && st.mode &&& sIFMT != sIFDIR)
    s!"expected directory, got mode {octal st.mode}" <|
  guardWith (!opt.wantDir && st.mode &&& sIFMT != sIFREG)
    s!"expected regular file, got mode {octal st.mode}" <|
  guardWith (st.uid != 0 && st.uid != opt.ownerID)
    s!"owner uid {st.uid} is neither root nor expected uid {opt.ownerID}" <|
  guardWith (st.mode &&& (sIWGRP ||| sIWOTH) != 0)
    s!"group or other write permission is set: mode {octal st.mode}" <|
  guardWith (!opt.allowGlobalRead && st.mode &&& (sIRGRP ||| sIROTH) != 0)
    s!"group or other read permission is set: mode {octal st.mode}" <|
  guardWith (opt.maxSize != 0 && (st.size < 0 || st.size.toNat > opt.maxSize.toNat))
    s!"size {st.size} exceeds maximum {opt.maxSize}" <|
  .ok ()

/-- Owned by root or the expected user, and nobody else may write it. -/
structure Trusted (ownerID : UInt32) (i : Inode) : Prop where
  owner : i.uid = 0 ∨ i.uid = ownerID
  noWrite : i.mode &&& (sIWGRP ||| sIWOTH) = 0

theorem checkStat_eq_ok {i : Inode} {opt : CheckOptions} (h : checkStat i.stat opt = .ok ()) :
    Trusted opt.ownerID i ∧
    i.mode &&& sIFMT = (if opt.wantDir then sIFDIR else sIFREG) ∧
    (opt.allowGlobalRead = false → i.mode &&& (sIRGRP ||| sIROTH) = 0) := by
  obtain ⟨hdir, h⟩ := guardWith_eq_ok h
  obtain ⟨hreg, h⟩ := guardWith_eq_ok h
  obtain ⟨howner, h⟩ := guardWith_eq_ok h
  obtain ⟨hwrite, h⟩ := guardWith_eq_ok h
  obtain ⟨hread, -⟩ := guardWith_eq_ok h
  simp only [Bool.and_eq_false_iff, bne_eq_false_iff_eq, Bool.not_eq_false']
    at hdir hreg howner hwrite hread
  refine ⟨⟨howner, hwrite⟩, ?_, fun hglobal => ?_⟩
  · cases hw : opt.wantDir with
    | true =>
      rw [hw] at hdir
      exact hdir.resolve_left (by decide)
    | false =>
      rw [hw] at hreg
      exact hreg.resolve_left (by decide)
  · rw [hglobal] at hread
    exact hread.resolve_left (by decide)

/-! ## 2. Opening -/

def checkOpened (os : Os) (k : Kernel) (fd : Int) (name : String) (opt : CheckOptions) :
    Except String CheckedFile × Kernel :=
  match os.fstat k fd with
  | (.error e, k) => (.error s!"stat opened file {name.quote}: {e.text}", (os.close k fd).2)
  | (.ok st, k) =>
    match checkStat st opt with
    | .error e => (.error s!"check opened file {name.quote}: {e}", (os.close k fd).2)
    | .ok _ => (.ok ⟨fd, name, true, st⟩, k)

/-- `openChecked`, on the flags that resolution depends on. -/
def openChecked (os : Os) (k : Kernel) (path : String) (oflags : Flags) (opt : CheckOptions) :
    Except String CheckedFile × Kernel :=
  let flags :=
    { oflags with
      directory := oflags.directory || opt.wantDir
      nofollow := oflags.nofollow || !opt.allowSymlinks }
  match os.openat k none path flags with
  | (.error e, k) => (.error s!"open {path.quote}: {e.text}", k)
  | (.ok fd, k) => checkOpened os k fd path opt

def openDirWithOptions (os : Os) (k : Kernel) (path : String) (opt : CheckOptions) :
    Except String CheckedFile × Kernel :=
  openChecked os k path ⟨true, false, false⟩ { opt with wantDir := true }

/-- The deferred close of `openAtNoSymlinks`. -/
def closeOwned (os : Os) (k : Kernel) (fd : Int) (owns : Bool) : Kernel :=
  if owns then (os.close k fd).2 else k

/-- The components of `openAtNoSymlinks`, from the directory `fd` on. -/
def openComponents (os : Os) (flags : Flags) :
    List String → Int → Bool → Kernel → Except Errno Int × Kernel
  | [], fd, owns, k =>
    let r := os.openat k (some fd) "." flags
    (r.1, closeOwned os r.2 fd owns)
  | [name], fd, owns, k =>
    let r := os.openat k (some fd) name flags
    (r.1, closeOwned os r.2 fd owns)
  | name :: rest, fd, owns, k =>
    match os.openat k (some fd) name ⟨true, true, true⟩ with
    | (.error e, k) => (.error e, closeOwned os k fd owns)
    | (.ok next, k) => openComponents os flags rest next true (closeOwned os k fd owns)

def openAtNoSymlinks (os : Os) (k : Kernel) (dirfd : Int) (name : String) (flags : Flags) :
    Except Errno Int × Kernel :=
  if name = "" ∨ isAbs name then (.error .einval, k)
  else if ".." ∈ splitPath name then (.error .exdev, k)
  else
    openComponents os flags ((splitPath name).filter fun c => c ≠ "" ∧ c ≠ ".") dirfd false k

/-- `openat2`, with the fallback where the kernel does not have it. -/
def openBeneath (os : Os) (k : Kernel) (dirfd : Int) (name : String) (flags : Flags) :
    Except Errno Int × Kernel :=
  match os.openat2 k dirfd name flags with
  | (.error .enosys, k) => openAtNoSymlinks os k dirfd name flags
  | r => r

def CheckedFile.openAt (os : Os) (k : Kernel) (cf : CheckedFile) (name : String)
    (opt : CheckOptions) : Except String CheckedFile × Kernel :=
  if !cf.isOpen then (.error "open relative to closed directory", k)
  else if cf.st.mode &&& sIFMT ≠ sIFDIR then (.error "open relative to non-directory", k)
  else if opt.allowSymlinks then (.error "OpenAt does not allow symlinks", k)
  else
    match openBeneath os k cf.fd name ⟨false, opt.wantDir, true⟩ with
    | (.error e, k) => (.error s!"open {name.quote} beneath {cf.name.quote}: {e.text}", k)
    | (.ok fd, k) => checkOpened os k fd name opt

def CheckedFile.close (os : Os) (k : Kernel) (cf : CheckedFile) :
    (Except String Unit × CheckedFile) × Kernel :=
  if !cf.isOpen then ((.ok (), cf), k)
  else
    let r := os.close k cf.fd
    ((match r.1 with
      | .error e => .error s!"close {cf.name.quote}: {e.text}"
      | .ok _ => .ok (), { cf with isOpen := false, fd := invalidFD }), r.2)

/-- `ToFile`: the descriptor of the `os.File`, which `os.NewFile` makes of one that is not negative. -/
def CheckedFile.toFile (cf : CheckedFile) : Option Int × CheckedFile :=
  if !cf.isOpen then (none, cf)
  else (if cf.fd < 0 then none else some cf.fd, { cf with isOpen := false, fd := invalidFD })

/-! ## 3. What opening leaves behind -/

/-- A descriptor that has passed its checks. -/
structure Checked (os : Os) (opt : CheckOptions) (cf : CheckedFile) (file : OpenFile) : Prop where
  isOpen : cf.isOpen = true
  st : cf.st = (os.fs.inode file.ino).stat
  checked : checkStat cf.st opt = .ok ()

theorem Checked.dir {os : Os} {opt : CheckOptions} {cf : CheckedFile} {file : OpenFile}
    (h : Checked os opt cf file) (hdir : opt.wantDir = true) :
    os.fs.isDir file.ino = true ∧ Trusted opt.ownerID (os.fs.inode file.ino) := by
  obtain ⟨htrusted, hmode, -⟩ := checkStat_eq_ok (h.st ▸ h.checked)
  rw [if_pos hdir] at hmode
  exact ⟨isDir_of_mode hmode, htrusted⟩

theorem Checked.regular {os : Os} {opt : CheckOptions} {cf : CheckedFile} {file : OpenFile}
    (h : Checked os opt cf file) (hdir : opt.wantDir = false) :
    (∃ contents, (os.fs.inode file.ino).body = .regular contents) ∧
    Trusted opt.ownerID (os.fs.inode file.ino) ∧
    (opt.allowGlobalRead = false → (os.fs.inode file.ino).mode &&& (sIRGRP ||| sIROTH) = 0) := by
  obtain ⟨htrusted, hmode, hread⟩ := checkStat_eq_ok (h.st ▸ h.checked)
  rw [hdir] at hmode
  exact ⟨regular_of_mode hmode, htrusted, hread⟩

section Opening

variable {os : Os} {k k₀ k₁ : Kernel} {fd : Int} {name path : String} {opt : CheckOptions}
  {flags : Flags} {P : Int → OpenFile → Prop}

theorem checkOpened_opens (h : Opens id P k₀ ((.ok fd, k) : Except Errno Int × Kernel)) :
    Opens CheckedFile.fd (fun cf file => Checked os opt cf file ∧ P cf.fd file) k₀
      (checkOpened os k fd name opt) := by
  obtain ⟨file, hfree, hpos, hfds, hP⟩ := h
  have hfile : k.fds fd = some file := by
    rw [hfds]
    exact Function.update_self ..
  -- on both error paths the new descriptor is closed
  have hclosed : (os.close (os.fstat k fd).2 fd).2.fds = k₀.fds := by
    rw [close_fds, fstat_fds, hfds]
    exact update_none hfree
  unfold checkOpened
  cases hs : os.fstat k fd with
  | mk r k' =>
    have hk' : k' = (os.fstat k fd).2 := by rw [hs]
    cases r with
    | error e =>
      subst hk'
      exact hclosed
    | ok st =>
      have hst := fstat_ok hfile (by rw [hs])
      dsimp only
      cases hc : checkStat st opt with
      | error e =>
        subst hk'
        exact hclosed
      | ok u =>
        refine ⟨file, hfree, hpos, ?_, ⟨rfl, hst, hc⟩, hP⟩
        rw [hk', fstat_fds, hfds]
        rfl

/-- An open, and the check of what it has opened. -/
theorem opens_checkOpened {r : Except Errno Int × Kernel} (h : Opens id P k r) (text : Errno → String) :
    Opens CheckedFile.fd (fun cf file => Checked os opt cf file ∧ P cf.fd file) k
      (match r with
        | (.error e, k) => (.error (text e), k)
        | (.ok fd, k) => checkOpened os k fd name opt) := by
  obtain ⟨r, k'⟩ := r
  cases r with
  | error e => exact h
  | ok fd => exact checkOpened_opens h

theorem openDirWithOptions_opens :
    Opens CheckedFile.fd (fun cf file => Checked os { opt with wantDir := true } cf file ∧
      os.fs.resolve ⟨true, !opt.allowSymlinks, false, false⟩ (.ok os.cwd) path = .ok file.ino ∧
      file.path = true ∧ file.offset = 0) k (openDirWithOptions os k path opt) :=
  opens_checkOpened openat_opens fun e => s!"open {path.quote}: {e.text}"

/-! ## 4. Opening beneath a directory -/

/-- What `openAtNoSymlinks` has open besides the descriptors of `k₀`. -/
def Owns (k₀ k : Kernel) (fd : Int) (owns : Bool) : Prop :=
  if owns then k₀.fds fd = none ∧ ∃ file, k.fds = Function.update k₀.fds fd (some file)
  else k.fds = k₀.fds

theorem Owns.closed {owns : Bool} (h : Owns k₀ k fd owns) :
    (closeOwned os k fd owns).fds = k₀.fds := by
  cases owns with
  | false => exact h
  | true =>
    obtain ⟨hfree, file, hfds⟩ := h
    have hclose : (closeOwned os k fd true).fds = Function.update k.fds fd none := rfl
    rw [hclose, hfds]
    exact update_none hfree

/-- A descriptor that is new beside the owned one is new without it. -/
theorem Owns.opened {owns : Bool} {next : Int} {file : OpenFile} (h : Owns k₀ k fd owns)
    (hfree : k.fds next = none) (hfds : k₁.fds = Function.update k.fds next (some file)) :
    k₀.fds next = none ∧
      (closeOwned os k₁ fd owns).fds = Function.update k₀.fds next (some file) := by
  cases owns with
  | false =>
    have hk : k.fds = k₀.fds := h
    exact ⟨by rw [← hk, hfree], by rw [← hk, ← hfds]; rfl⟩
  | true =>
    obtain ⟨hfd, other, hk⟩ := h
    have hclose : (closeOwned os k₁ fd true).fds = Function.update k₁.fds fd none := rfl
    rw [hclose, hfds]
    exact update_swap hfd hk hfree file

/-- The last open, with the deferred close behind it. -/
theorem Owns.last {owns : Bool} {r : Except Errno Int × Kernel} (h : Owns k₀ k fd owns)
    (hr : Opens id P k r) : Opens id P k₀ (r.1, closeOwned os r.2 fd owns) := by
  obtain ⟨r, k'⟩ := r
  cases r with
  | error e =>
    have hk : k'.fds = k.fds := hr
    have howns : Owns k₀ k' fd owns := by
      unfold Owns
      rw [hk]
      exact h
    exact howns.closed
  | ok next =>
    obtain ⟨file, hfree, hpos, hfds, hP⟩ := hr
    obtain ⟨hfree, hfds⟩ := h.opened hfree hfds
    exact ⟨file, hfree, hpos, hfds, hP⟩

/-- Whatever the components are, one new descriptor is left or none. -/
theorem openComponents_opens {names : List String} {owns : Bool} (h : Owns k₀ k fd owns) :
    Opens id (fun _ _ => True) k₀ (openComponents os flags names fd owns k) := by
  fun_induction openComponents os flags names fd owns k with
  | case1 fd owns k r => exact h.last (openat_opens.mono fun _ _ _ => trivial)
  | case2 name fd owns k r => exact h.last (openat_opens.mono fun _ _ _ => trivial)
  | case3 name rest fd owns k hrest e k' heq =>
    have hopen : Opens id (fun _ _ => True) k (os.openat k (some fd) name ⟨true, true, true⟩) :=
      openat_opens.mono fun _ _ _ => trivial
    rw [heq] at hopen
    exact h.last hopen
  | case4 name rest fd owns k hrest next k' heq ih =>
    have hopen : Opens id (fun _ _ => True) k (os.openat k (some fd) name ⟨true, true, true⟩) :=
      openat_opens.mono fun _ _ _ => trivial
    rw [heq] at hopen
    obtain ⟨file, hfree, -, hfds, -⟩ := hopen
    obtain ⟨hfree, hfds⟩ := h.opened hfree hfds
    exact ih ⟨hfree, file, hfds⟩

/-- What a new descriptor for a single name refers to. -/
def Entry (os : Os) (dir : Ino) (name : String) (flags : Flags) (file : OpenFile) : Prop :=
  Proper name → os.fs.lookup dir name = some file.ino ∧ file.path = flags.path ∧ file.offset = 0

theorem openAtNoSymlinks_opens {dir : OpenFile} (hdir : k.fds fd = some dir)
    (hflags : flags.nofollow = true) :
    Opens id (fun _ file => Entry os dir.ino name flags file) k
      (openAtNoSymlinks os k fd name flags) := by
  have hstart : os.start k (some fd) = .ok dir.ino := by simp only [Os.start, hdir]
  unfold openAtNoSymlinks
  split_ifs with hempty hup
  · exact rfl
  · exact rfl
  by_cases hn : Proper name
  · -- a single name is opened in the given directory itself
    have hnames : (splitPath name).filter (fun c => c ≠ "" ∧ c ≠ ".") = [name] := by
      rw [hn.splitPath]
      simp [hn.nonempty, hn.noDot]
    have hone : openComponents os flags [name] fd false k = os.openat k (some fd) name flags := rfl
    rw [hnames, hone]
    refine openat_opens.mono fun _ file hfile _ => ⟨?_, hfile.2⟩
    rw [hstart] at hfile
    exact (resolve_proper hn (.inr hflags) hfile.1).1
  · have howns : Owns k k fd false := rfl
    exact (openComponents_opens howns).mono fun _ _ _ hp => absurd hp hn

theorem openBeneath_opens {dir : OpenFile} (hdir : k.fds fd = some dir)
    (hflags : flags.nofollow = true) :
    Opens id (fun _ file => Entry os dir.ino name flags file) k (openBeneath os k fd name flags) := by
  have hstart : os.start k (some fd) = .ok dir.ino := by simp only [Os.start, hdir]
  have hopen : Opens id (fun _ file => Entry os dir.ino name flags file) k
      (os.openat2 k fd name flags) := by
    refine openat2_opens.mono fun _ file hfile hn => ⟨?_, hfile.2⟩
    rw [hstart] at hfile
    exact (resolve_proper hn (.inl rfl) hfile.1).1
  unfold openBeneath
  split
  · rename_i k' heq
    rw [heq] at hopen
    have hk' : k'.fds = k.fds := hopen
    exact (openAtNoSymlinks_opens (by rw [hk', hdir]) hflags).of_fds hk'
  · exact hopen

/-- **`OpenAt`** leaves a checked descriptor for the entry of that name, or none. -/
theorem openAt_opens {cf : CheckedFile} {dir : OpenFile} (hdir : k.fds cf.fd = some dir) :
    Opens CheckedFile.fd (fun next file => Checked os opt next file ∧
      Entry os dir.ino name ⟨false, opt.wantDir, true⟩ file) k (cf.openAt os k name opt) := by
  unfold CheckedFile.openAt
  split_ifs
  · exact rfl
  · exact rfl
  · exact rfl
  · exact opens_checkOpened (openBeneath_opens hdir rfl) fun e =>
      s!"open {name.quote} beneath {cf.name.quote}: {e.text}"

end Opening

/-! ## 5. Closing -/

section Closing

variable {os : Os} {k : Kernel} {cf : CheckedFile}

theorem close_of_open (h : cf.isOpen = true) :
    (cf.close os k).2.fds = Function.update k.fds cf.fd none ∧ (cf.close os k).1.2.isOpen = false := by
  unfold CheckedFile.close
  rw [h]
  exact ⟨rfl, rfl⟩

theorem close_of_closed (h : cf.isOpen = false) : (cf.close os k).2 = k := by
  unfold CheckedFile.close
  rw [h]
  rfl

end Closing

end Mygosh.Strictfiles

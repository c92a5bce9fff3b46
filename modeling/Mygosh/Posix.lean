/-
  File:      Mygosh/Posix.lean
  Subject:   A file system with owners, modes and symbolic links, and the system calls that open, check,
             read and close.

  * `FileSystem` -- inodes, the names in directories, the root;
  * `FileSystem.resolve` -- path resolution under `O_NOFOLLOW`, `RESOLVE_BENEATH` and
    `RESOLVE_NO_SYMLINKS`; `resolve_proper` is what it does with a single name;
  * `Os`, `Kernel` -- the process and its descriptor table. Any call may fail for a reason of its own
    (`fault`), a read may return less than was asked for (`chunk`), and which free descriptor an open
    returns is left open (`alloc`). `close` releases its descriptor in every case.
  * `Opens` -- a call that leaves one new descriptor behind, or none.
-/
import Mygosh.Text

namespace Mygosh.Posix

open Function (update update_self update_of_ne update_eq_self update_idem update_comm)

inductive Errno where
  | enoent
  | ebadf
  | exdev
  | enotdir
  | eisdir
  | einval
  | emfile
  | enosys
  | eloop
  | other (n : Nat)
  deriving DecidableEq, Repr

def Errno.text : Errno → String
  | .enoent => "no such file or directory"
  | .ebadf => "bad file descriptor"
  | .exdev => "invalid cross-device link"
  | .enotdir => "not a directory"
  | .eisdir => "is a directory"
  | .einval => "invalid argument"
  | .emfile => "too many open files"
  | .enosys => "function not implemented"
  | .eloop => "too many levels of symbolic links"
  | .other n => s!"errno {n}"

/-! ## 1. Files -/

def sIFMT : UInt32 := 0o170000
def sIFDIR : UInt32 := 0o040000
def sIFREG : UInt32 := 0o100000
def sIFLNK : UInt32 := 0o120000
def sIRGRP : UInt32 := 0o040
def sIWGRP : UInt32 := 0o020
def sIROTH : UInt32 := 0o004
def sIWOTH : UInt32 := 0o002

abbrev Ino := Nat

inductive Body where
  | directory (entries : AList fun _ : String => Ino) (parent : Ino)
  | regular (contents : List UInt8)
  | symlink (target : String)
  | other

/-- The type bits of the mode are those of the body. -/
def Body.Typed (mode : UInt32) : Body → Prop
  | .directory _ _ => mode &&& sIFMT = sIFDIR
  | .regular _ => mode &&& sIFMT = sIFREG
  | .symlink _ => mode &&& sIFMT = sIFLNK
  | .other => mode &&& sIFMT ≠ sIFDIR ∧ mode &&& sIFMT ≠ sIFREG ∧ mode &&& sIFMT ≠ sIFLNK

instance (mode : UInt32) : ∀ body : Body, Decidable (body.Typed mode)
  | .directory _ _ => inferInstanceAs (Decidable (_ = _))
  | .regular _ => inferInstanceAs (Decidable (_ = _))
  | .symlink _ => inferInstanceAs (Decidable (_ = _))
  | .other => inferInstanceAs (Decidable (_ ∧ _))

structure Inode where
  uid : UInt32
  mode : UInt32
  body : Body
  typed : body.Typed mode

structure Stat where
  uid : UInt32
  mode : UInt32
  size : Int
  deriving DecidableEq, Repr

def Inode.stat (i : Inode) : Stat where
  uid := i.uid
  mode := i.mode
  size :=
    match i.body with
    | .regular contents => contents.length
    | _ => 0

structure FileSystem where
  inode : Ino → Inode
  root : Ino

def FileSystem.isDir (fs : FileSystem) (ino : Ino) : Bool :=
  match (fs.inode ino).body with
  | .directory _ _ => true
  | _ => false

/-- The entry `name` of a directory. -/
def FileSystem.lookup (fs : FileSystem) (dir : Ino) (name : String) : Option Ino :=
  match (fs.inode dir).body with
  | .directory entries _ => entries.lookup name
  | _ => none

/-- From entry to entry, with no link followed: the directories on the way and what the last name is
    the name of. -/
def FileSystem.descend (fs : FileSystem) (dir : Ino) : List String → Option (List Ino)
  | [] => some [dir]
  | name :: rest =>
    match fs.lookup dir name with
    | none => none
    | some next => (fs.descend next rest).map (dir :: ·)

section Inodes

variable {i : Inode} {fs : FileSystem}

theorem isDir_of_mode {ino : Ino} (h : (fs.inode ino).mode &&& sIFMT = sIFDIR) :
    fs.isDir ino = true := by
  unfold FileSystem.isDir
  have htyped := (fs.inode ino).typed
  cases hb : (fs.inode ino).body with
  | directory entries parent => rfl
  | regular contents =>
    rw [hb] at htyped
    exact absurd (htyped.symm.trans h) (by decide)
  | symlink target =>
    rw [hb] at htyped
    exact absurd (htyped.symm.trans h) (by decide)
  | other =>
    rw [hb] at htyped
    exact absurd h htyped.1

theorem regular_of_mode (h : i.mode &&& sIFMT = sIFREG) : ∃ contents, i.body = .regular contents := by
  have htyped := i.typed
  cases hb : i.body with
  | regular contents => exact ⟨contents, rfl⟩
  | directory entries parent =>
    rw [hb] at htyped
    exact absurd (htyped.symm.trans h) (by decide)
  | symlink target =>
    rw [hb] at htyped
    exact absurd (htyped.symm.trans h) (by decide)
  | other =>
    rw [hb] at htyped
    exact absurd h htyped.2.1

end Inodes

/-! ## 2. Path resolution -/

/-- `O_DIRECTORY`, `O_NOFOLLOW`, `RESOLVE_BENEATH`, `RESOLVE_NO_SYMLINKS`. -/
structure How where
  directory : Bool
  nofollow : Bool
  beneath : Bool
  noSymlinks : Bool
  deriving DecidableEq, Repr

/-- Where a walk without links ends: at a file, or before a link that is to be followed. -/
inductive Stop where
  | file (ino : Ino)
  | link (dir : Ino) (depth : Nat) (target : String) (rest : List String)

/-- Walk to the next link; `depth` counts the names below the start. -/
def FileSystem.advance (fs : FileSystem) (how : How) : Ino → Nat → List String → Except Errno Stop
  | ino, _, [] => .ok (.file ino)
  | dir, depth, name :: rest =>
    match (fs.inode dir).body with
    | .directory entries parent =>
      if name = "" ∨ name = "." then fs.advance how dir depth rest
      else if name = ".." then
        if how.beneath ∧ depth = 0 then .error .exdev
        else fs.advance how parent (depth - 1) rest
      else
        match entries.lookup name with
        | none => .error .enoent
        | some next =>
          match (fs.inode next).body with
          | .symlink target =>
            if how.noSymlinks ∨ how.nofollow ∧ rest = [] then .error .eloop
            else .ok (.link dir depth target rest)
          | _ => fs.advance how next (depth + 1) rest
    | _ => .error .enotdir

/-- Walk, with at most `budget` links followed. -/
def FileSystem.walk (fs : FileSystem) (how : How) :
    Nat → Ino → Nat → List String → Except Errno Ino
  | budget, start, depth, names =>
    match fs.advance how start depth names with
    | .error e => .error e
    | .ok (.file ino) => if how.directory ∧ !fs.isDir ino then .error .enotdir else .ok ino
    | .ok (.link dir depth target rest) =>
      match budget with
      | 0 => .error .eloop
      | budget + 1 =>
        if isAbs target then
          if how.beneath then .error .exdev
          else fs.walk how budget fs.root 0 (splitPath target ++ rest)
        else fs.walk how budget dir depth (splitPath target ++ rest)

/-- The number of links in a resolution. -/
def maxSymlinks : Nat := 40

def FileSystem.resolve (fs : FileSystem) (how : How) (start : Except Errno Ino) (path : String) :
    Except Errno Ino :=
  if containsRune path nul then .error .einval
  else if path = "" then .error .enoent
  else if isAbs path then
    if how.beneath then .error .exdev else fs.walk how maxSymlinks fs.root 0 (splitPath path)
  else start.bind fun dir => fs.walk how maxSymlinks dir 0 (splitPath path)

/-- A name that is one entry of a directory. -/
structure Proper (name : String) : Prop where
  nonempty : name ≠ ""
  noDot : name ≠ "."
  noDotDot : name ≠ ".."
  noSlash : '/' ∉ name.toList

theorem Proper.splitPath {name : String} (h : Proper name) : splitPath name = [name] := by
  rw [Mygosh.splitPath, List.splitOn_eq_singleton h.noSlash]
  simp

theorem Proper.isAbs {name : String} (h : Proper name) : isAbs name = false := by
  refine decide_eq_false fun hhead => h.noSlash ?_
  exact List.mem_of_head? hhead

/-- A walk over a single name that follows no link ends at the entry of that name. -/
theorem advance_proper {fs : FileSystem} {how : How} {dir : Ino} {name : String} {stop : Stop}
    (hn : Proper name) (hlinks : how.noSymlinks = true ∨ how.nofollow = true)
    (h : fs.advance how dir 0 [name] = .ok stop) :
    ∃ next, fs.lookup dir name = some next ∧ stop = .file next := by
  rw [FileSystem.advance] at h
  unfold FileSystem.lookup
  split at h
  · rename_i entries parent hb
    rw [if_neg (not_or.mpr ⟨hn.nonempty, hn.noDot⟩), if_neg hn.noDotDot] at h
    cases hl : entries.lookup name with
    | none =>
      rw [hl] at h
      cases h
    | some next =>
      rw [hl] at h
      refine ⟨next, rfl, ?_⟩
      -- it is the last name: a link is refused, at everything else the walk ends
      dsimp only at h
      split at h
      · rw [if_pos (hlinks.imp id fun hf => ⟨hf, rfl⟩)] at h
        cases h
      · rw [FileSystem.advance] at h
        exact (Except.ok.inj h).symm
  · cases h

/-- **A single name resolves to the entry of that name**, where links are not followed. -/
theorem resolve_proper {fs : FileSystem} {how : How} {dir ino : Ino} {name : String} (hn : Proper name)
    (hlinks : how.noSymlinks = true ∨ how.nofollow = true)
    (h : fs.resolve how (.ok dir) name = .ok ino) :
    fs.lookup dir name = some ino ∧ (how.directory = true → fs.isDir ino = true) := by
  unfold FileSystem.resolve at h
  split_ifs at h with hnul hempty habs
  · cases hn.isAbs.symm.trans habs
  · change fs.walk how maxSymlinks dir 0 (Mygosh.splitPath name) = .ok ino at h
    rw [hn.splitPath, FileSystem.walk] at h
    cases ha : fs.advance how dir 0 [name] with
    | error e =>
      rw [ha] at h
      cases h
    | ok stop =>
      obtain ⟨next, hlookup, rfl⟩ := advance_proper hn hlinks ha
      rw [ha] at h
      dsimp only at h
      split_ifs at h with hdir
      obtain rfl := Except.ok.inj h
      refine ⟨hlookup, fun hd => ?_⟩
      by_contra hne
      exact hdir ⟨hd, by simpa using hne⟩

/-! ## 3. Descriptors and calls -/

/-- An open file description; `path` is `O_PATH`. -/
structure OpenFile where
  ino : Ino
  path : Bool
  offset : Nat
  deriving DecidableEq, Repr

/-- What a process finds around it. -/
structure Os where
  fs : FileSystem
  cwd : Ino
  /-- the descriptor that an open returns -/
  alloc : (Int → Option OpenFile) → Option Int
  unused : ∀ fds fd, alloc fds = some fd → fds fd = none ∧ 0 ≤ fd
  /-- the call of that number fails, whatever it is -/
  fault : Nat → Option Errno
  /-- how much a read returns at most -/
  chunk : Nat → Nat

structure Kernel where
  fds : Int → Option OpenFile
  calls : Nat

/-- `O_PATH`, `O_DIRECTORY`, `O_NOFOLLOW`; the opens here are read-only and do not block. -/
structure Flags where
  path : Bool
  directory : Bool
  nofollow : Bool
  deriving DecidableEq, Repr

namespace Os

variable {α ε : Type}

def call (os : Os) (k : Kernel) (f : Kernel → Except Errno α × Kernel) : Except Errno α × Kernel :=
  let k' := { k with calls := k.calls + 1 }
  match os.fault k.calls with
  | some e => (.error e, k')
  | none => f k'

/-- The directory of a relative path: `none` is `AT_FDCWD`. -/
def start (os : Os) (k : Kernel) : Option Int → Except Errno Ino
  | none => .ok os.cwd
  | some fd =>
    match k.fds fd with
    | none => .error .ebadf
    | some file => .ok file.ino

/-- A new descriptor for what a path has been resolved to. -/
def install (os : Os) (k : Kernel) (path : Bool) : Except Errno Ino → Except Errno Int × Kernel
  | .error e => (.error e, k)
  | .ok ino =>
    match os.alloc k.fds with
    | none => (.error .emfile, k)
    | some fd => (.ok fd, { k with fds := update k.fds fd (some ⟨ino, path, 0⟩) })

def openat (os : Os) (k : Kernel) (dirfd : Option Int) (path : String) (flags : Flags) :
    Except Errno Int × Kernel :=
  os.call k fun k => os.install k flags.path
    (os.fs.resolve ⟨flags.directory, flags.nofollow, false, false⟩ (os.start k dirfd) path)

/-- With `RESOLVE_BENEATH`, `RESOLVE_NO_MAGICLINKS` and `RESOLVE_NO_SYMLINKS`. -/
def openat2 (os : Os) (k : Kernel) (dirfd : Int) (path : String) (flags : Flags) :
    Except Errno Int × Kernel :=
  os.call k fun k => os.install k flags.path
    (os.fs.resolve ⟨flags.directory, flags.nofollow, true, true⟩ (os.start k (some dirfd)) path)

def fstat (os : Os) (k : Kernel) (fd : Int) : Except Errno Stat × Kernel :=
  os.call k fun k =>
    match k.fds fd with
    | none => (.error .ebadf, k)
    | some file => (.ok (os.fs.inode file.ino).stat, k)

def close (os : Os) (k : Kernel) (fd : Int) : Except Errno Unit × Kernel :=
  (match k.fds fd, os.fault k.calls with
    | none, _ => .error .ebadf
    | some _, some e => .error e
    | some _, none => .ok (),
    ⟨update k.fds fd none, k.calls + 1⟩)

def read (os : Os) (k : Kernel) (fd : Int) (n : Nat) : Except Errno (List UInt8) × Kernel :=
  os.call k fun k =>
    match k.fds fd with
    | none => (.error .ebadf, k)
    | some file =>
      if file.path then (.error .ebadf, k)
      else
        match (os.fs.inode file.ino).body with
        | .regular contents =>
          let got := (contents.drop file.offset).take (min n (max 1 (os.chunk k.calls)))
          let file := { file with offset := file.offset + got.length }
          (.ok got, { k with fds := update k.fds fd (some file) })
        | .directory _ _ => (.error .eisdir, k)
        | _ => (.error .einval, k)

end Os

/-- A call that leaves one new descriptor behind, for a file with `P`, or none. -/
def Opens {α ε : Type} (fdOf : α → Int) (P : α → OpenFile → Prop) (k : Kernel) :
    Except ε α × Kernel → Prop
  | (.error _, k') => k'.fds = k.fds
  | (.ok a, k') => ∃ file, k.fds (fdOf a) = none ∧ 0 ≤ fdOf a ∧
      k'.fds = update k.fds (fdOf a) (some file) ∧ P a file

section Calls

variable {α ε : Type} {os : Os} {k : Kernel} {fd : Int} {path : String} {flags : Flags}

theorem Opens.mono {fdOf : α → Int} {P Q : α → OpenFile → Prop} {r : Except ε α × Kernel}
    (h : Opens fdOf P k r) (hPQ : ∀ a file, P a file → Q a file) : Opens fdOf Q k r := by
  obtain ⟨r, k'⟩ := r
  cases r with
  | error e => exact h
  | ok a =>
    obtain ⟨file, hfree, hpos, hfds, hP⟩ := h
    exact ⟨file, hfree, hpos, hfds, hPQ a file hP⟩

/-- Only the table counts. -/
theorem Opens.of_fds {fdOf : α → Int} {P : α → OpenFile → Prop} {r : Except ε α × Kernel} {k' : Kernel}
    (h : Opens fdOf P k' r) (hk : k'.fds = k.fds) : Opens fdOf P k r := by
  obtain ⟨r, k''⟩ := r
  cases r with
  | error e => exact Eq.trans h hk
  | ok a =>
    obtain ⟨file, hfree, hpos, hfds, hP⟩ := h
    rw [hk] at hfree hfds
    exact ⟨file, hfree, hpos, hfds, hP⟩

/-- Closing a new descriptor restores the table. -/
theorem update_none {fds : Int → Option OpenFile} {file : OpenFile} (h : fds fd = none) :
    update (update fds fd (some file)) fd none = fds := by
  rw [update_idem, ← h, update_eq_self]

/-- A new descriptor beside another new one, which is then closed. -/
theorem update_swap {fds₀ fds : Int → Option OpenFile} {next : Int} {other : OpenFile}
    (hfd : fds₀ fd = none) (hfds : fds = update fds₀ fd (some other))
    (hnext : fds next = none) (file : OpenFile) :
    fds₀ next = none ∧ update (update fds next (some file)) fd none =
      update fds₀ next (some file) := by
  have hne : next ≠ fd := by
    rintro rfl
    rw [hfds, update_self] at hnext
    cases hnext
  rw [hfds, update_of_ne hne] at hnext
  refine ⟨hnext, ?_⟩
  rw [hfds, update_comm hne, update_none hfd]

@[simp] theorem close_fds : (os.close k fd).2.fds = update k.fds fd none := rfl

theorem install_opens {r : Except Errno Ino} {p : Bool} :
    Opens id (fun _ file => r = .ok file.ino ∧ file.path = p ∧ file.offset = 0) k
      (os.install k p r) := by
  cases r with
  | error e => rfl
  | ok ino =>
    unfold Os.install
    cases ha : os.alloc k.fds with
    | none => exact rfl
    | some fd =>
      obtain ⟨hfree, hpos⟩ := os.unused _ _ ha
      exact ⟨_, hfree, hpos, rfl, rfl, rfl, rfl⟩

theorem openat_opens {dirfd : Option Int} :
    Opens id (fun _ file => os.fs.resolve ⟨flags.directory, flags.nofollow, false, false⟩
      (os.start k dirfd) path = .ok file.ino ∧ file.path = flags.path ∧ file.offset = 0) k
      (os.openat k dirfd path flags) := by
  unfold Os.openat Os.call
  cases os.fault k.calls with
  | some e => exact rfl
  | none => exact install_opens

theorem openat2_opens {dirfd : Int} :
    Opens id (fun _ file => os.fs.resolve ⟨flags.directory, flags.nofollow, true, true⟩
      (os.start k (some dirfd)) path = .ok file.ino ∧ file.path = flags.path ∧ file.offset = 0) k
      (os.openat2 k dirfd path flags) := by
  unfold Os.openat2 Os.call
  cases os.fault k.calls with
  | some e => exact rfl
  | none => exact install_opens

theorem fstat_fds : (os.fstat k fd).2.fds = k.fds := by
  unfold Os.fstat Os.call
  cases os.fault k.calls with
  | some e => rfl
  | none =>
    dsimp only
    split <;> rfl

theorem fstat_ok {file : OpenFile} {st : Stat} (hfile : k.fds fd = some file)
    (h : (os.fstat k fd).1 = .ok st) : st = (os.fs.inode file.ino).stat := by
  unfold Os.fstat Os.call at h
  cases hf : os.fault k.calls with
  | some e =>
    rw [hf] at h
    cases h
  | none =>
    rw [hf] at h
    dsimp only at h
    rw [hfile] at h
    exact (Except.ok.inj h).symm

/-- A read moves the offset of its own descriptor at most. -/
theorem read_fds {file : OpenFile} {n : Nat} (hfile : k.fds fd = some file) :
    ∃ file', (os.read k fd n).2.fds = update k.fds fd (some file') := by
  have hsame : k.fds = update k.fds fd (some file) := by
    rw [← hfile, update_eq_self]
  unfold Os.read Os.call
  cases os.fault k.calls with
  | some e => exact ⟨file, hsame⟩
  | none =>
    dsimp only
    rw [hfile]
    dsimp only
    split_ifs
    · exact ⟨file, hsame⟩
    · split
      · exact ⟨_, rfl⟩
      · exact ⟨file, hsame⟩
      · exact ⟨file, hsame⟩

/-- What a read returns of a regular file: the next bytes, some of them if there are any. -/
theorem read_ok {file : OpenFile} {n : Nat} {contents got : List UInt8} (hfile : k.fds fd = some file)
    (hbody : (os.fs.inode file.ino).body = .regular contents) (h : (os.read k fd n).1 = .ok got) :
    (∃ m, 1 ≤ m ∧ got = (contents.drop file.offset).take (min n m)) ∧
      (os.read k fd n).2.fds =
        update k.fds fd (some { file with offset := file.offset + got.length }) := by
  unfold Os.read Os.call at h ⊢
  cases hf : os.fault k.calls with
  | some e =>
    rw [hf] at h
    cases h
  | none =>
    rw [hf] at h
    dsimp only at h ⊢
    rw [hfile] at h ⊢
    dsimp only at h ⊢
    split_ifs at h ⊢
    rw [hbody] at h ⊢
    obtain rfl := Except.ok.inj h
    exact ⟨⟨_, Nat.le_max_left _ _, rfl⟩, rfl⟩

end Calls

end Mygosh.Posix

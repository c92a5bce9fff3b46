/-
  File:      Mygosh/Files/Secure.lean
  Subject:   Reading a file beneath an anchor (`app/securefiles/read.go`).

  `Read` goes down from directory to directory, each opened beneath the one before and checked, and
  holds one descriptor on the way. `Holds` says which one that is; the path from the anchor to the file
  grows by one entry with each round of the loop.
-/
import Mygosh.Files.Strict
import Mygosh.Lines

namespace Mygosh.Securefiles

open Function (update update_self update_eq_self update_idem)
open Posix Strictfiles

/-! ## 1. Components -/

/-- The loop of `cleanComponents`. -/
def collect : List String → List String → List String
  | [], out => out
  | component :: rest, out =>
    if component = "" ∨ component = "." then collect rest out
    else if component = ".." then []
    else collect rest (out ++ [component])

def cleanComponents (path : String) : List String := collect (splitPath (filepathClean path)) []

/-- The names of a path. -/
def named (components : List String) : List String := components.filter fun c => c ≠ "" ∧ c ≠ "."

theorem collect_eq {components out : List String} :
    collect components out = if ".." ∈ components then [] else out ++ named components := by
  induction components generalizing out with
  | nil => simp [collect, named]
  | cons component rest ih =>
    rw [collect]
    by_cases hskip : component = "" ∨ component = "."
    · have hne : ".." ≠ component := by
        rintro rfl
        revert hskip
        decide
      have hnamed : named (component :: rest) = named rest := by
        refine List.filter_cons_of_neg ?_
        rcases hskip with rfl | rfl <;> simp
      rw [if_pos hskip, ih, hnamed]
      simp [hne]
    · rw [if_neg hskip]
      by_cases hup : component = ".."
      · rw [if_pos hup, if_pos (by simp [hup])]
      · have hnamed : named (component :: rest) = component :: named rest :=
          List.filter_cons_of_pos (by simpa [not_or] using hskip)
        rw [if_neg hup, ih, hnamed]
        simp [Ne.symm hup]

theorem cleanComponents_ne_nil {path : String} (h : cleanComponents path ≠ []) :
    ".." ∉ splitPath (filepathClean path) ∧
      cleanComponents path = named (splitPath (filepathClean path)) := by
  rw [cleanComponents, collect_eq] at h ⊢
  split_ifs at h ⊢ with hup
  · exact absurd rfl h
  · exact ⟨hup, rfl⟩

theorem proper_of_mem {path name : String} (hup : ".." ∉ splitPath path)
    (h : name ∈ named (splitPath path)) : Proper name := by
  obtain ⟨hmem, hne⟩ := List.mem_filter.mp h
  have hne := of_decide_eq_true hne
  refine ⟨hne.1, hne.2, fun heq => hup (heq ▸ hmem), ?_⟩
  obtain ⟨l, hl, rfl⟩ := List.mem_map.mp hmem
  rw [String.toList_ofList]
  exact sep_notMem_of_mem_splitOn l hl

/-! ## 2. `Read` -/

structure Policy where
  ownerID : UInt32
  maxSize : UInt64
  allowGlobalRead : Bool
  deriving DecidableEq, Repr

/-- The options for the anchor, for the directories below it and for the file. -/
def Policy.anchorOptions (policy : Policy) : CheckOptions := ⟨false, policy.ownerID, true, true, 0⟩

def Policy.dirOptions (policy : Policy) : CheckOptions := ⟨true, policy.ownerID, false, true, 0⟩

def Policy.fileOptions (policy : Policy) : CheckOptions :=
  ⟨false, policy.ownerID, false, policy.allowGlobalRead, policy.maxSize⟩

/-- The loop over the directories: the error that ends it, and the descriptor held then. -/
def openDirs (os : Os) (policy : Policy) :
    List String → CheckedFile → Kernel → (Option String × CheckedFile) × Kernel
  | [], current, k => ((none, current), k)
  | component :: rest, current, k =>
    match current.openAt os k component policy.dirOptions with
    | (.error e, k) => ((some s!"open secure file directory: {e}", current), k)
    | (.ok next, k) =>
      match current.close os k with
      | ((.error e, current), k) => ((some e, current), (next.close os k).2)
      | ((.ok _, _), k) => openDirs os policy rest next k

/-- `io.ReadAll` of `io.LimitReader`: a round reads what the kernel gives it, up to the limit. Each
    round but the last takes something off the limit, which is why it bounds their number. -/
def readAll (os : Os) (fd : Int) :
    Nat → Int → List UInt8 → Kernel → Except Errno (List UInt8) × Kernel
  | 0, _, contents, k => (.ok contents, k)
  | rounds + 1, limit, contents, k =>
    if limit ≤ 0 then (.ok contents, k)
    else
      match os.read k fd limit.toNat with
      | (.error e, k) => (.error e, k)
      | (.ok got, k) =>
        if got = [] then (.ok contents, k)
        else readAll os fd rounds (limit - got.length) (contents ++ got) k

/-- `int64(policy.MaxSize)+1`. -/
def Policy.limit (policy : Policy) : Int := ((policy.maxSize.toNat : Int) + 1).bmod (2 ^ 64)

/-- What is returned of what has been read. -/
def checkContents (policy : Policy) (name : String) :
    Except Errno (List UInt8) → Except String (List UInt8)
  | .error e => .error s!"read secure file: read {name}: {e.text}"
  | .ok contents =>
    if contents.length > policy.maxSize.toNat then
      .error s!"secure file exceeds maximum size {policy.maxSize}"
    else .ok contents

/-- The part of `Read` with the file open, up to its deferred close. -/
def readOpened (os : Os) (policy : Policy) (name : String) (fd : Int) (k : Kernel) :
    Except String (List UInt8) × Kernel :=
  let r := readAll os fd (policy.limit.toNat + 1) policy.limit [] k
  (checkContents policy name r.1, (os.close r.2 fd).2)

/-- The part of `Read` from the last component on. -/
def readFile (os : Os) (policy : Policy) (component : String) (current : CheckedFile) (k : Kernel) :
    Except String (List UInt8) × Kernel :=
  match current.openAt os k component policy.fileOptions with
  | (.error e, k) => (.error s!"open secure file: {e}", k)
  | (.ok checked, k) =>
    match checked.toFile.1 with
    | none => (.error "secure file descriptor is unavailable", k)
    | some fd => readOpened os policy checked.name fd k

/-- The part of `Read` with a descriptor at hand: its result, and the descriptor held at the end. -/
def readBeneath (os : Os) (policy : Policy) (components : List String) (anchor : CheckedFile)
    (k : Kernel) : (Except String (List UInt8) × CheckedFile) × Kernel :=
  match openDirs os policy components.dropLast anchor k with
  | ((some e, current), k) => ((.error e, current), k)
  | ((none, current), k) =>
    let r := readFile os policy (components.getLastD "") current k
    ((r.1, current), r.2)

/-- `Read`. -/
def read (os : Os) (anchorPath relativePath : String) (policy : Policy) (k : Kernel) :
    Except String (List UInt8) × Kernel :=
  if anchorPath = "" then (.error "secure file anchor is required", k)
  else if relativePath = "" ∨ isAbs relativePath then
    (.error "secure file path must be relative to its anchor", k)
  else if policy.maxSize = 0 then (.error "secure file maximum size is required", k)
  else if cleanComponents relativePath = [] then (.error "secure file path is empty", k)
  else
    match openDirWithOptions os k anchorPath policy.anchorOptions with
    | (.error e, k) => (.error s!"open secure file anchor: {e}", k)
    | (.ok anchor, k) =>
      let r := readBeneath os policy (cleanComponents relativePath) anchor k
      -- the deferred close
      (r.1.1, (r.1.2.close os r.2).2)

/-! ## 3. The descriptor that is held -/

/-- `cf` is closed and nothing is open besides the descriptors of `k₀`, or it is open and the only one. -/
def Held (k₀ : Kernel) (cf : CheckedFile) (k : Kernel) : Prop :=
  (cf.isOpen = false ∧ k.fds = k₀.fds) ∨
  (cf.isOpen = true ∧ k₀.fds cf.fd = none ∧ ∃ file, k.fds = update k₀.fds cf.fd (some file))

/-- A trusted directory is open, as the only descriptor besides those of `k₀`. -/
structure HoldsDir (os : Os) (policy : Policy) (k₀ : Kernel) (cf : CheckedFile) (k : Kernel)
    (dir : Ino) : Prop where
  isOpen : cf.isOpen = true
  free : k₀.fds cf.fd = none
  fds : ∃ file, k.fds = update k₀.fds cf.fd (some file) ∧ file.ino = dir
  isDir : os.fs.isDir dir = true
  trusted : Trusted policy.ownerID (os.fs.inode dir)

section Descriptors

variable {os : Os} {policy : Policy} {k₀ k : Kernel} {cf : CheckedFile} {dir : Ino}

theorem Held.closed (h : Held k₀ cf k) : (cf.close os k).2.fds = k₀.fds := by
  rcases h with ⟨hclosed, hfds⟩ | ⟨hopen, hfree, file, hfds⟩
  · rw [close_of_closed hclosed, hfds]
  · rw [(close_of_open hopen).1, hfds]
    exact update_none hfree

theorem HoldsDir.held (h : HoldsDir os policy k₀ cf k dir) : Held k₀ cf k := by
  obtain ⟨file, hfds, -⟩ := h.fds
  exact .inr ⟨h.isOpen, h.free, file, hfds⟩

/-- What is opened beneath the directory is an entry of it. -/
theorem HoldsDir.opens (h : HoldsDir os policy k₀ cf k dir) (name : String) (opt : CheckOptions) :
    Opens CheckedFile.fd (fun next file => Checked os opt next file ∧
      Entry os dir name ⟨false, opt.wantDir, true⟩ file) k (cf.openAt os k name opt) := by
  obtain ⟨held, hfds, rfl⟩ := h.fds
  exact openAt_opens (by rw [hfds, update_self])

/-- The next directory is open and the one before it is closed. -/
theorem HoldsDir.next {k₁ k₂ : Kernel} {next : CheckedFile} {name : String} (hn : Proper name)
    (h : HoldsDir os policy k₀ cf k dir)
    (hopen : cf.openAt os k name policy.dirOptions = (.ok next, k₁))
    (hclose : k₂.fds = update k₁.fds cf.fd none) :
    ∃ ino, os.fs.lookup dir name = some ino ∧ HoldsDir os policy k₀ next k₂ ino := by
  have hopens := h.opens name policy.dirOptions
  rw [hopen] at hopens
  obtain ⟨file, hfree, -, hk₁, hchecked, hentry⟩ := hopens
  obtain ⟨held, hfds, -⟩ := h.fds
  obtain ⟨hfree, hswap⟩ := update_swap h.free hfds hfree file
  obtain ⟨hisDir, htrusted⟩ := hchecked.dir rfl
  refine ⟨file.ino, (hentry hn).1, hchecked.isOpen, hfree, ⟨file, ?_, rfl⟩, hisDir, htrusted⟩
  rw [hclose, hk₁, hswap]

/-- **The loop over the directories.** Whatever happens one descriptor is held or none, and at its end
    it is that of the last directory on the way. -/
theorem openDirs_spec {names : List String} (hn : ∀ name ∈ names, Proper name)
    (h : HoldsDir os policy k₀ cf k dir) :
    Held k₀ (openDirs os policy names cf k).1.2 (openDirs os policy names cf k).2 ∧
    ((openDirs os policy names cf k).1.1 = none → ∃ dirs last,
      os.fs.descend dir names = some (dirs ++ [last]) ∧
      (∀ d ∈ dirs, os.fs.isDir d = true ∧ Trusted policy.ownerID (os.fs.inode d)) ∧
      HoldsDir os policy k₀ (openDirs os policy names cf k).1.2
        (openDirs os policy names cf k).2 last) := by
  induction names generalizing cf k dir with
  | nil => exact ⟨h.held, fun _ => ⟨[], dir, rfl, (fun _ hd => nomatch hd), h⟩⟩
  | cons name rest ih =>
    obtain ⟨hname, hrest⟩ := List.forall_mem_cons.mp hn
    rw [openDirs]
    cases hr : cf.openAt os k name policy.dirOptions with
    | mk r k₁ =>
      cases r with
      | error e =>
        have hopens := h.opens name policy.dirOptions
        rw [hr] at hopens
        have hk₁ : k₁.fds = k.fds := hopens
        obtain ⟨held, hfds, -⟩ := h.fds
        exact ⟨.inr ⟨h.isOpen, h.free, held, hk₁.trans hfds⟩, fun he => nomatch he⟩
      | ok next =>
        dsimp only
        have hclosed : (cf.close os k₁).2.fds = update k₁.fds cf.fd none ∧
            (cf.close os k₁).1.2.isOpen = false := close_of_open h.isOpen
        cases hc : cf.close os k₁ with
        | mk c k₂ =>
          rw [hc] at hclosed
          obtain ⟨hk₂, hshut⟩ := hclosed
          obtain ⟨ino, hlookup, hnext⟩ := h.next hname hr hk₂
          obtain ⟨c, cf'⟩ := c
          cases c with
          | error e => exact ⟨.inl ⟨hshut, hnext.held.closed⟩, fun he => nomatch he⟩
          | ok u =>
            obtain ⟨hheld, hdone⟩ := ih hrest hnext
            refine ⟨hheld, fun he => ?_⟩
            obtain ⟨dirs, last, hdescend, hdirs, hlast⟩ := hdone he
            refine ⟨dir :: dirs, last, ?_, ?_, hlast⟩
            · rw [FileSystem.descend, hlookup]
              dsimp only
              rw [hdescend]
              rfl
            · exact List.forall_mem_cons.mpr ⟨⟨h.isDir, h.trusted⟩, hdirs⟩

end Descriptors

/-! ## 4. The file -/

section File

variable {os : Os} {policy : Policy} {k₀ k : Kernel} {cf : CheckedFile} {dir : Ino} {fd : Int}

/-- A round that returns nothing has found the end. -/
theorem nextBytes_nil {rest : List UInt8} {n m : Nat} (hn : 1 ≤ n) (hm : 1 ≤ m)
    (h : rest.take (min n m) = []) : rest = [] := by
  rcases List.take_eq_nil_iff.mp h with h | h
  · omega
  · exact h

/-- A round that returns something leaves the rest to the next ones. -/
theorem nextBytes_append {rest got : List UInt8} {n m : Nat} (h : got = rest.take (min n m)) :
    got.length ≤ n ∧ got ++ (rest.drop got.length).take (n - got.length) = rest.take n := by
  have hlen : got.length = min (min n m) rest.length := by rw [h, List.length_take]
  have hgot : got = rest.take got.length := by
    rw [hlen, h]
    simp
  have hle : got.length ≤ n := by omega
  refine ⟨hle, ?_⟩
  have hsplit := List.take_add (l := rest) (i := got.length) (j := n - got.length)
  rw [Nat.add_sub_cancel' hle, ← hgot] at hsplit
  exact hsplit.symm

/-- **Reading to the end or to the limit**, in whatever pieces the kernel returns. -/
theorem readAll_spec {rounds : Nat} {limit : Int} {file : OpenFile} {contents : List UInt8}
    (before : List UInt8) (hfile : k.fds fd = some file)
    (hbody : (os.fs.inode file.ino).body = .regular contents) (hrounds : limit.toNat < rounds) :
    (∃ file', (readAll os fd rounds limit before k).2.fds = update k.fds fd (some file')) ∧
    ∀ out, (readAll os fd rounds limit before k).1 = .ok out →
      out = before ++ (contents.drop file.offset).take limit.toNat := by
  induction rounds generalizing limit before k file with
  | zero => exact absurd hrounds (Nat.not_lt_zero _)
  | succ rounds ih =>
    have hsame : k.fds = update k.fds fd (some file) := by
      rw [← hfile, update_eq_self]
    rw [readAll]
    split_ifs with hlimit
    · refine ⟨⟨file, hsame⟩, fun out hout => ?_⟩
      obtain rfl := Except.ok.inj hout
      rw [Int.toNat_of_nonpos hlimit, List.take_zero, List.append_nil]
    · cases hr : os.read k fd limit.toNat with
      | mk r k₁ =>
        have hfds : ∃ file', (os.read k fd limit.toNat).2.fds =
            update k.fds fd (some file') := read_fds hfile
        rw [hr] at hfds
        cases r with
        | error e => exact ⟨hfds, fun out hout => nomatch hout⟩
        | ok got =>
          obtain ⟨⟨m, hm, hgot⟩, hk₁⟩ := read_ok hfile hbody (by rw [hr])
          rw [hr] at hk₁
          dsimp only
          split_ifs with hempty
          · refine ⟨hfds, fun out hout => ?_⟩
            obtain rfl := Except.ok.inj hout
            rw [nextBytes_nil (by omega) hm (hgot.symm.trans hempty), List.take_nil,
              List.append_nil]
          · have hlen : 0 < got.length := List.length_pos_iff.mpr hempty
            obtain ⟨hle, hjoin⟩ := nextBytes_append hgot
            have hk₁fd := congrFun hk₁ fd
            rw [update_self] at hk₁fd
            have hfewer : (limit - got.length).toNat < rounds := by omega
            obtain ⟨⟨file', hfile'⟩, hout⟩ := ih (before ++ got) hk₁fd hbody hfewer
            refine ⟨⟨file', ?_⟩, fun out ho => ?_⟩
            · rw [hfile', hk₁, update_idem]
            · have hrest : (limit - got.length).toNat = limit.toNat - got.length := by omega
              rw [hout out ho, hrest, List.append_assoc, ← List.drop_drop, hjoin]

theorem Policy.limit_eq (h : policy.maxSize.toNat < 2 ^ 63 - 1) :
    policy.limit = policy.maxSize.toNat + 1 := by
  unfold Policy.limit Int.bmod
  rw [Int.emod_eq_of_lt (by omega) (by omega)]
  exact if_pos (by omega)

/-- What `Read` has found when it returns contents. -/
structure Secure (os : Os) (policy : Policy) (file : Ino) (contents : List UInt8) : Prop where
  trusted : Trusted policy.ownerID (os.fs.inode file)
  regular : (os.fs.inode file).body = .regular contents
  noRead : policy.allowGlobalRead = false → (os.fs.inode file).mode &&& (sIRGRP ||| sIROTH) = 0
  size : contents.length ≤ policy.maxSize.toNat

theorem checkContents_eq_ok {name : String} {r : Except Errno (List UInt8)} {contents : List UInt8}
    (h : checkContents policy name r = .ok contents) :
    r = .ok contents ∧ contents.length ≤ policy.maxSize.toNat := by
  cases r with
  | error e => cases h
  | ok out =>
    rw [checkContents] at h
    split_ifs at h with hsize
    obtain rfl := Except.ok.inj h
    exact ⟨rfl, not_lt.mp hsize⟩

/-- The file is closed, and with fewer bytes than the limit its end has been found. -/
theorem readOpened_spec {name : String} {file : OpenFile} {all : List UInt8}
    (hfree : k₀.fds fd = none) (hfds : k.fds = update k₀.fds fd (some file))
    (hbody : (os.fs.inode file.ino).body = .regular all) (hoffset : file.offset = 0) :
    (readOpened os policy name fd k).2.fds = k₀.fds ∧
    ∀ contents, policy.limit = policy.maxSize.toNat + 1 →
      (readOpened os policy name fd k).1 = .ok contents →
      contents = all ∧ contents.length ≤ policy.maxSize.toNat := by
  have hfile : k.fds fd = some file := by rw [hfds, update_self]
  obtain ⟨⟨file', hread⟩, hout⟩ := readAll_spec [] hfile hbody (Nat.lt_succ_self policy.limit.toNat)
  unfold readOpened
  generalize readAll os fd (policy.limit.toNat + 1) policy.limit [] k = r at hread hout ⊢
  refine ⟨?_, fun contents hlimit ho => ?_⟩
  · rw [close_fds, hread, hfds, update_idem, update_none hfree]
  · obtain ⟨hok, hsize⟩ := checkContents_eq_ok ho
    have hcontents := hout contents hok
    rw [hoffset, List.nil_append, List.drop_zero, hlimit] at hcontents
    have hlen := congrArg List.length hcontents
    rw [List.length_take] at hlen
    refine ⟨?_, hsize⟩
    rw [hcontents, List.take_of_length_le (by omega)]

/-- **The last component**: the file is closed on every path, and what is returned of it is all of it. -/
theorem readFile_spec {name : String} (hn : Proper name) (h : HoldsDir os policy k₀ cf k dir) :
    (readFile os policy name cf k).2.fds = k.fds ∧
    ∀ contents, policy.limit = policy.maxSize.toNat + 1 →
      (readFile os policy name cf k).1 = .ok contents →
      ∃ file, os.fs.lookup dir name = some file ∧ Secure os policy file contents := by
  have hopens := h.opens name policy.fileOptions
  cases hr : cf.openAt os k name policy.fileOptions with
  | mk r k₁ =>
    rw [hr] at hopens
    cases r with
    | error e =>
      unfold readFile
      rw [hr]
      exact ⟨hopens, fun _ _ ho => nomatch ho⟩
    | ok checked =>
      obtain ⟨file, hfree, hpos, hk₁, hchecked, hentry⟩ := hopens
      obtain ⟨⟨all, hbody⟩, htrusted, hread⟩ := hchecked.regular rfl
      obtain ⟨hlookup, -, hoffset⟩ := hentry hn
      have htoFile : checked.toFile.1 = some checked.fd := by
        simp [CheckedFile.toFile, hchecked.isOpen, not_lt.mpr hpos]
      have hopened : readFile os policy name cf k =
          readOpened os policy checked.name checked.fd k₁ := by
        unfold readFile
        rw [hr]
        dsimp only
        rw [htoFile]
      rw [hopened]
      obtain ⟨hfds, hout⟩ := readOpened_spec hfree hk₁ hbody hoffset
      refine ⟨hfds, fun contents hlimit ho => ?_⟩
      obtain ⟨rfl, hsize⟩ := hout contents hlimit ho
      exact ⟨file.ino, hlookup, htrusted, hbody, hread, hsize⟩

end File

/-! ## 5. The path -/

theorem descend_ne_nil {fs : FileSystem} {dir : Ino} (names : List String) :
    fs.descend dir names ≠ some [] := by
  cases names with
  | nil => simp [FileSystem.descend]
  | cons name rest =>
    rw [FileSystem.descend]
    split <;> simp

/-- A path with a name in it starts with its directory. -/
theorem descend_cons {fs : FileSystem} {dir last : Ino} {name : String} {names : List String}
    {dirs : List Ino} (h : fs.descend dir (name :: names) = some (dirs ++ [last])) :
    ∃ next rest, fs.lookup dir name = some next ∧ dirs = dir :: rest ∧
      fs.descend next names = some (rest ++ [last]) := by
  rw [FileSystem.descend] at h
  cases hnext : fs.lookup dir name with
  | none =>
    rw [hnext] at h
    cases h
  | some next =>
    rw [hnext] at h
    obtain ⟨path, hpath, heq⟩ := Option.map_eq_some_iff.mp h
    cases dirs with
    | nil =>
      obtain ⟨-, rfl⟩ := List.cons.inj heq
      exact absurd hpath (descend_ne_nil names)
    | cons d rest =>
      obtain ⟨rfl, rfl⟩ := List.cons.inj heq
      exact ⟨next, rest, rfl, rfl, hpath⟩

theorem descend_head {fs : FileSystem} {dir last : Ino} {names : List String} {dirs : List Ino}
    (hne : names ≠ []) (h : fs.descend dir names = some (dirs ++ [last])) :
    ∃ rest, dirs = dir :: rest := by
  obtain ⟨name, names, rfl⟩ := List.exists_cons_of_ne_nil hne
  obtain ⟨-, rest, -, hrest, -⟩ := descend_cons h
  exact ⟨rest, hrest⟩

/-- One more name at the end of a path. -/
theorem descend_concat {fs : FileSystem} {dir last file : Ino} {names : List String} {dirs : List Ino}
    {name : String} (h : fs.descend dir names = some (dirs ++ [last]))
    (hfile : fs.lookup last name = some file) :
    fs.descend dir (names ++ [name]) = some (dirs ++ [last] ++ [file]) := by
  induction names generalizing dir dirs with
  | nil =>
    obtain ⟨rfl, rfl⟩ : dirs = [] ∧ last = dir := by
      have heq := Option.some.inj h
      cases dirs with
      | nil => exact ⟨rfl, (List.cons.inj heq).1.symm⟩
      | cons d dirs => simp at heq
    rw [List.nil_append, FileSystem.descend, hfile]
    rfl
  | cons first rest ih =>
    obtain ⟨next, dirs, hnext, rfl, hrest⟩ := descend_cons h
    rw [List.cons_append, FileSystem.descend, hnext]
    dsimp only
    rw [ih hrest]
    rfl

section Path

variable {os : Os} {policy : Policy} {k₀ k : Kernel} {anchor : CheckedFile} {dir : Ino}

theorem readBeneath_spec {names : List String} {name : String} (hn : ∀ n ∈ names ++ [name], Proper n)
    (h : HoldsDir os policy k₀ anchor k dir) :
    Held k₀ (readBeneath os policy (names ++ [name]) anchor k).1.2
      (readBeneath os policy (names ++ [name]) anchor k).2 ∧
    ∀ contents, policy.limit = policy.maxSize.toNat + 1 →
      (readBeneath os policy (names ++ [name]) anchor k).1.1 = .ok contents →
      ∃ dirs file, os.fs.descend dir (names ++ [name]) = some (dirs ++ [file]) ∧
        (∀ d ∈ dirs, os.fs.isDir d = true ∧ Trusted policy.ownerID (os.fs.inode d)) ∧
        Secure os policy file contents := by
  obtain ⟨hnames, hname⟩ : (∀ n ∈ names, Proper n) ∧ Proper name := by
    rw [List.forall_mem_append, List.forall_mem_singleton] at hn
    exact hn
  obtain ⟨hheld, hdone⟩ := openDirs_spec hnames h
  unfold readBeneath
  rw [List.dropLast_concat, List.getLastD_concat]
  cases hr : openDirs os policy names anchor k with
  | mk r k₁ =>
    rw [hr] at hheld hdone
    obtain ⟨e, current⟩ := r
    cases e with
    | some e => exact ⟨hheld, fun _ _ ho => nomatch ho⟩
    | none =>
      obtain ⟨dirs, last, hdescend, hdirs, hlast⟩ := hdone rfl
      obtain ⟨hfds, hfile⟩ := readFile_spec hname hlast
      refine ⟨?_, fun contents hlimit ho => ?_⟩
      · unfold Held
        rw [hfds]
        exact hheld
      · obtain ⟨file, hlookup, hsecure⟩ := hfile contents hlimit ho
        refine ⟨dirs ++ [last], file, descend_concat hdescend hlookup, ?_, hsecure⟩
        rw [List.forall_mem_append, List.forall_mem_singleton]
        exact ⟨hdirs, hlast.isDir, hlast.trusted⟩

end Path

/-- **Secure reads stay beneath checked directories.** `Read` leaves the descriptor table as it was,
    whatever it returns. If it returns contents, the cleaned path has no `..`, the entries of its names
    lead from the directory that the anchor resolves to down to the file, each directory on the way is
    owned by root or the owner and nobody else may write it, and so is the file, which is regular, not
    readable by others unless that is allowed, and has just these contents, no more than allowed. -/
theorem read_secure (os : Os) (anchorPath relativePath : String) (policy : Policy) (k : Kernel) :
    (read os anchorPath relativePath policy k).2.fds = k.fds ∧
    ∀ contents, policy.maxSize.toNat < 2 ^ 63 - 1 →
      (read os anchorPath relativePath policy k).1 = .ok contents →
      ".." ∉ splitPath (filepathClean relativePath) ∧
      ∃ anchor dirs file,
        os.fs.resolve ⟨true, false, false, false⟩ (.ok os.cwd) anchorPath = .ok anchor ∧
        os.fs.descend anchor (named (splitPath (filepathClean relativePath))) =
          some (anchor :: dirs ++ [file]) ∧
        (∀ d ∈ anchor :: dirs, os.fs.isDir d = true ∧
          ((os.fs.inode d).uid = 0 ∨ (os.fs.inode d).uid = policy.ownerID) ∧
          (os.fs.inode d).mode &&& (sIWGRP ||| sIWOTH) = 0) ∧
        ((os.fs.inode file).uid = 0 ∨ (os.fs.inode file).uid = policy.ownerID) ∧
        (os.fs.inode file).mode &&& (sIWGRP ||| sIWOTH) = 0 ∧
        (policy.allowGlobalRead = false → (os.fs.inode file).mode &&& (sIRGRP ||| sIROTH) = 0) ∧
        (os.fs.inode file).body = .regular contents ∧
        contents.length ≤ policy.maxSize.toNat := by
  unfold read
  split_ifs with hanchor hrel hmax hempty
  · exact ⟨rfl, fun _ _ ho => nomatch ho⟩
  · exact ⟨rfl, fun _ _ ho => nomatch ho⟩
  · exact ⟨rfl, fun _ _ ho => nomatch ho⟩
  · exact ⟨rfl, fun _ _ ho => nomatch ho⟩
  obtain ⟨hup, hclean⟩ := cleanComponents_ne_nil hempty
  have hopens : Opens CheckedFile.fd _ k (openDirWithOptions os k anchorPath policy.anchorOptions) :=
    openDirWithOptions_opens
  cases hr : openDirWithOptions os k anchorPath policy.anchorOptions with
  | mk r k₁ =>
    rw [hr] at hopens
    cases r with
    | error e => exact ⟨hopens, fun _ _ ho => nomatch ho⟩
    | ok cf =>
      obtain ⟨file, hfree, -, hk₁, hchecked, hresolve, -⟩ := hopens
      obtain ⟨hisDir, htrusted⟩ := hchecked.dir rfl
      have hholds : HoldsDir os policy k cf k₁ file.ino :=
        ⟨hchecked.isOpen, hfree, ⟨file, hk₁, rfl⟩, hisDir, htrusted⟩
      obtain ⟨names, name, hnames⟩ := (List.eq_nil_or_concat _).resolve_left hempty
      rw [List.concat_eq_append] at hnames
      have hproper : ∀ n ∈ names ++ [name], Proper n := by
        rw [← hnames, hclean]
        exact fun n hn => proper_of_mem hup hn
      obtain ⟨hheld, hdone⟩ := readBeneath_spec hproper hholds
      dsimp only
      rw [hnames]
      refine ⟨hheld.closed, fun contents hsize ho => ⟨hup, ?_⟩⟩
      obtain ⟨dirs, target, hdescend, hdirs, hsecure⟩ := hdone contents (Policy.limit_eq hsize) ho
      rw [← hnames, hclean] at hdescend
      obtain ⟨rest, rfl⟩ := descend_head (hclean ▸ hempty) hdescend
      exact ⟨file.ino, rest, target, hresolve, hdescend,
        fun d hd => ⟨(hdirs d hd).1, (hdirs d hd).2.owner, (hdirs d hd).2.noWrite⟩,
        hsecure.trusted.owner, hsecure.trusted.noWrite, hsecure.noRead, hsecure.regular,
        hsecure.size⟩

/-- A home directory with a file of three bytes, on a kernel without `openat2` that returns two bytes
    at a time. -/
def homeOs : Os where
  fs :=
    { inode := fun
        | 0 => ⟨0, 0o040755, .directory ((∅ : AList fun _ : String => Ino).insert "home" 1) 0, by decide⟩
        | 1 => ⟨1000, 0o040700, .directory ((∅ : AList fun _ : String => Ino).insert ".mygosh" 2) 0,
            by decide⟩
        | 2 => ⟨1000, 0o040700, .directory ((∅ : AList fun _ : String => Ino).insert "keys" 3) 1,
            by decide⟩
        | _ => ⟨1000, 0o100600, .regular [1, 2, 3], by decide⟩
      root := 0 }
  cwd := 0
  alloc fds := ((List.range 8).map Int.ofNat).find? fun fd => (fds fd).isNone
  unused fds fd h := by
    obtain ⟨n, -, rfl⟩ := List.mem_map.mp (List.mem_of_find?_eq_some h)
    have hnone := List.find?_some h
    exact ⟨Option.isNone_iff_eq_none.mp hnone, Int.natCast_nonneg n⟩
  fault n := if n = 2 ∨ n = 6 then some .enosys else none
  chunk _ := 2

/-- The file is read through its cleaned path, and all of it. -/
theorem read_secure_keys : ∃ anchor dirs file,
    (read homeOs "/home" "old/../.mygosh//keys" ⟨1000, 16, false⟩ ⟨fun _ => none, 0⟩).2.fds =
      (fun _ => none) ∧
    homeOs.fs.descend anchor [".mygosh", "keys"] = some (anchor :: dirs ++ [file]) ∧
    (homeOs.fs.inode file).body = .regular [1, 2, 3] := by
  obtain ⟨hfds, hread⟩ := read_secure homeOs "/home" "old/../.mygosh//keys" ⟨1000, 16, false⟩
    ⟨fun _ => none, 0⟩
  obtain ⟨-, anchor, dirs, file, -, hdescend, -, -, -, -, hbody, -⟩ :=
    hread [1, 2, 3] (by decide) (by decide +kernel)
  have hnames : named (splitPath (filepathClean "old/../.mygosh//keys")) = [".mygosh", "keys"] := by
    decide +kernel
  rw [hnames] at hdescend
  exact ⟨anchor, dirs, file, hfds, hdescend, hbody⟩

end Mygosh.Securefiles

/-
  File:      Mygosh/Keys/OpensshRaw.lean
  Subject:   `ParseOpensshPrivateKeyRaw` (`lib/keys/openssh_key.go`): a key as text or as bytes.

  White space around the input is removed before it is known to be text. The last bytes of a binary
  key are its padding or its comment, and they can be white space.
-/
import Mygosh.Keys.Openssh

namespace Mygosh.Keys

open Proto (Bytes textBytes)
open Bincoder

/-! ## 1. White space -/

/-- The characters with `unicode.IsSpace`, in UTF-8. -/
def spaces : List Bytes :=
  [[9], [10], [11], [12], [13], [32], [194, 133], [194, 160], [225, 154, 128],
    [226, 128, 128], [226, 128, 129], [226, 128, 130], [226, 128, 131], [226, 128, 132],
    [226, 128, 133], [226, 128, 134], [226, 128, 135], [226, 128, 136], [226, 128, 137],
    [226, 128, 138], [226, 128, 168], [226, 128, 169], [226, 128, 175], [226, 129, 159],
    [227, 128, 128]]

/-- White space in front is removed, at most so many characters. -/
def trimLeft : Nat → Bytes → Bytes
  | 0, b => b
  | fuel + 1, b =>
    match spaces.find? fun w => w.isPrefixOf b with
    | none => b
    | some w => trimLeft fuel (b.drop w.length)

/-- White space at the end is removed, at most so many characters. -/
def trimRight : Nat → Bytes → Bytes
  | 0, b => b
  | fuel + 1, b =>
    match spaces.find? fun w => w.isSuffixOf b with
    | none => b
    | some w => trimRight fuel (b.take (b.length - w.length))

/-- `bytes.TrimSpace`. -/
def bytesTrimSpace (b : Bytes) : Bytes :=
  let front := trimLeft b.length b
  trimRight front.length front

/-- A byte string that ends in white space. -/
def EndsInSpace (b : Bytes) : Prop := ∃ w ∈ spaces, w <:+ b

/-- What stands before the white space at the end: something was removed exactly if there was any, and
    no byte that was removed is zero. -/
theorem trimRight_spec (fuel : Nat) (b : Bytes) :
    ∃ t, b = trimRight fuel b ++ t ∧ ∀ y ∈ t, y ≠ 0 := by
  induction fuel generalizing b with
  | zero => exact ⟨[], (List.append_nil b).symm, fun _ h => nomatch h⟩
  | succ fuel ih =>
    unfold trimRight
    cases hfind : spaces.find? fun w => w.isSuffixOf b with
    | none => exact ⟨[], (List.append_nil b).symm, fun _ h => nomatch h⟩
    | some w =>
      have hsuffix : w.isSuffixOf b = true := List.find?_some (p := fun w : Bytes => w.isSuffixOf b)
        hfind
      obtain ⟨u, rfl⟩ : w <:+ b := List.isSuffixOf_iff_suffix.mp hsuffix
      have hmem := List.mem_of_find?_eq_some hfind
      have hfront : (u ++ w).take ((u ++ w).length - w.length) = u := by
        rw [List.length_append, Nat.add_sub_cancel, List.take_left]
      obtain ⟨t, hu, ht⟩ := ih u
      refine ⟨t ++ w, ?_, ?_⟩
      · simp only [hfront]
        rw [← List.append_assoc, ← hu]
      · have hzero : ∀ w ∈ spaces, ∀ y ∈ w, y ≠ 0 := by decide +kernel
        intro y hy
        rcases List.mem_append.mp hy with hy | hy
        · exact ht y hy
        · exact hzero w hmem y hy

theorem trimRight_of_not {b : Bytes} (h : ¬EndsInSpace b) (fuel : Nat) : trimRight fuel b = b := by
  cases fuel with
  | zero => rfl
  | succ fuel =>
    have hnone : spaces.find? (fun w => w.isSuffixOf b) = none := by
      refine List.find?_eq_none.mpr fun w hw hsuffix => h ⟨w, hw, ?_⟩
      exact List.isSuffixOf_iff_suffix.mp hsuffix
    rw [trimRight, hnone]

theorem trimRight_ne {b : Bytes} (h : EndsInSpace b) : trimRight b.length b ≠ b := by
  obtain ⟨w, hw, hsuffix⟩ := h
  have hwpos : ∀ w ∈ spaces, 0 < w.length := by decide
  have hlen := hsuffix.length_le
  have hpos := hwpos w hw
  obtain ⟨fuel, hfuel⟩ : ∃ fuel, b.length = fuel + 1 := ⟨b.length - 1, by omega⟩
  rw [hfuel, trimRight]
  cases hfind : spaces.find? fun w => w.isSuffixOf b with
  | none =>
    have hno := List.find?_eq_none.mp hfind w hw
    exact absurd (List.isSuffixOf_iff_suffix.mpr hsuffix) hno
  | some v =>
    have hvpos := hwpos v (List.mem_of_find?_eq_some hfind)
    obtain ⟨t, ht, -⟩ := trimRight_spec fuel (b.take (b.length - v.length))
    show trimRight fuel (b.take (b.length - v.length)) ≠ b
    intro heq
    have hle : (trimRight fuel (b.take (b.length - v.length))).length ≤ b.length - v.length := by
      have := congrArg List.length ht
      rw [List.length_append, List.length_take] at this
      omega
    rw [heq] at hle
    omega

/-! ## 2. The entry point -/

/-- `pem.Block`, as far as it is used. -/
structure PemBlock where
  type : String
  bytes : Bytes
  deriving DecidableEq, Repr

/-- `ParseOpensshPrivateKeyRaw`; `pemDecode` is `pem.Decode`. -/
def parseOpensshPrivateKeyRaw (E : Ed25519) (pemDecode : Bytes → Option PemBlock) (input : Bytes) :
    Attempt String Keypair :=
  let raw := bytesTrimSpace input
  if raw.length = 0 then Attempt.refuse "decode OpenSSH private key: empty input"
  else if opensshKeyV1Magic.isPrefixOf raw then parseOpensshPrivateKeyV1 E raw
  else
    match pemDecode raw with
    | none =>
      Attempt.refuse "decode OpenSSH private key: expected PEM block or openssh-key-v1 payload"
    | some block =>
      if block.type ≠ "OPENSSH PRIVATE KEY" then
        Attempt.refuse s!"decode OpenSSH private key: unexpected PEM type {block.type.quote}"
      else parseOpensshPrivateKeyV1 E block.bytes

/-! ## 3. Binary keys -/

section Binary

variable {E : Ed25519} {pemDecode : Bytes → Option PemBlock} {b : Bytes} {k : Keypair}

theorem OpensshV1.magic (h : OpensshV1 E b k) : ∃ rest, b = opensshKeyV1Magic ++ rest := by
  obtain ⟨-, check, padding, rfl, -⟩ := h
  exact ⟨_, rfl⟩

/-- The header and the two sections are found in front of anything. -/
theorem OpensshV1.found (h : OpensshV1 E b k) (t : Bytes) :
    ∃ a, (headerFormat 16384).pair (blobFormat 16384) (b ++ t) = some (a, t) := by
  obtain ⟨hsound, check, padding, rfl, hshort⟩ := h
  have hnone : (textBytes "none").length ≤ 16384 := length_none.trans_le (by decide)
  have hpub := (length_publicBlob hsound.publicLength).trans_le (show 51 ≤ 16384 by decide)
  refine ⟨(("none", "none", [], 1), (publicBlob k.publicBytes, privateBlob check k padding)),
    (reads_headerFormat.pair reads_blobFormat).of_word
      ⟨?_, ⟨hnone, hnone, Nat.zero_le _⟩, hpub, hshort⟩ _⟩
  simp only [envelope, List.append_assoc]

/-- **No key begins another one**: the lengths in it say where it ends. -/
theorem OpensshV1.eq_nil_of_append {t : Bytes} {k' : Keypair} (h : OpensshV1 E (b ++ t) k)
    (h' : OpensshV1 E b k') : t = [] := by
  obtain ⟨a, ha⟩ := h.found []
  obtain ⟨a', ha'⟩ := h'.found t
  rw [List.append_nil, ha'] at ha
  exact (Prod.mk.inj (Option.some.inj ha)).2

/-- A key does not begin with white space. -/
theorem OpensshV1.bytesTrimSpace (h : OpensshV1 E b k) :
    bytesTrimSpace b = trimRight b.length b := by
  obtain ⟨rest, rfl⟩ := h.magic
  have hleft : trimLeft (opensshKeyV1Magic ++ rest).length (opensshKeyV1Magic ++ rest) =
      opensshKeyV1Magic ++ rest := rfl
  unfold Keys.bytesTrimSpace
  rw [hleft]

/-- The magic ends in a zero, so it survives. -/
theorem magic_isPrefixOf_trimRight (fuel : Nat) (rest : Bytes) :
    opensshKeyV1Magic.isPrefixOf (trimRight fuel (opensshKeyV1Magic ++ rest)) = true := by
  obtain ⟨t, ht, hzero⟩ := trimRight_spec fuel (opensshKeyV1Magic ++ rest)
  rw [List.isPrefixOf_iff_prefix]
  rcases List.append_eq_append_iff.mp ht with ⟨u, hu, -⟩ | ⟨u, hu, rfl⟩
  · exact ⟨u, hu.symm⟩
  · cases hu' : u using List.reverseRecOn with
    | nil =>
      rw [hu', List.append_nil] at hu
      exact ⟨[], (List.append_nil _).trans hu⟩
    | append_singleton v y =>
      have hlast := congrArg List.getLast? hu
      rw [hu', ← List.append_assoc, List.getLast?_concat] at hlast
      have hy : y = 0 := (Option.some.inj hlast).symm
      exact absurd hy (hzero y (by simp [hu']))

/-- A binary key goes to the parser of binary keys, less the white space at its end. -/
theorem OpensshV1.raw_eq (h : OpensshV1 E b k) :
    parseOpensshPrivateKeyRaw E pemDecode b =
      parseOpensshPrivateKeyV1 E (trimRight b.length b) := by
  have htrim := h.bytesTrimSpace
  obtain ⟨rest, rfl⟩ := h.magic
  have hmagic := magic_isPrefixOf_trimRight (opensshKeyV1Magic ++ rest).length rest
  have hlen := ( List.isPrefixOf_iff_prefix.mp hmagic).length_le
  unfold parseOpensshPrivateKeyRaw
  rw [htrim, if_neg (by have : opensshKeyV1Magic.length = 15 := rfl; omega), if_pos hmagic]

theorem raw_of_endsInSpace (h : OpensshV1 E b k) (hspace : EndsInSpace b) {k' : Keypair} :
    parseOpensshPrivateKeyRaw E pemDecode b ≠ some (.ok k') := by
  intro hok
  rw [h.raw_eq] at hok
  have hcut := ((meets_opensshPrivateKeyV1 E _).returns k').mp hok
  obtain ⟨t, ht, -⟩ := trimRight_spec b.length b
  have hnil : t = [] := by
    refine OpensshV1.eq_nil_of_append (E := E) (k := k) ?_ hcut
    rw [← ht]
    exact h
  rw [hnil, List.append_nil] at ht
  exact trimRight_ne hspace ht.symm

end Binary

/-- **When the entry point agrees with the parser.** A binary key is accepted as itself exactly if it
    does not end in white space. -/
theorem parseOpensshPrivateKeyRaw_iff {E : Ed25519} {pemDecode : Bytes → Option PemBlock} {b : Bytes}
    {k : Keypair} (h : parseOpensshPrivateKeyV1 E b = some (.ok k)) :
    parseOpensshPrivateKeyRaw E pemDecode b = some (.ok k) ↔ ¬EndsInSpace b := by
  have hkey := ((meets_opensshPrivateKeyV1 E b).returns k).mp h
  constructor
  · intro hok hspace
    exact raw_of_endsInSpace hkey hspace hok
  · intro hspace
    rw [hkey.raw_eq, trimRight_of_not hspace]
    exact h

/-- A scheme in which every seed is its own public key. -/
def trivialScheme : Ed25519 := ⟨id, fun _ _ => [], fun _ _ _ => true⟩

/-- A key pair of that scheme, with the given comment. -/
def sampleKey (comment : String) : Keypair :=
  ⟨List.replicate 32 1, List.replicate 32 1, comment⟩

/-- Its binary form without padding. -/
def sampleFile (comment : String) : Bytes :=
  envelope (publicBlob (List.replicate 32 1)) (privateBlob 0 (sampleKey comment) 0)

theorem sampleFile_parses {comment : String} (h : (textBytes comment).length ≤ 1024) :
    parseOpensshPrivateKeyV1 trivialScheme (sampleFile comment) = some (.ok (sampleKey comment)) := by
  refine ((meets_opensshPrivateKeyV1 _ _).returns _).mpr ⟨⟨rfl, rfl, rfl⟩, 0, 0, rfl, ?_⟩
  have hrest : (privateBlob 0 (sampleKey comment) 0).length = 131 + (textBytes comment).length := by
    simp only [privateBlob, List.length_append, length_prefixed, length_putUint32, length_keyType]
    simp only [sampleKey, paddingOf, List.length_replicate, List.range_zero, List.map_nil,
      List.length_nil]
    omega
  omega

/-- A comment that ends in a letter: the file is accepted. -/
theorem parseOpensshPrivateKeyRaw_works :
    parseOpensshPrivateKeyRaw trivialScheme (fun _ => none) (sampleFile "works") =
      some (.ok (sampleKey "works")) := by
  have hspace : ∀ w ∈ spaces, ¬w <:+ sampleFile "works" := by decide +kernel
  refine (parseOpensshPrivateKeyRaw_iff (sampleFile_parses (by decide))).mpr ?_
  rintro ⟨w, hw, hsuffix⟩
  exact hspace w hw hsuffix

/-- A comment that ends in a blank, of a length for which OpenSSH writes no padding: the parser of
    binary keys accepts the file, the entry point cuts off the blank and refuses the rest. -/
theorem parseOpensshPrivateKeyRaw_refuses_blank :
    parseOpensshPrivateKeyV1 trivialScheme (sampleFile "work ") = some (.ok (sampleKey "work ")) ∧
      parseOpensshPrivateKeyRaw trivialScheme (fun _ => none) (sampleFile "work ") ≠
        some (.ok (sampleKey "work ")) := by
  have hparses : parseOpensshPrivateKeyV1 trivialScheme (sampleFile "work ") =
      some (.ok (sampleKey "work ")) := sampleFile_parses (by decide)
  refine ⟨hparses, raw_of_endsInSpace (((meets_opensshPrivateKeyV1 _ _).returns _).mp hparses) ?_⟩
  exact ⟨[32], by decide, by decide +kernel⟩

end Mygosh.Keys

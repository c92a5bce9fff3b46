/-
  File:      Mygosh/Keys/Openssh.lean
  Subject:   Private keys in the format of OpenSSH (`lib/keys/openssh_key.go`).

  * `parseOpensshPrivateKeyV1` -- the binary format, read with three cursors;
  * `OpensshV1` -- its grammar: which byte strings stand for a key pair.
-/
import Mygosh.Attempt
import Mygosh.Bincoder.Coder
import Mygosh.Keys

namespace Mygosh.Keys

open Proto (Bytes textBytes)
open Bincoder

/-! ## 1. Fields behind a cursor -/

/-- Fields are read, then `Err` is checked. -/
def readFields {α : Type} (x : Dec α) (message : String) (cursor : Decoder) :
    Attempt String (α × Decoder) := do
  let r ← Attempt.ofOption (x cursor)
  match r.2.err with
  | some e => Attempt.refuse s!"{message}: {e}"
  | none => pure r

/-- The last fields are read, then `Done` is checked. -/
def readLast {α : Type} (x : Dec α) (message : String) (cursor : Decoder) : Attempt String α := do
  let r ← Attempt.ofOption (x cursor)
  match r.2.done with
  | some e => Attempt.refuse s!"{message}: {e}"
  | none => pure r.1

section Cursors

variable {α β : Type} {x : Dec α} {max : UInt32} {p : Parser UInt8 α} {c : Decoder} {b : Bytes}
  {message : String}

/-- What follows works on the rest of the buffer. -/
theorem meets_readFields {f : α × Decoder → Attempt String β} {Q : α → Bytes → β → Prop}
    (hx : Decodes x max p) (hc : c.Sees max b)
    (hf : ∀ a c' rest, p b = some (a, rest) → c'.Sees max rest → (f (a, c')).Meets (Q a rest)) :
    (readFields x message c >>= f).Meets fun y => ∃ a rest, p b = some (a, rest) ∧ Q a rest y := by
  cases hp : p b with
  | none =>
    obtain ⟨a, c', hrun, herr⟩ := hx.fails hc hp
    obtain ⟨e, he⟩ := Option.ne_none_iff_exists'.mp herr
    have hrefuse : (readFields x message c >>= f) = Attempt.refuse s!"{message}: {e}" := by
      unfold readFields
      rw [hrun]
      show (match c'.err with
        | some e => Attempt.refuse s!"{message}: {e}"
        | none => pure (a, c')) >>= f = _
      rw [he]
      rfl
    rw [hrefuse]
    exact (Attempt.meets_refuse _).congr fun y => by simp
  | some found =>
    obtain ⟨a, rest⟩ := found
    obtain ⟨c', hrun, hrest⟩ := hx.ok hc hp
    have hgo : (readFields x message c >>= f) = f (a, c') := by
      unfold readFields
      rw [hrun]
      show (match c'.err with
        | some e => Attempt.refuse s!"{message}: {e}"
        | none => pure (a, c')) >>= f = _
      rw [hrest.err]
      rfl
    rw [hgo]
    refine (hf a c' rest hp hrest).congr fun y => ?_
    simp

theorem meets_readLast (hx : Decodes x max p) (hc : c.Sees max b) :
    (readLast x message c).Meets fun a => p b = some (a, []) := by
  have hrefuse : ∀ {a c'}, x c = some (a, c') → c'.done ≠ none →
      (readLast x message c).Meets fun _ => False := by
    intro a c' hrun hdone
    obtain ⟨e, he⟩ := Option.ne_none_iff_exists'.mp hdone
    unfold readLast
    rw [hrun]
    show (match c'.done with
      | some e => Attempt.refuse s!"{message}: {e}"
      | none => pure a : Attempt String α).Meets _
    rw [he]
    exact Attempt.meets_refuse _
  cases hp : p b with
  | none =>
    obtain ⟨a, c', hrun, herr⟩ := hx.fails hc hp
    exact (hrefuse hrun (Decoder.done_of_err herr)).congr fun y => by simp
  | some found =>
    obtain ⟨a, rest⟩ := found
    obtain ⟨c', hrun, hrest⟩ := hx.ok hc hp
    by_cases hnil : rest = []
    · unfold readLast
      rw [hrun]
      show (match c'.done with
        | some e => Attempt.refuse s!"{message}: {e}"
        | none => pure a : Attempt String α).Meets _
      rw [hrest.done.mpr hnil]
      exact (Attempt.meets_pure a).congr fun y => by simp [hnil, eq_comm]
    · exact (hrefuse hrun (mt hrest.done.mp hnil)).congr fun y => by simp [hnil]

end Cursors

/-! ## 2. The parsers -/

/-- `opensshKeyV1Magic`. -/
def opensshKeyV1Magic : Bytes := [111, 112, 101, 110, 115, 115, 104, 45, 107, 101, 121, 45, 118, 49, 0]

/-- `opensshEd25519KeyType`. -/
def opensshEd25519KeyType : String := "ssh-ed25519"

/-- `opensshEd25519PrivateKeySize`. -/
def opensshEd25519PrivateKeySize : Nat := 64

/-- The loop of `validOpensshPadding`, from the position `i` on. -/
def validPaddingFrom : Nat → Bytes → Bool
  | _, [] => true
  | i, b :: padding => if b ≠ UInt8.ofNat (i + 1) then false else validPaddingFrom (i + 1) padding

/-- `validOpensshPadding`. -/
def validOpensshPadding (padding : Bytes) : Bool := validPaddingFrom 0 padding

def publicFields : Dec (String × Bytes) := do
  let keyType ← Decoder.utf8String
  let pub ← Decoder.bytes
  pure (keyType, pub)

/-- `parseOpensshEd25519PublicBlob`. -/
def parseOpensshEd25519PublicBlob (blob : Bytes) : Attempt String Bytes := do
  let cursor := (Decoder.newCursor blob).withMaxBytes 1024
  let (keyType, pub) ← readLast publicFields "decode public key blob" cursor
  Attempt.ensure (keyType = opensshEd25519KeyType) s!"unsupported public key type {keyType.quote}"
  Attempt.ensure (pub.length = ed25519PublicKeySize)
    s!"public key length {pub.length} does not match expected length {ed25519PublicKeySize}"
  pure pub

def checkFields : Dec (UInt32 × UInt32) := do
  let check1 ← Decoder.u32
  let check2 ← Decoder.u32
  pure (check1, check2)

def privateFields : Dec (String × Bytes × Bytes × String) := do
  let keyType ← Decoder.utf8String
  let pub ← Decoder.bytes
  let priv ← Decoder.bytes
  let comment ← Decoder.utf8String
  pure (keyType, pub, priv, comment)

/-- `parseOpensshEd25519PrivateBlob`. -/
def parseOpensshEd25519PrivateBlob (E : Ed25519) (blob : Bytes) : Attempt String Keypair := do
  let cursor := (Decoder.newCursor blob).withMaxBytes 16384
  let ((check1, check2), cursor) ← readFields checkFields "decode private key block" cursor
  Attempt.ensure (check1 = check2) s!"checkints don't match {check1} != {check2}"
  let ((keyType, pub, priv, comment), cursor) ←
    readFields privateFields "decode ed25519 private key" cursor
  Attempt.ensure (keyType = opensshEd25519KeyType) s!"unsupported private key type {keyType.quote}"
  Attempt.ensure (pub.length = ed25519PublicKeySize)
    s!"public key length {pub.length} does not match expected length {ed25519PublicKeySize}"
  Attempt.ensure (priv.length = opensshEd25519PrivateKeySize)
    s!"private key length {priv.length} does not match expected length {opensshEd25519PrivateKeySize}"
  let embedded ← Attempt.ofOption (slice priv ed25519SeedSize priv.length)
  Attempt.ensure (embedded = pub) "embedded public key does not match public key field"
  let padding ← Attempt.ofOption cursor.rest
  Attempt.ensure (validOpensshPadding padding = true) "invalid OpenSSH private key padding"
  let seed ← Attempt.ofOption (slice priv 0 ed25519SeedSize)
  let keypair : Keypair := ⟨pub, seed, comment⟩
  match keypair.validate E with
  | .error e => Attempt.refuse s!"decode ed25519 private key: {e}"
  | .ok _ => pure keypair

def headerFields : Dec (String × String × Bytes × UInt32) := do
  Decoder.expectBytes opensshKeyV1Magic
  let ciphername ← Decoder.utf8String
  let kdfname ← Decoder.utf8String
  let kdfoptions ← Decoder.bytes
  let numKeys ← Decoder.u32
  pure (ciphername, kdfname, kdfoptions, numKeys)

def blobFields : Dec (Bytes × Bytes) := do
  let publicBlob ← Decoder.bytes
  let privateBlob ← Decoder.bytes
  pure (publicBlob, privateBlob)

/-- `parseOpensshPrivateKeyV1`. -/
def parseOpensshPrivateKeyV1 (E : Ed25519) (key : Bytes) : Attempt String Keypair := do
  let cursor := (Decoder.newCursor key).withMaxBytes 16384
  let ((ciphername, kdfname, kdfoptions, numKeys), cursor) ←
    readFields headerFields "decode private key header" cursor
  Attempt.ensure (ciphername = "none" ∧ kdfname = "none")
    s!"encrypted keys not supported: cipher={ciphername.quote} kdf={kdfname.quote}"
  Attempt.ensure (kdfoptions.length = 0) "unexpected kdf options for unencrypted key"
  Attempt.ensure (numKeys = 1) "only one key per file is supported"
  let (publicBlob, privateBlob) ← readLast blobFields "decode private key envelope" cursor
  let pub ← parseOpensshEd25519PublicBlob publicBlob
  let privateKey ← parseOpensshEd25519PrivateBlob E privateBlob
  Attempt.ensure (pub = privateKey.publicBytes)
    "public key mismatch between public and private sections"
  pure privateKey

/-! ## 3. The fields as formats -/

section Fields

variable {max : UInt32}

def publicFormat (max : UInt32) : Parser UInt8 (String × Bytes) :=
  Format.utf8 max >>= fun keyType => Format.bytes max >>= fun pub => pure (keyType, pub)

def checkFormat : Parser UInt8 (UInt32 × UInt32) :=
  Format.u32 >>= fun check1 => Format.u32 >>= fun check2 => pure (check1, check2)

def privateFormat (max : UInt32) : Parser UInt8 (String × Bytes × Bytes × String) :=
  Format.utf8 max >>= fun keyType => Format.bytes max >>= fun pub => Format.bytes max >>= fun priv =>
    Format.utf8 max >>= fun comment => pure (keyType, pub, priv, comment)

def headerFormat (max : UInt32) : Parser UInt8 (String × String × Bytes × UInt32) :=
  Format.expect opensshKeyV1Magic >>= fun _ => Format.utf8 max >>= fun ciphername =>
    Format.utf8 max >>= fun kdfname => Format.bytes max >>= fun kdfoptions =>
      Format.u32 >>= fun numKeys => pure (ciphername, kdfname, kdfoptions, numKeys)

def blobFormat (max : UInt32) : Parser UInt8 (Bytes × Bytes) :=
  Format.bytes max >>= fun publicBlob => Format.bytes max >>= fun privateBlob =>
    pure (publicBlob, privateBlob)

theorem decodes_publicFields : Decodes publicFields max (publicFormat max) :=
  decodes_utf8String.bind fun keyType => decodes_bytes.bind fun pub => decodes_pure (keyType, pub)

theorem decodes_checkFields : Decodes checkFields max checkFormat :=
  decodes_u32.bind fun check1 => decodes_u32.bind fun check2 => decodes_pure (check1, check2)

theorem decodes_privateFields : Decodes privateFields max (privateFormat max) :=
  decodes_utf8String.bind fun keyType => decodes_bytes.bind fun pub => decodes_bytes.bind fun priv =>
    decodes_utf8String.bind fun comment => decodes_pure (keyType, pub, priv, comment)

theorem decodes_headerFields : Decodes headerFields max (headerFormat max) :=
  (decodes_expectBytes (by decide)).bind fun _ => decodes_utf8String.bind fun ciphername =>
    decodes_utf8String.bind fun kdfname => decodes_bytes.bind fun kdfoptions =>
      decodes_u32.bind fun numKeys => decodes_pure (ciphername, kdfname, kdfoptions, numKeys)

theorem decodes_blobFields : Decodes blobFields max (blobFormat max) :=
  decodes_bytes.bind fun publicBlob => decodes_bytes.bind fun privateBlob =>
    decodes_pure (publicBlob, privateBlob)

theorem reads_publicFormat : (publicFormat max).Reads fun w a =>
    w = prefixed (textBytes a.1) ++ prefixed a.2 ∧
      (textBytes a.1).length ≤ max.toNat ∧ a.2.length ≤ max.toNat :=
  (Format.reads_utf8 max).pair (Format.reads_bytes max)

/-- A word of 32 bits, in the form `Reads.pair` wants. -/
theorem reads_word : Format.u32.Reads fun w n => w = putUint32 n ∧ True :=
  Format.reads_u32.congr fun w n => by simp

theorem reads_checkFormat : checkFormat.Reads fun w a => w = putUint32 a.1 ++ putUint32 a.2 :=
  (reads_word.pair reads_word).congr fun w a => by simp

theorem reads_privateFormat : (privateFormat max).Reads fun w a =>
    w = prefixed (textBytes a.1) ++ (prefixed a.2.1 ++ (prefixed a.2.2.1 ++
        prefixed (textBytes a.2.2.2))) ∧
      (textBytes a.1).length ≤ max.toNat ∧ a.2.1.length ≤ max.toNat ∧ a.2.2.1.length ≤ max.toNat ∧
      (textBytes a.2.2.2).length ≤ max.toNat := by
  have hpair : privateFormat max = (Format.utf8 max).pair ((Format.bytes max).pair
      ((Format.bytes max).pair (Format.utf8 max))) := by
    simp only [privateFormat, Parser.pair, bind_assoc, pure_bind]
  rw [hpair]
  exact (Format.reads_utf8 max).pair ((Format.reads_bytes max).pair
    ((Format.reads_bytes max).pair (Format.reads_utf8 max)))

theorem reads_headerFormat : (headerFormat max).Reads fun w a =>
    w = opensshKeyV1Magic ++ (prefixed (textBytes a.1) ++ (prefixed (textBytes a.2.1) ++
        (prefixed a.2.2.1 ++ putUint32 a.2.2.2))) ∧
      (textBytes a.1).length ≤ max.toNat ∧ (textBytes a.2.1).length ≤ max.toNat ∧
      a.2.2.1.length ≤ max.toNat := by
  have hpair : headerFormat max = Format.expect opensshKeyV1Magic >>= fun _ =>
      (Format.utf8 max).pair ((Format.utf8 max).pair ((Format.bytes max).pair Format.u32)) := by
    simp only [headerFormat, Parser.pair, bind_assoc, pure_bind]
  rw [hpair]
  refine ((Format.reads_expect opensshKeyV1Magic).bind fun _ => (Format.reads_utf8 max).pair
    ((Format.reads_utf8 max).pair ((Format.reads_bytes max).pair reads_word))).congr fun w a => ?_
  constructor
  · rintro ⟨-, -, -, rfl, ⟨rfl, hc, hk, ho, -⟩, rfl⟩
    exact ⟨rfl, hc, hk, ho⟩
  · rintro ⟨rfl, hc, hk, ho⟩
    exact ⟨(), _, _, rfl, ⟨rfl, hc, hk, ho, trivial⟩, rfl⟩

theorem reads_blobFormat : (blobFormat max).Reads fun w a =>
    w = prefixed a.1 ++ prefixed a.2 ∧ a.1.length ≤ max.toNat ∧ a.2.length ≤ max.toNat :=
  (Format.reads_bytes max).pair (Format.reads_bytes max)

end Fields

/-! ## 4. The grammar -/

/-- So many bytes of padding: 1, 2, 3 and so on, modulo 256. -/
def paddingOf (n : Nat) : Bytes := (List.range n).map fun i => UInt8.ofNat (i + 1)

/-- The section with the public key. -/
def publicBlob (pub : Bytes) : Bytes :=
  prefixed (textBytes opensshEd25519KeyType) ++ prefixed pub

/-- The section with the private key: two equal check words, the key and the padding. -/
def privateBlob (check : UInt32) (k : Keypair) (padding : Nat) : Bytes :=
  putUint32 check ++ (putUint32 check ++ (prefixed (textBytes opensshEd25519KeyType) ++
    (prefixed k.publicBytes ++ (prefixed (k.seed ++ k.publicBytes) ++
      (prefixed (textBytes k.comment) ++ paddingOf padding)))))

/-- The header and the two sections. -/
def envelope (pub priv : Bytes) : Bytes :=
  opensshKeyV1Magic ++ (prefixed (textBytes "none") ++ (prefixed (textBytes "none") ++
    (prefixed [] ++ (putUint32 1 ++ (prefixed pub ++ prefixed priv)))))

/-- A key pair whose public key belongs to its seed. -/
structure Keypair.Sound (E : Ed25519) (k : Keypair) : Prop where
  publicLength : k.publicBytes.length = 32
  seedLength : k.seed.length = 32
  derived : E.publicOf k.seed = k.publicBytes

/-- **The grammar.** Only the private section can exceed a limit; it holds the comment. -/
structure OpensshV1 (E : Ed25519) (b : Bytes) (k : Keypair) : Prop where
  sound : k.Sound E
  layout : ∃ check padding, b = envelope (publicBlob k.publicBytes) (privateBlob check k padding) ∧
    (privateBlob check k padding).length ≤ 16384

theorem validPaddingFrom_iff {i : Nat} {b : Bytes} :
    validPaddingFrom i b = true ↔
      b = (List.range' i b.length).map fun j => UInt8.ofNat (j + 1) := by
  induction b generalizing i with
  | nil => simp [validPaddingFrom]
  | cons x b ih =>
    rw [validPaddingFrom, List.length_cons, List.range'_succ, List.map_cons, List.cons.injEq, ← ih]
    by_cases hx : x = UInt8.ofNat (i + 1) <;> simp [hx]

theorem validOpensshPadding_iff {b : Bytes} :
    validOpensshPadding b = true ↔ ∃ n, b = paddingOf n := by
  unfold validOpensshPadding paddingOf
  rw [validPaddingFrom_iff, ← List.range_eq_range']
  constructor
  · intro h
    exact ⟨b.length, h⟩
  · rintro ⟨n, rfl⟩
    rw [List.length_map, List.length_range]

theorem Keypair.validate_eq_ok {E : Ed25519} {k : Keypair} :
    k.validate E = .ok () ↔ k.Sound E := by
  unfold Keypair.validate
  split_ifs with hpub hseed hderived
  · exact ⟨(fun h => nomatch h), fun h => absurd h.publicLength hpub⟩
  · exact ⟨(fun h => nomatch h), fun h => absurd h.seedLength hseed⟩
  · exact ⟨(fun h => nomatch h), fun h => absurd h.derived hderived⟩
  · exact ⟨fun _ => ⟨not_not.mp hpub, not_not.mp hseed, not_not.mp hderived⟩, fun _ => rfl⟩

/-! ## 5. What the parsers accept -/

theorem length_keyType : (textBytes opensshEd25519KeyType).length = 11 := by decide

theorem length_none : (textBytes "none").length = 4 := by decide

theorem meets_publicBlob (blob : Bytes) : (parseOpensshEd25519PublicBlob blob).Meets fun pub =>
    blob = publicBlob pub ∧ pub.length = 32 := by
  have hsees := (Decoder.Sees.newCursor blob).withMaxBytes 1024
  refine ((meets_readLast decodes_publicFields hsees).bind
    (Q := fun a pub => a.1 = opensshEd25519KeyType ∧ a.2.length = 32 ∧ pub = a.2) ?_).congr ?_
  · rintro ⟨keyType, pub⟩ -
    exact .ensure fun _ => .ensure fun _ => Attempt.meets_pure pub
  · intro pub
    constructor
    · rintro ⟨⟨keyType, pub⟩, hread, rfl, hlen, rfl⟩
      obtain ⟨w, ⟨rfl, -⟩, hblob⟩ := (reads_publicFormat _ _ _).mp hread
      rw [List.append_nil] at hblob
      exact ⟨hblob, hlen⟩
    · rintro ⟨rfl, hlen⟩
      refine ⟨(opensshEd25519KeyType, pub), (reads_publicFormat _ _ _).mpr ⟨publicBlob pub, ⟨rfl, ?_, ?_⟩,
        (List.append_nil _).symm⟩, rfl, hlen, rfl⟩
      · exact length_keyType.trans_le (by decide)
      · exact hlen.trans_le (by decide)

/-- The bytes of a private key are the seed and the public key. -/
theorem slice_private {priv : Bytes} (h : priv.length = opensshEd25519PrivateKeySize) :
    slice priv ed25519SeedSize priv.length = some (priv.drop 32) ∧
      slice priv 0 ed25519SeedSize = some (priv.take 32) := by
  have hlen : priv.length = 64 := h
  have hdrop : (priv.drop 32).length = priv.length - 32 := List.length_drop
  unfold slice ed25519SeedSize
  refine ⟨?_, ?_⟩
  · rw [if_pos ⟨by omega, le_rfl⟩, ← hdrop, List.take_length]
  · rw [if_pos ⟨by omega, by omega⟩]
    rfl

theorem meets_validate (E : Ed25519) (k : Keypair) {message : String → String} :
    (match k.validate E with
      | .error e => Attempt.refuse (message e)
      | .ok _ => pure k : Attempt String Keypair).Meets fun k' => k.Sound E ∧ k' = k := by
  cases hv : k.validate E with
  | error e =>
    have hnot : ¬k.Sound E := fun h => by rw [Keypair.validate_eq_ok.mpr h] at hv; cases hv
    exact (Attempt.meets_refuse _).congr fun k' => by simp [hnot]
  | ok u =>
    have hsound : k.Sound E := Keypair.validate_eq_ok.mp hv
    exact (Attempt.meets_pure k).congr fun k' => by simp [hsound]

/-- The checks behind the fields of the private section. -/
theorem meets_privateBlob (E : Ed25519) (blob : Bytes) :
    (parseOpensshEd25519PrivateBlob E blob).Meets fun k =>
      k.Sound E ∧ (textBytes k.comment).length ≤ 16384 ∧
        ∃ check padding, blob = privateBlob check k padding := by
  have hsees := (Decoder.Sees.newCursor blob).withMaxBytes 16384
  refine (meets_readFields decodes_checkFields hsees (Q := fun checks rest k => checks.1 = checks.2 ∧
    ∃ f padding, privateFormat 16384 rest = some (f, padding) ∧ f.1 = opensshEd25519KeyType ∧
      f.2.1.length = 32 ∧ f.2.2.1.length = 64 ∧ f.2.2.1.drop 32 = f.2.1 ∧
      validOpensshPadding padding = true ∧ Keypair.Sound E ⟨f.2.1, f.2.2.1.take 32, f.2.2.2⟩ ∧
      k = ⟨f.2.1, f.2.2.1.take 32, f.2.2.2⟩) ?_).congr ?_
  · rintro ⟨check1, check2⟩ c rest - hc
    refine .ensure fun _ => meets_readFields decodes_privateFields hc ?_
    rintro ⟨keyType, pub, priv, comment⟩ c' padding - hc'
    refine .ensure fun _ => .ensure fun _ => .ensure fun hpriv => ?_
    obtain ⟨hembedded, hseed⟩ := slice_private hpriv
    simp only [hembedded, hseed, hc'.rest]
    exact .ensure fun _ => .ensure fun _ => meets_validate E _
  · intro k
    constructor
    · rintro ⟨⟨check, check'⟩, rest, hcheck, heq, ⟨keyType, pub, priv, comment⟩, padding, hfields,
        rfl, -, -, hembedded, hpadding, hsound, rfl⟩
      obtain rfl : check = check' := heq
      obtain ⟨w, rfl, hblob⟩ := (reads_checkFormat _ _ _).mp hcheck
      obtain ⟨w, ⟨rfl, -, -, -, hcomment⟩, rfl⟩ := (reads_privateFormat _ _ _).mp hfields
      obtain ⟨n, rfl⟩ := validOpensshPadding_iff.mp hpadding
      refine ⟨hsound, hcomment, check, n, ?_⟩
      have hpriv : priv.take 32 ++ pub = priv := by
        rw [← show priv.drop 32 = pub from hembedded, List.take_append_drop]
      simp only [privateBlob, hpriv, hblob, List.append_assoc]
    · rintro ⟨hsound, hcomment, check, n, rfl⟩
      have hpub := hsound.publicLength
      have hseed := hsound.seedLength
      have hlen : (k.seed ++ k.publicBytes).length = 64 := by
        rw [List.length_append, hpub, hseed]
      have hdrop : (k.seed ++ k.publicBytes).drop 32 = k.publicBytes := List.drop_left' hseed
      have htake : (k.seed ++ k.publicBytes).take 32 = k.seed := List.take_left' hseed
      refine ⟨(check, check), _, (reads_checkFormat _ _ _).mpr ⟨_, rfl, ?_⟩, rfl,
        (opensshEd25519KeyType, k.publicBytes, k.seed ++ k.publicBytes, k.comment), paddingOf n,
        (reads_privateFormat _ _ _).mpr ⟨_, ⟨rfl, ?_, ?_, ?_, hcomment⟩, rfl⟩, rfl, hpub, hlen, hdrop,
        validOpensshPadding_iff.mpr ⟨n, rfl⟩, ?_, ?_⟩
      · simp only [privateBlob, List.append_assoc]
      · exact length_keyType.trans_le (by decide)
      · exact hpub.trans_le (by decide)
      · exact hlen.trans_le (by decide)
      · rw [htake]
        exact hsound
      · rw [htake]

theorem length_publicBlob {pub : Bytes} (h : pub.length = 32) : (publicBlob pub).length = 51 := by
  rw [publicBlob, List.length_append, length_prefixed, length_prefixed, length_keyType, h]

theorem length_comment_le (check : UInt32) (k : Keypair) (padding : Nat) :
    (textBytes k.comment).length ≤ (privateBlob check k padding).length := by
  simp only [privateBlob, List.length_append, length_prefixed]
  omega

/-- What the header and the two sections must be. -/
theorem meets_opensshPrivateKeyV1 (E : Ed25519) (key : Bytes) :
    (parseOpensshPrivateKeyV1 E key).Meets fun k => OpensshV1 E key k := by
  have hsees := (Decoder.Sees.newCursor key).withMaxBytes 16384
  refine (meets_readFields decodes_headerFields hsees (Q := fun h rest k =>
    (h.1 = "none" ∧ h.2.1 = "none") ∧ h.2.2.1.length = 0 ∧ h.2.2.2 = 1 ∧
      ∃ blobs, blobFormat 16384 rest = some (blobs, []) ∧
      ∃ pub, (blobs.1 = publicBlob pub ∧ pub.length = 32) ∧
      ∃ k', (k'.Sound E ∧ (textBytes k'.comment).length ≤ 16384 ∧
        ∃ check padding, blobs.2 = privateBlob check k' padding) ∧ pub = k'.publicBytes ∧ k = k')
    ?_).congr ?_
  · rintro ⟨ciphername, kdfname, kdfoptions, numKeys⟩ c rest - hc
    refine .ensure fun _ => .ensure fun _ => .ensure fun _ =>
      (meets_readLast decodes_blobFields hc).bind ?_
    rintro ⟨pub, priv⟩ -
    exact (meets_publicBlob pub).bind fun _ _ => (meets_privateBlob E priv).bind fun k _ =>
      .ensure fun _ => Attempt.meets_pure k
  · intro k
    constructor
    · rintro ⟨⟨c, d, options, n⟩, rest, hheader, ⟨rfl, rfl⟩, hoptions, rfl, ⟨-, -⟩, hblobs, pub,
        ⟨rfl, -⟩, k', ⟨hsound, -, check, padding, rfl⟩, rfl, rfl⟩
      obtain rfl := List.length_eq_zero_iff.mp hoptions
      obtain ⟨w, ⟨rfl, -⟩, hkey⟩ := (reads_headerFormat _ _ _).mp hheader
      obtain ⟨w, ⟨rfl, -, hshort⟩, rfl⟩ := (reads_blobFormat _ _ _).mp hblobs
      refine ⟨hsound, check, padding, ?_, hshort⟩
      simp only [envelope, hkey, List.append_assoc, List.append_nil]
    · rintro ⟨hsound, check, padding, rfl, hshort⟩
      have hpub := length_publicBlob hsound.publicLength
      refine ⟨("none", "none", [], 1), _, (reads_headerFormat _ _ _).mpr ⟨_, ⟨rfl, ?_, ?_, ?_⟩, ?_⟩,
        ⟨rfl, rfl⟩, rfl, rfl, (publicBlob k.publicBytes, privateBlob check k padding),
        (reads_blobFormat _ _ _).mpr ⟨_, ⟨rfl, ?_, hshort⟩, (List.append_nil _).symm⟩, k.publicBytes,
        ⟨rfl, hsound.publicLength⟩, k, ⟨hsound, (length_comment_le _ _ _).trans hshort, check, padding,
        rfl⟩, rfl, rfl⟩
      · exact length_none.trans_le (by decide)
      · exact length_none.trans_le (by decide)
      · exact Nat.zero_le _
      · simp only [envelope, List.append_assoc]
      · exact hpub.trans_le (by decide)

/-- **The grammar of private keys.** The parser reads no byte outside its buffers, whatever it is
    given, and accepts exactly the byte strings of the grammar with their key pairs. -/
theorem parseOpensshPrivateKeyV1_iff (E : Ed25519) (b : Bytes) :
    parseOpensshPrivateKeyV1 E b ≠ none ∧
      ∀ p s c, parseOpensshPrivateKeyV1 E b = some (.ok ⟨p, s, c⟩) ↔ OpensshV1 E b ⟨p, s, c⟩ := by
  have hmeets := meets_opensshPrivateKeyV1 E b
  exact ⟨hmeets.safe, fun p s c => hmeets.returns _⟩

end Mygosh.Keys

/-
  File:      Mygosh/Keys.lean
  Subject:   Public keys and key pairs (`lib/keys`): validation, equality, the binary form, signing.

  The binary form of a key is that of an SSH public key, which `golang.org/x/crypto/ssh` writes and reads:
  `SSH` is what of it the keys rest on. Only Ed25519 keys are accepted.
-/
import Mygosh.Text

namespace Mygosh.Keys

/-- `AlgorithmEd25519`. -/
def algorithmEd25519 : String := "ed25519"

/-- `ed25519.PublicKeySize`. -/
def ed25519PublicKeySize : Nat := 32

/-- `PublicKey`; the comment is metadata. -/
structure PublicKey where
  algorithm : String
  bytes : List UInt8
  comment : String
  deriving DecidableEq, Repr

/-- `PublicKey.Validate`. -/
def PublicKey.validate (k : PublicKey) : Except String Unit :=
  if k.algorithm ≠ algorithmEd25519 then .error s!"unsupported key algorithm {k.algorithm.quote}"
  else if k.bytes.length ≠ ed25519PublicKeySize then
    .error s!"public key length {k.bytes.length} does not match expected length {ed25519PublicKeySize}"
  else .ok ()

/-- `PublicKey.Equal`: `Compare` finds no difference, and it does not look at the comment. -/
def PublicKey.equal (k other : PublicKey) : Bool :=
  k.algorithm = other.algorithm && k.bytes = other.bytes

/-- `PublicKey.Compare`: by algorithm, then by bytes. -/
def PublicKey.compare (k other : PublicKey) : Ordering :=
  (Ord.compare k.algorithm other.algorithm).then (Ord.compare k.bytes other.bytes)

theorem PublicKey.equal_eq_compare (k other : PublicKey) :
    k.equal other = (k.compare other == .eq) := by
  unfold PublicKey.equal PublicKey.compare
  rw [Bool.eq_iff_iff]
  simp [Ordering.then_eq_eq]

/-- `ssh.KeyAlgoED25519`. -/
def keyAlgoED25519 : String := "ssh-ed25519"

/-- What `CryptoPublicKey` of an SSH key is. -/
inductive CryptoKey where
  | unexposed
  | other
  | ed25519 (bytes : List UInt8)
  deriving DecidableEq, Repr

/-- `ssh.PublicKey`: its `Type` and its crypto key. -/
structure SSHPublicKey where
  type : String
  crypto : CryptoKey
  deriving DecidableEq, Repr

/-- `golang.org/x/crypto/ssh`: `ParsePublicKey`, and `Marshal` of the `NewPublicKey` of an Ed25519 key,
    which is parsed back to the key. -/
structure SSH where
  parse : List UInt8 → Except String SSHPublicKey
  marshal : List UInt8 → Except String (List UInt8)
  parse_marshal : ∀ {key blob}, key.length = ed25519PublicKeySize → marshal key = .ok blob →
    parse blob = .ok ⟨keyAlgoED25519, .ed25519 key⟩

/-- `ParseSSHPublicKey`; `none` is a key of another type. -/
def parseSSHPublicKey (publicKey : SSHPublicKey) (comment : String) :
    Except String (Option PublicKey) :=
  if publicKey.type ≠ keyAlgoED25519 then .ok none
  else
    match publicKey.crypto with
    | .unexposed =>
      .error s!"ssh public key {publicKey.type.quote} does not expose a crypto public key"
    | .other => .error s!"ssh public key {publicKey.type.quote} is not an ed25519 public key"
    | .ed25519 bytes => .ok (some ⟨algorithmEd25519, bytes, comment⟩)

/-- `PublicKey.MarshalBinary`. -/
def PublicKey.marshalBinary (S : SSH) (k : PublicKey) : Except String (List UInt8) :=
  match k.validate with
  | .error e => .error e
  | .ok _ => (S.marshal k.bytes).mapError fun e => s!"encode public key: {e}"

/-- `ParsePublicKey`; a parsed key has no comment. -/
def parsePublicKey (S : SSH) (b : List UInt8) : Except String PublicKey :=
  match S.parse b with
  | .error e => .error s!"decode public key: {e}"
  | .ok sshPublicKey =>
    match parseSSHPublicKey sshPublicKey "" with
    | .error e => .error s!"decode public key: {e}"
    | .ok none =>
      .error s!"decode public key: unsupported public key type {sshPublicKey.type.quote}"
    | .ok (some publicKey) => .ok publicKey

theorem PublicKey.validate_eq_ok {k : PublicKey} :
    k.validate = .ok () ↔
      k.algorithm = algorithmEd25519 ∧ k.bytes.length = ed25519PublicKeySize := by
  unfold PublicKey.validate
  split_ifs with ha hl
  · simp [ha]
  · simp [hl]
  · exact ⟨fun _ => ⟨not_not.mp ha, not_not.mp hl⟩, fun _ => rfl⟩

/-- The binary form of a key parses back to the key, less its comment. -/
theorem parsePublicKey_marshalBinary {S : SSH} {k : PublicKey} {b : List UInt8}
    (h : k.marshalBinary S = .ok b) : parsePublicKey S b = .ok { k with comment := "" } := by
  unfold PublicKey.marshalBinary at h
  split at h
  · cases h
  rename_i hv
  obtain ⟨ha, hl⟩ := PublicKey.validate_eq_ok.mp hv
  cases hm : S.marshal k.bytes with
  | error e => rw [hm] at h; cases h
  | ok blob =>
    rw [hm] at h
    cases h
    rw [parsePublicKey, S.parse_marshal hl hm]
    exact congrArg (fun a => Except.ok (⟨a, k.bytes, ""⟩ : PublicKey)) ha.symm

/-- `crypto/ed25519`: the public key of a seed, `Sign` with a seed and `Verify` with a public key. -/
structure Ed25519 where
  publicOf : List UInt8 → List UInt8
  sign : List UInt8 → List UInt8 → List UInt8
  verify : List UInt8 → List UInt8 → List UInt8 → Bool

/-- `ed25519.SeedSize`. -/
def ed25519SeedSize : Nat := 32

/-- `Keypair`: the public key and the seed of the private one. -/
structure Keypair where
  publicBytes : List UInt8
  seed : List UInt8
  comment : String
  deriving DecidableEq, Repr

/-- `Keypair.PublicKey`. -/
def Keypair.publicKey (k : Keypair) : PublicKey := ⟨algorithmEd25519, k.publicBytes, k.comment⟩

/-- `Keypair.Validate`. -/
def Keypair.validate (E : Ed25519) (k : Keypair) : Except String Unit :=
  if k.publicBytes.length ≠ ed25519PublicKeySize then
    .error s!"public key length {k.publicBytes.length} does not match expected length {ed25519PublicKeySize}"
  else if k.seed.length ≠ ed25519SeedSize then
    .error s!"private key length {k.seed.length} does not match expected length {ed25519SeedSize}"
  else if E.publicOf k.seed ≠ k.publicBytes then
    .error "ed25519 keypair public key does not match private key"
  else .ok ()

/-- `Keypair.Sign`, of a valid key pair. -/
def Keypair.sign (E : Ed25519) (k : Keypair) (msg : List UInt8) : List UInt8 := E.sign k.seed msg

/-- `PublicKey.Verify`, of a valid key. -/
def PublicKey.verify (E : Ed25519) (k : PublicKey) (msg sig : List UInt8) : Bool :=
  E.verify k.bytes msg sig

end Mygosh.Keys

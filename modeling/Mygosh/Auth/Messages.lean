/-
  File:      Mygosh/Auth/Messages.lean
  Subject:   Frames, signed payloads and transcript hashes of the authentication
             (`lib/auth/payloads.go`, `transcript.go`, `auth.proto`).

  A received frame is its decoded message: the texts and byte strings it has fields for and, where
  the message is encoded again, the unknown bytes the decoder keeps. The two payloads are built from
  their fields by both roles on their own, so what the protocol needs is that a client's payload can be
  read in one way only, and never as a server's.
-/
import Mygosh.Authz.Permissions
import Mygosh.Keys
import Mygosh.Proto

namespace Mygosh.Auth

open Keys Proto
open Server (guardWith guardWith_eq_ok)

/-! ## 1. Constants -/

/-- `ProtocolVersion`. -/
def protocolVersion : String := "mygosh-auth-v1"

/-- `ServerAuthContext`. -/
def serverAuthContext : String := "mygosh-server-auth-to-sign-v1"

/-- `ClientAuthContext`. -/
def clientAuthContext : String := "mygosh-client-auth-to-sign-v1"

/-- `DigestSize`. -/
def digestSize : Nat := 32

/-- `NonceSize`. -/
def nonceSize : Nat := 32

/-- What `randomBytes(NonceSize)` returns. -/
abbrev Nonce := { b : Bytes // b.length = nonceSize }

/-- The primitives both roles use. -/
structure Primitives extends Ed25519, SSH where
  sha256 : Bytes → Bytes
  sha256_size : ∀ b, (sha256 b).length = digestSize

/-! ## 2. Frames -/

/-- `HostAuthInit`; `unknown` is what the decoder has kept of fields this version does not have. -/
@[ext]
structure HostAuthInit where
  mygoshAuthVersion : String
  clientNonce : Bytes
  referenceIdentity : String
  unknown : Unknown [1, 2, 3]
  deriving DecidableEq

/-- `ServerAuth`. -/
structure ServerAuth where
  serverHostKey : Bytes
  serverNonce : Bytes
  signature : Bytes
  deriving DecidableEq, Repr

/-- `ClientAuthRequest`. -/
structure ClientAuthRequest where
  username : String
  clientPublicKeyOrCert : Bytes
  clientSigAlg : String
  signature : Bytes
  deriving DecidableEq, Repr

/-- `ClientAuthResponse`. -/
inductive ClientAuthResponse where
  | ok
  | reject (code message : String)
  deriving DecidableEq, Repr

/-- `AuthFrame`, with the kind its schema requires. -/
inductive AuthFrame where
  | hostAuthInit (init : HostAuthInit)
  | serverAuth (auth : ServerAuth)
  | clientAuthRequest (request : ClientAuthRequest)
  | clientAuthResponse (response : ClientAuthResponse)
  | authError (code message : String)
  deriving DecidableEq

/-- `protovalidate.Validate`: the rules of the schema. -/
def AuthFrame.valid : AuthFrame → Bool
  | .hostAuthInit m =>
    m.mygoshAuthVersion ≠ "" && m.clientNonce.length = nonceSize && m.referenceIdentity ≠ ""
  | .serverAuth m => m.serverHostKey ≠ [] && m.serverNonce.length = nonceSize && m.signature ≠ []
  | .clientAuthRequest m =>
    m.username ≠ "" && m.clientPublicKeyOrCert ≠ [] && m.clientSigAlg ≠ "" && m.signature ≠ []
  | .clientAuthResponse .ok => true
  | .clientAuthResponse (.reject _ message) => message ≠ ""
  | .authError _ message => message ≠ ""

/-- The kind as `%T` prints it. -/
def AuthFrame.typeName : AuthFrame → String
  | .hostAuthInit _ => "*authpb.AuthFrame_HostAuthInit"
  | .serverAuth _ => "*authpb.AuthFrame_ServerAuth"
  | .clientAuthRequest _ => "*authpb.AuthFrame_ClientAuthRequest"
  | .clientAuthResponse _ => "*authpb.AuthFrame_ClientAuthResponse"
  | .authError _ _ => "*authpb.AuthFrame_Error"

/-! ## 3. Transcript hashes -/

def HostAuthInit.fields (m : HostAuthInit) : List (Nat × Bytes) :=
  [(1, textBytes m.mygoshAuthVersion), (2, m.clientNonce), (3, textBytes m.referenceIdentity)]

/-- The deterministic encoding of a `HostAuthInit`. -/
def HostAuthInit.marshal (m : HostAuthInit) : Bytes := encode m.fields ++ m.unknown.raw

/-- What `HashServerAuthFields` encodes: a `ServerAuth` without its signature. -/
def serverAuthFields (serverHostKey serverNonce : Bytes) : Bytes :=
  encode [(1, serverHostKey), (2, serverNonce)]

/-- `HashHostAuthInit`. -/
def hashHostAuthInit (P : Primitives) (m : HostAuthInit) : Bytes := P.sha256 m.marshal

/-- `HashServerAuthFields`. -/
def hashServerAuthFields (P : Primitives) (serverHostKey serverNonce : Bytes) : Bytes :=
  P.sha256 (serverAuthFields serverHostKey serverNonce)

theorem HostAuthInit.marshal_inj {m m' : HostAuthInit} (h : m.marshal = m'.marshal) : m = m' := by
  have h' : encode m.fields ++ m.unknown.raw = encode m'.fields ++ m'.unknown.raw := h
  obtain ⟨hfields, hunknown⟩ := encode_append_inj h' rfl rfl (by decide) (by decide)
  simp only [HostAuthInit.fields, List.cons.injEq, Prod.mk.injEq, true_and, and_true] at hfields
  obtain ⟨hversion, hnonce, hidentity⟩ := hfields
  exact HostAuthInit.ext (textBytes_inj hversion) hnonce (textBytes_inj hidentity) hunknown

theorem serverAuthFields_inj {key key' nonce nonce' : Bytes}
    (h : serverAuthFields key nonce = serverAuthFields key' nonce') :
    key = key' ∧ nonce = nonce' := by
  simpa using @encode_inj [1, 2] _ _ h rfl rfl (by decide) (by decide)

/-! ## 4. Signed payloads -/

/-- `validateBytesLen`, before the checks that follow it. -/
def validateBytesLen {α : Type} (label : String) (b : Bytes) (want : Nat) (next : Except String α) :
    Except String α :=
  guardWith (b.length ≠ want) s!"{label} length {b.length} does not match expected length {want}"
    next

/-- `validateDigest`. -/
def validateDigest {α : Type} (label : String) (b : Bytes) (next : Except String α) :
    Except String α :=
  validateBytesLen label b digestSize next

/-- `ServerAuthToSign`. -/
structure ServerAuthToSign where
  channelBinding : Bytes
  hostAuthInitHash : Bytes
  serverHostKey : Bytes
  serverNonce : Bytes
  deriving DecidableEq, Repr

/-- `ServerAuthToSign.Validate`. -/
def ServerAuthToSign.validate (p : ServerAuthToSign) : Except String Unit :=
  validateDigest "channel binding" p.channelBinding <|
  validateDigest "host auth init hash" p.hostAuthInitHash <|
  guardWith (p.serverHostKey = []) "server host key is required" <|
  validateBytesLen "server nonce" p.serverNonce nonceSize <|
  .ok ()

/-- The message `ServerAuthToSign` of the schema. -/
def ServerAuthToSign.fields (p : ServerAuthToSign) : List (Nat × Bytes) :=
  [(1, textBytes serverAuthContext), (2, p.channelBinding), (3, p.hostAuthInitHash),
    (4, p.serverHostKey), (5, p.serverNonce)]

def ServerAuthToSign.payload (p : ServerAuthToSign) : Bytes := encode p.fields

/-- `ServerAuthToSign.MarshalBinary`. -/
def ServerAuthToSign.marshalBinary (p : ServerAuthToSign) : Except String Bytes :=
  match p.validate with
  | .error e => .error e
  | .ok _ => .ok p.payload

/-- `ClientAuthToSign`. -/
@[ext]
structure ClientAuthToSign where
  channelBinding : Bytes
  hostAuthInitHash : Bytes
  serverAuthHash : Bytes
  username : String
  clientPublicKeyOrCert : Bytes
  clientSigAlg : String
  deriving DecidableEq, Repr

/-- `ClientAuthToSign.Validate`. -/
def ClientAuthToSign.validate (p : ClientAuthToSign) : Except String Unit :=
  validateDigest "channel binding" p.channelBinding <|
  validateDigest "host auth init hash" p.hostAuthInitHash <|
  validateDigest "server auth hash" p.serverAuthHash <|
  guardWith (p.username = "") "username is required" <|
  guardWith (p.clientPublicKeyOrCert = []) "client public key or cert is required" <|
  guardWith (p.clientSigAlg = "") "client signature algorithm is required" <|
  .ok ()

/-- The message `ClientAuthToSign` of the schema. -/
def ClientAuthToSign.fields (p : ClientAuthToSign) : List (Nat × Bytes) :=
  [(1, textBytes clientAuthContext), (2, p.channelBinding), (3, p.hostAuthInitHash),
    (4, p.serverAuthHash), (5, textBytes p.username), (6, p.clientPublicKeyOrCert),
    (7, textBytes p.clientSigAlg)]

def ClientAuthToSign.payload (p : ClientAuthToSign) : Bytes := encode p.fields

/-- `ClientAuthToSign.MarshalBinary`. -/
def ClientAuthToSign.marshalBinary (p : ClientAuthToSign) : Except String Bytes :=
  match p.validate with
  | .error e => .error e
  | .ok _ => .ok p.payload

theorem ServerAuthToSign.marshalBinary_eq_ok {p : ServerAuthToSign} {b : Bytes}
    (h : p.marshalBinary = .ok b) : b = p.payload := by
  unfold ServerAuthToSign.marshalBinary at h
  split at h <;> cases h
  rfl

theorem ClientAuthToSign.marshalBinary_eq_ok {p : ClientAuthToSign} {b : Bytes}
    (h : p.marshalBinary = .ok b) : b = p.payload := by
  unfold ClientAuthToSign.marshalBinary at h
  split at h <;> cases h
  rfl

theorem ClientAuthToSign.payload_inj {p q : ClientAuthToSign} (h : p.payload = q.payload) :
    p = q := by
  have hfields : p.fields = q.fields :=
    @encode_inj [1, 2, 3, 4, 5, 6, 7] _ _ h rfl rfl (by decide) (by decide)
  simp only [ClientAuthToSign.fields, List.cons.injEq, Prod.mk.injEq, true_and, and_true] at hfields
  obtain ⟨hbinding, hinit, hserver, husername, hkey, halg⟩ := hfields
  exact ClientAuthToSign.ext hbinding hinit hserver (textBytes_inj husername) hkey
    (textBytes_inj halg)

theorem ServerAuthToSign.payload_inj {p q : ServerAuthToSign} (h : p.payload = q.payload) :
    p = q := by
  have hfields : p.fields = q.fields :=
    @encode_inj [1, 2, 3, 4, 5] _ _ h rfl rfl (by decide) (by decide)
  obtain ⟨binding, init, key, nonce⟩ := p
  obtain ⟨binding', init', key', nonce'⟩ := q
  simp only [ServerAuthToSign.fields, List.cons.injEq, Prod.mk.injEq, true_and, and_true] at hfields
  obtain ⟨rfl, rfl, rfl, rfl⟩ := hfields
  rfl

theorem ServerAuthToSign.marshalBinary_of_valid {p : ServerAuthToSign} (h : p.validate = .ok ()) :
    p.marshalBinary = .ok p.payload := by
  rw [ServerAuthToSign.marshalBinary, h]

theorem ClientAuthToSign.marshalBinary_of_valid {p : ClientAuthToSign} (h : p.validate = .ok ()) :
    p.marshalBinary = .ok p.payload := by
  rw [ClientAuthToSign.marshalBinary, h]

/-- **The contexts keep the two payloads apart.** -/
theorem server_payload_ne_client_payload (p : ServerAuthToSign) (q : ClientAuthToSign) :
    p.payload ≠ q.payload := by
  intro h
  have hcontext := encode_head (by simp [validNumber]) (by simp [validNumber]) (by decide)
    (by decide) h
  exact absurd (textBytes_inj hcontext) (by decide)

/-- **Signed bytes have one reading.** Every valid payload has an encoding; no two payloads of one kind
    share it, no payload of one kind has that of one of the other kind, and the bytes that
    `HashHostAuthInit` and `HashServerAuthFields` hash determine their fields. -/
theorem signed_payloads_determine_fields :
    (∀ p : ServerAuthToSign, p.validate = .ok () → ∃ b, p.marshalBinary = .ok b) ∧
    (∀ p : ClientAuthToSign, p.validate = .ok () → ∃ b, p.marshalBinary = .ok b) ∧
    (∀ p q : ServerAuthToSign, p.validate = .ok () → q.validate = .ok () →
      p.marshalBinary = q.marshalBinary → p = q) ∧
    (∀ p q : ClientAuthToSign, p.validate = .ok () → q.validate = .ok () →
      p.marshalBinary = q.marshalBinary → p = q) ∧
    (∀ (p : ServerAuthToSign) (q : ClientAuthToSign), p.validate = .ok () → q.validate = .ok () →
      p.marshalBinary ≠ q.marshalBinary) ∧
    (∀ m m' : HostAuthInit, m.marshal = m'.marshal → m = m') ∧
    ∀ key key' nonce nonce', serverAuthFields key nonce = serverAuthFields key' nonce' →
      key = key' ∧ nonce = nonce' := by
  refine ⟨fun p hp => ⟨_, p.marshalBinary_of_valid hp⟩, fun p hp => ⟨_, p.marshalBinary_of_valid hp⟩,
    fun p q hp hq h => ?_, fun p q hp hq h => ?_, fun p q hp hq h => ?_,
    fun _ _ h => HostAuthInit.marshal_inj h, fun _ _ _ _ h => serverAuthFields_inj h⟩
  · rw [p.marshalBinary_of_valid hp, q.marshalBinary_of_valid hq] at h
    exact ServerAuthToSign.payload_inj (Except.ok.inj h)
  · rw [p.marshalBinary_of_valid hp, q.marshalBinary_of_valid hq] at h
    exact ClientAuthToSign.payload_inj (Except.ok.inj h)
  · rw [p.marshalBinary_of_valid hp, q.marshalBinary_of_valid hq] at h
    exact server_payload_ne_client_payload p q (Except.ok.inj h)

/-- A name that continues in the next field: the bytes differ. -/
theorem signed_payloads_determine_fields_adjacent :
    (ClientAuthToSign.mk (List.replicate 32 0) (List.replicate 32 0) (List.replicate 32 0)
        "a" [98] "c").marshalBinary ≠
      (ClientAuthToSign.mk (List.replicate 32 0) (List.replicate 32 0) (List.replicate 32 0)
        "ab" [98] "c").marshalBinary := by
  intro h
  exact absurd (signed_payloads_determine_fields.2.2.2.1 _ _ (by decide) (by decide) h) (by decide)

end Mygosh.Auth

/-
  File:      Mygosh/Auth/Roles.lean
  Subject:   `RunClient` (`lib/auth/client_auth.go`) and `BeginServer` (`lib/auth/server_auth.go`).

  Each call is cut where it waits for a frame: from one receive to the next it takes one step, which
  shows in their order what it hashes, signs, accepts and sends. What comes from outside is an
  argument of the step: the packet, the random bytes, the answers of the two callbacks and the error
  of the transport. A packet is an error or the decoded frame. `advance` finds the state it expects
  in each of its calls, since each call has its own machine, so the place between two steps stands
  for the state.
-/
import Mygosh.Auth.Messages
import Mygosh.Lts

namespace Mygosh.Auth

open Keys Proto
open Server (guardWith guardWith_eq_ok)

/-! ## 1. Errors, receiving and sending -/

/-- `eris.Wrap`. -/
def wrap (message err : String) : String := message ++ ": " ++ err

/-- An error with what was being done. -/
def context {α : Type} (message : String) (x : Except String α) : Except String α :=
  x.mapError (wrap message)

/-- `receiveAuthFrame`: the framer and the decoder, then the rules of the schema. -/
def receiveAuthFrame (packet : Except String AuthFrame) : Except String AuthFrame :=
  context "receive auth frame" <|
    match packet with
    | .error e => .error e
    | .ok frame => if frame.valid then .ok frame else .error "validate message"

/-- A frame of the kind `pick` reads. -/
def receiveKind {α : Type} (kind peer : String) (pick : AuthFrame → Option α)
    (packet : Except String AuthFrame) : Except String α :=
  match context s!"receive {kind}" (receiveAuthFrame packet) with
  | .error e => .error e
  | .ok frame =>
    match pick frame, frame with
    | some m, _ => .ok m
    | none, .authError _ message => .error s!"{peer} rejected auth: {message}"
    | none, other => .error s!"expected {kind}, got {other.typeName}"

/-- `receiveHostAuthInit`. -/
def receiveHostAuthInit : Except String AuthFrame → Except String HostAuthInit :=
  receiveKind "host auth init" "peer" fun
    | .hostAuthInit m => some m
    | _ => none

/-- `receiveServerAuth`. -/
def receiveServerAuth : Except String AuthFrame → Except String ServerAuth :=
  receiveKind "server auth" "server" fun
    | .serverAuth m => some m
    | _ => none

/-- `receiveClientAuthRequest`. -/
def receiveClientAuthRequest : Except String AuthFrame → Except String ClientAuthRequest :=
  receiveKind "client auth request" "peer" fun
    | .clientAuthRequest m => some m
    | _ => none

/-- `receiveClientAuthResponse`. -/
def receiveClientAuthResponse : Except String AuthFrame → Except String ClientAuthResponse :=
  receiveKind "client auth response" "server" fun
    | .clientAuthResponse m => some m
    | _ => none

/-- `sendAuthFrame`: its error, if it has one; `transport` is that of `SendFrame`. -/
def sendAuthFrame (frame : AuthFrame) (transport : Option String) : Option String :=
  if frame.valid then transport else some "validate message"

/-! ## 2. Configurations and results -/

/-- `ClientConfig`; of the two callbacks, whether there is one. -/
structure ClientConfig where
  referenceIdentity : String
  username : String
  clientIdentityProvider : Bool
  verifyServerHostKey : Bool
  deriving DecidableEq, Repr

/-- `ClientConfig.Validate`. -/
def ClientConfig.validate (c : ClientConfig) : Except String Unit :=
  guardWith (c.referenceIdentity = "") "reference identity is required" <|
  guardWith (c.username = "") "username is required" <|
  guardWith (!c.clientIdentityProvider) "client identity provider is required" <|
  guardWith (!c.verifyServerHostKey) "server host key verifier is required" <|
  .ok ()

/-- `ServerConfig`. -/
structure ServerConfig where
  hostKey : Keypair
  deriving DecidableEq, Repr

/-- `ServerConfig.Validate`. -/
def ServerConfig.validate (P : Primitives) (c : ServerConfig) : Except String Unit :=
  context "server host key" (c.hostKey.validate P.toEd25519)

/-- `ClientResult`. -/
structure ClientResult where
  referenceIdentity : String
  serverHostKey : PublicKey
  username : String
  publicKey : PublicKey
  deriving DecidableEq, Repr

/-- `VerifiedClient`. -/
structure VerifiedClient where
  hostIdentity : String
  requestedUsername : String
  provenKey : PublicKey
  serverKey : PublicKey
  deriving DecidableEq, Repr

/-- `NewVerifiedClient`. -/
def newVerifiedClient (hostIdentity requestedUsername : String) (provenKey serverKey : PublicKey) :
    Except String VerifiedClient :=
  guardWith (hostIdentity = "") "host identity is required" <|
  guardWith (requestedUsername = "") "requested username is required" <| do
  context "proved client key" provenKey.validate
  context "server key" serverKey.validate
  return ⟨hostIdentity, requestedUsername, provenKey, serverKey⟩

/-! ## 3. What the two roles prove -/

/-- What a server run knows when it signs. -/
structure ServerProof where
  channelBinding : Bytes
  init : HostAuthInit
  hostKey : PublicKey
  /-- the binary form of the host key -/
  serverHostKey : Bytes
  serverNonce : Bytes
  deriving DecidableEq

/-- What a client run knows when it signs. -/
structure ClientProof where
  channelBinding : Bytes
  init : HostAuthInit
  serverHostKey : Bytes
  serverNonce : Bytes
  username : String
  key : PublicKey
  /-- the binary form of the key -/
  clientPublicKeyOrCert : Bytes
  deriving DecidableEq

/-- The payload of a server's proof. -/
def serverAuthToSign (P : Primitives) (channelBinding : Bytes) (init : HostAuthInit)
    (serverHostKey serverNonce : Bytes) : ServerAuthToSign :=
  ⟨channelBinding, hashHostAuthInit P init, serverHostKey, serverNonce⟩

/-- The payload of a client's proof. -/
def clientAuthToSign (P : Primitives) (channelBinding : Bytes) (init : HostAuthInit)
    (serverHostKey serverNonce : Bytes) (username : String) (clientPublicKeyOrCert : Bytes)
    (clientSigAlg : String) : ClientAuthToSign :=
  ⟨channelBinding, hashHostAuthInit P init, hashServerAuthFields P serverHostKey serverNonce,
    username, clientPublicKeyOrCert, clientSigAlg⟩

/-- What a run shows. -/
inductive Event where
  | hashed (input : Bytes)
  /-- `Sign` in run `n` of `RunClient` -/
  | clientSigned (n : Nat) (proof : ClientProof) (payload signature : Bytes)
  /-- `Sign` in run `n` of `BeginServer` -/
  | serverSigned (n : Nat) (proof : ServerProof) (payload signature : Bytes)
  /-- `Verify` accepts, in a client's run -/
  | clientVerified (n : Nat) (key : PublicKey) (payload signature : Bytes)
  /-- `Verify` accepts, in a server's run -/
  | serverVerified (n : Nat) (key : PublicKey) (payload signature : Bytes)
  | hostKeyAccepted (n : Nat) (referenceIdentity : String) (hostKey : PublicKey)
  | hostKeyRefused (n : Nat) (referenceIdentity : String) (hostKey : PublicKey)
  | clientSent (n : Nat) (frame : AuthFrame)
  | serverSent (n : Nat) (frame : AuthFrame)
  /-- `RunClient` returns without an error -/
  | authenticated (n : Nat) (result : ClientResult)
  /-- `BeginServer` returns without an error -/
  | proven (n : Nat) (proof : ServerProof) (client : VerifiedClient)
  deriving DecidableEq

/-! ## 4. The client -/

inductive ClientPc where
  | idle
  | hostAuthInitSent (cfg : ClientConfig) (channelBinding : Bytes) (init : HostAuthInit)
  | clientAuthSent (cfg : ClientConfig) (serverHostKey clientPublicKey : PublicKey)
  | returned (result : Except String ClientResult)

/-- `RunClient`, to the first receive. -/
def runClient (n : Nat) (cfg : ClientConfig) (channelBinding : Bytes)
    (random : Except String Nonce) (transport : Option String) : ClientPc × List Event :=
  match context "validate client auth config" cfg.validate with
  | .error e => (.returned (.error e), [])
  | .ok _ =>
  match context "generate client nonce" random with
  | .error e => (.returned (.error e), [])
  | .ok clientNonce =>
    let init : HostAuthInit :=
      ⟨protocolVersion, clientNonce.val, cfg.referenceIdentity, Unknown.none⟩
    match sendAuthFrame (.hostAuthInit init) transport with
    | some e => (.returned (.error (wrap "send host auth init" e)), [.hashed init.marshal])
    | none =>
      (.hostAuthInitSent cfg channelBinding init,
        [.hashed init.marshal, .clientSent n (.hostAuthInit init)])

/-- The server's proof, checked: its key and the payload it has signed. -/
def checkServerAuth (P : Primitives) (channelBinding : Bytes) (init : HostAuthInit)
    (serverAuth : ServerAuth) : Except String (PublicKey × Bytes) := do
  let serverHostKey ← context "parse server host key"
    (parsePublicKey P.toSSH serverAuth.serverHostKey)
  context "validate server host key" serverHostKey.validate
  let payload ← context "encode server auth payload"
    (serverAuthToSign P channelBinding init serverAuth.serverHostKey
      serverAuth.serverNonce).marshalBinary
  if serverHostKey.verify P.toEd25519 payload serverAuth.signature then
    return (serverHostKey, payload)
  else throw "server auth signature verification failed"

/-- The client's proof, made with the key its provider has selected: the binary form of the key and
    the payload. -/
def makeClientAuth (P : Primitives) (cfg : ClientConfig) (channelBinding : Bytes)
    (init : HostAuthInit) (serverAuth : ServerAuth) (identity : Except String Keypair) :
    Except String (Keypair × Bytes × Bytes) := do
  let clientKey ← context "select client identity" identity
  context "validate client identity" (clientKey.validate P.toEd25519)
  let blob ← context "encode client public key" (clientKey.publicKey.marshalBinary P.toSSH)
  let payload ← context "encode client auth payload"
    (clientAuthToSign P channelBinding init serverAuth.serverHostKey serverAuth.serverNonce
      cfg.username blob clientKey.publicKey.algorithm).marshalBinary
  return (clientKey, blob, payload)

/-- What the callbacks and the transport answer in the client's second step. -/
structure ClientAnswers where
  /-- `VerifyHostKey` -/
  hostKeyError : Option String
  /-- `ClientIdentity` -/
  identity : Except String Keypair
  transport : Option String

/-- `authenticateClient`, from the first receive to the second. -/
def onServerAuth (P : Primitives) (n : Nat) (cfg : ClientConfig) (channelBinding : Bytes)
    (init : HostAuthInit) (packet : Except String AuthFrame) (answers : ClientAnswers) :
    ClientPc × List Event :=
  match receiveServerAuth packet with
  | .error e => (.returned (.error e), [])
  | .ok serverAuth =>
  match checkServerAuth P channelBinding init serverAuth with
  | .error e => (.returned (.error e), [])
  | .ok (serverHostKey, payload) =>
  let verified : Event := .clientVerified n serverHostKey payload serverAuth.signature
  match answers.hostKeyError with
  | some e =>
    (.returned (.error (wrap "verify server host key" e)),
      [verified, .hostKeyRefused n cfg.referenceIdentity serverHostKey])
  | none =>
  let checked : List Event :=
    [verified, .hostKeyAccepted n cfg.referenceIdentity serverHostKey,
      .hashed (serverAuthFields serverAuth.serverHostKey serverAuth.serverNonce)]
  match makeClientAuth P cfg channelBinding init serverAuth answers.identity with
  | .error e => (.returned (.error e), checked)
  | .ok (clientKey, blob, payload) =>
  let signature := clientKey.sign P.toEd25519 payload
  let request : AuthFrame :=
    .clientAuthRequest ⟨cfg.username, blob, clientKey.publicKey.algorithm, signature⟩
  let signed : Event :=
    .clientSigned n ⟨channelBinding, init, serverAuth.serverHostKey, serverAuth.serverNonce,
      cfg.username, clientKey.publicKey, blob⟩ payload signature
  match sendAuthFrame request answers.transport with
  | some e => (.returned (.error (wrap "send client auth request" e)), checked ++ [signed])
  | none =>
    (.clientAuthSent cfg serverHostKey clientKey.publicKey,
      checked ++ [signed, .clientSent n request])

/-- `authenticateClient`, from the second receive on. -/
def onClientAuthResponse (n : Nat) (cfg : ClientConfig) (serverHostKey clientPublicKey : PublicKey)
    (packet : Except String AuthFrame) : ClientPc × List Event :=
  match receiveClientAuthResponse packet with
  | .error e => (.returned (.error e), [])
  | .ok (.reject _ message) => (.returned (.error s!"server rejected client auth: {message}"), [])
  | .ok .ok =>
    let result : ClientResult :=
      ⟨cfg.referenceIdentity, serverHostKey, cfg.username, clientPublicKey⟩
    (.returned (.ok result), [.authenticated n result])

/-! ## 5. The server -/

inductive ServerPc where
  | idle
  | noiseEstablished (cfg : ServerConfig) (channelBinding : Bytes)
  | serverAuthSent (proof : ServerProof)
  | returned (result : Except String VerifiedClient)

/-- `BeginServer`, to the first receive; `ctxErr` is what the context holds. -/
def beginServer (P : Primitives) (cfg : ServerConfig) (channelBinding : Bytes)
    (ctxErr : Option String) : ServerPc :=
  match context "validate server auth config" (cfg.validate P), ctxErr with
  | .error e, _ => .returned (.error e)
  | .ok _, some e => .returned (.error e)
  | .ok _, none => .noiseEstablished cfg channelBinding

/-- The frame, if it was sent. -/
def sentFrame (n : Nat) (frame : AuthFrame) (transport : Option String) : List Event :=
  if sendAuthFrame frame transport = none then [.serverSent n frame] else []

/-- The server's proof: what it knows, and the payload. -/
def makeServerAuth (P : Primitives) (cfg : ServerConfig) (channelBinding : Bytes)
    (init : HostAuthInit) (random : Except String Nonce) :
    Except String (ServerProof × Bytes) := do
  let blob ← context "encode server host key" (cfg.hostKey.publicKey.marshalBinary P.toSSH)
  let serverNonce ← context "generate server nonce" random
  let payload ← context "encode server auth payload"
    (serverAuthToSign P channelBinding init blob serverNonce.val).marshalBinary
  return (⟨channelBinding, init, cfg.hostKey.publicKey, blob, serverNonce.val⟩, payload)

/-- `verifyClient`, from the first receive to the second. -/
def onHostAuthInit (P : Primitives) (n : Nat) (cfg : ServerConfig) (channelBinding : Bytes)
    (packet : Except String AuthFrame) (random : Except String Nonce)
    (transport : Option String) : ServerPc × List Event :=
  match receiveHostAuthInit packet with
  | .error e => (.returned (.error e), [])
  | .ok init =>
  if init.mygoshAuthVersion ≠ protocolVersion then
    let e := s!"unsupported auth version {init.mygoshAuthVersion.quote}"
    (.returned (.error e), sentFrame n (.authError "unsupported-auth-version" e) transport)
  else
  match makeServerAuth P cfg channelBinding init random with
  | .error e => (.returned (.error e), [.hashed init.marshal])
  | .ok (proof, payload) =>
  let signature := cfg.hostKey.sign P.toEd25519 payload
  let auth : AuthFrame := .serverAuth ⟨proof.serverHostKey, proof.serverNonce, signature⟩
  let signed : List Event := [.hashed init.marshal, .serverSigned n proof payload signature]
  match sendAuthFrame auth transport with
  | some e => (.returned (.error (wrap "send server auth" e)), signed)
  | none =>
    (.serverAuthSent proof,
      signed ++ [.serverSent n auth,
        .hashed (serverAuthFields proof.serverHostKey proof.serverNonce)])

/-- The client's proof, checked: its key and the payload it has signed. -/
def checkClientAuth (P : Primitives) (proof : ServerProof) (request : ClientAuthRequest) :
    Except String (PublicKey × Bytes) := do
  let clientPublicKey ← context "parse client public key"
    (parsePublicKey P.toSSH request.clientPublicKeyOrCert)
  context "validate client public key" clientPublicKey.validate
  if request.clientSigAlg ≠ clientPublicKey.algorithm then
    throw (s!"client signature algorithm {request.clientSigAlg.quote} does not match key algorithm "
      ++ clientPublicKey.algorithm.quote)
  let payload ← context "encode client auth payload"
    (clientAuthToSign P proof.channelBinding proof.init proof.serverHostKey proof.serverNonce
      request.username request.clientPublicKeyOrCert request.clientSigAlg).marshalBinary
  if clientPublicKey.verify P.toEd25519 payload request.signature then
    return (clientPublicKey, payload)
  else throw "client auth signature verification failed"

/-- What `rejectInvalidClient` sends. -/
def rejectFrame : AuthFrame :=
  .clientAuthResponse (.reject "authentication-failed" "authentication failed")

/-- `verifyClient`, from the second receive on. -/
def onClientAuthRequest (P : Primitives) (n : Nat) (proof : ServerProof)
    (packet : Except String AuthFrame) (transport : Option String) : ServerPc × List Event :=
  match receiveClientAuthRequest packet with
  | .error e => (.returned (.error e), [])
  | .ok request =>
  match checkClientAuth P proof request with
  | .error e => (.returned (.error e), sentFrame n rejectFrame transport)
  | .ok (clientPublicKey, payload) =>
  let verified : Event := .serverVerified n clientPublicKey payload request.signature
  match context "construct verified client"
      (newVerifiedClient proof.init.referenceIdentity request.username clientPublicKey
        proof.hostKey) with
  | .error e => (.returned (.error e), verified :: sentFrame n rejectFrame transport)
  | .ok client => (.returned (.ok client), [verified, .proven n proof client])

/-! ## 6. Any number of runs, and the network between them -/

structure Network where
  clients : Nat → ClientPc
  servers : Nat → ServerPc

/-- What can happen next: a call starts, or the network hands a run its next packet. -/
inductive Act where
  | runClient (n : Nat) (cfg : ClientConfig) (channelBinding : Bytes)
      (random : Except String Nonce) (transport : Option String)
  | toClient (n : Nat) (packet : Except String AuthFrame) (answers : ClientAnswers)
  | beginServer (n : Nat) (cfg : ServerConfig) (channelBinding : Bytes) (ctxErr : Option String)
  | toServer (n : Nat) (packet : Except String AuthFrame) (random : Except String Nonce)
      (transport : Option String)

def clientStep (P : Primitives) (n : Nat) (packet : Except String AuthFrame)
    (answers : ClientAnswers) : ClientPc → Option (ClientPc × List Event)
  | .hostAuthInitSent cfg channelBinding init =>
    some (onServerAuth P n cfg channelBinding init packet answers)
  | .clientAuthSent cfg serverHostKey clientPublicKey =>
    some (onClientAuthResponse n cfg serverHostKey clientPublicKey packet)
  | _ => none

def serverStep (P : Primitives) (n : Nat) (packet : Except String AuthFrame)
    (random : Except String Nonce) (transport : Option String) :
    ServerPc → Option (ServerPc × List Event)
  | .noiseEstablished cfg channelBinding =>
    some (onHostAuthInit P n cfg channelBinding packet random transport)
  | .serverAuthSent proof => some (onClientAuthRequest P n proof packet transport)
  | _ => none

def Network.step (P : Primitives) (s : Network) : Act → Option (Network × List Event)
  | .runClient n cfg channelBinding random transport =>
    match s.clients n with
    | .idle =>
      let r := runClient n cfg channelBinding random transport
      some ({ s with clients := Function.update s.clients n r.1 }, r.2)
    | _ => none
  | .toClient n packet answers =>
    (clientStep P n packet answers (s.clients n)).map fun r =>
      ({ s with clients := Function.update s.clients n r.1 }, r.2)
  | .beginServer n cfg channelBinding ctxErr =>
    match s.servers n with
    | .idle =>
      some ({ s with servers :=
        Function.update s.servers n (beginServer P cfg channelBinding ctxErr) }, [])
    | _ => none
  | .toServer n packet random transport =>
    (serverStep P n packet random transport (s.servers n)).map fun r =>
      ({ s with servers := Function.update s.servers n r.1 }, r.2)

/-- No run has started; then everything happens in any order. -/
def network (P : Primitives) : Lts Network Act Event where
  start := ⟨fun _ => .idle, fun _ => .idle⟩
  step := Network.step P

end Mygosh.Auth

/-
  File:      Mygosh/Auth/Agreement.lean
  Subject:   What a verified client and its client agree on, against any network.

  `Accounted` says of each event of a run what the events before it have shown; every step keeps it.
  Agreement is then read off one accepted signature: it was made for the payload the server has
  checked, only a client's run makes such a payload, and the payload leads through the two hashes
  back to everything the client knew when it signed.
-/
import Mygosh.Auth.Roles

namespace Mygosh.Auth

open Keys Proto
open Server (guardWith guardWith_eq_ok)
open Lts (Explained)

variable {P : Primitives}

/-! ## 1. What the parts of a step return -/

section Parts

variable {α β : Type} {x : Except String α} {a : α} {message : String}

theorem bind_eq_ok {f : α → Except String β} {b : β} (h : x >>= f = .ok b) :
    ∃ a, x = .ok a ∧ f a = .ok b := by
  cases x with
  | error e => cases h
  | ok a => exact ⟨a, rfl, h⟩

theorem context_eq_ok : context message x = .ok a ↔ x = .ok a := by
  cases x <;> simp [context, Except.mapError]

variable {channelBinding blob payload : Bytes} {init : HostAuthInit} {serverAuth : ServerAuth}
  {key : PublicKey} {cfg : ClientConfig} {identity : Except String Keypair} {clientKey : Keypair}
  {scfg : ServerConfig} {random : Except String Nonce} {proof : ServerProof}
  {request : ClientAuthRequest}

theorem checkServerAuth_eq_ok
    (h : checkServerAuth P channelBinding init serverAuth = .ok (key, payload)) :
    parsePublicKey P.toSSH serverAuth.serverHostKey = .ok key ∧
      payload = (serverAuthToSign P channelBinding init serverAuth.serverHostKey
        serverAuth.serverNonce).payload := by
  obtain ⟨key', hkey, h⟩ := bind_eq_ok h
  obtain ⟨-, -, h⟩ := bind_eq_ok h
  obtain ⟨payload', hpayload, h⟩ := bind_eq_ok h
  split at h <;> cases h
  exact ⟨context_eq_ok.mp hkey, ServerAuthToSign.marshalBinary_eq_ok (context_eq_ok.mp hpayload)⟩

theorem makeClientAuth_eq_ok
    (h : makeClientAuth P cfg channelBinding init serverAuth identity
      = .ok (clientKey, blob, payload)) :
    clientKey.publicKey.marshalBinary P.toSSH = .ok blob ∧
      payload = (clientAuthToSign P channelBinding init serverAuth.serverHostKey
        serverAuth.serverNonce cfg.username blob clientKey.publicKey.algorithm).payload := by
  obtain ⟨clientKey', -, h⟩ := bind_eq_ok h
  obtain ⟨-, -, h⟩ := bind_eq_ok h
  obtain ⟨blob', hblob, h⟩ := bind_eq_ok h
  obtain ⟨payload', hpayload, h⟩ := bind_eq_ok h
  cases h
  exact ⟨context_eq_ok.mp hblob, ClientAuthToSign.marshalBinary_eq_ok (context_eq_ok.mp hpayload)⟩

theorem makeServerAuth_eq_ok
    (h : makeServerAuth P scfg channelBinding init random = .ok (proof, payload)) :
    proof.init = init ∧ proof.hostKey.marshalBinary P.toSSH = .ok proof.serverHostKey ∧
      payload = (serverAuthToSign P proof.channelBinding proof.init proof.serverHostKey
        proof.serverNonce).payload := by
  obtain ⟨blob', hblob, h⟩ := bind_eq_ok h
  obtain ⟨serverNonce, -, h⟩ := bind_eq_ok h
  obtain ⟨payload', hpayload, h⟩ := bind_eq_ok h
  cases h
  exact ⟨rfl, context_eq_ok.mp hblob,
    ServerAuthToSign.marshalBinary_eq_ok (context_eq_ok.mp hpayload)⟩

theorem checkClientAuth_eq_ok (h : checkClientAuth P proof request = .ok (key, payload)) :
    parsePublicKey P.toSSH request.clientPublicKeyOrCert = .ok key ∧
      payload = (clientAuthToSign P proof.channelBinding proof.init proof.serverHostKey
        proof.serverNonce request.username request.clientPublicKeyOrCert key.algorithm).payload := by
  obtain ⟨key', hkey, h⟩ := bind_eq_ok h
  obtain ⟨-, -, h⟩ := bind_eq_ok h
  split at h
  · cases h
  rename_i halg
  obtain ⟨payload', hpayload, h⟩ := bind_eq_ok h
  split at h <;> cases h
  have hp := ClientAuthToSign.marshalBinary_eq_ok (context_eq_ok.mp hpayload)
  rw [not_not.mp halg] at hp
  exact ⟨context_eq_ok.mp hkey, hp⟩

theorem newVerifiedClient_eq_ok {hostIdentity username : String} {serverKey : PublicKey}
    {client : VerifiedClient}
    (h : newVerifiedClient hostIdentity username key serverKey = .ok client) :
    client = ⟨hostIdentity, username, key, serverKey⟩ := by
  obtain ⟨-, h⟩ := guardWith_eq_ok h
  obtain ⟨-, h⟩ := guardWith_eq_ok h
  obtain ⟨-, -, h⟩ := bind_eq_ok h
  obtain ⟨-, -, h⟩ := bind_eq_ok h
  cases h
  rfl

end Parts

/-! ## 2. What each event needs of the events before it -/

def ServerProof.payload (P : Primitives) (p : ServerProof) : Bytes :=
  (serverAuthToSign P p.channelBinding p.init p.serverHostKey p.serverNonce).payload

def ClientProof.payload (P : Primitives) (p : ClientProof) : Bytes :=
  (clientAuthToSign P p.channelBinding p.init p.serverHostKey p.serverNonce p.username
    p.clientPublicKeyOrCert p.key.algorithm).payload

/-- The client's proof as the server sees it. -/
def ServerProof.counterpart (p : ServerProof) (username : String) (key : PublicKey) (blob : Bytes) :
    ClientProof :=
  ⟨p.channelBinding, p.init, p.serverHostKey, p.serverNonce, username, key, blob⟩

/-- What a server run has done once it has sent its proof. -/
structure ServerDone (P : Primitives) (tr : List Event) (n : Nat) (proof : ServerProof) : Prop where
  init : .hashed proof.init.marshal ∈ tr
  fields : .hashed (serverAuthFields proof.serverHostKey proof.serverNonce) ∈ tr
  blob : proof.hostKey.marshalBinary P.toSSH = .ok proof.serverHostKey
  signed : ∃ signature, .serverSigned n proof (proof.payload P) signature ∈ tr

/-- What a client run has done when it signs. -/
structure ClientReady (P : Primitives) (tr : List Event) (n : Nat) (proof : ClientProof) :
    Prop where
  blob : proof.key.marshalBinary P.toSSH = .ok proof.clientPublicKeyOrCert
  init : .hashed proof.init.marshal ∈ tr
  fields : .hashed (serverAuthFields proof.serverHostKey proof.serverNonce) ∈ tr
  checked : ∃ hostKey signature, parsePublicKey P.toSSH proof.serverHostKey = .ok hostKey ∧
    .clientVerified n hostKey (serverAuthToSign P proof.channelBinding proof.init
      proof.serverHostKey proof.serverNonce).payload signature ∈ tr ∧
    .hostKeyAccepted n proof.init.referenceIdentity hostKey ∈ tr

def Accounted (P : Primitives) (pre : List Event) : Event → Prop
  | .clientSigned n proof payload _ => payload = proof.payload P ∧ ClientReady P pre n proof
  | .serverSigned _ proof payload _ => payload = proof.payload P
  | .clientVerified _ _ payload _ => ∃ p : ServerAuthToSign, payload = p.payload
  | .serverVerified _ _ payload _ => ∃ p : ClientAuthToSign, payload = p.payload
  | .proven n proof client =>
    ServerDone P pre n proof ∧ client.hostIdentity = proof.init.referenceIdentity ∧
      client.serverKey = proof.hostKey ∧
      ∃ blob signature, parsePublicKey P.toSSH blob = .ok client.provenKey ∧
        .serverVerified n client.provenKey
          ((proof.counterpart client.requestedUsername client.provenKey blob).payload P)
          signature ∈ pre
  | _ => True

/-- What a client run knows where it waits. -/
def ClientKnows (tr : List Event) : ClientPc → Prop
  | .hostAuthInitSent cfg _ init =>
    .hashed init.marshal ∈ tr ∧ init.referenceIdentity = cfg.referenceIdentity
  | _ => True

/-- What a server run knows where it waits, and what it has shown when it returns a client. -/
def ServerKnows (P : Primitives) (tr : List Event) (n : Nat) : ServerPc → Prop
  | .serverAuthSent proof => ServerDone P tr n proof
  | .returned (.ok client) => ∃ proof, .proven n proof client ∈ tr
  | _ => True

section Mono

variable {tr evs : List Event} {n : Nat}

theorem ServerDone.append {proof : ServerProof} (h : ServerDone P tr n proof) :
    ServerDone P (tr ++ evs) n proof where
  init := List.mem_append_left _ h.init
  fields := List.mem_append_left _ h.fields
  blob := h.blob
  signed := h.signed.imp fun _ hs => List.mem_append_left _ hs

theorem ClientKnows.append {pc : ClientPc} (h : ClientKnows tr pc) :
    ClientKnows (tr ++ evs) pc := by
  cases pc with
  | hostAuthInitSent cfg binding init => exact ⟨List.mem_append_left _ h.1, h.2⟩
  | _ => trivial

theorem ServerKnows.append {pc : ServerPc} (h : ServerKnows P tr n pc) :
    ServerKnows P (tr ++ evs) n pc := by
  cases pc with
  | serverAuthSent proof => exact ServerDone.append h
  | returned result =>
    cases result with
    | error e => trivial
    | ok client => exact h.imp fun _ hp => List.mem_append_left _ hp
  | _ => trivial

end Mono

/-! ## 3. Every step accounts for what it shows -/

section Steps

variable {tr : List Event} {n : Nat}

theorem runClient_accounted (h : Explained (Accounted P) tr) (cfg : ClientConfig)
    (channelBinding : Bytes) (random : Except String Nonce) (transport : Option String) :
    Explained (Accounted P) (tr ++ (runClient n cfg channelBinding random transport).2) ∧
      ClientKnows (tr ++ (runClient n cfg channelBinding random transport).2)
        (runClient n cfg channelBinding random transport).1 := by
  unfold runClient
  split
  · exact ⟨by simpa using h, trivial⟩
  split
  · exact ⟨by simpa using h, trivial⟩
  rename_i clientNonce _
  have hh := h.concat (e := Event.hashed (HostAuthInit.marshal
    ⟨protocolVersion, clientNonce.val, cfg.referenceIdentity, Unknown.none⟩)) trivial
  dsimp only
  split
  · exact ⟨hh, trivial⟩
  · have hs := hh.concat (e := Event.clientSent n (.hostAuthInit
      ⟨protocolVersion, clientNonce.val, cfg.referenceIdentity, Unknown.none⟩)) trivial
    exact ⟨by simpa using hs, by simp, rfl⟩

theorem onServerAuth_accounted (h : Explained (Accounted P) tr) {cfg : ClientConfig}
    {channelBinding : Bytes} {init : HostAuthInit}
    (hk : ClientKnows tr (.hostAuthInitSent cfg channelBinding init))
    (packet : Except String AuthFrame) (answers : ClientAnswers) :
    Explained (Accounted P) (tr ++ (onServerAuth P n cfg channelBinding init packet answers).2) ∧
      ClientKnows (tr ++ (onServerAuth P n cfg channelBinding init packet answers).2)
        (onServerAuth P n cfg channelBinding init packet answers).1 := by
  obtain ⟨hinit, hidentity⟩ := hk
  unfold onServerAuth
  split
  · exact ⟨by simpa using h, trivial⟩
  rename_i serverAuth _
  split
  · exact ⟨by simpa using h, trivial⟩
  rename_i serverHostKey payload hcheck
  obtain ⟨hparse, hpayload⟩ := checkServerAuth_eq_ok hcheck
  have hv := h.concat (e := Event.clientVerified n serverHostKey payload serverAuth.signature)
    ⟨_, hpayload⟩
  dsimp only
  split
  · have hr := hv.concat (e := Event.hostKeyRefused n cfg.referenceIdentity serverHostKey) trivial
    exact ⟨by simpa using hr, trivial⟩
  have hc := (hv.concat (e := Event.hostKeyAccepted n cfg.referenceIdentity serverHostKey)
    trivial).concat (e := Event.hashed (serverAuthFields serverAuth.serverHostKey
      serverAuth.serverNonce)) trivial
  split
  · exact ⟨by simpa using hc, trivial⟩
  -- only here the client signs: the server's proof is checked and its key accepted
  rename_i clientKey blob payload' hmake
  obtain ⟨hblob, hpayload'⟩ := makeClientAuth_eq_ok hmake
  have hs := hc.concat (e := Event.clientSigned n ⟨channelBinding, init, serverAuth.serverHostKey,
      serverAuth.serverNonce, cfg.username, clientKey.publicKey, blob⟩ payload'
      (clientKey.sign P.toEd25519 payload'))
    ⟨hpayload', hblob, by simp [hinit], by simp,
      serverHostKey, serverAuth.signature, hparse, by simp [hpayload], by simp [hidentity]⟩
  split
  · exact ⟨by simpa using hs, trivial⟩
  · have hsent := hs.concat (e := Event.clientSent n (.clientAuthRequest ⟨cfg.username, blob,
      clientKey.publicKey.algorithm, clientKey.sign P.toEd25519 payload'⟩)) trivial
    exact ⟨by simpa using hsent, trivial⟩

theorem onClientAuthResponse_accounted (h : Explained (Accounted P) tr) (cfg : ClientConfig)
    (serverHostKey clientPublicKey : PublicKey) (packet : Except String AuthFrame) :
    Explained (Accounted P)
        (tr ++ (onClientAuthResponse n cfg serverHostKey clientPublicKey packet).2) ∧
      ClientKnows (tr ++ (onClientAuthResponse n cfg serverHostKey clientPublicKey packet).2)
        (onClientAuthResponse n cfg serverHostKey clientPublicKey packet).1 := by
  unfold onClientAuthResponse
  split
  · exact ⟨by simpa using h, trivial⟩
  · exact ⟨by simpa using h, trivial⟩
  · exact ⟨h.concat trivial, trivial⟩

theorem sentFrame_accounted (h : Explained (Accounted P) tr) (frame : AuthFrame)
    (transport : Option String) : Explained (Accounted P) (tr ++ sentFrame n frame transport) := by
  unfold sentFrame
  split
  · exact h.concat trivial
  · simpa using h

theorem onHostAuthInit_accounted (h : Explained (Accounted P) tr) (cfg : ServerConfig)
    (channelBinding : Bytes) (packet : Except String AuthFrame) (random : Except String Nonce)
    (transport : Option String) :
    Explained (Accounted P)
        (tr ++ (onHostAuthInit P n cfg channelBinding packet random transport).2) ∧
      ServerKnows P (tr ++ (onHostAuthInit P n cfg channelBinding packet random transport).2) n
        (onHostAuthInit P n cfg channelBinding packet random transport).1 := by
  unfold onHostAuthInit
  split
  · exact ⟨by simpa using h, trivial⟩
  rename_i init _
  split
  · exact ⟨sentFrame_accounted h _ _, trivial⟩
  have hh := h.concat (e := Event.hashed init.marshal) trivial
  split
  · exact ⟨hh, trivial⟩
  rename_i proof payload hmake
  obtain ⟨hinit, hblob, hpayload⟩ := makeServerAuth_eq_ok hmake
  have hs := hh.concat (e := Event.serverSigned n proof payload (cfg.hostKey.sign P.toEd25519 payload))
    hpayload
  dsimp only
  split
  · exact ⟨by simpa using hs, trivial⟩
  · have hsent := (hs.concat (e := Event.serverSent n (.serverAuth ⟨proof.serverHostKey,
      proof.serverNonce, cfg.hostKey.sign P.toEd25519 payload⟩)) trivial).concat
      (e := Event.hashed (serverAuthFields proof.serverHostKey proof.serverNonce)) trivial
    refine ⟨by simpa using hsent, by simp [hinit], by simp, hblob, ?_⟩
    exact ⟨cfg.hostKey.sign P.toEd25519 payload, by simp [hpayload, ServerProof.payload]⟩

theorem onClientAuthRequest_accounted (h : Explained (Accounted P) tr) {proof : ServerProof}
    (hk : ServerDone P tr n proof) (packet : Except String AuthFrame)
    (transport : Option String) :
    Explained (Accounted P) (tr ++ (onClientAuthRequest P n proof packet transport).2) ∧
      ServerKnows P (tr ++ (onClientAuthRequest P n proof packet transport).2) n
        (onClientAuthRequest P n proof packet transport).1 := by
  unfold onClientAuthRequest
  split
  · exact ⟨by simpa using h, trivial⟩
  rename_i request _
  split
  · exact ⟨sentFrame_accounted h _ _, trivial⟩
  rename_i key payload hcheck
  obtain ⟨hparse, hpayload⟩ := checkClientAuth_eq_ok hcheck
  have hv := h.concat (e := Event.serverVerified n key payload request.signature) ⟨_, hpayload⟩
  dsimp only
  split
  · exact ⟨by simpa using sentFrame_accounted hv rejectFrame transport, trivial⟩
  rename_i client hclient
  have hc := newVerifiedClient_eq_ok (context_eq_ok.mp hclient)
  subst hc
  have hp := hv.concat
    (e := Event.proven n proof ⟨proof.init.referenceIdentity, request.username, key, proof.hostKey⟩)
    ⟨hk.append, rfl, rfl, request.clientPublicKeyOrCert, request.signature, hparse,
      by simp [hpayload, ClientProof.payload, ServerProof.counterpart]⟩
  exact ⟨by simpa using hp, proof, by simp⟩

end Steps

/-- **The invariant of every run.** -/
structure Inv (P : Primitives) (tr : List Event) (s : Network) : Prop where
  accounted : Explained (Accounted P) tr
  client : ∀ n, ClientKnows tr (s.clients n)
  server : ∀ n, ServerKnows P tr n (s.servers n)

section Runs

variable {tr evs : List Event} {s s' : Network} {n : Nat}

/-- A step of one client's run. -/
theorem Inv.client_step (h : Inv P tr s) {pc : ClientPc}
    (hacc : Explained (Accounted P) (tr ++ evs)) (hk : ClientKnows (tr ++ evs) pc) :
    Inv P (tr ++ evs) { s with clients := Function.update s.clients n pc } where
  accounted := hacc
  client m := by
    by_cases hm : m = n
    · subst hm
      simpa using hk
    · simpa [Function.update_of_ne hm] using (h.client m).append
  server m := (h.server m).append

/-- A step of one server's run. -/
theorem Inv.server_step (h : Inv P tr s) {pc : ServerPc}
    (hacc : Explained (Accounted P) (tr ++ evs)) (hk : ServerKnows P (tr ++ evs) n pc) :
    Inv P (tr ++ evs) { s with servers := Function.update s.servers n pc } where
  accounted := hacc
  client m := (h.client m).append
  server m := by
    by_cases hm : m = n
    · subst hm
      simpa using hk
    · simpa [Function.update_of_ne hm] using (h.server m).append

theorem beginServer_knows (cfg : ServerConfig) (channelBinding : Bytes) (ctxErr : Option String) :
    ServerKnows P tr n (beginServer P cfg channelBinding ctxErr) := by
  unfold beginServer
  split <;> trivial

theorem Inv.step (h : Inv P tr s) {a : Act} (hs : (network P).step s a = some (s', evs)) :
    Inv P (tr ++ evs) s' := by
  cases a with
  | runClient n cfg channelBinding random transport =>
    simp only [network, Network.step] at hs
    split at hs <;> cases hs
    have hr := runClient_accounted (n := n) h.accounted cfg channelBinding random transport
    exact h.client_step hr.1 hr.2
  | toClient n packet answers =>
    obtain ⟨r, hr, heq⟩ := Option.map_eq_some_iff.mp hs
    cases heq
    have hk := h.client n
    cases hpc : s.clients n with
    | hostAuthInitSent cfg channelBinding init =>
      rw [hpc] at hr hk
      cases hr
      have hr := onServerAuth_accounted (n := n) h.accounted hk packet answers
      exact h.client_step hr.1 hr.2
    | clientAuthSent cfg serverHostKey clientPublicKey =>
      rw [hpc] at hr
      cases hr
      have hr := onClientAuthResponse_accounted (n := n) h.accounted cfg serverHostKey
        clientPublicKey packet
      exact h.client_step hr.1 hr.2
    | _ => rw [hpc] at hr; cases hr
  | beginServer n cfg channelBinding ctxErr =>
    simp only [network, Network.step] at hs
    split at hs <;> cases hs
    exact h.server_step (by simpa using h.accounted) (beginServer_knows cfg channelBinding ctxErr)
  | toServer n packet random transport =>
    obtain ⟨r, hr, heq⟩ := Option.map_eq_some_iff.mp hs
    cases heq
    have hk := h.server n
    cases hpc : s.servers n with
    | noiseEstablished cfg channelBinding =>
      rw [hpc] at hr
      cases hr
      have hr := onHostAuthInit_accounted (n := n) h.accounted cfg channelBinding packet random
        transport
      exact h.server_step hr.1 hr.2
    | serverAuthSent proof =>
      rw [hpc] at hr hk
      cases hr
      have hr := onClientAuthRequest_accounted (n := n) h.accounted hk packet transport
      exact h.server_step hr.1 hr.2
    | _ => rw [hpc] at hr; cases hr

theorem accounted_run {C : Network → Act → Prop} (h : (network P).Run C tr s) : Inv P tr s :=
  have h0 : Inv P [] (network P).start := ⟨Explained.nil, fun _ => trivial, fun _ => trivial⟩
  h.invariant h0 fun _ hinv _ hs => hinv.step hs

end Runs

/-! ## 4. Agreement -/

/-- The key and the payload of a signature that is made. -/
def Event.signs : Event → Option (Bytes × Bytes)
  | .clientSigned _ proof payload _ => some (proof.key.bytes, payload)
  | .serverSigned _ proof payload _ => some (proof.hostKey.bytes, payload)
  | _ => none

/-- The key and the payload of a signature that is accepted. -/
def Event.accepts : Event → Option (Bytes × Bytes)
  | .clientVerified _ key payload _ => some (key.bytes, payload)
  | .serverVerified _ key payload _ => some (key.bytes, payload)
  | _ => none

/-- **Ideal signatures.** A payload is accepted for the key of an honest owner only if the owner has
    signed it; and what an honest owner signs is what a run of the two roles signs. -/
def IdealSignatures (honest : Bytes → Prop) (tr : List Event) : Prop :=
  Explained (fun pre e => ∀ key payload, e.accepts = some (key, payload) → honest key →
    ∃ e' ∈ pre, e'.signs = some (key, payload)) tr

/-- The inputs that are hashed have different digests. -/
def CollisionFree (P : Primitives) (tr : List Event) : Prop :=
  ∀ x y, .hashed x ∈ tr → .hashed y ∈ tr → P.sha256 x = P.sha256 y → x = y

/-- Run `n` of `RunClient` signed `signed` for the same connection, user and exchange as the server's
    `proof` is of, after the events `before`: in them it had accepted the server's signature, and
    `VerifyHostKey` the server's key. -/
structure Agrees (P : Primitives) (before : List Event) (proof : ServerProof)
    (client : VerifiedClient) (n : Nat) (signed : ClientProof) : Prop where
  key : signed.key.equal client.provenKey = true
  channelBinding : signed.channelBinding = proof.channelBinding
  username : signed.username = client.requestedUsername
  init : signed.init = proof.init
  hostIdentity : signed.init.referenceIdentity = client.hostIdentity
  serverHostKey : signed.serverHostKey = proof.serverHostKey
  serverNonce : signed.serverNonce = proof.serverNonce
  checked : ∃ hostKey signature, hostKey.equal client.serverKey = true ∧
    .clientVerified n hostKey (proof.payload P) signature ∈ before ∧
    .hostKeyAccepted n client.hostIdentity hostKey ∈ before

section Agreement

variable {tr pre : List Event} {s : Network} {n : Nat}

/-- A payload leads back to what its client knew. -/
theorem counterpart_of_payload {signed : ClientProof} {proof : ServerProof} {username : String}
    {key : PublicKey} {blob : Bytes} (hcf : CollisionFree P tr) (hinit : .hashed signed.init.marshal ∈ tr)
    (hfields : .hashed (serverAuthFields signed.serverHostKey signed.serverNonce) ∈ tr)
    (hinit' : .hashed proof.init.marshal ∈ tr)
    (hfields' : .hashed (serverAuthFields proof.serverHostKey proof.serverNonce) ∈ tr)
    (h : signed.payload P = (proof.counterpart username key blob).payload P) :
    signed.channelBinding = proof.channelBinding ∧ signed.init = proof.init ∧
      signed.serverHostKey = proof.serverHostKey ∧ signed.serverNonce = proof.serverNonce ∧
      signed.username = username ∧ signed.clientPublicKeyOrCert = blob := by
  have hp := ClientAuthToSign.payload_inj h
  simp only [clientAuthToSign, ServerProof.counterpart, ClientAuthToSign.mk.injEq] at hp
  obtain ⟨hbinding, hhash, hhash', husername, hblob, -⟩ := hp
  have hm := HostAuthInit.marshal_inj (hcf _ _ hinit hinit' hhash)
  obtain ⟨hkey, hnonce⟩ := serverAuthFields_inj (hcf _ _ hfields hfields' hhash')
  exact ⟨hbinding, hm, hkey, hnonce, husername, hblob⟩

/-- The key that is parsed from the binary form of a key. -/
theorem equal_of_parse {key parsed : PublicKey} {blob : Bytes}
    (hblob : key.marshalBinary P.toSSH = .ok blob) (hparse : parsePublicKey P.toSSH blob = .ok parsed) :
    key.equal parsed = true ∧ parsed.equal key = true := by
  cases Except.ok.inj (hparse.symm.trans (parsePublicKey_marshalBinary hblob))
  simp [PublicKey.equal]

/-- A signature accepted as a client's proof was made by a run of `RunClient`. -/
theorem client_signed_of_accepted {key : PublicKey} {payload signature : Bytes}
    {honest : Bytes → Prop} (hinv : Explained (Accounted P) tr)
    (hideal : IdealSignatures honest tr) (hmem : .serverVerified n key payload signature ∈ tr)
    (hk : honest key.bytes) :
    ∃ m signed signature', .clientSigned m signed payload signature' ∈ tr := by
  obtain ⟨pre, post, rfl, hsigned⟩ := hideal.of_mem hmem
  obtain ⟨e, he, hs⟩ := hsigned _ _ rfl hk
  have hmem' : e ∈ pre ++ .serverVerified n key payload signature :: post :=
    List.mem_append_left _ he
  cases e with
  | clientSigned m signed p signature' =>
    obtain ⟨-, rfl⟩ := Prod.mk.inj (Option.some.inj hs)
    exact ⟨m, signed, signature', hmem'⟩
  | serverSigned m proof p signature' =>
    -- a server's payload has another context than the one the server has checked
    obtain ⟨-, rfl⟩ := Prod.mk.inj (Option.some.inj hs)
    obtain ⟨-, -, -, q, hq⟩ := hinv.of_mem hmem
    obtain ⟨_, _, _, hp⟩ := hinv.of_mem hmem'
    exact absurd (hp.symm.trans hq) (server_payload_ne_client_payload _ _)
  | _ => cases hs

/-- **Agreement at the return of `BeginServer`.** -/
theorem agrees_of_proven {proof : ServerProof} {client : VerifiedClient} {honest : Bytes → Prop}
    (hinv : Explained (Accounted P) pre) (hcf : CollisionFree P pre)
    (hideal : IdealSignatures honest pre) (hproven : Accounted P pre (.proven n proof client))
    (hk : honest client.provenKey.bytes) :
    ∃ before m signed payload signature after,
      pre = before ++ .clientSigned m signed payload signature :: after ∧
        Agrees P before proof client m signed := by
  obtain ⟨hdone, hidentity, hserver, blob, signature, hparse, hverified⟩ := hproven
  obtain ⟨m, signed, signature', hmem⟩ := client_signed_of_accepted hinv hideal hverified hk
  obtain ⟨before, after, rfl, hpayload, hready⟩ := hinv.of_mem hmem
  obtain ⟨hbinding, hinit, hkey, hnonce, husername, hblob⟩ :=
    counterpart_of_payload hcf (List.mem_append_left _ hready.init)
      (List.mem_append_left _ hready.fields) hdone.init hdone.fields hpayload.symm
  refine ⟨before, m, signed, _, signature', after, rfl,
    (equal_of_parse (hblob ▸ hready.blob) hparse).1, hbinding, husername, hinit, ?_,
    hkey, hnonce, ?_⟩
  · rw [hinit, hidentity]
  -- the key the client has parsed from the server's blob is the server's key
  obtain ⟨hostKey, serverSignature, hhost, hchecked, haccepted⟩ := hready.checked
  refine ⟨hostKey, serverSignature, ?_, ?_, ?_⟩
  · rw [hserver]
    exact (equal_of_parse hdone.blob (hkey ▸ hhost)).2
  · rw [hbinding, hinit, hkey, hnonce] at hchecked
    exact hchecked
  · rw [hinit, ← hidentity] at haccepted
    exact haccepted

end Agreement

/-- **Authentication agreement.** In every run against any network, a client that `BeginServer`
    returns with the key of an honest owner was signed for by a run of `RunClient`, for the same
    connection, user and exchange; no run of `RunClient` signs whose `VerifyHostKey` has not
    accepted; and no payload that is accepted as one role's proof is ever signed as the other's. -/
theorem authentication_agreement (P : Primitives) (C : Network → Act → Prop)
    (honest : Bytes → Prop) {tr : List Event} {s : Network} (hrun : (network P).Run C tr s)
    (hcf : CollisionFree P tr) (hideal : IdealSignatures honest tr) :
    (∀ n client, s.servers n = .returned (.ok client) → honest client.provenKey.bytes →
      ∃ pre proof post, tr = pre ++ .proven n proof client :: post ∧
        proof.hostKey = client.serverKey ∧
        proof.hostKey.marshalBinary P.toSSH = .ok proof.serverHostKey ∧
        (∃ signature, .serverSigned n proof (proof.payload P) signature ∈ pre) ∧
        ∃ before m signed payload signature after,
          pre = before ++ .clientSigned m signed payload signature :: after ∧
            Agrees P before proof client m signed) ∧
    (∀ pre n signed payload signature post,
      tr = pre ++ .clientSigned n signed payload signature :: post →
        ∃ hostKey, .hostKeyAccepted n signed.init.referenceIdentity hostKey ∈ pre) ∧
    (∀ n key payload signature, .serverVerified n key payload signature ∈ tr →
      ∀ m proof signature', .serverSigned m proof payload signature' ∉ tr) ∧
    ∀ n key payload signature, .clientVerified n key payload signature ∈ tr →
      ∀ m signed signature', .clientSigned m signed payload signature' ∉ tr := by
  have hinv := accounted_run hrun
  refine ⟨fun n client hret hk => ?_, fun pre n signed payload signature post heq => ?_,
    fun n key payload signature hv m proof signature' hs => ?_,
    fun n key payload signature hv m signed signature' hs => ?_⟩
  · have hknows := hinv.server n
    rw [hret] at hknows
    obtain ⟨proof, hmem⟩ := hknows
    obtain ⟨pre, post, rfl, hproven⟩ := hinv.accounted.of_mem hmem
    have hcf' : CollisionFree P pre := fun x y hx hy =>
      hcf x y (List.mem_append_left _ hx) (List.mem_append_left _ hy)
    exact ⟨pre, proof, post, rfl, hproven.2.2.1.symm, hproven.1.blob, hproven.1.signed,
      agrees_of_proven hinv.accounted.left hcf' hideal.left hproven hk⟩
  · obtain ⟨-, hready⟩ := hinv.accounted pre _ post heq
    obtain ⟨hostKey, -, -, -, haccepted⟩ := hready.checked
    exact ⟨hostKey, haccepted⟩
  · obtain ⟨-, -, -, q, hq⟩ := hinv.accounted.of_mem hv
    obtain ⟨_, _, _, hp⟩ := hinv.accounted.of_mem hs
    exact server_payload_ne_client_payload _ _ (hp.symm.trans hq)
  · obtain ⟨-, -, -, q, hq⟩ := hinv.accounted.of_mem hv
    obtain ⟨-, -, -, hp, -⟩ := hinv.accounted.of_mem hs
    exact server_payload_ne_client_payload _ _ (hq.symm.trans hp)

/-- The first bytes of an Ed25519 key on the wire: `ssh-ed25519` and the length of the key, each with
    its length before it. -/
def blobHeader : Bytes :=
  [0, 0, 0, 11, 115, 115, 104, 45, 101, 100, 50, 53, 53, 49, 57, 0, 0, 0, 32]

/-- SSH keys as they are on the wire, as far as they are Ed25519 keys. -/
def wireKeys : SSH where
  parse b :=
    if b.take 19 = blobHeader ∧ b.length = 51 then .ok ⟨keyAlgoED25519, .ed25519 (b.drop 19)⟩
    else .error "ssh: no Ed25519 key"
  marshal key := if key.length = 32 then .ok (blobHeader ++ key) else .error "ssh: invalid size"
  parse_marshal := by
    intro key blob (hlen : key.length = 32) h
    rw [if_pos hlen] at h
    cases h
    simp [blobHeader, hlen]

/-- Primitives to evaluate a run with: the last bytes of the input as its digest, and a signature
    that shows the key and the payload. -/
def plainPrimitives : Primitives where
  toSSH := wireKeys
  publicOf seed := seed
  sign seed msg := seed ++ msg
  verify key msg sig := sig = key ++ msg
  sha256 b := (b.reverse ++ List.replicate digestSize 0).take digestSize
  sha256_size b := by simp

/-- One run of each role, with every frame delivered as it was sent. -/
def honestRun : List Act :=
  let binding : Bytes := List.replicate 32 7
  let host : Keypair := ⟨List.replicate 32 1, List.replicate 32 1, "host"⟩
  let user : Keypair := ⟨List.replicate 32 2, List.replicate 32 2, "user"⟩
  let clientNonce : Nonce := ⟨List.replicate nonceSize 3, by simp⟩
  let serverNonce : Nonce := ⟨List.replicate nonceSize 4, by simp⟩
  let init : HostAuthInit := ⟨protocolVersion, clientNonce.val, "host", Unknown.none⟩
  let hostBlob := blobHeader ++ host.publicBytes
  let userBlob := blobHeader ++ user.publicBytes
  let P := plainPrimitives
  let serverSig := host.sign P.toEd25519
    (serverAuthToSign P binding init hostBlob serverNonce.val).payload
  let clientSig := user.sign P.toEd25519
    (clientAuthToSign P binding init hostBlob serverNonce.val "user" userBlob
      algorithmEd25519).payload
  [.runClient 0 ⟨"host", "user", true, true⟩ binding (.ok clientNonce) none,
    .beginServer 0 ⟨host⟩ binding none,
    .toServer 0 (.ok (.hostAuthInit init)) (.ok serverNonce) none,
    .toClient 0 (.ok (.serverAuth ⟨hostBlob, serverNonce.val, serverSig⟩)) ⟨none, .ok user, none⟩,
    .toServer 0 (.ok (.clientAuthRequest ⟨"user", userBlob, algorithmEd25519, clientSig⟩))
      (.ok serverNonce) none]

/-- Every acceptance comes after a signature, and the inputs that are hashed have different
    digests. -/
def Event.idealAt (pre : List Event) (e : Event) : Bool :=
  e.accepts.isNone || pre.any fun e' => e'.signs = e.accepts

def Event.input : Event → Option Bytes
  | .hashed x => some x
  | _ => none

def collisionFreeCheck (P : Primitives) (tr : List Event) : Bool :=
  (tr.filterMap Event.input).all fun x => (tr.filterMap Event.input).all fun y =>
    P.sha256 x ≠ P.sha256 y || x = y

theorem IdealSignatures.of_check {tr : List Event}
    (h : Lts.explainedFrom Event.idealAt [] tr = true) : IdealSignatures (fun _ => True) tr := by
  refine Lts.explained_of_check (fun pre e he key payload hacc _ => ?_) Explained.nil h
  simpa [Event.idealAt, hacc] using he

theorem CollisionFree.of_check {tr : List Event} (h : collisionFreeCheck P tr = true) :
    CollisionFree P tr := by
  intro x y hx hy heq
  have hx' : x ∈ tr.filterMap Event.input := List.mem_filterMap.mpr ⟨_, hx, rfl⟩
  have hy' : y ∈ tr.filterMap Event.input := List.mem_filterMap.mpr ⟨_, hy, rfl⟩
  have := List.all_eq_true.mp (List.all_eq_true.mp h x hx') y hy'
  simpa [heq] using this

theorem authentication_agreement_honest :
    ∃ tr s client, (network plainPrimitives).Run (fun _ _ => True) tr s ∧
      CollisionFree plainPrimitives tr ∧ IdealSignatures (fun _ => True) tr ∧
      s.servers 0 = .returned (.ok client) ∧ client.requestedUsername = "user" ∧
      ∃ before proof m signed, Agrees plainPrimitives before proof client m signed := by
  obtain ⟨tr, s, hrun, hideal, hcf, hret⟩ := Lts.exists_run_of_replay
    (L := network plainPrimitives) (C := fun _ _ => True)
    (P := fun tr s => Lts.explainedFrom Event.idealAt [] tr ∧
      collisionFreeCheck plainPrimitives tr ∧
      (match s.servers 0 with
      | .returned (.ok client) => client.requestedUsername = "user"
      | _ => false : Bool)) honestRun (by decide +kernel)
  split at hret
  · rename_i client hclient
    have hideal := IdealSignatures.of_check hideal
    have hcf := CollisionFree.of_check hcf
    obtain ⟨pre, proof, post, -, -, -, -, before, m, signed, -, -, -, -, hagrees⟩ :=
      (authentication_agreement plainPrimitives _ _ hrun hcf hideal).1 0 client hclient trivial
    exact ⟨tr, s, client, hrun, hcf, hideal, hclient, of_decide_eq_true hret, before, proof, m,
      signed, hagrees⟩
  · cases hret

end Mygosh.Auth

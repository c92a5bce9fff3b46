/-
  File:      Mygosh/Transport/Wire.lean
  Subject:   The connection of two sessions as it is built: `SendProto` and `ReceiveProto`
             (`lib/wire/proto.go`) over a `Transport`.

  In `Mygosh/Link/Pair.lean` two sessions are joined by a FIFO of envelopes. Here they are checked,
  marshalled, sealed and cut into chunks of a byte stream that may break off anywhere.

  * `onWire` -- the stream; `sendProtos_spec`, `receiverChoices_spec` -- how it is written and read;
  * `link_over_transport` -- what a session writes is never refused, and arrives as the FIFO has it.
-/
import Mygosh.Link.Pair
import Mygosh.Session.Sendable
import Mygosh.Transport.Frames

namespace Mygosh.Transport

open Proto (Bytes)
open Bincoder
open Mux (Envelope Choice maxPayloadSize tagSize)

/-! ## 1. Messages -/

/-- `proto.Marshal` and `proto.Unmarshal` for envelopes. -/
structure Codec where
  marshal : Envelope → Bytes
  unmarshal : Bytes → Option Envelope

/-- The encoding of an envelope has its `proto.Size` and is read back. -/
structure Codec.Lawful (P : Codec) (env : Envelope) : Prop where
  length : (P.marshal env).length = env.size
  unmarshal : P.unmarshal (P.marshal env) = some env

/-- `validate message`, or `send message (n bytes)` with an error of the transport. -/
inductive SendProtoErr where
  | validate
  | send (n : Nat) (e : SendErr)
  deriving DecidableEq, Repr

/-- The error of the transport, `wire: empty message`, `decode message` or `validate message`. -/
inductive ReceiveProtoErr where
  | frame (e : RecvErr)
  | empty
  | decode
  | validate
  deriving DecidableEq, Repr

/-- `SendProto`. -/
def sendProto (A : Aead) (P : Codec) (t : Tx) (env : Envelope) : Except SendProtoErr Unit × Tx :=
  if env.valid then
    match sendFrame A t (P.marshal env) with
    | (.ok _, t') => (.ok (), t')
    | (.error e, t') => (.error (.send (P.marshal env).length e), t')
  else (.error .validate, t)

/-- `ReceiveProto`. -/
def receiveProto (A : Aead) (P : Codec) (t : Rx) : Except ReceiveProtoErr Envelope × Rx :=
  match receiveFrame A t with
  | (.error e, t') => (.error (.frame e), t')
  | (.ok [], t') => (.error .empty, t')
  | (.ok (b :: packet), t') =>
    match P.unmarshal (b :: packet) with
    | none => (.error .decode, t')
    | some env => (if env.valid then .ok env else .error .validate, t')

/-- The sends of `writerLoop`, which ends with the first one that fails. -/
def sendProtos (A : Aead) (P : Codec) : Tx → List Envelope → List (Except SendProtoErr Unit) × Tx
  | t, [] => ([], t)
  | t, env :: envs =>
    match sendProto A P t env with
    | (.ok _, t') => (.ok () :: (sendProtos A P t' envs).1, (sendProtos A P t' envs).2)
    | (.error e, t') => ([.error e], t')

/-- What `receiverLoop` sees of an error of `ReceiveProto`. -/
def ReceiveProtoErr.choice : ReceiveProtoErr → Choice
  | .frame (.chunk e) => endChoice e
  | _ => .readErr

/-- What `receiverLoop` gets from its connection in so many calls; it ends with the first error. -/
def receiverChoices (A : Aead) (P : Codec) : Nat → Rx → List Choice
  | 0, _ => []
  | k + 1, t =>
    match receiveProto A P t with
    | (.ok env, t') => .frame env :: receiverChoices A P k t'
    | (.error e, _) => [e.choice]

/-! ## 2. The stream -/

/-- The stream of envelopes that are sent from the nonce `n` on. -/
def onWire (A : Aead) (P : Codec) : Nat → List Envelope → Bytes
  | _, [] => []
  | n, env :: envs => prefixed (A.encrypt n (P.marshal env)) ++ onWire A P (n + 1) envs

section Stream

variable {A : Aead} {P : Codec} {n : Nat} {env : Envelope} {envs : List Envelope}

/-- What the session guarantees of its frames, and the encoding of their encodings. -/
structure Sound (P : Codec) (env : Envelope) : Prop extends P.Lawful env where
  sendable : env.sendable = true

theorem Sound.fits (h : Sound P env) : Fits (P.marshal env) := by
  unfold Fits
  rw [h.length]
  exact (Mux.sendable_iff.mp h.sendable).2

/-- **All is sent.** -/
theorem sendProtos_spec {conn : Sink UInt8} (hconn : conn.Steady) (hs : ∀ env ∈ envs, Sound P env)
    (hn : n + envs.length ≤ maxNonce + 1) :
    (∀ r ∈ (sendProtos A P ⟨n, conn⟩ envs).1, r = .ok ()) ∧
    (sendProtos A P ⟨n, conn⟩ envs).2.conn.written = conn.written ++ onWire A P n envs := by
  induction envs generalizing n conn with
  | nil => exact ⟨nofun, (List.append_nil _).symm⟩
  | cons env envs ih =>
    obtain ⟨henv, hrest⟩ := List.forall_mem_cons.mp hs
    have hvalid := (Mux.sendable_iff.mp henv.sendable).1
    rw [List.length_cons] at hn
    rcases sendFrame_cases (A := A) n hconn (P.marshal env) with ⟨hmax, -⟩ |
      ⟨-, -, conn', hsend, hwritten, hsteady⟩ | ⟨-, hfits, -⟩
    · omega
    · have hproto : sendProto A P ⟨n, conn⟩ env = (.ok (), ⟨n + 1, conn'⟩) := by
        simp only [sendProto, if_pos hvalid, hsend]
      obtain ⟨hok, hstream⟩ := ih (n := n + 1) hsteady hrest (by omega)
      simp only [sendProtos, hproto]
      refine ⟨List.forall_mem_cons.mpr ⟨rfl, hok⟩, ?_⟩
      rw [hstream, hwritten, List.append_assoc]
      rfl
    · exact absurd henv.fits hfits

theorem size_pos (h : env.valid = true) : 0 < env.size := by
  cases env with
  | unset => cases h
  | _ => simp only [Envelope.size, Mux.sizeDelimited]; omega

/-- A stream that breaks off before the end of a chunk holds no chunk. -/
theorem chunk_prefix {b c rest : Bytes} (hc : c.length ≤ maxPayloadSize)
    (hb : b <+: prefixed c ++ rest) :
    (∃ b', b = prefixed c ++ b' ∧ b' <+: rest) ∨ chunk b = none := by
  cases hchunk : chunk b with
  | none => exact .inr rfl
  | some r =>
    obtain ⟨c', b'⟩ := r
    obtain ⟨w, ⟨rfl, hc'⟩, rfl⟩ := (reads_chunk b c' b').mp hchunk
    obtain ⟨more, hmore⟩ := hb
    rw [List.append_assoc] at hmore
    obtain ⟨rfl, -, hrest⟩ := reads_chunk.unique ⟨rfl, hc'⟩ ⟨rfl, hc⟩ hmore
    exact .inl ⟨b', rfl, more, hrest⟩

/-- A chunk that is not complete ends the loop. -/
theorem receiverChoices_fails {k : Nat} {conn : Source UInt8} (h : chunk conn.data = none) :
    ∃ e, receiverChoices A P (k + 1) ⟨n, conn⟩ = [endChoice e] ∧ (conn.data = [] → e = .eof) := by
  obtain ⟨e, conn', hrecv, he⟩ := recvChunk_fails h
  refine ⟨e, ?_, fun hnil => he.mpr (.inl hnil)⟩
  simp only [receiverChoices, receiveProto, receiveFrame, hrecv, ReceiveProtoErr.choice]

/-- A sound envelope that is complete is received. -/
theorem receiveProto_sound (h : Sound P env) (hn : n ≤ maxNonce) {conn : Source UInt8} {rest : Bytes}
    (hdata : conn.data = prefixed (A.encrypt n (P.marshal env)) ++ rest) :
    ∃ conn', conn'.data = rest ∧ receiveProto A P ⟨n, conn⟩ = (.ok env, ⟨n + 1, conn'⟩) := by
  obtain ⟨conn', hrest, ⟨-, hrecv⟩ | ⟨hne, -⟩⟩ := receiveFrame_cases (m := n) hn h.fits hdata
  · refine ⟨conn', hrest, ?_⟩
    cases hp : P.marshal env with
    | nil =>
      -- no message of the schema is empty
      have hsize := h.length
      rw [hp] at hsize
      exact absurd hsize.symm (size_pos (Mux.sendable_iff.mp h.sendable).1).ne'
    | cons b packet =>
      have hread := h.unmarshal
      rw [hp] at hread hrecv
      simp only [receiveProto, hrecv, hread, (Mux.sendable_iff.mp h.sendable).1, if_true]
  · exact absurd rfl hne

/-- **What is complete is received**, in order; at the end of the whole stream `receiverLoop` sees its
    end. -/
theorem receiverChoices_spec {conn : Source UInt8} (hs : ∀ env ∈ envs, Sound P env)
    (hn : n + envs.length ≤ maxNonce + 1) (hdata : conn.data <+: onWire A P n envs) :
    ∃ k e, receiverChoices A P (envs.length + 1) ⟨n, conn⟩ =
        (envs.take k).map .frame ++ [endChoice e] ∧
      (conn.data = onWire A P n envs → envs.length ≤ k ∧ e = .eof) := by
  induction envs generalizing n conn with
  | nil =>
    have hnil : conn.data = [] := List.prefix_nil.mp hdata
    obtain ⟨e, hend, he⟩ := receiverChoices_fails (A := A) (P := P) (by rw [hnil]; rfl)
    exact ⟨0, e, hend, fun _ => ⟨le_rfl, he hnil⟩⟩
  | cons env envs ih =>
    obtain ⟨henv, hrest⟩ := List.forall_mem_cons.mp hs
    rw [List.length_cons] at hn ⊢
    have hlen : (A.encrypt n (P.marshal env)).length ≤ maxPayloadSize :=
      (A.length_encrypt n _).trans_le henv.fits
    rcases chunk_prefix hlen hdata with ⟨b, hb, hpre⟩ | hnone
    · obtain ⟨conn', hdata', hrecv⟩ := receiveProto_sound henv (by omega) hb
      obtain ⟨k, e, hchoices, hend⟩ := ih (n := n + 1) hrest (by omega)
        (show conn'.data <+: onWire A P (n + 1) envs from hdata' ▸ hpre)
      refine ⟨k + 1, e, ?_, fun hall => ?_⟩
      · rw [receiverChoices, hrecv, List.take_succ_cons, List.map_cons, List.cons_append, ← hchoices]
      · obtain ⟨hk, he⟩ := hend (hdata'.trans (List.append_cancel_left (hb.symm.trans hall)))
        exact ⟨Nat.succ_le_succ hk, he⟩
    · obtain ⟨e, hend, -⟩ := receiverChoices_fails (A := A) (P := P) hnone
      refine ⟨0, e, hend, fun hall => ?_⟩
      rw [hall, onWire, reads_chunk.of_word ⟨rfl, hlen⟩] at hnone
      cases hnone

end Stream

/-! ## 3. Two sessions over a transport -/

section Sessions

open Mux (Prepared Machine Act Event connection frames narrow activation openChannel)

/-- **The transport is the FIFO that joins two sessions.** Every `SendProto` of a session succeeds, and
    its peer's `receiverLoop`, from as much of the stream as arrives and in whatever pieces, gets the
    first of the frames that were written, in order, and then an error; with the whole stream it gets
    all of them and a clean end. -/
theorem link_over_transport {cfg : Side → Prepared} {C : Duplex Machine Envelope → Side × Act → Prop}
    {tr : List (Side × Event)} {d : Duplex Machine Envelope} (h : (connection cfg).Run C tr d)
    {x : Side} {envs : List Envelope} (hx : frames (Duplex.events x tr) = envs) {A : Aead} {P : Codec}
    (hP : ∀ env ∈ envs, P.Lawful env) (hn : envs.length ≤ maxNonce + 1) {conn : Sink UInt8}
    (hconn : conn.Steady) (hnew : conn.written = []) {r : Source UInt8}
    (hr : r.data <+: (sendProtos A P ⟨0, conn⟩ envs).2.conn.written) :
    (∀ result ∈ (sendProtos A P ⟨0, conn⟩ envs).1, result = .ok ()) ∧
    ∃ k e, receiverChoices A P (envs.length + 1) ⟨0, r⟩ =
        (envs.take k).map .frame ++ [endChoice e] ∧
      (r.data = (sendProtos A P ⟨0, conn⟩ envs).2.conn.written → envs.length ≤ k ∧ e = .eof) := by
  have hparty := Mux.link_party h x
  have hsound : ∀ env ∈ envs, Sound P env := by
    intro env henv
    obtain ⟨⟨w, env'⟩, hw, rfl⟩ := List.mem_map.mp (hx ▸ henv)
    obtain ⟨hlt, hplace, rfl⟩ := ((Mux.outbox_run hparty).sent w env').mp hw
    refine ⟨hP _ henv, (Mux.sendable_run hparty).queued w hlt ?_ ?_⟩ <;> rw [hplace] <;> nofun
  obtain ⟨hok, hwritten⟩ := sendProtos_spec (A := A) (n := 0) hconn hsound (by omega)
  rw [hnew, List.nil_append] at hwritten
  rw [hwritten] at hr ⊢
  exact ⟨hok, receiverChoices_spec hsound (by omega) hr⟩

/-- The open of a first channel, and its encoding. -/
def firstOpen : Envelope := .channelOpen ⟨"t", 0, 4, 4, []⟩

def firstOpenBytes : Bytes := [0x0A, 0x07, 0x0A, 0x01, 0x74, 0x18, 0x04, 0x20, 0x04]

/-- `proto.Marshal` and `proto.Unmarshal` at this envelope. -/
def firstOpenCodec : Codec where
  marshal env := if env = firstOpen then firstOpenBytes else []
  unmarshal bytes := if bytes = firstOpenBytes then some firstOpen else none

/-- The open of a channel, in the clear and whole, arrives. -/
theorem link_over_transport_open : ∃ tr d,
    (connection fun _ => narrow).Run (fun _ _ => True) tr d ∧
    frames (Duplex.events .left tr) = [firstOpen] ∧
    receiverChoices clear firstOpenCodec 2
      ⟨0, ⟨[(sendProtos clear firstOpenCodec ⟨0, freshConn⟩ [firstOpen]).2.conn.written], false⟩⟩ =
      [.frame firstOpen, .eof] := by
  obtain ⟨tr, d, h, hframes⟩ := Lts.exists_run_of_replay (L := connection fun _ => narrow)
    (C := fun _ _ => True) (P := fun tr _ => frames (Duplex.events .left tr) = [firstOpen])
    (activation .left ++ activation .right ++ openChannel narrow.config) (by decide +kernel)
  have hlawful : ∀ env ∈ [firstOpen], firstOpenCodec.Lawful env := by
    intro env henv
    cases List.mem_singleton.mp henv
    exact ⟨by decide, by decide⟩
  have hall := link_over_transport h hframes (A := clear) hlawful (Nat.le_add_left ..)
    freshConn_steady rfl
    (r := ⟨[(sendProtos clear firstOpenCodec ⟨0, freshConn⟩ [firstOpen]).2.conn.written], false⟩)
    (by simp [Source.data])
  obtain ⟨-, k, e, hchoices, hend⟩ := hall
  obtain ⟨hk, rfl⟩ := hend (List.append_nil _)
  rw [List.take_of_length_le hk] at hchoices
  exact ⟨tr, d, h, hframes, hchoices⟩

end Sessions

end Mygosh.Transport

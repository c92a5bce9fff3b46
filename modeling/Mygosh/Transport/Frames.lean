/-
  File:      Mygosh/Transport/Frames.lean
  Subject:   `SendFrame` and `ReceiveFrame` (`lib/transport/transport.go`) over ciphers that count
             their messages.

  * `Aead` -- the cipher of a Noise connection: a message is opened under the nonce it was sealed with
    and under no other one.
  * `sendFrame` seals before it looks at the size. A frame that is refused has used up a nonce, and the
    other side does not know.
-/
import Mygosh.Transport.Chunks

namespace Mygosh.Transport

open Proto (Bytes)
open Bincoder
open Mux (maxPayloadSize tagSize)

/-! ## 1. The cipher -/

/-- The last nonce that a `noise.CipherState` uses. -/
def maxNonce : Nat := 18446744073709551614

/-- An authenticated cipher with one key, for messages numbered by nonces. -/
structure Aead where
  encrypt : Nat → Bytes → Bytes
  decrypt : Nat → Bytes → Option Bytes
  length_encrypt : ∀ n p, (encrypt n p).length = p.length + tagSize
  decrypt_encrypt : ∀ {n} p, n ≤ maxNonce → decrypt n (encrypt n p) = some p
  decrypt_other : ∀ {n m} p, n ≤ maxNonce → m ≤ maxNonce → n ≠ m → decrypt m (encrypt n p) = none

/-- `noise.CipherState.Encrypt`; no message after the last nonce. -/
def encrypt (A : Aead) (n : Nat) (p : Bytes) : Option Bytes × Nat :=
  if n > maxNonce then (none, n) else (some (A.encrypt n p), n + 1)

/-- `noise.CipherState.Decrypt`; a message that does not open leaves the nonce. -/
def decrypt (A : Aead) (n : Nat) (c : Bytes) : Option Bytes × Nat :=
  if n > maxNonce then (none, n)
  else
    match A.decrypt n c with
    | none => (none, n)
    | some p => (some p, n + 1)

/-! ## 2. Frames -/

/-- Why a frame is not sent: `failed to encrypt frame`, or `failed to send frame` with `wire: payload
    too large: n bytes`, or with `send frame (n bytes)` and an error of the connection. -/
inductive SendErr where
  | encrypt
  | tooLarge (n : Nat)
  | write (n : Nat) (e : IoErr)
  deriving DecidableEq, Repr

/-- Why no frame is received: `failed to receive frame`, or a message that does not open. -/
inductive RecvErr where
  | chunk (e : IoErr)
  | decrypt
  deriving DecidableEq, Repr

/-- The sending half of a `Transport`. -/
structure Tx where
  nonce : Nat
  conn : Sink UInt8

/-- The receiving half of a `Transport`. -/
structure Rx where
  nonce : Nat
  conn : Source UInt8

/-- `sendChunk`. -/
def sendChunk (payload : Bytes) (conn : Sink UInt8) : Except SendErr Unit × Sink UInt8 :=
  if payload.length > maxPayloadSize then (.error (.tooLarge payload.length), conn)
  else
    match writeBytes payload conn with
    | (.ok _, conn') => (.ok (), conn')
    | (.error e, conn') => (.error (.write payload.length e), conn')

/-- `SendFrame`. -/
def sendFrame (A : Aead) (t : Tx) (p : Bytes) : Except SendErr Unit × Tx :=
  match encrypt A t.nonce p with
  | (none, n) => (.error .encrypt, ⟨n, t.conn⟩)
  | (some frame, n) =>
    match sendChunk frame t.conn with
    | (result, conn') => (result, ⟨n, conn'⟩)

/-- `ReceiveFrame`. -/
def receiveFrame (A : Aead) (t : Rx) : Except RecvErr Bytes × Rx :=
  match recvChunk t.conn with
  | (.error e, conn') => (.error (.chunk e), ⟨t.nonce, conn'⟩)
  | (.ok frame, conn') =>
    match decrypt A t.nonce frame with
    | (none, n) => (.error .decrypt, ⟨n, conn'⟩)
    | (some p, n) => (.ok p, ⟨n, conn'⟩)

/-- Calls of `SendFrame` one after the other, with their results. -/
def sendFrames (A : Aead) : Tx → List Bytes → List (Bytes × Except SendErr Unit) × Tx
  | t, [] => ([], t)
  | t, p :: ps =>
    let first := sendFrame A t p
    let rest := sendFrames A first.2 ps
    ((p, first.1) :: rest.1, rest.2)

/-- The payloads whose call returned nil. -/
def sent (calls : List (Bytes × Except SendErr Unit)) : List Bytes :=
  (calls.filter fun c => c.2.isOk).map Prod.fst

/-- So many calls of `ReceiveFrame`. -/
def receiveFrames (A : Aead) : Nat → Rx → List (Except RecvErr Bytes)
  | 0, _ => []
  | k + 1, t =>
    let first := receiveFrame A t
    first.1 :: receiveFrames A k first.2

/-! ## 3. What is on the stream -/

/-- The payload fits one chunk. -/
def Fits (p : Bytes) : Prop := p.length + tagSize ≤ maxPayloadSize

instance (p : Bytes) : Decidable (Fits p) := inferInstanceAs (Decidable (_ ≤ _))

/-- The payloads that are sent from the nonce `n` on, each with its own nonce. -/
def numbered : Nat → List Bytes → List (Nat × Bytes)
  | _, [] => []
  | n, p :: ps =>
    if n > maxNonce then []
    else if Fits p then (n, p) :: numbered (n + 1) ps
    else numbered (n + 1) ps

/-- Sealed frames as chunks on the stream. -/
def onStream (A : Aead) (frames : List (Nat × Bytes)) : Bytes :=
  (frames.map fun f => prefixed (A.encrypt f.1 f.2)).flatten

variable {A : Aead} {n : Nat} {conn : Sink UInt8} {ps : List Bytes}

/-- Every nonce is at least the first one, and is one that the cipher uses. -/
theorem numbered_bounds {f : Nat × Bytes} (h : f ∈ numbered n ps) :
    n ≤ f.1 ∧ f.1 ≤ maxNonce ∧ Fits f.2 := by
  induction ps generalizing n with
  | nil => cases h
  | cons p ps ih =>
    unfold numbered at h
    split_ifs at h with hn hp
    · cases h
    · rcases List.mem_cons.mp h with rfl | h
      · exact ⟨le_rfl, Nat.le_of_not_lt hn, hp⟩
      · obtain ⟨hlow, hhigh⟩ := ih h
        exact ⟨by omega, hhigh⟩
    · obtain ⟨hlow, hhigh⟩ := ih h
      exact ⟨by omega, hhigh⟩

theorem numbered_exhausted (hn : n > maxNonce) (ps : List Bytes) : numbered n ps = [] := by
  cases ps with
  | nil => rfl
  | cons p ps => exact if_pos hn

/-! ## 4. Sending -/

/-- **One `SendFrame`** on a connection that takes what it is given: no nonce is left, or the frame is
    appended, or it is too large and only the nonce is used. -/
theorem sendFrame_cases (n : Nat) (hconn : conn.Steady) (p : Bytes) :
    (n > maxNonce ∧ sendFrame A ⟨n, conn⟩ p = (.error .encrypt, ⟨n, conn⟩)) ∨
    (¬n > maxNonce ∧ Fits p ∧ ∃ conn', sendFrame A ⟨n, conn⟩ p = (.ok (), ⟨n + 1, conn'⟩) ∧
      conn'.written = conn.written ++ prefixed (A.encrypt n p) ∧ conn'.Steady) ∨
    (¬n > maxNonce ∧ ¬Fits p ∧ ∃ e, sendFrame A ⟨n, conn⟩ p = (.error e, ⟨n + 1, conn⟩)) := by
  have hlen := A.length_encrypt n p
  unfold sendFrame encrypt sendChunk
  by_cases hn : n > maxNonce
  · exact .inl ⟨hn, by simp only [if_pos hn]⟩
  by_cases hp : Fits p
  · right; left
    have hle : (A.encrypt n p).length ≤ maxPayloadSize := by rw [hlen]; exact hp
    have hwrites := writes_writeBytes (hle.trans (show maxPayloadSize ≤ maxUint32 by decide))
    obtain ⟨conn', hwrite, hsteady⟩ := hwrites.steady hconn
    refine ⟨hn, hp, conn', ?_, hwrites.all hwrite, hsteady⟩
    simp only [if_neg hn, if_neg (Nat.not_lt_of_le hle), hwrite]
  · right; right
    have hgt : (A.encrypt n p).length > maxPayloadSize := by
      rw [hlen]
      exact Nat.lt_of_not_le hp
    refine ⟨hn, hp, .tooLarge (A.encrypt n p).length, ?_⟩
    simp only [if_neg hn, if_pos hgt]

/-- A run of calls: what returned nil is what is on the stream. -/
theorem sendFrames_spec (hconn : conn.Steady) (ps : List Bytes) :
    sent (sendFrames A ⟨n, conn⟩ ps).1 = (numbered n ps).map Prod.snd ∧
    (sendFrames A ⟨n, conn⟩ ps).2.conn.written = conn.written ++ onStream A (numbered n ps) := by
  induction ps generalizing n conn with
  | nil => exact ⟨rfl, (List.append_nil _).symm⟩
  | cons p ps ih =>
    simp only [sendFrames, numbered]
    rcases sendFrame_cases (A := A) n hconn p with ⟨hn, hsend⟩ |
      ⟨hn, hp, conn', hsend, hwritten, hsteady⟩ | ⟨hn, hp, e, hsend⟩
    · obtain ⟨hsent, hstream⟩ := @ih n conn hconn
      rw [numbered_exhausted hn] at hsent hstream
      rw [hsend, if_pos hn]
      exact ⟨hsent, hstream⟩
    · obtain ⟨hsent, hstream⟩ := @ih (n + 1) conn' hsteady
      rw [hsend, if_neg hn, if_pos hp]
      refine ⟨?_, ?_⟩
      · rw [List.map_cons, ← hsent]
        rfl
      · rw [hstream, hwritten, List.append_assoc]
        rfl
    · obtain ⟨hsent, hstream⟩ := @ih (n + 1) conn hconn
      rw [hsend, if_neg hn, if_neg hp]
      exact ⟨hsent, hstream⟩

/-! ## 5. Receiving -/

/-- **One `ReceiveFrame`** in front of a sealed frame: it opens exactly if the nonces agree. -/
theorem receiveFrame_cases {m k : Nat} {conn : Source UInt8} {p rest : Bytes} (hk : k ≤ maxNonce)
    (hp : Fits p) (hdata : conn.data = prefixed (A.encrypt k p) ++ rest) :
    ∃ conn', conn'.data = rest ∧
      (k = m ∧ receiveFrame A ⟨m, conn⟩ = (.ok p, ⟨m + 1, conn'⟩) ∨
        k ≠ m ∧ receiveFrame A ⟨m, conn⟩ = (.error .decrypt, ⟨m, conn'⟩)) := by
  have hword : chunk conn.data = some (A.encrypt k p, rest) := by
    rw [hdata]
    exact reads_chunk.of_word ⟨rfl, (A.length_encrypt k p).trans_le hp⟩ _
  obtain ⟨conn', hrecv, hrest⟩ := recvChunk_ok hword
  refine ⟨conn', hrest, ?_⟩
  unfold receiveFrame decrypt
  simp only [hrecv]
  by_cases hkm : k = m
  · subst hkm
    rw [if_neg (Nat.not_lt_of_le hk), A.decrypt_encrypt p hk]
    exact .inl ⟨rfl, rfl⟩
  · refine .inr ⟨hkm, ?_⟩
    by_cases hm : m > maxNonce
    · rw [if_pos hm]
    · rw [if_neg hm, A.decrypt_other p hk (Nat.le_of_not_lt hm) hkm]

theorem receiveFrame_end {m : Nat} {conn : Source UInt8} (hdata : conn.data = []) :
    (receiveFrame A ⟨m, conn⟩).1 = .error (.chunk .eof) := by
  have hnone : chunk conn.data = none := by rw [hdata]; rfl
  obtain ⟨e, conn', herr, he⟩ := recvChunk_fails hnone
  obtain rfl := he.mpr (.inl hdata)
  simp only [receiveFrame, herr]

/-- A run of calls returns the frames exactly if they are numbered one after the other. -/
theorem receiveFrames_iff {m : Nat} {conn : Source UInt8} {frames : List (Nat × Bytes)}
    (hframes : ∀ f ∈ frames, f.1 ≤ maxNonce ∧ Fits f.2) (hdata : conn.data = onStream A frames) :
    receiveFrames A (frames.length + 1) ⟨m, conn⟩ =
        frames.map (fun f => .ok f.2) ++ [.error (.chunk .eof)] ↔
      frames.map Prod.fst = List.range' m frames.length := by
  induction frames generalizing m conn with
  | nil =>
    have hend := receiveFrame_end (A := A) (m := m) hdata
    simp only [receiveFrames, hend, List.map_nil, List.nil_append, List.length_nil,
      List.range'_zero]
  | cons f frames ih =>
    obtain ⟨k, p⟩ := f
    obtain ⟨⟨hk, hp⟩, hrest⟩ := List.forall_mem_cons.mp hframes
    obtain ⟨conn', hdata', ⟨rfl, hrecv⟩ | ⟨hkm, hrecv⟩⟩ := receiveFrame_cases (m := m) hk hp hdata
    · rw [List.length_cons, receiveFrames, hrecv, List.range'_succ, List.map_cons, List.map_cons,
        List.cons_append, List.cons.injEq, List.cons.injEq, ih hrest hdata']
      exact and_congr_left' ⟨fun _ => rfl, fun _ => rfl⟩
    · rw [List.length_cons, receiveFrames, hrecv, List.range'_succ, List.map_cons, List.map_cons,
        List.cons_append, List.cons.injEq, List.cons.injEq]
      exact ⟨(fun h => nomatch h.1), fun h => absurd h.1 hkm⟩

/-! ## 6. Frames that are too large -/

/-- A payload is taken at its turn while the cipher has nonces. -/
theorem numbered_cons (hn : ¬n > maxNonce) (p : Bytes) (ps : List Bytes) :
    numbered n (p :: ps) = (if Fits p then [(n, p)] else []) ++ numbered (n + 1) ps ∧
    (p :: ps).take (maxNonce + 1 - n) = p :: ps.take (maxNonce + 1 - (n + 1)) := by
  have htake : maxNonce + 1 - n = maxNonce + 1 - (n + 1) + 1 := by omega
  refine ⟨?_, by rw [htake, List.take_succ_cons]⟩
  rw [numbered, if_neg hn]
  split_ifs <;> rfl

theorem take_exhausted (hn : n > maxNonce) (ps : List Bytes) : ps.take (maxNonce + 1 - n) = [] := by
  have hzero : maxNonce + 1 - n = 0 := by omega
  rw [hzero, List.take_zero]

theorem numbered_eq_nil (n : Nat) (ps : List Bytes) :
    numbered n ps = [] ↔ ∀ p ∈ ps.take (maxNonce + 1 - n), ¬Fits p := by
  induction ps generalizing n with
  | nil => simp [numbered]
  | cons p ps ih =>
    by_cases hn : n > maxNonce
    · simp [numbered_exhausted hn, take_exhausted hn]
    obtain ⟨hnum, htake⟩ := numbered_cons hn p ps
    rw [hnum, htake, List.forall_mem_cons, List.append_eq_nil_iff, ih (n + 1)]
    by_cases hp : Fits p <;> simp [hp]

/-- No nonce is skipped exactly if nothing that fits comes behind something that does not. -/
theorem numbered_consecutive (n : Nat) (ps : List Bytes) :
    (numbered n ps).map Prod.fst = List.range' n (numbered n ps).length ↔
      (ps.take (maxNonce + 1 - n)).Pairwise fun p q => Fits q → Fits p := by
  induction ps generalizing n with
  | nil => simp [numbered]
  | cons p ps ih =>
    by_cases hn : n > maxNonce
    · simp [numbered_exhausted hn, take_exhausted hn]
    obtain ⟨hnum, htake⟩ := numbered_cons hn p ps
    rw [hnum, htake, List.pairwise_cons]
    by_cases hp : Fits p
    · rw [if_pos hp, List.cons_append, List.nil_append, List.map_cons, List.length_cons,
        List.range'_succ, List.cons.injEq, ih (n + 1)]
      exact ⟨fun h => ⟨fun _ _ _ => hp, h.2⟩, fun h => ⟨rfl, h.2⟩⟩
    · rw [if_neg hp, List.nil_append]
      -- the nonce is skipped, so nothing may follow
      have hnone : (∀ q ∈ ps.take (maxNonce + 1 - (n + 1)), Fits q → Fits p) ↔
          numbered (n + 1) ps = [] := by
        rw [numbered_eq_nil]
        exact forall₂_congr fun q _ => ⟨fun h hq => hp (h hq), fun h hq => absurd hq h⟩
      rw [hnone, ← ih (n + 1)]
      constructor
      · intro h
        cases hfs : numbered (n + 1) ps with
        | nil => exact ⟨rfl, rfl⟩
        | cons f fs =>
          rw [hfs, List.map_cons, List.length_cons, List.range'_succ] at h
          have hfst := (List.cons.inj h).1
          have hmem : f ∈ numbered (n + 1) ps := hfs ▸ List.mem_cons_self
          have hlow := (numbered_bounds hmem).1
          omega
      · rintro ⟨hnil, -⟩
        rw [hnil]
        rfl

/-- **The peer receives what was sent**: the calls of `ReceiveFrame`, as many as calls of `SendFrame`
    returned nil, return those payloads in order, and the next one finds the end. -/
def Intact (A : Aead) (n : Nat) (conn : Sink UInt8) (ps : List Bytes) (r : Source UInt8) : Prop :=
  let payloads := sent (sendFrames A ⟨n, conn⟩ ps).1
  receiveFrames A (payloads.length + 1) ⟨n, r⟩ = payloads.map .ok ++ [.error (.chunk .eof)]

theorem intact_iff_consecutive {r : Source UInt8} (hconn : conn.Steady) (hnew : conn.written = [])
    (hr : r.data = (sendFrames A ⟨n, conn⟩ ps).2.conn.written) :
    Intact A n conn ps r ↔ (numbered n ps).map Prod.fst = List.range' n (numbered n ps).length := by
  obtain ⟨hsent, hstream⟩ := sendFrames_spec (A := A) (n := n) hconn ps
  rw [hstream, hnew, List.nil_append] at hr
  unfold Intact
  simp only [hsent, List.length_map, List.map_map]
  exact receiveFrames_iff (fun f hf => (numbered_bounds hf).2) hr

/-! ## 7. A cipher with the nonce for a tag -/

/-- Sixteen bytes with the nonce in front. -/
def nonceTag (n : Nat) : Bytes :=
  putUint32 (UInt32.ofNat (n / 4294967296)) ++ (putUint32 (UInt32.ofNat n) ++ List.replicate 8 0)

theorem nonceTag_inj {n m : Nat} (hn : n ≤ maxNonce) (hm : m ≤ maxNonce)
    (h : nonceTag n = nonceTag m) : n = m := by
  obtain ⟨hhigh, -, hrest⟩ := Format.reads_u32.unique rfl rfl h
  obtain ⟨hlow, -, -⟩ := Format.reads_u32.unique rfl rfl hrest
  have hhigh := congrArg UInt32.toNat hhigh
  have hlow := congrArg UInt32.toNat hlow
  rw [UInt32.toNat_ofNat', UInt32.toNat_ofNat'] at hhigh hlow
  unfold maxNonce at hn hm
  omega

theorem length_tagged (n : Nat) (p : Bytes) : (p ++ nonceTag n).length - 16 = p.length := by
  have htag : (nonceTag n).length = 16 := rfl
  rw [List.length_append, htag, Nat.add_sub_cancel]

/-- Payloads in the clear, each with its nonce behind it. -/
def clear : Aead where
  encrypt n p := p ++ nonceTag n
  decrypt n c := if c.drop (c.length - 16) = nonceTag n then some (c.take (c.length - 16)) else none
  length_encrypt n p := List.length_append
  decrypt_encrypt {n} p _ := by
    rw [length_tagged, List.drop_left, List.take_left, if_pos rfl]
  decrypt_other {n m} p hn hm hne := by
    rw [length_tagged, List.drop_left, if_neg fun h => hne (nonceTag_inj hn hm h)]

/-- A new connection that takes everything at once. -/
def freshConn : Sink UInt8 := ⟨[], []⟩

theorem freshConn_steady : freshConn.Steady := fun _ h => nomatch h

/-- Everything that was written, in one piece. -/
def wholeStream (A : Aead) (ps : List Bytes) : Source UInt8 :=
  ⟨[(sendFrames A ⟨0, freshConn⟩ ps).2.conn.written], false⟩

theorem wholeStream_data (A : Aead) (ps : List Bytes) :
    (wholeStream A ps).data = (sendFrames A ⟨0, freshConn⟩ ps).2.conn.written :=
  List.append_nil _

/-! ## 8. The result -/

/-- **When an oversized frame does no harm.** The stream stays readable exactly if, as long as the
    cipher has nonces, nothing that fits is sent behind a payload that does not. -/
theorem intact_iff {A : Aead} {r : Source UInt8} (hconn : conn.Steady) (hnew : conn.written = [])
    (hr : r.data = (sendFrames A ⟨n, conn⟩ ps).2.conn.written) :
    Intact A n conn ps r ↔ (ps.take (maxNonce + 1 - n)).Pairwise fun p q => Fits q → Fits p :=
  (intact_iff_consecutive hconn hnew hr).trans (numbered_consecutive n ps)

/-- Two small payloads arrive. -/
theorem intact_small : Intact clear 0 freshConn [[1], [2]] (wholeStream clear [[1], [2]]) := by
  rw [intact_iff freshConn_steady rfl (wholeStream_data _ _)]
  show List.Pairwise _ [[1], [2]]
  decide

/-- A payload of `MaxPayloadSize` bytes is refused; the payload of one byte behind it is sent, and the
    peer cannot open it. -/
theorem not_intact_after_oversized :
    ¬Intact clear 0 freshConn [List.replicate maxPayloadSize 0, [7]]
      (wholeStream clear [List.replicate maxPayloadSize 0, [7]]) := by
  rw [intact_iff_consecutive freshConn_steady rfl (wholeStream_data _ _)]
  have hlarge : ¬Fits (List.replicate maxPayloadSize 0) := by
    unfold Fits
    rw [List.length_replicate]
    decide
  have hnum : numbered 0 [List.replicate maxPayloadSize 0, [7]] = [(1, [7])] := by
    rw [numbered, if_neg (by decide), if_neg hlarge]
    decide
  rw [hnum]
  decide

end Mygosh.Transport

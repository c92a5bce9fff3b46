/-
  File:      Mygosh/Session/Encoding.lean
  Subject:   How large a frame can get: what has passed the checks of a session meets the schema
             and fits one chunk of the transport.

  * `Envelope.sendable` -- what `wire.SendProto` and `Transport.SendFrame` ask of a frame;
  * `Within` -- a part is valid and short, unless it is so long that a `uint32` cannot hold its
    size. The checks of a session convert lengths to `uint32` before they compare them, so this is
    all they establish;
  * `Typed`, `Answered` -- what `validateTypeAndPayload` and `validateResponse` establish, and
    the frames that are made from it.
-/
import Mygosh.Session.Ops

namespace Mygosh.Mux

/-! ## 1. The transport -/

/-- `transport.MaxPayloadSize`. -/
def maxPayloadSize : Nat := 32 * 1024

/-- What the cipher adds to a frame. -/
def tagSize : Nat := 16

/-- `sendChunk` accepts the encryption of a frame of `n` bytes. -/
def sendChunk (n : Nat) : Bool := n + tagSize ≤ maxPayloadSize

/-- `wire.SendProto` and `SendFrame` find nothing wrong with a frame. -/
def Envelope.sendable (env : Envelope) : Bool := env.valid && sendChunk env.size

theorem sendable_iff {env : Envelope} :
    env.sendable = true ↔ env.valid = true ∧ env.size + tagSize ≤ maxPayloadSize := by
  simp only [Envelope.sendable, sendChunk, Bool.and_eq_true, decide_eq_true_eq]

/-! ## 2. Sizes -/

/-- A text has at least as many bytes as characters. -/
theorem length_le_len (s : String) : s.length ≤ len s := by
  induction s using String.push_induction with
  | empty => exact Nat.zero_le _
  | push s c ih =>
    have hc := c.utf8Size_pos
    simp only [len, String.length_push, String.utf8ByteSize_push] at ih ⊢
    omega

theorem sizeVarint_le {v k : Nat} (hk : 0 < k) (h : v < 2 ^ (7 * k)) : sizeVarint v ≤ k := by
  unfold sizeVarint
  by_cases hv : v = 0
  · subst hv
    exact hk
  · have hlog := (Nat.log2_lt hv).mpr h
    omega

theorem sizeScalar_le {v : Nat} (h : v ≤ maxUint64) : sizeScalar v ≤ 11 := by
  unfold sizeScalar
  split
  · exact Nat.zero_le _
  · have := @sizeVarint_le v 10 (by decide) (h.trans_lt (by decide))
    omega

theorem sizeBool_le (b : Bool) : sizeBool b ≤ 2 := by cases b <;> decide

theorem le_sizeDelimited (n : Nat) : n ≤ sizeDelimited n := Nat.le_add_left ..

/-- Three bytes are enough for the length of anything below two megabytes. -/
theorem sizeDelimited_le {n : Nat} (h : n < 2097152) : sizeDelimited n ≤ n + 4 := by
  have := @sizeVarint_le n 3 (by decide) h
  unfold sizeDelimited
  omega

theorem le_sizeText (n : Nat) : n ≤ sizeText n := by
  unfold sizeText
  split
  · exact Nat.le_of_eq ‹_›
  · exact le_sizeDelimited n

theorem sizeText_le {n : Nat} (h : n < 2097152) : sizeText n ≤ n + 4 := by
  unfold sizeText
  split
  · exact Nat.zero_le _
  · exact sizeDelimited_le h

/-- A length that was checked as a `uint32`, and is one. -/
theorem le_of_toU32_le {n limit : Nat} (h : toU32 n ≤ limit) (hn : n ≤ maxUint32) : n ≤ limit := by
  rwa [toU32_eq hn] at h

theorem textIn_of_len {lo hi : Nat} {s : String} (hlo : lo = 0 ∨ lo = 1 ∧ s ≠ "")
    (h : len s ≤ hi) : textIn lo hi s = true := by
  have hle := length_le_len s
  have hpos : lo ≤ s.length := by
    rcases hlo with rfl | ⟨rfl, hs⟩
    · exact Nat.zero_le _
    · exact Nat.pos_of_ne_zero fun h0 => hs (String.length_eq_zero_iff.mp h0)
  simp only [textIn, Bool.and_eq_true, decide_eq_true_eq]
  omega

/-! ## 3. Parts of frames -/

/-- Unless a `uint32` cannot hold its size, a part is valid and has at most `bound` bytes. -/
def Within (bound size : Nat) (valid : Bool) : Prop :=
  size ≤ maxUint32 → valid = true ∧ size ≤ bound

/-- What `validateTypeAndPayload` establishes. -/
structure Typed (typ : String) (payload : Bytes) : Prop where
  nonempty : typ ≠ ""
  typ : toU32 (len typ) ≤ hardMaxTypeLength
  payload : toU32 payload.length ≤ hardMaxControlPayload

/-- What `validateResponse` establishes. -/
structure Answered (code message : String) (payload : Bytes) : Prop where
  code : toU32 (len code) ≤ hardMaxCodeLength
  message : toU32 (len message) ≤ hardMaxMessageLength
  payload : toU32 payload.length ≤ hardMaxControlPayload

section Checks

variable {cfg : Prepared} {typ code message : String} {p : Bytes}

theorem typed_of_validate (h : validateTypeAndPayload cfg.config.limits typ p = none) :
    Typed typ p := by
  have htyp : cfg.config.limits.maxTypeLength ≤ hardMaxTypeLength :=
    @Prepared.limit_le cfg "max type length" _ _ (by simp [Limits.checks])
  have hpayload : cfg.config.limits.maxControlPayload ≤ hardMaxControlPayload :=
    @Prepared.limit_le cfg "max control payload" _ _ (by simp [Limits.checks])
  unfold validateTypeAndPayload at h
  split_ifs at h with h1 h2 h3
  exact ⟨h1, (Nat.le_of_not_lt h2).trans htyp, (Nat.le_of_not_lt h3).trans hpayload⟩

theorem answered_of_validate (h : validateResponse cfg.config.limits code message p = none) :
    Answered code message p := by
  have hcode : cfg.config.limits.maxCodeLength ≤ hardMaxCodeLength :=
    @Prepared.limit_le cfg "max code length" _ _ (by simp [Limits.checks])
  have hmessage : cfg.config.limits.maxMessageLength ≤ hardMaxMessageLength :=
    @Prepared.limit_le cfg "max message length" _ _ (by simp [Limits.checks])
  have hpayload : cfg.config.limits.maxControlPayload ≤ hardMaxControlPayload :=
    @Prepared.limit_le cfg "max control payload" _ _ (by simp [Limits.checks])
  unfold validateResponse at h
  split_ifs at h with h1 h2 h3
  exact ⟨(Nat.le_of_not_lt h1).trans hcode, (Nat.le_of_not_lt h2).trans hmessage,
    (Nat.le_of_not_lt h3).trans hpayload⟩

end Checks

/-- A payload that was checked. -/
theorem payload_within {p : Bytes} (h : toU32 p.length ≤ hardMaxControlPayload) :
    Within 24580 (sizeText p.length) (payloadOk p) := by
  intro hs
  have hp : p.length ≤ 24576 := le_of_toU32_le h ((le_sizeText _).trans hs)
  exact ⟨decide_eq_true hp, (sizeText_le (by omega)).trans (by omega)⟩

/-- A text that was checked. -/
theorem text_within {lo hi : Nat} {s : String} (hlo : lo = 0 ∨ lo = 1 ∧ s ≠ "") (hhi : hi ≤ 4096)
    (h : toU32 (len s) ≤ hi) : Within (hi + 4) (sizeText (len s)) (textIn lo hi s) := by
  intro hs
  have hl : len s ≤ hi := le_of_toU32_le h ((le_sizeText _).trans hs)
  exact ⟨textIn_of_len hlo hl, (sizeText_le (by omega)).trans (by omega)⟩

/-- A length-delimited part. -/
theorem Within.delimited {bound size : Nat} {valid : Bool} (h : Within bound size valid)
    (hb : bound < 2097152) : Within (bound + 4) (sizeDelimited size) valid := by
  intro hs
  obtain ⟨hv, hle⟩ := h ((le_sizeDelimited _).trans hs)
  exact ⟨hv, (sizeDelimited_le (by omega)).trans (by omega)⟩

/-- Two parts after each other. -/
theorem Within.append {b₁ b₂ n₁ n₂ : Nat} {v₁ v₂ : Bool} (h₁ : Within b₁ n₁ v₁)
    (h₂ : Within b₂ n₂ v₂) : Within (b₁ + b₂) (n₁ + n₂) (v₁ && v₂) := by
  intro hs
  obtain ⟨hv₁, hle₁⟩ := h₁ (by omega)
  obtain ⟨hv₂, hle₂⟩ := h₂ (by omega)
  exact ⟨by rw [hv₁, hv₂]; rfl, by omega⟩

theorem id_within {v : Nat} (h : v ≤ maxUint64) : Within 11 (sizeScalar v) (isU64 v) :=
  fun _ => ⟨decide_eq_true h, sizeScalar_le h⟩

/-- A larger bound, another order of the tests. -/
theorem Within.weaken {b b' n n' : Nat} {v v' : Bool} (h : Within b n v) (hb : b ≤ b')
    (hn : n' = n) (hv : v = true → v' = true) : Within b' n' v' := by
  subst hn
  exact fun hs => ⟨hv (h hs).1, (h hs).2.trans hb⟩

/-- The windows a session announces, or any others within the schema. -/
theorem windows_within {window packet : Nat} (h : windowOk window packet = true) :
    Within 22 (sizeScalar window + sizeScalar packet) (windowOk window packet) := by
  have hle := h
  simp only [windowOk, Bool.and_eq_true, decide_eq_true_eq] at hle
  have hwindow := @sizeScalar_le window (hle.1.1.2.trans (by decide))
  have hpacket := @sizeScalar_le packet (hle.2.trans (by decide))
  exact fun _ => ⟨h, by omega⟩

theorem Prepared.windowOk (cfg : Prepared) :
    windowOk cfg.config.initialWindow cfg.config.maxPacketSize = true := by
  have hw := cfg.windows
  have hpacket : cfg.config.maxPacketSize ≤ 24576 := cfg.packet_le
  have hpos := hw.packetPos
  have hle := hw.packetLe
  have hlt := hw.windowLt
  simp only [Mux.windowOk, Bool.and_eq_true, decide_eq_true_eq]
  omega

/-- A rejection; the two texts are the handler's or the session's own. -/
theorem reject_within {r : Reject} (h : Answered r.code r.message r.payload) (hm : r.message ≠ "") :
    Within 28812 r.size r.valid := by
  have hcode := text_within (.inl rfl) (by decide) h.code
  have hmessage := text_within (.inr ⟨rfl, hm⟩) (by decide) h.message
  exact ((hcode.append hmessage).append (payload_within h.payload)).weaken (by decide) rfl id

theorem normalizeReject_ne {text fallback : String} (h : fallback ≠ "") :
    normalizeReject text fallback ≠ "" := by
  unfold normalizeReject
  split <;> assumption

theorem normalizeReject_le {text fallback : String} {limit : Nat} (h : toU32 (len text) ≤ limit)
    (hf : toU32 (len fallback) ≤ limit) : toU32 (len (normalizeReject text fallback)) ≤ limit := by
  unfold normalizeReject
  split <;> assumption

/-- The texts of a session's own are short. -/
theorem toU32_len_le {text : String} {limit : Nat} (h : len text ≤ limit) (hl : limit ≤ 4096) :
    toU32 (len text) ≤ limit := by
  rwa [toU32_eq (h.trans (hl.trans (by decide)))]

theorem Answered.normalized {code message code' message' : String} {p : Bytes}
    (h : Answered code message p) (hc : len code' ≤ hardMaxCodeLength)
    (hm : len message' ≤ hardMaxMessageLength) :
    Answered (normalizeReject code code') (normalizeReject message message') p :=
  ⟨normalizeReject_le h.code (toU32_len_le hc (by decide)),
    normalizeReject_le h.message (toU32_len_le hm (by decide)), h.payload⟩

theorem resourceReject_answered {message : String} (h : len message ≤ hardMaxMessageLength) :
    Answered "resource-limit" message [] :=
  ⟨toU32_len_le (by decide) (by decide), toU32_len_le h (by decide),
    (toU32_eq (by decide)).trans_le (by decide)⟩

/-- The result of a handler's response. -/
theorem opResult_within {r : Response} {code message : String}
    (h : Answered r.code r.message r.payload) (hc : len code ≤ hardMaxCodeLength)
    (hm : len message ≤ hardMaxMessageLength) (hne : message ≠ "") :
    Within 28816 (opResult r code message).size (opResult r code message).valid := by
  unfold opResult
  split
  · exact ((payload_within h.payload).delimited (by decide)).weaken (by decide) rfl id
  · exact (reject_within (h.normalized hc hm) (normalizeReject_ne hne)).delimited (by decide)

/-! ## 4. Frames -/

/-- Unless a `uint32` cannot hold its size, nothing is wrong with the frame. -/
def Envelope.Admissible (env : Envelope) : Prop := env.size ≤ maxUint32 → env.sendable = true

theorem Within.admissible {bound : Nat} {env : Envelope} (h : Within bound env.size env.valid)
    (hb : bound ≤ maxPayloadSize - tagSize) : env.Admissible := by
  intro hs
  obtain ⟨hv, hle⟩ := h hs
  refine sendable_iff.mpr ⟨hv, ?_⟩
  unfold maxPayloadSize tagSize at *
  omega

section Frames

variable {i q n : Nat} {typ : String} {p : Bytes}

theorem channelOpen_admissible {m : ChannelOpen} (h : Typed m.channelType m.payload)
    (hi : m.senderChannelID ≤ maxUint64) (hw : windowOk m.initialWindow m.maxPacketSize = true) :
    (Envelope.channelOpen m).Admissible := by
  have htyp := text_within (.inr ⟨rfl, h.nonempty⟩) (by decide) h.typ
  have hparts := ((htyp.append (id_within hi)).append (windows_within hw)).append
    (payload_within h.payload)
  refine Within.admissible ((hparts.delimited (by decide)).weaken le_rfl ?_ id) (by decide)
  simp only [Envelope.size, ChannelOpen.size, Nat.add_assoc]

theorem accept_admissible {a : ChannelOpenAccept} (hi : i ≤ maxUint64)
    (ha : a.senderChannelID ≤ maxUint64) (hw : windowOk a.initialWindow a.maxPacketSize = true)
    (hp : toU32 a.payload.length ≤ hardMaxControlPayload) :
    (Envelope.channelOpenResult i (.success a)).Admissible := by
  have hparts := ((id_within ha).append (windows_within hw)).append (payload_within hp)
  refine Within.admissible ((((id_within hi).append (hparts.delimited (by decide))).delimited
    (by decide)).weaken le_rfl ?_ id) (by decide)
  simp only [Envelope.size, OpenResult.size, ChannelOpenAccept.size, Nat.add_assoc]

theorem openReject_admissible {r : Reject} (hi : i ≤ maxUint64)
    (h : Answered r.code r.message r.payload) (hm : r.message ≠ "") :
    (Envelope.channelOpenResult i (.reject r)).Admissible :=
  (((id_within hi).append ((reject_within h hm).delimited (by decide))).delimited
    (by decide)).admissible (by decide)

theorem channelData_admissible {data : Bytes} (hi : i ≤ maxUint64) (hne : data ≠ [])
    (h : data.length ≤ 24576) : (Envelope.channelData i data).Admissible := by
  have hpos : 1 ≤ data.length := List.length_pos_iff.mpr hne
  have hlt : data.length < 2097152 := h.trans_lt (by decide)
  have hdata : Within 24580 (sizeText data.length)
      (1 ≤ data.length && data.length ≤ 24576) := fun _ =>
    ⟨by rw [decide_eq_true hpos, decide_eq_true h]; rfl,
      (sizeText_le hlt).trans (Nat.add_le_add_right h 4)⟩
  refine Within.admissible ((((id_within hi).append hdata).delimited (by decide)).weaken le_rfl rfl
    fun hv => ?_) (by decide)
  simpa only [Envelope.valid, Bool.and_assoc] using hv

theorem windowAdjust_admissible (hi : i ≤ maxUint64) (hpos : 0 < n) (hn : n ≤ maxUint32) :
    (Envelope.channelWindowAdjust i n).Admissible := by
  have hadd : Within 11 (sizeScalar n) (0 < n && n ≤ maxUint32) := fun _ =>
    ⟨by rw [decide_eq_true hpos, decide_eq_true hn]; rfl, sizeScalar_le (hn.trans (by decide))⟩
  refine Within.admissible ((((id_within hi).append hadd).delimited (by decide)).weaken le_rfl rfl
    fun hv => ?_) (by decide)
  simpa only [Envelope.valid, Bool.and_assoc] using hv

theorem eof_admissible (hi : i ≤ maxUint64) : (Envelope.channelEof i).Admissible :=
  ((id_within hi).delimited (by decide)).admissible (by decide)

theorem close_admissible (hi : i ≤ maxUint64) : (Envelope.channelClose i).Admissible :=
  ((id_within hi).delimited (by decide)).admissible (by decide)

/-- A request: its type, the flag and the payload. -/
theorem request_within {want : Bool} (h : Typed typ p) :
    Within 24842 (sizeText (len typ) + sizeBool want + sizeText p.length)
      (textIn 1 256 typ && payloadOk p) := by
  have htyp : Within 260 _ (textIn 1 256 typ) := text_within (.inr ⟨rfl, h.nonempty⟩) (by decide) h.typ
  have hwant : Within 2 (sizeBool want) true := fun _ => ⟨rfl, sizeBool_le want⟩
  refine ((htyp.append hwant).append (payload_within h.payload)).weaken (by decide) rfl fun hv => ?_
  simpa only [Bool.and_true] using hv

theorem channelRequest_admissible {want : Bool} (hi : i ≤ maxUint64) (hq : q ≤ maxUint64)
    (h : Typed typ p) : (Envelope.channelRequest ⟨i, q, typ, want, p⟩).Admissible := by
  have hparts := ((id_within hi).append (id_within hq)).append (@request_within _ _ want h)
  refine Within.admissible ((hparts.delimited (by decide)).weaken le_rfl ?_ fun hv => ?_) (by decide)
  · simp only [Envelope.size, RequestMsg.size, Nat.add_assoc]
  · simpa only [Envelope.valid, Bool.and_assoc] using hv

theorem globalRequest_admissible {want : Bool} (hq : q ≤ maxUint64) (h : Typed typ p) :
    (Envelope.globalRequest ⟨q, typ, want, p⟩).Admissible := by
  have hparts := (id_within hq).append (@request_within _ _ want h)
  refine Within.admissible ((hparts.delimited (by decide)).weaken le_rfl ?_ fun hv => ?_) (by decide)
  · simp only [Envelope.size, GlobalMsg.size, Nat.add_assoc]
  · simpa only [Envelope.valid, Bool.and_assoc] using hv

theorem channelResult_admissible {res : OpResult} (hi : i ≤ maxUint64) (hq : q ≤ maxUint64)
    (h : Within 28816 res.size res.valid) : (Envelope.channelResult i q res).Admissible :=
  ((((id_within hi).append (id_within hq)).append h).delimited (by decide)).admissible (by decide)

theorem globalResult_admissible {res : OpResult} (hq : q ≤ maxUint64)
    (h : Within 28816 res.size res.valid) : (Envelope.globalResult q res).Admissible :=
  (((id_within hq).append h).delimited (by decide)).admissible (by decide)

end Frames

theorem disconnect_admissible :
    (Envelope.disconnect "protocol-error" "protocol error").Admissible := fun _ => by decide

end Mygosh.Mux

/-
  File:      Mygosh/Session/Message.lean
  Subject:   The frames two sessions exchange (`proto/session/session.proto`), their schema and
             encoded size, and the errors of the package.

  * `Envelope` and its parts mirror the schema; a `oneof` that the sender left empty is the
    constructor `unset`, which the schema refuses (`Envelope.valid`) and the handlers still
    have a branch for.
  * `Envelope.size` is `proto.Size`: a zero scalar and an empty string are not encoded, a set
    `oneof` member always is; every field number of the schema is below 16, so a tag takes one
    byte.
  * `ProtocolError` has one constructor for each text `protocolErrorf` is called with, `Err` one
    for each other error.
-/
import Mygosh.Session.Config

namespace Mygosh.Mux

/-- A `[]byte`. -/
abbrev Bytes := List UInt8

/-- `len` of a Go string. -/
abbrev len (s : String) : Nat := s.utf8ByteSize

/-! ## 1. Envelopes -/

structure ChannelOpen where
  channelType : String
  senderChannelID : Nat
  initialWindow : Nat
  maxPacketSize : Nat
  payload : Bytes
  deriving DecidableEq, Repr

structure ChannelOpenAccept where
  senderChannelID : Nat
  initialWindow : Nat
  maxPacketSize : Nat
  payload : Bytes
  deriving DecidableEq, Repr

/-- `ChannelOpenReject` and `OperationReject`, which have the same fields. -/
structure Reject where
  code : String
  message : String
  payload : Bytes
  deriving DecidableEq, Repr

inductive OpenResult where
  | success (a : ChannelOpenAccept)
  | reject (r : Reject)
  | unset
  deriving DecidableEq, Repr

/-- The result of a channel request or of a global request. -/
inductive OpResult where
  | success (payload : Bytes)
  | reject (r : Reject)
  | unset
  deriving DecidableEq, Repr

/-- `sessionpb.ChannelRequest`. -/
structure RequestMsg where
  recipientChannelID : Nat
  requestID : Nat
  requestType : String
  wantReply : Bool
  payload : Bytes
  deriving DecidableEq, Repr

/-- `sessionpb.GlobalRequest`. -/
structure GlobalMsg where
  requestID : Nat
  requestType : String
  wantReply : Bool
  payload : Bytes
  deriving DecidableEq, Repr

inductive Envelope where
  | channelOpen (m : ChannelOpen)
  | channelOpenResult (recipient : Nat) (result : OpenResult)
  | channelData (recipient : Nat) (data : Bytes)
  | channelWindowAdjust (recipient bytesToAdd : Nat)
  | channelEof (recipient : Nat)
  | channelClose (recipient : Nat)
  | channelRequest (m : RequestMsg)
  | channelResult (recipient requestID : Nat) (result : OpResult)
  | globalRequest (m : GlobalMsg)
  | globalResult (requestID : Nat) (result : OpResult)
  | disconnect (code message : String)
  | unset
  deriving DecidableEq, Repr

/-! ## 2. Encoded sizes -/

/-- `protowire.SizeVarint`. -/
def sizeVarint (v : Nat) : Nat := Nat.log2 v / 7 + 1

/-- A length-delimited field of `n` bytes, tag included. -/
def sizeDelimited (n : Nat) : Nat := 1 + sizeVarint n + n

/-- A scalar field: absent when zero. -/
def sizeScalar (v : Nat) : Nat := if v = 0 then 0 else 1 + sizeVarint v

/-- A string or bytes field of length `n`: absent when empty. -/
def sizeText (n : Nat) : Nat := if n = 0 then 0 else sizeDelimited n

def sizeBool (b : Bool) : Nat := if b then 2 else 0

def ChannelOpen.size (m : ChannelOpen) : Nat :=
  sizeText (len m.channelType) + sizeScalar m.senderChannelID + sizeScalar m.initialWindow +
    sizeScalar m.maxPacketSize + sizeText m.payload.length

def ChannelOpenAccept.size (m : ChannelOpenAccept) : Nat :=
  sizeScalar m.senderChannelID + sizeScalar m.initialWindow + sizeScalar m.maxPacketSize +
    sizeText m.payload.length

def Reject.size (r : Reject) : Nat :=
  sizeText (len r.code) + sizeText (len r.message) + sizeText r.payload.length

def OpenResult.size : OpenResult → Nat
  | .success a => sizeDelimited a.size
  | .reject r => sizeDelimited r.size
  | .unset => 0

def OpResult.size : OpResult → Nat
  | .success payload => sizeDelimited (sizeText payload.length)
  | .reject r => sizeDelimited r.size
  | .unset => 0

def RequestMsg.size (m : RequestMsg) : Nat :=
  sizeScalar m.recipientChannelID + sizeScalar m.requestID + sizeText (len m.requestType) +
    sizeBool m.wantReply + sizeText m.payload.length

def GlobalMsg.size (m : GlobalMsg) : Nat :=
  sizeScalar m.requestID + sizeText (len m.requestType) + sizeBool m.wantReply +
    sizeText m.payload.length

/-- `proto.Size` of an envelope. -/
def Envelope.size : Envelope → Nat
  | .channelOpen m => sizeDelimited m.size
  | .channelOpenResult r res => sizeDelimited (sizeScalar r + res.size)
  | .channelData r data => sizeDelimited (sizeScalar r + sizeText data.length)
  | .channelWindowAdjust r n => sizeDelimited (sizeScalar r + sizeScalar n)
  | .channelEof r => sizeDelimited (sizeScalar r)
  | .channelClose r => sizeDelimited (sizeScalar r)
  | .channelRequest m => sizeDelimited m.size
  | .channelResult r q res => sizeDelimited (sizeScalar r + sizeScalar q + res.size)
  | .globalRequest m => sizeDelimited m.size
  | .globalResult q res => sizeDelimited (sizeScalar q + res.size)
  | .disconnect code message => sizeDelimited (sizeText (len code) + sizeText (len message))
  | .unset => 0

/-- The size of a field grows with its data. -/
theorem sizeDelimited_mono {a b : Nat} (h : a ≤ b) : sizeDelimited a ≤ sizeDelimited b := by
  have hlog : Nat.log2 a ≤ Nat.log2 b := by
    rw [Nat.log2_eq_log_two, Nat.log2_eq_log_two]
    exact Nat.log_mono_right h
  have hdiv : Nat.log2 a / 7 ≤ Nat.log2 b / 7 := Nat.div_le_div_right hlog
  unfold sizeDelimited sizeVarint
  omega

/-! ## 3. The schema -/

/-- A `uint64` field. -/
def isU64 (v : Nat) : Bool := v ≤ maxUint64

/-- A `string` field with its bounds, which the schema counts in characters. -/
def textIn (lo hi : Nat) (s : String) : Bool := lo ≤ s.length && s.length ≤ hi

def payloadOk (p : Bytes) : Bool := p.length ≤ 24576

/-- The `initial_window` and `max_packet_size` fields of an open and of an acceptance. -/
def windowOk (window packet : Nat) : Bool :=
  0 < window && window ≤ maxUint32 && 0 < packet && packet ≤ 24576

def Reject.valid (r : Reject) : Bool :=
  textIn 0 128 r.code && textIn 1 4096 r.message && payloadOk r.payload

def OpenResult.valid : OpenResult → Bool
  | .success a => isU64 a.senderChannelID && windowOk a.initialWindow a.maxPacketSize && payloadOk a.payload
  | .reject r => r.valid
  | .unset => false

def OpResult.valid : OpResult → Bool
  | .success payload => payloadOk payload
  | .reject r => r.valid
  | .unset => false

/-- `protovalidate.Validate` on an envelope. -/
def Envelope.valid : Envelope → Bool
  | .channelOpen m =>
    textIn 1 256 m.channelType && isU64 m.senderChannelID &&
      windowOk m.initialWindow m.maxPacketSize && payloadOk m.payload
  | .channelOpenResult r res => isU64 r && res.valid
  | .channelData r data => isU64 r && 1 ≤ data.length && data.length ≤ 24576
  | .channelWindowAdjust r n => isU64 r && 0 < n && n ≤ maxUint32
  | .channelEof r => isU64 r
  | .channelClose r => isU64 r
  | .channelRequest m =>
    isU64 m.recipientChannelID && isU64 m.requestID && textIn 1 256 m.requestType &&
      payloadOk m.payload
  | .channelResult r q res => isU64 r && isU64 q && res.valid
  | .globalRequest m => isU64 m.requestID && textIn 1 256 m.requestType && payloadOk m.payload
  | .globalResult q res => isU64 q && res.valid
  | .disconnect code message => textIn 0 128 code && textIn 1 4096 message
  | .unset => false

/-! ## 4. Channel states -/

/-- `channelState`. -/
inductive ChannelState where
  | channelOpening
  | channelOpen
  | channelLocalEOF
  | channelRemoteEOF
  | channelBothEOF
  | channelClosing
  | channelClosed
  | channelFailed
  deriving DecidableEq, Repr

namespace ChannelState

def allowsRequests : ChannelState → Bool
  | channelOpen | channelLocalEOF | channelRemoteEOF | channelBothEOF => true
  | _ => false

def canSendData (s : ChannelState) : Bool := s = channelOpen || s = channelRemoteEOF

def canReceiveData (s : ChannelState) : Bool := s = channelOpen || s = channelLocalEOF

def readEOF : ChannelState → Bool
  | channelRemoteEOF | channelBothEOF | channelClosing | channelClosed => true
  | _ => false

end ChannelState

/-! ## 5. Errors -/

/-- What `validateTypeAndPayload` and `validateResponse` refuse. -/
inductive LimitError where
  | typeRequired
  | typeTooLong (n limit : Nat)
  | controlPayload (n limit : Nat)
  | responseCode (n limit : Nat)
  | responseMessage (n limit : Nat)
  | responsePayload (n limit : Nat)
  deriving DecidableEq, Repr

/-- `protocolError`, one constructor for each text. -/
inductive ProtocolError where
  | unsupportedFrame
  | invalidChannelOpen (e : LimitError)
  | pendingChannelDisappeared (peerID : Nat)
  | changedDuringAdmission (id : Nat)
  | openResultUnknownChannel (id : Nat)
  | duplicateOpenResult (id : Nat)
  | openResultPayload
  | invalidOpenRejection (e : LimitError)
  | invalidOpenResult (id : Nat)
  | duplicatePeerChannel (peerID : Nat)
  | dataUnknownChannel (id : Nat)
  | emptyData (id : Nat)
  | dataInState (id : Nat) (state : ChannelState)
  | exceededMaxPacket (id size limit : Nat)
  | exceededWindow (id size window : Nat)
  | adjustUnknownChannel (id : Nat)
  | adjustInState (id : Nat) (state : ChannelState)
  | remoteWindowOverflow (id : Nat)
  | eofUnknownChannel (id : Nat)
  | duplicateEOF (id : Nat)
  | eofInState (id : Nat) (state : ChannelState)
  | closeUnknownChannel (id : Nat)
  | closeBeforeOpen (id : Nat)
  | duplicateClose (id : Nat) (state : ChannelState)
  | invalidChannelRequest (e : LimitError)
  | requestUnknownChannel (id : Nat)
  | requestInState (id : Nat) (state : ChannelState)
  | duplicateRequest (requestID id : Nat)
  | resultUnknownChannel (id : Nat)
  | resultUnknownRequest (requestID id : Nat)
  | resultPayload
  | invalidRejection (e : LimitError)
  | invalidResult (requestID id : Nat)
  | invalidGlobalRequest (e : LimitError)
  | duplicateGlobalRequest (requestID : Nat)
  | globalResultUnknownRequest (requestID : Nat)
  | globalResultPayload
  | invalidGlobalRejection (e : LimitError)
  | invalidGlobalResult (requestID : Nat)
  | invalidDisconnect (e : LimitError)
  deriving DecidableEq, Repr

/-- The errors of the package. `parent n` stands for the cause the application cancelled the
    session's parent context with, `context` for the error of a caller's own context. -/
inductive Err where
  | sessionNotActive
  | sessionClosed
  | channelClosed
  | channelWriteEOF
  | resourceLimit
  | canceled
  | context
  | parent (n : Nat)
  | protocol (e : ProtocolError)
  | limit (e : LimitError)
  | channelIDsExhausted
  | globalIDsExhausted
  | requestIDsExhausted
  | pendingGlobalLimit
  | pendingRequestLimit
  | pendingRequestsPerChannel
  | emptyFrame
  | frameTooLarge (n : Nat)
  | frameExceedsPacket (n limit : Nat)
  | outboundExhausted
  | notPending (id : Nat)
  | accountingUnderflow
  | openRejected (message : String)
  | remoteDisconnect (code message : String)
  | sendEnvelope
  | receiveFrame
  | sendAdjust (e : Err)
  | enqueueClose (e : Err)
  | enqueueCloseAck (e : Err)
  deriving DecidableEq, Repr

/-- `eris.Is`, which looks through wrapped errors. -/
def Err.is (target : Err) : Err → Bool
  | .sendAdjust e => Err.is target e || decide (target = .sendAdjust e)
  | .enqueueClose e => Err.is target e || decide (target = .enqueueClose e)
  | .enqueueCloseAck e => Err.is target e || decide (target = .enqueueCloseAck e)
  | e => decide (target = e)

/-- The type test `err.(*protocolError)`. -/
def Err.isProtocol : Err → Bool
  | .protocol _ => true
  | _ => false

end Mygosh.Mux

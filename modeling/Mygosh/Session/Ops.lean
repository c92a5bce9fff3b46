/-
  File:      Mygosh/Session/Ops.lean
  Subject:   The lock sections of a session that more than one goroutine uses: queue budget,
             channel table, contexts and waiters.

  Every definition is the body of the Go function of that name, on the state it guards. A
  section that can only refuse returns an `Option`, one that reports an error an `Except`.
-/
import Mygosh.Session.State

namespace Mygosh.Mux

open Function (update)

/-! ## 1. The queue budget (`budgetMu`) -/

/-- A length as the code stores it in a `uint32`. -/
@[irreducible] def toU32 (n : Nat) : Nat := n % 4294967296

/-- A length that fits a `uint32` is stored as it is. -/
theorem toU32_eq {n : Nat} (h : n ≤ maxUint32) : toU32 n = n := by
  unfold toU32
  unfold maxUint32 at h
  exact Nat.mod_eq_of_lt (by omega)

theorem toU32_le (n : Nat) : toU32 n ≤ n := by
  unfold toU32
  exact Nat.mod_le _ _

namespace Budget

variable (lim : Limits) (b : Budget) (i frames bytes : Nat)

/-- `Session.reserveQueueBudget`; `none` is `errResourceLimit`. -/
@[irreducible] def reserveQueueBudget : Option Budget :=
  if frames > subU32 lim.maxQueuedFramesTotal b.queuedFrames then none
  else if bytes > subU64 lim.maxQueuedBytesTotal b.queuedBytes then none
  else some { b with
    queuedFrames := addU32 b.queuedFrames frames
    queuedBytes := addU64 b.queuedBytes bytes }

/-- `Session.releaseQueueBudget`, which saturates at zero. -/
@[irreducible] def releaseQueueBudget : Budget :=
  { b with
    queuedFrames := if frames > b.queuedFrames then 0 else b.queuedFrames - frames
    queuedBytes := if bytes > b.queuedBytes then 0 else b.queuedBytes - bytes }

/-- `Channel.reserveQueuedLocked`. -/
@[irreducible] def reserveQueuedLocked : Option Budget :=
  if frames > subU32 lim.maxQueuedFramesPerChannel (b.chanFrames i) then none
  else if bytes > subU64 lim.maxQueuedBytesPerChannel (b.chanBytes i) then none
  else match b.reserveQueueBudget lim frames bytes with
    | none => none
    | some b' => some { b' with
        chanFrames := update b.chanFrames i (addU32 (b.chanFrames i) frames)
        chanBytes := update b.chanBytes i (addU64 (b.chanBytes i) bytes) }

/-- `Channel.releaseQueuedLocked`. -/
@[irreducible] def releaseQueuedLocked : Budget :=
  let actualFrames := if frames > b.chanFrames i then b.chanFrames i else frames
  let actualBytes := if bytes > b.chanBytes i then b.chanBytes i else bytes
  { b with
    chanFrames := update b.chanFrames i (b.chanFrames i - actualFrames)
    chanBytes := update b.chanBytes i (b.chanBytes i - actualBytes)
    : Budget }.releaseQueueBudget actualFrames actualBytes

/-- The budget half of `Channel.discardQueuedLocked`. -/
@[irreducible] def discardQueuedLocked : Budget :=
  { b with
    chanFrames := update b.chanFrames i 0
    chanBytes := update b.chanBytes i 0
    : Budget }.releaseQueueBudget (b.chanFrames i) (b.chanBytes i)

end Budget

/-! ## 2. Checks on what the application and the peer pass in -/

/-- `validateTypeAndPayload`. -/
def validateTypeAndPayload (lim : Limits) (typ : String) (payload : Bytes) : Option LimitError :=
  if typ = "" then some .typeRequired
  else if toU32 (len typ) > lim.maxTypeLength then
    some (.typeTooLong (len typ) lim.maxTypeLength)
  else if toU32 payload.length > lim.maxControlPayload then
    some (.controlPayload payload.length lim.maxControlPayload)
  else none

/-- `validateResponse` (and `validateDecision`, which calls it on the decision's fields). -/
def validateResponse (lim : Limits) (code message : String) (payload : Bytes) : Option LimitError :=
  if toU32 (len code) > lim.maxCodeLength then some (.responseCode (len code) lim.maxCodeLength)
  else if toU32 (len message) > lim.maxMessageLength then
    some (.responseMessage (len message) lim.maxMessageLength)
  else if toU32 payload.length > lim.maxControlPayload then
    some (.responsePayload payload.length lim.maxControlPayload)
  else none

/-- `normalizeRejectCode` and `normalizeRejectMessage`. -/
def normalizeReject (text fallback : String) : String := if text = "" then fallback else text

/-- The result a handler's response is sent as. -/
def opResult (r : Response) (code message : String) : OpResult :=
  if r.ok then .success r.payload
  else .reject ⟨normalizeReject r.code code, normalizeReject r.message message, r.payload⟩

/-- The rejection sent when a queue limit refuses a request. -/
def resourceReject (message : String) : Reject := ⟨"resource-limit", message, []⟩

/-! ## 3. A channel under its lock -/

namespace Channel

variable (c : Channel)

/-- The channel's part of `failPendingRequestsLocked`: every waiter gets the error. -/
def pendingFailed (e : Err) : Channel :=
  { c with
    pendingRequests := []
    replies := fun q =>
      if q ∈ c.pendingRequests ∧ c.replies q = none then some (.err e) else c.replies q }

/-- The channel's context cancelled with `e`, below a session context with cause `session`. -/
def canceled (session : Option Err) (e : Err) : Channel :=
  { c with ctxErr := if (c.ctxErr.or session).isSome then c.ctxErr else some e }

/-- The fields `Channel.shutdown` sets. -/
def shut (e : Err) : Channel :=
  { c with
    sessionErr := c.sessionErr.or (some e)
    state := if c.state = .channelClosed then .channelClosed else .channelFailed
    frames := []
    openResult := if c.openWait ∧ c.openResult = none then some (some e) else c.openResult
    openWait := false
    gen := c.gen + 1 }

/-- The fields `Close` sets on an open channel. -/
def closing : Channel :=
  { c with
    state := .channelClosing
    frames := []
    gen := c.gen + 1 }

end Channel

namespace Session

variable (s : Session)

/-! ## 4. Heaps, contexts, waiters -/

def setChan (i : Nat) (c : Channel) : Session := { s with chan := update s.chan i c }

def setWrite (w : Nat) (x : OutboundWrite) : Session :=
  { s with writes := update s.writes w x }

/-- A new `outboundWrite`, made by goroutine `t`; it is number `s.nextWrite`. -/
def addWrite (t : Tid) (chan : Option Nat) (waits : Bool) (env : Envelope) (after : After) :
    Session :=
  { s with
    nextWrite := s.nextWrite + 1
    writes := update s.writes s.nextWrite
      ⟨env, after, waits, .writeQueued, none, chan, t, .hand, false⟩ }

/-- A write that will not reach the connection. -/
def dropWrite (w : Nat) : Session := s.setWrite w { s.writes w with place := .dropped }

/-- `closeCause`. -/
def closeCause : Err :=
  match s.closeErr with
  | some e => e
  | none => s.ctxErr.getD .canceled

/-- `ensureActive`. -/
def ensureActive : Option Err :=
  if s.activated = false then some .sessionNotActive
  else if s.ctxErr.isSome then some s.closeCause
  else none

/-- `context.Cause` of a channel's context, a child of the session's. -/
def chanCause (i : Nat) : Option Err := (s.chan i).ctxErr.or s.ctxErr

/-- `channelErrorLocked`. -/
def channelErrorLocked (i : Nat) : Option Err := (s.chan i).sessionErr.or (s.chanCause i)

/-- `ch.cancel`: the first cancellation of the context counts. -/
def cancelChannel (i : Nat) (e : Err) : Session :=
  s.setChan i ((s.chan i).canceled s.ctxErr e)

/-- Is a send's context done, and with which `ctx.Err()`? A caller's own context may end at any
    time. -/
def ctxDone : SendCtx → Option Err
  | .background => none
  | .caller => some .context
  | .session => if s.ctxErr.isSome then some .canceled else none
  | .channel i => if (s.chanCause i).isSome then some .canceled else none

/-- `failPendingRequestsLocked`. -/
def failPendingRequestsLocked (i : Nat) (e : Err) : Session :=
  { s with
    chan := update s.chan i ((s.chan i).pendingFailed e)
    pendingChannelRequests := s.pendingChannelRequests - (s.chan i).pendingRequests.length }

/-! ## 5. The channel table (`mu`) -/

/-- The table with channel `i` added in a pending slot, under the peer's id if it is known. -/
def pendingAdded (i : Nat) (peerID : Option Nat) : Session :=
  { s.setChan i { s.chan i with slot := .channelSlotPending } with
    peerChannelIDs := match peerID with
      | some p => (p, i) :: s.peerChannelIDs
      | none => s.peerChannelIDs
    channels := s.channels.insert i
    pendingOpens := s.pendingOpens + 1 }

/-- The peer's ids in use. -/
def peerIDs : List Nat := s.peerChannelIDs.map (·.1)

/-- `addPendingChannel`. -/
def addPendingChannel (lim : Limits) (i : Nat) (peerID : Option Nat) : Except Err Session :=
  if s.pendingOpens ≥ lim.maxPendingOpens ∨
      addU32 s.activeChannels s.pendingOpens ≥ lim.maxChannels then
    .error .resourceLimit
  else match peerID with
    | some p =>
      if p ∈ s.peerIDs then .error (.protocol (.duplicatePeerChannel p))
      else .ok (s.pendingAdded i (some p))
    | none => .ok (s.pendingAdded i none)

/-- The table with channel `i` moved from a pending to an active slot. -/
def slotActivated (i : Nat) : Session :=
  { s.setChan i { s.chan i with slot := .channelSlotActive } with
    pendingOpens := s.pendingOpens - 1
    activeChannels := s.activeChannels + 1 }

/-- `activateChannel`. -/
def activateChannel (i : Nat) : Except Err Session :=
  if (s.chan i).slot ≠ .channelSlotPending then .error (.notPending i)
  else if s.pendingOpens = 0 then .error .accountingUnderflow
  else .ok (s.slotActivated i)

/-- `lookupChannelByPeer`. -/
def lookupChannelByPeer (peerID : Nat) : Option Nat :=
  match s.peerChannelIDs.lookup peerID with
  | none => none
  | some i => if i ∈ s.channels then some i else none

/-- `removeChannel`. It does nothing for an id that is not in the table. -/
def removeChannel (i : Nat) : Session :=
  { s.setChan i { s.chan i with
      slot := if i ∈ s.channels then .channelSlotNone else (s.chan i).slot } with
    channels := s.channels.filter (· ≠ i)
    peerChannelIDs :=
      if i ∈ s.channels then s.peerChannelIDs.filter (·.2 ≠ i) else s.peerChannelIDs
    pendingOpens :=
      if i ∈ s.channels ∧ (s.chan i).slot = .channelSlotPending ∧ s.pendingOpens > 0 then
        s.pendingOpens - 1
      else s.pendingOpens
    activeChannels :=
      if i ∈ s.channels ∧ (s.chan i).slot = .channelSlotActive ∧ s.activeChannels > 0 then
        s.activeChannels - 1
      else s.activeChannels }

/-- `Channel.shutdown`. -/
def channelShutdown (i : Nat) (e : Err) : Session :=
  { s with
    chan := update s.chan i ((((s.chan i).pendingFailed e).shut e).canceled s.ctxErr e)
    budget := s.budget.discardQueuedLocked i
    pendingChannelRequests := s.pendingChannelRequests - (s.chan i).pendingRequests.length }

end Session

end Mygosh.Mux

/-
  File:      Mygosh/Session/Inversion.lean
  Subject:   `Session.exec` takes no step but those of `Effect`: one lemma for each section, and
             `effect_of_exec` over all counters.
-/
import Mygosh.Session.Effect

namespace Mygosh.Mux

open Session

variable {cfg : Config} {s : Session} {t : Tid} {c : Choice} {o : Out} {i w : Nat} {typ : String}
  {p : Bytes} {q : Nat} {m : ChannelOpen} {d : Response} {e : Option Err} {res : OpResult}
  {k : Cont} {frame : Bytes} {pc : Pc}

/-! ## 1. Writes and `shutdown` -/

theorem ensure_effect {x : SendCtx} : Effect cfg s t (.ensure w x k) (s.ensure w x k) := by
  unfold ensure
  split
  · exact .send (.ensureFails ‹_›)
  · exact .move (.ensured ‹_›)

theorem reserve_effect {m : Mode} : Effect cfg s t (.reserve w m k) (s.reserve cfg w m k) := by
  cases hb : s.budget.reserveQueueBudget cfg.limits 1 (s.writes w).size with
  | none =>
    simp only [reserve, hb]
    exact .send .reserveFails
  | some b =>
    simp only [reserve, hb]
    exact .send (.reserved hb)

theorem push_effect {m : Mode} : Effect cfg s t (.push w m k) (s.push cfg w m k) := by
  by_cases hq : s.queuesClosed = true
  · simp only [push, if_pos hq]
    exact .send (.pushClosed hq)
  · have hq' : s.queuesClosed = false := by simpa using hq
    cases m with
    | sync x =>
      by_cases hl : s.outboundQueue.length < cfg.limits.maxQueuedFramesTotal
      · simp only [push, if_neg hq, if_pos hl]
        exact .send (.pushSync hq')
      · simp only [push, if_neg hq, if_neg hl]
        exact .send .pushFull
    | async =>
      by_cases hl : s.controlQueue.length < cfg.limits.maxQueuedFramesTotal
      · simp only [push, if_neg hq, if_pos hl]
        exact .send (.pushAsync hq')
      · simp only [push, if_neg hq, if_neg hl]
        exact .send .pushFull

theorem await_effect {x : SendCtx} (h : s.await w x k c = some o) :
    Effect cfg s t (.await w x k) o := by
  unfold await at h
  split at h
  · obtain ⟨e, he, rfl⟩ := Option.map_eq_some_iff.mp h
    exact .send (.awaited he)
  · split at h
    · rename_i e he
      split at h
      · cases h
        exact .send (.canceled ‹_› (.inl he))
      · cases h
    · cases h
  · split at h
    · rename_i hc
      cases h
      exact .send (.canceled hc.2 (.inr hc.1))
    · cases h
  · cases h

theorem shutdown_effect {k : AfterShutdown} (h : s.shutdown t e k = some o) :
    Effect cfg s t (.shutdown e k) o := by
  unfold shutdown at h
  by_cases hc : s.closing = false
  · rw [if_pos hc] at h
    dsimp only at h
    split at h
    · cases h
      exact .down (.disconnect hc ‹_›)
    · rename_i hp
      cases h
      exact .down (.begin hc (by simpa using hp))
  · rw [if_neg hc] at h
    split at h
    · cases h
      exact .move (.shutdownOver (by simpa using hc) ‹_›)
    · cases h

theorem shutChannels_effect {d : Down} (h : s.shutChannels d c = some o) :
    Effect cfg s t (.shutChannels d) o := by
  unfold shutChannels at h
  split at h
  · split at h
    · cases h
      exact .down (.channel ‹_›)
    · cases h
  · split at h
    · cases h
      exact .move (.channelsOver ‹_›)
    · cases h
  · cases h

/-! ## 2. The receiver -/

theorem lookup_effect {env : Envelope} {e : ProtocolError}
    (hv : env.valid = true) (hc : s.connClosed = false) (ha : Addressed env i e pc)
    (hd : ∀ data, env = .channelData i data → data ≠ [])
    (hr : ∀ m, env = .channelRequest m →
      validateTypeAndPayload cfg.limits m.requestType m.payload = none) :
    Effect cfg s t .recv
      { s.lookup i e pc with events := .received env :: (s.lookup i e pc).events } := by
  unfold lookup
  split
  · exact .found hv hc (.channel ha ‹_› hd hr)
  · exact .refused hv hc (.channel ha ‹_›)

theorem route_effect {env : Envelope} (hv : env.valid = true) (hc : s.connClosed = false) :
    Effect cfg s t .recv
      { s.routeEnvelope cfg env with
        events := .received env :: (s.routeEnvelope cfg env).events } := by
  cases env with
  | channelOpen m =>
    simp only [routeEnvelope]
    split
    · exact .refused hv hc (.open ‹_›)
    · exact .found hv hc (.open ‹_›)
  | channelData i data =>
    simp only [routeEnvelope]
    split
    · rename_i h
      obtain ⟨hi, rfl⟩ := h
      exact .refused hv hc (.empty hi)
    · rename_i h
      by_cases hi : i ∈ s.channels
      · exact lookup_effect hv hc .data (fun d hd e => by cases hd; exact h ⟨hi, e⟩) nofun
      · rw [show s.lookup i (.dataUnknownChannel i) (.inData i data)
          = s.routeFailed (.protocol (.dataUnknownChannel i)) from if_neg hi]
        exact .refused hv hc (.channel .data hi)
  | channelRequest m =>
    simp only [routeEnvelope]
    split
    · exact .refused hv hc (.request ‹_›)
    · rename_i h
      exact lookup_effect hv hc .request nofun (fun m' e => by cases e; exact h)
  | globalRequest m =>
    simp only [routeEnvelope]
    split
    · exact .refused hv hc (.global ‹_›)
    · exact .found hv hc (.global ‹_›)
  | disconnect code message =>
    simp only [routeEnvelope]
    split
    · exact .refused hv hc (.disconnect ‹_›)
    · exact .refused hv hc .remote
  | channelOpenResult i res => exact lookup_effect hv hc .openResult nofun nofun
  | channelWindowAdjust i n => exact lookup_effect hv hc .adjust nofun nofun
  | channelEof i => exact lookup_effect hv hc .eof nofun nofun
  | channelClose i => exact lookup_effect hv hc .close nofun nofun
  | channelResult i q res => exact lookup_effect hv hc .result nofun nofun
  | globalResult q res => exact .found hv hc .globalResult
  | unset => exact .refused hv hc .unset

theorem receive_effect (h : s.receive cfg c = some o) : Effect cfg s t .recv o := by
  unfold receive at h
  split at h
  · split at h
    · rename_i hv
      cases h
      exact route_effect hv.1 hv.2
    · cases h
  · cases h
    exact .move .eof
  · split at h
    · cases h
      exact .move .readErr
    · cases h
      exact .move .readErr
  · cases h

theorem inOpen_effect : Effect cfg s t (.inOpen m) (s.inOpen cfg m) := by
  by_cases h : s.nextLocalChannelID = maxUint64
  · simp only [inOpen, reserveLocalChannelID, if_pos h]
    exact .routeFails .noIDs
  · simp only [inOpen, reserveLocalChannelID, if_neg h]
    exact .inOpen (.made h)

theorem inOpenAdd_effect : Effect cfg s t (.inOpenAdd i m) (s.inOpenAdd cfg t i m) := by
  by_cases hl : s.pendingOpens ≥ cfg.limits.maxPendingOpens ∨
      addU32 s.activeChannels s.pendingOpens ≥ cfg.limits.maxChannels
  · simp only [inOpenAdd, addPendingChannel, if_pos hl]
    exact .inOpen .limit
  · by_cases hu : m.senderChannelID ∈ s.peerIDs
    · simp only [inOpenAdd, addPendingChannel, if_neg hl, if_pos hu]
      exact .routeFails (.duplicatePeer hu)
    · simp only [inOpenAdd, addPendingChannel, if_neg hl, if_neg hu]
      push Not at hl
      exact .inOpen (.added hl.1 hl.2 hu)

theorem inOpenReserve_effect : Effect cfg s t (.inOpenReserve i m) (s.inOpenReserve cfg i m) := by
  unfold inOpenReserve
  split
  · exact .move .inOpenNoRoom
  · exact .inOpen (.reserved ‹_›)

theorem inOpenQueue_effect : Effect cfg s t (.inOpenQueue i m) (s.inOpenQueue cfg i m) := by
  unfold inOpenQueue
  split
  · exact .inOpen .queued
  · exact .inOpen .full

theorem inOpenResult_effect {res : OpenResult} :
    Effect cfg s t (.inOpenResult i res) (s.inOpenResult cfg i res) := by
  unfold inOpenResult
  dsimp only
  by_cases hd : (s.chan i).state ≠ .channelOpening ∨ (s.chan i).openWait = false
  · rw [if_pos hd]
    exact .routeFails (.duplicateOpenResult hd)
  · rw [if_neg hd]
    push Not at hd
    have hw : (s.chan i).openWait = true := by simpa using hd.2
    cases res with
    | success a =>
      dsimp only
      split
      · exact .inOpen (.resultFails hd.1 hw)
      · split
        · exact .inOpen (.resultFails hd.1 hw)
        · exact .inOpen (.opened hd.1 hw ‹_›)
    | reject r =>
      dsimp only
      split
      · exact .inOpen (.resultFails hd.1 hw)
      · exact .inOpen (.rejected hd.1 hw)
    | unset => exact .inOpen (.resultFails hd.1 hw)

theorem activateChannel_cases (s : Session) (i : Nat) : (∃ e, s.activateChannel i = .error e) ∨
      ((s.chan i).slot = .channelSlotPending ∧ s.pendingOpens ≠ 0 ∧
        s.activateChannel i = .ok (s.slotActivated i)) := by
  unfold activateChannel
  by_cases hs : (s.chan i).slot = .channelSlotPending
  · by_cases hp : s.pendingOpens = 0
    · exact .inl ⟨_, by rw [if_neg (by simpa using hs), if_pos hp]⟩
    · exact .inr ⟨hs, hp, by rw [if_neg (by simpa using hs), if_neg hp]⟩
  · exact .inl ⟨_, by rw [if_pos hs]⟩

theorem inActivate_effect : Effect cfg s t (.inActivate i) (s.inActivate i) := by
  rcases activateChannel_cases s i with ⟨e, he⟩ | ⟨hs, hp, ho⟩
  · simp only [inActivate, he]
    exact .routeFails (.notActivated he)
  · simp only [inActivate, ho]
    exact .inOpen (.activated hs hp)

theorem inData_effect {data : Bytes} : Effect cfg s t (.inData i data) (s.inData cfg i data) := by
  unfold inData
  dsimp only
  by_cases hs : (s.chan i).state.canReceiveData = false
  · rw [if_pos hs]
    exact .routeFails (.dataInState hs)
  · rw [if_neg hs]
    have hs' : (s.chan i).state.canReceiveData = true := by simpa using hs
    by_cases hp : toU32 data.length > (s.chan i).maxLocalPacket
    · rw [if_pos hp]
      exact .routeFails (.exceededMaxPacket hp)
    · rw [if_neg hp]
      by_cases hw : toU32 data.length > (s.chan i).localWindow
      · rw [if_pos hw]
        exact .routeFails (.exceededWindow hs' hw)
      · rw [if_neg hw]
        split
        · exact .routeFails .dataLimit
        · exact .inFrame (.data hs' (Nat.not_lt.mp hp) (Nat.not_lt.mp hw) ‹_›)

theorem inAdjust_effect {i n : Nat} : Effect cfg s t (.inAdjust i n) (s.inAdjust i n) := by
  unfold inAdjust
  dsimp only
  by_cases hs : (s.chan i).state.allowsRequests = false
  · rw [if_pos hs]
    exact .routeFails (.adjustInState hs)
  · rw [if_neg hs]
    have hs' : (s.chan i).state.allowsRequests = true := by simpa using hs
    split
    · exact .routeFails (.windowOverflow hs' ‹_›)
    · exact .inFrame (.adjust hs' (Nat.not_lt.mp ‹_›))

/-- An event finds room, or it does not. -/
theorem putEvent_cases (cfg : Config) (s : Session) (i : Nat) (ch : Channel) (ev : ChannelEvent) :
    s.putEvent cfg i ch ev = none ∨
      ∃ b, s.budget.reserveQueuedLocked cfg.limits i 1 ev.size = some b ∧
        s.putEvent cfg i ch ev = some (s.eventPut b i ch ev) := by
  unfold putEvent
  split
  · exact .inl rfl
  · rename_i b hb
    split
    · exact .inr ⟨b, hb, rfl⟩
    · exact .inl rfl

theorem eofTo_effect {st : ChannelState} (hst : EofTo (s.chan i).state st) :
    Effect cfg s t (.inEof i)
      (match s.putEvent cfg i { s.chan i with state := st, gen := (s.chan i).gen + 1 } .eof with
        | some s1 => s1.routed
        | none => (s.eventRefused cfg i { s.chan i with state := st, gen := (s.chan i).gen + 1 }
            .eof).routeFailed .resourceLimit) := by
  rcases putEvent_cases cfg s i
    { s.chan i with state := st, gen := (s.chan i).gen + 1 } .eof with h | ⟨b, hb, h⟩
  · rw [h]
    exact .inFrame (.eofFull hst)
  · rw [h]
    exact .inFrame (.eof hst hb)

theorem inEof_effect : Effect cfg s t (.inEof i) (s.inEof cfg i) := by
  unfold inEof
  dsimp only
  split
  · rename_i h
    exact eofTo_effect (by rw [h]; exact .open)
  · rename_i h
    exact eofTo_effect (by rw [h]; exact .localEOF)
  · exact .routeFails (.duplicateEOF (.inl ‹_›))
  · exact .routeFails (.duplicateEOF (.inr ‹_›))
  · exact .routeFails (.eofInState (by cases h : (s.chan i).state <;> simp_all [ChannelState.allowsRequests]))

theorem closeTo_effect (ha : (s.chan i).state.allowsRequests = true) : Effect cfg s t (.inClose i)
      (match s.putEvent cfg i
          { s.chan i with state := .channelClosed, gen := (s.chan i).gen + 1 } .close with
        | some s1 => ⟨s1.addWrite t (some i) false (.channelClose (s.chan i).peerID) .nothing,
            .reserve s.nextWrite .async (.closeAck i), []⟩
        | none => (s.eventRefused cfg i
            { s.chan i with state := .channelClosed, gen := (s.chan i).gen + 1 }
            .close).routeFailed .resourceLimit) := by
  rcases putEvent_cases cfg s i
    { s.chan i with state := .channelClosed, gen := (s.chan i).gen + 1 } .close with h | ⟨b, hb, h⟩
  · rw [h]
    exact .inFrame (.closeFull ha)
  · rw [h]
    exact .inFrame (.close ha hb)

theorem inClose_effect : Effect cfg s t (.inClose i) (s.inClose cfg t i) := by
  unfold inClose
  dsimp only
  cases h : (s.chan i).state with
  | channelClosing => exact .inFrame (.closeAcked h)
  | channelOpening => exact .routeFails (.closeBeforeOpen h)
  | channelClosed => exact .routeFails (.duplicateClose h (.inl rfl))
  | channelFailed => exact .routeFails (.duplicateClose h (.inr rfl))
  | channelOpen | channelLocalEOF | channelRemoteEOF | channelBothEOF =>
    exact closeTo_effect (by rw [h]; rfl)

theorem inRequest_effect {m : RequestMsg} :
    Effect cfg s t (.inRequest i m) (s.inRequest cfg t i m) := by
  unfold inRequest
  dsimp only
  by_cases hs : (s.chan i).state.allowsRequests = false
  · rw [if_pos hs]
    exact .routeFails (.requestInState hs)
  · rw [if_neg hs]
    have hs' : (s.chan i).state.allowsRequests = true := by simpa using hs
    by_cases hd : m.wantReply = true ∧ m.requestID ∈ (s.chan i).incomingRequestIDs
    · rw [if_pos hd]
      exact .routeFails (.duplicateRequest hd.1 hd.2)
    · rw [if_neg hd]
      have hn : m.wantReply = true → m.requestID ∉ (s.chan i).incomingRequestIDs :=
        fun hw hm => hd ⟨hw, hm⟩
      rcases putEvent_cases cfg s i (requestNoted s i m) (.request m) with h | ⟨b, hb, h⟩
      · unfold requestNoted at h
        rw [h]
        by_cases hw : m.wantReply = true
        · rw [if_pos hw]
          have hx : Effect cfg s t (.inRequest i m) _ :=
            .inRequest (.requestRejected hs' hw (hn hw))
          simpa only [requestNoted, if_pos hw] using hx
        · have hw' : m.wantReply = false := by simpa using hw
          have hx : Effect cfg s t (.inRequest i m) _ := .inRequest (.requestLimit hw')
          simpa only [requestNoted, if_neg hw, routeFailed] using hx
      · have hx : Effect cfg s t (.inRequest i m) _ := .inRequest (.request hs' hn hb)
        unfold requestNoted at h hx
        rw [h]
        exact hx

theorem inResult_effect : Effect cfg s t (.inResult i q res) (s.inResult i q res) := by
  unfold inResult
  dsimp only
  split
  · exact .inRequest (.result ‹_›)
  · exact .routeFails (.resultUnknown ‹_›)

theorem inResultRelease_effect :
    Effect cfg s t (.inResultRelease i q res) (s.inResultRelease cfg i q res) := by
  cases h : decodeResult cfg.limits res .resultPayload (.invalidResult q i) .invalidRejection with
  | error e =>
    simp only [inResultRelease, h]
    exact .inRequest (.resultFails h)
  | ok r =>
    simp only [inResultRelease, h]
    exact .inRequest (.resultPut h)

theorem inGlobal_effect {m : GlobalMsg} : Effect cfg s t (.inGlobal m) (s.inGlobal m) := by
  unfold inGlobal
  by_cases hw : m.wantReply = true
  · rw [if_pos hw]
    split
    · exact .routeFails (.duplicateGlobal hw ‹_›)
    · exact .inRequest (.global hw ‹_›)
  · rw [if_neg hw]
    exact .move (.inGlobal (by simpa using hw))

theorem inGlobalReserve_effect {m : GlobalMsg} :
    Effect cfg s t (.inGlobalReserve m) (s.inGlobalReserve cfg t m) := by
  unfold inGlobalReserve
  split
  · unfold refuseGlobal
    by_cases hw : m.wantReply = true
    · rw [if_pos hw]
      exact .inRequest (.globalNoRoom hw)
    · rw [if_neg hw]
      exact .routeFails (.globalLimit (by simpa using hw))
  · exact .inRequest (.globalReserved ‹_›)

theorem inGlobalQueue_effect {m : GlobalMsg} :
    Effect cfg s t (.inGlobalQueue m) (s.inGlobalQueue cfg t m) := by
  unfold inGlobalQueue
  split
  · exact .inRequest .globalQueued
  · unfold refuseGlobal
    by_cases hw : m.wantReply = true
    · rw [if_pos hw]
      exact .inRequest (.globalFull hw)
    · rw [if_neg hw]
      exact .inRequest (.globalLimit (by simpa using hw))

theorem inGlobalResult_effect :
    Effect cfg s t (.inGlobalResult q res) (s.inGlobalResult cfg q res) := by
  by_cases hq : q ∈ s.pendingGlobal
  · cases h : decodeResult cfg.limits res .globalResultPayload (.invalidGlobalResult q)
        .invalidGlobalRejection with
    | error e =>
      simp only [inGlobalResult, if_pos hq, h]
      exact .inRequest (.globalResultFails hq h)
    | ok r =>
      simp only [inGlobalResult, if_pos hq, h]
      exact .inRequest (.globalResultPut hq h)
  · simp only [inGlobalResult, if_neg hq]
    exact .routeFails (.globalUnknown hq)

/-! ## 3. The dispatcher, the writer, the workers -/

theorem dispatch_effect (h : s.dispatch c = some o) : Effect cfg s t .disp o := by
  unfold dispatch at h
  split at h
  · split at h
    · cases h
    · cases h
      exact .dispatch (.taken ‹_›)
  · split at h
    · cases h
      exact .move .dispExit
    · cases h
  · cases h

theorem dispRelease_effect {task : DispatchTask} :
    Effect cfg s t (.dispRelease task) (s.dispRelease task) := by
  cases task with
  | channelOpen m => exact .dispatch .open
  | globalRequest m => exact .dispatch .global

theorem admitLookup_effect : Effect cfg s t (.admitLookup m) (s.admitLookup m) := by
  cases h : s.lookupChannelByPeer m.senderChannelID with
  | none =>
    simp only [admitLookup, h]
    exact .move (.admitGone h)
  | some i =>
    simp only [admitLookup, h]
    exact .move (.admitFound h)

theorem admitDecide_effect : Effect cfg s t (.admitDecide i m) (s.admitDecide cfg i m d) := by
  unfold admitDecide
  split
  · exact .dispatch .decideFails
  · split
    · exact .dispatch (.decideAccept ‹_› ‹_›)
    · exact .dispatch (.decideReject (by simp_all) ‹_›)

theorem admitAccept_effect : Effect cfg s t (.admitAccept i m d) (s.admitAccept i m d) := by
  unfold admitAccept
  dsimp only
  split
  · exact .move (.admitChanged ‹_›)
  · exact .dispatch (.accepted (by simp_all))

theorem admitActivate_effect :
    Effect cfg s t (.admitActivate i m d) (s.admitActivate cfg t i m d) := by
  rcases activateChannel_cases s i with ⟨e, he⟩ | ⟨hs, hp, ho⟩
  · simp only [admitActivate, he]
    exact .move (.admitNotPending he)
  · simp only [admitActivate, ho]
    exact .dispatch (.activated hs hp)

theorem handleGlobal_effect {m : GlobalMsg} {r : Response} :
    Effect cfg s t (.handleGlobal m) (s.handleGlobal cfg t m r) := by
  unfold handleGlobal
  by_cases hw : m.wantReply = false
  · rw [if_pos hw]
    exact .dispatch (.globalNoReply hw)
  · rw [if_neg hw]
    split
    · exact .dispatch .globalFails
    · exact .dispatch (.globalReply (by simpa using hw) ‹_›)

theorem select_effect {b q : Bool} (h : s.select b q = some o) :
    Effect cfg s t (.select b q) o := by
  cases b with
  | true =>
    simp only [select, takeControl, if_true] at h
    split at h
    · cases h
      exact .writer (.takeControl ‹_›)
    · split at h
      · cases h
        exact .move (.selectClosed ‹_› ‹_›)
      · cases h
        exact .move (.selectEmpty (fun _ => ‹_›) (.inl rfl))
  | false =>
    cases q with
    | true =>
      cases h
      exact .move (.selectEmpty nofun (.inr rfl))
    | false =>
      cases h
      exact .move .selectOver

theorem selectBoth_effect {b q : Bool} (h : s.selectBoth b q c = some o) :
    Effect cfg s t (.selectBoth b q) o := by
  unfold selectBoth at h
  split at h
  · split at h
    · rename_i hb
      subst hb
      unfold takeControl at h
      split at h
      · cases h
        exact .writer (.takeControlLater ‹_›)
      · split at h
        · cases h
          exact .move (.controlClosed ‹_› ‹_›)
        · cases h
    · cases h
  · split at h
    · rename_i hq
      subst hq
      unfold takeOutbound at h
      split at h
      · cases h
        exact .writer (.takeOutbound ‹_›)
      · split at h
        · cases h
          exact .move (.outboundClosed ‹_› ‹_›)
        · cases h
    · cases h
  · cases h

theorem claim_effect {b q : Bool} : Effect cfg s t (.claim w b q) (s.claim w b q) := by
  unfold claim
  split
  · exact .writer (.claimed ‹_›)
  · exact .move (.claimFails ‹_›)

theorem skip_effect {b q : Bool} : Effect cfg s t (.skip w b q) (s.skip w b q) := by
  unfold skip
  cases h : (s.writes w).after with
  | nothing => exact .writer (.skip (.inl h))
  | startWorker i => exact .writer (.skip (.inr ⟨i, h⟩))
  | finishRequest i q' => exact .writer (.skipRequest h)
  | finishGlobal q' => exact .writer (.skipGlobal h)

theorem sending_effect {b q : Bool} (h : s.sending w b q c = some o) :
    Effect cfg s t (.sending w b q) o := by
  unfold sending at h
  split at h
  · split at h
    · rename_i hv
      cases h
      exact .writer (.sent hv.1 hv.2)
    · cases h
  · cases h
    exact .writer .sendFails
  · cases h

theorem written_effect {b q : Bool} : Effect cfg s t (.written w e b q) (s.written w e b q) := by
  unfold written
  cases h : (s.writes w).after with
  | nothing => exact .move (.written (.inl h))
  | startWorker i =>
    cases e with
    | none => exact .writer (.startWorker h)
    | some e => exact .move (.written (.inr ⟨i, h, nofun⟩))
  | finishRequest i q' => exact .writer (.finishRequest h)
  | finishGlobal q' => exact .writer (.finishGlobal h)

theorem report_effect {b q : Bool} : Effect cfg s t (.report w e b q) (s.report w e b q) := by
  cases e with
  | none => exact .writer .reported
  | some e => exact .writer .reportFails

theorem work_effect (h : s.work i c = some o) : Effect cfg s (.worker i) .work o := by
  unfold work at h
  split at h
  · split at h
    · cases h
    · cases h
      exact .work (.taken ‹_›)
  · split at h
    · cases h
      exact .move .workExit
    · cases h
  · cases h

theorem workRelease_effect {ev : ChannelEvent} :
    Effect cfg s (.worker i) (.workRelease ev) (s.workRelease i ev) := by
  cases ev with
  | request m => exact .work .request
  | eof => exact .work .eof
  | close => exact .work .close

theorem workRequest_effect {m : RequestMsg} :
    Effect cfg s (.worker i) (.workRequest m) (s.workRequest (.worker i) i m) := by
  unfold workRequest
  dsimp only
  split
  · exact .work (.ticket ‹_›)
  · exact .move (.workRequest rfl (by simp_all))

theorem workRespond_effect {i p : Nat} {m : RequestMsg} {w : Option Nat} {r : Response} :
    Effect cfg s (.worker i) (.workRespond m p w) (s.workRespond cfg i m p w r) := by
  cases w with
  | none => exact .work .noReply
  | some w =>
    unfold workRespond
    dsimp only
    split
    · exact .work .respondFails
    · exact .work (.respond ‹_›)

theorem workFinish_effect : Effect cfg s (.worker i) (.workFinish q e) (s.workFinish i q e) := by
  cases e with
  | none => exact .work .finish
  | some e => exact .work .finishFails

theorem workClosed_effect {b : Bool} :
    Effect cfg s (.worker i) (.workClosed b) (s.workClosed i b) := by
  cases b with
  | true => exact .work .cancel
  | false => exact .work .keep

/-! ## 4. The calls -/

theorem openReserve_effect : Effect cfg s t (.openReserve typ p) (s.openReserve t typ p) := by
  by_cases h : s.nextLocalChannelID = maxUint64
  · simp only [openReserve, reserveLocalChannelID, if_pos h]
    exact .move .openReserveFails
  · simp only [openReserve, reserveLocalChannelID, if_neg h]
    exact .open (.made h)

theorem openAdd_effect : Effect cfg s t (.openAdd i typ p) (s.openAdd cfg i typ p) := by
  by_cases hl : s.pendingOpens ≥ cfg.limits.maxPendingOpens ∨
      addU32 s.activeChannels s.pendingOpens ≥ cfg.limits.maxChannels
  · simp only [openAdd, addPendingChannel, if_pos hl]
    exact .move .openAddFails
  · simp only [openAdd, addPendingChannel, if_neg hl]
    push Not at hl
    exact .open (.added hl.1 hl.2)

theorem openWait_effect {wc : Bool}
    (h : s.openWait i typ p wc c = some o) : Effect cfg s t (.openWait i typ p wc) o := by
  unfold openWait at h
  split at h
  · split at h
    · rename_i hwc
      subst hwc
      split at h
      · cases h
      · cases h
        exact .move (.openFailed ‹_›)
      · cases h
        exact .open (.opened ‹_›)
    · cases h
  · cases h
    exact .move .openAbandon
  · split at h
    · cases h
      exact .move .openAbandon
    · cases h
  · cases h

theorem abandon_effect {e : Err} : Effect cfg s t (.abandon i typ p e) (s.abandon i typ p e) := by
  unfold abandon
  dsimp only
  split
  · exact .open (.abandoned ‹_›)
  · exact .move (.abandonOpened ‹_›)

theorem globalNew_effect {want : Bool} :
    Effect cfg s t (.globalNew typ p want) (s.globalNew cfg t typ p want) := by
  unfold globalNew
  dsimp only
  split
  · exact .move .globalExhausted
  · rename_i hn
    cases want with
    | false =>
      rw [if_neg (by simp)]
      exact .open (.globalSend hn)
    | true =>
      split
      · exact .open (.globalLimit hn)
      · rename_i hl
        exact .open (.globalAsk (Nat.lt_of_not_ge fun h => hl ⟨rfl, h⟩) hn)

theorem globalWait_effect
    (h : s.globalWait q typ p c = some o) : Effect cfg s t (.globalWait q typ p) o := by
  unfold globalWait at h
  split at h
  · split at h
    · cases h
    · cases h
      exact .move (.globalReply ‹_›)
    · cases h
      exact .move (.globalFailed ‹_›)
  · cases h
    exact .move .globalLeave
  · split at h
    · cases h
      exact .move .globalLeave
    · cases h
  · cases h

theorem sendLoop_effect : Effect cfg s t (.sendLoop i frame) (s.sendLoop t i frame) := by
  unfold sendLoop
  dsimp only
  split
  · exact .move .sendFails
  · rename_i he
    by_cases hs : (s.chan i).state.canSendData = false
    · rw [if_pos hs]
      split
      · exact .move .sendFails
      · exact .move .sendFails
    · rw [if_neg hs]
      have hs' : (s.chan i).state.canSendData = true := by simpa using hs
      by_cases hp : frame.length > (s.chan i).maxRemotePacket
      · rw [if_pos hp]
        exact .move .sendFails
      · rw [if_neg hp]
        split
        · exact .data (.send he hs' (Nat.not_lt.mp hp) ‹_›)
        · exact .move (.sendBlocks hs' (Nat.not_lt.mp hp) (Nat.not_le.mp ‹_›))

theorem sendWait_effect {gen : Nat} (h : s.sendWait i frame gen c = some o) :
    Effect cfg s t (.sendWait i frame gen) o := by
  unfold sendWait at h
  split at h
  · cases h
    exact .move .sendLeave
  · split at h
    · cases h
      exact .move .sendLeave
    · cases h
  · split at h
    · cases h
      exact .move (.sendWake ‹_›)
    · cases h
  · cases h

theorem sendRefund_effect {e : Err} :
    Effect cfg s t (.sendRefund i frame w e) (s.sendRefund i frame w e) := by
  unfold sendRefund
  dsimp only
  split
  · exact .data (.refund ‹_›)
  · exact .move (.refundLost (Nat.not_le.mp ‹_›))

theorem recvLoop_effect : Effect cfg s t (.recvLoop i) (s.recvLoop cfg t i) := by
  unfold recvLoop
  dsimp only
  split
  · rename_i frame rest hf
    split
    · exact .data (.recvAdjust hf ‹_›)
    · exact .data (.recv hf (Nat.eq_zero_of_not_pos ‹_›))
  · rename_i hf
    by_cases hr : (s.chan i).state.readEOF = true
    · rw [if_pos hr]
      split
      · exact .move (.recvClosed hf ‹_›)
      · exact .data (.recvEOF (.state hf hr ‹_›))
    · rw [if_neg hr]
      split
      · rename_i e he
        split
        · exact .data (.recvEOF (.session hf he ‹_›))
        · exact .move .recvFails
      · exact .move .recvBlocks

theorem recvWait_effect {gen : Nat} (h : s.recvWait i gen c = some o) :
    Effect cfg s t (.recvWait i gen) o := by
  unfold recvWait at h
  split at h
  · cases h
    exact .move .recvLeave
  · split at h
    · rename_i hc
      split at h
      · rename_i e he
        split at h
        · rename_i hx
          cases h
          exact .data (.recvDone hc (fun e' he' => by
            rw [he] at he'
            cases he'
            exact hx))
        · cases h
          exact .move .recvLeave
      · rename_i he
        cases h
        exact .data (.recvDone hc (fun e' he' => by rw [he] at he'; cases he'))
    · cases h
  · split at h
    · cases h
      exact .move .recvWake
    · cases h
  · cases h

theorem requestLock_effect {want : Bool} :
    Effect cfg s t (.requestLock i typ p want) (s.requestLock cfg t i typ p want) := by
  unfold requestLock
  dsimp only
  split
  · exact .move .requestFails
  · rename_i he
    by_cases hs : (s.chan i).state.allowsRequests = false
    · rw [if_pos hs]
      exact .move .requestFails
    · rw [if_neg hs]
      have hs' : (s.chan i).state.allowsRequests = true := by simpa using hs
      split
      · exact .move .requestFails
      · rename_i hn
        cases want with
        | false =>
          rw [if_neg (by simp), if_neg (by simp)]
          exact .close (.requestSend he hs' hn)
        | true =>
          split
          · exact .close (.requestLimit hn)
          · rename_i hp
            split
            · exact .close (.requestLimit hn)
            · rename_i hl
              exact .close (.requestAsk he hs' (Nat.lt_of_not_ge fun h => hp ⟨rfl, h⟩)
                (Nat.lt_of_not_ge fun h => hl ⟨rfl, h⟩) hn)

theorem requestWait_effect
    (h : s.requestWait i q typ p c = some o) : Effect cfg s t (.requestWait i q typ p) o := by
  unfold requestWait at h
  split at h
  · split at h
    · cases h
    · cases h
      exact .move (.requestReply ‹_›)
    · cases h
      exact .move (.requestFailed ‹_›)
  · cases h
    exact .move .requestLeave
  · split at h
    · cases h
      exact .move .requestLeave
    · cases h
  · cases h

theorem requestDrop_effect :
    Effect cfg s t (.requestDrop i q typ p e) (s.requestDrop i q typ p e) := by
  unfold requestDrop
  dsimp only
  split
  · exact .close (.requestDropped ‹_›)
  · exact .move (.requestGone ‹_›)

theorem requestError_effect :
    Effect cfg s t (.requestError i q typ p) (s.requestError i q typ p) := by
  unfold requestError
  split
  · exact .move .requestError
  · exact .move (.requestNoError ‹_›)

theorem closeWrite_effect : Effect cfg s t (.closeWrite i) (s.closeWrite t i) := by
  unfold closeWrite
  dsimp only
  split
  · exact .move .closeWriteOver
  · rename_i he
    cases h : (s.chan i).state with
    | channelOpen =>
      have hx : Effect cfg s t (.closeWrite i) _ := .close (.closeWrite he (h ▸ CloseWriteTo.open))
      simpa only [h] using hx
    | channelRemoteEOF =>
      have hx : Effect cfg s t (.closeWrite i) _ := .close (.closeWrite he (h ▸ CloseWriteTo.remoteEOF))
      simpa only [h] using hx
    | channelLocalEOF | channelBothEOF => exact .move .closeWriteOver
    | channelOpening | channelClosing | channelClosed | channelFailed => exact .move .closeWriteOver

theorem closeWriteUndo_effect {st : ChannelState} {e : Err} :
    Effect cfg s t (.closeWriteUndo i st w e) (s.closeWriteUndo i st w e) := by
  unfold closeWriteUndo
  dsimp only
  split
  · exact .close (.undone ‹_›)
  · rename_i h
    push Not at h
    exact .move (.undoOver h.1 h.2)

theorem close_effect {k : CloseFor} : Effect cfg s t (.close i k) (s.close t i k) := by
  unfold close
  dsimp only
  cases h : (s.chan i).state with
  | channelOpening => exact .close (.closeOpening h)
  | channelClosing | channelClosed | channelFailed =>
    exact .move (.closeOver (by rw [h]; rfl) (by rw [h]; nofun))
  | channelOpen | channelLocalEOF | channelRemoteEOF | channelBothEOF =>
    exact .close (.close (by rw [h]; rfl))

/-! ## 5. The start of a goroutine, and all counters -/

theorem call_effect {n : Nat} {a : Api} (h : s.call cfg a = some o) :
    Effect cfg s (.call n) .start o := by
  cases a with
  | openChannel typ p =>
    simp only [call] at h
    split at h
    · cases h
      exact .move (.start .openFails)
    · split at h
      · cases h
        exact .move (.start .openFails)
      · cases h
        exact .move (.start (.openReserve ‹_›))
  | sendGlobalRequest typ p want =>
    simp only [call] at h
    split at h
    · cases h
      exact .move (.start .globalFails)
    · split at h
      · cases h
        exact .move (.start .globalFails)
      · cases h
        exact .move (.start (.globalNew ‹_›))
  | send i frame =>
    simp only [call] at h
    split at h
    · split at h
      · cases h
        exact .move (.start .sendFails)
      · split at h
        · cases h
          exact .move (.start .sendFails)
        · cases h
          exact .move (.start (.sendLoop ‹_› ‹_› (Nat.not_lt.mp ‹_›)))
    · cases h
  | sendRequest i typ p want =>
    simp only [call] at h
    split at h
    · split at h
      · cases h
        exact .move (.start .requestFails)
      · cases h
        exact .move (.start (.requestLock ‹_› ‹_›))
    · cases h
  | recv i =>
    simp only [call] at h
    split at h
    · cases h
      exact .move (.start (.recvLoop ‹_›))
    · cases h
  | closeWrite i =>
    simp only [call] at h
    split at h
    · cases h
      exact .move (.start (.closeWrite ‹_›))
    · cases h
  | close i =>
    simp only [call] at h
    split at h
    · cases h
      exact .move (.start (.close ‹_›))
    · cases h
  | sessionClose =>
    cases h
    exact .move (.start .sessionClose)

/-- A loop that waits for `Activate` starts or ends. -/
theorem waitForActivation_cases {loop : Pc} (h : s.waitForActivation loop c = some o) :
    o = ⟨s, loop, []⟩ ∨ o = ⟨s, .exited, []⟩ := by
  unfold waitForActivation at h
  split at h
  · split at h
    · cases h
      exact .inl rfl
    · cases h
  · split at h
    · cases h
      exact .inr rfl
    · cases h
  · cases h

theorem workStart_effect (h : s.workStart i c = some o) : Effect cfg s (.worker i) .start o := by
  unfold workStart at h
  split at h
  · split at h
    · rename_i hw
      split at h
      · cases h
        exact .move (.start .exit)
      · cases h
        exact .work (.start hw.1)
    · cases h
  · split at h
    · cases h
      exact .move (.start .exit)
    · cases h
  · cases h

theorem timeout_effect (h : s.timeout i c = some o) : Effect cfg s (.timer i) .start o := by
  unfold timeout at h
  split at h
  · split at h
    · rename_i ha
      split at h
      · cases h
        exact .move (.start .exit)
      · rename_i hs
        cases h
        exact .work (.timeout ha (by simpa using hs))
    · cases h
  · split at h
    · cases h
      exact .move (.start .exit)
    · cases h
  · cases h

theorem environment_effect (h : s.environment c = some o) : Effect cfg s .env .start o := by
  unfold environment at h
  split at h
  · cases h
    exact .down (.activate rfl)
  · split at h
    · cases h
      exact .down (.parent rfl ‹_›)
    · cases h
  · cases h

theorem begin_effect (h : s.begin cfg t c = some o) : Effect cfg s t .start o := by
  unfold begin at h
  split at h
  · rcases waitForActivation_cases h with rfl | rfl
    · exact .move (.start .receiver)
    · exact .move (.start .exit)
  · rcases waitForActivation_cases h with rfl | rfl
    · exact .move (.start .dispatcher)
    · exact .move (.start .exit)
  · rcases waitForActivation_cases h with rfl | rfl
    · exact .move (.start .writer)
    · exact .move (.start .exit)
  · exact workStart_effect h
  · exact timeout_effect h
  · exact call_effect h
  · obtain ⟨e, he, rfl⟩ := Option.map_eq_some_iff.mp h
    exact .move (.start (.late he))
  · split at h
    · cases h
      exact .down (.finalize rfl ‹_›)
    · cases h
  · exact environment_effect h
  · cases h

theorem only_eq {x : Out} (h : only x c = some o) : x = o := by
  unfold only at h
  split at h
  · exact Option.some.inj h
  · cases h

theorem onAnswer_eq {f : Response → Out} (h : onAnswer f c = some o) : ∃ r, f r = o := by
  unfold onAnswer at h
  split at h
  · exact ⟨_, Option.some.inj h⟩
  · cases h

/-- A section with one way on, once its outcome is known to be a rule. -/
theorem effect_of_only {x : Out} (hx : Effect cfg s t pc x) (h : only x c = some o) :
    Effect cfg s t pc o := only_eq h ▸ hx

theorem go_eq {x : Option Out} (h : (if c = .go then x else none) = some o) : x = some o := by
  split at h
  · exact h
  · cases h

theorem globalFinish_effect : Effect cfg s t (.globalFinish q e) (s.globalFinish q e) := by
  cases e with
  | none => exact .dispatch .globalFinish
  | some e => exact .dispatch .globalFinishFails

/-- **The inversion of `exec`**: every step is one of the rules of `Effect`. -/
theorem effect_of_exec (h : s.exec cfg t c pc = some o) : Effect cfg s t pc o := by
  cases pc with
  | start => exact begin_effect h
  | exited => cases h
  | done r => cases h
  | ensure w x k => exact effect_of_only ensure_effect h
  | reserve w m k => exact effect_of_only reserve_effect h
  | push w m k => exact effect_of_only push_effect h
  | await w x k => exact await_effect h
  | shutdown e k => exact shutdown_effect (go_eq h)
  | shutCancel d => exact effect_of_only (.down .cancel) h
  | shutChannels d => exact shutChannels_effect h
  | shutGlobals d => exact effect_of_only (.down .globals) h
  | shutQueues d => exact effect_of_only (.down .queues) h
  | recv => exact receive_effect h
  | inOpen m => exact effect_of_only inOpen_effect h
  | inOpenAdd i m => exact effect_of_only inOpenAdd_effect h
  | inOpenReserve i m => exact effect_of_only inOpenReserve_effect h
  | inOpenQueue i m => exact effect_of_only inOpenQueue_effect h
  | inOpenRemove i m => exact effect_of_only (.inOpen .removed) h
  | inOpenShut i m => exact effect_of_only (.inOpen .shut) h
  | inOpenResult i res => exact effect_of_only inOpenResult_effect h
  | inActivate i => exact effect_of_only inActivate_effect h
  | inStart i => exact effect_of_only (.inOpen .started) h
  | inRejectRemove i e => exact effect_of_only (.inOpen .rejectRemoved) h
  | inRejectShut i e => exact effect_of_only (.inOpen .rejectShut) h
  | inData i data => exact effect_of_only inData_effect h
  | inAdjust i n => exact effect_of_only inAdjust_effect h
  | inEof i => exact effect_of_only inEof_effect h
  | inClose i => exact effect_of_only inClose_effect h
  | inCloseRemove i => exact effect_of_only (.inFrame .closeRemoved) h
  | inRequest i m => exact effect_of_only inRequest_effect h
  | inRequestFinish i q e => exact effect_of_only (.inRequest .requestFinish) h
  | inResult i q res => exact effect_of_only inResult_effect h
  | inResultRelease i q res => exact effect_of_only inResultRelease_effect h
  | inGlobal m => exact effect_of_only inGlobal_effect h
  | inGlobalReserve m => exact effect_of_only inGlobalReserve_effect h
  | inGlobalQueue m => exact effect_of_only inGlobalQueue_effect h
  | inGlobalFinish q e => exact effect_of_only (.inRequest .globalFinish) h
  | inGlobalResult q res => exact effect_of_only inGlobalResult_effect h
  | disp => exact dispatch_effect h
  | dispRelease task => exact effect_of_only dispRelease_effect h
  | admitLookup m => exact effect_of_only admitLookup_effect h
  | admitDecide i m =>
    obtain ⟨d, rfl⟩ := onAnswer_eq h
    exact admitDecide_effect
  | admitAbort i e => exact effect_of_only (.dispatch .abortRemoved) h
  | admitAbortShut i e => exact effect_of_only (.dispatch .abortShut) h
  | admitReject i m d => exact effect_of_only (.dispatch .rejectRemoved) h
  | admitRejectShut i m d => exact effect_of_only (.dispatch .rejectShut) h
  | admitAccept i m d => exact effect_of_only admitAccept_effect h
  | admitActivate i m d => exact effect_of_only admitActivate_effect h
  | handleGlobal m =>
    obtain ⟨r, rfl⟩ := onAnswer_eq h
    exact handleGlobal_effect
  | globalFinish q e => exact effect_of_only globalFinish_effect h
  | select b q => exact select_effect (go_eq h)
  | selectBoth b q => exact selectBoth_effect h
  | popped w b q => exact effect_of_only (.writer .popped) h
  | claim w b q => exact effect_of_only claim_effect h
  | skip w b q => exact effect_of_only skip_effect h
  | sending w b q => exact sending_effect h
  | written w e b q => exact effect_of_only written_effect h
  | report w e b q => exact effect_of_only report_effect h
  | work =>
    cases t with
    | worker i => exact work_effect h
    | _ => cases h
  | workRelease ev =>
    cases t with
    | worker i => exact effect_of_only workRelease_effect h
    | _ => cases h
  | workRequest m =>
    cases t with
    | worker i => exact effect_of_only workRequest_effect h
    | _ => cases h
  | workRespond m p w =>
    cases t with
    | worker i =>
      obtain ⟨r, rfl⟩ := onAnswer_eq h
      exact workRespond_effect
    | _ => cases h
  | workFinish q e =>
    cases t with
    | worker i => exact effect_of_only workFinish_effect h
    | _ => cases h
  | workClose =>
    cases t with
    | worker i => exact effect_of_only (.work .remoteClose) h
    | _ => cases h
  | workClosed b =>
    cases t with
    | worker i => exact effect_of_only workClosed_effect h
    | _ => cases h
  | timeoutRemove =>
    cases t with
    | timer i => exact effect_of_only (.work .timeoutRemoved) h
    | _ => cases h
  | openReserve typ p => exact effect_of_only openReserve_effect h
  | openAdd i typ p => exact effect_of_only openAdd_effect h
  | openSend i typ p => exact effect_of_only (.open .send) h
  | openRemove i typ p e => exact effect_of_only (.open .removed) h
  | openShut i typ p e => exact effect_of_only (.open .shut) h
  | openWait i typ p b => exact openWait_effect h
  | abandon i typ p e => exact effect_of_only abandon_effect h
  | globalNew typ p want => exact effect_of_only globalNew_effect h
  | globalWait q typ p => exact globalWait_effect h
  | globalDrop q typ p e => exact effect_of_only (.open .globalDropped) h
  | sendLoop i frame => exact effect_of_only sendLoop_effect h
  | sendWait i frame gen => exact sendWait_effect h
  | sendRefund i frame w e => exact effect_of_only sendRefund_effect h
  | recvLoop i => exact effect_of_only recvLoop_effect h
  | recvWait i gen => exact recvWait_effect h
  | recvCancel i => exact effect_of_only (.data .recvCancel) h
  | requestLock i typ p want => exact effect_of_only requestLock_effect h
  | requestWait i q typ p => exact requestWait_effect h
  | requestDrop i q typ p e => exact effect_of_only requestDrop_effect h
  | requestRelease i q typ p e => exact effect_of_only (.close .requestReleased) h
  | requestError i q typ p => exact effect_of_only requestError_effect h
  | closeWrite i => exact effect_of_only closeWrite_effect h
  | closeWriteUndo i st w e => exact effect_of_only closeWriteUndo_effect h
  | close i k => exact effect_of_only close_effect h
  | closeRemove i k => exact effect_of_only (.close .closeRemoved) h
  | closeShut i k => exact effect_of_only (.close .closeShut) h
  | closeArm i k => exact effect_of_only (.close .closeArmed) h

/-- One step of the machine: the section that is passed. -/
theorem Machine.exec_of_step {m m' : Machine} {a : Act} {evs : List Event}
    (h : (Machine.lts cfg).step m a = some (m', evs)) :
    ∃ o, m.sess.exec cfg a.tid a.choice (m.pc a.tid) = some o ∧
      m' = ⟨o.sess, Function.update m.pc a.tid o.pc⟩ ∧ evs = o.events := by
  simp only [Machine.lts, Machine.step] at h
  split at h
  · cases h
  · rename_i o ho
    cases h
    exact ⟨o, ho, rfl, rfl⟩

/-- One step of the machine: the rule it follows, and the machine after it. -/
theorem Machine.effect_of_step {m m' : Machine} {a : Act} {evs : List Event}
    (h : (Machine.lts cfg).step m a = some (m', evs)) :
    ∃ o, Effect cfg m.sess a.tid (m.pc a.tid) o ∧ m'.sess = o.sess ∧
      m'.pc = Function.update m.pc a.tid o.pc ∧ evs = o.events := by
  obtain ⟨o, hx, rfl, rfl⟩ := Machine.exec_of_step h
  exact ⟨o, effect_of_exec hx, rfl, rfl, rfl⟩

/-- **The rule for a session's invariants**: what holds at the start and is kept by every effect holds
    along every run. -/
theorem Machine.run_invariant {C : Machine → Act → Prop} {I : List Event → Machine → Prop}
    {tr : List Event} {m : Machine} (h : (Machine.lts cfg).Run C tr m) (h0 : I [] Machine.start)
    (hstep : ∀ {tr m a o}, (Machine.lts cfg).Run C tr m → I tr m → C m a →
      Effect cfg m.sess a.tid (m.pc a.tid) o →
      I (tr ++ o.events) ⟨o.sess, Function.update m.pc a.tid o.pc⟩) : I tr m := by
  refine h.invariant h0 fun {tr evs m m' a} hr hI hC hs => ?_
  obtain ⟨o, he, hsess, hpc, rfl⟩ := Machine.effect_of_step hs
  obtain ⟨s', pc'⟩ := m'
  cases hsess
  cases hpc
  exact hstep hr hI hC he

end Mygosh.Mux

/-
  File:      Mygosh/Session/Frames.lean
  Subject:   Which frames a session decides, at which counter and for which channel.

  * `Decides` -- the section at a counter makes a write with this frame, callback and channel;
  * `frame_step` -- every new write is one of these.
-/
import Mygosh.Session.Life

namespace Mygosh.Mux

open Session

/-! ## 1. Frames -/

/-- The peer's channel a frame is about, for the frames only the channel itself sends. -/
def Envelope.about : Envelope → Option Nat
  | .channelOpenResult p (.success _) => some p
  | .channelData p _ | .channelWindowAdjust p _ | .channelEof p | .channelClose p => some p
  | .channelRequest m => some m.recipientChannelID
  | .channelResult p _ _ => some p
  | _ => none

/-- Which local id a frame tells the peer. -/
def Envelope.announces : Envelope → Option Nat
  | .channelOpen m => some m.senderChannelID
  | .channelOpenResult _ (.success a) => some a.senderChannelID
  | _ => none

section

variable (cfg : Config) (s : Session) (t : Tid)

/-- The frames the sections of a session decide, with the callback and the channel of the write. -/
inductive Decides : Pc → Envelope → After → Option Nat → Prop where
  | openSend {i typ p} : Decides (.openSend i typ p)
      (.channelOpen ⟨typ, i, cfg.initialWindow, cfg.maxPacketSize, p⟩) .nothing none
  | openAccept {i m d} (h : (s.chan i).slot = .channelSlotPending) : Decides (.admitActivate i m d)
      (.channelOpenResult m.senderChannelID
        (.success ⟨i, cfg.initialWindow, cfg.maxPacketSize, d.payload⟩)) (.startWorker i) (some i)
  | openReject {i m d} : Decides (.admitRejectShut i m d)
      (.channelOpenResult m.senderChannelID (.reject
        ⟨normalizeReject d.code "channel-open-rejected",
          normalizeReject d.message "channel open rejected", d.payload⟩)) .nothing none
  | openLimit {pc i m text} (h : pc = .inOpenAdd i m ∧ text = "channel limit reached" ∨
        pc = .inOpenShut i m ∧ text = "channel queue limit reached") : Decides pc
      (.channelOpenResult m.senderChannelID (.reject (resourceReject text))) .nothing none
  | data {i frame} (he : s.channelErrorLocked i = none) (hs : (s.chan i).state.canSendData = true)
      (hp : frame.length ≤ (s.chan i).maxRemotePacket)
      (hw : toU32 frame.length ≤ (s.chan i).remoteWindow) : Decides (.sendLoop i frame)
      (.channelData (s.chan i).peerID frame) .nothing (some i)
  | adjust {i frame rest} (hf : (s.chan i).frames = frame :: rest)
      (h : 0 < adjustBytes cfg (s.chan i) frame) : Decides (.recvLoop i)
      (.channelWindowAdjust (s.chan i).peerID (adjustBytes cfg (s.chan i) frame)) .nothing (some i)
  | request {i typ p want} (hs : (s.chan i).state.allowsRequests = true) :
      Decides (.requestLock i typ p want)
      (.channelRequest ⟨(s.chan i).peerID, (s.chan i).nextRequestID, typ, want, p⟩) .nothing
      (some i)
  | eof {i st} (hs : CloseWriteTo (s.chan i).state st) : Decides (.closeWrite i)
      (.channelEof (s.chan i).peerID) .nothing (some i)
  | close {i k} (hs : (s.chan i).state.allowsRequests = true) : Decides (.close i k)
      (.channelClose (s.chan i).peerID) .nothing (some i)
  | closeAck {i} (hs : (s.chan i).state.allowsRequests = true) : Decides (.inClose i)
      (.channelClose (s.chan i).peerID) .nothing (some i)
  | requestLimit {i m} (hs : (s.chan i).state.allowsRequests = true) (hw : m.wantReply = true) :
      Decides (.inRequest i m)
      (.channelResult (s.chan i).peerID m.requestID
        (.reject (resourceReject "channel request queue limit reached")))
      (.finishRequest i m.requestID) (some i)
  | result {i m} (ht : t = .worker i) (hw : m.wantReply = true) : Decides (.workRequest m)
      (.channelResult (s.chan i).peerID m.requestID .unset) .nothing (some i)
  | globalRequest {typ p want} : Decides (.globalNew typ p want)
      (.globalRequest ⟨s.nextGlobalRequestID, typ, want, p⟩) .nothing none
  | globalResult {m r} (hw : m.wantReply = true)
      (hv : validateResponse cfg.limits r.code r.message r.payload = none) :
      Decides (.handleGlobal m)
      (.globalResult m.requestID (opResult r "global-request-rejected" "global request rejected"))
      .nothing none
  | globalLimit {pc m} (h : pc = .inGlobalReserve m ∨ pc = .inGlobalQueue m) : Decides pc
      (.globalResult m.requestID (.reject (resourceReject "global request queue limit reached")))
      (.finishGlobal m.requestID) none
  | disconnect {e k} : Decides (.shutdown e k) (.disconnect "protocol-error" "protocol error")
      .nothing none

/-- A step makes no write, or one that its section decides. -/
inductive FrameStep : Pc → Out → Prop where
  | none {pc o} (hn : o.sess.nextWrite = s.nextWrite) : FrameStep pc o
  | decided {pc o env after waits ch} (hn : o.sess.nextWrite = s.nextWrite + 1)
      (hw : o.sess.writes = Function.update s.writes s.nextWrite
        ⟨env, after, waits, .writeQueued, none, ch, t, .hand, false⟩)
      (h : Decides cfg s t pc env after ch) : FrameStep pc o

end

section

variable {cfg : Config} {s : Session} {t : Tid} {pc : Pc} {o : Out}

/-- **Every new write is one its section decides.** -/
theorem frame_step (h : Effect cfg s t pc o) : FrameStep cfg s t pc o := by
  cases h with
  | move | found | refused | routeFails => exact .none rfl
  | send h => cases h <;> exact .none rfl
  | down h =>
    cases h with
    | disconnect => exact .decided rfl rfl .disconnect
    | _ => exact .none rfl
  | writer h => cases h <;> exact .none rfl
  | inOpen h =>
    cases h with
    | limit => exact .decided rfl rfl (.openLimit (.inl ⟨rfl, rfl⟩))
    | shut => exact .decided rfl rfl (.openLimit (.inr ⟨rfl, rfl⟩))
    | _ => exact .none rfl
  | inFrame h =>
    cases h with
    | close hs => exact .decided rfl rfl (.closeAck hs)
    | _ => exact .none rfl
  | inRequest h =>
    cases h with
    | requestRejected hs hw => exact .decided rfl rfl (.requestLimit hs hw)
    | globalNoRoom => exact .decided rfl rfl (.globalLimit (.inl rfl))
    | globalFull => exact .decided rfl rfl (.globalLimit (.inr rfl))
    | _ => exact .none rfl
  | dispatch h =>
    cases h with
    | rejectShut => exact .decided rfl rfl .openReject
    | activated h => exact .decided rfl rfl (.openAccept h)
    | globalReply hw hv => exact .decided rfl rfl (.globalResult hw hv)
    | _ => exact .none rfl
  | work h =>
    cases h with
    | ticket hw => exact .decided rfl rfl (.result rfl hw)
    | _ => exact .none rfl
  | «open» h =>
    cases h with
    | send => exact .decided rfl rfl .openSend
    | globalSend | globalAsk => exact .decided rfl rfl .globalRequest
    | _ => exact .none rfl
  | data h =>
    cases h with
    | send he hs hp hw => exact .decided rfl rfl (.data he hs hp hw)
    | recvAdjust hf h => exact .decided rfl rfl (.adjust hf h)
    | _ => exact .none rfl
  | close h =>
    cases h with
    | requestSend _ hs | requestAsk _ hs => exact .decided rfl rfl (.request hs)
    | closeWrite _ hs => exact .decided rfl rfl (.eof hs)
    | close hs => exact .decided rfl rfl (.close hs)
    | _ => exact .none rfl

end

end Mygosh.Mux

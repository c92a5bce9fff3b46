/-
  File:      Mygosh/Link/Pair.lean
  Subject:   Two sessions on one connection, and which of their channels belong together.

  * `link` -- two sessions joined by a FIFO connection in each direction;
  * `link_party`, `link_fifo` -- each end runs a session, and reads what the other has written;
  * `pair_agrees` -- where one end pairs its channel `i` with `j`, the other pairs `j` with `i` or
    with nothing yet; `peers_nodup` -- no two channels of one end have the same pair;
  * `addressed` -- a frame names the channel it is for by its pair.
-/
import Mygosh.Duplex
import Mygosh.Session.Announce
import Mygosh.Session.Reads

namespace Mygosh.Mux

open Session Duplex

/-! ## 1. The connection -/

/-- The frame an event takes from the connection. -/
def Event.read : Event → Option Envelope
  | .received env => some env
  | _ => none

/-- The frame an event puts on the connection. -/
def Event.sent : Event → Option Envelope
  | .wrote _ env => some env
  | _ => none

/-- Two sessions on one connection. -/
def link (cfg : Side → Config) : Lts (Duplex Machine Envelope) (Side × Act) (Side × Event) :=
  Duplex.lts (fun x => Machine.lts (cfg x)) Event.read Event.sent

/-- Two sessions whose configurations `Prepare` has accepted. -/
abbrev connection (cfg : Side → Prepared) :
    Lts (Duplex Machine Envelope) (Side × Act) (Side × Event) := link fun x => (cfg x).config

/-- The frames one end has written, in order. -/
def frames (tr : List Event) : List Envelope := (written tr).map (·.2)

theorem filterMap_sent (tr : List Event) : tr.filterMap Event.sent = frames tr := by
  unfold frames written
  rw [List.map_filterMap]
  refine List.filterMap_congr fun e _ => ?_
  cases e <;> rfl

section Link

variable {cfg : Side → Config} {C : Duplex Machine Envelope → Side × Act → Prop}
  {tr : List (Side × Event)} {d : Duplex Machine Envelope} {x : Side}

/-- Each end runs a session. -/
theorem link_party (h : (link cfg).Run C tr d) (x : Side) :
    (Machine.lts (cfg x)).Run (fun _ _ => True) (events x tr) (d.party x) :=
  Duplex.run_party (D := fun _ _ _ => True) (fun _ _ _ _ => trivial) h x

/-- Each end reads what the other has written. -/
theorem link_fifo (h : (link cfg).Run C tr d) (x : Side) :
    frames (events x tr) = received (events x.other tr) ++ d.wire x := by
  rw [← filterMap_sent]
  exact Duplex.fifo h x

theorem received_le (h : (link cfg).Run C tr d) (x : Side) :
    received (events x tr) <+: frames (events x.other tr) := by
  rw [link_fifo h x.other, Side.other_other]
  exact List.prefix_append ..

theorem written_of_received (h : (link cfg).Run C tr d) {env : Envelope}
    (he : env ∈ received (events x tr)) : ∃ w, (w, env) ∈ written (events x.other tr) := by
  obtain ⟨⟨w, env'⟩, hw, rfl⟩ := List.mem_map.1 ((received_le h x).subset he)
  exact ⟨w, hw⟩

end Link

/-! ## 2. Announcements -/

/-- What a frame announces: an open, or the answer to an own open. -/
def Envelope.announcement : Envelope → Option (ChannelOpen ⊕ Nat × ChannelOpenAccept)
  | .channelOpen m => some (.inl m)
  | .channelOpenResult i (.success a) => some (.inr (i, a))
  | _ => none

/-- The announcement an event has taken up. -/
def Event.announcement : Event → Option (ChannelOpen ⊕ Nat × ChannelOpenAccept)
  | .incoming _ m => some (.inl m)
  | .answered i a => some (.inr (i, a))
  | _ => none

/-- The peer's id in an announcement. -/
def announcedID : ChannelOpen ⊕ Nat × ChannelOpenAccept → Nat
  | .inl m => m.senderChannelID
  | .inr (_, a) => a.senderChannelID

theorem map_announcement (env : Envelope) : env.announcement.map announcedID = env.announces := by
  cases env with
  | channelOpenResult p res => cases res <;> rfl
  | _ => rfl

theorem pairings_announced (tr : List Event) :
    (pairings tr).map (·.2) = (tr.filterMap Event.announcement).map announcedID := by
  unfold pairings
  rw [List.map_filterMap, List.map_filterMap]
  refine List.filterMap_congr fun e _ => ?_
  cases e <;> rfl

section Announcement

variable {cfg : Config} {s : Session} {t : Tid} {pc : Pc} {o : Out}

theorem Turn.announcement {i : Nat} {c c' : Core} {evs : List Event} (h : Turn cfg t i c pc evs c')
    (hne : ∀ j res, pc ≠ .inOpenResult j res) : evs.filterMap Event.announcement = [] := by
  cases h with
  | opened | openFails | rejected => exact absurd rfl (hne _ _)
  | shut h | eof _ h | remoteClose _ h => rcases h with rfl | rfl <;> rfl
  | _ => rfl

/-- A step takes up an announcement, or stops the receiver. -/
theorem announcement_handles (h : Effect cfg s t pc o) :
    Handles Envelope.announcement Event.announcement pc o := by
  by_cases hopen : ∃ m, pc = .inOpen m
  · obtain ⟨m, rfl⟩ := hopen
    cases h with
    | inOpen h => cases h with | made => exact .marks rfl rfl rfl
    | routeFails h => cases h with | noIDs => exact .skips rfl fun _ _ _ _ => ⟨nofun, rfl⟩
    | _ h => cases h
  by_cases hres : ∃ i res, pc = .inOpenResult i res
  · obtain ⟨i, res, rfl⟩ := hres
    cases h with
    | inOpen h =>
      cases h with
      | resultFails => exact .skips rfl fun _ _ _ _ => ⟨nofun, rfl⟩
      | opened => exact .marks rfl rfl rfl
      | rejected => exact .skips rfl fun env b hf hb => by cases hf; cases hb
    | routeFails h => cases h with | duplicateOpenResult => exact .skips rfl fun _ _ _ _ => ⟨nofun, rfl⟩
    | _ h => cases h
  · refine .skips ?_ fun env b hf hb => ?_
    · cases core_step h with
      | same _ _ he => exact filterMap_ofCore (fun e hx => by cases e <;> first | rfl | cases hx) he
      | incoming => exact absurd ⟨_, rfl⟩ hopen
      | pending _ _ _ he => rw [he]; rfl
      | turn _ _ he ht => rw [he]; exact ht.announcement fun j res hj => hres ⟨j, res, hj⟩
    · -- no other frame announces anything
      cases pc with
      | inOpen m => exact absurd ⟨m, rfl⟩ hopen
      | inOpenResult i res => exact absurd ⟨i, res, rfl⟩ hres
      | _ => first | (cases hf; cases hb) | cases hf

variable {C : Machine → Act → Prop} {tr : List Event} {m : Machine} {i j : Nat}

theorem announcement_run (h : (Machine.lts cfg).Run C tr m) :
    tr.filterMap Event.announcement <+: (received tr).filterMap Envelope.announcement :=
  (List.prefix_append ..).trans (ledger_run announcement_handles h).pre

/-- An open that was taken up was read. -/
theorem received_of_incoming (h : (Machine.lts cfg).Run C tr m) {q : ChannelOpen}
    (hq : .incoming i q ∈ tr) : .channelOpen q ∈ received tr := by
  have hm : Sum.inl q ∈ tr.filterMap Event.announcement := List.mem_filterMap.2 ⟨_, hq, rfl⟩
  obtain ⟨env, henv, hx⟩ := List.mem_filterMap.1 ((announcement_run h).subset hm)
  cases env with
  | channelOpen q' => cases hx; exact henv
  | channelOpenResult p res => cases res <;> cases hx
  | _ => cases hx

/-- An answer that was taken up was read. -/
theorem received_of_answered (h : (Machine.lts cfg).Run C tr m) {a : ChannelOpenAccept}
    (ha : .answered i a ∈ tr) : .channelOpenResult i (.success a) ∈ received tr := by
  have hm : Sum.inr (i, a) ∈ tr.filterMap Event.announcement := List.mem_filterMap.2 ⟨_, ha, rfl⟩
  obtain ⟨env, henv, hx⟩ := List.mem_filterMap.1 ((announcement_run h).subset hm)
  cases env with
  | channelOpen q' => cases hx
  | channelOpenResult p res => cases res <;> cases hx; exact henv
  | _ => cases hx

/-- Where a pair comes from. -/
theorem mem_pairings : (i, j) ∈ pairings tr ↔
    (∃ q, .incoming i q ∈ tr ∧ q.senderChannelID = j) ∨
    ∃ a, .answered i a ∈ tr ∧ a.senderChannelID = j := by
  unfold pairings
  rw [List.mem_filterMap]
  constructor
  · rintro ⟨e, he, hx⟩
    cases e with
    | incoming i' q => cases hx; exact .inl ⟨q, he, rfl⟩
    | answered i' a => cases hx; exact .inr ⟨a, he, rfl⟩
    | _ => cases hx
  · rintro (⟨q, hq, rfl⟩ | ⟨a, ha, rfl⟩)
    · exact ⟨_, hq, rfl⟩
    · exact ⟨_, ha, rfl⟩

end Announcement

/-! ## 3. The two ends agree -/

section Agree

variable {cfg : Side → Config} {C : Duplex Machine Envelope → Side × Act → Prop}
  {tr : List (Side × Event)} {d : Duplex Machine Envelope} {x : Side} {i j p : Nat}

/-- **No two channels of one end have the same pair.** -/
theorem peers_nodup (h : (link cfg).Run C tr d) (x : Side) :
    ((pairings (events x tr)).map (·.2)).Nodup := by
  have hold := announces_once (link_party h x.other)
  have hpre : (received (events x tr)).filterMap Envelope.announces <+: told (events x.other tr) := by
    have := (received_le h x).filterMap Envelope.announces
    rwa [frames, List.filterMap_map] at this
  have hann := (announcement_run (link_party h x)).map announcedID
  rw [List.map_filterMap, List.map_filterMap] at hann
  rw [pairings_announced, List.map_filterMap]
  refine hold.sublist (List.Sublist.trans ?_ hpre.sublist)
  simpa only [map_announcement] using hann.sublist

theorem peer_injective (h : (link cfg).Run C tr d) {i' : Nat} (hi : (i, j) ∈ pairings (events x tr))
    (hi' : (i', j) ∈ pairings (events x tr)) : i = i' :=
  congrArg Prod.fst (List.inj_on_of_nodup_map (peers_nodup h x) hi hi' rfl)

/-- An answered open is paired at the other end. -/
theorem paired_of_answered (h : (link cfg).Run C tr d) {a : ChannelOpenAccept}
    (ha : .answered i a ∈ events x tr) : (a.senderChannelID, i) ∈ pairings (events x.other tr) := by
  obtain ⟨w, hw⟩ := written_of_received h (received_of_answered (link_party h x) ha)
  obtain ⟨hlt, -, henv⟩ := ((outbox_run (link_party h x.other)).sent w _).1 hw
  have hb := (pairing_run (link_party h x.other)).writes w hlt
  obtain ⟨p, hp, habout⟩ := hb.chan _ (hb.accept _ _ henv)
  rw [henv] at habout
  cases habout
  exact hp

/-- **Where both ends have paired their channels, they agree.** -/
theorem pair_agrees (h : (link cfg).Run C tr d) (hi : (i, j) ∈ pairings (events x tr))
    (hj : (j, p) ∈ pairings (events x.other tr)) : p = i := by
  rcases mem_pairings.1 hj with ⟨q, hq, rfl⟩ | ⟨a, ha, rfl⟩
  · rcases mem_pairings.1 hi with ⟨q', hq', rfl⟩ | ⟨a, ha, rfl⟩
    · -- a channel the other end has taken up from here is not one it has opened itself
      obtain ⟨w, hw⟩ := written_of_received h (received_of_incoming (link_party h x) hq')
      have hA := announced_run (link_party h x.other)
      obtain ⟨hlt, -, henv⟩ := ((outbox_run (link_party h x.other)).sent w _).1 hw
      exact absurd (hA.incoming _ _ hq).2 (hA.opens w hlt q' henv)
    · exact congrArg Prod.snd (List.inj_on_of_nodup_map (pairing_run (link_party h x.other)).once
        hj (paired_of_answered h ha) rfl)
  · have hback := paired_of_answered h ha
    rw [Side.other_other] at hback
    exact peer_injective h hback hi

/-- A frame about a channel is addressed to it by its pair, and the other way round. -/
theorem addressed (h : (link cfg).Run C tr d) (hi : (i, j) ∈ pairings (events x tr)) {w p : Nat}
    {env : Envelope} (hw : (w, env) ∈ written (events x.other tr)) (ha : env.about = some p) :
    p = i ↔ ((d.party x.other).sess.writes w).chan = some j := by
  have hr := link_party h x.other
  obtain ⟨hlt, -, henv⟩ := ((outbox_run hr).sent w _).1 hw
  have hb := (pairing_run hr).writes w hlt
  rw [← henv] at ha
  cases hch : ((d.party x.other).sess.writes w).chan with
  | none =>
    have habout := hb.other hch
    rw [ha] at habout
    cases habout
  | some k =>
    obtain ⟨p', hp, habout⟩ := hb.chan k hch
    rw [ha] at habout
    cases habout
    constructor
    · rintro rfl
      rw [← Side.other_other x] at hi
      rw [pair_agrees h hp hi]
    · intro hk
      cases hk
      exact pair_agrees h hi hp

end Agree

/-! ## 4. Scripts -/

/-- Goroutine `t` of one end takes these choices. -/
def steps (x : Side) (t : Tid) (choices : List Choice) : List (Side × Act) :=
  choices.map fun c => (x, ⟨t, c⟩)

/-- An end is activated and its loops start. -/
def activation (x : Side) : List (Side × Act) :=
  steps x .env [.activate] ++ steps x .receiver [.go] ++ steps x .dispatcher [.go] ++
    steps x .writer [.go]

/-- The writer takes the first write of the ordinary queue and writes it. -/
def writeOutbound (x : Side) : List (Side × Act) :=
  steps x .writer [.go, .outbound, .go, .go, .ok, .go, .go]

/-- Goroutine `t` enqueues its write and waits until it is written. -/
def sendEnvelope (x : Side) (t : Tid) : List (Side × Act) :=
  steps x t [.go, .go, .go] ++ writeOutbound x ++ steps x t [.result]

/-- The left end opens a channel, the right end accepts it, and both workers start. -/
def openChannel (cfg : Config) : List (Side × Act) :=
  steps .left (.call 0) [.api (.openChannel "t" []), .go, .go, .go] ++
  sendEnvelope .left (.call 0) ++
  steps .right .receiver
    [.frame (.channelOpen ⟨"t", 0, cfg.initialWindow, cfg.maxPacketSize, []⟩), .go, .go, .go, .go] ++
  steps .right .dispatcher [.go, .go, .go, .answer ⟨true, [], "", ""⟩, .go, .go] ++
  sendEnvelope .right .dispatcher ++
  steps .left .receiver
    [.frame (.channelOpenResult 0 (.success ⟨0, cfg.initialWindow, cfg.maxPacketSize, []⟩)),
      .go, .go, .go] ++
  steps .left (.call 0) [.result] ++ steps .right (.worker 0) [.go] ++ steps .left (.worker 0) [.go]

/-- `Send` on the left in call `n`, to its end. -/
def sendFrame (n : Nat) (frame : Bytes) : List (Side × Act) :=
  steps .left (.call n) [.api (.send 0 frame), .go] ++ sendEnvelope .left (.call n)

end Mygosh.Mux

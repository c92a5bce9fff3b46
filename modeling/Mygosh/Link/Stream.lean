/-
  File:      Mygosh/Link/Stream.lean
  Subject:   What `Recv` returns at one end is what was written at the other.

  * `dataWritten` -- the data written for a channel;
  * `returned_le_written` -- what `Recv` has returned on a channel is a prefix of it, for the channel
    it is paired with;
  * `send_recv_agree` -- this, and which `Send` calls have contributed.
-/
import Mygosh.Link.Pair
import Mygosh.Session.Sends
import Mygosh.Session.Stream

namespace Mygosh.Mux

open Session Duplex

/-- The data of a frame. -/
def Envelope.data : Envelope → Option Bytes
  | .channelData _ data => some data
  | _ => none

/-- The data of the frames written for channel `j`, in the order they were written. -/
def dataWritten (s : Session) (tr : List Event) (j : Nat) : List Bytes :=
  (written tr).filterMap fun x => if (s.writes x.1).chan = some j then x.2.data else none

section

variable {cfg : Side → Config} {C : Duplex Machine Envelope → Side × Act → Prop}
  {tr : List (Side × Event)} {d : Duplex Machine Envelope} {x : Side} {i j : Nat}

/-- The data written to a channel is the data written for its pair. -/
theorem dataTo_eq_written (h : (link cfg).Run C tr d) (hi : (i, j) ∈ pairings (events x tr)) :
    (frames (events x.other tr)).filterMap (dataTo i) =
      dataWritten (d.party x.other).sess (events x.other tr) j := by
  unfold frames dataWritten
  rw [List.filterMap_map]
  refine List.filterMap_congr fun ⟨w, env⟩ hw => ?_
  cases env with
  | channelData p data =>
    by_cases hp : p = i
    · simp [dataTo, Envelope.data, hp, (addressed h hi hw rfl).1 hp]
    · simp [dataTo, hp, mt (addressed h hi hw rfl).2 hp]
  | _ => simp [dataTo, Envelope.data]

/-- **What `Recv` has returned on a channel is a prefix of what was written for its pair.** -/
theorem returned_le_written (h : (link cfg).Run C tr d) (hcfg : (cfg x).initialWindow ≤ maxUint32)
    (hi : (i, j) ∈ pairings (events x tr)) :
    returnedOn i (events x tr) <+: dataWritten (d.party x.other).sess (events x.other tr) j := by
  have hr := link_party h x
  have hret : returnedOn i (events x tr) <+: acceptedOn i (events x tr) :=
    ((streams_run hcfg hr).intact i).initial
  have hacc : acceptedOn i (events x tr) <+: (received (events x tr)).filterMap (dataTo i) :=
    (List.prefix_append ..).trans (data_run i hr).pre
  have hread := (received_le h x).filterMap (dataTo i)
  rw [dataTo_eq_written h hi] at hread
  exact hret.trans (hacc.trans hread)

/-- On a channel without a pair `Recv` returns nothing. -/
theorem returned_nil (h : (link cfg).Run C tr d) (hcfg : (cfg x).initialWindow ≤ maxUint32)
    (hi : ¬ IsPaired (events x tr) i) : returnedOn i (events x tr) = [] := by
  have hS := streams_run hcfg (link_party h x)
  have hacc : acceptedOn i (events x tr) = [] := by
    by_contra hne
    exact hi (hS.paired i hne)
  exact List.prefix_nil.1 (hacc ▸ (hS.intact i).initial)

end

/-- **Streams are faithful.** In every run of two sessions on one connection, what `Recv` has
    returned on a channel is a prefix of what was written for its pair at the other end; and a
    finished `Send` has put its frame there exactly if it returned nil. -/
theorem send_recv_agree {cfg : Side → Prepared} {C : Duplex Machine Envelope → Side × Act → Prop}
    {tr : List (Side × Event)} {d : Duplex Machine Envelope} (h : (connection cfg).Run C tr d) :
    (∀ x i j, (i, j) ∈ pairings (events x tr) →
      (∀ p, (j, p) ∈ pairings (events x.other tr) → p = i) ∧
      returnedOn i (events x tr) <+: dataWritten (d.party x.other).sess (events x.other tr) j) ∧
    (∀ x i, (∀ j, (i, j) ∉ pairings (events x tr)) → returnedOn i (events x tr) = []) ∧
    ∀ x t j frame wo e, (d.party x).pc t = .done (.send j frame wo e) →
      (e = none → ∃ w p, (w, .channelData p frame) ∈ written (events x tr) ∧
        ((d.party x).sess.writes w).caller = t ∧ ((d.party x).sess.writes w).chan = some j) ∧
      (e ≠ none → ∀ w env, (w, env) ∈ written (events x tr) →
        ((d.party x).sess.writes w).caller ≠ t) := by
  have hcfg : ∀ x, (cfg x).config.initialWindow ≤ maxUint32 := fun x => (cfg x).windows.windowLt.le
  refine ⟨fun x i j hi => ⟨fun p hp => pair_agrees h hi hp, returned_le_written h (hcfg x) hi⟩,
    fun x i hi => returned_nil h (hcfg x) fun ⟨j, hj⟩ => hi j hj, ?_⟩
  intro x t j frame wo e hd
  exact send_written (link_party h x) hd

/-- A run in which a frame is sent, delivered and returned. -/
theorem send_recv_agree_delivered : ∃ tr d, (connection fun _ => narrow).Run (fun _ _ => True) tr d ∧
    (0, 0) ∈ pairings (events .right tr) ∧ returnedOn 0 (events .right tr) = [[7, 8]] ∧
    returnedOn 0 (events .right tr) <+: dataWritten (d.party .left).sess (events .left tr) 0 := by
  obtain ⟨tr, d, h, hpair, hret⟩ := Lts.exists_run_of_replay (L := connection fun _ => narrow)
    (C := fun _ _ => True) (P := fun tr _ => (0, 0) ∈ pairings (events .right tr) ∧
      returnedOn 0 (events .right tr) = [[7, 8]])
    (activation .left ++ activation .right ++ openChannel narrow.config ++ sendFrame 1 [7, 8] ++
      steps .right .receiver [.frame (.channelData 0 [7, 8]), .go] ++
      steps .right (.call 0) [.api (.recv 0), .go]) (by decide +kernel)
  exact ⟨tr, d, h, hpair, hret, ((send_recv_agree h).1 .right 0 0 hpair).2⟩

end Mygosh.Mux

/-
  File:      Mygosh/Duplex.lean
  Subject:   Two transition systems joined by two FIFO wires.

  Each party shows, among its events, the messages it sends and those it reads. What it reads must
  be the front of what the other has sent and it has not read yet.

  * `Duplex.lts` -- the joined system, with events marked by their side;
  * `Duplex.run_party` -- what one party does in a run of both is a run of that party;
  * `Duplex.fifo` -- what a party has sent is what the other has read, followed by what is on the
    wire.
-/
import Mygosh.Lts

namespace Mygosh

inductive Side where
  | left
  | right
  deriving DecidableEq, Repr

namespace Side

def other : Side → Side
  | left => right
  | right => left

@[simp] theorem other_other (x : Side) : x.other.other = x := by cases x <;> rfl

theorem other_ne (x : Side) : x.other ≠ x := by cases x <;> nofun

theorem eq_other_of_ne {x y : Side} (h : x ≠ y) : x = y.other := by
  cases x <;> cases y <;> first | rfl | exact absurd rfl h

end Side

/-- Two parties, and for each the messages it has sent that the other has not read. -/
structure Duplex (σ μ : Type) where
  party : Side → σ
  wire : Side → List μ

namespace Duplex

variable {σ α ε μ : Type} [DecidableEq μ] (L : Side → Lts σ α ε) (reads sends : ε → Option μ)

def start : Duplex σ μ := ⟨fun x => (L x).start, fun _ => []⟩

/-- One party takes a step: it reads from the other's wire and appends to its own. -/
def step (d : Duplex σ μ) (a : Side × α) : Option (Duplex σ μ × List (Side × ε)) :=
  match (L a.1).step (d.party a.1) a.2 with
  | none => none
  | some (s, evs) =>
    if evs.filterMap reads <+: d.wire a.1.other then
      some (⟨Function.update d.party a.1 s,
        Function.update (Function.update d.wire a.1.other
          ((d.wire a.1.other).drop (evs.filterMap reads).length))
          a.1 (d.wire a.1 ++ evs.filterMap sends)⟩,
        evs.map (Prod.mk a.1))
    else none

def lts : Lts (Duplex σ μ) (Side × α) (Side × ε) := ⟨start L, step L reads sends⟩

/-- The events of one side. -/
def events (x : Side) (tr : List (Side × ε)) : List ε :=
  tr.filterMap fun e => if e.1 = x then some e.2 else none

omit [DecidableEq μ] in
@[simp] theorem events_append (x : Side) (tr tr' : List (Side × ε)) :
    events x (tr ++ tr') = events x tr ++ events x tr' := List.filterMap_append

theorem events_self (x : Side) (evs : List ε) : events x (evs.map (Prod.mk x)) = evs := by
  simp [events, List.filterMap_map]

theorem events_other {x y : Side} (h : y ≠ x) (evs : List ε) : events x (evs.map (Prod.mk y)) = [] := by
  simp [events, List.filterMap_map, h]

variable {L reads sends} {C : Duplex σ μ → Side × α → Prop} {tr : List (Side × ε)} {d d' : Duplex σ μ}

/-- **What a step of both is**: a step of one party that reads the front of the other's wire. -/
theorem step_iff {x : Side} {a : α} {evs : List (Side × ε)}
    (h : (lts L reads sends).step d (x, a) = some (d', evs)) :
    ∃ s evs', (L x).step (d.party x) a = some (s, evs') ∧ evs = evs'.map (Prod.mk x) ∧
      d'.party = Function.update d.party x s ∧ d'.wire x = d.wire x ++ evs'.filterMap sends ∧
      d.wire x.other = evs'.filterMap reads ++ d'.wire x.other := by
  simp only [lts, step] at h
  split at h
  · cases h
  · rename_i s evs' hs
    split at h
    · rename_i hp
      cases h
      refine ⟨s, evs', hs, rfl, rfl, Function.update_self .., ?_⟩
      dsimp only
      rw [Function.update_of_ne x.other_ne, Function.update_self]
      exact (List.prefix_iff_eq_append.1 hp).symm
    · cases h

/-- **What one party does in a run of both is a run of that party.** -/
theorem run_party {D : Side → σ → α → Prop} (hD : ∀ d x a, C d (x, a) → D x (d.party x) a)
    (h : (lts L reads sends).Run C tr d) (x : Side) : (L x).Run (D x) (events x tr) (d.party x) := by
  refine h.invariant (I := fun tr d => (L x).Run (D x) (events x tr) (d.party x)) .start ?_
  rintro tr evs d d' ⟨y, a⟩ - hI hc hs
  obtain ⟨s, evs', hstep, rfl, hparty, -⟩ := step_iff hs
  rw [events_append, hparty]
  by_cases hy : y = x
  · subst hy
    rw [events_self, Function.update_self]
    exact .step hI (hD d y a hc) hstep
  · rw [events_other hy, List.append_nil, Function.update_of_ne (Ne.symm hy)]
    exact hI

/-- **The wires are FIFO.** -/
theorem fifo (h : (lts L reads sends).Run C tr d) (x : Side) :
    (events x tr).filterMap sends = (events x.other tr).filterMap reads ++ d.wire x := by
  refine h.invariant (I := fun tr d =>
    (events x tr).filterMap sends = (events x.other tr).filterMap reads ++ d.wire x) rfl ?_
  rintro tr evs d d' ⟨y, a⟩ - hI - hs
  obtain ⟨s, evs', -, rfl, -, hout, hin⟩ := step_iff hs
  rw [events_append, events_append, List.filterMap_append, List.filterMap_append, hI]
  by_cases hy : y = x
  · subst hy
    rw [events_self, events_other y.other_ne.symm, hout]
    simp
  · obtain rfl := Side.eq_other_of_ne hy
    rw [events_self, events_other hy, Side.other_other] at *
    simp [hin]

end Duplex

end Mygosh

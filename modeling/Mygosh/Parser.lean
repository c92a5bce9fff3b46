/-
  File:      Mygosh/Parser.lean
  Subject:   Parsers that take one word from the front of a list of symbols.

  * `Parser σ α` -- a value and what is left of the input, or a failure.
  * `Reads p G` -- the parser finds a value exactly where the input begins with one of its words.
    `G w a` says that `w` is a word for `a`.
  * `Reads.bind` and its companions -- the language of a composed parser.
  * `Reads.unique` -- no word of such a language begins another one.
-/
import Mathlib.Tactic

namespace Mygosh

def Parser (σ α : Type) : Type := List σ → Option (α × List σ)

namespace Parser

variable {σ α β : Type}

instance : Monad (Parser σ) where
  pure a := fun b => some (a, b)
  bind p f := fun b => (p b).bind fun r => f r.1 r.2

instance : LawfulMonad (Parser σ) :=
  LawfulMonad.mk' (Parser σ) (fun p => funext fun b => Option.bind_fun_some (p b)) (fun _ _ => rfl)
    (fun p _ _ => funext fun b => Option.bind_assoc (p b) _ _)

def fail : Parser σ α := fun _ => none

/-- The next `n` symbols. -/
def take (n : Nat) : Parser σ (List σ) := fun b =>
  if n ≤ b.length then some (b.take n, b.drop n) else none

/-- Two values, one behind the other. -/
def pair (p : Parser σ α) (q : Parser σ β) : Parser σ (α × β) := do
  let a ← p
  let b ← q
  pure (a, b)

/-- A value if there is one; nothing is taken. -/
def lift (o : Option α) : Parser σ α := fun b => o.map fun a => (a, b)

/-! ## 1. Languages -/

/-- `p` reads the language `G`: nothing else, and every word of it whatever follows. -/
def Reads (p : Parser σ α) (G : List σ → α → Prop) : Prop :=
  ∀ b a rest, p b = some (a, rest) ↔ ∃ w, G w a ∧ b = w ++ rest

variable {p : Parser σ α} {G H : List σ → α → Prop}

theorem Reads.of_word (h : p.Reads G) {w : List σ} {a : α} (hw : G w a) (rest : List σ) :
    p (w ++ rest) = some (a, rest) :=
  (h _ a rest).mpr ⟨w, hw, rfl⟩

theorem Reads.congr (h : p.Reads G) (hGH : ∀ w a, G w a ↔ H w a) : p.Reads H := by
  intro b a rest
  rw [h b a rest]
  simp only [hGH]

/-- **No word begins another one**, and a word has one value. -/
theorem Reads.unique (h : p.Reads G) {w w' rest rest' : List σ} {a a' : α} (hw : G w a)
    (hw' : G w' a') (heq : w ++ rest = w' ++ rest') : a = a' ∧ w = w' ∧ rest = rest' := by
  have hleft := h.of_word hw rest
  rw [heq, h.of_word hw' rest'] at hleft
  obtain ⟨rfl, rfl⟩ := Prod.mk.inj (Option.some.inj hleft)
  exact ⟨rfl, List.append_cancel_right heq, rfl⟩

/-! ## 2. Composition -/

theorem reads_pure (x : α) : (pure x : Parser σ α).Reads fun w a => w = [] ∧ a = x := by
  intro b a rest
  constructor
  · intro h
    obtain ⟨rfl, rfl⟩ := Prod.mk.inj (Option.some.inj h)
    exact ⟨[], ⟨rfl, rfl⟩, rfl⟩
  · rintro ⟨w, ⟨rfl, rfl⟩, rfl⟩
    rfl

theorem reads_fail : (fail : Parser σ α).Reads fun _ _ => False := by
  intro b a rest
  simp [fail]

theorem reads_take (n : Nat) : (take n : Parser σ (List σ)).Reads fun w a => w = a ∧ a.length = n := by
  intro b a rest
  unfold take
  constructor
  · intro h
    split_ifs at h with hn
    obtain ⟨rfl, rfl⟩ := Prod.mk.inj (Option.some.inj h)
    exact ⟨b.take n, ⟨rfl, List.length_take_of_le hn⟩, (List.take_append_drop n b).symm⟩
  · rintro ⟨w, ⟨rfl, rfl⟩, rfl⟩
    rw [if_pos (by simp), List.take_left, List.drop_left]

/-- **The language of a sequence**: a word of the first, then one of what follows its value. -/
theorem Reads.bind {f : α → Parser σ β} {K : α → List σ → β → Prop} (h : p.Reads G)
    (hf : ∀ a, (f a).Reads (K a)) :
    (p >>= f).Reads fun w b => ∃ a u v, G u a ∧ K a v b ∧ w = u ++ v := by
  intro b x rest
  have hbind : (p >>= f) b = (p b).bind fun r => f r.1 r.2 := rfl
  rw [hbind, Option.bind_eq_some_iff]
  constructor
  · rintro ⟨⟨a, mid⟩, hp, hq⟩
    obtain ⟨u, hu, rfl⟩ := (h b a mid).mp hp
    obtain ⟨v, hv, rfl⟩ := (hf a mid x rest).mp hq
    exact ⟨u ++ v, ⟨a, u, v, hu, hv, rfl⟩, by rw [List.append_assoc]⟩
  · rintro ⟨w, ⟨a, u, v, hu, hv, rfl⟩, rfl⟩
    rw [List.append_assoc]
    exact ⟨(a, v ++ rest), h.of_word hu _, (hf a).of_word hv rest⟩

/-- Two values that have one word each. -/
theorem Reads.pair {q : Parser σ β} {u : α → List σ} {v : β → List σ} {F : α → Prop} {H : β → Prop}
    (h : p.Reads fun w a => w = u a ∧ F a) (hq : q.Reads fun w b => w = v b ∧ H b) :
    (p.pair q).Reads fun w ab => w = u ab.1 ++ v ab.2 ∧ F ab.1 ∧ H ab.2 := by
  refine (h.bind fun a => hq.bind fun b => reads_pure (a, b)).congr fun w ab => ?_
  constructor
  · rintro ⟨a, -, -, ⟨rfl, ha⟩, ⟨b, -, -, ⟨rfl, hb⟩, ⟨rfl, rfl⟩, rfl⟩, rfl⟩
    exact ⟨by rw [List.append_nil], ha, hb⟩
  · rintro ⟨rfl, ha, hb⟩
    exact ⟨ab.1, _, _, ⟨rfl, ha⟩, ⟨ab.2, _, [], ⟨rfl, hb⟩, ⟨rfl, rfl⟩, rfl⟩,
      by rw [List.append_nil]⟩

/-- A partial function behind a parser: the words of the values it is defined on. -/
theorem Reads.lift (h : p.Reads G) (g : α → Option β) :
    (p >>= fun a => Parser.lift (g a)).Reads fun w b => ∃ a, G w a ∧ g a = some b := by
  have hlift : ∀ a, (Parser.lift (g a) : Parser σ β).Reads fun w b => w = [] ∧ g a = some b := by
    intro a b x rest
    unfold Parser.lift
    rw [Option.map_eq_some_iff]
    constructor
    · rintro ⟨y, hy, heq⟩
      obtain ⟨rfl, rfl⟩ := Prod.mk.inj heq
      exact ⟨[], ⟨rfl, hy⟩, rfl⟩
    · rintro ⟨w, ⟨rfl, hx⟩, rfl⟩
      exact ⟨x, hx, rfl⟩
  refine (h.bind hlift).congr fun w b => ?_
  constructor
  · rintro ⟨a, u, v, hu, ⟨rfl, hb⟩, rfl⟩
    exact ⟨a, by rwa [List.append_nil], hb⟩
  · rintro ⟨a, hw, hb⟩
    exact ⟨a, w, [], hw, ⟨rfl, hb⟩, (List.append_nil w).symm⟩

end Parser

end Mygosh

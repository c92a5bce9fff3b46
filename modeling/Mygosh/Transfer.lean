/-
  File:      Mygosh/Transfer.lean
  Subject:   Streams that are transferred in pieces of any size (the readers and writers of Go's `io`).

  A reader hands out its stream in pieces that it chooses, empty ones included; it may report the end
  with the last piece or after it. A writer accepts as much of each write as it likes. Whatever they
  choose, `readFull` returns the front of the stream, and a loop of writes that succeeds has written
  everything.

  * `Source`, `Input` -- a reader, and what is done with one;
  * `Follows x p` -- `x` takes from any reader what the parser `p` takes from its stream;
  * `Sink`, `Output` -- a writer, and what is done with one.
-/
import Mygosh.Parser

namespace Mygosh

/-- Errors of a transfer. -/
inductive IoErr where
  | eof
  | unexpectedEOF
  | shortWrite
  | failed (message : String)
  deriving DecidableEq, Repr

variable {σ α β : Type}

/-! ## 1. Readers -/

/-- What a reader will hand out; `eager` is whether the end is reported with the last piece. -/
structure Source (σ : Type) where
  pieces : List (List σ)
  eager : Bool
  deriving Repr

namespace Source

/-- The stream, whatever its pieces. -/
def data (r : Source σ) : List σ := r.pieces.flatten

/-- `Read` into a buffer of length `want`. -/
def read (r : Source σ) (want : Nat) : List σ × Option IoErr × Source σ :=
  match r.pieces with
  | [] => ([], some .eof, r)
  | piece :: rest =>
    if want < piece.length then
      (piece.take want, none, { r with pieces := piece.drop want :: rest })
    else (piece, if r.eager && rest.isEmpty then some .eof else none, { r with pieces := rest })

/-- The loop of `io.ReadAtLeast`, for at most so many calls of `Read`. -/
def readLoop (want : Nat) : Nat → Source σ → List σ → (List σ × Option IoErr) × Source σ
  | 0, r, got => ((got, none), r)
  | calls + 1, r, got =>
    if want ≤ got.length then ((got, none), r)
    else
      match r.read (want - got.length) with
      | (b, some e, r') => ((got ++ b, some e), r')
      | (b, none, r') => readLoop want calls r' (got ++ b)

/-- **One `Read`**: the stream is over, or its front is handed out. A call that neither takes a whole
    piece nor reports the end has filled the buffer. -/
theorem read_cases (r : Source σ) (want : Nat) :
    (r.data = [] ∧ r.read want = ([], some .eof, r)) ∨
    ∃ b e r', r.read want = (b, e, r') ∧ r.data = b ++ r'.data ∧ b.length ≤ want ∧
      (e = none ∧ (r'.pieces.length < r.pieces.length ∨ b.length = want) ∨
        e = some .eof ∧ r'.data = []) := by
  unfold read data
  split
  · rename_i hp
    exact .inl ⟨by rw [hp]; rfl, rfl⟩
  · rename_i piece rest hp
    right
    split_ifs with hlt
    · refine ⟨_, _, _, rfl, ?_, List.length_take_le _ _, .inl ⟨rfl, .inr ?_⟩⟩
      · rw [hp, List.flatten_cons, List.flatten_cons, ← List.append_assoc, List.take_append_drop]
      · exact List.length_take_of_le hlt.le
    · rename_i heager
      obtain ⟨-, hrest⟩ := Bool.and_eq_true_iff.mp heager
      have hrest : rest = [] := List.isEmpty_iff.mp hrest
      subst hrest
      exact ⟨_, _, _, rfl, by rw [hp]; rfl, Nat.le_of_not_lt hlt, .inr ⟨rfl, rfl⟩⟩
    · refine ⟨_, _, _, rfl, by rw [hp]; rfl, Nat.le_of_not_lt hlt, .inl ⟨rfl, .inl ?_⟩⟩
      rw [hp, List.length_cons]
      exact Nat.lt_succ_self _

/-- What is still wanted is taken from the front of the stream, or the stream is read to its end. Each
    call takes a piece, or is the last one, so there are enough calls. -/
theorem readLoop_spec {want calls : Nat} {r : Source σ} {got : List σ}
    (hcalls : r.pieces.length < calls) (hgot : got.length ≤ want) :
    ∃ b e r', readLoop want calls r got = ((got ++ b, e), r') ∧ r.data = b ++ r'.data ∧
      (got.length + b.length = want ∨
        got.length + b.length < want ∧ e = some .eof ∧ r'.data = []) := by
  induction calls generalizing r got with
  | zero => omega
  | succ calls ih =>
    unfold readLoop
    by_cases hdone : want ≤ got.length
    · rw [if_pos hdone]
      exact ⟨[], none, r, by simp, rfl, .inl (Nat.le_antisymm hgot hdone)⟩
    rw [if_neg hdone]
    rcases r.read_cases (want - got.length) with ⟨hdata, hread⟩ |
      ⟨b, e, r', hread, hdata, hlen, hend⟩
    · rw [hread]
      exact ⟨[], _, r, rfl, rfl, .inr ⟨by simpa using hdone, rfl, hdata⟩⟩
    rw [hread]
    have happ : (got ++ b).length = got.length + b.length := List.length_append
    rcases hend with ⟨rfl, hmove⟩ | ⟨rfl, hnil⟩
    · by_cases hfull : got.length + b.length = want
      · -- the buffer is full: another round changes nothing
        have hstop : readLoop want calls r' (got ++ b) = ((got ++ b, none), r') := by
          cases calls with
          | zero => rfl
          | succ calls => rw [readLoop, if_pos (by omega)]
        exact ⟨b, none, r', hstop, hdata, .inl hfull⟩
      · have hfew : r'.pieces.length < calls := by
          rcases hmove with hmove | hmove
          · omega
          · omega
        obtain ⟨b', e', r'', hloop, hdata', hend'⟩ := ih hfew (show (got ++ b).length ≤ want by omega)
        refine ⟨b ++ b', e', r'', ?_, ?_, ?_⟩
        · rw [← List.append_assoc]
          exact hloop
        · rw [hdata, hdata', List.append_assoc]
        · rw [List.length_append]
          rcases hend' with hend' | ⟨hlt, he, hr⟩
          · exact .inl (by omega)
          · exact .inr ⟨by omega, he, hr⟩
    · refine ⟨b, _, r', rfl, hdata, ?_⟩
      rcases Nat.lt_or_eq_of_le hlen with hlt | heq
      · exact .inr ⟨by omega, rfl, hnil⟩
      · exact .inl (by omega)

end Source

/-- What is done with a reader: a result, and the reader after it. -/
def Input (σ α : Type) : Type := Source σ → Except IoErr α × Source σ

namespace Input

instance : Monad (Input σ) where
  pure a := fun r => (.ok a, r)
  bind x f := fun r =>
    match x r with
    | (.ok a, r') => f a r'
    | (.error e, r') => (.error e, r')

def throw (e : IoErr) : Input σ α := fun r => (.error e, r)

theorem bind_ok {x : Input σ α} {f : α → Input σ β} {r r' : Source σ} {a : α}
    (h : x r = (.ok a, r')) : (x >>= f) r = f a r' := by
  show (match x r with
    | (.ok a, r') => f a r'
    | (.error e, r') => (.error e, r')) = _
  rw [h]

theorem bind_error {x : Input σ α} {f : α → Input σ β} {r r' : Source σ} {e : IoErr}
    (h : x r = (.error e, r')) : (x >>= f) r = (.error e, r') := by
  show (match x r with
    | (.ok a, r') => f a r'
    | (.error e, r') => (.error e, r')) = _
  rw [h]

/-- `io.ReadFull`. -/
def readFull (want : Nat) : Input σ (List σ) := fun r =>
  match Source.readLoop want (r.pieces.length + 1) r [] with
  | ((got, e), r') =>
    if want ≤ got.length then (.ok got, r')
    else if 0 < got.length ∧ e = some .eof then (.error .unexpectedEOF, r')
    else (.error (e.getD .eof), r')

/-- What `readFull` takes, and what it makes of the end of the stream: `io.EOF` where nothing was left,
    `io.ErrUnexpectedEOF` where something was. -/
theorem readFull_spec (want : Nat) (r : Source σ) :
    ∃ r', (want ≤ r.data.length ∧ readFull want r = (.ok (r.data.take want), r') ∧
        r'.data = r.data.drop want) ∨
      (r.data.length < want ∧
        readFull want r = (.error (if r.data = [] then .eof else .unexpectedEOF), r')) := by
  obtain ⟨b, e, r', hloop, hdata, hend⟩ := Source.readLoop_spec (Nat.lt_succ_self r.pieces.length)
    (show ([] : List σ).length ≤ want from Nat.zero_le _)
  rw [List.nil_append] at hloop
  rw [List.length_nil, Nat.zero_add] at hend
  have hlen : r.data.length = b.length + r'.data.length := by rw [hdata, List.length_append]
  refine ⟨r', ?_⟩
  rcases hend with rfl | ⟨hlt, rfl, hnil⟩
  · refine .inl ⟨by omega, ?_, by rw [hdata, List.drop_left]⟩
    simp only [readFull, hloop, le_refl, if_true]
    rw [hdata, List.take_left]
  · rw [hnil, List.append_nil] at hdata
    subst hdata
    refine .inr ⟨hlt, ?_⟩
    simp only [readFull, hloop, if_neg (Nat.not_le_of_lt hlt), and_true, List.length_pos_iff]
    by_cases hnil : r.data = []
    · simp [hnil]
    · simp [hnil]

/-- `x` reads from any reader what `p` reads from its stream, and fails where `p` does. -/
structure Follows (x : Input σ α) (p : Parser σ α) : Prop where
  ok : ∀ {r a rest}, p r.data = some (a, rest) → ∃ r', x r = (.ok a, r') ∧ r'.data = rest
  fails : ∀ {r}, p r.data = none → ∃ e r', x r = (.error e, r')

theorem follows_pure (a : α) : Follows (pure a : Input σ α) (pure a) where
  ok {r b rest} h := by
    obtain ⟨rfl, rfl⟩ := Prod.mk.inj (Option.some.inj h)
    exact ⟨r, rfl, rfl⟩
  fails h := nomatch h

theorem follows_throw (e : IoErr) : Follows (throw e : Input σ α) Parser.fail where
  ok h := nomatch h
  fails {r} _ := ⟨e, r, rfl⟩

theorem follows_readFull (want : Nat) :
    Follows (readFull want : Input σ (List σ)) (Parser.take want) where
  ok {r a rest} h := by
    unfold Parser.take at h
    split_ifs at h with hle
    obtain ⟨rfl, rfl⟩ := Prod.mk.inj (Option.some.inj h)
    obtain ⟨r', ⟨-, hok⟩ | ⟨hlt, -⟩⟩ := readFull_spec want r
    · exact ⟨r', hok⟩
    · exact absurd hle (Nat.not_le_of_lt hlt)
  fails {r} h := by
    unfold Parser.take at h
    split_ifs at h with hle
    obtain ⟨r', ⟨hle', -⟩ | ⟨-, herr⟩⟩ := readFull_spec want r
    · exact absurd hle' hle
    · exact ⟨_, r', herr⟩

/-- In sequence; the second one is given a value that the first parser returns. -/
theorem Follows.bind {x : Input σ α} {p : Parser σ α} {f : α → Input σ β} {q : α → Parser σ β}
    (hx : Follows x p) (hf : ∀ {a b rest}, p b = some (a, rest) → Follows (f a) (q a)) :
    Follows (x >>= f) (p >>= q) := by
  have hparser : ∀ b, (p >>= q) b = (p b).bind fun r => q r.1 r.2 := fun _ => rfl
  constructor
  · intro r b rest h
    rw [hparser, Option.bind_eq_some_iff] at h
    obtain ⟨⟨a, mid⟩, hp, hq⟩ := h
    obtain ⟨r', hr', hmid⟩ := hx.ok hp
    subst hmid
    rw [bind_ok hr']
    exact (hf hp).ok hq
  · intro r h
    rw [hparser] at h
    cases hp : p r.data with
    | none =>
      obtain ⟨e, r', hr'⟩ := hx.fails hp
      exact ⟨e, r', bind_error hr'⟩
    | some y =>
      obtain ⟨r', hr', hmid⟩ := hx.ok hp
      rw [hp, Option.bind_some, ← hmid] at h
      rw [bind_ok hr']
      exact (hf hp).fails h

end Input

/-! ## 2. Writers -/

/-- What a writer does with one write: it takes at most so many symbols, and may fail after them. -/
inductive Accept where
  | takes (n : Nat)
  | fails (n : Nat) (message : String)
  deriving DecidableEq, Repr

/-- A writer: what it has been given, and what it will do; after that it takes everything. -/
structure Sink (σ : Type) where
  written : List σ
  plan : List Accept
  deriving Repr

/-- What is done with a writer. -/
def Output (σ α : Type) : Type := Sink σ → Except IoErr α × Sink σ

namespace Output

instance : Monad (Output σ) where
  pure a := fun w => (.ok a, w)
  bind x f := fun w =>
    match x w with
    | (.ok a, w') => f a w'
    | (.error e, w') => (.error e, w')

def throw (e : IoErr) : Output σ α := fun w => (.error e, w)

theorem bind_ok {x : Output σ α} {f : α → Output σ β} {w w' : Sink σ} {a : α}
    (h : x w = (.ok a, w')) : (x >>= f) w = f a w' := by
  show (match x w with
    | (.ok a, w') => f a w'
    | (.error e, w') => (.error e, w')) = _
  rw [h]

theorem bind_error {x : Output σ α} {f : α → Output σ β} {w w' : Sink σ} {e : IoErr}
    (h : x w = (.error e, w')) : (x >>= f) w = (.error e, w') := by
  show (match x w with
    | (.ok a, w') => f a w'
    | (.error e, w') => (.error e, w')) = _
  rw [h]

end Output

namespace Sink

/-- `Write`: the number of symbols taken, and the error. -/
def write (w : Sink σ) (p : List σ) : Nat × Option IoErr × Sink σ :=
  match w.plan with
  | [] => (p.length, none, { w with written := w.written ++ p })
  | .takes n :: plan => (min n p.length, none, ⟨w.written ++ p.take n, plan⟩)
  | .fails n message :: plan =>
    (min n p.length, some (.failed message), ⟨w.written ++ p.take n, plan⟩)

/-- Every write takes something and succeeds. -/
def Steady (w : Sink σ) : Prop := ∀ a ∈ w.plan, ∃ n, a = .takes (n + 1)

end Sink

namespace Output

/-- A loop that writes all of `p`, whatever each write takes; the first argument is at least the
    length of `p`. -/
def writeLoop : Nat → List σ → Output σ Unit
  | 0, _ => pure ()
  | fuel + 1, p => fun w =>
    if p = [] then (.ok (), w)
    else
      match w.write p with
      | (_, some e, w') => (.error e, w')
      | (n, none, w') => if n = 0 then (.error .shortWrite, w') else writeLoop fuel (p.drop n) w'

/-- `x` writes `b`: a success has written all of it, and on a steady writer it succeeds. -/
structure Writes (x : Output σ Unit) (b : List σ) : Prop where
  all : ∀ {w w'}, x w = (.ok (), w') → w'.written = w.written ++ b
  steady : ∀ {w : Sink σ}, w.Steady → ∃ w', x w = (.ok (), w') ∧ w'.Steady

end Output

/-- **One `Write`** hands over the front of `p`; a steady writer takes something and stays steady. -/
theorem Sink.write_cases (w : Sink σ) (p : List σ) :
    ∃ n e w', w.write p = (n, e, w') ∧ w'.written = w.written ++ p.take n ∧
      (w.Steady → e = none ∧ (p ≠ [] → n ≠ 0) ∧ w'.Steady) := by
  have hmin : ∀ n, p.take n = p.take (min n p.length) := fun n => List.take_eq_take_min
  unfold Sink.write
  split
  · rename_i hplan
    refine ⟨_, _, _, rfl, by rw [List.take_length], fun _ => ⟨rfl, fun hp => ?_, ?_⟩⟩
    · exact (List.length_pos_iff.mpr hp).ne'
    · intro a ha
      rw [hplan] at ha
      cases ha
  · rename_i n plan hplan
    refine ⟨_, _, _, rfl, by rw [← hmin], fun hs => ⟨rfl, fun hp => ?_, fun a ha => hs a ?_⟩⟩
    · obtain ⟨m, hm⟩ := hs (.takes n) (by rw [hplan]; exact List.mem_cons_self)
      have hn : n = m + 1 := Accept.takes.inj hm
      have := List.length_pos_iff.mpr hp
      omega
    · rw [hplan]
      exact List.mem_cons_of_mem _ ha
  · rename_i n message plan hplan
    refine ⟨_, _, _, rfl, by rw [← hmin], fun hs => ?_⟩
    obtain ⟨m, hm⟩ := hs (.fails n message) (by rw [hplan]; exact List.mem_cons_self)
    cases hm

namespace Output

theorem writes_pure : Writes (pure () : Output σ Unit) [] where
  all {w w'} h := by
    obtain ⟨-, rfl⟩ := Prod.mk.inj h
    exact (List.append_nil _).symm
  steady {w} hw := ⟨w, rfl, hw⟩

theorem writes_writeLoop {fuel : Nat} {p : List σ} (hp : p.length ≤ fuel) :
    Writes (writeLoop fuel p) p := by
  induction fuel generalizing p with
  | zero =>
    obtain rfl : p = [] := List.length_eq_zero_iff.mp (Nat.le_zero.mp hp)
    exact writes_pure
  | succ fuel ih =>
    by_cases hnil : p = []
    · subst hnil
      exact writes_pure
    have hstep : ∀ w, writeLoop (fuel + 1) p w = match w.write p with
        | (_, some e, w') => (.error e, w')
        | (n, none, w') => if n = 0 then (.error .shortWrite, w')
            else writeLoop fuel (p.drop n) w' := fun w => if_neg hnil
    -- a write that takes something leaves less to write
    have hrest : ∀ n, n ≠ 0 → Writes (writeLoop fuel (p.drop n)) (p.drop n) := by
      intro n hn
      refine ih ?_
      rw [List.length_drop]
      omega
    constructor
    · intro w w' h
      obtain ⟨n, e, w₁, hw, hwritten, -⟩ := w.write_cases p
      rw [hstep, hw] at h
      cases e with
      | some e => cases (Prod.mk.inj h).1
      | none =>
        by_cases hn : n = 0
        · simp only [hn, if_true] at h
          cases (Prod.mk.inj h).1
        · simp only [if_neg hn] at h
          rw [(hrest n hn).all h, hwritten, List.append_assoc, List.take_append_drop]
    · intro w hs
      obtain ⟨n, e, w₁, hw, -, hsteady⟩ := w.write_cases p
      obtain ⟨rfl, hn, hs₁⟩ := hsteady hs
      rw [hstep, hw]
      simp only [if_neg (hn hnil)]
      exact (hrest n (hn hnil)).steady hs₁

theorem Writes.bind {x : Output σ Unit} {y : Unit → Output σ Unit} {b c : List σ} (hx : Writes x b)
    (hy : Writes (y ()) c) : Writes (x >>= y) (b ++ c) := by
  constructor
  · intro w w' h
    cases hxw : x w with
    | mk result w₁ =>
      cases result with
      | error e =>
        rw [bind_error hxw] at h
        cases (Prod.mk.inj h).1
      | ok a =>
        rw [bind_ok hxw] at h
        rw [hy.all h, hx.all hxw, List.append_assoc]
  · intro w hs
    obtain ⟨w₁, hw₁, hs₁⟩ := hx.steady hs
    rw [bind_ok hw₁]
    exact hy.steady hs₁

end Output

end Mygosh

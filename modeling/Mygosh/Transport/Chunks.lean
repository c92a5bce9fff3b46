/-
  File:      Mygosh/Transport/Chunks.lean
  Subject:   `recvChunk` on a stream that may end anywhere (`lib/transport/transport.go`), and what
             the receiver of a session makes of the end.

  A stream is a sequence of chunks and a rest that does not begin with one. `io.ReadFull` reports
  `io.EOF` whenever nothing was left for one call; a chunk takes two calls.
-/
import Mygosh.Bincoder.Stream
import Mygosh.Session.Encoding
import Mygosh.Session.Receiver

namespace Mygosh.Transport

open Proto (Bytes)
open Bincoder
open Mux (maxPayloadSize)

/-! ## 1. Receiving -/

/-- `recvChunk`. -/
def recvChunk : Input UInt8 Bytes := readBytes maxPayloadSize

/-- `recvChunk` again and again until it fails, at most so many times. -/
def recvLoop : Nat → Source UInt8 → List Bytes × Option IoErr
  | 0, _ => ([], none)
  | calls + 1, r =>
    match recvChunk r with
    | (.error e, _) => ([], some e)
    | (.ok c, r') =>
      let rest := recvLoop calls r'
      (c :: rest.1, rest.2)

/-- All chunks of a stream and the error after them; a chunk has at least one byte on the stream. -/
def recvAll (r : Source UInt8) : List Bytes × Option IoErr := recvLoop (r.data.length + 1) r

/-- What `receiverLoop` sees of an error of `ReceiveFrame`. -/
def endChoice (e : IoErr) : Mux.Choice := if e = .eof then .eof else .readErr

/-- `receiverLoop` shuts the session down without an error. -/
def ClosesCleanly (cfg : Mux.Config) (s : Mux.Session) (e : IoErr) : Prop :=
  s.receive cfg (endChoice e) = some ⟨s, .shutdown none .exit, []⟩

/-! ## 2. Streams of chunks -/

/-- A chunk on the stream, as the decoder with the same maximum sees it. -/
def chunk : Parser UInt8 Bytes := Format.bytes (limitOf maxPayloadSize)

/-- The complete chunks of a stream, and what is left behind them. -/
structure Split (b : Bytes) (chunks : List Bytes) (tail : Bytes) : Prop where
  eq : b = (chunks.map prefixed).flatten ++ tail
  short : ∀ c ∈ chunks, c.length ≤ maxPayloadSize
  stop : chunk tail = none

/-- The stream ends right behind the length of a chunk that is not empty. -/
def LonePrefix (tail : Bytes) : Prop :=
  ∃ n : UInt32, 0 < n.toNat ∧ n.toNat ≤ maxPayloadSize ∧ tail = putUint32 n

/-- **Clean ends are chunk boundaries**: the calls return the chunks of the stream, and the last one
    reports `io.EOF`, which the session takes as a clean end, exactly if nothing is left. -/
def CleanEnd (r : Source UInt8) : Prop :=
  ∃ chunks tail e, Split r.data chunks tail ∧ recvAll r = (chunks, some e) ∧
    (e = .eof ↔ tail = []) ∧ ∀ cfg s, ClosesCleanly cfg s e ↔ tail = []

theorem reads_chunk : chunk.Reads fun w c => w = prefixed c ∧ c.length ≤ maxPayloadSize :=
  Format.reads_bytes _

/-- A stream is split in one way. -/
theorem Split.unique {b tail tail' : Bytes} {chunks chunks' : List Bytes} (h : Split b chunks tail)
    (h' : Split b chunks' tail') : chunks = chunks' ∧ tail = tail' := by
  induction chunks generalizing b chunks' with
  | nil =>
    obtain rfl : b = tail := h.eq
    cases chunks' with
    | nil => exact ⟨rfl, h'.eq⟩
    | cons c cs =>
      have hfound := reads_chunk.of_word ⟨rfl, h'.short c List.mem_cons_self⟩
        ((cs.map prefixed).flatten ++ tail')
      rw [← List.append_assoc, ← List.flatten_cons, ← List.map_cons, ← h'.eq, h.stop] at hfound
      cases hfound
  | cons c cs ih =>
    have hfound := reads_chunk.of_word ⟨rfl, h.short c List.mem_cons_self⟩
      ((cs.map prefixed).flatten ++ tail)
    have heq := h.eq
    rw [List.map_cons, List.flatten_cons, List.append_assoc] at heq
    rw [← heq] at hfound
    cases chunks' with
    | nil =>
      obtain rfl : b = tail' := h'.eq
      rw [h'.stop] at hfound
      cases hfound
    | cons c' cs' =>
      have heq' := h'.eq
      rw [List.map_cons, List.flatten_cons, List.append_assoc] at heq'
      obtain ⟨rfl, -, hrest⟩ := reads_chunk.unique ⟨rfl, h.short c List.mem_cons_self⟩
        ⟨rfl, h'.short c' List.mem_cons_self⟩ (heq.symm.trans heq')
      have htail : Split ((cs.map prefixed).flatten ++ tail) cs' tail' :=
        ⟨hrest, fun c hc => h'.short c (List.mem_cons_of_mem _ hc), h'.stop⟩
      obtain ⟨rfl, rfl⟩ :=
        ih ⟨rfl, fun c hc => h.short c (List.mem_cons_of_mem _ hc), h.stop⟩ htail
      exact ⟨rfl, rfl⟩

/-! ## 3. One call -/

theorem recvChunk_ok {r : Source UInt8} {c rest : Bytes} (h : chunk r.data = some (c, rest)) :
    ∃ r', recvChunk r = (.ok c, r') ∧ r'.data = rest :=
  (follows_readBytes _).ok h

/-- **The error at the end.** It is `io.EOF` if nothing is left, but also if only the length of a
    chunk is: the second `io.ReadFull` then finds nothing either. -/
theorem recvChunk_fails {r : Source UInt8} (h : chunk r.data = none) :
    ∃ e r', recvChunk r = (.error e, r') ∧ (e = .eof ↔ r.data = [] ∨ LonePrefix r.data) := by
  obtain ⟨e, r', herr⟩ := (follows_readBytes maxPayloadSize).fails h
  refine ⟨e, r', herr, ?_⟩
  unfold readBytes at herr
  rcases readU32_cases r with ⟨n, r₁, hlen, hdata⟩ | ⟨r₁, hlen, hshort⟩
  · rw [Input.bind_ok hlen] at herr
    have hne : r.data ≠ [] := by
      rw [hdata]
      exact fun h => nomatch h
    have hlone : LonePrefix r.data ↔ 0 < n.toNat ∧ n.toNat ≤ maxPayloadSize ∧ r₁.data = [] := by
      constructor
      · rintro ⟨m, hpos, hm, heq⟩
        rw [hdata, ← List.append_nil (putUint32 m)] at heq
        obtain ⟨rfl, -, hnil⟩ := Format.reads_u32.unique rfl rfl heq
        exact ⟨hpos, hm, hnil⟩
      · rintro ⟨hpos, hm, hnil⟩
        exact ⟨n, hpos, hm, by rw [hdata, hnil, List.append_nil]⟩
    by_cases hn : n > limitOf maxPayloadSize
    · rw [if_pos (limitOf_lt.mpr hn)] at herr
      obtain rfl := Except.error.inj (Prod.mk.inj herr).1
      have hbig : ¬n.toNat ≤ maxPayloadSize := Nat.not_le_of_lt hn
      simp only [hlone, hne, hbig, false_and, and_false, or_false]
      exact ⟨(fun h => nomatch h), False.elim⟩
    · rw [if_neg (mt limitOf_lt.mp hn)] at herr
      have hsmall : n.toNat ≤ maxPayloadSize := Nat.le_of_not_lt hn
      obtain ⟨r₂, ⟨-, hok, -⟩ | ⟨hless, hend⟩⟩ := Input.readFull_spec n.toNat r₁
      · rw [hok] at herr
        cases (Prod.mk.inj herr).1
      · rw [hend] at herr
        obtain rfl := Except.error.inj (Prod.mk.inj herr).1
        have hpos : 0 < n.toNat := by omega
        simp only [hlone, hne, hpos, hsmall, true_and, false_or]
        by_cases hnil : r₁.data = [] <;> simp [hnil]
  · rw [Input.bind_error hlen] at herr
    obtain rfl := Except.error.inj (Prod.mk.inj herr).1
    have hlone : ¬LonePrefix r.data := by
      rintro ⟨n, -, -, heq⟩
      rw [heq, length_putUint32] at hshort
      omega
    simp only [hlone, or_false]
    by_cases hnil : r.data = [] <;> simp [hnil]

/-! ## 4. The whole stream -/

theorem recvLoop_spec {calls : Nat} {r : Source UInt8} (h : r.data.length < calls) :
    ∃ chunks tail e, Split r.data chunks tail ∧ recvLoop calls r = (chunks, some e) ∧
      (e = .eof ↔ tail = [] ∨ LonePrefix tail) := by
  induction calls generalizing r with
  | zero => omega
  | succ calls ih =>
    unfold recvLoop
    cases hchunk : chunk r.data with
    | none =>
      obtain ⟨e, r', herr, he⟩ := recvChunk_fails hchunk
      rw [herr]
      exact ⟨[], r.data, e, ⟨rfl, (fun _ h => nomatch h), hchunk⟩, rfl, he⟩
    | some found =>
      obtain ⟨c, rest⟩ := found
      obtain ⟨r', hok, hrest⟩ := recvChunk_ok hchunk
      obtain ⟨w, ⟨rfl, hshort⟩, hdata⟩ := (reads_chunk _ _ _).mp hchunk
      have hless : r'.data.length < calls := by
        rw [hdata, List.length_append, length_prefixed] at h
        rw [hrest]
        omega
      obtain ⟨chunks, tail, e, hsplit, hloop, he⟩ := ih hless
      rw [hok]
      refine ⟨c :: chunks, tail, e, ⟨?_, ?_, hsplit.stop⟩, by simp only [hloop], he⟩
      · rw [hdata, ← hrest, hsplit.eq, List.map_cons, List.flatten_cons, List.append_assoc]
      · exact List.forall_mem_cons.mpr ⟨hshort, hsplit.short⟩

theorem closesCleanly_iff {cfg : Mux.Config} {s : Mux.Session} {e : IoErr} :
    ClosesCleanly cfg s e ↔ e = .eof := by
  unfold ClosesCleanly endChoice
  by_cases he : e = .eof
  · rw [if_pos he]
    exact ⟨fun _ => he, fun _ => rfl⟩
  · rw [if_neg he]
    refine ⟨fun h => ?_, fun h => absurd h he⟩
    unfold Mux.Session.receive at h
    split_ifs at h <;> cases h

theorem lonePrefix_ne_nil {tail : Bytes} (h : LonePrefix tail) : tail ≠ [] := by
  obtain ⟨n, -, -, rfl⟩ := h
  exact fun h => nomatch h

/-- **When the end is told apart.** The calls always return the chunks of the stream; their last error
    is right except on a stream that ends between the length of a chunk and the chunk. -/
theorem cleanEnd_iff (r : Source UInt8) :
    CleanEnd r ↔ ¬∃ chunks tail, Split r.data chunks tail ∧ LonePrefix tail := by
  obtain ⟨chunks, tail, e, hsplit, hall, he⟩ := recvLoop_spec (Nat.lt_succ_self r.data.length)
  constructor
  · rintro ⟨chunks₁, tail₁, e₁, hsplit₁, hall₁, he₁, -⟩ ⟨chunks₂, tail₂, hsplit₂, hlone⟩
    obtain ⟨-, rfl⟩ := hsplit.unique hsplit₁
    obtain ⟨-, rfl⟩ := hsplit.unique hsplit₂
    obtain rfl : e = e₁ := Option.some.inj (Prod.mk.inj (hall.symm.trans hall₁)).2
    exact lonePrefix_ne_nil hlone (he₁.mp (he.mpr (.inr hlone)))
  · intro hnone
    have htail : e = .eof ↔ tail = [] := by
      rw [he]
      exact ⟨fun h => h.resolve_right fun hlone => hnone ⟨_, _, hsplit, hlone⟩, .inl⟩
    exact ⟨chunks, tail, e, hsplit, hall, htail, fun cfg s => closesCleanly_iff.trans htail⟩

/-- Four bytes that announce a chunk of one byte: the call reports `io.EOF`. -/
theorem not_cleanEnd_lone_prefix : ¬CleanEnd ⟨[[0, 0, 0, 1]], false⟩ := by
  have hsplit : Split ([0, 0, 0, 1] : Bytes) [] [0, 0, 0, 1] :=
    ⟨rfl, (fun _ h => nomatch h), by decide⟩
  have hall : recvAll ⟨[[0, 0, 0, 1]], false⟩ = ([], some .eof) := by decide
  rintro ⟨chunks, tail, e, hsplit₁, hall₁, he, -⟩
  obtain ⟨-, rfl⟩ := hsplit.unique hsplit₁
  obtain rfl : IoErr.eof = e := Option.some.inj (Prod.mk.inj (hall.symm.trans hall₁)).2
  exact absurd (he.mp rfl) (by decide)

end Mygosh.Transport

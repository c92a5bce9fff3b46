/-
  File:      Mygosh/Bincoder/Stream.lean
  Subject:   Reading and writing single values on a connection (`lib/bincoder/rw.go`).

  The formats are those of the decoder in memory; each reading function follows its format, however
  the connection splits the stream.
-/
import Mygosh.Bincoder.Coder
import Mygosh.Transfer

namespace Mygosh.Bincoder

open Proto (Bytes)

/-! ## 1. Reading -/

/-- `ReadByte`. -/
def readByte : Input UInt8 UInt8 := do
  let buf ← Input.readFull 1
  pure (buf.headD 0)

/-- `ReadBool`. -/
def readBool : Input UInt8 Bool := do
  let b ← readByte
  if b = 0 then pure false
  else if b = 1 then pure true
  else Input.throw (.failed s!"invalid bool byte {b}")

/-- `ReadU32`. -/
def readU32 : Input UInt8 UInt32 := do
  let buf ← Input.readFull 4
  pure ((uint32 buf).getD 0)

/-- `ReadBytes`; a maximum of 0 is none, any other one is converted to `uint32`. -/
def readBytes (maxBytes : Int) : Input UInt8 Bytes := do
  let len ← readU32
  if maxBytes ≠ 0 ∧ len > UInt32.ofInt maxBytes then
    Input.throw (.failed s!"length {len} exceeds maximum {maxBytes}")
  else Input.readFull len.toNat

/-- The maximum of a decoder that `ReadBytes` agrees with. -/
def limitOf (maxBytes : Int) : UInt32 :=
  if maxBytes = 0 then 4294967295 else UInt32.ofInt maxBytes

theorem limitOf_lt {maxBytes : Int} {len : UInt32} :
    (maxBytes ≠ 0 ∧ len > UInt32.ofInt maxBytes) ↔ len > limitOf maxBytes := by
  unfold limitOf
  by_cases h0 : maxBytes = 0
  · have hmax : ¬len > 4294967295 := by
      refine UInt32.not_lt.mpr (UInt32.le_iff_toNat_le.mpr ?_)
      exact Nat.le_of_lt_succ len.toNat_lt
    simp only [h0, ne_eq, not_true_eq_false, false_and, if_true, hmax]
  · simp only [ne_eq, h0, not_false_eq_true, true_and, if_false]

theorem follows_readByte : Input.Follows readByte Format.byte := by
  refine (Input.follows_readFull 1).bind fun {a b rest} hp => ?_
  obtain ⟨w, ⟨rfl, hlen⟩, -⟩ := (Parser.reads_take 1 b a rest).mp hp
  obtain ⟨y, rfl⟩ := List.length_eq_one_iff.mp hlen
  exact Input.follows_pure y

theorem follows_readBool : Input.Follows readBool Format.bool := by
  refine follows_readByte.bind fun {a b rest} _ => ?_
  by_cases h0 : a = 0
  · simp only [if_pos h0]
    exact Input.follows_pure false
  by_cases h1 : a = 1
  · simp only [if_neg h0, if_pos h1]
    exact Input.follows_pure true
  · simp only [if_neg h0, if_neg h1]
    exact Input.follows_throw _

theorem follows_readU32 : Input.Follows readU32 Format.u32 := by
  refine (Input.follows_readFull 4).bind fun {a b rest} hp => ?_
  obtain ⟨w, ⟨rfl, hlen⟩, -⟩ := (Parser.reads_take 4 b a rest).mp hp
  match w, hlen with
  | [b₀, b₁, b₂, b₃], _ => exact Input.follows_pure _

/-- A word at the front of the stream, or the error of a stream that is too short for one. -/
theorem readU32_cases (r : Source UInt8) :
    (∃ n r', readU32 r = (.ok n, r') ∧ r.data = putUint32 n ++ r'.data) ∨
    (∃ r', readU32 r = (.error (if r.data = [] then .eof else .unexpectedEOF), r') ∧
      r.data.length < 4) := by
  obtain ⟨r', ⟨hlen, -, -⟩ | ⟨hlen, herr⟩⟩ := Input.readFull_spec 4 r
  · have htake : (r.data.take 4).length = 4 := List.length_take_of_le hlen
    obtain ⟨n, hn⟩ : ∃ n, uint32 (r.data.take 4) = some n := by
      match r.data.take 4, htake with
      | [b₀, b₁, b₂, b₃], _ => exact ⟨_, rfl⟩
    have hdata : r.data = putUint32 n ++ r.data.drop 4 := by
      rw [← putUint32_of_uint32 htake hn, List.take_append_drop]
    have hread : Format.u32 r.data = some (n, r.data.drop 4) :=
      (Format.reads_u32 _ _ _).mpr ⟨_, rfl, hdata⟩
    obtain ⟨r', hr', hrest⟩ := follows_readU32.ok hread
    exact .inl ⟨n, r', hr', by rw [hrest]; exact hdata⟩
  · exact .inr ⟨r', Input.bind_error herr, hlen⟩

theorem follows_readBytes (maxBytes : Int) :
    Input.Follows (readBytes maxBytes) (Format.bytes (limitOf maxBytes)) := by
  refine follows_readU32.bind fun {n b rest} _ => ?_
  by_cases hn : n > limitOf maxBytes
  · rw [if_pos (limitOf_lt.mpr hn), if_pos hn]
    exact Input.follows_throw _
  · rw [if_neg (mt limitOf_lt.mp hn), if_neg hn]
    exact Input.follows_readFull _

/-! ## 2. Writing -/

/-- `writeFull`. -/
def writeFull (p : Bytes) : Output UInt8 Unit := Output.writeLoop p.length p

/-- `WriteByte`. -/
def writeByte (b : UInt8) : Output UInt8 Unit := writeFull [b]

/-- `WriteBool`. -/
def writeBool (v : Bool) : Output UInt8 Unit := if v then writeByte 1 else writeByte 0

/-- `WriteU32`. -/
def writeU32 (n : UInt32) : Output UInt8 Unit := writeFull (putUint32 n)

/-- `WriteBytes`. -/
def writeBytes (b : Bytes) : Output UInt8 Unit :=
  if b.length > maxUint32 then
    Output.throw (.failed s!"chunk size exceeds length field width: {b.length}")
  else do
    writeU32 (UInt32.ofNat b.length)
    writeFull b

theorem writes_writeFull (p : Bytes) : Output.Writes (writeFull p) p :=
  Output.writes_writeLoop le_rfl

theorem writes_writeBool (v : Bool) : Output.Writes (writeBool v) [if v then 1 else 0] := by
  cases v <;> exact writes_writeFull _

theorem writes_writeBytes {b : Bytes} (h : b.length ≤ maxUint32) :
    Output.Writes (writeBytes b) (prefixed b) := by
  rw [writeBytes, if_neg (Nat.not_lt_of_le h)]
  exact (writes_writeFull _).bind (writes_writeFull b)

end Mygosh.Bincoder

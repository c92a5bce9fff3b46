/-
  File:      Mygosh/Bincoder/Coder.lean
  Subject:   The encoder and the decoder of byte strings in memory (`lib/bincoder/encoder.go`,
             `decoder.go`).

  Both keep their first error and do nothing after it. A decoder's step returns `none` where Go would
  panic on an index out of range. `Decodes x max p` says that a step does what the parser `p` does with
  what is left of the buffer, and never panics.
-/
import Mygosh.Parser
import Mygosh.Proto
import Mygosh.Word

namespace Mygosh.Bincoder

open Proto (Bytes textBytes textBytes_inj)

/-! ## 1. Words of 32 bits -/

/-- `ORDER.PutUint32`, with the big-endian order. -/
def putUint32 (n : UInt32) : Bytes :=
  [UInt8.ofNat (n.toNat / 16777216), UInt8.ofNat (n.toNat / 65536), UInt8.ofNat (n.toNat / 256),
    UInt8.ofNat n.toNat]

/-- `ORDER.Uint32`; it panics on fewer than four bytes. -/
def uint32 : Bytes → Option UInt32
  | b₀ :: b₁ :: b₂ :: b₃ :: _ => some (UInt32.ofNat
      (b₀.toNat * 16777216 + b₁.toNat * 65536 + b₂.toNat * 256 + b₃.toNat))
  | _ => none

theorem length_putUint32 (n : UInt32) : (putUint32 n).length = 4 := rfl

theorem uint32_putUint32 (n : UInt32) : uint32 (putUint32 n) = some n := by
  have hlt := n.toNat_lt
  simp only [putUint32, uint32, Option.some.injEq, UInt8.toNat_ofNat']
  apply UInt32.toNat_inj.mp
  rw [UInt32.toNat_ofNat']
  omega

/-- Four bytes are the word they are read as. -/
theorem putUint32_of_uint32 {b : Bytes} {n : UInt32} (hlen : b.length = 4) (h : uint32 b = some n) :
    b = putUint32 n := by
  match b, hlen with
  | [b₀, b₁, b₂, b₃], _ =>
    have h₀ := b₀.toNat_lt
    have h₁ := b₁.toNat_lt
    have h₂ := b₂.toNat_lt
    have h₃ := b₃.toNat_lt
    simp only [uint32, Option.some.injEq] at h
    have hn : n.toNat = b₀.toNat * 16777216 + b₁.toNat * 65536 + b₂.toNat * 256 + b₃.toNat := by
      rw [← h, UInt32.toNat_ofNat']
      omega
    have hbyte : ∀ (x : UInt8) (m : Nat), m % 256 = x.toNat → x = UInt8.ofNat m := by
      intro x m hm
      apply UInt8.toNat_inj.mp
      rw [UInt8.toNat_ofNat']
      exact hm.symm
    rw [putUint32, hn]
    rw [← hbyte b₀ _ (by omega), ← hbyte b₁ _ (by omega), ← hbyte b₂ _ (by omega),
      ← hbyte b₃ _ (by omega)]

/-! ## 2. The encoder -/

/-- `Encoder`. -/
structure Encoder where
  buf : Bytes
  err : Option String
  deriving DecidableEq, Repr

namespace Encoder

/-- `NewEncoder`. -/
def new : Encoder := ⟨[], none⟩

/-- `Result`. -/
def result (e : Encoder) : Bytes := if e.err.isSome then [] else e.buf

/-- `Write`. -/
def write (e : Encoder) (b : Bytes) : Encoder :=
  if e.err.isSome then e else { e with buf := e.buf ++ b }

/-- `Byte`. -/
def byte (e : Encoder) (b : UInt8) : Encoder := if e.err.isSome then e else e.write [b]

/-- `Bool`. -/
def bool (e : Encoder) (v : Bool) : Encoder := if v then e.byte 1 else e.byte 0

/-- `U32`. -/
def u32 (e : Encoder) (n : UInt32) : Encoder :=
  if e.err.isSome then e else e.write (putUint32 n)

/-- `Bytes`. -/
def bytes (e : Encoder) (b : Bytes) : Encoder :=
  if e.err.isSome then e
  else if b.length > maxUint32 then
    { e with err := some s!"byte string length {b.length} exceeds length field width" }
  else (e.u32 (UInt32.ofNat b.length)).write b

/-- `UTF8String`. -/
def utf8String (e : Encoder) (s : String) : Encoder := e.bytes (textBytes s)

end Encoder

/-! ## 3. The decoder -/

/-- `Decoder`. -/
structure Decoder where
  buf : Bytes
  off : Nat
  err : Option String
  maxBytes : UInt32
  deriving DecidableEq, Repr

/-- `b[lo:hi]`; it panics outside the bounds. -/
def slice (b : Bytes) (lo hi : Nat) : Option Bytes :=
  if lo ≤ hi ∧ hi ≤ b.length then some ((b.drop lo).take (hi - lo)) else none

/-- A step with a decoder; `none` is a panic. -/
def Dec (α : Type) : Type := Decoder → Option (α × Decoder)

namespace Dec

variable {α β : Type}

instance : Monad Dec where
  pure a := fun c => some (a, c)
  bind x f := fun c => (x c).bind fun r => f r.1 r.2

/-- `if c.err != nil { return zero }` in front of a step. -/
def unlessErr (zero : α) (x : Dec α) : Dec α := fun c => if c.err.isSome then some (zero, c) else x c

/-- An index into a slice. -/
def orPanic (o : Option α) : Dec α := fun c => o.map fun a => (a, c)

/-- The decoder's error is set. -/
def refuse (zero : α) (message : Decoder → String) : Dec α := fun c =>
  some (zero, { c with err := some (message c) })

end Dec

namespace Decoder

/-- `NewCursor`. -/
def newCursor (b : Bytes) : Decoder := ⟨b, 0, none, 4294967295⟩

/-- `WithMaxBytes`. -/
def withMaxBytes (c : Decoder) (n : UInt32) : Decoder := { c with maxBytes := n }

/-- `Rest`. -/
def rest (c : Decoder) : Option Bytes :=
  if c.err.isSome then some [] else slice c.buf c.off c.buf.length

/-- `Done`. -/
def done (c : Decoder) : Option String :=
  if c.err.isSome then c.err
  else if c.off ≠ c.buf.length then
    some s!"trailing data: {c.buf.length - c.off} bytes remaining at offset {c.off}"
  else none

/-- `Take`. -/
def take (n : UInt32) : Dec Bytes := Dec.unlessErr [] fun c =>
  if c.off + n.toNat > c.buf.length then
    Dec.refuse [] (fun c =>
      s!"truncated: need {n} bytes at offset {c.off}, have {c.buf.length - c.off}") c
  else
    (slice c.buf c.off (c.off + n.toNat)).map fun b => (b, { c with off := c.off + n.toNat })

/-- `Byte`. -/
def byte : Dec UInt8 := do
  let b ← take 1
  Dec.unlessErr 0 (Dec.orPanic b.head?)

/-- `Bool`. -/
def bool : Dec Bool := do
  let b ← byte
  Dec.unlessErr false <|
    if b = 0 then pure false
    else if b = 1 then pure true
    else Dec.refuse false fun c => s!"invalid bool byte {b} at offset {c.off - 1}"

/-- `U32`. -/
def u32 : Dec UInt32 := do
  let b ← take 4
  Dec.unlessErr 0 (Dec.orPanic (uint32 b))

/-- `Bytes`. -/
def bytes : Dec Bytes := do
  let n ← u32
  Dec.unlessErr [] fun c =>
    if n > c.maxBytes then
      Dec.refuse [] (fun c => s!"byte string length {n} exceeds maximum {c.maxBytes}") c
    else take n c

/-- `utf8.Valid`, and the text of valid bytes. -/
def text (b : Bytes) : Option String := String.fromUTF8? ⟨b.toArray⟩

/-- `UTF8String`. -/
def utf8String : Dec String := do
  let b ← bytes
  Dec.unlessErr "" <|
    match text b with
    | some s => pure s
    | none => Dec.refuse "" fun c => s!"invalid UTF-8 string at offset {c.off - b.length}"

/-- `ExpectBytes`. -/
def expectBytes (want : Bytes) : Dec Unit := do
  let got ← take (UInt32.ofNat want.length)
  Dec.unlessErr () <|
    if got = want then pure ()
    else Dec.refuse () fun c => s!"unexpected bytes at offset {c.off - want.length}"

end Decoder

/-! ## 4. The formats -/

/-- A byte string with its length in front. -/
def prefixed (b : Bytes) : Bytes := putUint32 (UInt32.ofNat b.length) ++ b

theorem length_prefixed (b : Bytes) : (prefixed b).length = 4 + b.length := by
  rw [prefixed, List.length_append, length_putUint32]

theorem toNat_ofNat_of_le {n : Nat} {max : UInt32} (h : n ≤ max.toNat) : (UInt32.ofNat n).toNat = n :=
  UInt32.toNat_ofNat_of_lt' (Nat.lt_of_le_of_lt h max.toNat_lt)

theorem text_eq_some {b : Bytes} {s : String} : Decoder.text b = some s ↔ b = textBytes s := by
  unfold Decoder.text String.fromUTF8?
  constructor
  · intro h
    split_ifs at h with hv
    cases h
    rfl
  · rintro rfl
    have hbytes : (⟨(textBytes s).toArray⟩ : ByteArray) = s.toByteArray := rfl
    rw [hbytes, dif_pos s.isValidUTF8]
    rfl

namespace Format

def byte : Parser UInt8 UInt8 := Parser.take 1 >>= fun b => .lift b.head?

def bool : Parser UInt8 Bool :=
  byte >>= fun b => .lift (if b = 0 then some false else if b = 1 then some true else none)

def u32 : Parser UInt8 UInt32 := Parser.take 4 >>= fun b => .lift (uint32 b)

def bytes (max : UInt32) : Parser UInt8 Bytes :=
  u32 >>= fun n => if n > max then .fail else .take n.toNat

def utf8 (max : UInt32) : Parser UInt8 String := bytes max >>= fun b => .lift (Decoder.text b)

/-- The bytes `want`. -/
def expect (want : Bytes) : Parser UInt8 Unit :=
  Parser.take want.length >>= fun got => .lift (if got = want then some () else none)

theorem reads_byte : byte.Reads fun w b => w = [b] := by
  refine ((Parser.reads_take 1).lift _).congr fun w b => ?_
  constructor
  · rintro ⟨a, ⟨rfl, hlen⟩, hb⟩
    obtain ⟨x, rfl⟩ := List.length_eq_one_iff.mp hlen
    rw [Option.some.inj hb]
  · rintro rfl
    exact ⟨[b], ⟨rfl, rfl⟩, rfl⟩

theorem reads_bool : bool.Reads fun w v => w = [if v then 1 else 0] := by
  refine (reads_byte.lift _).congr fun w v => ?_
  constructor
  · rintro ⟨b, rfl, hb⟩
    split_ifs at hb with h0 h1
    · cases hb
      rw [h0]
      rfl
    · cases hb
      rw [h1]
      rfl
  · rintro rfl
    cases v <;> exact ⟨_, rfl, rfl⟩

theorem reads_u32 : u32.Reads fun w n => w = putUint32 n := by
  refine ((Parser.reads_take 4).lift _).congr fun w n => ?_
  constructor
  · rintro ⟨b, ⟨rfl, hlen⟩, hn⟩
    exact putUint32_of_uint32 hlen hn
  · rintro rfl
    exact ⟨putUint32 n, ⟨rfl, rfl⟩, uint32_putUint32 n⟩

theorem reads_bytes (max : UInt32) :
    (bytes max).Reads fun w b => w = prefixed b ∧ b.length ≤ max.toNat := by
  have hbody : ∀ n : UInt32, (if n > max then Parser.fail else Parser.take n.toNat :
      Parser UInt8 Bytes).Reads fun w b => ¬n > max ∧ w = b ∧ b.length = n.toNat := by
    intro n
    by_cases hn : n > max
    · rw [if_pos hn]
      exact Parser.reads_fail.congr fun w b => by simp [hn]
    · rw [if_neg hn]
      exact (Parser.reads_take _).congr fun w b => by simp [hn]
  refine (reads_u32.bind hbody).congr fun w b => ?_
  constructor
  · rintro ⟨n, u, v, rfl, ⟨hn, rfl, hlen⟩, rfl⟩
    refine ⟨?_, ?_⟩
    · rw [prefixed, hlen, UInt32.ofNat_toNat]
    · rw [hlen]
      exact UInt32.not_lt.mp hn
  · rintro ⟨rfl, hle⟩
    have hlen := toNat_ofNat_of_le hle
    refine ⟨_, _, b, rfl, ⟨?_, rfl, hlen.symm⟩, rfl⟩
    refine UInt32.not_lt.mpr (UInt32.le_iff_toNat_le.mpr ?_)
    rw [hlen]
    exact hle

theorem reads_utf8 (max : UInt32) :
    (utf8 max).Reads fun w s => w = prefixed (textBytes s) ∧ (textBytes s).length ≤ max.toNat := by
  refine ((reads_bytes max).lift _).congr fun w s => ?_
  constructor
  · rintro ⟨b, hb, hs⟩
    rwa [text_eq_some.mp hs] at hb
  · intro h
    exact ⟨textBytes s, h, text_eq_some.mpr rfl⟩

theorem reads_expect (want : Bytes) : (expect want).Reads fun w _ => w = want := by
  refine ((Parser.reads_take want.length).lift _).congr fun w _ => ?_
  constructor
  · rintro ⟨got, ⟨rfl, -⟩, hgot⟩
    by_cases heq : w = want
    · exact heq
    · rw [if_neg heq] at hgot
      cases hgot
  · rintro rfl
    exact ⟨w, ⟨rfl, rfl⟩, if_pos rfl⟩

end Format

/-! ## 5. Steps and formats -/

/-- A decoder without an error that has `rest` to read. -/
structure Decoder.Sees (c : Decoder) (max : UInt32) (rest : Bytes) : Prop where
  err : c.err = none
  off_le : c.off ≤ c.buf.length
  left : c.buf.drop c.off = rest
  max : c.maxBytes = max

/-- A step that does with the rest of the buffer what `p` does, starting without an error. -/
structure Serves {α : Type} (x : Dec α) (max : UInt32) (p : Parser UInt8 α) : Prop where
  ok : ∀ {c b a rest}, c.Sees max b → p b = some (a, rest) → ∃ c', x c = some (a, c') ∧ c'.Sees max rest
  fails : ∀ {c b}, c.Sees max b → p b = none → ∃ a c', x c = some (a, c') ∧ c'.err ≠ none

/-- The same, and after an error the step does nothing. -/
structure Decodes {α : Type} (x : Dec α) (max : UInt32) (p : Parser UInt8 α) : Prop extends
    Serves x max p where
  sticks : ∀ {c}, c.err ≠ none → ∃ a, x c = some (a, c)

section Steps

variable {α β : Type} {x : Dec α} {max : UInt32} {p : Parser UInt8 α} {c : Decoder} {b : Bytes}

theorem Decoder.Sees.newCursor (b : Bytes) : (Decoder.newCursor b).Sees 4294967295 b :=
  ⟨rfl, Nat.zero_le _, rfl, rfl⟩

theorem Decoder.Sees.withMaxBytes (h : c.Sees max b) (n : UInt32) : (c.withMaxBytes n).Sees n b :=
  ⟨h.err, h.off_le, h.left, rfl⟩

/-- `Rest` stays inside the buffer. -/
theorem Decoder.Sees.rest (h : c.Sees max b) : c.rest = some b := by
  have hlen : (c.buf.drop c.off).length = c.buf.length - c.off := List.length_drop
  rw [Decoder.rest, h.err, slice, if_neg (by simp), if_pos ⟨h.off_le, le_rfl⟩, ← hlen,
    List.take_length, h.left]

theorem Decoder.Sees.done (h : c.Sees max b) : c.done = none ↔ b = [] := by
  have hlen : b.length = c.buf.length - c.off := by rw [← h.left, List.length_drop]
  have hoff := h.off_le
  rw [Decoder.done, h.err, if_neg (by simp), ← List.length_eq_zero_iff, hlen]
  split_ifs with ho
  · simp only [false_iff]
    omega
  · simp only [true_iff]
    omega

theorem Decoder.done_of_err (h : c.err ≠ none) : c.done ≠ none := by
  rw [Decoder.done, if_pos (Option.isSome_iff_ne_none.mpr h)]
  exact h

theorem Dec.bind_eq {f : α → Dec β} {c c' : Decoder} {a : α} (h : x c = some (a, c')) :
    (x >>= f) c = f a c' := by
  show (x c).bind _ = _
  rw [h, Option.bind_some]

theorem decodes_pure (a : α) : Decodes (pure a) max (pure a) where
  ok {c b a' rest} hc h := by
    obtain ⟨rfl, rfl⟩ := Prod.mk.inj (Option.some.inj h)
    exact ⟨c, rfl, hc⟩
  fails _ h := nomatch h
  sticks {c} _ := ⟨a, rfl⟩

/-- **Steps in sequence.** After an error the second one does nothing, whatever value it is given;
    otherwise its value is one that the parser returns. -/
theorem Decodes.bind_of {f : α → Dec β} {q : α → Parser UInt8 β} (hx : Decodes x max p)
    (hf : ∀ {a b rest}, p b = some (a, rest) → Serves (f a) max (q a))
    (hs : ∀ {a c}, c.err ≠ none → ∃ y, f a c = some (y, c)) : Decodes (x >>= f) max (p >>= q) := by
  have hparser : ∀ b, (p >>= q) b = (p b).bind fun r => q r.1 r.2 := fun _ => rfl
  refine ⟨⟨fun {c b y rest} hc h => ?_, fun {c b} hc h => ?_⟩, fun {c} hc => ?_⟩
  · rw [hparser, Option.bind_eq_some_iff] at h
    obtain ⟨⟨a, mid⟩, hp, hq⟩ := h
    obtain ⟨c', hc', hmid⟩ := hx.ok hc hp
    rw [Dec.bind_eq hc']
    exact (hf hp).ok hmid hq
  · rw [hparser] at h
    cases hp : p b with
    | none =>
      obtain ⟨a, c', hc', herr⟩ := hx.fails hc hp
      obtain ⟨y, hy⟩ := @hs a c' herr
      exact ⟨y, c', (Dec.bind_eq hc').trans hy, herr⟩
    | some r =>
      obtain ⟨c', hc', hmid⟩ := hx.ok hc hp
      rw [hp, Option.bind_some] at h
      rw [Dec.bind_eq hc']
      exact (hf hp).fails hmid h
  · obtain ⟨a, ha⟩ := hx.sticks hc
    obtain ⟨y, hy⟩ := @hs a c hc
    exact ⟨y, (Dec.bind_eq ha).trans hy⟩

theorem Decodes.bind {f : α → Dec β} {q : α → Parser UInt8 β} (hx : Decodes x max p)
    (hf : ∀ a, Decodes (f a) max (q a)) : Decodes (x >>= f) max (p >>= q) :=
  hx.bind_of (fun _ => (hf _).toServes) fun hc => (hf _).sticks hc

theorem serves_unlessErr {zero : α} (h : Serves x max p) : Serves (.unlessErr zero x) max p := by
  have hrun : ∀ {c b}, c.Sees max b → Dec.unlessErr zero x c = x c := fun hc => by
    rw [Dec.unlessErr, hc.err]
    rfl
  exact ⟨fun hc hp => hrun hc ▸ h.ok hc hp, fun hc hp => hrun hc ▸ h.fails hc hp⟩

theorem unlessErr_sticks {zero : α} (hc : c.err ≠ none) :
    ∃ a, Dec.unlessErr zero x c = some (a, c) :=
  ⟨zero, if_pos (Option.isSome_iff_ne_none.mpr hc)⟩

/-- A guarded step behind another one. -/
theorem Decodes.guarded {zero : β} {f : α → Dec β} {q : α → Parser UInt8 β} (hx : Decodes x max p)
    (hf : ∀ {a b rest}, p b = some (a, rest) → Serves (f a) max (q a)) :
    Decodes (x >>= fun a => .unlessErr zero (f a)) max (p >>= q) :=
  hx.bind_of (fun hp => serves_unlessErr (hf hp)) unlessErr_sticks

theorem serves_pure {a : α} {o : Option α} (ho : o = some a) : Serves (pure a) max (.lift o) := by
  subst ho
  exact (decodes_pure a).toServes

theorem serves_refuse {zero : α} {message : Decoder → String} {o : Option α} (ho : o = none) :
    Serves (.refuse zero message) max (.lift o) := by
  subst ho
  exact ⟨(fun _ h => nomatch h), fun _ _ => ⟨zero, _, rfl, fun h => nomatch h⟩⟩

theorem serves_orPanic {o : Option α} (ho : o ≠ none) : Serves (.orPanic o) max (.lift o) := by
  obtain ⟨a, rfl⟩ := Option.ne_none_iff_exists'.mp ho
  exact (decodes_pure a).toServes

/-! ## 6. The decoder's methods -/

theorem decodes_take (n : UInt32) : Decodes (Decoder.take n) max (.take n.toNat) := by
  refine ⟨serves_unlessErr ⟨fun {c b a rest} hc h => ?_, fun {c b} hc h => ?_⟩, unlessErr_sticks⟩
  · unfold Parser.take at h
    split_ifs at h with hle
    obtain ⟨rfl, rfl⟩ := Prod.mk.inj (Option.some.inj h)
    have hoff := hc.off_le
    have hlen : b.length = c.buf.length - c.off := by rw [← hc.left, List.length_drop]
    have hslice : slice c.buf c.off (c.off + n.toNat) = some (b.take n.toNat) := by
      rw [slice, if_pos ⟨by omega, by omega⟩, Nat.add_sub_cancel_left, hc.left]
    rw [if_neg (by omega), hslice]
    refine ⟨_, rfl, hc.err, ?_, ?_, hc.max⟩
    · show c.off + n.toNat ≤ c.buf.length
      omega
    · rw [← hc.left, List.drop_drop]
  · unfold Parser.take at h
    split_ifs at h with hle
    have hlen : b.length = c.buf.length - c.off := by rw [← hc.left, List.length_drop]
    rw [if_pos (by omega)]
    exact ⟨[], _, rfl, fun h => nomatch h⟩

theorem decodes_byte : Decodes Decoder.byte max Format.byte := by
  refine (decodes_take 1).guarded fun {a b rest} hp => serves_orPanic ?_
  obtain ⟨w, ⟨rfl, hlen⟩, -⟩ := (Parser.reads_take 1 b a rest).mp hp
  obtain ⟨y, rfl⟩ := List.length_eq_one_iff.mp hlen
  exact fun h => nomatch h

theorem decodes_bool : Decodes Decoder.bool max Format.bool := by
  refine decodes_byte.guarded fun {a b rest} _ => ?_
  by_cases h0 : a = 0
  · simp only [if_pos h0]
    exact serves_pure rfl
  by_cases h1 : a = 1
  · simp only [if_neg h0, if_pos h1]
    exact serves_pure rfl
  · simp only [if_neg h0, if_neg h1]
    exact serves_refuse rfl

theorem decodes_u32 : Decodes Decoder.u32 max Format.u32 := by
  refine (decodes_take 4).guarded fun {a b rest} hp => serves_orPanic ?_
  obtain ⟨w, ⟨rfl, hlen⟩, -⟩ := (Parser.reads_take 4 b a rest).mp hp
  match w, hlen with
  | [b₀, b₁, b₂, b₃], _ => exact fun h => nomatch h

theorem decodes_bytes : Decodes Decoder.bytes max (Format.bytes max) := by
  refine decodes_u32.guarded fun {n b rest} _ => ?_
  by_cases hn : n > max
  · rw [if_pos hn]
    refine ⟨(fun _ h => nomatch h), fun {c b} hc _ => ?_⟩
    rw [hc.max, if_pos hn]
    exact ⟨[], _, rfl, fun h => nomatch h⟩
  · rw [if_neg hn]
    have hrun : ∀ {c b}, c.Sees max b → (if n > c.maxBytes then
        Dec.refuse [] (fun c => s!"byte string length {n} exceeds maximum {c.maxBytes}") c
        else Decoder.take n c) = Decoder.take n c := fun hc => by rw [hc.max, if_neg hn]
    exact ⟨fun hc hp => (hrun hc).symm ▸ (decodes_take n).ok hc hp,
      fun hc hp => (hrun hc).symm ▸ (decodes_take n).fails hc hp⟩

theorem decodes_utf8String : Decodes Decoder.utf8String max (Format.utf8 max) := by
  refine decodes_bytes.guarded fun {a b rest} _ => ?_
  cases ht : Decoder.text a with
  | some s => exact serves_pure rfl
  | none => exact serves_refuse rfl

theorem decodes_expectBytes {want : Bytes} (hwant : want.length ≤ maxUint32) :
    Decodes (Decoder.expectBytes want) max (Format.expect want) := by
  have hlen : (UInt32.ofNat want.length).toNat = want.length :=
    @toNat_ofNat_of_le want.length 4294967295 hwant
  have htake : Decodes (Decoder.take (UInt32.ofNat want.length)) max _ := decodes_take _
  rw [hlen] at htake
  refine htake.guarded fun {got b rest} _ => ?_
  by_cases heq : got = want
  · rw [if_pos heq, if_pos heq]
    exact serves_pure rfl
  · rw [if_neg heq, if_neg heq]
    exact serves_refuse rfl

end Steps

end Mygosh.Bincoder

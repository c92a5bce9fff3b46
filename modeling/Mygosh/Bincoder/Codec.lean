/-
  File:      Mygosh/Bincoder/Codec.lean
  Subject:   Lists of typed values: what the encoder writes, the decoder reads, and nothing else.

  Every kind of value has one format; its words are the bytes the encoder appends. So the encoder
  and the decoder are inverse to each other on lists of values, and the functions that work on a
  connection read and write the same bytes.
-/
import Mygosh.Bincoder.Stream

namespace Mygosh.Bincoder

open Proto (Bytes textBytes)

/-! ## 1. Values -/

inductive Kind where
  | byte
  | bool
  | u32
  | bytes
  | utf8
  deriving DecidableEq, Repr

inductive Value where
  | byte (b : UInt8)
  | bool (v : Bool)
  | u32 (n : UInt32)
  | bytes (b : Bytes)
  | utf8 (s : String)
  deriving DecidableEq, Repr

namespace Value

def kind : Value → Kind
  | byte _ => .byte
  | bool _ => .bool
  | u32 _ => .u32
  | bytes _ => .bytes
  | utf8 _ => .utf8

/-- The method of the encoder for a value. -/
def put (e : Encoder) : Value → Encoder
  | byte b => e.byte b
  | bool v => e.bool v
  | u32 n => e.u32 n
  | bytes b => e.bytes b
  | utf8 s => e.utf8String s

/-- The bytes of a value. -/
def word : Value → Bytes
  | byte b => [b]
  | bool v => [if v then 1 else 0]
  | u32 n => putUint32 n
  | bytes b => prefixed b
  | utf8 s => prefixed (textBytes s)

/-- A byte string or a text has at most `max` bytes. -/
def Fits (max : Nat) : Value → Prop
  | bytes b => b.length ≤ max
  | utf8 s => (textBytes s).length ≤ max
  | _ => True

end Value

/-- The values are written one after the other. -/
def encodeAll (vs : List Value) : Encoder := vs.foldl Value.put Encoder.new

/-- The method of the decoder for a kind of value. -/
def Kind.get : Kind → Dec Value
  | byte => Value.byte <$> Decoder.byte
  | bool => Value.bool <$> Decoder.bool
  | u32 => Value.u32 <$> Decoder.u32
  | bytes => Value.bytes <$> Decoder.bytes
  | utf8 => Value.utf8 <$> Decoder.utf8String

/-- Values of these kinds are read one after the other. -/
def decodeAll : List Kind → Dec (List Value)
  | [] => pure []
  | k :: ks => do
      let v ← k.get
      let vs ← decodeAll ks
      pure (v :: vs)

/-! ## 2. The encoder -/

section Encoding

variable {e : Encoder} {v : Value} {vs : List Value}

theorem Encoder.bytes_cases (he : e.err = none) (b : Bytes) :
    (b.length ≤ maxUint32 ∧ e.bytes b = ⟨e.buf ++ prefixed b, none⟩) ∨
      (¬b.length ≤ maxUint32 ∧ (e.bytes b).err ≠ none) := by
  obtain ⟨buf, err⟩ := e
  subst he
  by_cases hb : b.length ≤ maxUint32
  · refine .inl ⟨hb, ?_⟩
    simp only [Encoder.bytes, Encoder.u32, Encoder.write, if_neg (Nat.not_lt_of_le hb), prefixed,
      Option.isSome_none, Bool.false_eq_true, if_false, List.append_assoc]
  · refine .inr ⟨hb, ?_⟩
    simp only [Encoder.bytes, if_pos (Nat.lt_of_not_le hb), Option.isSome_none, Bool.false_eq_true,
      if_false, ne_eq, reduceCtorEq, not_false_eq_true]

/-- A value that fits is appended, another one is refused. -/
theorem Value.put_cases (he : e.err = none) (v : Value) :
    (v.Fits maxUint32 ∧ v.put e = ⟨e.buf ++ v.word, none⟩) ∨
      (¬v.Fits maxUint32 ∧ (v.put e).err ≠ none) := by
  cases v with
  | byte b => exact .inl ⟨trivial, by simp [put, word, Encoder.byte, Encoder.write, he]⟩
  | bool v =>
    refine .inl ⟨trivial, ?_⟩
    cases v <;> simp [put, word, Encoder.bool, Encoder.byte, Encoder.write, he]
  | u32 n => exact .inl ⟨trivial, by simp [put, word, Encoder.u32, Encoder.write, he]⟩
  | bytes b => exact Encoder.bytes_cases he b
  | utf8 s => exact Encoder.bytes_cases he (textBytes s)

theorem Value.put_of_err (he : e.err ≠ none) (v : Value) : v.put e = e := by
  have hsome : e.err.isSome = true := Option.isSome_iff_ne_none.mpr he
  cases v with
  | bool v => cases v <;> simp [put, Encoder.bool, Encoder.byte, hsome]
  | _ => simp [put, Encoder.byte, Encoder.u32, Encoder.bytes, Encoder.utf8String, hsome]

theorem foldl_put_of_err (he : e.err ≠ none) : vs.foldl Value.put e = e := by
  induction vs with
  | nil => rfl
  | cons v vs ih => rw [List.foldl_cons, Value.put_of_err he, ih]

theorem foldl_put (he : e.err = none) :
    ((∀ v ∈ vs, v.Fits maxUint32) ∧
      vs.foldl Value.put e = ⟨e.buf ++ (vs.map Value.word).flatten, none⟩) ∨
    ((¬∀ v ∈ vs, v.Fits maxUint32) ∧ (vs.foldl Value.put e).err ≠ none) := by
  induction vs generalizing e with
  | nil =>
    refine .inl ⟨(fun _ h => nomatch h), ?_⟩
    rw [List.map_nil, List.flatten_nil, List.append_nil, ← he]
    rfl
  | cons v vs ih =>
    rw [List.foldl_cons, List.forall_mem_cons]
    rcases v.put_cases he with ⟨hv, hput⟩ | ⟨hv, hput⟩
    · rw [hput]
      rcases @ih ⟨e.buf ++ v.word, none⟩ rfl with ⟨hvs, hall⟩ | ⟨hvs, hall⟩
      · refine .inl ⟨⟨hv, hvs⟩, ?_⟩
        rw [hall, List.map_cons, List.flatten_cons, List.append_assoc]
      · exact .inr ⟨fun h => hvs h.2, hall⟩
    · refine .inr ⟨fun h => hv h.1, ?_⟩
      rwa [foldl_put_of_err hput]

theorem encodeAll_err : (encodeAll vs).err = none ↔ ∀ v ∈ vs, v.Fits maxUint32 := by
  rcases @foldl_put Encoder.new vs rfl with ⟨hvs, hall⟩ | ⟨hvs, hall⟩
  · simp only [encodeAll, hall, true_iff]
    exact hvs
  · exact ⟨fun h => absurd h hall, fun h => absurd h hvs⟩

theorem encodeAll_result (h : (encodeAll vs).err = none) :
    (encodeAll vs).result = (vs.map Value.word).flatten := by
  rcases @foldl_put Encoder.new vs rfl with ⟨-, hall⟩ | ⟨-, hall⟩
  · rw [Encoder.result, h, encodeAll, hall]
    rfl
  · exact absurd h hall

end Encoding

/-! ## 3. The decoder -/

/-- The format of a kind of value. -/
def Kind.format (max : UInt32) : Kind → Parser UInt8 Value
  | byte => Format.byte >>= fun b => .lift (some (.byte b))
  | bool => Format.bool >>= fun v => .lift (some (.bool v))
  | u32 => Format.u32 >>= fun n => .lift (some (.u32 n))
  | bytes => Format.bytes max >>= fun b => .lift (some (.bytes b))
  | utf8 => Format.utf8 max >>= fun s => .lift (some (.utf8 s))

def formats (max : UInt32) : List Kind → Parser UInt8 (List Value)
  | [] => pure []
  | k :: ks => k.format max >>= fun v => formats max ks >>= fun vs => pure (v :: vs)

section Decoding

variable {max : UInt32} {k : Kind} {ks : List Kind}

theorem Kind.reads_format :
    (k.format max).Reads fun w v => v.kind = k ∧ w = v.word ∧ v.Fits max.toNat := by
  -- a value that a constructor does not make is of another kind
  have hsome : ∀ {α : Type} {p : Parser UInt8 α} {G : Bytes → α → Prop} {mk : α → Value},
      p.Reads G → (∀ a w, G w a ↔ (mk a).kind = k ∧ w = (mk a).word ∧ (mk a).Fits max.toNat) →
      (∀ v, v.kind = k → ∃ a, v = mk a) →
      (p >>= fun a => .lift (some (mk a))).Reads
        fun w v => v.kind = k ∧ w = v.word ∧ v.Fits max.toNat := by
    intro α p G mk hp hG hmk
    refine (hp.lift _).congr fun w v => ?_
    constructor
    · rintro ⟨a, ha, hv⟩
      obtain rfl := Option.some.inj hv
      exact (hG a w).mp ha
    · intro hv
      obtain ⟨a, rfl⟩ := hmk v hv.1
      exact ⟨a, (hG a w).mpr hv, rfl⟩
  cases k with
  | byte =>
    exact hsome Format.reads_byte (fun a w => by simp [Value.kind, Value.word, Value.Fits])
      fun v hv => by cases v <;> first | exact ⟨_, rfl⟩ | cases hv
  | bool =>
    exact hsome Format.reads_bool (fun a w => by simp [Value.kind, Value.word, Value.Fits])
      fun v hv => by cases v <;> first | exact ⟨_, rfl⟩ | cases hv
  | u32 =>
    exact hsome Format.reads_u32 (fun a w => by simp [Value.kind, Value.word, Value.Fits])
      fun v hv => by cases v <;> first | exact ⟨_, rfl⟩ | cases hv
  | bytes =>
    exact hsome (Format.reads_bytes max) (fun a w => by simp [Value.kind, Value.word, Value.Fits])
      fun v hv => by cases v <;> first | exact ⟨_, rfl⟩ | cases hv
  | utf8 =>
    exact hsome (Format.reads_utf8 max) (fun a w => by simp [Value.kind, Value.word, Value.Fits])
      fun v hv => by cases v <;> first | exact ⟨_, rfl⟩ | cases hv

/-- **The words of a list of values** are the words of the values, one after the other. -/
theorem reads_formats : (formats max ks).Reads fun w vs =>
    vs.map Value.kind = ks ∧ w = (vs.map Value.word).flatten ∧ ∀ v ∈ vs, v.Fits max.toNat := by
  induction ks with
  | nil =>
    refine (Parser.reads_pure []).congr fun w vs => ?_
    constructor
    · rintro ⟨rfl, rfl⟩
      exact ⟨rfl, rfl, fun _ h => nomatch h⟩
    · rintro ⟨hvs, rfl, -⟩
      obtain rfl := List.map_eq_nil_iff.mp hvs
      exact ⟨rfl, rfl⟩
  | cons k ks ih =>
    refine (Kind.reads_format.bind fun v => ih.bind fun vs => Parser.reads_pure (v :: vs)).congr
      fun w vs => ?_
    constructor
    · rintro ⟨v, u, -, ⟨rfl, rfl, hv⟩, ⟨vs', u', -, ⟨rfl, rfl, hvs⟩, ⟨rfl, rfl⟩, rfl⟩, rfl⟩
      refine ⟨rfl, ?_, List.forall_mem_cons.mpr ⟨hv, hvs⟩⟩
      rw [List.append_nil]
      rfl
    · rintro ⟨hkinds, rfl, hfits⟩
      cases vs with
      | nil => cases hkinds
      | cons v vs =>
        obtain ⟨rfl, rfl⟩ := List.cons.inj hkinds
        obtain ⟨hv, hvs⟩ := List.forall_mem_cons.mp hfits
        exact ⟨v, _, _, ⟨rfl, rfl, hv⟩, ⟨vs, _, [], ⟨rfl, rfl, hvs⟩, ⟨rfl, rfl⟩, rfl⟩,
          by rw [List.append_nil]; rfl⟩

theorem Kind.decodes_get : Decodes k.get max (k.format max) := by
  cases k with
  | byte => exact decodes_byte.bind fun b => decodes_pure (Value.byte b)
  | bool => exact decodes_bool.bind fun v => decodes_pure (Value.bool v)
  | u32 => exact decodes_u32.bind fun n => decodes_pure (Value.u32 n)
  | bytes => exact decodes_bytes.bind fun b => decodes_pure (Value.bytes b)
  | utf8 => exact decodes_utf8String.bind fun s => decodes_pure (Value.utf8 s)

theorem decodes_decodeAll : Decodes (decodeAll ks) max (formats max ks) := by
  induction ks with
  | nil => exact decodes_pure []
  | cons k ks ih => exact Kind.decodes_get.bind fun v => ih.bind fun vs => decodes_pure (v :: vs)

end Decoding

/-! ## 4. The two implementations -/

/-- Reading from a connection, however it splits the stream, gives what the decoder gives on the whole
    stream: the same value and the same rest, or an error where the decoder has one. -/
def Agrees {α : Type} (x : Input UInt8 α) (d : Dec α) (max : UInt32) : Prop :=
  ∀ r : Source UInt8, ∃ a c, d ((Decoder.newCursor r.data).withMaxBytes max) = some (a, c) ∧
    (c.err = none → ∃ r', x r = (.ok a, r') ∧ c.rest = some r'.data) ∧
    (c.err ≠ none → ∃ e r', x r = (.error e, r'))

theorem agrees_of_format {α : Type} {x : Input UInt8 α} {d : Dec α} {max : UInt32}
    {p : Parser UInt8 α} (hx : Input.Follows x p) (hd : Decodes d max p) : Agrees x d max := by
  intro r
  have hsees := (Decoder.Sees.newCursor r.data).withMaxBytes max
  cases hp : p r.data with
  | none =>
    obtain ⟨a, c, hc, herr⟩ := hd.fails hsees hp
    exact ⟨a, c, hc, fun h => absurd h herr, fun _ => hx.fails hp⟩
  | some found =>
    obtain ⟨a, rest⟩ := found
    obtain ⟨c, hc, hrest⟩ := hd.ok hsees hp
    obtain ⟨r', hr', hdata⟩ := hx.ok hp
    exact ⟨a, c, hc, fun _ => ⟨r', hr', hrest.rest.trans (by rw [hdata])⟩,
      fun h => absurd hrest.err h⟩

/-- Every list that the encoder writes is read back, to the end of the buffer. -/
theorem decodeAll_encodeAll {vs : List Value} (h : (encodeAll vs).err = none) :
    ∃ c, decodeAll (vs.map Value.kind) (.newCursor (encodeAll vs).result) = some (vs, c) ∧
      c.done = none := by
  have hword := reads_formats.of_word (w := (encodeAll vs).result)
    (show vs.map Value.kind = vs.map Value.kind ∧ _ ∧ ∀ v ∈ vs, v.Fits (4294967295 : UInt32).toNat
      from ⟨rfl, encodeAll_result h, encodeAll_err.mp h⟩) []
  rw [List.append_nil] at hword
  obtain ⟨c, hc, hsees⟩ := decodes_decodeAll.ok (Decoder.Sees.newCursor _) hword
  exact ⟨c, hc, hsees.done.mpr rfl⟩

/-- A buffer that is read to its end is what the encoder writes for the values. -/
theorem encodeAll_decodeAll {ks : List Kind} {b : Bytes} {vs : List Value} {c : Decoder}
    (h : decodeAll ks (.newCursor b) = some (vs, c)) (hdone : c.done = none) :
    vs.map Value.kind = ks ∧ (encodeAll vs).err = none ∧ (encodeAll vs).result = b := by
  have hsees := Decoder.Sees.newCursor b
  cases hp : formats 4294967295 ks b with
  | none =>
    obtain ⟨a, c', hc', herr⟩ := decodes_decodeAll.fails hsees hp
    rw [h] at hc'
    obtain ⟨-, rfl⟩ := Prod.mk.inj (Option.some.inj hc')
    exact absurd hdone (Decoder.done_of_err herr)
  | some found =>
    obtain ⟨vs', rest⟩ := found
    obtain ⟨c', hc', hrest⟩ := decodes_decodeAll.ok hsees hp
    rw [h] at hc'
    obtain ⟨rfl, rfl⟩ := Prod.mk.inj (Option.some.inj hc')
    obtain rfl := hrest.done.mp hdone
    obtain ⟨w, ⟨hkinds, rfl, hfits⟩, hb⟩ := (reads_formats b vs []).mp hp
    have herr := encodeAll_err.mpr hfits
    rw [List.append_nil] at hb
    exact ⟨hkinds, herr, (encodeAll_result herr).trans hb.symm⟩

/-- The bytes of a byte string that the encoder accepts. -/
theorem Encoder.result_bytes {b : Bytes} (h : (Encoder.new.bytes b).err = none) :
    b.length ≤ maxUint32 ∧ (Encoder.new.bytes b).result = prefixed b := by
  rcases Encoder.bytes_cases (e := Encoder.new) rfl b with ⟨hb, heq⟩ | ⟨-, herr⟩
  · exact ⟨hb, by rw [heq]; rfl⟩
  · exact absurd h herr

/-- **The codec is a bijection.** What the encoder writes is read back whole; a buffer that is read
    whole is what the encoder writes; and the functions on connections write the encoder's bytes and
    read as the decoder does, however a connection splits its transfers. -/
theorem bincoder_bijective :
    (∀ vs, (encodeAll vs).err = none ↔ ∀ v ∈ vs, v.Fits maxUint32) ∧
    (∀ vs, (encodeAll vs).err = none →
      ∃ c, decodeAll (vs.map Value.kind) (.newCursor (encodeAll vs).result) = some (vs, c) ∧
        c.done = none) ∧
    (∀ ks b vs c, decodeAll ks (.newCursor b) = some (vs, c) → c.done = none →
      vs.map Value.kind = ks ∧ (encodeAll vs).err = none ∧ (encodeAll vs).result = b) ∧
    (∀ b, Output.Writes (writeByte b) (Encoder.new.byte b).result) ∧
    (∀ v, Output.Writes (writeBool v) (Encoder.new.bool v).result) ∧
    (∀ n, Output.Writes (writeU32 n) (Encoder.new.u32 n).result) ∧
    (∀ b, (Encoder.new.bytes b).err = none →
      Output.Writes (writeBytes b) (Encoder.new.bytes b).result) ∧
    (∀ b, (Encoder.new.bytes b).err ≠ none → ∀ w, ∃ e, writeBytes b w = (.error e, w)) ∧
    Agrees readByte Decoder.byte 4294967295 ∧
    Agrees readBool Decoder.bool 4294967295 ∧
    Agrees readU32 Decoder.u32 4294967295 ∧
    ∀ maxBytes, Agrees (readBytes maxBytes) Decoder.bytes (limitOf maxBytes) := by
  refine ⟨fun vs => encodeAll_err, fun vs h => decodeAll_encodeAll h,
    fun ks b vs c h hdone => encodeAll_decodeAll h hdone, fun b => writes_writeFull _, fun v => ?_,
    fun n => writes_writeFull _, fun b h => ?_, fun b h w => ?_,
    agrees_of_format follows_readByte decodes_byte, agrees_of_format follows_readBool decodes_bool,
    agrees_of_format follows_readU32 decodes_u32,
    fun maxBytes => agrees_of_format (follows_readBytes maxBytes) decodes_bytes⟩
  · have hword : (Encoder.new.bool v).result = [if v then 1 else 0] := by cases v <;> rfl
    rw [hword]
    exact writes_writeBool v
  · obtain ⟨hb, hword⟩ := Encoder.result_bytes h
    rw [hword]
    exact writes_writeBytes hb
  · have hb : b.length > maxUint32 := by
      rcases Encoder.bytes_cases (e := Encoder.new) rfl b with ⟨-, heq⟩ | ⟨hb, -⟩
      · exact absurd (congrArg Encoder.err heq) h
      · exact Nat.lt_of_not_le hb
    exact ⟨_, by rw [writeBytes, if_pos hb]; rfl⟩

/-- A number, a flag and a byte string: ten bytes, read back as the same values. -/
theorem bincoder_bijective_small :
    (encodeAll [.u32 7, .bool true, .bytes [1]]).result = [0, 0, 0, 7, 1, 0, 0, 0, 1, 1] ∧
      ∃ c, decodeAll [.u32, .bool, .bytes] (.newCursor [0, 0, 0, 7, 1, 0, 0, 0, 1, 1]) =
          some ([.u32 7, .bool true, .bytes [1]], c) ∧ c.done = none := by
  have herr : (encodeAll [.u32 7, .bool true, .bytes [1]]).err = none := by decide
  have hbytes : (encodeAll [.u32 7, .bool true, .bytes [1]]).result =
      [0, 0, 0, 7, 1, 0, 0, 0, 1, 1] := by decide
  obtain ⟨c, hc, hdone⟩ := bincoder_bijective.2.1 _ herr
  rw [hbytes] at hc
  exact ⟨hbytes, c, hc, hdone⟩

end Mygosh.Bincoder

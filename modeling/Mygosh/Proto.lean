/-
  File:      Mygosh/Proto.lean
  Subject:   The wire format of protocol buffers, as far as messages of texts and byte strings use it.

  * `varint`, `readVarint` -- base-128 numbers.
  * `Record`, `records` -- a message read as the list of its records, of every wire type.
  * `encode fs` -- the fields `fs` in their order; an empty field is not written.
  * `lastValue`, `lastMember` -- what a reader takes from the records of a message.
  * `Unknown known` -- the bytes a reader keeps of the records it has no field for.
  * `encode_append_inj` -- two messages with one encoding have the same fields and the same unknown
    bytes.
-/
import Mathlib.Tactic

namespace Mygosh.Proto

abbrev Bytes := List UInt8

/-! ## 1. Base-128 numbers -/

/-- Seven bits a byte, the lowest first; every byte but the last has its top bit set. -/
def varintFrom : Nat → Nat → Bytes
  | 0, n => [UInt8.ofNat n]
  | fuel + 1, n =>
    if n < 128 then [UInt8.ofNat n]
    else UInt8.ofNat (n % 128 + 128) :: varintFrom fuel (n / 128)

def varint (n : Nat) : Bytes := varintFrom n n

/-- A number at the front of `b`, and what follows it. -/
def readVarint : Bytes → Option (Nat × Bytes)
  | [] => none
  | b :: rest =>
    if b.toNat < 128 then some (b.toNat, rest)
    else
      match readVarint rest with
      | some (n, rest') => some (b.toNat - 128 + 128 * n, rest')
      | none => none

theorem readVarint_varintFrom {fuel n : Nat} (h : n ≤ fuel) (rest : Bytes) :
    readVarint (varintFrom fuel n ++ rest) = some (n, rest) := by
  induction fuel generalizing n with
  | zero =>
    obtain rfl : n = 0 := Nat.le_zero.mp h
    rfl
  | succ fuel ih =>
    rw [varintFrom]
    split
    · rename_i hn
      have hb : (UInt8.ofNat n).toNat = n := UInt8.toNat_ofNat_of_lt (show n < 256 by omega)
      simp only [List.cons_append, List.nil_append, readVarint, hb, if_pos hn]
    · rename_i hn
      have hb : (UInt8.ofNat (n % 128 + 128)).toNat = n % 128 + 128 :=
        UInt8.toNat_ofNat_of_lt (show n % 128 + 128 < 256 by omega)
      have hrec := @ih (n / 128) (by omega)
      simp only [List.cons_append, readVarint, hb, hrec,
        if_neg (show ¬ n % 128 + 128 < 128 by omega), Option.some.injEq, Prod.mk.injEq, and_true]
      omega

theorem readVarint_varint (n : Nat) (rest : Bytes) :
    readVarint (varint n ++ rest) = some (n, rest) :=
  readVarint_varintFrom le_rfl rest

theorem length_varintFrom {fuel n : Nat} (h : n ≤ fuel) :
    (varintFrom fuel n).length = Nat.log2 n / 7 + 1 := by
  induction fuel generalizing n with
  | zero =>
    obtain rfl : n = 0 := Nat.le_zero.mp h
    rfl
  | succ fuel ih =>
    rw [varintFrom]
    split
    · rename_i hn
      have hlog : Nat.log 2 n < 7 := by
        rcases Nat.eq_zero_or_pos n with rfl | hpos
        · simp
        · exact (Nat.log_lt_iff_lt_pow (by omega) (by omega)).mpr hn
      rw [Nat.log2_eq_log_two, List.length_singleton]
      omega
    · rename_i hn
      have hrec := @ih (n / 128) (by omega)
      have hdiv : Nat.log 2 (n / 128) = Nat.log 2 n - 7 := Nat.log_div_base_pow 2 n 7
      have hlog : 7 ≤ Nat.log 2 n := Nat.le_log_of_pow_le (by omega) (by omega)
      rw [Nat.log2_eq_log_two] at hrec ⊢
      rw [List.length_cons, hrec, hdiv]
      omega

theorem length_varint (n : Nat) : (varint n).length = Nat.log2 n / 7 + 1 :=
  length_varintFrom le_rfl

/-! ## 2. Records -/

inductive WireType where
  | varint
  | fixed64
  | len
  | startGroup
  | endGroup
  | fixed32
  deriving DecidableEq, Repr

def WireType.ofNat? : Nat → Option WireType
  | 0 => some .varint
  | 1 => some .fixed64
  | 2 => some .len
  | 3 => some .startGroup
  | 4 => some .endGroup
  | 5 => some .fixed32
  | _ => none

/-- A record of a message. Only of a length-delimited one the payload matters. -/
inductive Record where
  | delimited (number : Nat) (payload : Bytes)
  | other (number : Nat)
  deriving DecidableEq, Repr

/-- The numbers a field can have. -/
def validNumber (number : Nat) : Prop := 1 ≤ number ∧ number < 2 ^ 29

instance (number : Nat) : Decidable (validNumber number) :=
  inferInstanceAs (Decidable (_ ∧ _))

/-- A field number and a wire type. -/
def readTag (b : Bytes) : Option (Nat × WireType × Bytes) :=
  match readVarint b with
  | none => none
  | some (tag, rest) =>
    if validNumber (tag / 8) then
      (WireType.ofNat? (tag % 8)).map fun wire => (tag / 8, wire, rest)
    else none

/-- The value of a record; a group extends to the end mark with its own number. -/
def readValue : Nat → Nat → WireType → Bytes → Option (Record × Bytes)
  | _, number, .varint, b => (readVarint b).map fun r => (.other number, r.2)
  | _, number, .fixed64, b => if b.length < 8 then none else some (.other number, b.drop 8)
  | _, number, .fixed32, b => if b.length < 4 then none else some (.other number, b.drop 4)
  | _, number, .len, b =>
    match readVarint b with
    | none => none
    | some (n, rest) =>
      if rest.length < n then none else some (.delimited number (rest.take n), rest.drop n)
  | _, _, .endGroup, _ => none
  | 0, _, .startGroup, _ => none
  | fuel + 1, number, .startGroup, b =>
    match readTag b with
    | none => none
    | some (n, .endGroup, rest) => if n = number then some (.other number, rest) else none
    | some (n, wire, rest) =>
      match readValue fuel n wire rest with
      | none => none
      | some (_, rest') => readValue fuel number .startGroup rest'

def readRecord (b : Bytes) : Option (Record × Bytes) :=
  match readTag b with
  | none => none
  | some (number, wire, rest) => readValue rest.length number wire rest

def recordsFrom : Nat → Bytes → Option (List Record)
  | _, [] => some []
  | 0, _ :: _ => none
  | fuel + 1, c :: b =>
    match readRecord (c :: b) with
    | none => none
    | some (r, rest) => (recordsFrom fuel rest).map (r :: ·)

/-- The records of a message. -/
def records (b : Bytes) : Option (List Record) := recordsFrom b.length b

theorem recordsFrom_mono {fuel fuel' : Nat} {b : Bytes} {rs : List Record} (hle : fuel ≤ fuel')
    (h : recordsFrom fuel b = some rs) : recordsFrom fuel' b = some rs := by
  induction fuel generalizing fuel' b rs with
  | zero =>
    cases b with
    | nil => simpa [recordsFrom] using h
    | cons c b => cases h
  | succ fuel ih =>
    cases b with
    | nil => simpa [recordsFrom] using h
    | cons c b =>
      obtain ⟨fuel', rfl⟩ := Nat.exists_eq_succ_of_ne_zero (show fuel' ≠ 0 by omega)
      rw [recordsFrom] at h ⊢
      cases hr : readRecord (c :: b) with
      | none => rw [hr] at h; cases h
      | some r =>
        rw [hr] at h
        obtain ⟨rs', hrs, rfl⟩ := Option.map_eq_some_iff.mp h
        simp only [ih (show fuel ≤ fuel' by omega) hrs, Option.map_some]

/-! ## 3. Fields -/

/-- A length-delimited record. -/
def delimited (number : Nat) (value : Bytes) : Bytes :=
  varint (number * 8 + 2) ++ (varint value.length ++ value)

/-- A text or a byte string with its number; the empty one is left out. -/
def field (number : Nat) (value : Bytes) : Bytes :=
  if value = [] then [] else varint (number * 8 + 2) ++ (varint value.length ++ value)

/-- The fields of a message, in their order. -/
def encode (fs : List (Nat × Bytes)) : Bytes := fs.flatMap fun f => field f.1 f.2

/-- The records `encode` writes. -/
def written (fs : List (Nat × Bytes)) : List Record :=
  (fs.filter fun f => f.2 ≠ []).map fun f => .delimited f.1 f.2

theorem readRecord_delimited {number : Nat} (value rest : Bytes) (hn : validNumber number) :
    readRecord (delimited number value ++ rest) = some (.delimited number value, rest) := by
  have hdiv : (number * 8 + 2) / 8 = number := by omega
  have hmod : (number * 8 + 2) % 8 = 2 := by omega
  simp only [delimited, List.append_assoc, readRecord, readTag, readVarint_varint, hdiv,
    hmod, if_pos hn, WireType.ofNat?, Option.map_some, readValue]
  rw [if_neg (by simp), List.take_left, List.drop_left]

theorem delimited_ne_nil (number : Nat) (value : Bytes) : delimited number value ≠ [] := by
  have hlen := length_varint (number * 8 + 2)
  intro h
  have := congrArg List.length h
  simp only [delimited, List.length_append, List.length_nil] at this
  omega

/-- A record in front of records. -/
theorem records_delimited_append {number : Nat} {b : Bytes} {rs : List Record} (value : Bytes)
    (hn : validNumber number) (hb : records b = some rs) :
    records (delimited number value ++ b) = some (.delimited number value :: rs) := by
  have hread := readRecord_delimited value b hn
  cases hl : delimited number value ++ b with
  | nil => exact absurd (List.append_eq_nil_iff.mp hl).1 (delimited_ne_nil number value)
  | cons c t =>
    -- one record is read, and the rest has fewer bytes than there is fuel for
    have hlen : b.length ≤ t.length := by
      have hpos := List.length_pos_iff.mpr (delimited_ne_nil number value)
      have := congrArg List.length hl
      simp only [List.length_append, List.length_cons] at this
      omega
    rw [hl] at hread
    simp only [records, List.length_cons, recordsFrom, hread, recordsFrom_mono hlen hb,
      Option.map_some]

theorem field_eq_delimited {number : Nat} {value : Bytes} (hv : value ≠ []) :
    field number value = delimited number value :=
  if_neg hv

/-- **Reading what was written.** The records of a message are its fields, then what follows. -/
theorem records_encode_append {fs : List (Nat × Bytes)} {b : Bytes} {rs : List Record}
    (hfs : ∀ f ∈ fs, validNumber f.1) (hb : records b = some rs) :
    records (encode fs ++ b) = some (written fs ++ rs) := by
  induction fs with
  | nil => exact hb
  | cons f fs ih =>
    have hrest := ih fun g hg => hfs g (List.mem_cons_of_mem f hg)
    by_cases hv : f.2 = []
    · simpa [encode, written, field, hv] using hrest
    · have heq : encode (f :: fs) ++ b = delimited f.1 f.2 ++ (encode fs ++ b) := by
        simp [encode, field_eq_delimited hv]
      have hw : written (f :: fs) = .delimited f.1 f.2 :: written fs := by simp [written, hv]
      rw [heq, hw]
      exact records_delimited_append f.2 (hfs f List.mem_cons_self) hrest

/-! ## 4. Unknown fields -/

/-- Records that are not a field of the message: another number, or another wire type. -/
def Record.foreign (known : List Nat) : Record → Bool
  | .delimited number _ => !known.contains number
  | .other _ => true

/-- What a reader that knows the fields `known` keeps of the rest: bytes that are records, none of
    which is one of these fields. -/
structure Unknown (known : List Nat) where
  raw : Bytes
  foreign : ∃ rs, records raw = some rs ∧ ∀ r ∈ rs, r.foreign known = true

def Unknown.none {known : List Nat} : Unknown known := ⟨[], [], rfl, by simp⟩

theorem Unknown.ext {known : List Nat} {u v : Unknown known} (h : u.raw = v.raw) : u = v := by
  cases u; cases v; cases h; rfl

instance {known : List Nat} : DecidableEq (Unknown known) := fun u v =>
  decidable_of_iff (u.raw = v.raw) ⟨Unknown.ext, congrArg Unknown.raw⟩

/-- The fields are determined by the records they are written as. -/
theorem written_inj {fs gs : List (Nat × Bytes)} (hn : fs.map Prod.fst = gs.map Prod.fst)
    (hd : (fs.map Prod.fst).Nodup) (h : written fs = written gs) : fs = gs := by
  induction fs generalizing gs with
  | nil => exact (List.map_eq_nil_iff.mp hn.symm).symm
  | cons f fs ih =>
    cases gs with
    | nil => cases hn
    | cons g gs =>
      obtain ⟨hfg, hns⟩ := List.cons.inj hn
      obtain ⟨hnot, hds⟩ := List.nodup_cons.mp hd
      have hout : ∀ {hs : List (Nat × Bytes)} {v : Bytes} {ts : List Record},
          hs.map Prod.fst = fs.map Prod.fst → written hs ≠ .delimited f.1 v :: ts := by
        intro hs v ts hhs heq
        have hmem : Record.delimited f.1 v ∈ written hs := heq ▸ List.mem_cons_self
        obtain ⟨p, hp, hpe⟩ := List.mem_map.mp hmem
        injection hpe with hp1 _
        exact hnot (hhs ▸ hp1 ▸ List.mem_map_of_mem (List.mem_of_mem_filter hp))
      obtain ⟨n, v⟩ := f
      obtain ⟨n', v'⟩ := g
      cases hfg
      by_cases hv : v = [] <;> by_cases hv' : v' = []
      · subst hv hv'
        rw [ih hns hds (by simpa [written] using h)]
      · exact absurd (by simpa [written, hv, hv'] using h) (hout rfl)
      · exact absurd (by simpa [written, hv, hv'] using h.symm) (hout hns.symm)
      · have h' : Record.delimited n v :: written fs = .delimited n v' :: written gs := by
          simpa [written, hv, hv'] using h
        obtain ⟨hvv, hrest⟩ := List.cons.inj h'
        cases hvv
        rw [ih hns hds hrest]

theorem written_known {fs : List (Nat × Bytes)} :
    ∀ r ∈ written fs, r.foreign (fs.map Prod.fst) = false := by
  intro r hr
  obtain ⟨f, hf, rfl⟩ := List.mem_map.mp hr
  have hmem : f.1 ∈ fs.map Prod.fst := List.mem_map_of_mem (List.mem_of_mem_filter hf)
  simpa [Record.foreign] using ⟨f.2, List.mem_of_mem_filter hf⟩

/-- **Two messages with one encoding are one message.** -/
theorem encode_append_inj {known : List Nat} {fs gs : List (Nat × Bytes)} {u v : Unknown known}
    (h : encode fs ++ u.raw = encode gs ++ v.raw) (hf : fs.map Prod.fst = known)
    (hg : gs.map Prod.fst = known) (hd : known.Nodup) (hvalid : ∀ n ∈ known, validNumber n) :
    fs = gs ∧ u = v := by
  obtain ⟨rs, hrs, hforeign⟩ := u.foreign
  obtain ⟨ts, hts, hforeign'⟩ := v.foreign
  have hvf : ∀ f ∈ fs, validNumber f.1 := fun f hmem =>
    hvalid f.1 (hf ▸ List.mem_map_of_mem hmem)
  have hvg : ∀ g ∈ gs, validNumber g.1 := fun g hmem =>
    hvalid g.1 (hg ▸ List.mem_map_of_mem hmem)
  have hall : written fs ++ rs = written gs ++ ts := by
    have hfs := records_encode_append hvf hrs
    rw [h, records_encode_append hvg hts] at hfs
    exact (Option.some.inj hfs).symm
  -- the fields are the records the reader knows
  have hkeep : ∀ {hs : List (Nat × Bytes)} {qs : List Record}, hs.map Prod.fst = known →
      (∀ r ∈ qs, r.foreign known = true) →
      (written hs ++ qs).filter (fun r => !r.foreign known) = written hs := by
    intro hs qs hhs hqs
    rw [List.filter_append, List.filter_eq_self.mpr, List.filter_eq_nil_iff.mpr, List.append_nil]
    · intro r hr; simp [hqs r hr]
    · intro r hr; simpa using hhs ▸ written_known r hr
  have hwritten : written fs = written gs := by
    rw [← hkeep hf hforeign, hall, hkeep hg hforeign']
  have heq := written_inj (hf.trans hg.symm) (hf ▸ hd) hwritten
  subst heq
  exact ⟨rfl, Unknown.ext (List.append_cancel_left h)⟩

/-- The same without unknown fields. -/
theorem encode_inj {known : List Nat} {fs gs : List (Nat × Bytes)} (h : encode fs = encode gs)
    (hf : fs.map Prod.fst = known) (hg : gs.map Prod.fst = known) (hd : known.Nodup)
    (hvalid : ∀ n ∈ known, validNumber n) : fs = gs :=
  (@encode_append_inj _ fs gs Unknown.none Unknown.none (by simpa [Unknown.none] using h) hf hg hd
    hvalid).1

/-- Messages whose first fields differ have different encodings. -/
theorem encode_head {n : Nat} {v w : Bytes} {fs gs : List (Nat × Bytes)}
    (hfs : ∀ f ∈ (n, v) :: fs, validNumber f.1) (hgs : ∀ g ∈ (n, w) :: gs, validNumber g.1)
    (hv : v ≠ []) (hw : w ≠ []) (h : encode ((n, v) :: fs) = encode ((n, w) :: gs)) : v = w := by
  have hleft := records_encode_append (b := []) hfs rfl
  rw [h, records_encode_append (b := []) hgs rfl] at hleft
  simp only [written, ne_eq, hv, hw, not_false_eq_true, decide_true, List.filter_cons_of_pos,
    List.map_cons, List.append_nil, Option.some.injEq, List.cons.injEq, Record.delimited.injEq,
    true_and] at hleft
  exact hleft.1.symm

/-! ## 5. Reading fields -/

/-- The value of a text or a byte string that is not repeated: the last record counts. -/
def lastValue (number : Nat) (rs : List Record) : Bytes :=
  rs.foldl (fun value r => match r with
    | .delimited n v => if n = number then v else value
    | .other _ => value) []

/-- The member of a `oneof` of messages that was set last; records of the same member in a row are
    merged, which joins their bytes. -/
def lastMember (members : List Nat) (rs : List Record) : Option (Nat × Bytes) :=
  rs.foldl (fun member r => match r, member with
    | .delimited n v, some (m, w) =>
      if members.contains n then some (n, if m = n then w ++ v else v) else member
    | .delimited n v, none => if members.contains n then some (n, v) else none
    | .other _, _ => member) none

/-! ## 6. Texts -/

/-- The bytes of a text. -/
def textBytes (s : String) : Bytes := s.toByteArray.data.toList

theorem textBytes_inj {s t : String} (h : textBytes s = textBytes t) : s = t :=
  String.toByteArray_inj.mp (ByteArray.ext (Array.toList_inj.mp h))

end Mygosh.Proto

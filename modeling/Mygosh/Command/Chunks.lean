/-
  File:      Mygosh/Command/Chunks.lean
  Subject:   The frames that `chunkedFrames` builds (`lib/command/codec.go`), byte for byte.

  The search of `Codec.lean` works on lengths. Here the frame around a chunk is its encoding, its
  length is the one the search has counted, and the other side reads the chunk back from it. `Greedy`
  says what the loop returns: every chunk fits, and only the last could have been longer.
-/
import Mygosh.Command.Codec
import Mygosh.Proto

namespace Mygosh.Command

open Mux (Bytes sizeDelimited sizeText sizeVarint)

/-! ## 1. Frames around a chunk -/

/-- The builders that `chunkedFrames` is called with. -/
inductive Builder where
  | stdin
  | stdout
  | stderr
  deriving DecidableEq, Repr

/-- The number of the builder's member in `ClientFrame` or `ServerFrame`. -/
def Builder.number : Builder → Nat
  | .stdin => 2
  | .stdout => 2
  | .stderr => 3

/-- The encoded frame: one member, with the chunk as its only field. -/
def Builder.frame (build : Builder) (chunk : Bytes) : Bytes :=
  Proto.delimited build.number (Proto.encode [(1, chunk)])

/-- `marshalMessage`: the bounds of the schema, then the length. -/
def Builder.marshalMessage (build : Builder) (maximum : Nat) (chunk : Bytes) : Option Bytes :=
  if 1 ≤ chunk.length ∧ chunk.length ≤ 8388608 ∧
      (maximum = 0 ∨ (build.frame chunk).length ≤ maximum) then some (build.frame chunk)
  else none

/-- `unmarshalMessage` of the other side, and the data of the member it finds. Both frames have the
    members 1 to 4. -/
def Builder.unmarshalMessage (build : Builder) (frame : Bytes) : Option Bytes :=
  match (Proto.records frame).bind (Proto.lastMember [1, 2, 3, 4]) with
  | none => none
  | some (number, message) =>
    match Proto.records message with
    | none => none
    | some fields =>
      if number = build.number ∧ 1 ≤ (Proto.lastValue 1 fields).length ∧
          (Proto.lastValue 1 fields).length ≤ 8388608 then some (Proto.lastValue 1 fields)
      else none

/-- The limit that a maximum stands for. -/
def frameLimit (maximum : Int) : Nat :=
  if maximum ≤ 0 then defaultMaximumFrameSize else maximum.toNat

/-- `chunkedFrames` with a builder: the encoded frames. -/
def Builder.chunkedFrames (build : Builder) (data : Bytes) (maximum : Int) :
    Option (List Bytes) :=
  (Command.chunkedFrames data maximum.toNat).map (List.map build.frame)

section Frames

variable {build : Builder} {chunk : Bytes}

theorem Builder.validNumber (build : Builder) : Proto.validNumber build.number := by
  cases build <;> decide

theorem length_delimited {number : Nat} (value : Bytes) (hn : 1 ≤ number) (hs : number < 16) :
    (Proto.delimited number value).length = sizeDelimited value.length := by
  have htag : (Proto.varint (number * 8 + 2)).length = 1 := by
    have hlog : Nat.log 2 (number * 8 + 2) < 7 :=
      (Nat.log_lt_iff_lt_pow (by omega) (by omega)).mpr (by omega)
    rw [Proto.length_varint, Nat.log2_eq_log_two]
    omega
  simp only [Proto.delimited, List.length_append, htag, Proto.length_varint, sizeDelimited,
    sizeVarint]
  omega

/-- The length that the search has counted. -/
theorem Builder.length_frame (h : chunk ≠ []) :
    (build.frame chunk).length = sizeDelimited (sizeText chunk.length) := by
  have hpos := List.length_pos_iff.mpr h
  have hinner : Proto.encode [(1, chunk)] = Proto.delimited 1 chunk := by
    simp [Proto.encode, Proto.field_eq_delimited h]
  rw [Builder.frame, hinner, length_delimited _ (by cases build <;> decide)
    (by cases build <;> decide), length_delimited _ (by omega) (by omega), sizeText,
    if_neg (by omega)]

/-- A chunk passes `marshalMessage` exactly if its length fits. -/
theorem Builder.marshalMessage_isSome {maximum : Nat} (hm : maximum ≠ 0) :
    (build.marshalMessage maximum chunk).isSome = dataFits maximum chunk.length := by
  by_cases hc : chunk = []
  · subst hc
    simp [Builder.marshalMessage, dataFits]
  · rw [Bool.eq_iff_iff]
    simp [Builder.marshalMessage, dataFits, Builder.length_frame hc, hm, and_assoc]

theorem Builder.frame_ne_nil : build.frame chunk ≠ [] :=
  Proto.delimited_ne_nil _ _

/-- **The other side reads the chunk.** -/
theorem Builder.unmarshalMessage_frame (h : 1 ≤ chunk.length) (h8 : chunk.length ≤ 8388608) :
    build.unmarshalMessage (build.frame chunk) = some chunk := by
  have hne : chunk ≠ [] := List.length_pos_iff.mp h
  have houter := Proto.records_delimited_append (b := []) (Proto.encode [(1, chunk)])
    build.validNumber rfl
  have hinner := @Proto.records_encode_append [(1, chunk)] [] [] (by simp [Proto.validNumber]) rfl
  rw [List.append_nil] at houter hinner
  have hwritten : Proto.written [(1, chunk)] = [.delimited 1 chunk] := by
    simp [Proto.written, hne]
  have hmember : Proto.lastMember [1, 2, 3, 4]
      [.delimited build.number (Proto.encode [(1, chunk)])] =
        some (build.number, Proto.encode [(1, chunk)]) := by
    cases build <;> rfl
  simp only [Builder.unmarshalMessage, Builder.frame, houter, hinner, hwritten, Option.bind_some,
    hmember, List.append_nil, Proto.lastValue, List.foldl_cons, List.foldl_nil, if_true, h, h8,
    and_self]

end Frames

/-! ## 2. The loop is greedy -/

/-- Chunks that all fit, each but the last as long as it can be. -/
inductive Greedy (fits : Nat → Bool) : List Bytes → Prop where
  | nil : Greedy fits []
  | last {c : Bytes} (h : fits c.length = true) : Greedy fits [c]
  | cons {c d : Bytes} {rest : List Bytes} (h : fits c.length = true)
      (hmax : fits (c.length + 1) = false) (hrest : Greedy fits (d :: rest)) :
      Greedy fits (c :: d :: rest)

theorem Greedy.fits {fits : Nat → Bool} {chunks : List Bytes} (h : Greedy fits chunks) :
    ∀ c ∈ chunks, fits c.length = true := by
  induction h with
  | nil => simp
  | last h => simpa using h
  | cons h _ _ ih =>
    intro c hc
    rcases List.mem_cons.mp hc with rfl | hc
    · exact h
    · exact ih c hc

theorem Greedy.maximal {fits : Nat → Bool} {chunks : List Bytes} (h : Greedy fits chunks) :
    ∀ {pre c d post}, chunks = pre ++ c :: d :: post → fits (c.length + 1) = false := by
  induction h with
  | nil =>
    intro pre c d post heq
    simp at heq
  | last h =>
    intro pre c d post heq
    have := congrArg List.length heq
    simp at this
    omega
  | cons h hmax hrest ih =>
    intro pre c d post heq
    cases pre with
    | nil =>
      obtain ⟨rfl, -⟩ := List.cons.inj heq
      exact hmax
    | cons e pre =>
      obtain ⟨-, htail⟩ := List.cons.inj heq
      exact ih htail

section Loop

variable {maximum : Nat}

/-- A frame is longer than its data, so no fitting length is above the maximum. -/
theorem le_of_dataFits {n : Nat} (h : dataFits maximum n = true) : n ≤ maximum := by
  simp only [dataFits, Bool.and_eq_true, decide_eq_true_eq] at h
  have hsize := h.2
  rw [sizeText, if_neg (by omega)] at hsize
  unfold sizeDelimited at hsize
  omega

/-- What the search finds: a fitting length of the data, beyond which no length fits. -/
theorem nextChunk_spec {len : Nat} :
    nextChunk (dataFits maximum) len maximum ≤ len ∧
      (nextChunk (dataFits maximum) len maximum ≠ 0 →
        dataFits maximum (nextChunk (dataFits maximum) len maximum) = true) ∧
      ∀ n, nextChunk (dataFits maximum) len maximum < n → n ≤ len → dataFits maximum n = false := by
  obtain ⟨-, hle, hfit, hmax⟩ := @searchChunk_spec (dataFits maximum) dataFits_of_le
    (min len maximum) 1 (min len maximum) 0 le_rfl rfl (by omega)
  refine ⟨?_, hfit, fun n hn hlen => ?_⟩
  · have : nextChunk (dataFits maximum) len maximum ≤ max 0 (min len maximum) := hle
    omega
  · by_cases hm : n ≤ maximum
    · exact hmax n hn (by omega)
    · exact Bool.eq_false_iff.mpr fun h => hm (le_of_dataFits h)

/-- **The loop is greedy.** -/
theorem chunkLoop_greedy (fuel : Nat) :
    ∀ {data : Bytes} {chunks : List Bytes},
      chunkLoop (dataFits maximum) maximum fuel data = some chunks →
        Greedy (dataFits maximum) chunks := by
  induction fuel with
  | zero =>
    intro data chunks h
    unfold chunkLoop at h
    split_ifs at h
    cases h
    exact .nil
  | succ fuel ih =>
    intro data chunks h
    unfold chunkLoop at h
    split_ifs at h with hd hz
    · cases h
      exact .nil
    · obtain ⟨rest, hrest, rfl⟩ := Option.map_eq_some_iff.mp h
      obtain ⟨hle, hfit, hmax⟩ := @nextChunk_spec maximum data.length
      set n := nextChunk (dataFits maximum) data.length maximum with hn
      have hlen : (data.take n).length = n := by rw [List.length_take]; omega
      cases rest with
      | nil => exact .last (by rw [hlen]; exact hfit hz)
      | cons d rest =>
        -- something is left after the chunk, so a longer one was there to be tried
        have hdrop : data.drop n ≠ [] := by
          intro hnil
          rw [hnil] at hrest
          cases fuel with
          | zero => simp [chunkLoop] at hrest
          | succ fuel => simp [chunkLoop] at hrest
        have hlt : n < data.length := by
          by_contra hge
          exact hdrop (List.drop_eq_nil_iff.mpr (by omega))
        exact .cons (by rw [hlen]; exact hfit hz)
          (by rw [hlen]; exact hmax (n + 1) (by omega) (by omega)) (ih hrest)

/-- Frames of four bytes carry no data. -/
theorem dataFits_small {n : Nat} (h : maximum ≤ 4) : dataFits maximum n = false := by
  by_contra hf
  have h1 := dataFits_of_le le_rfl (Nat.one_le_iff_ne_zero.mpr fun h0 => by simp [h0, dataFits] at hf)
    (Bool.not_eq_false _ ▸ hf)
  simp only [dataFits, Bool.and_eq_true, decide_eq_true_eq] at h1
  have hsize : sizeDelimited (sizeText 1) = 5 := by decide
  omega

/-- Four bytes are not enough for the first chunk. -/
theorem chunkedFrames_small {data : Bytes} (hm : 1 ≤ maximum) (h4 : maximum ≤ 4)
    (hd : data ≠ []) : Command.chunkedFrames data maximum = none := by
  have hnext : nextChunk (dataFits maximum) data.length maximum = 0 := by
    by_contra hz
    have hfit := (@nextChunk_spec maximum data.length).2.1 hz
    rw [dataFits_small h4] at hfit
    cases hfit
  have hlen := List.length_pos_iff.mpr hd
  obtain ⟨fuel, hfuel⟩ := Nat.exists_eq_succ_of_ne_zero (show data.length ≠ 0 by omega)
  simp only [Command.chunkedFrames, if_neg (show maximum ≠ 0 by omega)]
  rw [hfuel, chunkLoop, if_neg hd, if_pos hnext]

end Loop

theorem chunkedFrames_limit (data : Bytes) (maximum : Int) :
    Command.chunkedFrames data maximum.toNat =
      chunkLoop (dataFits (frameLimit maximum)) (frameLimit maximum) data.length data := by
  unfold Command.chunkedFrames frameLimit
  by_cases h : maximum ≤ 0
  · rw [if_pos h, if_pos (Int.toNat_eq_zero.mpr h)]
  · rw [if_neg h, if_neg (show ¬ maximum.toNat = 0 by omega)]

/-- **`chunkedFrames` is a lossless greedy chunker.** With a maximum that can carry a byte, or none,
    it returns frames within the limit whose payloads are the data, cut, and none but the last could
    carry the byte that follows it; with a smaller one it returns nothing. -/
theorem chunkedFrames_lossless_greedy (build : Builder) (data : Bytes) (maximum : Int) :
    (maximum ≤ 0 ∨ 5 ≤ maximum →
      ∃ (frames : List Bytes) (payloads : List Bytes),
        build.chunkedFrames data maximum = some frames ∧
        (∀ frame ∈ frames, frame ≠ [] ∧ frame.length ≤ frameLimit maximum) ∧
        frames.map build.unmarshalMessage = payloads.map some ∧
        (∀ payload ∈ payloads, payload ≠ []) ∧ payloads.flatten = data ∧
        ∀ pre payload next post, payloads = pre ++ payload :: next :: post →
          ∀ b ∈ next.head?, build.marshalMessage (frameLimit maximum) (payload ++ [b]) = none) ∧
      (1 ≤ maximum ∧ maximum ≤ 4 → data ≠ [] → build.chunkedFrames data maximum = none) := by
  refine ⟨fun hmax => ?_, fun hsmall hd => ?_⟩
  · have hlimit : 5 ≤ frameLimit maximum := by
      unfold frameLimit defaultMaximumFrameSize
      split <;> omega
    obtain ⟨chunks, hchunks⟩ := Option.isSome_iff_exists.mp
      (@chunkLoop_isSome (frameLimit maximum) hlimit data.length data le_rfl)
    have hgreedy := chunkLoop_greedy _ hchunks
    have hfits : ∀ c ∈ chunks, 1 ≤ c.length ∧ c.length ≤ 8388608 ∧
        sizeDelimited (sizeText c.length) ≤ frameLimit maximum := by
      intro c hc
      have := hgreedy.fits c hc
      simpa [dataFits, and_assoc] using this
    refine ⟨chunks.map build.frame, chunks, ?_, ?_, ?_, ?_, chunkLoop_flatten _ hchunks, ?_⟩
    · rw [Builder.chunkedFrames, chunkedFrames_limit, hchunks]
      rfl
    · intro frame hframe
      obtain ⟨c, hc, rfl⟩ := List.mem_map.mp hframe
      obtain ⟨hpos, -, hsize⟩ := hfits c hc
      refine ⟨Builder.frame_ne_nil, ?_⟩
      rw [Builder.length_frame (List.length_pos_iff.mp hpos)]
      exact hsize
    · rw [List.map_map]
      refine List.map_congr_left fun c hc => ?_
      obtain ⟨hpos, h8, -⟩ := hfits c hc
      exact Builder.unmarshalMessage_frame hpos h8
    · intro c hc
      exact List.length_pos_iff.mp (hfits c hc).1
    · intro pre c d post heq b _
      have hnot := hgreedy.maximal heq
      have hnone : (build.marshalMessage (frameLimit maximum) (c ++ [b])).isSome = false := by
        rw [Builder.marshalMessage_isSome (by omega), List.length_append, List.length_singleton,
          hnot]
      exact Option.isSome_eq_false_iff.mp hnone |> Option.isNone_iff_eq_none.mp
  · rw [Builder.chunkedFrames, chunkedFrames_small (by omega) (by omega) hd]
    rfl

theorem chunkedFrames_lossless_greedy_six :
    (∃ (frames : List Bytes) (payloads : List Bytes),
      Builder.stdin.chunkedFrames [7, 8, 9] 6 = some frames ∧
      frames.map Builder.stdin.unmarshalMessage = payloads.map some ∧
      payloads.flatten = [7, 8, 9]) ∧
    Builder.stdin.chunkedFrames [7] 4 = none := by
  obtain ⟨frames, payloads, hframes, -, hread, -, hflat, -⟩ :=
    (chunkedFrames_lossless_greedy .stdin [7, 8, 9] 6).1 (by decide)
  exact ⟨⟨frames, payloads, hframes, hread, hflat⟩,
    (chunkedFrames_lossless_greedy .stdin [7] 4).2 (by decide) (by decide)⟩

end Mygosh.Command

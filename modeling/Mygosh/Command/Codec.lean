/-
  File:      Mygosh/Command/Codec.lean
  Subject:   Frames of the command protocol (`lib/command/codec.go`, `types.go`, `command.proto`):
             their validation, their encoded size and the chunker.

  A frame is its decoded message; what the protocol needs of its bytes is their number. All field
  numbers are below 16, so every tag is one byte.
-/
import Mygosh.Authz.Service
import Mygosh.Session.Message

namespace Mygosh.Command

open Mux (Bytes sizeDelimited sizeDelimited_mono sizeText sizeVarint textIn)
open Server (StartRequest PTYRequest guardWith)

/-! ## 1. Client frames -/

/-- `Start`, after its schema validation: version 1, one target, at most 128 entries. -/
structure Start where
  target : Option String
  pty : Option PTYRequest
  environment : List (String × String)
  deriving DecidableEq, Repr

/-- A `ClientFrame` that passes `unmarshalMessage`. -/
inductive ClientFrame where
  | start (start : Start)
  | stdin (data : Bytes)
  | stdinEof
  | windowChange (rows columns : Nat)
  deriving DecidableEq, Repr

/-- The loop of `decodeStart` over the environment entries. -/
def decodeEnvironment : List (String × String) → TextMap → Except String TextMap
  | [], environment => .ok environment
  | (name, value) :: rest, environment =>
    guardWith (containsAny name (String.ofList ['=', nul]))
      s!"invalid environment variable {name.quote}" <|
    guardWith (containsRune value nul) s!"environment variable {name.quote} contains NUL" <|
    guardWith (environment.lookup name).isSome s!"duplicate environment variable {name.quote}" <|
    decodeEnvironment rest (environment.insert name value)

/-- `decodeStart`; the target is a shell (`none`) or a command. -/
def decodeStart (start : Start) : Except String StartRequest :=
  (decodeEnvironment start.environment ∅).map fun environment =>
    { kind := if start.target = none then .shell else .exec
      command := start.target.getD ""
      pty := start.pty
      environment := environment }

/-! ## 2. Server frames -/

/-- `ExitResult`. -/
structure ExitResult where
  status : Int
  signal : String
  runtimeFailure : String
  deriving DecidableEq, Repr

/-- `Exit`: the result carried on the wire. -/
inductive Exit where
  | status (status : Int)
  | signal (name : String)
  | runtimeFailure (message : String)
  deriving DecidableEq, Repr

/-- `ServerFrame`. -/
inductive ServerFrame where
  | startResult (accepted : Bool) (code message : String)
  | stdout (data : Bytes)
  | stderr (data : Bytes)
  | exit (result : Exit)
  deriving DecidableEq, Repr

/-- `int32(v)` of an integer. -/
def toInt32 (v : Int) : Int := (v + 2147483648) % 4294967296 - 2147483648

/-- The switch of `sendExit`. -/
def exitMessage (result : ExitResult) : Exit :=
  if result.runtimeFailure ≠ "" then .runtimeFailure result.runtimeFailure
  else if result.signal ≠ "" then .signal result.signal
  else .status (toInt32 result.status)

/-- The encoded size of an `int32`: a negative one is sign-extended to ten bytes. -/
def sizeInt32 (v : Int) : Nat := if v < 0 then 10 else sizeVarint v.toNat

def Exit.size : Exit → Nat
  | .status v => 1 + sizeInt32 v
  | .signal name => sizeDelimited (byteLength name)
  | .runtimeFailure message => sizeDelimited (sizeText (byteLength message))

/-- The length of an encoded server frame. -/
def ServerFrame.size : ServerFrame → Nat
  | .startResult accepted code message =>
    sizeDelimited ((if accepted then 2 else 0) + sizeText (byteLength code)
      + sizeText (byteLength message))
  | .stdout data => sizeDelimited (sizeText data.length)
  | .stderr data => sizeDelimited (sizeText data.length)
  | .exit result => sizeDelimited result.size

/-- The schema's bounds on a server frame. -/
def ServerFrame.valid : ServerFrame → Bool
  | .startResult _ code message => code.length ≤ 64 && message.length ≤ 1024
  | .stdout data | .stderr data => 1 ≤ data.length && data.length ≤ 8388608
  | .exit (.status _) => true
  | .exit (.signal name) => textIn 1 64 name
  | .exit (.runtimeFailure message) => message.length ≤ 1024

/-- `marshalMessage` succeeds: the frame is valid and not longer than the maximum. -/
def ServerFrame.fits (maximum : Nat) (frame : ServerFrame) : Bool :=
  frame.valid && (maximum = 0 || frame.size ≤ maximum)

/-! ## 3. The chunker -/

/-- The binary search of `chunkedFrames` for the longest chunk whose frame fits. -/
def searchChunk (fits : Nat → Bool) : Nat → Nat → Nat → Nat → Nat
  | 0, _, _, best => best
  | fuel + 1, low, high, best =>
    if low ≤ high then
      if fits (low + (high - low) / 2) then
        searchChunk fits fuel (low + (high - low) / 2 + 1) high (low + (high - low) / 2)
      else searchChunk fits fuel low (low + (high - low) / 2 - 1) best
    else best

/-- The length of the next chunk of `len` bytes; the search range shrinks in every round. -/
def nextChunk (fits : Nat → Bool) (len maximum : Nat) : Nat :=
  searchChunk fits (min len maximum) 1 (min len maximum) 0

/-- The loop of `chunkedFrames`; every round takes at least one byte. -/
def chunkLoop (fits : Nat → Bool) (maximum : Nat) : Nat → Bytes → Option (List Bytes)
  | 0, data => if data = [] then some [] else none
  | fuel + 1, data =>
    if data = [] then some []
    else if nextChunk fits data.length maximum = 0 then none
    else (chunkLoop fits maximum fuel (data.drop (nextChunk fits data.length maximum))).map
      (data.take (nextChunk fits data.length maximum) :: ·)

/-- `defaultMaximumFrameSize`. -/
def defaultMaximumFrameSize : Nat := 16384

/-- A frame with `n` bytes of data: every builder makes one field with one field in it. -/
def dataFits (maximum n : Nat) : Bool :=
  1 ≤ n && n ≤ 8388608 && sizeDelimited (sizeText n) ≤ maximum

/-- `chunkedFrames`: the chunks, or none if the maximum cannot carry data. -/
def chunkedFrames (data : Bytes) (maximum : Nat) : Option (List Bytes) :=
  let maximum := if maximum = 0 then defaultMaximumFrameSize else maximum
  chunkLoop (dataFits maximum) maximum data.length data

/-! ## 4. What the chunker returns -/

/-- **The search is exact**: it ends on the longest fitting length of its range, or just below the
    range if none fits. `fits` is downward closed, and everything below the range fits. -/
theorem searchChunk_spec {fits : Nat → Bool}
    (hf : ∀ {a b}, 1 ≤ a → a ≤ b → fits b = true → fits a = true) (fuel : Nat) :
    ∀ {low high best : Nat}, 1 ≤ low → best + 1 = low → high + 1 - low ≤ fuel →
      best ≤ searchChunk fits fuel low high best ∧
      searchChunk fits fuel low high best ≤ max best high ∧
      (searchChunk fits fuel low high best ≠ best →
        fits (searchChunk fits fuel low high best) = true) ∧
      ∀ n, searchChunk fits fuel low high best < n → n ≤ high → fits n = false := by
  induction fuel with
  | zero =>
    intro low high best hl hb hfuel
    refine ⟨le_rfl, le_max_left _ _, fun h => absurd rfl h, fun n hn hh => ?_⟩
    simp only [searchChunk] at hn
    omega
  | succ fuel ih =>
    intro low high best hl hb hfuel
    unfold searchChunk
    by_cases hlh : low ≤ high
    · rw [if_pos hlh]
      set mid := low + (high - low) / 2 with hmid
      have hmid1 : low ≤ mid := by omega
      have hmid2 : mid ≤ high := by omega
      by_cases hfit : fits mid = true
      · -- the upper half remains, with `mid` as the best so far
        rw [if_pos hfit]
        obtain ⟨h1, h2, h3, h4⟩ := @ih (mid + 1) high mid (by omega) rfl (by omega)
        refine ⟨by omega, by omega, fun _ => ?_, h4⟩
        by_cases hr : searchChunk fits fuel (mid + 1) high mid = mid
        · rw [hr]
          exact hfit
        · exact h3 hr
      · -- the lower half remains: nothing from `mid` on fits
        rw [if_neg hfit]
        obtain ⟨h1, h2, h3, h4⟩ := @ih low (mid - 1) best hl hb (by omega)
        refine ⟨h1, by omega, h3, fun n hn hh => ?_⟩
        by_cases hnm : n ≤ mid - 1
        · exact h4 n hn hnm
        · exact Bool.eq_false_iff.mpr fun hfn => hfit (hf (by omega) (by omega) hfn)
    · rw [if_neg hlh]
      exact ⟨le_rfl, le_max_left _ _, fun h => absurd rfl h, fun n hn hh => by omega⟩

theorem dataFits_of_le {maximum a b : Nat} (ha : 1 ≤ a) (hab : a ≤ b)
    (hb : dataFits maximum b = true) : dataFits maximum a = true := by
  simp only [dataFits, Bool.and_eq_true, decide_eq_true_eq] at hb ⊢
  obtain ⟨⟨-, hb8⟩, hsize⟩ := hb
  refine ⟨⟨ha, by omega⟩, le_trans (sizeDelimited_mono ?_) hsize⟩
  rw [sizeText, sizeText, if_neg (by omega), if_neg (by omega)]
  exact sizeDelimited_mono hab

/-- One byte fits into a frame of five. -/
theorem dataFits_one {maximum : Nat} (h : 5 ≤ maximum) : dataFits maximum 1 = true := by
  have hsize : sizeDelimited (sizeText 1) = 5 := by decide
  simp only [dataFits, hsize, Bool.and_eq_true, decide_eq_true_eq]
  omega

/-- A chunk is never longer than the data, and with frames of five bytes it is not empty. -/
theorem nextChunk_pos {len maximum : Nat} (hm : 5 ≤ maximum) (hl : 1 ≤ len) :
    1 ≤ nextChunk (dataFits maximum) len maximum := by
  obtain ⟨-, -, -, h⟩ := @searchChunk_spec (dataFits maximum) dataFits_of_le (min len maximum) 1
    (min len maximum) 0 le_rfl rfl (by omega)
  by_contra hz
  have hfit := h 1 (by unfold nextChunk at hz; omega) (by omega)
  rw [dataFits_one hm] at hfit
  cases hfit

/-- **Nothing is lost**: the chunks are the data, cut. -/
theorem chunkLoop_flatten {fits : Nat → Bool} {maximum : Nat} (fuel : Nat) :
    ∀ {data : Bytes} {chunks : List Bytes}, chunkLoop fits maximum fuel data = some chunks →
      chunks.flatten = data := by
  induction fuel with
  | zero =>
    intro data chunks h
    unfold chunkLoop at h
    split_ifs at h with hd
    cases h
    rw [hd]
    rfl
  | succ fuel ih =>
    intro data chunks h
    unfold chunkLoop at h
    split_ifs at h with hd hz
    · cases h
      rw [hd]
      rfl
    · obtain ⟨rest, hrest, rfl⟩ := Option.map_eq_some_iff.mp h
      rw [List.flatten_cons, ih hrest, List.take_append_drop]

theorem chunkedFrames_flatten {data : Bytes} {maximum : Nat} {chunks : List Bytes}
    (h : chunkedFrames data maximum = some chunks) : chunks.flatten = data :=
  chunkLoop_flatten _ h

/-- **With frames of five bytes every text of bytes can be sent.** -/
theorem chunkLoop_isSome {maximum : Nat} (hm : 5 ≤ maximum) (fuel : Nat) :
    ∀ {data : Bytes}, data.length ≤ fuel →
      (chunkLoop (dataFits maximum) maximum fuel data).isSome = true := by
  induction fuel with
  | zero =>
    intro data h
    rw [List.length_eq_zero_iff.mp (Nat.le_zero.mp h)]
    rfl
  | succ fuel ih =>
    intro data h
    unfold chunkLoop
    by_cases hd : data = []
    · rw [if_pos hd]
      rfl
    · have hpos := nextChunk_pos hm (List.length_pos_iff.mpr hd)
      rw [if_neg hd, if_neg (by omega), Option.isSome_map]
      refine ih ?_
      rw [List.length_drop]
      omega

theorem chunkedFrames_isSome {data : Bytes} {maximum : Nat} (hm : 5 ≤ maximum) :
    (chunkedFrames data maximum).isSome = true := by
  unfold chunkedFrames
  rw [if_neg (by omega)]
  exact chunkLoop_isSome hm _ le_rfl

end Mygosh.Command

/-
  File:      Mygosh/Client/Codec.lean
  Subject:   What the two sides of the command protocol make of each other's frames
             (`lib/command/codec.go`, `app/client/command/errors.go`).

  `proto.Marshal` and `proto.Unmarshal` are taken to be inverse, so a frame is its message: a message
  that `marshalMessage` lets through is the frame, and `unmarshalMessage` of the other side checks it
  against the same schema. What remains are the conversions around it: a start request to its message
  and back, and an exit through the variant on the wire to the flat result and the client's error.
-/
import Mygosh.Client.Machine
import Mygosh.Command.Chunks

namespace Mygosh.Client

open Mux (Bytes sizeDelimited sizeText sizeScalar textIn)
open Command
open Server (StartRequest StartKind PTYRequest guardWith guardWith_eq_ok)

/-! ## 1. Messages and frames -/

def ptyValid (pty : PTYRequest) : Bool :=
  pty.terminal.length ≤ 256 && 0 < pty.rows && pty.rows ≤ 65535 && 0 < pty.columns
    && pty.columns ≤ 65535

/-- The schema's bounds on a start. -/
def startValid (start : Start) : Bool :=
  start.target.all (textIn 1 24576) && start.pty.all ptyValid && start.environment.length ≤ 128
    && start.environment.all fun entry => textIn 1 256 entry.1 && entry.2.length ≤ 16384

/-- The schema's bounds on a client frame. -/
def clientFrameValid : ClientFrame → Bool
  | .start start => startValid start
  | .stdin data => 1 ≤ data.length && data.length ≤ 8388608
  | .stdinEof => true
  | .windowChange rows columns => 0 < rows && rows ≤ 65535 && 0 < columns && columns ≤ 65535

def startSize (start : Start) : Nat :=
  2 + (match start.target with
    | none => sizeDelimited 0
    | some command => sizeDelimited (sizeText (byteLength command)))
  + (match start.pty with
    | none => 0
    | some pty => sizeDelimited (sizeText (byteLength pty.terminal) + sizeScalar pty.rows
        + sizeScalar pty.columns))
  + (start.environment.map fun entry =>
      sizeDelimited (sizeText (byteLength entry.1) + sizeText (byteLength entry.2))).sum

/-- The length of an encoded client frame. -/
def clientFrameSize : ClientFrame → Nat
  | .start start => sizeDelimited (startSize start)
  | .stdin data => sizeDelimited (sizeText data.length)
  | .stdinEof => sizeDelimited 0
  | .windowChange rows columns => sizeDelimited (sizeScalar rows + sizeScalar columns)

/-- `marshalMessage`, with the schema and the size of the message's type. -/
def marshalMessage {α : Type} (valid : α → Bool) (size : α → Nat) (message : α) (maximum : Int) :
    Except String α :=
  guardWith (!valid message) "validate command message" <|
  guardWith (size message = 0) "encoded command frame is empty" <|
  guardWith (0 < maximum && maximum < size message)
    s!"command frame exceeds maximum size: {size message} > {maximum}" <|
  .ok message

/-- `unmarshalMessage`, of bytes that are a message. -/
def unmarshalMessage {α : Type} (valid : α → Bool) (frame : α) : Except String α :=
  guardWith (!valid frame) "validate command message" <| .ok frame

/-- What is let out is the message, and the other side lets it in. -/
theorem unmarshalMessage_of_marshalMessage {α : Type} {valid : α → Bool} {size : α → Nat}
    {message frame : α} {maximum : Int} (h : marshalMessage valid size message maximum = .ok frame) :
    frame = message ∧ unmarshalMessage valid frame = .ok message := by
  obtain ⟨hvalid, h⟩ := guardWith_eq_ok h
  obtain ⟨-, h⟩ := guardWith_eq_ok h
  obtain ⟨-, h⟩ := guardWith_eq_ok h
  cases h
  exact ⟨rfl, Server.guardWith_false hvalid⟩

/-! ## 2. Encoders of the client -/

/-- The value of a name in an environment. -/
def environmentEntry (environment : TextMap) (name : String) : String × String :=
  (name, (environment.lookup name).getD "")

/-- The message of a start with the given target. -/
def startMessage (request : StartRequest) (target : Option String) : ClientFrame :=
  .start ⟨target, request.pty,
    (sortTexts request.environment.keys).map (environmentEntry request.environment)⟩

/-- `encodeStart`. -/
def encodeStart (request : StartRequest) : Except String ClientFrame :=
  match request.kind with
  | .shell =>
    guardWith (trimSpace request.command ≠ "") "shell start must not include a command" <|
    .ok (startMessage request none)
  | .exec =>
    guardWith (trimSpace request.command = "") "exec command is required" <|
    .ok (startMessage request (some request.command))
  | .other value => .error s!"unsupported command start kind {value}"

/-- `EncodeClientStart`. -/
def encodeClientStart (request : StartRequest) (maximum : Int) : Except String ClientFrame :=
  (encodeStart request).bind fun message =>
    marshalMessage clientFrameValid clientFrameSize message maximum

/-- `EncodeClientWindowChange`. -/
def encodeClientWindowChange (rows columns : Nat) (maximum : Int) : Except String ClientFrame :=
  marshalMessage clientFrameValid clientFrameSize (.windowChange rows columns) maximum

/-- `EncodeClientStdinEOF`. -/
def encodeClientStdinEOF (maximum : Int) : Except String ClientFrame :=
  marshalMessage clientFrameValid clientFrameSize .stdinEof maximum

/-- `EncodeClientStdin`. -/
def encodeClientStdin (data : Bytes) (maximum : Int) : Option (List ClientFrame) :=
  (chunkedFrames data maximum.toNat).map (List.map .stdin)

/-- What the server makes of a client frame. -/
def receiveClientFrame (frame : ClientFrame) : Except String ClientFrame :=
  unmarshalMessage clientFrameValid frame

/-! ## 3. A start request arrives -/

section Environment

variable {entries : List (String × String)} {environment : TextMap}

/-- What `decodeStart` refuses in an entry. -/
def cleanEntry (entry : String × String) : Prop :=
  containsAny entry.1 (String.ofList ['=', nul]) = false ∧ containsRune entry.2 nul = false

instance (entry : String × String) : Decidable (cleanEntry entry) :=
  inferInstanceAs (Decidable (_ ∧ _))

/-- **Distinct clean entries arrive**, each under its name and nothing else. -/
theorem decodeEnvironment_of_clean (hclean : ∀ entry ∈ entries, cleanEntry entry)
    (hnodup : (entries.map Prod.fst).Nodup)
    (hnew : ∀ entry ∈ entries, environment.lookup entry.1 = none) :
    ∃ decoded, decodeEnvironment entries environment = .ok decoded ∧
      (∀ entry ∈ entries, decoded.lookup entry.1 = some entry.2) ∧
      ∀ name, name ∉ entries.map Prod.fst → decoded.lookup name = environment.lookup name := by
  induction entries generalizing environment with
  | nil => exact ⟨environment, rfl, by simp, fun _ _ => rfl⟩
  | cons entry entries ih =>
    obtain ⟨name, value⟩ := entry
    obtain ⟨hnot, hnodup⟩ := List.nodup_cons.mp hnodup
    have hhead := hclean (name, value) List.mem_cons_self
    have hfree : (environment.lookup name).isSome = false := by
      rw [hnew (name, value) List.mem_cons_self]
      rfl
    obtain ⟨decoded, hdecoded, hentries, hother⟩ :=
      @ih (environment.insert name value)
        (fun entry hentry => hclean entry (List.mem_cons_of_mem _ hentry)) hnodup
        (fun entry hentry => by
          have hne : entry.1 ≠ name := fun h => hnot (List.mem_map.mpr ⟨entry, hentry, h⟩)
          rw [AList.lookup_insert_ne hne]
          exact hnew entry (List.mem_cons_of_mem _ hentry))
    refine ⟨decoded, ?_, ?_, ?_⟩
    · unfold decodeEnvironment
      rw [hhead.1, hhead.2, hfree]
      exact hdecoded
    · intro entry hentry
      rcases List.mem_cons.mp hentry with rfl | hentry
      · rw [hother _ hnot, AList.lookup_insert]
      · exact hentries entry hentry
    · intro other hother'
      simp only [List.map_cons, List.mem_cons, not_or] at hother'
      rw [hother _ hother'.2, AList.lookup_insert_ne hother'.1]

end Environment

/-- The request that a start stands for. -/
structure SameRequest (request decoded : StartRequest) : Prop where
  kind : decoded.kind = request.kind
  command : decoded.command = if request.kind = .exec then request.command else ""
  pty : decoded.pty = request.pty
  environment : ∀ name, decoded.environment.lookup name = request.environment.lookup name

section Start

variable {request : StartRequest}

theorem encodeStart_eq_ok {message : ClientFrame} (h : encodeStart request = .ok message) :
    (request.kind = .shell ∧ message = startMessage request none) ∨
      request.kind = .exec ∧ message = startMessage request (some request.command) := by
  unfold encodeStart at h
  cases hk : request.kind with
  | shell =>
    rw [hk] at h
    obtain ⟨-, h⟩ := guardWith_eq_ok h
    exact .inl ⟨rfl, (Except.ok.inj h).symm⟩
  | exec =>
    rw [hk] at h
    obtain ⟨-, h⟩ := guardWith_eq_ok h
    exact .inr ⟨rfl, (Except.ok.inj h).symm⟩
  | other value =>
    rw [hk] at h
    cases h

/-- The sorted entries of a clean environment arrive as the environment. -/
theorem decodeEnvironment_entries
    (hclean : ∀ name value, request.environment.lookup name = some value →
      cleanEntry (name, value)) :
    ∃ decoded, decodeEnvironment ((sortTexts request.environment.keys).map
        (environmentEntry request.environment)) ∅ = .ok decoded ∧
      ∀ name, decoded.lookup name = request.environment.lookup name := by
  have hfst : ((sortTexts request.environment.keys).map
      (environmentEntry request.environment)).map Prod.fst = sortTexts request.environment.keys := by
    rw [List.map_map]
    exact List.map_id _
  have hnodup : (sortTexts request.environment.keys).Nodup :=
    (List.perm_insertionSort _ _).nodup_iff.mpr request.environment.nodupKeys
  have hvalue : ∀ name ∈ sortTexts request.environment.keys, request.environment.lookup name =
      some (environmentEntry request.environment name).2 := by
    intro name hname
    have hmem : name ∈ request.environment := AList.mem_keys.mpr (mem_sortTexts.mp hname)
    obtain ⟨value, hv⟩ := Option.isSome_iff_exists.mp (AList.lookup_isSome.mpr hmem)
    simp [environmentEntry, hv]
  obtain ⟨decoded, hdecoded, hentries, hother⟩ := @decodeEnvironment_of_clean
    ((sortTexts request.environment.keys).map (environmentEntry request.environment)) ∅
    (by
      intro entry hentry
      obtain ⟨name, hname, rfl⟩ := List.mem_map.mp hentry
      exact hclean name _ (hvalue name hname))
    (by rw [hfst]; exact hnodup) (fun _ _ => rfl)
  refine ⟨decoded, hdecoded, fun name => ?_⟩
  by_cases hname : name ∈ sortTexts request.environment.keys
  · have hd := hentries _ (List.mem_map_of_mem hname)
    rw [hvalue name hname]
    exact hd
  · have hnone : request.environment.lookup name = none :=
      AList.lookup_eq_none.mpr fun hmem => hname (mem_sortTexts.mpr (AList.mem_keys.mp hmem))
    rw [hother name (by rw [hfst]; exact hname), hnone]
    rfl

/-- **A start request arrives.** -/
theorem start_arrives {maximum : Int} {frame : ClientFrame}
    (h : encodeClientStart request maximum = .ok frame)
    (hclean : ∀ name value, request.environment.lookup name = some value →
      cleanEntry (name, value)) :
    ∃ start decoded, receiveClientFrame frame = .ok (.start start) ∧
      decodeStart start = .ok decoded ∧ SameRequest request decoded := by
  obtain ⟨message, hmessage, hmarshal⟩ := Server.bind_eq_ok h
  obtain ⟨rfl, hreceive⟩ := unmarshalMessage_of_marshalMessage hmarshal
  obtain ⟨environment, henvironment, hlookup⟩ := decodeEnvironment_entries hclean
  rcases encodeStart_eq_ok hmessage with ⟨hk, rfl⟩ | ⟨hk, rfl⟩
  · refine ⟨_, ⟨.shell, "", request.pty, environment⟩, hreceive, ?_, ?_⟩
    · simp [decodeStart, henvironment, Except.map]
    · exact ⟨hk.symm, by simp [hk], rfl, hlookup⟩
  · refine ⟨_, ⟨.exec, request.command, request.pty, environment⟩, hreceive, ?_, ?_⟩
    · simp [decodeStart, henvironment, Except.map]
    · exact ⟨hk.symm, by simp [hk], rfl, hlookup⟩

end Start

/-! ## 4. Everything else arrives -/

/-- `DecodeServerEvent` of a frame. -/
def receiveServerFrame (frame : ServerFrame) : Except String ServerEvent :=
  decodeServerEvent (if frame.valid then some frame else none)

/-- `marshalMessage` of a server frame. -/
def marshalServerFrame (message : ServerFrame) (maximum : Int) : Except String ServerFrame :=
  marshalMessage ServerFrame.valid ServerFrame.size message maximum

/-- An exit result with one variant: a status, a signal or a runtime failure, within the bounds of
    the schema. -/
inductive OneVariant : ExitResult → Prop where
  | status {v : Int} (hlo : -2147483648 ≤ v) (hhi : v < 2147483648) : OneVariant ⟨v, "", ""⟩
  | signal {name : String} (h : textIn 1 64 name = true) : OneVariant ⟨0, name, ""⟩
  | runtimeFailure {message : String} (h : textIn 1 1024 message = true) :
      OneVariant ⟨0, "", message⟩

theorem receiveServerFrame_of_marshal {message frame : ServerFrame} {maximum : Int}
    (h : marshalServerFrame message maximum = .ok frame) :
    receiveServerFrame frame = decodeServerEvent (some message) := by
  obtain ⟨rfl, hreceive⟩ := unmarshalMessage_of_marshalMessage h
  obtain ⟨hvalid, -⟩ := guardWith_eq_ok hreceive
  rw [receiveServerFrame, if_pos (by simpa using hvalid)]

theorem text_ne_empty {lo hi : Nat} {text : String} (h : textIn (lo + 1) hi text = true) :
    text ≠ "" := by
  rintro rfl
  simp [textIn] at h

/-- The variant on the wire is the result's. -/
theorem decodeExit_exitMessage {result : ExitResult} (h : OneVariant result) :
    decodeExit (exitMessage result) = result := by
  cases h with
  | @status v hlo hhi =>
    have hv : toInt32 v = v := by unfold toInt32; omega
    simp [exitMessage, decodeExit, hv]
  | @signal name h => simp [exitMessage, decodeExit, text_ne_empty h]
  | @runtimeFailure message h => simp [exitMessage, decodeExit, text_ne_empty h]

/-- The chunks that are cut are within the schema. -/
theorem chunk_valid {data : Bytes} {maximum : Int} {chunks : List Bytes}
    (h : chunkedFrames data maximum.toNat = some chunks) :
    ∀ chunk ∈ chunks, 1 ≤ chunk.length ∧ chunk.length ≤ 8388608 := by
  intro chunk hchunk
  rw [chunkedFrames_limit] at h
  have hfits := (chunkLoop_greedy _ h).fits chunk hchunk
  simp only [dataFits, Bool.and_eq_true, decide_eq_true_eq] at hfits
  exact hfits.1

/-- **The codec over the whole format.** Whatever one side of the command protocol encodes, the other
    side accepts, and it reads the value that was encoded. -/
theorem codec_round_trip :
    (∀ request maximum frame, encodeClientStart request maximum = .ok frame →
      (∀ name value, request.environment.lookup name = some value → cleanEntry (name, value)) →
      ∃ start decoded, receiveClientFrame frame = .ok (.start start) ∧
        decodeStart start = .ok decoded ∧ SameRequest request decoded) ∧
    (∀ rows columns maximum frame, encodeClientWindowChange rows columns maximum = .ok frame →
      receiveClientFrame frame = .ok (.windowChange rows columns)) ∧
    (∀ data maximum frames, encodeClientStdin data maximum = some frames →
      ∃ chunks : List Bytes, chunks.flatten = data ∧
        frames.map receiveClientFrame = chunks.map fun chunk => .ok (.stdin chunk)) ∧
    (∀ maximum frame, encodeClientStdinEOF maximum = .ok frame →
      receiveClientFrame frame = .ok .stdinEof) ∧
    (∀ accepted maximum frame, marshalServerFrame (startResultFrame accepted) maximum = .ok frame →
      ∃ code message, startResultFrame accepted = .startResult accepted code message ∧
        receiveServerFrame frame = .ok (.startResult accepted code message)) ∧
    (∀ data maximum chunks, chunkedFrames data (Int.toNat maximum) = some chunks →
      ∀ chunk ∈ chunks, receiveServerFrame (.stdout chunk) = .ok (.output .stdout chunk) ∧
        receiveServerFrame (.stderr chunk) = .ok (.output .stderr chunk)) ∧
    ∀ result maximum frame, OneVariant result →
      marshalServerFrame (.exit (exitMessage result)) maximum = .ok frame →
      receiveServerFrame frame = .ok (.exit result) := by
  refine ⟨fun request maximum frame h hclean => start_arrives h hclean,
    fun rows columns maximum frame h => (unmarshalMessage_of_marshalMessage h).2,
    fun data maximum frames h => ?_,
    fun maximum frame h => (unmarshalMessage_of_marshalMessage h).2,
    fun accepted maximum frame h => ?_, fun data maximum chunks h chunk hchunk => ?_,
    fun result maximum frame hone h => ?_⟩
  · obtain ⟨chunks, hchunks, rfl⟩ := Option.map_eq_some_iff.mp h
    refine ⟨chunks, chunkedFrames_flatten hchunks, ?_⟩
    rw [List.map_map]
    refine List.map_congr_left fun chunk hchunk => ?_
    obtain ⟨hpos, h8⟩ := chunk_valid hchunks chunk hchunk
    simp [receiveClientFrame, unmarshalMessage, clientFrameValid, guardWith, hpos, h8]
  · have hreceive := receiveServerFrame_of_marshal h
    cases accepted with
    | true => exact ⟨"", "", rfl, hreceive⟩
    | false => exact ⟨"start-rejected", "command could not be started", rfl, hreceive⟩
  · obtain ⟨hpos, h8⟩ := chunk_valid h chunk hchunk
    simp [receiveServerFrame, ServerFrame.valid, decodeServerEvent, hpos, h8]
  · rw [receiveServerFrame_of_marshal h, decodeServerEvent, decodeExit_exitMessage hone]

/-- An `exec` with a terminal and one variable, and an exit by a signal. -/
theorem codec_round_trip_exec :
    (∃ start decoded, receiveClientFrame (startMessage
        ⟨.exec, "ls", some ⟨"xterm", 24, 80⟩, (∅ : TextMap).insert "LANG" "C"⟩ (some "ls"))
          = .ok (.start start) ∧ decodeStart start = .ok decoded ∧
        SameRequest ⟨.exec, "ls", some ⟨"xterm", 24, 80⟩, (∅ : TextMap).insert "LANG" "C"⟩ decoded) ∧
      receiveServerFrame (.exit (.signal "SIGTERM")) = .ok (.exit ⟨0, "SIGTERM", ""⟩) := by
  refine ⟨codec_round_trip.1 _ 0 _ (by decide +kernel) ?_,
    codec_round_trip.2.2.2.2.2.2 _ 0 _ (.signal (by decide)) (by decide +kernel)⟩
  intro name value h
  rcases TextMap.lookup_insert_eq h with ⟨rfl, rfl⟩ | ⟨-, hempty⟩
  · decide
  · cases hempty

/-! ## 5. The result of a command -/

/-- `RemoteExitError`. -/
structure RemoteExitError where
  code : Int
  cause : ClientError
  silent : Bool
  deriving DecidableEq, Repr

section Outcome

variable (toUpper : String → String) (signalNum : String → Nat)

/-- `normalizeRemoteExit`; `toUpper` is `strings.ToUpper`, and `signalNum` is `unix.SignalNum`, zero if no
    signal has the name. -/
def normalizeRemoteExit : Option ClientError → Option RemoteExitError
  | none => none
  | some (.exitStatus status) =>
    some ⟨if status < 1 || status > 255 then 255 else status, .exitStatus status, true⟩
  | some (.exitSignal signal) =>
    if signalNum (toUpper signal) = 0 then some ⟨255, .exitSignal signal, false⟩
    else some ⟨128 + signalNum (toUpper signal), .exitSignal signal, false⟩
  | some cause => some ⟨255, cause, false⟩

/-- What the client makes of an exit frame; `none` is success. -/
def exitOutcome (exit : Exit) : Option RemoteExitError :=
  normalizeRemoteExit toUpper signalNum (terminalResult (decodeExit exit))

/-- Success means status zero: the outcome of an exit frame is success exactly for the status zero,
    and otherwise an error with an exit code from 1 to 255. -/
def SuccessIsZero (exit : Exit) : Prop :=
  (exitOutcome toUpper signalNum exit = none ↔ exit = .status 0) ∧
    (exit ≠ .status 0 →
      ∃ e, exitOutcome toUpper signalNum exit = some e ∧ 1 ≤ e.code ∧ e.code ≤ 255)

/-- The only exits that the flat result does not tell from success. -/
theorem terminalResult_eq_none {exit : Exit} (hvalid : (ServerFrame.exit exit).valid = true) :
    terminalResult (decodeExit exit) = none ↔ exit = .status 0 ∨ exit = .runtimeFailure "" := by
  cases exit with
  | status v => by_cases hv : v = 0 <;> simp [terminalResult, decodeExit, hv]
  | signal name => simp [terminalResult, decodeExit, text_ne_empty hvalid]
  | runtimeFailure message => simp [terminalResult, decodeExit]

variable {toUpper signalNum}

/-- Every error has an exit code that tells it from success: the numbers of signals are below 128. -/
theorem normalizeRemoteExit_code (hsignal : ∀ name, signalNum name ≤ 127) (err : ClientError) :
    ∃ e, normalizeRemoteExit toUpper signalNum (some err) = some e ∧ 1 ≤ e.code ∧ e.code ≤ 255 := by
  have h255 : (1 : Int) ≤ 255 ∧ (255 : Int) ≤ 255 := by decide
  cases err with
  | exitStatus status =>
    refine ⟨_, rfl, ?_⟩
    by_cases h : status < 1 || status > 255
    · simp [h]
    · simp only [h, Bool.false_eq_true, if_false]
      simp only [Bool.or_eq_true, decide_eq_true_eq, not_or] at h
      omega
  | exitSignal signal =>
    have hle := hsignal (toUpper signal)
    by_cases hz : signalNum (toUpper signal) = 0
    · exact ⟨⟨255, .exitSignal signal, false⟩, if_pos hz, h255⟩
    · refine ⟨⟨128 + signalNum (toUpper signal), .exitSignal signal, false⟩, if_neg hz, ?_⟩
      simp only
      omega
  | startRejected code message => exact ⟨_, rfl, h255⟩
  | runtime message => exact ⟨_, rfl, h255⟩
  | other message => exact ⟨_, rfl, h255⟩

/-- **Success means status zero, except for a runtime failure without a message.** -/
theorem success_is_zero (hsignal : ∀ name, signalNum name ≤ 127) (exit : Exit)
    (hvalid : (ServerFrame.exit exit).valid = true) :
    SuccessIsZero toUpper signalNum exit ↔ exit ≠ .runtimeFailure "" := by
  have hnone := terminalResult_eq_none hvalid
  constructor
  · rintro ⟨-, herror⟩ rfl
    obtain ⟨e, he, -⟩ := herror (by decide)
    have hsuccess := hnone.mpr (.inr rfl)
    rw [exitOutcome, hsuccess] at he
    cases he
  · intro hmessage
    cases hresult : terminalResult (decodeExit exit) with
    | none =>
      have hzero := (hnone.mp hresult).resolve_right hmessage
      have hout : exitOutcome toUpper signalNum exit = none := by rw [exitOutcome, hresult]; rfl
      exact ⟨⟨fun _ => hzero, fun _ => hout⟩, fun h => absurd hzero h⟩
    | some err =>
      have hne : exit ≠ .status 0 := by
        rintro rfl
        cases hresult
      obtain ⟨e, he, hcode⟩ := normalizeRemoteExit_code hsignal err
      have hout : exitOutcome toUpper signalNum exit = some e := by rw [exitOutcome, hresult, he]
      exact ⟨by simp [hout, hne], fun _ => ⟨e, hout, hcode⟩⟩

end Outcome

/-- The signals of Linux by their names. -/
def signalList : List (String × Nat) :=
  [("SIGHUP", 1), ("SIGINT", 2), ("SIGQUIT", 3), ("SIGILL", 4), ("SIGTRAP", 5), ("SIGABRT", 6),
    ("SIGBUS", 7), ("SIGFPE", 8), ("SIGKILL", 9), ("SIGUSR1", 10), ("SIGSEGV", 11),
    ("SIGUSR2", 12), ("SIGPIPE", 13), ("SIGALRM", 14), ("SIGTERM", 15), ("SIGSTKFLT", 16),
    ("SIGCHLD", 17), ("SIGCONT", 18), ("SIGSTOP", 19), ("SIGTSTP", 20), ("SIGTTIN", 21),
    ("SIGTTOU", 22), ("SIGURG", 23), ("SIGXCPU", 24), ("SIGXFSZ", 25), ("SIGVTALRM", 26),
    ("SIGPROF", 27), ("SIGWINCH", 28), ("SIGIO", 29), ("SIGPWR", 30), ("SIGSYS", 31)]

def linuxSignalNum (name : String) : Nat := (signalList.lookup name).getD 0

theorem linuxSignalNum_le (name : String) : linuxSignalNum name ≤ 127 := by
  unfold linuxSignalNum
  cases h : signalList.lookup name with
  | none => simp
  | some number =>
    obtain ⟨l₁, l₂, hsplit, -⟩ := List.lookup_eq_some_iff.mp h
    have hall : ∀ entry ∈ signalList, entry.2 ≤ 127 := by decide
    exact hall (name, number) (by rw [hsplit]; simp)

/-- A command ended by a signal, and one with a status that does not fit an exit code. -/
theorem success_is_zero_signal :
    SuccessIsZero id linuxSignalNum (.signal "SIGTERM") ∧
      exitOutcome id linuxSignalNum (.signal "SIGTERM") = some ⟨143, .exitSignal "SIGTERM", false⟩ ∧
      SuccessIsZero id linuxSignalNum (.status 256) :=
  ⟨(success_is_zero linuxSignalNum_le (.signal "SIGTERM") (by decide)).mpr (by decide),
    by decide +kernel,
    (success_is_zero linuxSignalNum_le (.status 256) (by decide)).mpr (by decide)⟩

/-- A runtime failure without a message passes the schema and is taken for success. -/
theorem empty_failure_is_success :
    (ServerFrame.exit (.runtimeFailure "")).valid = true ∧
      receiveServerFrame (.exit (.runtimeFailure "")) = .ok (.exit ⟨0, "", ""⟩) ∧
      exitOutcome id linuxSignalNum (.runtimeFailure "") = none ∧
      ¬ SuccessIsZero id linuxSignalNum (.runtimeFailure "") := by
  refine ⟨by decide, by decide, by decide, fun h => ?_⟩
  obtain ⟨e, he, -⟩ := h.2 (by decide)
  cases he

end Mygosh.Client

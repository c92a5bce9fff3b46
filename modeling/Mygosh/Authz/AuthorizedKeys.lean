/-
  File:      Mygosh/Authz/AuthorizedKeys.lean
  Subject:   The authorized_keys files (`ParseAuthorizedKeys` of `lib/trust/authorized_keys_ssh.go`).

  The loop takes white space off what is left of the file and asks `ssh.ParseAuthorizedKey` for the
  next key; that function skips the lines that hold none and fails if no line holds one. Of the line
  parser only this is assumed: a blank line and a comment hold no key. So a line is read without the
  white space before it if it is the first one left, and as it stands if not; `LineParser.found` reads
  a file in this way.

  Files are sequences of runes. `bytes.TrimSpace` decodes UTF-8 from either end; a byte that belongs to
  no code point is a rune of its own, and not white space.
-/
import Mygosh.Lines
import Mygosh.Authz.Connection

namespace Mygosh.Server

open Keys (PublicKey SSHPublicKey algorithmEd25519 keyAlgoED25519 parseSSHPublicKey)

/-! ## 1. Files and lines -/

inductive Rune where
  | char (c : Char)
  | invalid (b : UInt8)
  deriving DecidableEq, Repr

def Rune.isSpace : Rune → Bool
  | .char c => Mygosh.isSpace c
  | .invalid _ => false

def newline : Rune := .char '\n'

/-- The lines of a file. -/
def lines (contents : List Rune) : List (List Rune) := contents.splitOn newline

/-- The first symbol that is not white space is `#`. -/
def IsComment (line : List Rune) : Prop := (line.dropWhile Rune.isSpace).head? = some (.char '#')

instance (line : List Rune) : Decidable (IsComment line) := inferInstanceAs (Decidable (_ = _))

/-- What `ssh.ParseAuthorizedKey` returns for a line: the key, its comment and its options. -/
structure SSHKey extends SSHPublicKey where
  comment : String
  options : List String
  deriving DecidableEq, Repr

/-- How `ssh.ParseAuthorizedKey` reads one line. -/
structure LineParser where
  parse : List Rune → Option SSHKey
  blank : ∀ line, Blank Rune.isSpace line → parse line = none
  comment : ∀ line, IsComment line → parse line = none

/-- The first key of some lines, and the lines behind it. -/
def LineParser.firstKey (P : LineParser) :
    List (List Rune) → Option (SSHKey × List (List Rune))
  | [] => none
  | line :: rest =>
    match P.parse line with
    | some pk => some (pk, rest)
    | none => P.firstKey rest

/-- `ssh.ParseAuthorizedKey`; `none` is its error "no key found". -/
def LineParser.parseAuthorizedKey (P : LineParser) (contents : List Rune) :
    Option (SSHKey × List Rune) :=
  (P.firstKey (lines contents)).map fun r => (r.1, [newline].intercalate r.2)

/-! ## 2. Entries -/

/-- `sshEd25519PublicKey`. -/
def sshEd25519PublicKey (pk : SSHKey) : Except String (Option PublicKey) :=
  wrap "parse ssh public key" (parseSSHPublicKey pk.toSSHPublicKey pk.comment)

/-- `parseAuthorizedKeyOption`. -/
def parseAuthorizedKeyOption (option : String) : Except String AuthorizedKeyOption :=
  guardWith (option = "") "authorized_keys option is empty" <|
  let name := String.ofList (option.toList.takeWhile (· ≠ '='))
  guardWith (name = "") "authorized_keys option name is empty" <|
  .ok ⟨name, String.ofList ((option.toList.dropWhile (· ≠ '=')).drop 1), option.toList.contains '='⟩

/-- `parseAuthorizedKeyOptions`. -/
def parseAuthorizedKeyOptions (options : List String) : Except String (List AuthorizedKeyOption) :=
  options.mapM parseAuthorizedKeyOption

/-- What the loop makes of a key: nothing, if it is of another type, or an entry. -/
def parseEntry (unquote : String → Except String String) (pk : SSHKey) :
    Except String (Option AuthorizedKeyEntry) :=
  if pk.type ≠ keyAlgoED25519 then .ok none
  else
    (wrap "parse authorized_keys entry" (sshEd25519PublicKey pk)).bind fun publicKey =>
      match publicKey with
      | none => .ok none
      | some key =>
        (wrap "parse authorized_keys options" (parseAuthorizedKeyOptions pk.options)).bind
          fun options =>
            (wrap "validate authorized_keys options"
              (parseAuthorizedKeyConstraints unquote options)).map fun _ => some ⟨options, key⟩

/-! ## 3. The loop -/

section Keys

variable {P : LineParser} {L : List (List Rune)} {pk : SSHKey}

theorem firstKey_eq_none (h : P.firstKey L = none) : ∀ l ∈ L, P.parse l = none := by
  induction L with
  | nil => exact fun l hl => nomatch hl
  | cons line L ih =>
    simp only [LineParser.firstKey] at h
    split at h
    · cases h
    · rename_i hp
      intro l hl
      rcases List.mem_cons.mp hl with rfl | hl
      · exact hp
      · exact ih h l hl

theorem firstKey_eq_some {rest : List (List Rune)} (h : P.firstKey L = some (pk, rest)) :
    ∃ pre line, L = pre ++ line :: rest ∧ P.parse line = some pk ∧ ∀ l ∈ pre, P.parse l = none := by
  induction L with
  | nil => cases h
  | cons line L ih =>
    simp only [LineParser.firstKey] at h
    split at h
    · rename_i hp
      cases h
      exact ⟨[], line, rfl, hp, fun l hl => nomatch hl⟩
    · rename_i hp
      obtain ⟨pre, l, rfl, hl, hpre⟩ := ih h
      refine ⟨line :: pre, l, rfl, hl, fun n hn => ?_⟩
      rcases List.mem_cons.mp hn with rfl | hn
      · exact hp
      · exact hpre n hn

theorem parseAuthorizedKey_eq_some {contents rest : List Rune}
    (h : P.parseAuthorizedKey contents = some (pk, rest)) :
    ∃ pre line M, lines contents = pre ++ line :: M ∧ P.parse line = some pk ∧
      (∀ l ∈ pre, P.parse l = none) ∧ rest = [newline].intercalate M := by
  obtain ⟨⟨pk', M⟩, hfirst, he⟩ := Option.map_eq_some_iff.mp h
  obtain ⟨rfl, rfl⟩ := Prod.mk.inj he
  obtain ⟨pre, line, hL, hline, hpre⟩ := firstKey_eq_some hfirst
  exact ⟨pre, line, M, hL, hline, hpre, rfl⟩

/-- The rest is a shorter file. -/
theorem parseAuthorizedKey_shorter {contents rest : List Rune}
    (h : P.parseAuthorizedKey contents = some (pk, rest)) :
    (trim Rune.isSpace rest).length < contents.length := by
  obtain ⟨pre, line, M, hL, hline, -, rfl⟩ := parseAuthorizedKey_eq_some h
  have hne : line ≠ [] := by
    rintro rfl
    rw [P.blank [] blank_nil] at hline
    cases hline
  have hM : ([newline].intercalate M).length < ([newline].intercalate (line :: M)).length := by
    cases M with
    | nil => simpa [List.length_pos_iff] using hne
    | cons l M => rw [List.intercalate_cons_cons]; simp only [List.length_append]; simp
  calc (trim Rune.isSpace ([newline].intercalate M)).length
      ≤ ([newline].intercalate M).length := trim_length_le _
    _ < ([newline].intercalate (line :: M)).length := hM
    _ ≤ ([newline].intercalate (pre ++ line :: M)).length :=
        (intercalate_suffix newline pre (line :: M)).length_le
    _ = contents.length := by rw [← hL, lines, List.intercalate_splitOn]

end Keys

/-- The loop of `ParseAuthorizedKeys`. -/
def parseLoop (P : LineParser) (unquote : String → Except String String) (contents : List Rune)
    (entries : List AuthorizedKeyEntry) : Except String (List AuthorizedKeyEntry) :=
  if contents = [] then .ok entries
  else
    match _h : P.parseAuthorizedKey contents with
    | none => .error "parse authorized_keys entry: ssh: no key found"
    | some (pk, rest) =>
      (parseEntry unquote pk).bind fun entry =>
        parseLoop P unquote (trim Rune.isSpace rest) (entries ++ entry.toList)
termination_by contents.length
decreasing_by exact parseAuthorizedKey_shorter _h

/-- `ParseAuthorizedKeys`. -/
def parseAuthorizedKeys (P : LineParser) (unquote : String → Except String String)
    (contents : List Rune) : Except String (List AuthorizedKeyEntry) :=
  parseLoop P unquote (trim Rune.isSpace contents) []

/-! ## 4. How a file is read -/

section Reading

/-- What a line is read as, at the front of what is left or behind another line. -/
def LineParser.reads (P : LineParser) (front : Bool) (line : List Rune) : Option SSHKey :=
  P.parse (if front then line.dropWhile Rune.isSpace else line)

/-- Whether the next line is at the front: behind a key, and before any line that is not blank. -/
def LineParser.after (P : LineParser) (front : Bool) (line : List Rune) : Bool :=
  if Blank Rune.isSpace line then front else (P.reads front line).isSome

/-- The keys that are found. -/
def LineParser.found (P : LineParser) : Bool → List (List Rune) → List SSHKey
  | _, [] => []
  | front, line :: rest => (P.reads front line).toList ++ P.found (P.after front line) rest

def LineParser.final (P : LineParser) (front : Bool) (L : List (List Rune)) : Bool :=
  L.foldl P.after front

/-- The line parser and white space: behind a key it does not matter, and before a key it may hide the
    key but not make one. -/
structure LineParser.Trims (P : LineParser) : Prop where
  leading : ∀ line pk, P.parse line = some pk → P.parse (line.dropWhile Rune.isSpace) = some pk
  trailing : ∀ line, P.parse (line.rdropWhile Rune.isSpace) = P.parse line

variable {P : LineParser} {L M : List (List Rune)} {line : List Rune} {pk : SSHKey} {front : Bool}

theorem dropWhile_blank (h : Blank Rune.isSpace line) : line.dropWhile Rune.isSpace = [] :=
  List.dropWhile_eq_nil_iff.mpr h

theorem reads_blank (h : Blank Rune.isSpace line) : P.reads front line = none := by
  cases front with
  | false => exact P.blank line h
  | true =>
    rw [LineParser.reads, if_pos rfl, dropWhile_blank h]
    exact P.blank [] blank_nil

theorem after_blank (h : Blank Rune.isSpace line) : P.after front line = front := if_pos h

theorem after_of_reads (h : P.reads front line = some pk) : P.after front line = true := by
  rw [LineParser.after, if_neg, h]
  · rfl
  · intro hb
    rw [reads_blank hb] at h
    cases h

theorem found_append : P.found front (L ++ M) = P.found front L ++ P.found (P.final front L) M := by
  induction L generalizing front with
  | nil => rfl
  | cons line L ih =>
    rw [List.cons_append, LineParser.found, ih, LineParser.found, List.append_assoc]
    rfl

theorem final_append : P.final front (L ++ M) = P.final (P.final front L) M := List.foldl_append

/-- What is read of a file. -/
def LineParser.outcome (P : LineParser) (c : List Rune) : List SSHKey × Bool :=
  (P.found true (lines c), P.final true (lines c))

/-- White space before a file is not read. -/
theorem outcome_cons {a : Rune} (c : List Rune) (ha : a.isSpace = true) :
    P.outcome (a :: c) = P.outcome c := by
  unfold LineParser.outcome lines
  rw [List.splitOn_cons_eq_if_modifyHead]
  split_ifs
  · rw [LineParser.found, LineParser.final, List.foldl_cons, after_blank blank_nil, reads_blank blank_nil]
    rfl
  · obtain ⟨l, L, hc⟩ := List.exists_cons_of_ne_nil (List.splitOn_ne_nil newline c)
    have hreads : P.reads true (a :: l) = P.reads true l := by
      rw [LineParser.reads, LineParser.reads, if_pos rfl, if_pos rfl, List.dropWhile_cons_of_pos ha]
    have hafter : P.after true (a :: l) = P.after true l := by
      simp only [LineParser.after, hreads, blank_cons ha]
    rw [hc, List.modifyHead_cons, LineParser.found, LineParser.final, List.foldl_cons, hreads, hafter]
    rfl

/-- Nor is white space behind it. -/
theorem outcome_concat (hP : P.Trims) {a : Rune} (c : List Rune) (ha : a.isSpace = true) :
    P.outcome (c ++ [a]) = P.outcome c := by
  have hreads : ∀ front l, P.reads front (l ++ [a]) = P.reads front l := by
    have hparse : ∀ l, P.parse (l ++ [a]) = P.parse l := fun l => by
      rw [← hP.trailing, List.rdropWhile_concat_pos _ _ _ ha, hP.trailing]
    rintro (- | -) l
    · exact hparse l
    · rw [LineParser.reads, LineParser.reads, if_pos rfl, if_pos rfl, List.dropWhile_append]
      split_ifs with hl
      · rw [dropWhile_blank (show Blank Rune.isSpace [a] by simpa [Blank] using ha), List.isEmpty_iff.mp hl]
      · exact hparse _
  have hafter : ∀ front l, P.after front (l ++ [a]) = P.after front l := fun front l => by
    simp only [LineParser.after, hreads, blank_concat ha]
  obtain ⟨L, l, hc, hca⟩ := splitOn_concat newline c a
  unfold LineParser.outcome lines
  rw [hc, hca, found_append, found_append, final_append, final_append]
  split_ifs <;>
    simp [LineParser.found, LineParser.final, hreads, hafter, reads_blank blank_nil, after_blank blank_nil]

theorem outcome_trim (hP : P.Trims) (c : List Rune) : P.outcome (trim Rune.isSpace c) = P.outcome c :=
  trim_eq (fun _ l ha => outcome_cons l ha) (fun _ l ha => outcome_concat hP l ha) c

/-- Lines without a key, behind another line. -/
theorem skip_keyless (h : ∀ l ∈ L, P.parse l = none) : P.found false L = [] ∧ P.final false L = false := by
  induction L with
  | nil => exact ⟨rfl, rfl⟩
  | cons line L ih =>
    have hreads : P.reads false line = none := h line List.mem_cons_self
    have hafter : P.after false line = false := by simp [LineParser.after, hreads]
    obtain ⟨hfound, hfinal⟩ := ih fun l hl => h l (List.mem_cons_of_mem _ hl)
    rw [LineParser.found, LineParser.final, List.foldl_cons, hreads, hafter]
    exact ⟨hfound, hfinal⟩

/-- The first line of a file that starts with no white space. -/
theorem first_line {t : List Rune} (ht : t.dropWhile Rune.isSpace = t) (hne : t ≠ [])
    (hL : lines t = line :: L) :
    line.dropWhile Rune.isSpace = line ∧ ¬Blank Rune.isSpace line := by
  obtain ⟨a, t, rfl⟩ := List.exists_cons_of_ne_nil hne
  have ha : a.isSpace = false := by
    by_contra h
    rw [List.dropWhile_cons_of_pos (by simpa using h)] at ht
    have := (List.dropWhile_suffix (p := Rune.isSpace) (l := t)).length_le
    rw [ht] at this
    simp at this
  have hsep : a ≠ newline := by
    rintro rfl
    cases ha
  rw [lines, List.splitOn_cons_eq_if_modifyHead, if_neg (by simpa using hsep)] at hL
  obtain ⟨l, K, hc⟩ := List.exists_cons_of_ne_nil (List.splitOn_ne_nil newline t)
  rw [hc, List.modifyHead_cons] at hL
  obtain ⟨rfl, -⟩ := List.cons.inj hL
  exact ⟨List.dropWhile_cons_of_neg (by simp [ha]), fun hb => by simpa [ha] using hb a (by simp)⟩

/-- The lines that `ParseAuthorizedKey` hands back are read as they stand. -/
theorem outcome_intercalate (hM : ∀ l ∈ M, newline ∉ l) :
    P.outcome ([newline].intercalate M) = (P.found true M, P.final true M) := by
  cases M with
  | nil =>
    simp [LineParser.outcome, lines, LineParser.found, LineParser.final, reads_blank blank_nil,
      after_blank blank_nil]
  | cons l M => rw [LineParser.outcome, lines, List.splitOn_intercalate newline hM (by simp)]

/-- The first key that `ParseAuthorizedKey` finds is the first one that is read. -/
theorem first_key {t : List Rune} (ht : t.dropWhile Rune.isSpace = t) {pre : List (List Rune)}
    (hL : lines t = pre ++ line :: M) (hline : P.parse line = some pk)
    (hpre : ∀ l ∈ pre, P.parse l = none) :
    P.outcome t = (pk :: P.found true M, P.final true M) := by
  have hne : t ≠ [] := by
    rintro rfl
    obtain rfl : line = [] := by
      have hmem : line ∈ lines [] := by rw [hL]; simp
      simpa [lines] using hmem
    rw [P.blank [] blank_nil] at hline
    cases hline
  have hkey : ∀ front, P.reads front line = some pk →
      (P.found front (line :: M), P.final front (line :: M)) =
        (pk :: P.found true M, P.final true M) := fun front h => by
    rw [LineParser.found, LineParser.final, List.foldl_cons, h, after_of_reads h]
    rfl
  rw [LineParser.outcome, hL]
  cases pre with
  | nil =>
    refine hkey true ?_
    rw [LineParser.reads, if_pos rfl, (first_line ht hne hL).1, hline]
  | cons first pre =>
    -- the first line is read as it stands and holds no key, so the others are not at the front
    obtain ⟨hfirst, hnot⟩ := first_line ht hne hL
    have hreads : P.reads true first = none := by
      rw [LineParser.reads, if_pos rfl, hfirst, hpre first List.mem_cons_self]
    have hafter : P.after true first = false := by simp [LineParser.after, hnot, hreads]
    obtain ⟨hfound, hfinal⟩ := skip_keyless fun l hl => hpre l (List.mem_cons_of_mem _ hl)
    rw [List.cons_append, LineParser.found, LineParser.final, List.foldl_cons, hreads, hafter,
      found_append, ← LineParser.final, final_append, hfound, hfinal]
    exact hkey false hline

/-- A file in which no line holds a key does not end behind one. -/
theorem final_keyless {t : List Rune} (ht : t.dropWhile Rune.isSpace = t) (hne : t ≠ [])
    (h : ∀ l ∈ lines t, P.parse l = none) : P.final true (lines t) = false := by
  obtain ⟨first, L, hL⟩ := List.exists_cons_of_ne_nil (List.splitOn_ne_nil newline t)
  obtain ⟨hfirst, hnot⟩ := first_line ht hne hL
  rw [lines, hL] at h ⊢
  have hreads : P.reads true first = none := by
    rw [LineParser.reads, if_pos rfl, hfirst, h first List.mem_cons_self]
  have hafter : P.after true first = false := by simp [LineParser.after, hnot, hreads]
  rw [LineParser.final, List.foldl_cons, hafter]
  exact (skip_keyless fun l hl => h l (List.mem_cons_of_mem _ hl)).2

end Reading

/-! ## 5. What a file means -/

section Meaning

variable {P : LineParser} {unquote : String → Except String String}

/-- The entry of a key, if it has one. -/
def entryOf (unquote : String → Except String String) (pk : SSHKey) : Option AuthorizedKeyEntry :=
  match parseEntry unquote pk with
  | .ok entry => entry
  | .error _ => none

/-- The entries of the keys that are found. -/
def LineParser.entries (P : LineParser) (unquote : String → Except String String) (front : Bool)
    (L : List (List Rune)) : List AuthorizedKeyEntry :=
  (P.found front L).filterMap (entryOf unquote)

/-- **What the loop returns**: the file is accepted if it ends behind a key and none of its keys is
    refused, and then its entries are those of its keys. -/
theorem parseLoop_spec (hP : P.Trims) (c : List Rune) (entries result : List AuthorizedKeyEntry) :
    parseLoop P unquote (trim Rune.isSpace c) entries = .ok result ↔
      P.final true (lines c) = true ∧
        (∀ pk ∈ P.found true (lines c), ∃ e, parseEntry unquote pk = .ok e) ∧
        result = entries ++ P.entries unquote true (lines c) := by
  induction hn : (trim Rune.isSpace c).length using Nat.strong_induction_on generalizing c entries with
  | _ n ih =>
    obtain ⟨hfound, hfinal⟩ := Prod.mk.inj (outcome_trim hP c)
    have ht := trim_front Rune.isSpace c
    rw [LineParser.entries, ← hfound, ← hfinal, parseLoop]
    generalize trim Rune.isSpace c = t at *
    split_ifs with hnil
    · subst hnil
      simp [lines, LineParser.final, LineParser.found, reads_blank blank_nil, after_blank blank_nil, eq_comm]
    · split
      · rename_i hnone
        have hkeyless := firstKey_eq_none (Option.map_eq_none_iff.mp hnone)
        rw [final_keyless ht hnil hkeyless]
        exact ⟨(fun h => nomatch h), fun h => nomatch h.1⟩
      · rename_i pk rest hsome
        obtain ⟨pre, line, M, hL, hline, hpre, rfl⟩ := parseAuthorizedKey_eq_some hsome
        obtain ⟨hkeys, hend⟩ := Prod.mk.inj (first_key ht hL hline hpre)
        rw [hkeys, hend]
        cases he : parseEntry unquote pk with
        | error e =>
          refine ⟨(fun h => nomatch h), fun h => ?_⟩
          obtain ⟨_, hok⟩ := h.2.1 pk List.mem_cons_self
          rw [he] at hok
          cases hok
        | ok e =>
          have hM : ∀ l ∈ M, newline ∉ l := fun l hl =>
            sep_notMem_of_mem_splitOn l (show l ∈ lines t by rw [hL]; simp [hl])
          obtain ⟨hfoundM, hfinalM⟩ := Prod.mk.inj (@outcome_intercalate P M hM)
          have hlt := hn ▸ parseAuthorizedKey_shorter hsome
          have hih := ih _ hlt ([newline].intercalate M) (entries ++ e.toList) rfl
          rw [LineParser.entries, hfoundM, hfinalM] at hih
          have hentry : entryOf unquote pk = e := by rw [entryOf, he]
          refine hih.trans ?_
          cases e <;> simp [hentry, he]

theorem parseAuthorizedKeys_eq_ok (hP : P.Trims) {c : List Rune} {entries : List AuthorizedKeyEntry} :
    parseAuthorizedKeys P unquote c = .ok entries ↔ P.final true (lines c) = true ∧
      (∀ pk ∈ P.found true (lines c), ∃ e, parseEntry unquote pk = .ok e) ∧
      entries = P.entries unquote true (lines c) := parseLoop_spec hP c [] entries

end Meaning

/-! ## 6. Comments and blank lines -/

/-- Blank lines and comments are put between the lines. -/
inductive Padded : List (List Rune) → List (List Rune) → Prop where
  | nil : Padded [] []
  | keep {L M : List (List Rune)} (l : List Rune) (h : Padded L M) : Padded (l :: L) (l :: M)
  | insert {L M : List (List Rune)} {l : List Rune} (hl : Blank Rune.isSpace l ∨ IsComment l)
      (h : Padded L M) : Padded L (l :: M)

/-- The entry a line gives. -/
def LineParser.entry (P : LineParser) (unquote : String → Except String String) (front : Bool)
    (line : List Rune) : Option AuthorizedKeyEntry :=
  (P.reads front line).bind (entryOf unquote)

/-- Blank lines and comments are put between the lines, and each line gives the entry it gave: `f` and
    `g` are whether the old and the new lines start at the front. -/
inductive Undisturbed (P : LineParser) (unquote : String → Except String String) :
    Bool → Bool → List (List Rune) → List (List Rune) → Prop where
  | nil {f g : Bool} : Undisturbed P unquote f g [] []
  | keep {f g : Bool} {L M : List (List Rune)} {l : List Rune}
      (hl : P.entry unquote g l = P.entry unquote f l)
      (h : Undisturbed P unquote (P.after f l) (P.after g l) L M) :
      Undisturbed P unquote f g (l :: L) (l :: M)
  | insert {f g : Bool} {L M : List (List Rune)} {l : List Rune}
      (hl : Blank Rune.isSpace l ∨ IsComment l) (h : Undisturbed P unquote f (P.after g l) L M) :
      Undisturbed P unquote f g L (l :: M)

/-- A comment with nothing but blank lines behind it. -/
def CommentLast (L : List (List Rune)) : Prop :=
  ∃ pre l post, L = pre ++ l :: post ∧ IsComment l ∧ ∀ m ∈ post, Blank Rune.isSpace m

section Padding

variable {P : LineParser} {unquote : String → Except String String} {L M : List (List Rune)}
  {line : List Rune} {f g : Bool}

theorem IsComment.not_blank (h : IsComment line) : ¬Blank Rune.isSpace line := fun hb => by
  rw [IsComment, dropWhile_blank hb] at h
  cases h

theorem reads_padding (h : Blank Rune.isSpace line ∨ IsComment line) : P.reads f line = none := by
  rcases h with h | h
  · exact reads_blank h
  · cases f with
    | false => exact P.comment line h
    | true => exact P.comment _ (by rw [IsComment, if_pos rfl, List.dropWhile_idempotent]; exact h)

theorem after_padding (h : Blank Rune.isSpace line ∨ IsComment line) (hf : P.after f line = true) :
    f = true := by
  unfold LineParser.after at hf
  split_ifs at hf
  · exact hf
  · rw [reads_padding h] at hf
    cases hf

theorem entries_cons : P.entries unquote f (line :: L) =
    (P.entry unquote f line).toList ++ P.entries unquote (P.after f line) L := by
  rw [LineParser.entries, LineParser.found, List.filterMap_append, LineParser.entry]
  cases P.reads f line with
  | none => rfl
  | some pk => cases h : entryOf unquote pk <;> simp [LineParser.entries, h]

/-- What is read behind another line is read at the front as well. -/
theorem reads_mono (hP : P.Trims) (hle : g = true → f = true) {pk : SSHKey}
    (h : P.reads g line = some pk) : P.reads f line = some pk := by
  cases f <;> cases g
  · exact h
  · cases hle rfl
  · exact hP.leading line pk h
  · exact h

theorem after_mono (hP : P.Trims) (hle : g = true → f = true) (h : P.after g line = true) :
    P.after f line = true := by
  unfold LineParser.after at h ⊢
  split_ifs at h ⊢
  · exact hle h
  · obtain ⟨pk, hpk⟩ := Option.isSome_iff_exists.mp h
    rw [reads_mono hP hle hpk]
    rfl

/-- **Padding adds no key**, it can only hide one. -/
theorem Padded.found_sublist (hP : P.Trims) (h : Padded L M) (hle : g = true → f = true) :
    (P.found g M).Sublist (P.found f L) := by
  induction h generalizing f g with
  | nil => exact List.Sublist.refl _
  | keep l _ ih =>
    refine List.Sublist.append ?_ (ih fun h => after_mono hP hle h)
    cases hg : P.reads g l with
    | none => exact List.nil_sublist _
    | some pk => rw [reads_mono hP hle hg]
  | insert hl _ ih =>
    rw [LineParser.found, reads_padding hl]
    exact ih fun h => hle (after_padding hl h)

theorem Undisturbed.entries_eq (h : Undisturbed P unquote f g L M) :
    P.entries unquote g M = P.entries unquote f L := by
  induction h with
  | nil => rfl
  | keep hl _ ih => rw [entries_cons, entries_cons, hl, ih]
  | @insert f g L M l hl _ ih =>
    rw [entries_cons, LineParser.entry, reads_padding hl]
    exact ih

/-- If no entry is lost, each line gives the entry it gave. -/
theorem Padded.undisturbed (hP : P.Trims) (h : Padded L M) (hle : g = true → f = true)
    (heq : P.entries unquote g M = P.entries unquote f L) : Undisturbed P unquote f g L M := by
  induction h generalizing f g with
  | nil => exact .nil
  | @keep L M l h ih =>
    have hle' : P.after g l = true → P.after f l = true := fun h => after_mono hP hle h
    have hlen := ((h.found_sublist hP hle').filterMap (entryOf unquote)).length_le
    have hl : P.entry unquote g l = P.entry unquote f l := by
      cases hg : P.reads g l with
      | some pk => rw [LineParser.entry, LineParser.entry, hg, reads_mono hP hle hg]
      | none =>
        -- an entry that is lost leaves fewer of them
        have hlen' := congrArg List.length heq
        rw [entries_cons, entries_cons, LineParser.entry, hg] at hlen'
        cases he : P.entry unquote f l with
        | none => rw [LineParser.entry, hg]; rfl
        | some e =>
          rw [he] at hlen'
          simp only [LineParser.entries, Option.bind_none, Option.toList, List.length_append,
            List.length_nil, List.length_cons] at hlen'
          omega
    rw [entries_cons, entries_cons, hl] at heq
    exact .keep hl (ih hle' (List.append_cancel_left heq))
  | @insert L M l hl _ ih =>
    rw [entries_cons, LineParser.entry, reads_padding hl] at heq
    exact .insert hl (ih (fun h => hle (after_padding hl h)) heq)

theorem final_blank (h : ∀ l ∈ L, Blank Rune.isSpace l) : P.final f L = f := by
  induction L with
  | nil => rfl
  | cons line L ih =>
    rw [LineParser.final, List.foldl_cons, after_blank (h line List.mem_cons_self)]
    exact ih fun l hl => h l (List.mem_cons_of_mem _ hl)

/-- The last line that is not blank decides. -/
theorem final_last {post : List (List Rune)} (hline : ¬Blank Rune.isSpace line)
    (hpost : ∀ m ∈ post, Blank Rune.isSpace m) :
    P.final f (L ++ line :: post) = (P.reads (P.final f L) line).isSome := by
  rw [final_append, LineParser.final, List.foldl_cons, LineParser.after, if_neg hline]
  exact final_blank hpost

theorem exists_last : (∀ l ∈ L, Blank Rune.isSpace l) ∨ ∃ pre l post, L = pre ++ l :: post ∧
    ¬Blank Rune.isSpace l ∧ ∀ m ∈ post, Blank Rune.isSpace m := by
  induction L with
  | nil => exact .inl fun _ h => nomatch h
  | cons line L ih =>
    rcases ih with h | ⟨pre, l, post, rfl, hl, hpost⟩
    · by_cases hline : Blank Rune.isSpace line
      · exact .inl fun l hl => (List.mem_cons.mp hl).elim (fun e => e ▸ hline) (h l)
      · exact .inr ⟨[], line, L, rfl, hline, h⟩
    · exact .inr ⟨line :: pre, l, post, rfl, hl, hpost⟩

theorem CommentLast.not_final (h : CommentLast L) : P.final f L = false := by
  obtain ⟨pre, l, post, rfl, hl, hpost⟩ := h
  rw [final_last hl.not_blank hpost, reads_padding (.inr hl)]
  rfl

/-- Padding around nothing. -/
theorem padded_nil (h : ∀ l ∈ M, Blank Rune.isSpace l ∨ IsComment l) : Padded [] M := by
  induction M with
  | nil => exact .nil
  | cons l M ih =>
    exact .insert (h l List.mem_cons_self) (ih fun m hm => h m (List.mem_cons_of_mem _ hm))

theorem Padded.old (h : Padded L M) : ∀ l ∈ L, l ∈ M := by
  induction h with
  | nil => exact fun _ h => h
  | keep l _ ih => exact fun m hm => List.mem_cons.mpr ((List.mem_cons.mp hm).imp id (ih m))
  | insert _ _ ih => exact fun m hm => List.mem_cons_of_mem _ (ih m hm)

/-- A line of the padded file is padding, or it is an old line, with old lines behind it. -/
theorem Padded.back {pre post : List (List Rune)} (h : Padded L M) (hM : M = pre ++ line :: post) :
    (Blank Rune.isSpace line ∨ IsComment line) ∨
      ∃ pre' post', L = pre' ++ line :: post' ∧ ∀ m ∈ post', m ∈ post := by
  induction h generalizing pre with
  | nil => simp at hM
  | @keep L M l h ih =>
    cases pre with
    | nil =>
      obtain ⟨rfl, rfl⟩ := List.cons.inj hM
      exact .inr ⟨[], L, rfl, h.old⟩
    | cons p pre =>
      obtain ⟨rfl, rfl⟩ := List.cons.inj hM
      refine (ih rfl).imp id ?_
      rintro ⟨pre', post', rfl, hpost⟩
      exact ⟨l :: pre', post', rfl, hpost⟩
  | @insert L M l hl h ih =>
    cases pre with
    | nil =>
      obtain ⟨rfl, rfl⟩ := List.cons.inj hM
      exact .inl hl
    | cons p pre => exact ih (List.cons.inj hM).2

/-- White space before the line does not hide its key. -/
def LineParser.Shows (P : LineParser) (line : List Rune) : Prop :=
  P.parse (line.dropWhile Rune.isSpace) = P.parse line

theorem LineParser.Shows.reads_eq (h : P.Shows line) : P.reads f line = P.parse line := by
  cases f
  · rfl
  · exact h

theorem Padded.undisturbed_of_shows (h : Padded L M) (hL : ∀ l ∈ L, P.Shows l) :
    Undisturbed P unquote f g L M := by
  induction h generalizing f g with
  | nil => exact .nil
  | keep l _ ih =>
    refine .keep ?_ (ih fun m hm => hL m (List.mem_cons_of_mem _ hm))
    have hl := hL l List.mem_cons_self
    rw [LineParser.entry, LineParser.entry, hl.reads_eq, hl.reads_eq]
  | insert hl _ ih => exact .insert hl (ih hL)

/-- What padding does to the end of a file that ends behind a key. -/
theorem Padded.final_iff (h : Padded L M) (hL : ∀ l ∈ L, P.Shows l) (hfinal : P.final true L = true) :
    P.final true M = true ↔ ¬CommentLast M := by
  refine ⟨fun hM hc => Bool.false_ne_true (hc.not_final.symm.trans hM), fun hc => ?_⟩
  rcases @exists_last M with hblank | ⟨pre, l, post, hM, hl, hpost⟩
  · exact final_blank hblank
  rcases h.back hM with hpad | ⟨pre', post', rfl, hpost'⟩
  · exact absurd ⟨pre, l, post, hM, hpad.resolve_left hl, hpost⟩ hc
  · have hshows := hL l (by simp)
    rw [final_last hl fun m hm => hpost m (hpost' m hm), hshows.reads_eq] at hfinal
    rw [hM, final_last hl hpost, hshows.reads_eq, hfinal]

/-- **Where comments and blank lines matter.** Put anywhere into an accepted file they leave it accepted
    with its entries exactly if the new file ends behind a key and each line gives the entry it gave.
    Unless white space before a line hides its key, that is: exactly if no comment is left behind the
    last key. A file of nothing else is accepted, without entries, unless it holds a comment. -/
theorem where_comments_matter (hP : P.Trims) :
    (∀ c c' entries, Padded (lines c) (lines c') → parseAuthorizedKeys P unquote c = .ok entries →
      (parseAuthorizedKeys P unquote c' = .ok entries ↔
        P.final true (lines c') = true ∧ Undisturbed P unquote true true (lines c) (lines c'))) ∧
    (∀ c c' entries, (∀ l ∈ lines c, P.Shows l) → Padded (lines c) (lines c') →
      parseAuthorizedKeys P unquote c = .ok entries →
        (parseAuthorizedKeys P unquote c' = .ok entries ↔ ¬CommentLast (lines c'))) ∧
    ∀ c, (∀ l ∈ lines c, Blank Rune.isSpace l ∨ IsComment l) →
      (parseAuthorizedKeys P unquote c = .ok [] ↔ ¬∃ l ∈ lines c, IsComment l) := by
  have hgeneral : ∀ c c' entries, Padded (lines c) (lines c') →
      parseAuthorizedKeys P unquote c = .ok entries →
      (parseAuthorizedKeys P unquote c' = .ok entries ↔ P.final true (lines c') = true ∧
        Undisturbed P unquote true true (lines c) (lines c')) := by
    intro c c' entries hp hok
    obtain ⟨-, hentries, rfl⟩ := (parseAuthorizedKeys_eq_ok hP).mp hok
    rw [parseAuthorizedKeys_eq_ok hP]
    refine and_congr_right fun _ => ⟨fun h => hp.undisturbed hP id h.2.symm, fun h => ⟨?_, ?_⟩⟩
    · exact fun pk hpk => hentries pk ((hp.found_sublist hP id).mem hpk)
    · exact h.entries_eq.symm
  refine ⟨hgeneral, fun c c' entries hL hp hok => ?_, fun c hc => ?_⟩
  · have hfinal := ((parseAuthorizedKeys_eq_ok hP).mp hok).1
    rw [hgeneral c c' entries hp hok, ← hp.final_iff hL hfinal]
    exact and_iff_left (hp.undisturbed_of_shows hL)
  · have hp := padded_nil hc
    have hfound : P.found true (lines c) = [] :=
      List.sublist_nil.mp (hp.found_sublist hP (f := true) id)
    rw [parseAuthorizedKeys_eq_ok hP, LineParser.entries, hfound,
      hp.final_iff (fun _ h => nomatch h) rfl]
    constructor
    · rintro ⟨hlast, -⟩ ⟨l, hl, hcomment⟩
      rcases @exists_last (lines c) with hblank | ⟨pre, m, post, heq, hm, hpost⟩
      · exact hcomment.not_blank (hblank l hl)
      · exact hlast ⟨pre, m, post, heq, (hc m (by rw [heq]; simp)).resolve_left hm, hpost⟩
    · refine fun h => ⟨?_, (fun _ h => nomatch h), rfl⟩
      rintro ⟨pre, l, post, heq, hl, -⟩
      exact h ⟨l, by rw [heq]; simp, hl⟩

end Padding

/-- A line that holds an Ed25519 key. -/
def keyLine : List Rune :=
  ("ssh-ed25519 AAAAC3NzaC1lZDI1NTE5AAAAINdamAGCsQq31Uv+08lkBzoO4XLz2qYjJa8CGmj3B1Ea".toList).map .char

/-- The key in it. -/
def keyLineBytes : List UInt8 :=
  [0xd7, 0x5a, 0x98, 0x01, 0x82, 0xb1, 0x0a, 0xb7, 0xd5, 0x4b, 0xfe, 0xd3, 0xc9, 0x64, 0x07, 0x3a,
    0x0e, 0xe1, 0x72, 0xf3, 0xda, 0xa6, 0x23, 0x25, 0xaf, 0x02, 0x1a, 0x68, 0xf7, 0x07, 0x51, 0x1a]

def keyLineKey : SSHKey := ⟨⟨keyAlgoED25519, .ed25519 keyLineBytes⟩, "", []⟩

/-- A parser that knows one line. -/
def keyLineParser : LineParser where
  parse line := if trim Rune.isSpace line = keyLine then some keyLineKey else none
  blank line h := if_neg (by rw [trim, dropWhile_blank h]; decide)
  comment line h := if_neg fun ht => by
    obtain ⟨rest, hrest⟩ := List.rdropWhile_prefix Rune.isSpace (line.dropWhile Rune.isSpace)
    rw [IsComment, ← hrest, ← trim, ht, List.head?_append_of_ne_nil _ (by decide)] at h
    revert h
    decide

theorem keyLineParser_parse {l m : List Rune} (h : trim Rune.isSpace l = trim Rune.isSpace m) :
    keyLineParser.parse l = keyLineParser.parse m := by
  simp only [keyLineParser, h]

theorem keyLineParser_trims : keyLineParser.Trims where
  leading line pk h := by
    rw [← h]
    exact keyLineParser_parse (by rw [trim, List.dropWhile_idempotent, trim])
  trailing line := by
    induction line using List.reverseRecOn with
    | nil => rfl
    | append_singleton line a ih =>
      rw [List.rdropWhile_concat]
      split_ifs with ha
      · exact ih.trans (keyLineParser_parse (trim_concat ha line).symm)
      · rfl

/-- `# c` -/
def commentLine : List Rune := ['#', ' ', 'c'].map .char

/-- The entry of `keyLine`. -/
def keyLineEntry : AuthorizedKeyEntry := ⟨[], ⟨algorithmEd25519, keyLineBytes, ""⟩⟩

/-- The file with the key, and with a comment and a blank line before it. -/
theorem keyLine_read : lines keyLine = [keyLine] ∧
    lines (commentLine ++ newline :: newline :: keyLine) = [commentLine, [], keyLine] ∧
    keyLineParser.final true [keyLine] = true ∧
    keyLineParser.final true [commentLine, [], keyLine] = true ∧
    ∀ front, keyLineParser.reads front keyLine = some keyLineKey := by
  decide +kernel

theorem keyLine_accepted : parseAuthorizedKeys keyLineParser .ok keyLine = .ok [keyLineEntry] := by
  obtain ⟨hlines, -, hfinal, -, hreads⟩ := keyLine_read
  have hfound : keyLineParser.found true [keyLine] = [keyLineKey] := by rw [LineParser.found, hreads]; rfl
  rw [parseAuthorizedKeys_eq_ok keyLineParser_trims, LineParser.entries, hlines, hfound]
  refine ⟨hfinal, fun pk hpk => ⟨some keyLineEntry, ?_⟩, rfl⟩
  rw [List.mem_singleton.mp hpk]
  rfl

/-- A comment and a blank line before the key. -/
theorem where_comments_matter_before :
    parseAuthorizedKeys keyLineParser .ok (commentLine ++ newline :: newline :: keyLine) =
      .ok [keyLineEntry] := by
  obtain ⟨hlines, hbefore, -, hfinal, hreads⟩ := keyLine_read
  refine ((where_comments_matter keyLineParser_trims).1 keyLine _ _ ?_ keyLine_accepted).mpr ?_
  · rw [hlines, hbefore]
    exact .insert (.inr (by decide)) (.insert (.inl blank_nil) (.keep keyLine .nil))
  · rw [hlines, hbefore]
    refine ⟨hfinal, .insert (.inr (by decide)) (.insert (.inl blank_nil) (.keep ?_ .nil))⟩
    simp only [LineParser.entry, hreads]

/-- The key with a comment behind it is refused, and so is a file with nothing but a comment. -/
theorem comment_after_last_key :
    parseAuthorizedKeys keyLineParser .ok keyLine = .ok [keyLineEntry] ∧
      Padded (lines keyLine) (lines (keyLine ++ newline :: commentLine)) ∧
      (∀ entries, parseAuthorizedKeys keyLineParser .ok (keyLine ++ newline :: commentLine) ≠
        .ok entries) ∧
      (∀ l ∈ lines commentLine, Blank Rune.isSpace l ∨ IsComment l) ∧
      ∀ entries, parseAuthorizedKeys keyLineParser .ok commentLine ≠ .ok entries := by
  have hlines : lines (keyLine ++ newline :: commentLine) = [keyLine, commentLine] := by decide +kernel
  refine ⟨keyLine_accepted, ?_, fun entries h => ?_, by decide, fun entries h => ?_⟩
  · rw [hlines, keyLine_read.1]
    exact .keep keyLine (.insert (.inr (by decide)) .nil)
  · exact absurd ((parseAuthorizedKeys_eq_ok keyLineParser_trims).mp h).1 (by decide +kernel)
  · exact absurd ((parseAuthorizedKeys_eq_ok keyLineParser_trims).mp h).1 (by decide +kernel)

end Mygosh.Server

/-
  Mocktail.Runtime.SupportBundle — the log a support bundle carries (`support_bundle.cc`).

  `Collect` reads the last bytes of the log (`readTail`), cuts them into lines and copies the
  first 1024 bytes of every line that carries an allowlisted marker and no forbidden token
  (`sanitizeLog`). The functions work on bytes of any type `α` that `byte` reads, so that the
  same code also runs on bytes that know their offset in the log (`located`): what it then
  copies says where each byte of the bundle comes from (`copied`, `sanitizeLog_copied`).

  As built the tail starts at a byte, not at a line, and its first line is judged by what is
  left of it:
  - `log_private_iff`: no byte of a sensitive line is copied and every copied line starts a
    marked line of the log, exactly when the tail starts at a line or the first line's rest
    is not one the filter lets through.
  - `cut_line_copied`: a log whose line has its forbidden token before the cut.
-/

import Mocktail.Launch.Json
import Mocktail.Lib.Lines

namespace Mocktail.Runtime

open Mocktail.Lib Mocktail.Launch

/-! ## Reading the log -/

/-- `ReadTail` gets nothing from a log it cannot open, stat, seek or read. -/
inductive LogFile (α : Type) where
  | unreadable
  | regular (contents : List α)

section
variable {α : Type}

/-- The loop of reads: `sizes` are what the reads return, as far as the buffer and the limit
    allow; a read returns 0 bytes only at the end of the file. -/
def readLoop (maximum : Nat) : List Nat → List α → List α → List α
  | [], contents, rest => contents ++ rest.take (maximum - contents.length)
  | size :: sizes, contents, rest =>
    if contents.length < maximum ∧ rest ≠ [] then
      let bytes := min (max 1 size) (min (16 * 1024) (maximum - contents.length))
      readLoop maximum sizes (contents ++ rest.take bytes) (rest.drop bytes)
    else contents

def readTail (maximum : Nat) (sizes : List Nat) : LogFile α → List α
  | .unreadable => []
  | .regular contents => readLoop maximum sizes [] (contents.drop (contents.length - maximum))

theorem readLoop_eq (maximum : Nat) (sizes : List Nat) (contents rest : List α) (h : contents.length ≤ maximum) :
    readLoop maximum sizes contents rest = contents ++ rest.take (maximum - contents.length) := by
  induction sizes generalizing contents rest with
  | nil => rfl
  | cons size sizes ih =>
    rw [readLoop]
    split
    · rename_i hmore
      dsimp only
      generalize hb : min (max 1 size) (min (16 * 1024) (maximum - contents.length)) = bytes
      have hle : bytes ≤ maximum - contents.length := by omega
      rw [ih _ _ (by simp; omega), List.append_assoc]
      congr 1
      by_cases hlen : bytes ≤ rest.length
      · have hm : maximum - (contents ++ rest.take bytes).length = maximum - contents.length - bytes := by
          simp
          omega
        rw [hm, List.take_drop, ← List.take_append_drop bytes (rest.take (maximum - contents.length)), List.take_take,
          List.drop_take, Nat.min_eq_left hle]
        simp [List.take_drop, Nat.add_sub_cancel' hle]
      · rw [List.drop_eq_nil_of_le (by omega), List.take_of_length_le (by omega), List.take_nil, List.append_nil,
          List.take_of_length_le (by omega)]
    · rename_i hdone
      by_cases hlen : contents.length < maximum
      · have hnil : rest = [] := by
          by_contra hne
          exact hdone ⟨hlen, hne⟩
        simp [hnil]
      · simp [Nat.sub_eq_zero_of_le (Nat.le_of_not_lt hlen)]

theorem readTail_regular (maximum : Nat) (sizes : List Nat) (contents : List α) :
    readTail maximum sizes (.regular contents) = contents.drop (contents.length - maximum) := by
  rw [readTail, readLoop_eq _ _ _ _ (Nat.zero_le _)]
  simp only [List.nil_append, List.length_nil, Nat.sub_zero]
  apply List.take_of_length_le
  simp
  omega

end

/-- `MaximumLogBytes`: the limit MOCKTAIL_SUPPORT_MAX_LOG_BYTES sets, if it is a sane one. -/
def maximumLogBytes : Option Text → Nat
  | none => 256 * 1024
  | some value =>
    let rec parse (parsed : Nat) : Text → Option Nat
      | [] => some parsed
      | character :: rest =>
        if !(48 ≤ character.toNat && character.toNat ≤ 57) || parsed > 1048576 then none
        else parse (parsed * 10 + (character.toNat - 48)) rest
    match parse 0 value with
    | some parsed => if 1000 ≤ parsed ∧ parsed ≤ 1048576 then parsed else 256 * 1024
    | none => 256 * 1024

/-! ## The filter -/

/-- `line.find(token) != npos`. -/
def found (token line : Text) : Bool := line.tails.any fun rest => token.isPrefixOf rest

def kAllowlistedMarkers : List Text :=
  [ascii "[FATAL]", ascii "[compat]", ascii "[window] first Roblox Vulkan frame presented", ascii "[vulkan]",
    ascii "[mocktail][audio]", ascii "[input]", ascii "[lifecycle]", ascii "[main] Roblox lifecycle shutdown: Stopped",
    ascii "setStage:", ascii "JNI_OnLoad", ascii "RenderView created", ascii "RenderView destroyed",
    ascii "[native-updater]", ascii "Segmentation fault", ascii "core dumped"]

def forbiddenTokens : List Text :=
  [ascii ".ROBLOSECURITY", ascii "Authorization:", ascii "authenticationTicket", ascii "http://", ascii "https://"]

def sensitive (line : Text) : Bool := forbiddenTokens.any fun token => found token line

def marked (line : Text) : Bool := kAllowlistedMarkers.any fun marker => found marker line

def safeLogLine (line : Text) : Bool := if sensitive line then false else marked line

def newline : UInt8 := 10

section
variable {α : Type} (byte : α → UInt8)

def isNewline (a : α) : Bool := byte a == newline

/-- The loop of `SanitizeLog`: the lines it appends. -/
def sanitizeLoop : Nat → List α → List (List α)
  | 0, _ => []
  | fuel + 1, raw =>
    if raw.isEmpty then []
    else
      let line := firstLine (isNewline byte) raw
      let rest := sanitizeLoop fuel (afterLine (isNewline byte) raw)
      if safeLogLine (line.map byte) then (if line.length > 1024 then line.take 1024 else line) :: rest else rest

def sanitizeLines (raw : List α) : List (List α) := sanitizeLoop byte raw.length raw

end

def sanitizeLog (raw : Text) : Text := (sanitizeLines id raw).flatMap fun line => line ++ [newline]

/-! ## Where the copied bytes come from -/

/-- The bytes of a log with their offsets. -/
def located (log : Text) : List (UInt8 × Nat) := log.zipIdx

/-- The lines `Collect` copies, with the offsets of their bytes. -/
def copied (maximum : Nat) (sizes : List Nat) (log : Text) : List (List (UInt8 × Nat)) :=
  sanitizeLines Prod.fst (readTail maximum sizes (.regular (located log)))

def bytes (line : List (UInt8 × Nat)) : Text := line.map Prod.fst

theorem located_nodup (log : Text) : (located log).Nodup := by
  apply List.Nodup.of_map Prod.snd
  simpa [located] using List.nodup_range'

section
variable {α : Type} {byte : α → UInt8}

theorem length_afterLine_lt {sep : α → Bool} {raw : List α} (h : raw ≠ []) : (afterLine sep raw).length < raw.length := by
  have hpos := List.length_pos_iff.mpr h
  simp only [afterLine, List.length_drop]
  omega

theorem sanitizeLoop_eq (fuel : Nat) (raw : List α) (h : raw.length ≤ fuel) :
    sanitizeLoop byte fuel raw =
      ((lines (isNewline byte) raw).filter fun line => safeLogLine (line.map byte)).map (List.take 1024) := by
  induction fuel generalizing raw with
  | zero =>
    rw [List.length_eq_zero_iff.mp (Nat.le_zero.mp h)]
    rfl
  | succ fuel ih =>
    rw [sanitizeLoop]
    split
    · rename_i hnil
      rw [List.isEmpty_iff.mp hnil]
      rfl
    · rename_i hne
      have hraw : raw ≠ [] := fun hnil => hne (by rw [hnil]; rfl)
      have hafter := @length_afterLine_lt _ (isNewline byte) _ hraw
      have htake : ∀ line : List α, (if line.length > 1024 then line.take 1024 else line) = line.take 1024 := by
        intro line
        split
        · rfl
        · rw [List.take_of_length_le (by omega)]
      dsimp only
      rw [lines_eq_firstLine hraw, ih _ (by omega), htake]
      by_cases hsafe : safeLogLine ((firstLine (isNewline byte) raw).map byte) = true
      · rw [if_pos hsafe]
        simp [hsafe]
      · rw [if_neg hsafe]
        simp [hsafe]

theorem sanitizeLines_eq (raw : List α) :
    sanitizeLines byte raw =
      ((lines (isNewline byte) raw).filter fun line => safeLogLine (line.map byte)).map (List.take 1024) :=
  sanitizeLoop_eq raw.length raw (Nat.le_refl _)

theorem mem_sanitizeLines {raw out : List α} :
    out ∈ sanitizeLines byte raw ↔
      ∃ line ∈ lines (isNewline byte) raw, safeLogLine (line.map byte) = true ∧ line.take 1024 = out := by
  rw [sanitizeLines_eq]
  simp [and_assoc]

theorem sanitizeLines_map (raw : List α) :
    sanitizeLines id (raw.map byte) = (sanitizeLines byte raw).map (List.map byte) := by
  rw [sanitizeLines_eq, sanitizeLines_eq, lines_map]
  simp only [List.filter_map, List.map_map]
  congr 1
  · funext line
    simp
  · congr 1
    funext line
    simp

end

theorem sanitizeLog_copied (maximum : Nat) (sizes : List Nat) (log : Text) :
    sanitizeLog (readTail maximum sizes (.regular log)) =
      (copied maximum sizes log).flatMap fun line => bytes line ++ [newline] := by
  have htail : readTail maximum sizes (.regular log) =
      (readTail maximum sizes (.regular (located log))).map Prod.fst := by
    simp [readTail_regular, located, List.map_drop]
  rw [sanitizeLog, htail, sanitizeLines_map, copied, List.flatMap_map]
  rfl

/-! ## Privacy -/

/-- The lines of the log, with the offsets of their bytes. -/
def logLines (log : Text) : List (List (UInt8 × Nat)) := lines (isNewline Prod.fst) (located log)

/-- What a bundle promises about a log. -/
structure Private (maximum : Nat) (sizes : List Nat) (log : Text) : Prop where
  text : sanitizeLog (readTail maximum sizes (.regular log)) =
    (copied maximum sizes log).flatMap fun line => bytes line ++ [newline]
  hidden : ∀ line ∈ logLines log, sensitive (bytes line) = true →
    ∀ b ∈ line, ∀ out ∈ copied maximum sizes log, b ∉ out
  complete : ∀ out ∈ copied maximum sizes log,
    out.length ≤ 1024 ∧ ∃ line ∈ logLines log, out <+: line ∧ marked (bytes line) = true

/-- Whether an offset is the start of a line. -/
def atLineStart (log : Text) (start : Nat) : Bool := start == 0 || log[start - 1]? == some newline

variable {line log : Text}

theorem safe_iff : safeLogLine line = true ↔ sensitive line = false ∧ marked line = true := by
  unfold safeLogLine
  cases sensitive line <;> simp

variable {sizes : List Nat}

/-- Copies of safe lines of the log, cut short, are private. -/
theorem private_of_lines {maximum : Nat}
    (h : ∀ out ∈ copied maximum sizes log, ∃ line ∈ logLines log,
      safeLogLine (bytes line) = true ∧ line.take 1024 = out) : Private maximum sizes log := by
  refine ⟨sanitizeLog_copied maximum sizes log, ?_, ?_⟩
  · intro line hline hsensitive b hb out hout hbout
    obtain ⟨source, hsource, hsafe, rfl⟩ := h out hout
    have heq := line_unique (located_nodup log) hline hsource hb (List.mem_of_mem_take hbout)
    rw [safe_iff, ← heq, hsensitive] at hsafe
    cases hsafe.1
  · intro out hout
    obtain ⟨source, hsource, hsafe, rfl⟩ := h out hout
    refine ⟨List.length_take_le _ _, source, hsource, List.take_prefix _ _, (safe_iff.mp hsafe).2⟩

theorem breaks_iff (log : Text) {start : Nat} (h : start ≤ log.length) :
    Breaks (isNewline Prod.fst) ((located log).take start) ↔ atLineStart log start = true := by
  cases start with
  | zero => simp [Breaks, atLineStart]
  | succ n =>
    have hlen : n < (located log).length := by
      rw [located, List.length_zipIdx]
      exact h
    have htake : (located log).take (n + 1) = (located log).take n ++ [(log.get ⟨n, h⟩, n)] := by
      rw [List.take_succ_eq_append_getElem hlen]
      simp [located]
    have hget : log[n]? = some (log.get ⟨n, h⟩) := by simp
    rw [htake]
    simp only [atLineStart, Nat.add_sub_cancel, hget, Nat.add_one_ne_zero, beq_iff_eq, Bool.or_eq_true, false_or,
      Option.some.injEq]
    constructor
    · intro hb
      rcases hb with hnil | ⟨p, a, hpa, ha⟩
      · simp at hnil
      · have := (List.append_inj' hpa rfl).2
        simp only [List.cons.injEq, and_true] at this
        subst this
        simpa [isNewline] using ha
    · intro hnl
      exact .inr ⟨_, _, rfl, by simpa [isNewline] using hnl⟩

/-- The offset the tail starts at. -/
def tailStart (maximum : Nat) (log : Text) : Nat := log.length - maximum

theorem tailStart_le (maximum : Nat) (log : Text) : tailStart maximum log ≤ log.length := Nat.sub_le _ _

theorem mem_copied {maximum : Nat} {out : List (UInt8 × Nat)} :
    out ∈ copied maximum sizes log ↔
      ∃ line ∈ lines (isNewline Prod.fst) ((located log).drop (tailStart maximum log)),
        safeLogLine (bytes line) = true ∧ line.take 1024 = out := by
  rw [copied, mem_sanitizeLines, readTail_regular]
  simp [tailStart, bytes, located]

/-- What is left of the first line of the tail. -/
def firstRest (maximum : Nat) (log : Text) : List (UInt8 × Nat) :=
  firstLine (isNewline Prod.fst) ((located log).drop (tailStart maximum log))

theorem bytes_firstRest (maximum : Nat) (log : Text) :
    bytes (firstRest maximum log) = firstLine (isNewline id) (log.drop (tailStart maximum log)) := by
  have hmap : log.drop (tailStart maximum log) = ((located log).drop (tailStart maximum log)).map Prod.fst := by
    simp [located, List.map_drop]
  rw [firstRest, hmap, bytes, firstLine, firstLine, List.takeWhile_map]
  rfl

theorem marked_ne_nil (h : marked line = true) : line ≠ [] := by
  intro hnil
  subst hnil
  exact absurd h (by decide)

/-- A tail that starts within a line copies what is left of it, and that is not private. -/
theorem cut_not_private {maximum : Nat}
    (hstart : atLineStart log (tailStart maximum log) = false)
    (hsafe : safeLogLine (bytes (firstRest maximum log)) = true) : ¬ Private maximum sizes log := by
  intro hp
  have hcut : ¬ Breaks (isNewline Prod.fst) ((located log).take (tailStart maximum log)) := by
    rw [breaks_iff log (tailStart_le maximum log), hstart]
    decide
  have hne : firstRest maximum log ≠ [] := by
    intro hnil
    exact marked_ne_nil (safe_iff.mp hsafe).2 (by rw [hnil]; rfl)
  have htail : (located log).drop (tailStart maximum log) ≠ [] := by
    intro hnil
    exact hne (by rw [firstRest, hnil]; rfl)
  obtain ⟨b, rest, hfirst⟩ := List.exists_cons_of_ne_nil hne
  obtain ⟨p, q, hpq, hq, hlines⟩ :=
    lines_append_within hcut ((located log).drop (tailStart maximum log))
  rw [List.take_append_drop] at hlines
  have hout : (firstRest maximum log).take 1024 ∈ copied maximum sizes log := by
    refine mem_copied.mpr ⟨firstRest maximum log, ?_, hsafe, rfl⟩
    rw [lines_eq_firstLine htail]
    exact List.mem_cons_self ..
  obtain ⟨-, line, hline, hbegins, -⟩ := hp.complete _ hout
  -- the copy is a front of some line, and its first byte is in the line that was cut
  have hmem : q ++ firstRest maximum log ∈ logLines log := by
    rw [logLines, hlines]
    exact List.mem_append_right _ (List.mem_cons_self ..)
  rw [hfirst, List.take_succ_cons] at hbegins
  obtain ⟨more, rfl⟩ := hbegins
  have heq := line_unique (located_nodup log) hline hmem (a := b) (by simp) (by simp [hfirst])
  -- so the cut line starts with that byte, which also comes after `q`
  obtain ⟨c, q', rfl⟩ := List.exists_cons_of_ne_nil hq
  have hnd : (c :: q' ++ firstRest maximum log).Nodup :=
    ((List.nodup_flatten.mp ((@flatten_lines_sublist _ (isNewline Prod.fst) (located log)).nodup (located_nodup log))).1 _ hmem)
  rw [hfirst] at heq hnd
  simp only [List.cons_append, List.cons.injEq] at heq
  obtain ⟨rfl, -⟩ := heq
  simp at hnd

theorem log_private_iff (maximum : Nat) (sizes : List Nat) (log : Text) :
    Private maximum sizes log ↔
      atLineStart log (log.length - maximum) = true ∨
        safeLogLine (firstLine (isNewline id) (log.drop (log.length - maximum))) = false := by
  have hfirst := bytes_firstRest maximum log
  rw [tailStart] at hfirst
  rw [← hfirst]
  constructor
  · intro hp
    cases hstart : atLineStart log (log.length - maximum) with
    | true => exact .inl rfl
    | false =>
      refine .inr ?_
      cases hsafe : safeLogLine (bytes (firstRest maximum log)) with
      | false => rfl
      | true => exact absurd hp (cut_not_private hstart hsafe)
  · intro hok
    apply private_of_lines
    intro out hout
    obtain ⟨line, hline, hsafe, rfl⟩ := mem_copied.mp hout
    refine ⟨line, ?_, hsafe, rfl⟩
    have hlog := List.take_append_drop (tailStart maximum log) (located log)
    by_cases hbreak : Breaks (isNewline Prod.fst) ((located log).take (tailStart maximum log))
    · have hlines := lines_append_of_break hbreak ((located log).drop (tailStart maximum log))
      rw [hlog] at hlines
      rw [logLines, hlines]
      exact List.mem_append_right _ hline
    · have hrefused : safeLogLine (bytes (firstRest maximum log)) = false := by
        rcases hok with hstart | hrefused
        · exact absurd ((breaks_iff log (tailStart_le maximum log)).mpr hstart) hbreak
        · exact hrefused
      have htail : (located log).drop (tailStart maximum log) ≠ [] := by
        intro hnil
        rw [hnil] at hline
        simp [lines] at hline
      obtain ⟨p, q, -, -, hlines⟩ := lines_append_within hbreak ((located log).drop (tailStart maximum log))
      rw [hlog] at hlines
      rw [lines_eq_firstLine htail] at hline
      rw [logLines, hlines]
      -- the rest of the cut line is not copied, the others are lines of the log
      rcases List.mem_cons.mp hline with rfl | hline
      · rw [firstRest] at hrefused
        rw [hrefused] at hsafe
        cases hsafe
      · exact List.mem_append_right _ (List.mem_cons_of_mem _ hline)

/-- One line of a log of 1015 bytes, of which the last 1000 are read. -/
def secretLog : Text := ascii "Authorization: [input] " ++ List.replicate 991 120 ++ [newline]

theorem cut_line_copied :
    maximumLogBytes (some (ascii "1000")) = 1000 ∧
      sanitizeLog (readTail 1000 [] (.regular secretLog)) = ascii "[input] " ++ List.replicate 991 120 ++ [newline] ∧
      ¬ Private 1000 [] secretLog := by
  refine ⟨by decide, ?_, ?_⟩
  · decide +kernel
  · apply cut_not_private
    · decide +kernel
    · rw [bytes_firstRest]
      decide +kernel

end Mocktail.Runtime

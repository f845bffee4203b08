/-
  Mocktail.Update.DownloadTransfers — what one transfer of a download does.

  A server has representations over time, and each strong ETag of the URL names one of them.
  Its answers are `Honest`: a body comes from one representation, whole once the transfer
  succeeds, and a partial answer to a conditional request from the one that the ETag names.

  `perform_transferred` says once what the two callbacks do with an answer: the header lines
  write the side file at most, and a body is only taken from a block that has been checked
  (`Admitted`), from its start on.
-/

import Mocktail.Update.HttpDownload

namespace Mocktail.Update

open Mocktail.Lib Mocktail.Launch

/-! ## Servers -/

structure Server where
  serves : Bytes → Prop
  /-- What a strong ETag of the URL stands for. -/
  tagged : Text → Bytes

def HeaderBlock.delivers (block : HeaderBlock) : Prop := block.status = 200 ∨ block.status = 206

instance (block : HeaderBlock) : Decidable block.delivers := inferInstanceAs (Decidable (_ ∨ _))

/-- Only trailers follow a block that delivers a body. -/
def OneFinal : HeaderBlock → List Text → Prop
  | _, [] => True
  | block, line :: lines =>
    (statusLine line = false → blankLine line = true → block.delivers →
      ∀ later ∈ lines, statusLine later = false ∧ blankLine later = false) ∧ OneFinal (block.read line) lines

instance decidableOneFinal : (block : HeaderBlock) → (lines : List Text) → Decidable (OneFinal block lines)
  | _, [] => .isTrue trivial
  | block, line :: lines =>
    have := decidableOneFinal (block.read line) lines
    inferInstanceAs (Decidable (_ ∧ _))

def Answer.block (answer : Answer) : HeaderBlock := answer.lines.foldl HeaderBlock.read {}

def Answer.body (answer : Answer) : Bytes := answer.chunks.flatten

structure Honest (server : Server) (offset : Nat) (etag : Text) (answer : Answer) : Prop where
  final : OneFinal {} answer.lines
  ended : answer.code = .ok → answer.block.complete = true
  served : answer.block.delivers → server.serves answer.representation
  whole : answer.block.status = 200 →
    answer.body <+: answer.representation ∧ (answer.code = .ok → answer.body = answer.representation)
  ranged : answer.block.status = 206 → ∀ first last total rest,
    rangeValues answer.block.range = some ((first, last, total), rest) →
      total = answer.representation.length ∧
        answer.body <+: (answer.representation.drop first).take (last + 1 - first) ∧
        (answer.code = .ok → answer.body = (answer.representation.drop first).take (last + 1 - first))
  tagged : answer.block.delivers → strongEtag answer.block.etag = true →
    answer.representation = server.tagged answer.block.etag
  conditional : answer.block.status = 206 → 0 < offset → answer.representation = server.tagged etag

/-! ## Header lines -/

/-- What the request fixes. -/
def DownloadHeaders.asked (headers : DownloadHeaders) : Text × Text × Nat × Nat :=
  (headers.expectedEtag, headers.url, headers.offset, headers.maximum)

/-- The range that a partial answer announces is the rest of the file. -/
def RangeOk (headers : DownloadHeaders) (total : Nat) : Prop :=
  rangeValues headers.range = some ((headers.offset, total - 1, total), []) ∧ headers.offset < total ∧ total ≤ headers.maximum

theorem checkRange_frame (headers : DownloadHeaders) :
    (checkRange headers).1.toHeaderBlock = headers.toHeaderBlock ∧ (checkRange headers).1.asked = headers.asked := by
  unfold checkRange readRange
  split
  · split
    · exact ⟨rfl, rfl⟩
    · exact ⟨rfl, rfl⟩
  · exact ⟨rfl, rfl⟩

variable {headers : DownloadHeaders}

theorem checkRange_ok (h : (checkRange headers).2 = true) (hstatus : headers.status = 206) :
    RangeOk headers (checkRange headers).1.total := by
  unfold checkRange readRange at h ⊢
  rw [if_pos hstatus] at h ⊢
  split at h
  · cases h
  · rename_i first last total rest heq
    simp only [Bool.and_eq_true, List.isEmpty_iff, beq_iff_eq, decide_eq_true_eq] at h
    obtain ⟨⟨⟨⟨⟨hrest, hfirst⟩, hle⟩, hlt⟩, hlast⟩, htotal⟩ := h
    subst hrest hfirst
    exact ⟨by rw [heq, hlast], by dsimp only; omega, htotal⟩

theorem recordEtag_cases (write : SideWrite) (headers : DownloadHeaders) :
    (recordEtag write headers).1.toHeaderBlock = headers.toHeaderBlock ∧
      (recordEtag write headers).1.asked = headers.asked ∧
      (recordEtag write headers).1.total = headers.total ∧
      ((recordEtag write headers).2.1 = [] ∨
        headers.offset = 0 ∧ (recordEtag write headers).2.1 = [.writeSide ⟨headers.url, headers.etag⟩]) ∧
      ((recordEtag write headers).2.2 = true →
        (headers.offset = 0 → strongEtag headers.etag = true →
          (recordEtag write headers).2.1 = [.writeSide ⟨headers.url, headers.etag⟩]) ∧
        (strongEtag headers.etag = false → (recordEtag write headers).2.1 = [])) := by
  unfold recordEtag
  split
  · rename_i hwrite
    cases write with
    | written =>
      exact ⟨rfl, rfl, rfl, .inr ⟨hwrite.1, rfl⟩, fun _ => ⟨fun _ _ => rfl, fun h => by rw [h] at hwrite; cases hwrite.2⟩⟩
    | refused => exact ⟨rfl, rfl, rfl, .inl rfl, fun h => by cases h⟩
    | unsynced => exact ⟨rfl, rfl, rfl, .inr ⟨hwrite.1, rfl⟩, fun h => by cases h⟩
  · rename_i hwrite
    exact ⟨rfl, rfl, rfl, .inl rfl, fun _ => ⟨fun h0 hs => absurd ⟨h0, hs⟩ hwrite, fun _ => rfl⟩⟩

/-- What a block that delivers a body has been checked for, and what has been written down. -/
structure Admitted (headers : DownloadHeaders) (effects : List DownloadEffect) : Prop where
  resumed : 0 < headers.offset → headers.status = 206
  range : headers.status = 206 → RangeOk headers headers.total
  recorded : headers.offset = 0 → strongEtag headers.etag = true → effects = [.writeSide ⟨headers.url, headers.etag⟩]
  unrecorded : strongEtag headers.etag = false → effects = []

theorem endBlock_cases (write : SideWrite) (headers : DownloadHeaders) :
    (endBlock write headers).1.toHeaderBlock = headers.toHeaderBlock ∧
      (endBlock write headers).1.asked = headers.asked ∧
      ((endBlock write headers).2.1 = [] ∨
        headers.offset = 0 ∧ ∃ etag, (endBlock write headers).2.1 = [.writeSide ⟨headers.url, etag⟩]) ∧
      ((endBlock write headers).2.2 = true →
        (headers.delivers → Admitted (endBlock write headers).1 (endBlock write headers).2.1) ∧
        (¬ headers.delivers → (endBlock write headers).2.1 = [])) := by
  obtain ⟨hblock, hasked⟩ := checkRange_frame headers
  obtain ⟨hblock', hasked', htotal, heffects, hrecord⟩ := recordEtag_cases write (checkRange headers).1
  have hurl : (checkRange headers).1.url = headers.url := congrArg (·.2.1) hasked
  have hoffset : (checkRange headers).1.offset = headers.offset := congrArg (·.2.2.1) hasked
  have hetag : (checkRange headers).1.etag = headers.etag := congrArg HeaderBlock.etag hblock
  unfold endBlock
  split
  · exact ⟨rfl, rfl, .inl rfl, fun h => by cases h⟩
  · rename_i hresume
    split
    · rename_i hother
      refine ⟨rfl, rfl, .inl rfl, fun _ => ⟨?_, fun _ => rfl⟩⟩
      intro hdelivers
      rcases hdelivers with h | h
      · exact absurd h hother.1
      · exact absurd h hother.2
    · rename_i hdelivers
      split
      · exact ⟨rfl, rfl, .inl rfl, fun h => by cases h⟩
      · split
        · exact ⟨hblock, hasked, .inl rfl, fun h => by cases h⟩
        · rename_i hrange
          have hchecked : (checkRange headers).2 = true := by
            by_contra hne
            exact hrange (.inl (by simpa using hne))
          refine ⟨hblock'.trans hblock, hasked'.trans hasked, ?_, ?_⟩
          · rcases heffects with h | ⟨h0, h⟩
            · exact .inl h
            · rw [hurl] at h
              exact .inr ⟨hoffset ▸ h0, _, h⟩
          · intro hgo
            obtain ⟨hstrong, hweak⟩ := hrecord hgo
            obtain ⟨hout, houtAsked⟩ := And.intro (hblock'.trans hblock) (hasked'.trans hasked)
            rw [hurl, hoffset, hetag] at hstrong
            rw [hetag] at hweak
            generalize recordEtag write (checkRange headers).1 = out at *
            have houtUrl : out.1.url = headers.url := congrArg (·.2.1) houtAsked
            have houtOffset : out.1.offset = headers.offset := congrArg (·.2.2.1) houtAsked
            have houtMaximum : out.1.maximum = headers.maximum := congrArg (·.2.2.2) houtAsked
            refine ⟨fun _ => ⟨?_, ?_, ?_, ?_⟩, fun hnot => ?_⟩
            · rw [hout, houtOffset]
              intro hpos
              by_contra hne
              exact hdelivers ⟨fun h200 => hresume ⟨hpos, .inl h200⟩, hne⟩
            · rw [hout]
              intro hstatus
              have := checkRange_ok hchecked hstatus
              unfold RangeOk at this ⊢
              rw [hout, houtOffset, houtMaximum, htotal]
              exact this
            · rw [hout, houtOffset, houtUrl]
              exact hstrong
            · rw [hout]
              exact hweak
            · exfalso
              apply hnot
              by_contra hneither
              exact hdelivers ⟨fun h => hneither (.inl h), fun h => hneither (.inr h)⟩

theorem readDownloadHeaders_cases (write : SideWrite) (headers : DownloadHeaders) (line : Text) :
    (readDownloadHeaders write headers line).1.toHeaderBlock = headers.toHeaderBlock.read line ∧
      (readDownloadHeaders write headers line).1.asked = headers.asked ∧
      ((readDownloadHeaders write headers line).2.1 = [] ∨
        headers.offset = 0 ∧ ∃ etag, (readDownloadHeaders write headers line).2.1 = [.writeSide ⟨headers.url, etag⟩]) ∧
      ((readDownloadHeaders write headers line).2.2 = true →
        (headers.toHeaderBlock.read line).delivers → statusLine line = false → blankLine line = true →
          Admitted (readDownloadHeaders write headers line).1 (readDownloadHeaders write headers line).2.1) ∧
      ((readDownloadHeaders write headers line).2.2 = true →
        ¬ (statusLine line = false ∧ blankLine line = true ∧ (headers.toHeaderBlock.read line).delivers) →
          (readDownloadHeaders write headers line).2.1 = []) := by
  unfold readDownloadHeaders
  dsimp only
  split
  · rename_i hend
    obtain ⟨hblock, hasked, heffects, hgo⟩ :=
      endBlock_cases write { headers with toHeaderBlock := headers.toHeaderBlock.read line }
    refine ⟨hblock, hasked, heffects, ?_, ?_⟩
    · intro h hdelivers _ _
      exact (hgo h).1 hdelivers
    · intro h hnot
      exact (hgo h).2 fun hdelivers => hnot ⟨hend.1, hend.2, hdelivers⟩
  · rename_i hend
    refine ⟨rfl, rfl, .inl rfl, ?_, fun _ _ => rfl⟩
    intro _ _ hstatus hblank
    exact absurd ⟨hstatus, hblank⟩ hend

theorem readLines_cons_stop {write : SideWrite} {line : Text} (lines : List Text)
    (h : (readDownloadHeaders write headers line).2.2 = false) :
    readLines write headers (line :: lines) = readDownloadHeaders write headers line := by
  rw [readLines]
  generalize readDownloadHeaders write headers line = r at h ⊢
  obtain ⟨next, effects, go⟩ := r
  dsimp only at h
  subst h
  rfl

theorem readLines_cons_go {write : SideWrite} {line : Text} (lines : List Text)
    (h : (readDownloadHeaders write headers line).2.2 = true) :
    readLines write headers (line :: lines) =
      ((readLines write (readDownloadHeaders write headers line).1 lines).1,
        (readDownloadHeaders write headers line).2.1 ++ (readLines write (readDownloadHeaders write headers line).1 lines).2.1,
        (readLines write (readDownloadHeaders write headers line).1 lines).2.2) := by
  rw [readLines]
  generalize readDownloadHeaders write headers line = r at h ⊢
  obtain ⟨next, effects, go⟩ := r
  dsimp only at h
  subst h
  rfl

/-- Header lines write the side file only, and only for a download from the start. -/
theorem readLines_effects (write : SideWrite) (headers : DownloadHeaders) (lines : List Text) :
    ∀ e ∈ (readLines write headers lines).2.1, headers.offset = 0 ∧ ∃ etag, e = .writeSide ⟨headers.url, etag⟩ := by
  induction lines generalizing headers with
  | nil =>
    intro e he
    cases he
  | cons line lines ih =>
    obtain ⟨-, hasked, heffects, -⟩ := readDownloadHeaders_cases write headers line
    have hurl : (readDownloadHeaders write headers line).1.url = headers.url := congrArg (·.2.1) hasked
    have hoffset : (readDownloadHeaders write headers line).1.offset = headers.offset := congrArg (·.2.2.1) hasked
    have hown : ∀ e ∈ (readDownloadHeaders write headers line).2.1,
        headers.offset = 0 ∧ ∃ etag, e = .writeSide ⟨headers.url, etag⟩ := by
      intro e he
      rcases heffects with h | ⟨h0, etag, h⟩
      · rw [h] at he
        cases he
      · rw [h] at he
        exact ⟨h0, etag, List.mem_singleton.mp he⟩
    intro e he
    cases hgo : (readDownloadHeaders write headers line).2.2 with
    | false =>
      rw [readLines_cons_stop lines hgo] at he
      exact hown e he
    | true =>
      rw [readLines_cons_go lines hgo] at he
      rcases List.mem_append.mp he with he | he
      · exact hown e he
      · have := ih _ e he
        rwa [hurl, hoffset] at this

section
variable {status : Int} {maximum : Nat} {hashing digestUpdates : Bool}

end

/-! ## A transfer -/

/-- What a transfer has done: what its header lines wrote, and the bytes it appended. -/
structure Transferred (request : HttpTransferRequest) (existing : Nat) (etag : Text) (env : Surroundings) (done : Performed)
    (heads : List DownloadEffect) (bytes : Bytes) : Prop where
  sideOnly : ∀ e ∈ heads, existing = 0 ∧ ∃ tag, e = .writeSide ⟨request.url, tag⟩
  asked : done.response.asked = (etag, request.url, existing, request.maximumBytes)
  body : bytes <+: env.answer.body
  delivered : bytes ≠ [] →
    done.response.toHeaderBlock = env.answer.block ∧ done.response.delivers ∧ Admitted done.response heads
  finished : done.code = .ok → done.response.delivers →
    done.response.toHeaderBlock = env.answer.block ∧ Admitted done.response heads ∧ env.answer.code = .ok ∧
      bytes = env.answer.body ∧ done.writer.written = existing + bytes.length ∧
      (existing ≤ request.maximumBytes → existing + bytes.length ≤ request.maximumBytes) ∧
      (existing = 0 → done.writer.hashed = bytes)

end Mocktail.Update

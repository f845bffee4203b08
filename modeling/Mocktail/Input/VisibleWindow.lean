/-
  Mocktail.Input.VisibleWindow — the part of the text that is rasterised
  (`VisibleTextWindow` in src/runtime/roblox_text_surface_overlay.cc).

  A text of more than 4096 bytes is cut to a window around the caret: centred, moved back at
  the end of the text, and then rounded inwards to code points, `windowBegin` to the next
  boundary and `windowEnd` to the one before. The caret of a built presentation is a boundary
  between both, so no rounding passes it (`visibleTextWindow_faithful`).
-/

import Mocktail.Input.OverlayRuns

namespace Mocktail.Input

open Mocktail.Lib Mocktail.Lib.Utf8

def kMaximumRasterTextBytes : Nat := 4096

def isUtf8Continuation (value : UInt8) : Bool := value &&& 0xC0 == 0x80

/-- What `VisibleTextWindow` returns. -/
structure TextWindow where
  value : Text
  caretByte : Nat
  selectionBeginByte : Nat
  selectionEndByte : Nat
  deriving DecidableEq, Repr

/-- The first loop at `first`, with `rest` the bytes from there. -/
def windowBegin : Text → Nat → Nat
  | [], first => first
  | b :: rest, first => if isUtf8Continuation b then windowBegin rest (first + 1) else first

/-- The second loop. -/
def windowEnd (text : Text) (first : Nat) : Nat → Nat
  | 0 => 0
  | last + 1 =>
    if decide (first < last + 1) && decide (last + 1 < text.length) && isUtf8Continuation (text.getD (last + 1) 0) then
      windowEnd text first last
    else last + 1

def mapToWindow (first last byte : Nat) : Nat :=
  if byte ≤ first then 0 else if last ≤ byte then sizeSub last first else sizeSub byte first

def visibleTextWindow (p : OverlayPresentation) : TextWindow :=
  let text := p.displayUtf8
  let caret := min p.caretUtf8Byte text.length
  let selectionBegin := min p.selectionBeginUtf8Byte text.length
  let selectionEnd := min p.selectionEndUtf8Byte text.length
  if text.length ≤ kMaximumRasterTextBytes then
    ⟨text, caret, min selectionBegin selectionEnd, max selectionBegin selectionEnd⟩
  else
    let half := kMaximumRasterTextBytes / 2
    let first := if half < caret then caret - half else 0
    let last := min text.length (first + kMaximumRasterTextBytes)
    let first := if decide (last - first < kMaximumRasterTextBytes) && first != 0 then last - kMaximumRasterTextBytes else first
    let first := windowBegin (text.drop first) first
    let last := windowEnd text first last
    let value := (text.drop first).take (sizeSub last first)
    ⟨value, min (sizeSub caret first) value.length, mapToWindow first last (min selectionBegin selectionEnd),
      mapToWindow first last (max selectionBegin selectionEnd)⟩

/-! ## The loops -/

set_option maxRecDepth 4000 in
theorem isUtf8Continuation_iff (b : UInt8) : isUtf8Continuation b = true ↔ IsContinuation b := by
  have hall : ∀ n < 256, isUtf8Continuation (UInt8.ofNat n) = decide (n / 64 = 2) := by decide
  have hb := hall b.toNat b.toNat_lt
  rw [UInt8.ofNat_toNat] at hb
  rw [hb, decide_eq_true_iff]
  rfl

variable {t : Text}

theorem windowBegin_least (ht : WellFormed t) (d first : Nat) (hd : first + d = t.length) :
    Boundary t (windowBegin (t.drop first) first) ∧ first ≤ windowBegin (t.drop first) first ∧
      ∀ b, Boundary t b → first ≤ b → windowBegin (t.drop first) first ≤ b := by
  induction d generalizing first with
  | zero =>
    obtain rfl : first = t.length := by omega
    rw [List.drop_length]
    exact ⟨boundary_length ht, le_rfl, fun b _ hb => hb⟩
  | succ d ih =>
    have hlt : first < t.length := by omega
    have hlead := boundary_iff_lead ht hlt
    rw [List.drop_eq_getElem_cons hlt, windowBegin]
    by_cases hcont : isUtf8Continuation t[first] = true
    · have hnot : ¬ Boundary t first := fun hb => hlead.mp hb ((isUtf8Continuation_iff _).mp hcont)
      obtain ⟨hbound, hle, hleast⟩ := ih (first + 1) (by omega)
      rw [if_pos hcont]
      refine ⟨hbound, by omega, fun b hb hfirst => hleast b hb ?_⟩
      rcases Nat.lt_or_eq_of_le hfirst with hfirst | rfl
      · exact hfirst
      · exact absurd hb hnot
    · rw [if_neg hcont]
      exact ⟨hlead.mpr fun h => hcont ((isUtf8Continuation_iff _).mpr h), le_rfl, fun b _ hb => hb⟩

/-- The second loop stops at the last boundary before. -/
theorem windowEnd_greatest {first : Nat} (hfirst : Boundary t first) (last : Nat) (hle : first ≤ last) (hlast : last ≤ t.length) :
    Boundary t (windowEnd t first last) ∧ first ≤ windowEnd t first last ∧ windowEnd t first last ≤ last ∧
      ∀ b, Boundary t b → b ≤ last → b ≤ windowEnd t first last := by
  have ht := hfirst.wellFormed
  induction last with
  | zero => exact ⟨boundary_zero ht, hle, le_rfl, fun b _ hb => hb⟩
  | succ last ih =>
    unfold windowEnd
    by_cases hstop : first = last + 1
    · rw [if_neg (by simp [hstop])]
      exact ⟨hstop ▸ hfirst, hle, le_rfl, fun b _ hb => hb⟩
    rcases Nat.lt_or_eq_of_le hlast with hlt | heq
    swap
    · rw [if_neg (by simp [heq])]
      exact ⟨heq ▸ boundary_length ht, hle, le_rfl, fun b _ hb => hb⟩
    have hlead := boundary_iff_lead ht hlt
    rw [List.getD_eq_getElem _ _ hlt]
    by_cases hcont : isUtf8Continuation t[last + 1] = true
    · have hnot : ¬ Boundary t (last + 1) := fun hb => hlead.mp hb ((isUtf8Continuation_iff _).mp hcont)
      obtain ⟨hbound, hge, hle', hgreatest⟩ := ih (by omega) (by omega)
      rw [if_pos (by simp [hcont, hlt]; omega)]
      refine ⟨hbound, hge, by omega, fun b hb hble => hgreatest b hb ?_⟩
      rcases Nat.lt_or_eq_of_le hble with hble | rfl
      · omega
      · exact absurd hb hnot
    · rw [if_neg (by simp [hcont])]
      exact ⟨hlead.mpr fun h => hcont ((isUtf8Continuation_iff _).mpr h), hle, le_rfl, fun b _ hb => hb⟩

/-! ## The window -/

theorem sizeSub_of_lt {a b : Nat} (h : b ≤ a) (hlt : a - b < 2 ^ 64) : sizeSub a b = a - b := by
  unfold sizeSub
  omega

/-- The window is the part of the text from `first` to `last`, and its offsets are the presentation's in it. -/
structure WindowAt (p : OverlayPresentation) (w : TextWindow) (first last : Nat) : Prop where
  starts : Boundary p.displayUtf8 first
  ends : Boundary p.displayUtf8 last
  caretAfter : first ≤ p.caretUtf8Byte
  caretBefore : p.caretUtf8Byte ≤ last
  value : w.value = (p.displayUtf8.drop first).take (last - first)
  size : w.value.length = last - first
  bounded : w.value.length ≤ kMaximumRasterTextBytes
  caret : w.caretByte = p.caretUtf8Byte - first
  selectionBegin : w.selectionBeginByte = max first (min p.selectionBeginUtf8Byte last) - first
  selectionEnd : w.selectionEndByte = max first (min p.selectionEndUtf8Byte last) - first
  ordered : w.selectionBeginByte ≤ w.selectionEndByte ∧ w.selectionEndByte ≤ w.value.length

/-- What the window relies on: offsets within the text, and the caret between two code points. -/
structure OffsetsPlaced (p : OverlayPresentation) : Prop where
  caret : Boundary p.displayUtf8 p.caretUtf8Byte
  selection : p.selectionBeginUtf8Byte ≤ p.selectionEndUtf8Byte
  selectionEnd : p.selectionEndUtf8Byte ≤ p.displayUtf8.length

/-- Clamped to the window and taken relative to its start. -/
theorem mapToWindow_eq {first last : Nat} (hle : first ≤ last) (hsize : last - first < 2 ^ 64) (byte : Nat) :
    mapToWindow first last byte = max first (min byte last) - first := by
  unfold mapToWindow
  by_cases hb : byte ≤ first
  · rw [if_pos hb]
    omega
  rw [if_neg hb]
  by_cases hl : last ≤ byte
  · rw [if_pos hl, sizeSub_of_lt hle hsize]
    omega
  · rw [if_neg hl, sizeSub_of_lt (by omega) (by omega)]
    omega

/-- Where the window starts and ends before it is rounded. -/
theorem window_centred {caret size centred first last : Nat} (hcaret : caret ≤ size) (hsize : kMaximumRasterTextBytes < size)
    (hcentred : centred = if kMaximumRasterTextBytes / 2 < caret then caret - kMaximumRasterTextBytes / 2 else 0)
    (hlast : last = min size (centred + kMaximumRasterTextBytes))
    (hfirst : first = if decide (last - centred < kMaximumRasterTextBytes) && centred != 0 then last - kMaximumRasterTextBytes
      else centred) :
    first ≤ caret ∧ caret ≤ last ∧ last ≤ size ∧ last - first ≤ kMaximumRasterTextBytes := by
  unfold kMaximumRasterTextBytes at *
  simp only [Bool.and_eq_true, decide_eq_true_eq, bne_iff_ne] at hfirst
  by_cases hhalf : 4096 / 2 < caret
  · rw [if_pos hhalf] at hcentred
    split at hfirst <;> omega
  · rw [if_neg hhalf] at hcentred
    rw [if_neg (by omega)] at hfirst
    omega

theorem visibleTextWindow_windowAt {p : OverlayPresentation} (h : OffsetsPlaced p) :
    ∃ first last, WindowAt p (visibleTextWindow p) first last := by
  obtain ⟨hcaret, hselection, hend⟩ := h
  have ht := hcaret.wellFormed
  have hcaretMin := Nat.min_eq_left hcaret.le
  have hendMin := Nat.min_eq_left hend
  have hbeginMin := Nat.min_eq_left (le_trans hselection hend)
  unfold visibleTextWindow
  simp only
  rw [hcaretMin, hendMin, hbeginMin, Nat.min_eq_left hselection, Nat.max_eq_right hselection]
  by_cases hshort : p.displayUtf8.length ≤ kMaximumRasterTextBytes
  · rw [if_pos hshort]
    refine ⟨0, p.displayUtf8.length, boundary_zero ht, boundary_length ht, Nat.zero_le _, hcaret.le, ?_, rfl, hshort, rfl, ?_, ?_,
      hselection, hend⟩
    · simp
    · rw [hbeginMin, Nat.zero_max]
      rfl
    · rw [hendMin, Nat.zero_max]
      rfl
  rw [if_neg hshort]
  generalize hcentred : (if kMaximumRasterTextBytes / 2 < p.caretUtf8Byte then p.caretUtf8Byte - kMaximumRasterTextBytes / 2
    else 0) = centred
  generalize hlast : min p.displayUtf8.length (centred + kMaximumRasterTextBytes) = last
  generalize hfirst : (if decide (last - centred < kMaximumRasterTextBytes) && centred != 0 then last - kMaximumRasterTextBytes
    else centred) = first
  obtain ⟨hfirstCaret, hcaretLast, hlastSize, hwidth⟩ :=
    window_centred hcaret.le (by omega) hcentred.symm hlast.symm hfirst.symm
  -- the caret is a boundary, so neither rounding passes it
  obtain ⟨hbegin, hfirstBegin, hleast⟩ := windowBegin_least ht (p.displayUtf8.length - first) first (by omega)
  have hbeginCaret := hleast _ hcaret hfirstCaret
  generalize windowBegin (p.displayUtf8.drop first) first = start at *
  obtain ⟨hstop, hstartStop, hstopLast, hgreatest⟩ := windowEnd_greatest hbegin last (by omega) hlastSize
  have hcaretStop := hgreatest _ hcaret hcaretLast
  generalize windowEnd p.displayUtf8 start last = stop at *
  have hbound : kMaximumRasterTextBytes < 2 ^ 64 := by decide
  have hstopLe := hstop.le
  have hlength : ((p.displayUtf8.drop start).take (stop - start)).length = stop - start := by
    rw [List.length_take, List.length_drop]
    omega
  refine ⟨start, stop, hbegin, hstop, hbeginCaret, hcaretStop, ?_, ?_, ?_, ?_, ?_, ?_, ?_⟩
  all_goals simp only [sizeSub_of_lt hstartStop (by omega), sizeSub_of_lt hbeginCaret (by omega), hlength,
    mapToWindow_eq hstartStop (by omega)]
  all_goals omega

/-! ## Every presentation that is built -/

theorem bullets_eq (n : Nat) : (List.replicate n kPasswordBullet).flatten = (List.replicate n 0x2022).flatMap encode := by
  rw [List.flatMap_replicate]
  rfl

theorem bullets_length (n : Nat) : ((List.replicate n 0x2022).flatMap encode).length = n * kPasswordBullet.length := by
  rw [← bullets_eq, List.length_flatten, List.map_replicate, List.sum_replicate_nat]

/-- The masked text has a boundary behind each of its bullets. -/
theorem boundary_bullets {n k : Nat} (h : k ≤ n) :
    Boundary (List.replicate n kPasswordBullet).flatten (k * kPasswordBullet.length) := by
  rw [bullets_eq, boundary_flatMap fun c hc => by rw [List.eq_of_mem_replicate hc]; decide]
  refine ⟨List.replicate k 0x2022, List.replicate (n - k) 0x2022, ?_, (bullets_length k).symm⟩
  rw [List.replicate_append_replicate, Nat.add_sub_cancel' h]

variable {u : Utf8proc} {q : DensityQuotient} {v : TextDisplayUpdate} {viewport : OverlayViewport} {p : OverlayPresentation}

theorem offsetsPlaced_built (hu : u.Decodes) (hp : buildPresentation u q v viewport = .ok p) : OffsetsPlaced p := by
  obtain ⟨-, n, hn, ⟨-, rfl⟩ | ⟨-, rfl⟩⟩ := buildPresentation_cases hp
  · have hn := (validateAndCountUtf8_iff hu _ n).mp hn
    have hle : ∀ position, (utf8ByteForUtf16Cursor u v.utf8.bytes position).2 ≤ n := fun position =>
      codepointsBefore_le ((codepointsBefore_iff hu hn.wellFormed position _).mpr rfl) hn
    refine ⟨boundary_bullets (hle _), Nat.mul_le_mul_right _ (by omega), ?_⟩
    exact (boundary_bullets (max_le (hle _) (hle _))).le
  · have hw := ((validateAndCountUtf8_iff hu _ n).mp hn).wellFormed
    have hbound : ∀ position, Boundary v.utf8.bytes (utf8ByteForUtf16Cursor u v.utf8.bytes position).1 := fun position =>
      (utf8ByteForUtf16Cursor_caretAt hu hw position).1.1.1
    refine ⟨hbound _, min_le_max, ?_⟩
    exact max_le (hbound _).le (hbound _).le

/-- The window of every presentation that is built, however long its text. -/
theorem visibleTextWindow_faithful (hu : u.Decodes) (hp : buildPresentation u q v viewport = .ok p) :
    ∃ first last, WindowAt p (visibleTextWindow p) first last :=
  visibleTextWindow_windowAt (offsetsPlaced_built hu hp)

/-- A field of 5000 times "a". -/
def longField : TextDisplayUpdate :=
  { event := .show, generation := 1, utf8 := .buffer (List.replicate 5000 0x61), cursorUtf16 := 4000 }

theorem visibleTextWindow_faithful_demo :
    ∃ p, buildPresentation plainUtf8proc (fun w _ => w) longField ⟨800, 600, F32.one⟩ = .ok p ∧
      ∃ first last, WindowAt p (visibleTextWindow p) first last := by
  have hdrawable : Drawable longField ⟨800, 600, F32.one⟩ := by
    refine ⟨by decide, by decide, rfl, wellFormed_ascii fun b hb => ?_, nofun⟩
    rw [List.eq_of_mem_replicate hb]
    decide
  obtain ⟨p, hp⟩ := (drawable_iff plainUtf8proc_decodes (fun w _ => w) _ _).mp hdrawable
  exact ⟨p, hp, visibleTextWindow_faithful plainUtf8proc_decodes hp⟩

end Mocktail.Input

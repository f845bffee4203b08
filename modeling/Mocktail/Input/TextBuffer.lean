/-
  Mocktail.Input.TextBuffer — the size of the buffer of `RobloxTextEditor` in every run.

  `BufferOk` says what the editor keeps between two calls: a well-formed text of bounded
  size, offsets at code point boundaries, a composition around the cursor, UTF-16 positions
  that match the byte offsets and size computations that do not wrap. The offsets are kept by
  every call (`run_aligned`); what is left is the size, also that of the text a cancelled
  composition brings back (`Sized`).

  One operation breaks it: Return in a multiline TextBox inserts a newline without the size
  test that committed text, preedit text and pasted text pass (`newline_overflows`). A run
  is fine to its end exactly when it never does so in a full buffer (`buffer_ok_iff`).
-/

import Mocktail.Input.TextEdits

namespace Mocktail.Input

open Mocktail.Lib Mocktail.Lib.Utf8

/-! ## The invariant -/

/-- None of the subtractions of `maximum - (size - (end - begin))` wraps. -/
def Editor.RoomExact (ed : Editor) : Prop :=
  ed.replacedRange.1 ≤ ed.replacedRange.2 ∧ ed.replacedRange.2 - ed.replacedRange.1 ≤ ed.text.length ∧
    ed.text.length - (ed.replacedRange.2 - ed.replacedRange.1) ≤ kMaximumTextBytes

structure BufferOk (ed : Editor) : Prop where
  text : WellFormed ed.text
  size : ed.text.length ≤ kMaximumTextBytes
  cursor : Boundary ed.text ed.cursorByte
  anchor : Boundary ed.text ed.selectionAnchorByte
  composition : ed.compositionActive = true →
    Boundary ed.text ed.compositionBeginByte ∧ Boundary ed.text ed.compositionEndByte ∧
      ed.compositionBeginByte ≤ ed.cursorByte ∧ ed.cursorByte ≤ ed.compositionEndByte
  cursorUtf16 : Utf16Length (ed.text.take ed.cursorByte) ed.snapshot.cursorUtf16
  selectionBeginUtf16 : Utf16Length (ed.text.take ed.selectionBegin) ed.snapshot.selectionBeginUtf16
  selectionEndUtf16 : Utf16Length (ed.text.take ed.selectionEnd) ed.snapshot.selectionEndUtf16
  room : ed.RoomExact

/-- The text is bounded, with the composition in it and without. -/
structure Sized (ed : Editor) : Prop where
  size : ed.text.length ≤ kMaximumTextBytes
  origin : ed.compositionActive = true →
    ed.text.length - (ed.compositionEndByte - ed.compositionBeginByte) + ed.compositionReplacedText.length ≤ kMaximumTextBytes

section Invariant

variable {u : Utf8proc} {cfg : EditorConfig} {a : Answers} {ed : Editor} {act : EditorAct}

theorem Aligned.roomExact (h : Aligned u ed) (hs : Sized ed) : ed.RoomExact := by
  obtain ⟨-, hlast, hle⟩ := h.range
  have hlen := hlast.le
  have hsize := hs.size
  unfold Editor.RoomExact
  omega

/-- The offsets and the size are all that the buffer has to keep. -/
theorem Aligned.bufferOk (hu : u.Decodes) (h : Aligned u ed) (hs : Sized ed) : BufferOk ed where
  text := h.text
  size := hs.size
  cursor := h.cursor
  anchor := h.anchor
  composition := fun hc =>
    have hcomposed := h.composed hc
    ⟨hcomposed.first, hcomposed.last, hcomposed.le_cursor, hcomposed.cursor_le⟩
  cursorUtf16 := by
    rw [h.cursorUtf16]
    exact utf16Cursor_length hu h.cursor
  selectionBeginUtf16 := by
    rw [h.selectionBeginUtf16]
    exact utf16Cursor_length hu h.selectionBegin
  selectionEndUtf16 := by
    rw [h.selectionEndUtf16]
    exact utf16Cursor_length hu h.selectionEnd
  room := h.roomExact hs

theorem sizeSub_eq {x y : Nat} (h : y ≤ x) (hx : x < 2 ^ 64) : sizeSub x y = x - y := by
  unfold sizeSub
  omega

/-- The size test of the code is the exact one. -/
theorem Aligned.room (h : Aligned u ed) (hs : Sized ed) {first last n : Nat} (hrange : ed.replacedRange = (first, last))
    (hn : ¬ sizeSub kMaximumTextBytes (sizeSub ed.text.length (sizeSub last first)) < n) :
    ed.text.length - (last - first) + n ≤ kMaximumTextBytes := by
  have hr := h.roomExact hs
  have hsize := hs.size
  unfold Editor.RoomExact at hr
  rw [hrange] at hr
  obtain ⟨hle, hlen, hmax⟩ := hr
  have hbig : kMaximumTextBytes < 2 ^ 64 := by decide
  have hlast : last < 2 ^ 64 := by
    have hb := h.range.2.1.le
    rw [hrange] at hb
    simp only at hb
    omega
  rw [sizeSub_eq hle hlast, sizeSub_eq hlen (by omega), sizeSub_eq hmax hbig] at hn
  omega

theorem splice_length {t r : Text} {first last : Nat} (hlast : last ≤ t.length) (hle : first ≤ last) :
    (Editor.splice t first last r).length = t.length - (last - first) + r.length := by
  unfold Editor.splice
  rw [List.length_append, List.length_append, List.length_take_of_le (le_trans hle hlast), List.length_drop]
  omega

/-! ## Sizes -/

theorem Sized.same {ed' : Editor} (h : Sized ed) (hs : SameBuffer ed ed') : Sized ed' := by
  refine ⟨by rw [hs.text]; exact h.size, fun hc => ?_⟩
  rw [hs.text, hs.first, hs.last, hs.replaced]
  exact h.origin (hs.active ▸ hc)

/-- Without a composition only the text counts. -/
theorem sized_idle (hsize : ed.text.length ≤ kMaximumTextBytes) (hc : ed.compositionActive = false) : Sized ed :=
  ⟨hsize, fun hactive => absurd (hc.symm.trans hactive) (by decide)⟩

/-- The part of the text around a composition or a selection, and what was there before it. -/
theorem Aligned.around (h : Aligned u ed) (hs : Sized ed) (event : TextEditingEvent) :
    ed.text.length - (ed.replacedRange.2 - ed.replacedRange.1) + (ed.composing u event).compositionReplacedText.length ≤
      kMaximumTextBytes := by
  unfold Editor.composing Editor.replacedRange
  cases hactive : ed.compositionActive with
  | true => exact hs.origin hactive
  | false =>
    obtain ⟨-, hlen, -, -⟩ := h.selected
    have hle := h.selectionEnd.le
    have hsize := hs.size
    simp only [Bool.false_eq_true, if_false, hlen]
    omega

/-! ## The newline -/

/-- A newline that the native side takes finds room for its byte. -/
def NewlineFits (ed : Editor) (act : EditorAct) : Prop :=
  ∀ e, act.op = .key e → ed.insertsNewline e = true → act.answers.sync.ok = true → act.answers.passText.ok = true →
    ed.text.length - (ed.selectionEnd - ed.selectionBegin) < kMaximumTextBytes

instance (ed : Editor) (act : EditorAct) : Decidable (NewlineFits ed act) :=
  match hop : act.op with
  | .key e =>
    decidable_of_iff (ed.insertsNewline e = true → act.answers.sync.ok = true → act.answers.passText.ok = true →
      ed.text.length - (ed.selectionEnd - ed.selectionBegin) < kMaximumTextBytes)
      ⟨fun h e' he => by rw [hop] at he; cases he; exact h, fun h => h e hop⟩
  | .beginFocus .. | .endFocus .. | .replaceFromEngine .. | .updateProperties .. | .textInput _ | .textEditing _ =>
    isTrue fun e he => by rw [hop] at he; cases he

theorem Edits.sized {ed' : Editor} (h : Aligned u ed) (hs : Sized ed) (hroom : NewlineFits ed act) (he : Edits u ed act ed') :
    Sized ed' := by
  cases he with
  | same hsame => exact hs.same hsame
  | whole text hvalid hsize hsame =>
    have hwhole : Sized ((Editor.wholeText text).updateSelectionSnapshot u) := sized_idle hsize rfl
    exact hwhole.same hsame
  | spliced first last r hfirst hlast hle hr hgrow hsame =>
    have hspliced : Sized ((ed.spliced first last r).updateSelectionSnapshot u) := by
      apply sized_idle _ rfl
      show (Editor.splice ed.text first last r).length ≤ kMaximumTextBytes
      rw [splice_length hlast.le hle]
      have hsize := hs.size
      cases hgrow with
      | deletes =>
        rw [List.length_nil]
        omega
      | tested hrange hfits =>
        unfold Editor.HasRoom at hfits
        rw [hrange] at hfits
        exact h.room hs hrange hfits
      | newline e hop hkey hsync hpass hfirst hlast =>
        subst hfirst hlast
        have hfits := hroom e hop hkey hsync hpass
        simp only [List.length_cons, List.length_nil]
        omega
    exact hspliced.same hsame
  | composed event hne hvalid hfits hsame =>
    obtain ⟨hfirst, hlast, hle⟩ := h.range
    have hlength : (Editor.splice ed.text ed.replacedRange.1 ed.replacedRange.2 event.text).length =
        ed.text.length - (ed.replacedRange.2 - ed.replacedRange.1) + event.text.length := splice_length hlast.le hle
    have hcomposed : Sized ((ed.composing u event).updateSelectionSnapshot u) := by
      refine ⟨?_, fun _ => ?_⟩
      · show (Editor.splice ed.text ed.replacedRange.1 ed.replacedRange.2 event.text).length ≤ kMaximumTextBytes
        rw [hlength]
        exact h.room hs rfl hfits
      · have haround := h.around hs event
        show (Editor.splice ed.text ed.replacedRange.1 ed.replacedRange.2 event.text).length -
            (ed.replacedRange.1 + event.text.length - ed.replacedRange.1) +
            (ed.composing u event).compositionReplacedText.length ≤ kMaximumTextBytes
        rw [hlength]
        omega
    exact hcomposed.same hsame
  | cancelled hactive hsame =>
    have hcomposed := h.composed hactive
    have hcancelled : Sized (ed.cancelled.updateSelectionSnapshot u) := by
      apply sized_idle _ rfl
      show (Editor.splice ed.text ed.compositionBeginByte ed.compositionEndByte ed.compositionReplacedText).length ≤
        kMaximumTextBytes
      rw [splice_length hcomposed.last.le (le_trans hcomposed.le_cursor hcomposed.cursor_le)]
      exact hs.origin hactive
    exact hcancelled.same hsame
  | moved cursor anchor hc hcursor hanchor hsame =>
    have hmoved : Sized ({ ed with cursorByte := cursor, selectionAnchorByte := anchor }.updateSelectionSnapshot u) :=
      sized_idle hs.size hc
    exact hmoved.same hsame

/-! ## The overflow -/

theorem handleKey_newline {e : KeyEvent} (h : ed.insertsNewline e = true) :
    ed.handleKey u cfg a e = ed.replaceText u cfg a ed.selectionBegin ed.selectionEnd [0x0A] := by
  simp only [Editor.insertsNewline, Bool.and_eq_true, Bool.not_eq_true', Bool.or_eq_true, beq_iff_eq] at h
  obtain ⟨⟨⟨⟨hfocused, hpressed⟩, hc⟩, hmultiline⟩, hreturn⟩ := h
  have hbit : shortcutBit e.scancode = 0 := by rcases hreturn with hr | hr <;> rw [hr] <;> rfl
  have hshortcut : e.shortcut = false := by simp [KeyEvent.shortcut, hbit]
  have hkey : e.editKey = true := by rcases hreturn with hr | hr <;> simp [KeyEvent.editKey, hr]
  have hedit : ed.editText u cfg a e = ed.replaceText u cfg a ed.selectionBegin ed.selectionEnd [0x0A] := by
    unfold Editor.editText
    rcases hreturn with hr | hr <;> rw [hr, if_pos hmultiline] <;> rfl
  unfold Editor.handleKey
  rw [if_neg (by simp [hfocused]), if_neg (by simp [hpressed]), if_neg (by simp [hkey]), if_neg (by simp [hpressed])]
  simp only [hshortcut, Bool.false_eq_true, if_false]
  rw [if_neg (by simp [hc]), hbit, if_neg (by decide), if_neg (by decide), if_neg (by decide), if_neg (by decide), hedit]

theorem commitText_text (hsync : a.sync.ok = true) (hpass : a.passText.ok = true) (committed : Bool) :
    (ed.commitText cfg a committed).ed.text = ed.text := by
  unfold Editor.commitText
  rw [if_neg (by simp [hsync]), if_neg (by simp [hpass])]
  cases committed with
  | false | true => exact (rememberPendingNativeEcho_same ed).text

/-- In a full buffer the newline goes past the maximum. -/
theorem newline_overflows {act : EditorAct} (h : BufferOk ed) (hroom : ¬ NewlineFits ed act) :
    ¬ BufferOk (stepEditor u cfg ed act).1 := by
  intro hafter
  apply hroom
  intro e hop hnewline hsync hpass
  obtain ⟨op, a⟩ := act
  cases hop
  have hsize : (stepEditor u cfg ed ⟨.key e, a⟩).1.text.length ≤ kMaximumTextBytes := hafter.size
  have htext : (stepEditor u cfg ed ⟨.key e, a⟩).1.text = Editor.splice ed.text ed.selectionBegin ed.selectionEnd [0x0A] := by
    show (ed.handleKey u cfg a e).ed.text = _
    rw [handleKey_newline hnewline]
    unfold Editor.replaceText
    rw [commitText_text hsync hpass]
    rfl
  have hend : ed.selectionEnd ≤ ed.text.length := by
    have h1 := h.cursor.le
    have h2 := h.anchor.le
    unfold Editor.selectionEnd
    omega
  rw [htext, splice_length hend (selectionBegin_le ed)] at hsize
  simp only [List.length_cons, List.length_nil] at hsize
  omega

end Invariant

/-! ## Every run -/

theorem sized_start : Sized {} := ⟨Nat.zero_le _, nofun⟩

theorem run_buffer {u : Utf8proc} (hu : u.Decodes) (cfg : EditorConfig) (acts : List EditorAct)
    (hroom : (textEditor u cfg).Guarded (fun ed _ act => NewlineFits ed act) {} acts) :
    BufferOk ((textEditor u cfg).run {} acts).1 := by
  have hboth : Aligned u ((textEditor u cfg).run {} acts).1 ∧ Sized ((textEditor u cfg).run {} acts).1 :=
    (textEditor u cfg).run_induct_guarded (I := fun ed _ => Aligned u ed ∧ Sized ed) ⟨aligned_start, sized_start⟩
      (fun _ _ act h hfits => ⟨(step_edits hu h.1 act).aligned hu h.1, (step_edits hu h.1 act).sized h.1 h.2 hfits⟩) acts hroom
  exact hboth.1.bufferOk hu hboth.2

/-- The buffer is fine in every state of a run exactly when every newline finds room. -/
theorem buffer_ok_iff {u : Utf8proc} (hu : u.Decodes) (cfg : EditorConfig) (acts : List EditorAct) :
    (∀ pre, pre <+: acts → BufferOk ((textEditor u cfg).run {} pre).1) ↔
      (textEditor u cfg).Guarded (fun ed _ act => NewlineFits ed act) {} acts := by
  constructor
  · intro h pre act post hsplit
    by_contra hroom
    have hbefore := h pre ⟨act :: post, hsplit.symm⟩
    have hafter := h (pre ++ [act]) ⟨post, by rw [hsplit]; simp⟩
    rw [Machine.run_snoc] at hafter
    exact newline_overflows hbefore hroom hafter
  · intro h pre hex
    obtain ⟨post, rfl⟩ := hex
    refine run_buffer hu cfg pre fun before act after hsplit => ?_
    exact h before act (after ++ post) (by rw [hsplit]; simp)

/-- A multiline TextBox opens with "hé", a preedit text is shown and cancelled, another one
is committed over a selection and a Return follows. -/
def demoEdits : List EditorAct :=
  [⟨.beginFocus { textboxHandle := 1, generation := 1, properties := { multiline := true } } [0x68, 0xc3, 0xa9], {}⟩,
    ⟨.key { pressed := true, scancode := Scancode.left, modifiers := 1 }, {}⟩,
    ⟨.textEditing { text := [0xe3, 0x81, 0x8b], start := 1 }, {}⟩, ⟨.textEditing {}, {}⟩,
    ⟨.textEditing { text := [0xe3, 0x81, 0x8b, 0x6e], start := 1 }, {}⟩, ⟨.textInput [0xe3, 0x81, 0x8b, 0x6e], {}⟩,
    ⟨.key { pressed := true, scancode := Scancode.return }, {}⟩]

theorem buffer_ok_demo :
    BufferOk ((textEditor plainUtf8proc {}).run {} demoEdits).1 ∧
      ((textEditor plainUtf8proc {}).run {} demoEdits).1.text = [0x68, 0xe3, 0x81, 0x8b, 0x6e, 0x0a] :=
  ⟨(buffer_ok_iff plainUtf8proc_decodes {} demoEdits).mpr (by decide +kernel) demoEdits List.prefix_rfl, by decide +kernel⟩

/-- A multiline TextBox opens with as much text as fits and gets a Return. -/
def overflowingReturn : List EditorAct :=
  [⟨.beginFocus { textboxHandle := 1, generation := 1, properties := { multiline := true } }
      (List.replicate kMaximumTextBytes 0x61), {}⟩,
    ⟨.key { pressed := true, scancode := Scancode.return }, {}⟩]

theorem full_return_overflows {u : Utf8proc} (hu : u.Decodes) {text : Text} (hwf : WellFormed text)
    (hsize : text.length = kMaximumTextBytes) :
    ¬ BufferOk ((textEditor u {}).run {}
      [⟨.beginFocus { textboxHandle := 1, generation := 1, properties := { multiline := true } } text, {}⟩,
        ⟨.key { pressed := true, scancode := Scancode.return }, {}⟩]).1 := by
  have hvalid : (layout u text).valid = true := layout_accepts hu hwf (by rw [hsize]; decide)
  have hbefore :=
    run_buffer hu {} [⟨.beginFocus { textboxHandle := 1, generation := 1, properties := { multiline := true } } text, {}⟩]
    fun pre act post hsplit e hop => by
      obtain ⟨rfl, rfl, rfl⟩ : pre = [] ∧
        act = ⟨.beginFocus { textboxHandle := 1, generation := 1, properties := { multiline := true } } text, {}⟩ ∧
          post = [] := by
        cases pre with
        | nil => simpa [eq_comm] using hsplit
        | cons x xs => simp at hsplit
      cases hop
  have hfull : ¬ NewlineFits (Editor.beginFocusSession u {} {}
      { textboxHandle := 1, generation := 1, properties := { multiline := true } } text).1
      ⟨.key { pressed := true, scancode := Scancode.return }, {}⟩ := by
    intro hfits
    unfold Editor.beginFocusSession at hfits
    rw [if_neg (by decide), if_neg (by simp [hvalid, hsize]), if_neg (by decide)] at hfits
    have hlt : text.length - (max text.length text.length - min text.length text.length) < kMaximumTextBytes :=
      hfits _ rfl rfl rfl rfl
    omega
  exact newline_overflows hbefore hfull

theorem newline_breaks_buffer :
    plainUtf8proc.Decodes ∧ ¬ ∀ acts, BufferOk ((textEditor plainUtf8proc {}).run {} acts).1 := by
  refine ⟨plainUtf8proc_decodes, fun h => ?_⟩
  have hwf : WellFormed (List.replicate kMaximumTextBytes 0x61) := by
    apply wellFormed_ascii
    intro b hb
    rw [List.eq_of_mem_replicate hb]
    decide
  exact full_return_overflows plainUtf8proc_decodes hwf List.length_replicate (h overflowingReturn)

end Mocktail.Input

/-
  Mocktail.Input.TextComposition — a cancelled IME composition leaves no trace.

  The editor saves the replaced selection and both offsets when the first preedit text is
  shown; every later preedit text is written over the one before it, whatever its length,
  and may be rejected. `Composing ed₀ ed` says what such an editor still knows of the editor
  `ed₀` that it started from. One call keeps it (`Composing.step`), so a run does, and the
  empty preedit event that ends the run gives `ed₀` back (`composition_cancelled`).
-/

import Mocktail.Input.TextEdits

namespace Mocktail.Input

open Mocktail.Lib Mocktail.Lib.Utf8

variable {u : Utf8proc} {cfg : EditorConfig} {a : Answers} {ed₀ ed : Editor}

/-! ## Splices of one place -/

theorem splice_splice {t : Text} {first : Nat} (hle : first ≤ t.length) (last : Nat) (r r' : Text) :
    Editor.splice (Editor.splice t first last r) first (first + r.length) r' = Editor.splice t first last r' := by
  have hlen : (t.take first ++ r).length = first + r.length := by simp [hle]
  have htake : (t.take first ++ r ++ t.drop last).take first = t.take first := by
    rw [List.append_assoc, List.take_append_of_le_length (by simp [hle]), List.take_take, Nat.min_self]
  have hdrop : (t.take first ++ r ++ t.drop last).drop (first + r.length) = t.drop last := by
    rw [← hlen, List.drop_left]
  unfold Editor.splice
  rw [htake, hdrop]

theorem splice_self {t : Text} {first last : Nat} (hle : first ≤ last) :
    Editor.splice t first last ((t.drop first).take (last - first)) = t := by
  have hrest : t.drop last = (t.drop first).drop (last - first) := by
    rw [List.drop_drop]
    congr 1
    omega
  unfold Editor.splice
  rw [hrest, List.append_assoc, List.take_append_drop, List.take_append_drop]

/-! ## While the composition lasts -/

/-- What the selection of `ed₀` holds. -/
def Editor.selectedText (ed₀ : Editor) : Text := (ed₀.text.drop ed₀.selectionBegin).take (ed₀.selectionEnd - ed₀.selectionBegin)

/-- `ed` shows a preedit text in the place of the selection of `ed₀`, and has saved the rest. -/
structure Composing (ed₀ ed : Editor) : Prop where
  focused : ed.snapshot.focused = true
  active : ed.compositionActive = true
  first : ed.compositionBeginByte = ed₀.selectionBegin
  shown : ∃ preedit, ed.compositionEndByte = ed₀.selectionBegin + preedit.length ∧
    ed.text = Editor.splice ed₀.text ed₀.selectionBegin ed₀.selectionEnd preedit
  originalCursor : ed.compositionOriginalCursorByte = ed₀.cursorByte
  originalAnchor : ed.compositionOriginalAnchorByte = ed₀.selectionAnchorByte
  replaced : ed.compositionReplacedText = ed₀.selectedText

theorem Composing.same {ed' : Editor} (h : Composing ed₀ ed) (hs : SameBuffer ed ed') (hfocused : ed'.snapshot.focused = true) :
    Composing ed₀ ed' := by
  refine ⟨hfocused, hs.active.trans h.active, hs.first.trans h.first, ?_, hs.originalCursor.trans h.originalCursor,
    hs.originalAnchor.trans h.originalAnchor, hs.replaced.trans h.replaced⟩
  rw [hs.last, hs.text]
  exact h.shown

/-- The native calls of a changed text, when they succeed. -/
theorem commitText_same (ed : Editor) (cfg : EditorConfig) (hok : a.sinkOk = true) (committed : Bool) :
    SameBuffer ed (ed.commitText cfg a committed).ed ∧
      (ed.commitText cfg a committed).ed.snapshot.focused = ed.snapshot.focused := by
  simp only [Answers.sinkOk, Bool.and_eq_true] at hok
  have hremember := rememberPendingNativeEcho_same ed
  have hfocused : ed.rememberPendingNativeEcho.snapshot.focused = ed.snapshot.focused := by
    unfold Editor.rememberPendingNativeEcho
    split <;> rfl
  unfold Editor.commitText
  rw [if_neg (by simp [hok]), if_neg (by simp [hok])]
  cases committed with
  | false => exact ⟨hremember, hfocused⟩
  | true => exact ⟨hremember.trans (by constructor <;> rfl), hfocused⟩

/-- A preedit text in the place of the selection. -/
theorem composing_first (u : Utf8proc) (event : TextEditingEvent) (hfocused : ed₀.snapshot.focused = true)
    (hidle : ed₀.compositionActive = false) : Composing ed₀ ((ed₀.composing u event).updateSelectionSnapshot u) := by
  have hrange : ed₀.replacedRange = (ed₀.selectionBegin, ed₀.selectionEnd) := by simp [Editor.replacedRange, hidle]
  unfold Editor.composing
  rw [hrange]
  simp only [hidle, Bool.false_eq_true, if_false]
  exact ⟨hfocused, rfl, rfl, ⟨event.text, rfl, rfl⟩, rfl, rfl, rfl⟩

/-- A preedit text in the place of the one before it. -/
theorem composing_next (u : Utf8proc) (h : Composing ed₀ ed) (hle : ed₀.selectionBegin ≤ ed₀.text.length)
    (event : TextEditingEvent) :
    Composing ed₀ ((ed.composing u event).updateSelectionSnapshot u) := by
  obtain ⟨preedit, hlast, htext⟩ := h.shown
  have hrange : ed.replacedRange = (ed₀.selectionBegin, ed₀.selectionBegin + preedit.length) := by
    simp [Editor.replacedRange, h.active, h.first, hlast]
  unfold Editor.composing
  rw [hrange, htext, splice_splice hle]
  simp only [h.active, if_true]
  exact ⟨h.focused, rfl, rfl, ⟨event.text, rfl, rfl⟩, h.originalCursor, h.originalAnchor, h.replaced⟩

/-- The IME owns the editing keys: they change nothing but the noted shortcuts. -/
theorem handleKey_composing (u : Utf8proc) (cfg : EditorConfig) (a : Answers) (hactive : ed.compositionActive = true)
    (e : KeyEvent) :
    SameBuffer ed (ed.handleKey u cfg a e).ed ∧ (ed.handleKey u cfg a e).ed.snapshot.focused = ed.snapshot.focused := by
  unfold Editor.handleKey
  extract_lets bit noted
  split
  · exact ⟨SameBuffer.refl ed, rfl⟩
  split
  · exact ⟨by constructor <;> rfl, rfl⟩
  split
  · exact ⟨SameBuffer.refl ed, rfl⟩
  split
  · exact ⟨SameBuffer.refl ed, rfl⟩
  have hnoted : ∃ shortcuts, noted = { ed with activeShortcuts := shortcuts } := by
    by_cases hs : e.shortcut = true
    · exact ⟨ed.activeShortcuts ||| bit, if_pos hs⟩
    · exact ⟨ed.activeShortcuts, if_neg hs⟩
  obtain ⟨shortcuts, hnoted⟩ := hnoted
  rw [hnoted, if_pos hactive]
  exact ⟨by constructor <;> rfl, rfl⟩

theorem updateFocusProperties_focused (ed : Editor) (cfg : EditorConfig) (generation : Nat) (properties : TextFocusProperties) :
    (ed.updateFocusProperties cfg generation properties).1.snapshot.focused = ed.snapshot.focused := by
  unfold Editor.updateFocusProperties
  split <;> rfl

/-! ## Runs -/

/-- What may happen while a preedit text is shown: another one (accepted or rejected), a key, new
properties; every native call succeeds. -/
def EditorAct.whileComposing (act : EditorAct) : Prop :=
  act.answers.sinkOk = true ∧
    match act.op with
    | .textEditing event => event.text ≠ []
    | .key _ => True
    | .updateProperties _ _ => True
    | _ => False

theorem Composing.step (u : Utf8proc) (cfg : EditorConfig) (h : Composing ed₀ ed) (hle : ed₀.selectionBegin ≤ ed₀.text.length)
    {act : EditorAct} (hact : act.whileComposing) : Composing ed₀ (stepEditor u cfg ed act).1 := by
  obtain ⟨op, a⟩ := act
  obtain ⟨hok, hop⟩ := hact
  cases op with
  | textEditing event =>
    show Composing ed₀ (ed.handleTextEditing u cfg a event).ed
    unfold Editor.handleTextEditing
    rw [if_neg (by simp [h.focused])]
    rcases replaceComposition_cases u cfg a ed event with
      ⟨hempty, -⟩ | ⟨-, heq⟩ | ⟨ed₁, heq, hfocused, ⟨hempty, -⟩ | ⟨-, -, -, hs⟩⟩
    · exact absurd hempty hop
    · rw [heq]
      exact h
    · exact absurd hempty hop
    · obtain ⟨hcommit, hstill⟩ := commitText_same ed₁ cfg hok false
      rw [heq]
      exact (composing_next u h hle event).same (hs.trans hcommit) (hstill.trans (hfocused.trans h.focused))
  | key e =>
    obtain ⟨hs, hfocused⟩ := handleKey_composing u cfg a h.active e
    exact h.same hs (hfocused.trans h.focused)
  | updateProperties generation properties =>
    exact h.same (updateFocusProperties_same ed cfg generation properties)
      ((updateFocusProperties_focused ed cfg generation properties).trans h.focused)
  | beginFocus session text | endFocus handle generation notify | replaceFromEngine generation text
  | textInput text => exact absurd hop id

theorem Composing.run (u : Utf8proc) (cfg : EditorConfig) (h : Composing ed₀ ed) (hle : ed₀.selectionBegin ≤ ed₀.text.length)
    {acts : List EditorAct} (hacts : ∀ act ∈ acts, act.whileComposing) : Composing ed₀ ((textEditor u cfg).run ed acts).1 := by
  induction acts using List.reverseRecOn with
  | nil => exact h
  | append_singleton acts act ih =>
    rw [Machine.run_snoc]
    have hbefore := ih fun act' hmem => hacts act' (List.mem_append_left _ hmem)
    exact hbefore.step u cfg hle (hacts act (List.mem_append_right _ (List.mem_singleton_self act)))

/-! ## The end of the composition -/

/-- The same text and selection, and the same published positions. -/
structure SameText (ed ed' : Editor) : Prop where
  text : ed'.text = ed.text
  cursor : ed'.cursorByte = ed.cursorByte
  anchor : ed'.selectionAnchorByte = ed.selectionAnchorByte
  cursorUtf16 : ed'.snapshot.cursorUtf16 = ed.snapshot.cursorUtf16
  selectionBeginUtf16 : ed'.snapshot.selectionBeginUtf16 = ed.snapshot.selectionBeginUtf16
  selectionEndUtf16 : ed'.snapshot.selectionEndUtf16 = ed.snapshot.selectionEndUtf16

/-- An empty preedit event gives back what the composition replaced. -/
theorem Composing.cancel (u : Utf8proc) (cfg : EditorConfig) (h : Composing ed₀ ed) (hle : ed₀.selectionBegin ≤ ed₀.text.length)
    (hok : a.sinkOk = true) {event : TextEditingEvent} (hempty : event.text = []) :
    (ed.handleTextEditing u cfg a event).ed.compositionActive = false ∧
      SameText (ed₀.updateSelectionSnapshot u) (ed.handleTextEditing u cfg a event).ed := by
  obtain ⟨preedit, hlast, htext⟩ := h.shown
  have hback : ed.cancelled.text = ed₀.text := by
    show Editor.splice ed.text ed.compositionBeginByte ed.compositionEndByte ed.compositionReplacedText = ed₀.text
    rw [htext, h.first, hlast, h.replaced, splice_splice hle]
    exact splice_self (selectionBegin_le ed₀)
  have hcursor : ed.cancelled.cursorByte = ed₀.cursorByte := h.originalCursor
  have hanchor : ed.cancelled.selectionAnchorByte = ed₀.selectionAnchorByte := h.originalAnchor
  have hpublished : SameText (ed₀.updateSelectionSnapshot u) (ed.cancelled.updateSelectionSnapshot u) := by
    refine ⟨hback, hcursor, hanchor, ?_, ?_, ?_⟩ <;>
      simp only [Editor.updateSelectionSnapshot, Editor.selectionBegin, Editor.selectionEnd, hback, hcursor, hanchor]
  unfold Editor.handleTextEditing
  rw [if_neg (by simp [h.focused])]
  rcases replaceComposition_cases u cfg a ed event with ⟨-, hidle, -⟩ | ⟨hne, -⟩ | ⟨ed₁, heq, -, ⟨-, -, hs⟩ | ⟨hne, -⟩⟩
  · exact absurd (hidle.symm.trans h.active) Bool.false_ne_true
  · exact absurd hempty hne
  · have hsame := hs.trans (commitText_same ed₁ cfg hok false).1
    rw [heq]
    exact ⟨hsame.active, hsame.text.trans hpublished.text, hsame.cursor.trans hpublished.cursor,
      hsame.anchor.trans hpublished.anchor,
      hsame.cursorUtf16.trans hpublished.cursorUtf16, hsame.selectionBeginUtf16.trans hpublished.selectionBeginUtf16,
      hsame.selectionEndUtf16.trans hpublished.selectionEndUtf16⟩
  · exact absurd hempty hne

/-- An accepted preedit text starts the composition. -/
theorem composing_start (u : Utf8proc) (cfg : EditorConfig) (hfocused : ed₀.snapshot.focused = true)
    (hidle : ed₀.compositionActive = false) (hok : a.sinkOk = true) {event : TextEditingEvent} (hne : event.text ≠ [])
    (haccepted : (ed₀.handleTextEditing u cfg a event).result.status.ok = true) :
    Composing ed₀ (ed₀.handleTextEditing u cfg a event).ed := by
  unfold Editor.handleTextEditing at haccepted ⊢
  rw [if_neg (by simp [hfocused])] at haccepted ⊢
  rcases replaceComposition_cases u cfg a ed₀ event with ⟨hempty, -⟩ | ⟨-, heq⟩ | ⟨ed₁, heq, hstill, ⟨hempty, -⟩ | ⟨-, -, -, hs⟩⟩
  · exact absurd hempty hne
  · rw [heq] at haccepted
    exact absurd haccepted Bool.false_ne_true
  · exact absurd hempty hne
  · obtain ⟨hcommit, hkept⟩ := commitText_same ed₁ cfg hok false
    rw [heq]
    exact (composing_first u event hfocused hidle).same (hs.trans hcommit) (hkept.trans (hstill.trans hfocused))

/-- From any reachable editor without a composition: an accepted preedit text, whatever happens
while it is shown, and an empty preedit event leave the text and the selection as they were. -/
theorem composition_cancelled (hu : u.Decodes) (cfg : EditorConfig) (history : List EditorAct)
    (hed : ed = ((textEditor u cfg).run {} history).1) (hfocused : ed.snapshot.focused = true)
    (hidle : ed.compositionActive = false)
    (first : TextEditingEvent) (a : Answers) (hne : first.text ≠ []) (hok : a.sinkOk = true)
    (haccepted : (ed.handleTextEditing u cfg a first).result.status.ok = true)
    (acts : List EditorAct) (hacts : ∀ act ∈ acts, act.whileComposing)
    (last : TextEditingEvent) (b : Answers) (hempty : last.text = []) (hok' : b.sinkOk = true) :
    ((textEditor u cfg).run ed ([⟨.textEditing first, a⟩] ++ acts ++ [⟨.textEditing last, b⟩])).1.compositionActive = false ∧
      SameText ed ((textEditor u cfg).run ed ([⟨.textEditing first, a⟩] ++ acts ++ [⟨.textEditing last, b⟩])).1 := by
  have haligned : Aligned u ed := hed ▸ run_aligned hu cfg history
  have hle := haligned.selectionBegin.le
  have hstart := composing_start u cfg hfocused hidle hok hne haccepted
  have hlasts := hstart.run u cfg hle hacts
  obtain ⟨hdone, hback⟩ := hlasts.cancel u cfg hle hok' hempty
  rw [Machine.run_snoc, Machine.run_append]
  exact ⟨hdone, hback.text, hback.cursor, hback.anchor, hback.cursorUtf16.trans haligned.cursorUtf16.symm,
    hback.selectionBeginUtf16.trans haligned.selectionBeginUtf16.symm,
    hback.selectionEndUtf16.trans haligned.selectionEndUtf16.symm⟩

/-- "hé" with the "é" selected; the preedit texts are "か", an invalid one and "かん". -/
theorem composition_cancelled_demo :
    let history : List EditorAct :=
      [⟨.beginFocus { textboxHandle := 1, generation := 1 } [0x68, 0xc3, 0xa9], {}⟩,
        ⟨.key { pressed := true, scancode := Scancode.left, modifiers := 1 }, {}⟩]
    let ed := ((textEditor plainUtf8proc {}).run {} history).1
    ed.selectionBegin = 1 ∧ ed.selectionEnd = 3 ∧
      SameText ed ((textEditor plainUtf8proc {}).run ed ([⟨.textEditing { text := [0xe3, 0x81, 0x8b], start := 1 }, {}⟩] ++
        [⟨.textEditing { text := [0xe3] }, {}⟩, ⟨.key { pressed := true, scancode := Scancode.backspace }, {}⟩,
          ⟨.updateProperties 1 { multiline := true }, {}⟩,
          ⟨.textEditing { text := [0xe3, 0x81, 0x8b, 0xe3, 0x82, 0x93], start := -1 }, {}⟩] ++ [⟨.textEditing {}, {}⟩])).1 := by
  refine ⟨by decide, by decide, ?_⟩
  refine (composition_cancelled plainUtf8proc_decodes {} _ rfl (by decide) (by decide) _ {} (by decide) rfl (by decide) _ ?_ _ {}
    rfl rfl).2
  intro act hact
  simp only [List.mem_cons, List.not_mem_nil, or_false] at hact
  rcases hact with rfl | rfl | rfl | rfl
  · exact ⟨rfl, by decide⟩
  · exact ⟨rfl, trivial⟩
  · exact ⟨rfl, trivial⟩
  · exact ⟨rfl, by decide⟩

end Mocktail.Input

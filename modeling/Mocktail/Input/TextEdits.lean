/-
  Mocktail.Input.TextEdits — what one call can do to the buffer of `RobloxTextEditor`.

  The buffer is what the later invariants read of the editor: the text, its two offsets, the
  composition and the published UTF-16 positions (`SameBuffer`). `Edits` lists what a call can
  make of it: nothing, a whole new text, a replacement between two boundaries, a preedit text
  shown or cancelled, another selection. `step_edits` says that there is nothing else, and
  `run_aligned` draws the first conclusion: in every run all offsets are boundaries of a
  well-formed text and the published positions are those of the offsets.
-/

import Mathlib.Data.List.GetD
import Mocktail.Lib.Trace
import Mocktail.Input.TextBoundaries
import Mocktail.Input.TextEditor

namespace Mocktail.Input

open Mocktail.Lib Mocktail.Lib.Utf8

/-! ## Operations -/

inductive EditorOp where
  | beginFocus (session : TextFocusSession) (initialText : Text)
  | endFocus (textboxHandle : Int) (generation : Nat) (notifyNative : Bool)
  | replaceFromEngine (generation : Nat) (authoritative : Text)
  | updateProperties (generation : Nat) (properties : TextFocusProperties)
  | textInput (text : Text)
  | textEditing (event : TextEditingEvent)
  | key (e : KeyEvent)
  deriving DecidableEq, Repr

/-- A call of an operation, with what its native and clipboard calls return. -/
structure EditorAct where
  op : EditorOp
  answers : Answers := {}
  deriving DecidableEq, Repr

def stepEditor (u : Utf8proc) (cfg : EditorConfig) (ed : Editor) (act : EditorAct) : Editor × List TextCall :=
  let a := act.answers
  match act.op with
  | .beginFocus session text => ((ed.beginFocusSession u cfg session text).1, (ed.beginFocusSession u cfg session text).2.1)
  | .endFocus handle generation notify =>
    ((ed.endFocusSession cfg a handle generation notify).1, (ed.endFocusSession cfg a handle generation notify).2.1)
  | .replaceFromEngine generation text =>
    ((ed.replaceFocusedTextFromEngine u cfg generation text).1, (ed.replaceFocusedTextFromEngine u cfg generation text).2.1)
  | .updateProperties generation properties =>
    ((ed.updateFocusProperties cfg generation properties).1, (ed.updateFocusProperties cfg generation properties).2.1)
  | .textInput text => ((ed.handleTextInput u cfg a text).ed, (ed.handleTextInput u cfg a text).calls)
  | .textEditing event => ((ed.handleTextEditing u cfg a event).ed, (ed.handleTextEditing u cfg a event).calls)
  | .key e => ((ed.handleKey u cfg a e).ed, (ed.handleKey u cfg a e).calls)

def textEditor (u : Utf8proc) (cfg : EditorConfig) : Machine Editor EditorAct TextCall := ⟨stepEditor u cfg⟩

/-! ## The buffer -/

/-- The bytes that the next text replaces: the composition, or the selection. -/
def Editor.replacedRange (ed : Editor) : Nat × Nat :=
  if ed.compositionActive then (ed.compositionBeginByte, ed.compositionEndByte) else (ed.selectionBegin, ed.selectionEnd)

/-- The fields that the invariant reads. -/
structure SameBuffer (ed ed' : Editor) : Prop where
  text : ed'.text = ed.text
  cursor : ed'.cursorByte = ed.cursorByte
  anchor : ed'.selectionAnchorByte = ed.selectionAnchorByte
  active : ed'.compositionActive = ed.compositionActive
  first : ed'.compositionBeginByte = ed.compositionBeginByte
  last : ed'.compositionEndByte = ed.compositionEndByte
  originalCursor : ed'.compositionOriginalCursorByte = ed.compositionOriginalCursorByte
  originalAnchor : ed'.compositionOriginalAnchorByte = ed.compositionOriginalAnchorByte
  replaced : ed'.compositionReplacedText = ed.compositionReplacedText
  cursorUtf16 : ed'.snapshot.cursorUtf16 = ed.snapshot.cursorUtf16
  selectionBeginUtf16 : ed'.snapshot.selectionBeginUtf16 = ed.snapshot.selectionBeginUtf16
  selectionEndUtf16 : ed'.snapshot.selectionEndUtf16 = ed.snapshot.selectionEndUtf16

variable {u : Utf8proc} {cfg : EditorConfig} {a : Answers} {ed : Editor} {act : EditorAct}

theorem SameBuffer.refl (ed : Editor) : SameBuffer ed ed := by constructor <;> rfl

theorem SameBuffer.trans {ed₁ ed₂ : Editor} (h : SameBuffer ed ed₁) (h' : SameBuffer ed₁ ed₂) : SameBuffer ed ed₂ where
  text := h'.text.trans h.text
  cursor := h'.cursor.trans h.cursor
  anchor := h'.anchor.trans h.anchor
  active := h'.active.trans h.active
  first := h'.first.trans h.first
  last := h'.last.trans h.last
  originalCursor := h'.originalCursor.trans h.originalCursor
  originalAnchor := h'.originalAnchor.trans h.originalAnchor
  replaced := h'.replaced.trans h.replaced
  cursorUtf16 := h'.cursorUtf16.trans h.cursorUtf16
  selectionBeginUtf16 := h'.selectionBeginUtf16.trans h.selectionBeginUtf16
  selectionEndUtf16 := h'.selectionEndUtf16.trans h.selectionEndUtf16

theorem rememberPendingNativeEcho_same (ed : Editor) : SameBuffer ed ed.rememberPendingNativeEcho := by
  unfold Editor.rememberPendingNativeEcho
  split <;> constructor <;> rfl

theorem selectionBegin_le (ed : Editor) : ed.selectionBegin ≤ ed.selectionEnd := by
  unfold Editor.selectionBegin Editor.selectionEnd
  omega

/-- A text with the cursor at its end. -/
def Editor.wholeText (text : Text) : Editor := { text := text, cursorByte := text.length, selectionAnchorByte := text.length }

/-- The bytes from `first` to `last` replaced, with the cursor behind the replacement. -/
def Editor.spliced (ed : Editor) (first last : Nat) (r : Text) : Editor :=
  { ed with
    text := Editor.splice ed.text first last r
    cursorByte := first + r.length
    selectionAnchorByte := first + r.length }.dropComposition

/-- The preedit text of the event, in the place of the one before it or of the selection. -/
def Editor.composing (u : Utf8proc) (ed : Editor) (event : TextEditingEvent) : Editor :=
  { ed with
    text := Editor.splice ed.text ed.replacedRange.1 ed.replacedRange.2 event.text
    cursorByte := ed.replacedRange.1 + utf8CharacterByteOffset u event.text event.start
    selectionAnchorByte := ed.replacedRange.1 + utf8CharacterByteOffset u event.text event.start
    compositionBeginByte := ed.replacedRange.1
    compositionEndByte := ed.replacedRange.1 + event.text.length
    compositionOriginalCursorByte := if ed.compositionActive then ed.compositionOriginalCursorByte else ed.cursorByte
    compositionOriginalAnchorByte := if ed.compositionActive then ed.compositionOriginalAnchorByte else ed.selectionAnchorByte
    compositionReplacedText :=
      if ed.compositionActive then ed.compositionReplacedText
      else (ed.text.drop ed.replacedRange.1).take (ed.replacedRange.2 - ed.replacedRange.1)
    compositionActive := true }

/-- The replaced text and its selection are back. -/
def Editor.cancelled (ed : Editor) : Editor :=
  { ed with
    text := Editor.splice ed.text ed.compositionBeginByte ed.compositionEndByte ed.compositionReplacedText
    cursorByte := ed.compositionOriginalCursorByte
    selectionAnchorByte := ed.compositionOriginalAnchorByte
    compositionEndByte := ed.compositionBeginByte + ed.compositionReplacedText.length
    compositionOriginalCursorByte := 0
    compositionOriginalAnchorByte := 0
    compositionReplacedText := []
    compositionActive := false }

/-- The size test of committed, preedit and pasted text. -/
def Editor.HasRoom (ed : Editor) (n : Nat) : Prop :=
  ¬ sizeSub kMaximumTextBytes (sizeSub ed.text.length (sizeSub ed.replacedRange.2 ed.replacedRange.1)) < n

/-- The key inserts a newline: Return in a multiline TextBox. -/
def Editor.insertsNewline (ed : Editor) (e : KeyEvent) : Bool :=
  ed.snapshot.focused && e.pressed && !ed.compositionActive && ed.session.properties.multiline &&
    (e.scancode == Scancode.return || e.scancode == Scancode.kpEnter)

/-- Why a replacement may be as long as it is: it is a deletion, it passed the size test, or it is
the newline of a Return key, which is not tested. -/
inductive MayGrow (ed : Editor) (act : EditorAct) (first last : Nat) : Text → Prop where
  | deletes : MayGrow ed act first last []
  | tested {r : Text} : ed.replacedRange = (first, last) → ed.HasRoom r.length → MayGrow ed act first last r
  | newline (e : KeyEvent) : act.op = .key e → ed.insertsNewline e = true → act.answers.sync.ok = true →
      act.answers.passText.ok = true → first = ed.selectionBegin → last = ed.selectionEnd → MayGrow ed act first last [0x0A]

/-- What a call can make of the buffer. -/
inductive Edits (u : Utf8proc) (ed : Editor) (act : EditorAct) (ed' : Editor) : Prop where
  | same : SameBuffer ed ed' → Edits u ed act ed'
  | whole (text : Text) : (layout u text).valid = true → text.length ≤ kMaximumTextBytes →
      SameBuffer ((Editor.wholeText text).updateSelectionSnapshot u) ed' → Edits u ed act ed'
  | spliced (first last : Nat) (r : Text) : Boundary ed.text first → Boundary ed.text last → first ≤ last → WellFormed r →
      MayGrow ed act first last r → SameBuffer ((ed.spliced first last r).updateSelectionSnapshot u) ed' → Edits u ed act ed'
  | composed (event : TextEditingEvent) : event.text ≠ [] → (layout u event.text).valid = true → ed.HasRoom event.text.length →
      SameBuffer ((ed.composing u event).updateSelectionSnapshot u) ed' → Edits u ed act ed'
  | cancelled : ed.compositionActive = true → SameBuffer (ed.cancelled.updateSelectionSnapshot u) ed' → Edits u ed act ed'
  | moved (cursor anchor : Nat) : ed.compositionActive = false → Boundary ed.text cursor → Boundary ed.text anchor →
      SameBuffer ({ ed with cursorByte := cursor, selectionAnchorByte := anchor }.updateSelectionSnapshot u) ed' →
      Edits u ed act ed'

theorem Edits.then {ed₁ ed₂ : Editor} (h : Edits u ed act ed₁) (hs : SameBuffer ed₁ ed₂) : Edits u ed act ed₂ := by
  cases h with
  | same h => exact .same (h.trans hs)
  | whole text hvalid hsize h => exact .whole text hvalid hsize (h.trans hs)
  | spliced first last r hfirst hlast hle hr hgrow h => exact .spliced first last r hfirst hlast hle hr hgrow (h.trans hs)
  | composed event hne hvalid hroom h => exact .composed event hne hvalid hroom (h.trans hs)
  | cancelled hactive h => exact .cancelled hactive (h.trans hs)
  | moved cursor anchor hc hcursor hanchor h => exact .moved cursor anchor hc hcursor hanchor (h.trans hs)

/-- A branch of an editing key. -/
theorem Edits.ite {c : Prop} [Decidable c] {x y : Edit} (hthen : c → Edits u ed act x.ed) (helse : ¬ c → Edits u ed act y.ed) :
    Edits u ed act (if c then x else y).ed := by
  by_cases h : c
  · rw [if_pos h]
    exact hthen h
  · rw [if_neg h]
    exact helse h

theorem edits_clear (cfg : EditorConfig) (ed₁ : Editor) : Edits u ed act (ed₁.clear cfg).1 :=
  .whole [] rfl (Nat.zero_le _) (by constructor <;> rfl)

/-- The native calls of a changed text: it stays, or the session ends. -/
theorem commitText_edits {ed₁ : Editor} (h : a.sync.ok = true → a.passText.ok = true → Edits u ed act ed₁) (committed : Bool) :
    Edits u ed act (ed₁.commitText cfg a committed).ed := by
  unfold Editor.commitText
  split
  · exact edits_clear cfg _
  rename_i hsync
  split
  · exact edits_clear cfg _
  rename_i hpass
  have hremember := (h (by simpa using hsync) (by simpa using hpass)).then (rememberPendingNativeEcho_same ed₁)
  cases committed with
  | false => exact hremember
  | true => exact hremember.then (by constructor <;> rfl)

theorem replaceText_edits {first last : Nat} {r : Text} (hfirst : Boundary ed.text first) (hlast : Boundary ed.text last)
    (hle : first ≤ last) (hr : WellFormed r)
    (hgrow : a.sync.ok = true → a.passText.ok = true → MayGrow ed act first last r) :
    Edits u ed act (ed.replaceText u cfg a first last r).ed := by
  unfold Editor.replaceText
  apply commitText_edits
  intro hsync hpass
  exact .spliced first last r hfirst hlast hle hr (hgrow hsync hpass) (by constructor <;> rfl)

theorem replacedRange_eq (ed : Editor) : ed.replacedRange =
    ((if ed.compositionActive then ed.compositionBeginByte else ed.selectionBegin),
      (if ed.compositionActive then ed.compositionEndByte else ed.selectionEnd)) := by
  unfold Editor.replacedRange
  split <;> rfl

/-- What a preedit event does: an empty one without a composition nothing, a rejected one nothing, an
accepted one the native calls of the buffer it made. -/
theorem replaceComposition_cases (u : Utf8proc) (cfg : EditorConfig) (a : Answers) (ed : Editor) (event : TextEditingEvent) :
    (event.text = [] ∧ ed.compositionActive = false ∧ ed.replaceComposition u cfg a event = ⟨ed, [], { handled := true }⟩) ∨
      (event.text ≠ [] ∧ ed.replaceComposition u cfg a event =
        ⟨ed, [], ⟨true, false, false, Status.invalidArgument "preedit text is invalid UTF-8 or too large"⟩⟩) ∨
      ∃ ed₁ : Editor, ed.replaceComposition u cfg a event = ed₁.commitText cfg a false ∧
        ed₁.snapshot.focused = ed.snapshot.focused ∧
        (event.text = [] ∧ ed.compositionActive = true ∧ SameBuffer (ed.cancelled.updateSelectionSnapshot u) ed₁ ∨
          event.text ≠ [] ∧ (layout u event.text).valid = true ∧ ed.HasRoom event.text.length ∧
            SameBuffer ((ed.composing u event).updateSelectionSnapshot u) ed₁) := by
  have hrange := replacedRange_eq ed
  unfold Editor.replaceComposition
  by_cases hempty : event.text = []
  · cases hactive : ed.compositionActive with
    | false => exact .inl ⟨hempty, rfl, by simp [hempty]⟩
    | true =>
      have hvalid : (layout u []).valid = true := rfl
      simp only [hempty, hvalid, List.isEmpty_nil, List.length_nil, Nat.not_lt_zero, Bool.not_true, Bool.and_true, Bool.or_false,
        decide_false, Bool.false_eq_true, if_false, if_true]
      exact .inr (.inr ⟨_, rfl, rfl, .inl ⟨trivial, trivial, rfl, rfl, rfl, rfl, rfl, rfl, rfl, rfl, rfl, rfl, rfl, rfl⟩⟩)
  have hnonempty : event.text.isEmpty = false := by simpa using hempty
  rw [if_neg (by simp [hnonempty])]
  simp only
  obtain ⟨first, hfirst⟩ : ∃ first, first = if ed.compositionActive = true then ed.compositionBeginByte else ed.selectionBegin :=
    ⟨_, rfl⟩
  obtain ⟨last, hlast⟩ : ∃ last, last = if ed.compositionActive = true then ed.compositionEndByte else ed.selectionEnd :=
    ⟨_, rfl⟩
  rw [← hfirst, ← hlast] at hrange ⊢
  split
  · exact .inr (.inl ⟨hempty, rfl⟩)
  rename_i htest
  simp only [Bool.or_eq_true, Bool.not_eq_true', decide_eq_true_eq, not_or, Bool.not_eq_false] at htest
  obtain ⟨hvalid, hroom⟩ := htest
  refine .inr (.inr ⟨_, rfl, ?_, .inr ⟨hempty, hvalid, ?_, ?_⟩⟩)
  · cases hactive : ed.compositionActive <;> simp only [hnonempty] <;> rfl
  · unfold Editor.HasRoom
    rw [hrange]
    exact hroom
  · unfold Editor.composing
    rw [hrange]
    simp only [hnonempty]
    cases hactive : ed.compositionActive <;> constructor <;> rfl

theorem replaceComposition_edits (event : TextEditingEvent) : Edits u ed act (ed.replaceComposition u cfg a event).ed := by
  rcases replaceComposition_cases u cfg a ed event with ⟨-, -, heq⟩ | ⟨-, heq⟩ | ⟨ed₁, heq, -, hbuffer⟩
  · rw [heq]
    exact .same (SameBuffer.refl ed)
  · rw [heq]
    exact .same (SameBuffer.refl ed)
  rw [heq]
  apply commitText_edits
  intro _ _
  rcases hbuffer with ⟨-, hactive, hs⟩ | ⟨hne, hvalid, hroom, hs⟩
  · exact .cancelled hactive hs
  · exact .composed event hne hvalid hroom hs

/-! ## Offsets and positions -/

/-- The composition lies around the cursor, and what it replaced fits back in its place. -/
structure Composed (ed : Editor) : Prop where
  first : Boundary ed.text ed.compositionBeginByte
  last : Boundary ed.text ed.compositionEndByte
  le_cursor : ed.compositionBeginByte ≤ ed.cursorByte
  cursor_le : ed.cursorByte ≤ ed.compositionEndByte
  replaced : WellFormed ed.compositionReplacedText
  cursor : ed.compositionOriginalCursorByte = ed.compositionBeginByte ∨
    ed.compositionOriginalCursorByte = ed.compositionBeginByte + ed.compositionReplacedText.length
  anchor : ed.compositionOriginalAnchorByte = ed.compositionBeginByte ∨
    ed.compositionOriginalAnchorByte = ed.compositionBeginByte + ed.compositionReplacedText.length

/-- All offsets are boundaries, and the published positions are theirs. -/
structure Aligned (u : Utf8proc) (ed : Editor) : Prop where
  cursor : Boundary ed.text ed.cursorByte
  anchor : Boundary ed.text ed.selectionAnchorByte
  composed : ed.compositionActive = true → Composed ed
  cursorUtf16 : ed.snapshot.cursorUtf16 = utf16Cursor u ed.text ed.cursorByte
  selectionBeginUtf16 : ed.snapshot.selectionBeginUtf16 = utf16Cursor u ed.text ed.selectionBegin
  selectionEndUtf16 : ed.snapshot.selectionEndUtf16 = utf16Cursor u ed.text ed.selectionEnd

theorem Aligned.text (h : Aligned u ed) : WellFormed ed.text := h.cursor.wellFormed

theorem Aligned.selectionBegin (h : Aligned u ed) : Boundary ed.text ed.selectionBegin := by
  unfold Editor.selectionBegin
  rcases Nat.le_total ed.cursorByte ed.selectionAnchorByte with hle | hle
  · rw [Nat.min_eq_left hle]
    exact h.cursor
  · rw [Nat.min_eq_right hle]
    exact h.anchor

theorem Aligned.selectionEnd (h : Aligned u ed) : Boundary ed.text ed.selectionEnd := by
  unfold Editor.selectionEnd
  rcases Nat.le_total ed.cursorByte ed.selectionAnchorByte with hle | hle
  · rw [Nat.max_eq_right hle]
    exact h.anchor
  · rw [Nat.max_eq_left hle]
    exact h.cursor

theorem Aligned.range (h : Aligned u ed) : Boundary ed.text ed.replacedRange.1 ∧ Boundary ed.text ed.replacedRange.2 ∧
    ed.replacedRange.1 ≤ ed.replacedRange.2 := by
  unfold Editor.replacedRange
  split
  · rename_i hc
    have hcomposed := h.composed hc
    exact ⟨hcomposed.first, hcomposed.last, le_trans hcomposed.le_cursor hcomposed.cursor_le⟩
  · exact ⟨h.selectionBegin, h.selectionEnd, selectionBegin_le ed⟩

variable {ed' : Editor}

theorem Aligned.same (h : Aligned u ed) (hs : SameBuffer ed ed') : Aligned u ed' := by
  have hbegin : ed'.selectionBegin = ed.selectionBegin := by
    unfold Editor.selectionBegin
    rw [hs.cursor, hs.anchor]
  have hend : ed'.selectionEnd = ed.selectionEnd := by
    unfold Editor.selectionEnd
    rw [hs.cursor, hs.anchor]
  refine ⟨by rw [hs.text, hs.cursor]; exact h.cursor, by rw [hs.text, hs.anchor]; exact h.anchor, fun ha => ?_, ?_, ?_, ?_⟩
  · obtain ⟨h1, h2, h3, h4, h5, h6, h7⟩ := h.composed (hs.active ▸ ha)
    refine ⟨?_, ?_, ?_, ?_, ?_, ?_, ?_⟩ <;>
      simp only [hs.text, hs.first, hs.last, hs.cursor, hs.replaced, hs.originalCursor, hs.originalAnchor] <;> assumption
  · rw [hs.cursorUtf16, hs.text, hs.cursor]
    exact h.cursorUtf16
  · rw [hs.selectionBeginUtf16, hs.text, hbegin]
    exact h.selectionBeginUtf16
  · rw [hs.selectionEndUtf16, hs.text, hend]
    exact h.selectionEndUtf16

/-- The positions are published after every change. -/
theorem aligned_published (hcursor : Boundary ed.text ed.cursorByte) (hanchor : Boundary ed.text ed.selectionAnchorByte)
    (hcomposed : ed.compositionActive = true → Composed ed) : Aligned u (ed.updateSelectionSnapshot u) :=
  ⟨hcursor, hanchor, fun hc =>
    have h := hcomposed hc
    ⟨h.first, h.last, h.le_cursor, h.cursor_le, h.replaced, h.cursor, h.anchor⟩, rfl, rfl, rfl⟩

/-- What the selection holds, and where the offsets stand to it. -/
theorem Aligned.selected (h : Aligned u ed) :
    WellFormed ((ed.text.drop ed.selectionBegin).take (ed.selectionEnd - ed.selectionBegin)) ∧
      ((ed.text.drop ed.selectionBegin).take (ed.selectionEnd - ed.selectionBegin)).length = ed.selectionEnd - ed.selectionBegin ∧
      (ed.cursorByte = ed.selectionBegin ∨ ed.cursorByte = ed.selectionEnd) ∧
      (ed.selectionAnchorByte = ed.selectionBegin ∨ ed.selectionAnchorByte = ed.selectionEnd) := by
  have hle := selectionBegin_le ed
  refine ⟨h.selectionBegin.between h.selectionEnd hle, ?_, ?_, ?_⟩
  · rw [List.length_take, List.length_drop]
    have := h.selectionEnd.le
    omega
  · unfold Editor.selectionBegin Editor.selectionEnd
    omega
  · unfold Editor.selectionBegin Editor.selectionEnd
    omega

theorem composing_aligned (hu : u.Decodes) (h : Aligned u ed) (event : TextEditingEvent)
    (hvalid : (layout u event.text).valid = true) : Aligned u ((ed.composing u event).updateSelectionSnapshot u) := by
  have htext := (layout_sound hu hvalid).text
  have hcaret := utf8CharacterByteOffset_boundary hu htext event.start
  obtain ⟨hfirst, hlast, hle⟩ := h.range
  have hplace := hfirst.splice hlast hcaret
  refine aligned_published hplace hplace fun _ => ?_
  have hsaved : WellFormed (ed.composing u event).compositionReplacedText ∧
      ((ed.composing u event).compositionOriginalCursorByte = ed.replacedRange.1 ∨
        (ed.composing u event).compositionOriginalCursorByte =
        ed.replacedRange.1 + (ed.composing u event).compositionReplacedText.length) ∧
      ((ed.composing u event).compositionOriginalAnchorByte = ed.replacedRange.1 ∨
        (ed.composing u event).compositionOriginalAnchorByte =
        ed.replacedRange.1 + (ed.composing u event).compositionReplacedText.length) := by
    unfold Editor.composing Editor.replacedRange
    cases hactive : ed.compositionActive with
    | true =>
      have hcomposed := h.composed hactive
      exact ⟨hcomposed.replaced, hcomposed.cursor, hcomposed.anchor⟩
    | false =>
      obtain ⟨hwf, hlen, hcursor, hanchor⟩ := h.selected
      have hend : ed.selectionBegin + (ed.selectionEnd - ed.selectionBegin) = ed.selectionEnd :=
        Nat.add_sub_cancel' (selectionBegin_le ed)
      simp only [Bool.false_eq_true, if_false, hlen, hend]
      exact ⟨hwf, hcursor, hanchor⟩
  exact ⟨hfirst.splice hlast (boundary_zero htext), hfirst.splice hlast (boundary_length htext), Nat.le_add_right _ _,
    Nat.add_le_add_left hcaret.le _, hsaved.1, hsaved.2.1, hsaved.2.2⟩

theorem cancelled_aligned (h : Composed ed) : Aligned u (ed.cancelled.updateSelectionSnapshot u) := by
  have hback : ∀ original, original = ed.compositionBeginByte ∨
      original = ed.compositionBeginByte + ed.compositionReplacedText.length →
        Boundary (Editor.splice ed.text ed.compositionBeginByte ed.compositionEndByte ed.compositionReplacedText) original := by
    intro original hor
    rcases hor with rfl | rfl
    · exact h.first.splice h.last (boundary_zero h.replaced)
    · exact h.first.splice h.last (boundary_length h.replaced)
  exact aligned_published (hback _ h.cursor) (hback _ h.anchor) nofun

theorem Edits.aligned (hu : u.Decodes) (h : Aligned u ed) (he : Edits u ed act ed') : Aligned u ed' := by
  cases he with
  | same hs => exact h.same hs
  | whole text hvalid hsize hs =>
    have hend := boundary_length (layout_sound hu hvalid).text
    exact (aligned_published hend hend fun hc => absurd hc Bool.false_ne_true).same hs
  | spliced first last r hfirst hlast hle hr hgrow hs =>
    have hend := hfirst.splice hlast (boundary_length hr)
    exact (aligned_published hend hend fun hc => absurd hc Bool.false_ne_true).same hs
  | composed event hne hvalid hroom hs => exact (composing_aligned hu h event hvalid).same hs
  | cancelled hactive hs => exact (cancelled_aligned (h.composed hactive)).same hs
  | moved cursor anchor hc hcursor hanchor hs =>
    refine (aligned_published hcursor hanchor fun hactive => ?_).same hs
    exact absurd (hc.symm.trans hactive) (by decide)

/-! ## Every call -/

theorem lowerBound_le (bounds : List Nat) (x : Nat) : Editor.lowerBound bounds x ≤ bounds.length :=
  (List.takeWhile_prefix _).length_le

variable {bounds : List Nat}

/-- Everything before the lower bound is below `x`. -/
theorem lt_of_lt_lowerBound {x i : Nat} (h : i < Editor.lowerBound bounds x) (hi : i < bounds.length) :
    bounds[i] < x := by
  induction bounds generalizing i with
  | nil => cases hi
  | cons b bounds ih =>
    unfold Editor.lowerBound at h ih
    by_cases hb : b < x
    · rw [List.takeWhile_cons_of_pos (by simpa using hb), List.length_cons] at h
      cases i with
      | zero => exact hb
      | succ i => exact ih (Nat.lt_of_succ_lt_succ h) (Nat.lt_of_succ_lt_succ hi)
    · rw [List.takeWhile_cons_of_neg (by simpa using hb)] at h
      cases h

variable {x : Nat}

theorem le_lowerBound (h : Editor.lowerBound bounds x < bounds.length) :
    x ≤ bounds[Editor.lowerBound bounds x] := by
  induction bounds with
  | nil => cases h
  | cons b bounds ih =>
    by_cases hb : b < x
    · have hnext : Editor.lowerBound (b :: bounds) x = Editor.lowerBound bounds x + 1 := by
        unfold Editor.lowerBound
        rw [List.takeWhile_cons_of_pos (by simpa using hb), List.length_cons]
      simp only [hnext, List.length_cons, Nat.add_lt_add_iff_right] at h
      simp only [hnext, List.getElem_cons_succ]
      exact ih h
    · have hzero : Editor.lowerBound (b :: bounds) x = 0 := by
        unfold Editor.lowerBound
        rw [List.takeWhile_cons_of_neg (by simpa using hb)]
        rfl
      simp only [hzero, List.getElem_cons_zero]
      omega

theorem shortcutBit_cases (scancode : UInt32) : shortcutBit scancode = kShortcutSelectAll ∨
    shortcutBit scancode = kShortcutCopy ∨ shortcutBit scancode = kShortcutPaste ∨ shortcutBit scancode = kShortcutCut ∨
    shortcutBit scancode = 0 := by
  unfold shortcutBit
  split
  · simp
  split
  · simp
  split
  · simp
  split
  · simp
  · simp

theorem Aligned.indexed (hu : u.Decodes) (h : Aligned u ed) (i : Nat) :
    Boundary ed.text ((layout u ed.text).graphemeBoundaries.getD i 0) := by
  obtain ⟨-, hboundary⟩ := layout_ascending hu h.text
  by_cases hi : i < (layout u ed.text).graphemeBoundaries.length
  · rw [List.getD_eq_getElem _ _ hi]
    exact hboundary _ (List.getElem_mem hi)
  · rw [List.getD_eq_default _ _ (by omega)]
    exact boundary_zero h.text

/-- The boundary the code takes for the one before the cursor. -/
theorem previous_lt (hne : Editor.lowerBound bounds x ≠ 0) :
    bounds.getD (Editor.lowerBound bounds x - 1) 0 < x := by
  have hle := lowerBound_le bounds x
  rw [List.getD_eq_getElem _ _ (by omega)]
  exact lt_of_lt_lowerBound (by omega) (by omega)

/-- The boundary the code takes for the one after it. -/
theorem lt_next (hsorted : bounds.Pairwise (· < ·))
    (hlt : Editor.lowerBound bounds x + 1 < bounds.length) : x < bounds.getD (Editor.lowerBound bounds x + 1) 0 := by
  have hcurrent : Editor.lowerBound bounds x < bounds.length := by omega
  have hle := le_lowerBound hcurrent
  have hless : bounds[Editor.lowerBound bounds x] < bounds[Editor.lowerBound bounds x + 1] :=
    List.pairwise_iff_getElem.mp hsorted _ _ hcurrent hlt (by omega)
  rw [List.getD_eq_getElem _ _ hlt]
  omega

theorem movedFrom_edits {cursor anchor : Nat} (hc : ed.compositionActive = false) (hcursor : Boundary ed.text cursor)
    (hanchor : Boundary ed.text anchor) :
    Edits u ed act (Editor.movedFrom u cfg a { ed with cursorByte := cursor, selectionAnchorByte := anchor } ed).ed := by
  have hmoved : Edits u ed act ({ ed with cursorByte := cursor, selectionAnchorByte := anchor }.updateSelectionSnapshot u) :=
    .moved cursor anchor hc hcursor hanchor (SameBuffer.refl _)
  unfold Editor.movedFrom
  split
  · rename_i hstill
    simp only [Bool.and_eq_true, beq_iff_eq] at hstill
    obtain ⟨rfl, rfl⟩ := hstill
    exact .same (SameBuffer.refl ed)
  simp only
  split
  · exact hmoved
  split
  · exact edits_clear cfg _
  · exact hmoved

theorem moveCursor_edits (h : Aligned u ed) (hc : ed.compositionActive = false) {offset : Nat} (hoffset : Boundary ed.text offset)
    (extend : Bool) : Edits u ed act (ed.moveCursor u cfg a offset extend).ed := by
  unfold Editor.moveCursor
  apply movedFrom_edits hc hoffset
  cases extend with
  | false => exact hoffset
  | true => exact h.anchor

theorem finish_edits : Edits u ed act (ed.finish cfg a).ed := by
  unfold Editor.finish
  simp only
  split
  · exact edits_clear cfg _
  split
  · exact edits_clear cfg _
  split
  · exact .same (SameBuffer.refl ed)
  split
  · exact edits_clear cfg _
  · exact edits_clear cfg _

theorem release_edits : Edits u ed act (ed.release cfg a).ed := by
  unfold Editor.release
  simp only
  split
  · exact .same (by constructor <;> rfl)
  · exact edits_clear cfg _

theorem replaceSelection_edits (h : Aligned u ed) {r : Text} (hr : WellFormed r)
    (hgrow : a.sync.ok = true → a.passText.ok = true → MayGrow ed act ed.selectionBegin ed.selectionEnd r) :
    Edits u ed act (ed.replaceText u cfg a ed.selectionBegin ed.selectionEnd r).ed :=
  replaceText_edits h.selectionBegin h.selectionEnd (selectionBegin_le ed) hr hgrow

theorem copySelection_edits (h : Aligned u ed) (cut : Bool) : Edits u ed act (ed.copySelection u cfg a cut).ed := by
  unfold Editor.copySelection
  split
  · exact .same (SameBuffer.refl ed)
  simp only
  split
  · exact .same (SameBuffer.refl ed)
  · exact replaceSelection_edits h wellFormed_nil fun _ _ => .deletes

theorem paste_edits (hu : u.Decodes) (h : Aligned u ed) (hc : ed.compositionActive = false) :
    Edits u ed act (ed.paste u cfg a).ed := by
  unfold Editor.paste
  split
  · exact .same (SameBuffer.refl ed)
  split
  · exact .same (SameBuffer.refl ed)
  rename_i htest
  simp only [Bool.or_eq_true, Bool.not_eq_true', decide_eq_true_eq, not_or, Bool.not_eq_false] at htest
  obtain ⟨⟨-, hroom⟩, hvalid⟩ := htest
  have hrange : ed.replacedRange = (ed.selectionBegin, ed.selectionEnd) := by simp [Editor.replacedRange, hc]
  refine replaceSelection_edits h (layout_sound hu hvalid).text fun _ _ => .tested hrange ?_
  unfold Editor.HasRoom
  rw [hrange]
  exact hroom

theorem editText_edits (hu : u.Decodes) (h : Aligned u ed) (hc : ed.compositionActive = false) (e : KeyEvent)
    (hnewline : ed.session.properties.multiline = true → e.scancode ≠ Scancode.backspace → e.scancode ≠ Scancode.delete →
      e.scancode ≠ Scancode.left → e.scancode ≠ Scancode.right → e.scancode ≠ Scancode.home → e.scancode ≠ Scancode.end →
      e.scancode ≠ Scancode.escape → a.sync.ok = true → a.passText.ok = true →
      MayGrow ed act ed.selectionBegin ed.selectionEnd [0x0A]) : Edits u ed act (ed.editText u cfg a e).ed := by
  have hindexed := h.indexed hu
  have hsorted := (layout_ascending hu h.text).1
  have hdelete : Edits u ed act (ed.replaceText u cfg a ed.selectionBegin ed.selectionEnd []).ed :=
    replaceSelection_edits h wellFormed_nil fun _ _ => .deletes
  unfold Editor.editText
  simp only
  generalize (layout u ed.text).graphemeBoundaries = bounds at hindexed hsorted
  refine .ite (fun _ => ?_) fun hbackspace => ?_
  · -- Backspace
    refine .ite (fun _ => hdelete) fun _ => .ite (fun _ => .same (SameBuffer.refl ed)) fun hne => ?_
    exact replaceText_edits (hindexed _) h.cursor (le_of_lt (previous_lt (by simpa using hne))) wellFormed_nil fun _ _ => .deletes
  refine .ite (fun _ => ?_) fun hdel => ?_
  · -- Delete
    refine .ite (fun _ => hdelete) fun _ => .ite (fun _ => .same (SameBuffer.refl ed)) fun hne => ?_
    simp only [Bool.or_eq_true, beq_iff_eq, not_or] at hne
    have hle := lowerBound_le bounds ed.cursorByte
    exact replaceText_edits h.cursor (hindexed _) (le_of_lt (lt_next hsorted (by omega))) wellFormed_nil fun _ _ => .deletes
  refine .ite (fun _ => ?_) fun hleft => ?_
  · -- Left
    refine .ite (fun _ => moveCursor_edits h hc h.selectionBegin false) fun _ => moveCursor_edits h hc ?_ _
    split
    · exact h.cursor
    · exact hindexed _
  refine .ite (fun _ => ?_) fun hright => ?_
  · -- Right
    refine .ite (fun _ => moveCursor_edits h hc h.selectionEnd false) fun _ => moveCursor_edits h hc ?_ _
    split
    · exact h.cursor
    · exact hindexed _
  refine .ite (fun _ => moveCursor_edits h hc (boundary_zero h.text) _) fun hhome => ?_
  refine .ite (fun _ => moveCursor_edits h hc (boundary_length h.text) _) fun hend => ?_
  refine .ite (fun _ => release_edits) fun hescape => ?_
  refine .ite (fun hmultiline => ?_) fun _ => finish_edits
  simp only [beq_iff_eq] at hbackspace hdel hleft hright hhome hend hescape
  exact replaceSelection_edits h (wellFormed_ascii (List.all_iff_forall_prop.mp (by decide)))
    (hnewline hmultiline hbackspace hdel hleft hright hhome hend hescape)

/-- The noted shortcuts are no part of the buffer. -/
theorem Edits.noted {shortcuts : UInt32} (h : Edits u { ed with activeShortcuts := shortcuts } act ed') :
    Edits u ed act ed' := by
  have hsame : ∀ {ed₁ ed₂ : Editor}, SameBuffer ed₂ ed' → SameBuffer ed₁ ed₂ → SameBuffer ed₁ ed' := fun h h' => h'.trans h
  cases h with
  | same hs => exact .same (hsame hs (by constructor <;> rfl))
  | whole text hvalid hsize hs => exact .whole text hvalid hsize hs
  | spliced first last r hfirst hlast hle hr hgrow hs =>
    refine .spliced first last r hfirst hlast hle hr ?_
      (hsame hs (by constructor <;> rfl))
    cases hgrow with
    | deletes => exact .deletes
    | tested hrange hroom => exact .tested hrange hroom
    | newline e hop hkey hsync hpass hfirst hlast => exact .newline e hop hkey hsync hpass hfirst hlast
  | composed event hne hvalid hroom hs =>
    exact .composed event hne hvalid hroom (hsame hs (by constructor <;> rfl))
  | cancelled hactive hs =>
    exact .cancelled hactive (hsame hs (by constructor <;> rfl))
  | moved cursor anchor hc hcursor hanchor hs =>
    exact .moved cursor anchor hc hcursor hanchor (hsame hs (by constructor <;> rfl))

/-- A pressed editing key without a composition. -/
theorem pressed_edits (hu : u.Decodes) (h : Aligned u ed) (hc : ed.compositionActive = false) (e : KeyEvent)
    (hfocused : ed.snapshot.focused = true) (hpressed : e.pressed = true) (hkey : e.editKey = true) :
    Edits u ed ⟨.key e, a⟩ (if shortcutBit e.scancode == kShortcutSelectAll then ed.selectAll u cfg a
      else if shortcutBit e.scancode == kShortcutCopy then ed.copySelection u cfg a false
      else if shortcutBit e.scancode == kShortcutPaste then ed.paste u cfg a
      else if shortcutBit e.scancode == kShortcutCut then ed.copySelection u cfg a true
      else ed.editText u cfg a e).ed := by
  refine .ite (fun _ => movedFrom_edits hc (boundary_length h.text) (boundary_zero h.text)) fun hall => ?_
  refine .ite (fun _ => copySelection_edits h false) fun hcopy => ?_
  refine .ite (fun _ => paste_edits hu h hc) fun hpaste => ?_
  refine .ite (fun _ => copySelection_edits h true) fun hcut => ?_
  have hzero : shortcutBit e.scancode = 0 := by
    simp only [beq_iff_eq] at hall hcopy hpaste hcut
    rcases shortcutBit_cases e.scancode with hb | hb | hb | hb | hb
    · exact absurd hb hall
    · exact absurd hb hcopy
    · exact absurd hb hpaste
    · exact absurd hb hcut
    · exact hb
  have hshortcut : e.shortcut = false := by simp [KeyEvent.shortcut, hzero]
  refine editText_edits hu h hc e fun hmultiline hbackspace hdelete hleft hright hhome hend hescape hsync hpass => ?_
  -- Return is the only editing key that is left
  have hreturn : (e.scancode == Scancode.return || e.scancode == Scancode.kpEnter) = true := by
    simp only [KeyEvent.editKey, hshortcut, Bool.or_false, Bool.or_eq_true, beq_iff_eq] at hkey
    simp only [Bool.or_eq_true, beq_iff_eq]
    simpa only [hbackspace, hdelete, hleft, hright, hhome, hend, hescape, false_or, or_false] using hkey
  refine .newline e rfl ?_ hsync hpass rfl rfl
  simp [Editor.insertsNewline, hfocused, hpressed, hc, hmultiline, hreturn]

theorem handleKey_edits (hu : u.Decodes) (h : Aligned u ed) (e : KeyEvent) :
    Edits u ed ⟨.key e, a⟩ (ed.handleKey u cfg a e).ed := by
  unfold Editor.handleKey
  extract_lets bit noted
  refine .ite (fun _ => .same (SameBuffer.refl ed)) fun hfocused => ?_
  refine .ite (fun _ => .same (by constructor <;> rfl)) fun _ => ?_
  refine .ite (fun _ => .same (SameBuffer.refl ed)) fun hkey => ?_
  refine .ite (fun _ => .same (SameBuffer.refl ed)) fun hpressed => ?_
  have hnoted : ∃ shortcuts, noted = { ed with activeShortcuts := shortcuts } := by
    by_cases hs : e.shortcut = true
    · exact ⟨ed.activeShortcuts ||| bit, if_pos hs⟩
    · exact ⟨ed.activeShortcuts, if_neg hs⟩
  obtain ⟨shortcuts, hnoted⟩ := hnoted
  rw [hnoted]
  refine .ite (fun _ => .same (by constructor <;> rfl)) fun hc => ?_
  have haligned : Aligned u { ed with activeShortcuts := shortcuts } :=
    h.same (by constructor <;> rfl)
  exact (pressed_edits hu haligned (by simpa using hc) e (by simpa using hfocused) (by simpa using hpressed)
    (by simpa using hkey)).noted

theorem handleTextInput_edits (hu : u.Decodes) (h : Aligned u ed) (text : Text) :
    Edits u ed act (ed.handleTextInput u cfg a text).ed := by
  have hrange := replacedRange_eq ed
  unfold Editor.handleTextInput
  split
  · exact .same (SameBuffer.refl ed)
  split
  · exact .same (SameBuffer.refl ed)
  simp only
  generalize (if ed.compositionActive = true then ed.compositionBeginByte else ed.selectionBegin) = first at hrange
  generalize (if ed.compositionActive = true then ed.compositionEndByte else ed.selectionEnd) = last at hrange
  split
  · exact .same (SameBuffer.refl ed)
  rename_i htest
  simp only [Bool.or_eq_true, Bool.not_eq_true', decide_eq_true_eq, not_or, Bool.not_eq_false] at htest
  obtain ⟨hfirst, hlast, hle⟩ := h.range
  rw [hrange] at hfirst hlast hle
  refine replaceText_edits hfirst hlast hle (layout_sound hu htest.1).text fun _ _ => .tested hrange ?_
  unfold Editor.HasRoom
  rw [hrange]
  exact htest.2

theorem handleTextEditing_edits (event : TextEditingEvent) : Edits u ed act (ed.handleTextEditing u cfg a event).ed := by
  unfold Editor.handleTextEditing
  split
  · exact .same (SameBuffer.refl ed)
  · exact replaceComposition_edits event

theorem beginFocusSession_edits (session : TextFocusSession) (text : Text) :
    Edits u ed act (ed.beginFocusSession u cfg session text).1 := by
  unfold Editor.beginFocusSession
  split
  · exact .same (SameBuffer.refl ed)
  split
  · exact .same (SameBuffer.refl ed)
  rename_i htest
  simp only [Bool.or_eq_true, decide_eq_true_eq, Bool.not_eq_true', not_or, Nat.not_lt, Bool.not_eq_false] at htest
  split
  · exact .same (SameBuffer.refl ed)
  · exact .whole text htest.2 htest.1 (by constructor <;> rfl)

theorem endFocusSession_edits (handle : Int) (generation : Nat) (notify : Bool) :
    Edits u ed act (ed.endFocusSession cfg a handle generation notify).1 := by
  unfold Editor.endFocusSession
  split
  · exact .same (SameBuffer.refl ed)
  split
  · exact .same (SameBuffer.refl ed)
  · exact edits_clear cfg _

theorem replaceFocusedTextFromEngine_edits (generation : Nat) (text : Text) :
    Edits u ed act (ed.replaceFocusedTextFromEngine u cfg generation text).1 := by
  unfold Editor.replaceFocusedTextFromEngine
  split
  · exact .same (SameBuffer.refl ed)
  split
  · exact .same (SameBuffer.refl ed)
  rename_i htest
  simp only [Bool.or_eq_true, decide_eq_true_eq, Bool.not_eq_true', not_or, Nat.not_lt, Bool.not_eq_false] at htest
  split
  · exact .whole [] rfl (Nat.zero_le _) (by constructor <;> rfl)
  split
  · rename_i ed' hecho
    unfold Editor.consumePendingNativeEcho at hecho
    split at hecho
    · cases hecho
      exact .same (by constructor <;> rfl)
    · cases hecho
  split
  · exact .same (SameBuffer.refl ed)
  · exact .whole text htest.2 htest.1 (by constructor <;> rfl)

theorem updateFocusProperties_same (ed : Editor) (cfg : EditorConfig) (generation : Nat) (properties : TextFocusProperties) :
    SameBuffer ed (ed.updateFocusProperties cfg generation properties).1 := by
  unfold Editor.updateFocusProperties
  split
  · exact SameBuffer.refl ed
  · constructor <;> rfl

theorem step_edits (hu : u.Decodes) (h : Aligned u ed) (act : EditorAct) : Edits u ed act (stepEditor u cfg ed act).1 := by
  obtain ⟨op, a⟩ := act
  cases op with
  | beginFocus session text => exact beginFocusSession_edits session text
  | endFocus handle generation notify => exact endFocusSession_edits handle generation notify
  | replaceFromEngine generation text => exact replaceFocusedTextFromEngine_edits generation text
  | updateProperties generation properties => exact .same (updateFocusProperties_same ed cfg generation properties)
  | textInput text => exact handleTextInput_edits hu h text
  | textEditing event => exact handleTextEditing_edits event
  | key e => exact handleKey_edits hu h e

/-! ## Every run -/

theorem aligned_start : Aligned u {} :=
  ⟨boundary_zero wellFormed_nil, boundary_zero wellFormed_nil, nofun, rfl, rfl, rfl⟩

theorem run_aligned (hu : u.Decodes) (cfg : EditorConfig) (acts : List EditorAct) :
    Aligned u ((textEditor u cfg).run {} acts).1 :=
  (textEditor u cfg).run_induct (I := fun ed _ => Aligned u ed) aligned_start
    (fun _ _ act h => (step_edits hu h act).aligned hu h) acts

end Mocktail.Input

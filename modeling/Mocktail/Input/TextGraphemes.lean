/-
  Mocktail.Input.TextGraphemes — the keys that go from grapheme to grapheme.

  `graphemes` lists the grapheme boundaries of a text from the answers of the break function
  alone. The list of `Layout` is a prefix of it, and all of it when the layout is valid
  (`layout_graphemes`). Backspace and Left take the boundary before the lower bound of the
  cursor, Delete and Right the one after it: that is the next boundary only where the lower
  bound is the cursor itself, and a cursor may stand inside a grapheme, since inserted text
  can join what is behind it. `graphemeKeys_iff` says where all four keys are right.
-/

import Mathlib.Data.Nat.Find
import Mathlib.Order.Bounds.Basic
import Mocktail.Input.TextComposition

namespace Mocktail.Input

open Mocktail.Lib Mocktail.Lib.Utf8

variable {u : Utf8proc} {cfg : EditorConfig} {a : Answers} {ed : Editor}

/-! ## Grapheme boundaries -/

/-- The boundaries from `offset` on, `previous` being the code point before it. -/
def graphemesFrom (u : Utf8proc) : List Nat → Nat → Nat → Int → List Nat
  | [], offset, _, _ => [offset]
  | c :: cs, offset, previous, state =>
    let rest := graphemesFrom u cs (offset + (encode c).length) c (u.graphemeBreakStateful previous c state).2
    if (u.graphemeBreakStateful previous c state).1 then offset :: rest else rest

/-- The start, the end and every place where the break function breaks. -/
def graphemes (u : Utf8proc) : List Nat → List Nat
  | [] => [0]
  | c :: cs => 0 :: graphemesFrom u cs (encode c).length c 0

def GraphemeBoundary (u : Utf8proc) (text : Text) (b : Nat) : Prop :=
  ∃ cs : List Nat, (∀ c ∈ cs, Scalar c) ∧ text = cs.flatMap encode ∧ b ∈ graphemes u cs

theorem graphemeBoundary_iff {cs : List Nat} (hcs : ∀ c ∈ cs, Scalar c) (b : Nat) :
    GraphemeBoundary u (cs.flatMap encode) b ↔ b ∈ graphemes u cs := by
  constructor
  · rintro ⟨ds, hds, heq, hb⟩
    rw [flatMap_encode_inj hcs hds heq]
    exact hb
  · exact fun hb => ⟨cs, hcs, rfl, hb⟩

theorem le_graphemesFrom (cs : List Nat) (offset previous : Nat) (state : Int) :
    ∀ b ∈ graphemesFrom u cs offset previous state, offset ≤ b := by
  induction cs generalizing offset previous state with
  | nil => simp [graphemesFrom]
  | cons c cs ih =>
    have hrest : ∀ b ∈ graphemesFrom u cs (offset + (encode c).length) c (u.graphemeBreakStateful previous c state).2,
        offset ≤ b :=
      fun b hb => le_trans (Nat.le_add_right _ _) (ih _ _ _ b hb)
    intro b hb
    simp only [graphemesFrom] at hb
    split at hb
    · rcases List.mem_cons.mp hb with rfl | hb
      · exact le_rfl
      · exact hrest b hb
    · exact hrest b hb

theorem graphemesFrom_sorted (cs : List Nat) (offset previous : Nat) (state : Int) :
    (graphemesFrom u cs offset previous state).Pairwise (· < ·) := by
  induction cs generalizing offset previous state with
  | nil => simp [graphemesFrom]
  | cons c cs ih =>
    have hpos := encode_length_pos c
    simp only [graphemesFrom]
    split
    · refine List.pairwise_cons.mpr ⟨fun b hb => ?_, ih _ _ _⟩
      have := le_graphemesFrom cs _ _ _ b hb
      omega
    · exact ih _ _ _

theorem graphemes_sorted (u : Utf8proc) (cs : List Nat) : (graphemes u cs).Pairwise (· < ·) := by
  cases cs with
  | nil => simp [graphemes]
  | cons c cs =>
    have hpos := encode_length_pos c
    refine List.pairwise_cons.mpr ⟨fun b hb => ?_, graphemesFrom_sorted cs _ _ _⟩
    have := le_graphemesFrom cs _ _ _ b hb
    omega

theorem mem_graphemesFrom_end (cs : List Nat) (offset previous : Nat) (state : Int) :
    offset + (cs.flatMap encode).length ∈ graphemesFrom u cs offset previous state := by
  induction cs generalizing offset previous state with
  | nil => simp [graphemesFrom]
  | cons c cs ih =>
    have hend := ih (offset + (encode c).length) c (u.graphemeBreakStateful previous c state).2
    rw [Nat.add_assoc, ← List.length_append, ← List.flatMap_cons] at hend
    simp only [graphemesFrom]
    split
    · exact List.mem_cons_of_mem _ hend
    · exact hend

/-! ## What the layout lists -/

theorem layoutLoop_keeps (u : Utf8proc) (size fuel : Nat) (text : Text) (offset : Nat) (previous : Option Nat) (state : Int)
    (units : Nat) (bounds : List Nat) :
    bounds <+: (layoutLoop u size fuel text offset previous state units bounds).graphemeBoundaries := by
  induction fuel generalizing text offset previous state units bounds with
  | zero => exact List.prefix_rfl
  | succ fuel ih =>
    cases text with
    | nil =>
      simp only [layoutLoop]
      split
      · exact List.prefix_rfl
      · exact List.prefix_append _ _
    | cons b bs =>
      simp only [layoutLoop]
      split
      · exact List.prefix_rfl
      have hadded : ∀ broken : Bool, bounds <+: if broken = true then bounds ++ [offset] else bounds := by
        intro broken
        split
        · exact List.prefix_append _ _
        · exact List.prefix_rfl
      split
      · exact hadded _
      · exact (hadded _).trans (ih _ _ _ _ _ _)

theorem layout_head (u : Utf8proc) (text : Text) : (layout u text).graphemeBoundaries.head? = some 0 := by
  obtain ⟨added, hadded⟩ := layoutLoop_keeps u text.length (text.length + 1) text 0 none 0 0 [0]
  unfold layout
  rw [← hadded]
  rfl

section Decodes

variable (hu : u.Decodes)
include hu

/-- The loop adds the boundaries that are left, unless it stops at the limit. -/
theorem layoutLoop_graphemes {size : Nat} (cs : List Nat) (hcs : ∀ c ∈ cs, Scalar c) (fuel offset previous : Nat) (state : Int)
    (units : Nat) (bounds : List Nat) (hf : cs.length < fuel) (hsize : offset + (cs.flatMap encode).length = size)
    (hbounds : ∀ b ∈ bounds, b < size) :
    ∃ rest, (layoutLoop u size fuel (cs.flatMap encode) offset (some previous) state units bounds).graphemeBoundaries ++ rest =
        bounds ++ graphemesFrom u cs offset previous state ∧
      ((layoutLoop u size fuel (cs.flatMap encode) offset (some previous) state units bounds).valid = true ↔ rest = []) := by
  induction cs generalizing fuel offset previous state units bounds with
  | nil =>
    obtain ⟨fuel, rfl⟩ := Nat.exists_eq_succ_of_ne_zero (Nat.ne_of_gt hf)
    simp only [List.flatMap_nil, List.length_nil, Nat.add_zero] at hsize
    have hlast : bounds.getLast? ≠ some size := fun h => absurd (hbounds size (List.mem_of_getLast? h)) (Nat.lt_irrefl _)
    refine ⟨[], ?_, by simp [layoutLoop]⟩
    simp [layoutLoop, graphemesFrom, hlast, hsize]
  | cons c cs ih =>
    simp only [List.length_cons] at hf
    rw [List.flatMap_cons, List.length_append] at hsize
    obtain ⟨fuel, rfl⟩ := Nat.exists_eq_succ_of_ne_zero (by omega : fuel ≠ 0)
    have hpos := encode_length_pos c
    have hcs' : ∀ d ∈ cs, Scalar d := fun d hd => hcs d (by simp [hd])
    rw [List.flatMap_cons, layoutLoop_encode hu size fuel c (cs.flatMap encode) (hcs c (by simp))]
    -- the boundary of this code point is noted before the limit is tested
    have hhere : ∀ rest, (if (breakBefore u (some previous) c state).1 then bounds ++ [offset] else bounds) ++ rest =
        bounds ++ (if (u.graphemeBreakStateful previous c state).1 then offset :: rest else rest) := by
      intro rest
      show (if (u.graphemeBreakStateful previous c state).1 then bounds ++ [offset] else bounds) ++ rest = _
      split <;> simp
    split
    · refine ⟨graphemesFrom u cs (offset + (encode c).length) c (u.graphemeBreakStateful previous c state).2, ?_, ?_⟩
      · rw [hhere]
        rfl
      · have hmem := mem_graphemesFrom_end (u := u) cs (offset + (encode c).length) c (u.graphemeBreakStateful previous c state).2
        constructor
        · exact fun h => absurd h Bool.false_ne_true
        · intro hnil
          rw [hnil] at hmem
          cases hmem
    · obtain ⟨rest, heq, hvalid⟩ := ih hcs' fuel (offset + (encode c).length) c (breakBefore u (some previous) c state).2
        (units + utf16Width c) (if (breakBefore u (some previous) c state).1 then bounds ++ [offset] else bounds)
        (by omega) (by omega) (by
          intro b hb
          split at hb
          · rcases List.mem_append.mp hb with hb | hb
            · exact hbounds b hb
            · rw [List.mem_singleton.mp hb]
              omega
          · exact hbounds b hb)
      refine ⟨rest, ?_, hvalid⟩
      rw [heq, hhere]
      rfl

/-- The layout lists the first boundaries, and all of them when it is valid. -/
theorem layout_graphemes {cs : List Nat} (hcs : ∀ c ∈ cs, Scalar c) :
    ∃ rest, (layout u (cs.flatMap encode)).graphemeBoundaries ++ rest = graphemes u cs ∧
      ((layout u (cs.flatMap encode)).valid = true ↔ rest = []) := by
  cases cs with
  | nil => exact ⟨[], rfl, iff_of_true rfl rfl⟩
  | cons c cs =>
    have hpos := encode_length_pos c
    have hlen := length_le_flatMap cs
    have hwidth : utf16Width c ≤ 2 := by
      unfold utf16Width
      split <;> omega
    unfold layout
    rw [List.flatMap_cons, List.length_append, layoutLoop_encode hu _ _ c (cs.flatMap encode) (hcs c (by simp)),
      if_neg (by unfold maxInt32; omega)]
    simp only [breakBefore, Bool.false_eq_true, if_false, Nat.zero_add]
    refine layoutLoop_graphemes hu cs (fun d hd => hcs d (by simp [hd])) _ _ c 0 _ [0] ?_ ?_ ?_
    · omega
    · omega
    · simp only [List.mem_singleton, forall_eq]
      omega

end Decodes

/-! ## The boundaries around the cursor -/

/-- The first boundary behind the cursor, if there is one. -/
def NextGrapheme (u : Utf8proc) (text : Text) (cursor : Nat) : Option Nat → Prop
  | some n => IsLeast {b | GraphemeBoundary u text b ∧ cursor < b} n
  | none => ∀ b, GraphemeBoundary u text b → b ≤ cursor

/-- The last boundary before the cursor, if there is one. -/
def PreviousGrapheme (u : Utf8proc) (text : Text) (cursor : Nat) : Option Nat → Prop
  | some n => IsGreatest {b | GraphemeBoundary u text b ∧ b < cursor} n
  | none => ∀ b, GraphemeBoundary u text b → cursor ≤ b

theorem NextGrapheme.unique {text : Text} {cursor : Nat} {n m : Option Nat} (hn : NextGrapheme u text cursor n)
    (hm : NextGrapheme u text cursor m) : n = m := by
  cases n with
  | some n =>
    cases m with
    | some m => rw [IsLeast.unique hn hm]
    | none => exact absurd (hm n hn.1.1) (Nat.not_le.mpr hn.1.2)
  | none =>
    cases m with
    | some m => exact absurd (hn m hm.1.1) (Nat.not_le.mpr hm.1.2)
    | none => rfl

theorem PreviousGrapheme.unique {text : Text} {cursor : Nat} {n m : Option Nat} (hn : PreviousGrapheme u text cursor n)
    (hm : PreviousGrapheme u text cursor m) : n = m := by
  cases n with
  | some n =>
    cases m with
    | some m => rw [IsGreatest.unique hn hm]
    | none => exact absurd (hm n hn.1.1) (Nat.not_le.mpr hn.1.2)
  | none =>
    cases m with
    | some m => exact absurd (hn m hm.1.1) (Nat.not_le.mpr hm.1.2)
    | none => rfl

/-- What the proofs read of the layout: its list is the first part of the boundaries. -/
structure Listed (u : Utf8proc) (text : Text) (bounds rest : List Nat) : Prop where
  boundary : ∀ b, GraphemeBoundary u text b ↔ b ∈ bounds ∨ b ∈ rest
  sorted : bounds.Pairwise (· < ·)
  later : ∀ b ∈ bounds, ∀ b' ∈ rest, b < b'
  start : bounds.head? = some 0

theorem layout_listed (hu : u.Decodes) {text : Text} (h : WellFormed text) :
    ∃ rest, Listed u text (layout u text).graphemeBoundaries rest ∧ ((layout u text).valid = true ↔ rest = []) := by
  obtain ⟨cs, hcs, rfl⟩ := h
  obtain ⟨rest, heq, hvalid⟩ := layout_graphemes hu hcs
  have hsorted := graphemes_sorted u cs
  rw [← heq, List.pairwise_append] at hsorted
  refine ⟨rest, ⟨fun b => ?_, hsorted.1, hsorted.2.2, ?_⟩, hvalid⟩
  · rw [graphemeBoundary_iff hcs, ← heq, List.mem_append]
  · exact layout_head u _

section Listed

variable {text : Text} {bounds rest : List Nat} {cursor : Nat}

/-- The boundary before the lower bound is the last one before the cursor. -/
theorem Listed.previous (h : Listed u text bounds rest) (hrest : ∀ b ∈ rest, cursor ≤ b) :
    PreviousGrapheme u text cursor (if Editor.lowerBound bounds cursor = 0 then none
      else some (bounds.getD (Editor.lowerBound bounds cursor - 1) 0)) := by
  have hle := lowerBound_le bounds cursor
  split
  · rename_i hzero
    -- the list starts with 0, so the cursor is there
    have hstart : 0 < bounds.length := by
      have := h.start
      cases bounds with
      | nil => cases this
      | cons b bounds => simp
    have hlower : Editor.lowerBound bounds cursor < bounds.length := by omega
    have hcursor := le_lowerBound hlower
    simp only [hzero] at hcursor
    have hfirst : bounds[0] = 0 := by
      have := h.start
      rw [List.head?_eq_getElem?, List.getElem?_eq_getElem hstart] at this
      exact Option.some.inj this
    intro b _
    omega
  · rename_i hne
    refine ⟨⟨?_, previous_lt hne⟩, ?_⟩
    · rw [h.boundary, List.getD_eq_getElem _ _ (by omega)]
      exact .inl (List.getElem_mem _)
    · rintro b ⟨hb, hlt⟩
      rw [List.getD_eq_getElem _ _ (by omega)]
      rcases (h.boundary b).mp hb with hb | hb
      · obtain ⟨j, hj, rfl⟩ := List.getElem_of_mem hb
        rcases Nat.lt_or_ge j (Editor.lowerBound bounds cursor) with hbefore | hafter
        · rcases Nat.lt_or_ge j (Editor.lowerBound bounds cursor - 1) with hj' | hj'
          · exact le_of_lt (List.pairwise_iff_getElem.mp h.sorted _ _ hj (by omega) hj')
          · have heq : j = Editor.lowerBound bounds cursor - 1 := by omega
            subst heq
            exact le_rfl
        · have hlower : Editor.lowerBound bounds cursor < bounds.length := by omega
          have hcursor := le_lowerBound hlower
          rcases Nat.lt_or_eq_of_le hafter with hj' | hj'
          · have := List.pairwise_iff_getElem.mp h.sorted _ _ (by omega) hj hj'
            omega
          · subst hj'
            omega
      · have := hrest b hb
        omega

/-- A listed cursor is its own lower bound. -/
theorem Listed.current (h : Listed u text bounds rest) (hmem : cursor ∈ bounds) :
    ∃ hi : Editor.lowerBound bounds cursor < bounds.length, bounds[Editor.lowerBound bounds cursor] = cursor := by
  obtain ⟨j, hj, hget⟩ := List.getElem_of_mem hmem
  have hle : Editor.lowerBound bounds cursor ≤ j := by
    by_contra hlt
    have := lt_of_lt_lowerBound (Nat.not_le.mp hlt) hj
    omega
  have hi : Editor.lowerBound bounds cursor < bounds.length := by omega
  have hge := le_lowerBound hi
  refine ⟨hi, ?_⟩
  rcases Nat.lt_or_eq_of_le hle with hlt | heq
  · have := List.pairwise_iff_getElem.mp h.sorted _ _ hi hj hlt
    omega
  · simp only [heq, hget]

/-- The boundary after a listed cursor is the next one. -/
theorem Listed.next (h : Listed u text bounds rest) (hmem : cursor ∈ bounds) (hmore : rest = [] ∨ ∃ b ∈ bounds, cursor < b) :
    NextGrapheme u text cursor (if Editor.lowerBound bounds cursor + 1 = bounds.length then none
      else some (bounds.getD (Editor.lowerBound bounds cursor + 1) 0)) := by
  obtain ⟨hi, hcurrent⟩ := h.current hmem
  have hafter : ∀ b ∈ bounds, cursor < b → ∃ j, ∃ hj : j < bounds.length, Editor.lowerBound bounds cursor < j ∧
      bounds[j] = b := by
    intro b hb hlt
    obtain ⟨j, hj, rfl⟩ := List.getElem_of_mem hb
    refine ⟨j, hj, ?_, rfl⟩
    by_contra hle
    rcases Nat.lt_or_eq_of_le (Nat.not_lt.mp hle) with hlt' | rfl
    · have := List.pairwise_iff_getElem.mp h.sorted _ _ hj hi hlt'
      omega
    · omega
  split
  · rename_i hlast
    have hnone : ∀ b ∈ bounds, b ≤ cursor := by
      intro b hb
      by_contra hlt
      obtain ⟨j, hj, hgt, -⟩ := hafter b hb (Nat.not_le.mp hlt)
      omega
    intro b hb
    rcases (h.boundary b).mp hb with hb | hb
    · exact hnone b hb
    · rcases hmore with hnil | ⟨b', hb', hlt⟩
      · rw [hnil] at hb
        cases hb
      · exact absurd (hnone b' hb') (Nat.not_le.mpr hlt)
  · rename_i hmiddle
    rw [List.getD_eq_getElem _ _ (by omega)]
    have hnext : cursor < bounds[Editor.lowerBound bounds cursor + 1] := by
      have := List.pairwise_iff_getElem.mp h.sorted _ _ hi (by omega : Editor.lowerBound bounds cursor + 1 < bounds.length)
        (by omega)
      omega
    refine ⟨⟨(h.boundary _).mpr (.inl (List.getElem_mem _)), hnext⟩, ?_⟩
    rintro b ⟨hb, hlt⟩
    rcases (h.boundary b).mp hb with hb | hb
    · obtain ⟨j, hj, hgt, rfl⟩ := hafter b hb hlt
      rcases Nat.lt_or_eq_of_le (Nat.succ_le_of_lt hgt) with hj' | rfl
      · exact le_of_lt (List.pairwise_iff_getElem.mp h.sorted _ _ (by omega) hj hj')
      · exact le_rfl
    · exact le_of_lt (h.later _ (List.getElem_mem _) b hb)

/-- A cursor inside a grapheme: the next boundary is its lower bound. -/
theorem Listed.next_inside (h : Listed u text bounds rest) (hmem : cursor ∉ bounds)
    (hi : Editor.lowerBound bounds cursor < bounds.length) :
    NextGrapheme u text cursor (some bounds[Editor.lowerBound bounds cursor]) := by
  have hge := le_lowerBound hi
  have hne : bounds[Editor.lowerBound bounds cursor] ≠ cursor := fun heq => hmem (heq ▸ List.getElem_mem _)
  refine ⟨⟨(h.boundary _).mpr (.inl (List.getElem_mem _)), by omega⟩, ?_⟩
  rintro b ⟨hb, hlt⟩
  rcases (h.boundary b).mp hb with hb | hb
  · obtain ⟨j, hj, rfl⟩ := List.getElem_of_mem hb
    rcases Nat.lt_trichotomy j (Editor.lowerBound bounds cursor) with hj' | rfl | hj'
    · have := lt_of_lt_lowerBound hj' hj
      omega
    · exact le_rfl
    · exact le_of_lt (List.pairwise_iff_getElem.mp h.sorted _ _ hi hj hj')
  · exact le_of_lt (h.later _ (List.getElem_mem _) b hb)

end Listed

/-! ## The keys -/

/-- Nothing but the key was taken. -/
def Editor.untouched (ed : Editor) : Edit := ⟨ed, [], { handled := true }⟩

/-- The text between the offsets goes, and the cursor stands where it was. A failed native call
ends the session, so the new text is seen when they succeed. -/
structure Editor.Removes (u : Utf8proc) (cfg : EditorConfig) (a : Answers) (ed : Editor) (first last : Nat) (r : Edit) :
    Prop where
  edit : r = ed.replaceText u cfg a first last []
  text : a.sinkOk = true → r.ed.text = ed.text.take first ++ ed.text.drop last
  cursor : a.sinkOk = true → r.ed.cursorByte = first ∧ r.ed.selectionAnchorByte = first

/-- The cursor moves to the offset. -/
structure Editor.MovesTo (u : Utf8proc) (cfg : EditorConfig) (a : Answers) (ed : Editor) (offset : Nat) (r : Edit) : Prop where
  edit : r = ed.moveCursor u cfg a offset false
  text : a.sinkOk = true → r.ed.text = ed.text
  cursor : a.sinkOk = true → r.ed.cursorByte = offset ∧ r.ed.selectionAnchorByte = offset

/-- The effect of the boundary when there is one, and nothing otherwise. -/
def Editor.IfAny (ed : Editor) (effect : Nat → Edit → Prop) (r : Edit) : Option Nat → Prop
  | some n => effect n r
  | none => r = ed.untouched

/-- Delete and Backspace remove, Right and Left pass, exactly what lies between the cursor and the
grapheme boundary next to it; without one they do nothing. -/
structure GraphemeKeys (u : Utf8proc) (cfg : EditorConfig) (ed : Editor) : Prop where
  delete : ∀ a e next, e.pressed = true → e.scancode = Scancode.delete → NextGrapheme u ed.text ed.cursorByte next →
    ed.IfAny (fun n => ed.Removes u cfg a ed.cursorByte n) (ed.handleKey u cfg a e) next
  backspace : ∀ a e previous, e.pressed = true → e.scancode = Scancode.backspace →
    PreviousGrapheme u ed.text ed.cursorByte previous →
    ed.IfAny (fun n => ed.Removes u cfg a n ed.cursorByte) (ed.handleKey u cfg a e) previous
  right : ∀ a e next, e.pressed = true → e.scancode = Scancode.right → e.shiftPressed = false →
    NextGrapheme u ed.text ed.cursorByte next →
    ed.IfAny (ed.MovesTo u cfg a) (ed.handleKey u cfg a e) next
  left : ∀ a e previous, e.pressed = true → e.scancode = Scancode.left → e.shiftPressed = false →
    PreviousGrapheme u ed.text ed.cursorByte previous →
    ed.IfAny (ed.MovesTo u cfg a) (ed.handleKey u cfg a e) previous

/-- A focused editor without a selection and a composition. -/
structure Editor.Plain (ed : Editor) : Prop where
  focused : ed.snapshot.focused = true
  caret : ed.hasSelection = false
  idle : ed.compositionActive = false

/-- The boundaries that the layout lists. -/
abbrev Editor.bounds (ed : Editor) (u : Utf8proc) : List Nat := (layout u ed.text).graphemeBoundaries

section
variable (u cfg)

theorem handleKey_editText (a : Answers) (h : ed.Plain) {e : KeyEvent} (hpressed : e.pressed = true)
    (hkey : e.editKey = true) (hbit : shortcutBit e.scancode = 0) : ed.handleKey u cfg a e = ed.editText u cfg a e := by
  have hshortcut : e.shortcut = false := by simp [KeyEvent.shortcut, hbit]
  unfold Editor.handleKey
  simp only [h.focused, hpressed, hkey, hbit, hshortcut, h.idle, Bool.not_true, Bool.false_and, Bool.false_eq_true, if_false]
  rfl

theorem editText_backspace (a : Answers) (h : ed.Plain) {e : KeyEvent}
    (hscancode : e.scancode = Scancode.backspace) : ed.editText u cfg a e =
      if Editor.lowerBound (ed.bounds u) ed.cursorByte = 0 then ed.untouched
      else ed.replaceText u cfg a ((ed.bounds u).getD
        (Editor.lowerBound (ed.bounds u) ed.cursorByte - 1) 0) ed.cursorByte [] := by
  unfold Editor.editText
  simp only [hscancode, h.caret, beq_self_eq_true, if_true, Bool.false_eq_true, if_false, beq_iff_eq]
  rfl

theorem editText_delete (a : Answers) (h : ed.Plain) {e : KeyEvent}
    (hscancode : e.scancode = Scancode.delete) : ed.editText u cfg a e =
      if Editor.lowerBound (ed.bounds u) ed.cursorByte = (ed.bounds u).length ∨
          Editor.lowerBound (ed.bounds u) ed.cursorByte + 1 = (ed.bounds u).length then
        ed.untouched
      else ed.replaceText u cfg a ed.cursorByte ((ed.bounds u).getD
        (Editor.lowerBound (ed.bounds u) ed.cursorByte + 1) 0) [] := by
  have hother : (Scancode.delete == Scancode.backspace) = false := by decide
  unfold Editor.editText
  simp only [hscancode, hother, h.caret, beq_self_eq_true, if_true, Bool.false_eq_true, if_false, beq_iff_eq, Bool.or_eq_true]
  rfl

theorem editText_left (a : Answers) (h : ed.Plain) {e : KeyEvent}
    (hscancode : e.scancode = Scancode.left) (hshift : e.shiftPressed = false) : ed.editText u cfg a e =
      ed.moveCursor u cfg a (if Editor.lowerBound (ed.bounds u) ed.cursorByte = 0 then ed.cursorByte
        else (ed.bounds u).getD
          (Editor.lowerBound (ed.bounds u) ed.cursorByte - 1) 0) false := by
  have hothers : (Scancode.left == Scancode.backspace) = false ∧ (Scancode.left == Scancode.delete) = false := by decide
  unfold Editor.editText
  simp only [hscancode, hothers, h.caret, hshift, beq_self_eq_true, if_true, Bool.false_eq_true, if_false, beq_iff_eq,
    Bool.false_and]

theorem editText_right (a : Answers) (h : ed.Plain) {e : KeyEvent}
    (hscancode : e.scancode = Scancode.right) (hshift : e.shiftPressed = false) : ed.editText u cfg a e =
      ed.moveCursor u cfg a
        (if Editor.lowerBound (ed.bounds u) ed.cursorByte + 1 = (ed.bounds u).length
          then ed.cursorByte
          else (ed.bounds u).getD
            (Editor.lowerBound (ed.bounds u) ed.cursorByte + 1) 0) false := by
  have hothers : (Scancode.right == Scancode.backspace) = false ∧ (Scancode.right == Scancode.delete) = false ∧
      (Scancode.right == Scancode.left) = false := by decide
  unfold Editor.editText
  simp only [hscancode, hothers, h.caret, hshift, beq_self_eq_true, if_true, Bool.false_eq_true, if_false, beq_iff_eq,
    Bool.false_and]

theorem replaceText_removes (a : Answers) (ed : Editor) (first last : Nat) :
    ed.Removes u cfg a first last (ed.replaceText u cfg a first last []) := by
  have hsame : a.sinkOk = true → SameBuffer ((ed.spliced first last []).updateSelectionSnapshot u)
      (ed.replaceText u cfg a first last []).ed := by
    intro hok
    unfold Editor.replaceText
    refine SameBuffer.trans ?_ (commitText_same _ cfg hok true).1
    constructor <;> rfl
  refine ⟨rfl, fun hok => (hsame hok).text.trans ?_, fun hok => ⟨(hsame hok).cursor, (hsame hok).anchor⟩⟩
  show ed.text.take first ++ [] ++ ed.text.drop last = _
  rw [List.append_nil]

theorem movedFrom_keeps (hok : a.sinkOk = true) (ed previous : Editor) :
    (ed.movedFrom u cfg a previous).ed.text = ed.text ∧ (ed.movedFrom u cfg a previous).ed.cursorByte = ed.cursorByte ∧
      (ed.movedFrom u cfg a previous).ed.selectionAnchorByte = ed.selectionAnchorByte := by
  simp only [Answers.sinkOk, Bool.and_eq_true] at hok
  unfold Editor.movedFrom
  split
  · exact ⟨rfl, rfl, rfl⟩
  simp only
  split
  · exact ⟨rfl, rfl, rfl⟩
  rw [if_neg (by simp [hok])]
  exact ⟨rfl, rfl, rfl⟩

theorem moveCursor_movesTo (a : Answers) (ed : Editor) (offset : Nat) :
    ed.MovesTo u cfg a offset (ed.moveCursor u cfg a offset false) := by
  have hkeeps := fun hok => movedFrom_keeps u cfg (a := a) hok { ed with cursorByte := offset, selectionAnchorByte := offset } ed
  exact ⟨rfl, fun hok => (hkeeps hok).1, fun hok => (hkeeps hok).2⟩

theorem moveCursor_stays (a : Answers) (h : ed.hasSelection = false) :
    ed.moveCursor u cfg a ed.cursorByte false = ed.untouched := by
  have heq : ed.cursorByte = ed.selectionAnchorByte := by simpa [Editor.hasSelection] using h
  cases ed
  cases heq
  simp [Editor.moveCursor, Editor.movedFrom, Editor.untouched]

/-- Backspace and Left, wherever the cursor is not behind the last listed boundary. -/
theorem backspace_previous (h : ed.Plain) {rest : List Nat}
    (hl : Listed u ed.text (ed.bounds u) rest) (hrest : ∀ b ∈ rest, ed.cursorByte ≤ b)
    (a : Answers) (e : KeyEvent) (previous : Option Nat) (hpressed : e.pressed = true)
    (hscancode : e.scancode = Scancode.backspace) (hprevious : PreviousGrapheme u ed.text ed.cursorByte previous) :
    ed.IfAny (fun n => ed.Removes u cfg a n ed.cursorByte) (ed.handleKey u cfg a e) previous := by
  have hkey : e.editKey = true := by simp [KeyEvent.editKey, hscancode]
  rw [hprevious.unique (hl.previous hrest), handleKey_editText u cfg a h hpressed hkey (by rw [hscancode]; rfl),
    editText_backspace u cfg a h hscancode]
  by_cases hzero : Editor.lowerBound (ed.bounds u) ed.cursorByte = 0
  · rw [if_pos hzero, if_pos hzero]
    rfl
  · rw [if_neg hzero, if_neg hzero]
    exact replaceText_removes u cfg a ed _ _

theorem left_previous (h : ed.Plain) {rest : List Nat}
    (hl : Listed u ed.text (ed.bounds u) rest) (hrest : ∀ b ∈ rest, ed.cursorByte ≤ b)
    (a : Answers) (e : KeyEvent) (previous : Option Nat) (hpressed : e.pressed = true) (hscancode : e.scancode = Scancode.left)
    (hshift : e.shiftPressed = false) (hprevious : PreviousGrapheme u ed.text ed.cursorByte previous) :
    ed.IfAny (ed.MovesTo u cfg a) (ed.handleKey u cfg a e) previous := by
  have hkey : e.editKey = true := by simp [KeyEvent.editKey, hscancode]
  rw [hprevious.unique (hl.previous hrest), handleKey_editText u cfg a h hpressed hkey (by rw [hscancode]; rfl),
    editText_left u cfg a h hscancode hshift]
  by_cases hzero : Editor.lowerBound (ed.bounds u) ed.cursorByte = 0
  · rw [if_pos hzero, if_pos hzero]
    exact moveCursor_stays u cfg a h.caret
  · rw [if_neg hzero, if_neg hzero]
    exact moveCursor_movesTo u cfg a ed _

/-- Delete and Right, at a listed boundary with one behind it or at the end. -/
theorem delete_next (h : ed.Plain) {rest : List Nat}
    (hl : Listed u ed.text (ed.bounds u) rest)
    (hmem : ed.cursorByte ∈ ed.bounds u)
    (hmore : rest = [] ∨ ∃ b ∈ ed.bounds u, ed.cursorByte < b)
    (a : Answers) (e : KeyEvent) (next : Option Nat) (hpressed : e.pressed = true) (hscancode : e.scancode = Scancode.delete)
    (hnext : NextGrapheme u ed.text ed.cursorByte next) :
    ed.IfAny (fun n => ed.Removes u cfg a ed.cursorByte n) (ed.handleKey u cfg a e) next := by
  have hkey : e.editKey = true := by simp [KeyEvent.editKey, hscancode]
  obtain ⟨hi, -⟩ := hl.current hmem
  rw [hnext.unique (hl.next hmem hmore), handleKey_editText u cfg a h hpressed hkey (by rw [hscancode]; rfl),
    editText_delete u cfg a h hscancode]
  by_cases hlast : Editor.lowerBound (ed.bounds u) ed.cursorByte + 1 =
      (ed.bounds u).length
  · rw [if_pos hlast, if_pos (Or.inr hlast)]
    rfl
  · rw [if_neg hlast, if_neg (by omega)]
    exact replaceText_removes u cfg a ed _ _

theorem right_next (h : ed.Plain) {rest : List Nat}
    (hl : Listed u ed.text (ed.bounds u) rest)
    (hmem : ed.cursorByte ∈ ed.bounds u)
    (hmore : rest = [] ∨ ∃ b ∈ ed.bounds u, ed.cursorByte < b)
    (a : Answers) (e : KeyEvent) (next : Option Nat) (hpressed : e.pressed = true) (hscancode : e.scancode = Scancode.right)
    (hshift : e.shiftPressed = false) (hnext : NextGrapheme u ed.text ed.cursorByte next) :
    ed.IfAny (ed.MovesTo u cfg a) (ed.handleKey u cfg a e) next := by
  have hkey : e.editKey = true := by simp [KeyEvent.editKey, hscancode]
  rw [hnext.unique (hl.next hmem hmore), handleKey_editText u cfg a h hpressed hkey (by rw [hscancode]; rfl),
    editText_right u cfg a h hscancode hshift]
  by_cases hlast : Editor.lowerBound (ed.bounds u) ed.cursorByte + 1 =
      (ed.bounds u).length
  · rw [if_pos hlast, if_pos hlast]
    exact moveCursor_stays u cfg a h.caret
  · rw [if_neg hlast, if_neg hlast]
    exact moveCursor_movesTo u cfg a ed _

/-! ## Where the keys are right -/

/-- The cursor is a boundary that the layout lists, and the layout lists one behind it or is complete. -/
def Editor.OnGrapheme (u : Utf8proc) (ed : Editor) : Prop :=
  ed.cursorByte ∈ (layout u ed.text).graphemeBoundaries ∧
    ((layout u ed.text).valid = true ∨ ∃ b ∈ (layout u ed.text).graphemeBoundaries, ed.cursorByte < b)

theorem exists_nextGrapheme (text : Text) (cursor : Nat) : ∃ next, NextGrapheme u text cursor next := by
  classical
  by_cases hany : ∃ b, GraphemeBoundary u text b ∧ cursor < b
  · exact ⟨some (Nat.find hany), Nat.find_spec hany, fun _ hb => Nat.find_min' hany hb⟩
  · refine ⟨none, fun b hb => ?_⟩
    by_contra hlt
    exact hany ⟨b, hb, Nat.not_le.mp hlt⟩

theorem right_cursor (h : ed.Plain) :
    (ed.handleKey u cfg {} { pressed := true, scancode := Scancode.right }).ed.cursorByte =
      if Editor.lowerBound (ed.bounds u) ed.cursorByte + 1 = (ed.bounds u).length
        then ed.cursorByte
        else (ed.bounds u).getD
          (Editor.lowerBound (ed.bounds u) ed.cursorByte + 1) 0 := by
  rw [handleKey_editText u cfg {} h rfl rfl rfl, editText_right u cfg {} h rfl rfl]
  exact ((moveCursor_movesTo u cfg {} ed _).cursor rfl).1

end

theorem GraphemeKeys.right_cursor (h : GraphemeKeys u cfg ed) {next : Option Nat}
    (hnext : NextGrapheme u ed.text ed.cursorByte next) :
    (ed.handleKey u cfg {} { pressed := true, scancode := Scancode.right }).ed.cursorByte = next.getD ed.cursorByte := by
  have hright := h.right {} { pressed := true, scancode := Scancode.right } next rfl rfl rfl hnext
  cases next with
  | some n => exact (hright.cursor rfl).1
  | none =>
    have huntouched : ed.handleKey u cfg {} { pressed := true, scancode := Scancode.right } = ed.untouched := hright
    rw [huntouched]
    rfl

theorem onGrapheme_keys (hu : u.Decodes) (cfg : EditorConfig) (htext : WellFormed ed.text) (h : ed.Plain)
    (hon : ed.OnGrapheme u) :
    GraphemeKeys u cfg ed := by
  obtain ⟨rest, (hl : Listed u ed.text (ed.bounds u) rest), hvalid⟩ := layout_listed hu htext
  obtain ⟨hmem, hmore⟩ := hon
  have hrest : ∀ b ∈ rest, ed.cursorByte ≤ b := fun b hb => le_of_lt (hl.later _ hmem b hb)
  have hmore : rest = [] ∨ ∃ b ∈ ed.bounds u, ed.cursorByte < b := hmore.imp_left hvalid.mp
  exact ⟨delete_next u cfg h hl hmem hmore, backspace_previous u cfg h hl hrest, right_next u cfg h hl hmem hmore,
    left_previous u cfg h hl hrest⟩

theorem keys_onGrapheme (hu : u.Decodes) (htext : WellFormed ed.text) (h : ed.Plain) (hkeys : GraphemeKeys u cfg ed) :
    ed.OnGrapheme u := by
  obtain ⟨rest, (hl : Listed u ed.text (ed.bounds u) rest), hvalid⟩ := layout_listed hu htext
  have hle := lowerBound_le (ed.bounds u) ed.cursorByte
  have hgoes := right_cursor u cfg h
  have hmem : ed.cursorByte ∈ ed.bounds u := by
    by_contra hmem
    rcases Nat.lt_or_eq_of_le hle with hi | hi
    · -- inside a listed grapheme: Right passes over the boundary behind the cursor
      have hnext := hl.next_inside hmem hi
      have hlt := hnext.1.2
      rw [hkeys.right_cursor hnext, Option.getD_some] at hgoes
      split at hgoes
      · omega
      · rw [List.getD_eq_getElem _ _ (by omega)] at hgoes
        have := List.pairwise_iff_getElem.mp hl.sorted _ (Editor.lowerBound (ed.bounds u) ed.cursorByte + 1)
          hi (by omega) (by omega)
        omega
    · -- behind the last listed boundary: the source reads past the end of its list
      have hzero : 0 < ed.cursorByte := by
        have hstart := hl.start
        generalize ed.bounds u = bounds at hstart hi
        cases bounds with
        | nil => cases hstart
        | cons b bounds =>
          have := lt_of_lt_lowerBound (i := 0) (by rw [hi]; simp) (by simp : 0 < (b :: bounds).length)
          simp only [List.getElem_cons_zero] at this
          omega
      obtain ⟨next, hnext⟩ := exists_nextGrapheme u ed.text ed.cursorByte
      rw [hkeys.right_cursor hnext, if_neg (by omega), List.getD_eq_default _ _ (by omega)] at hgoes
      cases next with
      | none =>
        rw [Option.getD_none] at hgoes
        omega
      | some n =>
        have := hnext.1.2
        rw [Option.getD_some] at hgoes
        omega
  refine ⟨hmem, ?_⟩
  by_contra hneither
  obtain ⟨hinvalid, hlast⟩ := not_or.mp hneither
  obtain ⟨hi, hcurrent⟩ := hl.current hmem
  -- the last listed boundary: Right stays, though there is another one
  have hend : Editor.lowerBound (ed.bounds u) ed.cursorByte + 1 =
      (ed.bounds u).length := by
    by_contra hne
    have hbehind := List.pairwise_iff_getElem.mp hl.sorted _ (Editor.lowerBound (ed.bounds u) ed.cursorByte + 1)
      hi (by omega) (by omega)
    rw [hcurrent] at hbehind
    exact hlast ⟨_, List.getElem_mem _, hbehind⟩
  obtain ⟨b, hb⟩ : ∃ b, b ∈ rest := by
    cases hrest : rest with
    | nil => exact absurd (hvalid.mpr hrest) hinvalid
    | cons b rest => exact ⟨b, List.mem_cons_self ..⟩
  have hbehind := hl.later _ hmem b hb
  obtain ⟨next, hnext⟩ := exists_nextGrapheme u ed.text ed.cursorByte
  rw [hkeys.right_cursor hnext, if_pos hend] at hgoes
  cases next with
  | none =>
    have := hnext b ((hl.boundary b).mpr (.inr hb))
    omega
  | some n =>
    have := hnext.1.2
    rw [Option.getD_some] at hgoes
    omega

/-- In a reachable editor without a selection and a composition, the four keys go from grapheme to
grapheme exactly when the cursor is at one. -/
theorem graphemeKeys_iff (hu : u.Decodes) (cfg : EditorConfig) (acts : List EditorAct)
    (hed : ed = ((textEditor u cfg).run {} acts).1) (h : ed.Plain) : GraphemeKeys u cfg ed ↔ ed.OnGrapheme u := by
  have htext : WellFormed ed.text := by
    rw [hed]
    exact (run_aligned hu cfg acts).text
  exact ⟨keys_onGrapheme hu htext h, onGrapheme_keys hu cfg htext h⟩

/-- No break before the combining acute accent, as in utf8proc. -/
def joiningUtf8proc : Utf8proc := ⟨strictIterate, fun _ c s => (c != 0x301, s)⟩

theorem joiningUtf8proc_decodes : joiningUtf8proc.Decodes := ⟨strictIterate_reads, strictIterate_only⟩

/-- A TextBox with an accent that joins nothing and a "b", and the cursor at its start. -/
def openedBeforeAccent : List EditorAct :=
  [⟨.beginFocus { textboxHandle := 1, generation := 1 } [0xcc, 0x81, 0x62], {}⟩,
    ⟨.key { pressed := true, scancode := Scancode.home }, {}⟩]

theorem graphemeKeys_demo : GraphemeKeys joiningUtf8proc {} ((textEditor joiningUtf8proc {}).run {} openedBeforeAccent).1 :=
  (graphemeKeys_iff joiningUtf8proc_decodes {} openedBeforeAccent rfl ⟨by decide, by decide, by decide⟩).mpr
    ⟨by decide, by decide⟩

/-- An "e" typed there joins the accent, with the cursor between them: Delete takes the "b" too. -/
theorem delete_inside_grapheme :
    let ed := ((textEditor joiningUtf8proc {}).run {} (openedBeforeAccent ++ [⟨.textInput [0x65], {}⟩])).1
    ed.Plain ∧ ed.text = [0x65, 0xcc, 0x81, 0x62] ∧ ed.cursorByte = 1 ∧
      NextGrapheme joiningUtf8proc ed.text ed.cursorByte (some 3) ∧
      (ed.handleKey joiningUtf8proc {} {} { pressed := true, scancode := Scancode.delete }).ed.text = [0x65] ∧
      ¬ GraphemeKeys joiningUtf8proc {} ed := by
  intro ed
  have hplain : ed.Plain := ⟨by decide, by decide, by decide⟩
  have hbounds : (layout joiningUtf8proc ed.text).graphemeBoundaries = [0, 3, 4] := by decide
  have hdeleted : (ed.handleKey joiningUtf8proc {} {} { pressed := true, scancode := Scancode.delete }).ed.text = [0x65] := by
    decide
  have htext : WellFormed ed.text := (run_aligned joiningUtf8proc_decodes {} _).text
  obtain ⟨rest, hl, -⟩ := layout_listed joiningUtf8proc_decodes htext
  rw [hbounds] at hl
  have hnext : NextGrapheme joiningUtf8proc ed.text ed.cursorByte (some 3) := hl.next_inside (by decide) (by decide)
  refine ⟨hplain, by decide, by decide, hnext, hdeleted, fun hkeys => ?_⟩
  have hremoves := hkeys.delete {} { pressed := true, scancode := Scancode.delete } (some 3) rfl rfl hnext
  have hwanted : (ed.handleKey joiningUtf8proc {} {} { pressed := true, scancode := Scancode.delete }).ed.text =
      ed.text.take ed.cursorByte ++ ed.text.drop 3 := hremoves.text rfl
  rw [hdeleted] at hwanted
  exact absurd hwanted (by decide)

end Mocktail.Input

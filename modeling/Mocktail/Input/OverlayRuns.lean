/-
  Mocktail.Input.OverlayRuns — the overlay over runs.

  What the editor publishes are the positions of its own offsets, in every state it reaches,
  so the overlay draws the caret and the selection where the editor has them
  (`overlay_draws_editor_offsets`).

  `RobloxTextDisplayState` keeps a newer field from being replaced or closed by an older one
  as long as it is visible. `Hide` forgets its generation: the next `Show` is taken whatever
  its own is, and that is the only way back to an older field (`generations_ascend_iff`).
-/

import Mocktail.Input.OverlayText
import Mocktail.Input.TextEdits

namespace Mocktail.Input

open Mocktail.Lib Mocktail.Lib.Utf8

variable {u : Utf8proc} {q : DensityQuotient} {cfg : EditorConfig} {a : Answers} {ed : Editor}

/-! ## One update -/

/-- The update can be drawn: every check of `BuildRobloxTextOverlayPresentation` passes. -/
structure Drawable (v : TextDisplayUpdate) (viewport : OverlayViewport) : Prop where
  generation : v.generation ≠ 0
  viewport : viewport.valid = true
  view : v.utf8.unavailable = false
  text : WellFormed v.utf8.bytes
  mask : Editor.isPasswordInputType v.textInputType = true →
    ∀ n, CodepointCount v.utf8.bytes n → n ≤ maxSize / kPasswordBullet.length

theorem drawable_iff (hu : u.Decodes) (q : DensityQuotient) (v : TextDisplayUpdate) (viewport : OverlayViewport) :
    Drawable v viewport ↔ ∃ p, buildPresentation u q v viewport = .ok p := by
  constructor
  · intro h
    obtain ⟨cs, hcs, heq⟩ := h.text
    have hn : CodepointCount v.utf8.bytes cs.length := ⟨cs, hcs, heq, rfl⟩
    have hcount := (validateAndCountUtf8_iff hu _ _).mpr hn
    unfold buildPresentation
    rw [if_neg h.generation, h.viewport, h.view]
    simp only [Bool.not_true, Bool.false_eq_true, if_false, hcount]
    by_cases hpassword : Editor.isPasswordInputType v.textInputType = true
    · have hmask := h.mask hpassword cs.length hn
      rw [if_pos hpassword, if_neg (by omega)]
      exact ⟨_, rfl⟩
    · rw [if_neg hpassword]
      exact ⟨_, rfl⟩
  · rintro ⟨p, h⟩
    unfold buildPresentation at h
    split at h
    · cases h
    rename_i hgeneration
    split at h
    · cases h
    rename_i hviewport
    split at h
    · cases h
    rename_i hview
    simp only at h
    split at h
    · cases h
    rename_i n hcount
    have hn := (validateAndCountUtf8_iff hu _ _).mp hcount
    refine ⟨hgeneration, by simpa using hviewport, Bool.eq_false_iff.mpr hview, hn.wellFormed, ?_⟩
    intro hpassword m hm
    rw [if_pos hpassword] at h
    split at h
    · cases h
    · rename_i hmask
      rw [codepointCount_unique hm hn]
      omega

variable {viewport : OverlayViewport} {p : OverlayPresentation} {v : TextDisplayUpdate}

theorem buildPresentation_shown
    (h : buildPresentation u q v viewport = .ok p) : p.visible = true ∧ p.generation = v.generation := by
  obtain ⟨-, n, -, ⟨-, rfl⟩ | ⟨-, rfl⟩⟩ := buildPresentation_cases h
  · exact ⟨rfl, rfl⟩
  · exact ⟨rfl, rfl⟩

/-- What one update can do: nothing, hide the presentation, or put a new one in its place. -/
inductive Applies (u : Utf8proc) (q : DensityQuotient) (p : OverlayPresentation) (v : TextDisplayUpdate)
    (viewport : OverlayViewport) : OverlayPresentation × Status × Bool → Prop where
  | ignored (status : Status) : Applies u q p v viewport (p, status, false)
  | hidden (hevent : v.event = .hide) : Applies u q p v viewport ({}, Status.okStatus, true)
  | updated (p' : OverlayPresentation) (hbuilt : buildPresentation u q v viewport = .ok p') (hevent : v.event = .update)
      (hvisible : p.visible = true) (hgeneration : v.generation = p.generation) :
      Applies u q p v viewport (p', Status.okStatus, true)
  | shown (p' : OverlayPresentation) (hbuilt : buildPresentation u q v viewport = .ok p') (hevent : v.event = .show)
      (hnewer : p.visible = true → p.generation ≤ v.generation) : Applies u q p v viewport (p', Status.okStatus, true)

theorem applyUpdate_applies (p : OverlayPresentation) (v : TextDisplayUpdate) (viewport : OverlayViewport) :
    Applies u q p v viewport (applyUpdate u q p v viewport) := by
  unfold applyUpdate
  split
  · rename_i hhide
    split
    · exact .ignored _
    · exact .hidden hhide
  rename_i hhide
  split
  · exact .ignored _
  rename_i hupdate
  split
  · exact .ignored _
  rename_i hshow
  split
  · exact .ignored _
  rename_i p' hbuilt
  cases hevent : v.event with
  | hide => exact absurd hevent hhide
  | update =>
    simp only [hevent, decide_true, Bool.true_and, Bool.or_eq_true, Bool.not_eq_true', bne_iff_ne, not_or,
      Bool.not_eq_false, not_not] at hupdate
    exact .updated p' hbuilt hevent hupdate.1 hupdate.2
  | «show» =>
    simp only [hevent, decide_true, Bool.true_and, Bool.and_eq_true, decide_eq_true_eq, not_and, Nat.not_lt] at hshow
    exact .shown p' hbuilt hevent hshow

/-- What an update other than `Hide` puts in place is what was built from it. -/
theorem applyUpdate_built {p p' : OverlayPresentation} {status : Status}
    (h : applyUpdate u q p v viewport = (p', status, true)) (hevent : v.event ≠ .hide) :
    buildPresentation u q v viewport = .ok p' := by
  have happlies := applyUpdate_applies (u := u) (q := q) p v viewport
  rw [h] at happlies
  cases happlies with
  | hidden hhide => exact absurd hhide hevent
  | updated p' hbuilt => exact hbuilt
  | shown p' hbuilt => exact hbuilt

/-- A `Show` that can be drawn is taken while nothing is visible. -/
theorem applyUpdate_show
    {p' : OverlayPresentation} (hbuilt : buildPresentation u q v viewport = .ok p') (hevent : v.event = .show)
    (hvisible : p.visible = false) : applyUpdate u q p v viewport = (p', Status.okStatus, true) := by
  unfold applyUpdate
  rw [hevent, hvisible, hbuilt]
  rfl

/-! ## Runs of updates -/

structure AppliedUpdate where
  update : TextDisplayUpdate
  viewport : OverlayViewport
  deriving DecidableEq, Repr

/-- `RobloxTextDisplayState` under `Apply`; the observations are the generations of the presentations displayed. -/
def displayState (u : Utf8proc) (q : DensityQuotient) : Machine OverlayPresentation AppliedUpdate Nat where
  step p e :=
    let r := applyUpdate u q p e.update e.viewport
    (r.1, if r.2.2 && r.1.visible then [r.1.generation] else [])

/-- A `Show` that comes while nothing is visible is of no older generation than any displayed before. -/
def ShowsNewer (p : OverlayPresentation) (displayed : List Nat) (e : AppliedUpdate) : Prop :=
  p.visible = false → e.update.event = .show → Drawable e.update e.viewport → ∀ g ∈ displayed, g ≤ e.update.generation

/-- What holds after the updates so far: a visible presentation is the last one displayed. -/
def LastDisplayed (p : OverlayPresentation) (displayed : List Nat) : Prop :=
  p.visible = true → displayed.getLast? = some p.generation

/-- One update appends nothing to the displayed generations, or its own. -/
theorem displayState_step (p : OverlayPresentation) (e : AppliedUpdate) (displayed : List Nat)
    (h : LastDisplayed p displayed) :
    LastDisplayed ((displayState u q).step p e).1 (displayed ++ ((displayState u q).step p e).2) ∧
      (((displayState u q).step p e).2 = [] ∨
        ((displayState u q).step p e).2 = [e.update.generation] ∧
          (∃ p', buildPresentation u q e.update e.viewport = .ok p') ∧
          (p.visible = true → p.generation ≤ e.update.generation) ∧
          (p.visible = false → e.update.event = .show)) := by
  have happlies := applyUpdate_applies (u := u) (q := q) p e.update e.viewport
  simp only [displayState]
  generalize applyUpdate u q p e.update e.viewport = r at happlies
  -- a presentation that was built is displayed, and the last one
  have hnew : ∀ p', buildPresentation u q e.update e.viewport = .ok p' →
      LastDisplayed p' (displayed ++ (if true && p'.visible then [p'.generation] else [])) ∧
        (if true && p'.visible then [p'.generation] else []) = [e.update.generation] := by
    intro p' hbuilt
    obtain ⟨hvisible, hgeneration⟩ := buildPresentation_shown hbuilt
    rw [hvisible, Bool.and_self, if_pos rfl]
    exact ⟨fun _ => by simp, by rw [hgeneration]⟩
  cases happlies with
  | ignored status => exact ⟨by simpa using h, Or.inl rfl⟩
  | hidden hevent => exact ⟨nofun, Or.inl rfl⟩
  | updated p' hbuilt hevent hvisible hgeneration =>
    refine ⟨(hnew p' hbuilt).1, Or.inr ⟨(hnew p' hbuilt).2, ⟨p', hbuilt⟩, fun _ => by omega, ?_⟩⟩
    intro hhidden
    rw [hvisible] at hhidden
    cases hhidden
  | shown p' hbuilt hevent hnewer =>
    exact ⟨(hnew p' hbuilt).1, Or.inr ⟨(hnew p' hbuilt).2, ⟨p', hbuilt⟩, hnewer, fun _ => hevent⟩⟩

/-- In ascending generations the last one is the greatest. -/
theorem le_last {l : List Nat} (h : l.Pairwise (· ≤ ·)) {m : Nat} (hm : l.getLast? = some m) : ∀ g ∈ l, g ≤ m := by
  obtain ⟨front, rfl⟩ := List.getLast?_eq_some_iff.mp hm
  intro g hg
  rcases List.mem_append.mp hg with hg | hg
  · exact (List.pairwise_append.mp h).2.2 g hg m (List.mem_singleton_self m)
  · exact le_of_eq (List.mem_singleton.mp hg)

theorem displayState_last (u : Utf8proc) (q : DensityQuotient) (es : List AppliedUpdate) :
    LastDisplayed ((displayState u q).run {} es).1 ((displayState u q).run {} es).2 :=
  (displayState u q).run_induct (I := LastDisplayed) (fun hvisible => absurd hvisible Bool.false_ne_true)
    (fun p displayed e h => (displayState_step p e displayed h).1) es

/-- The generations displayed ascend exactly as long as no older field is shown after a `Hide`. -/
theorem generations_ascend_iff (hu : u.Decodes) (q : DensityQuotient) (es : List AppliedUpdate) :
    ((displayState u q).run {} es).2.Pairwise (· ≤ ·) ↔ (displayState u q).Guarded ShowsNewer {} es := by
  induction es using List.reverseRecOn with
  | nil =>
    refine ⟨fun _ pre e post hp => ?_, fun _ => List.Pairwise.nil⟩
    exact absurd (congrArg List.length hp) (by simp)
  | append_singleton es e ih =>
    have hlast := displayState_last u q es
    have hstep := (displayState_step (u := u) (q := q) _ e _ hlast).2
    rw [Machine.run_snoc]
    simp only [Machine.exec]
    rw [List.pairwise_append, ih]
    generalize hp : ((displayState u q).run {} es).1 = p at hstep hlast
    generalize hd : ((displayState u q).run {} es).2 = displayed at hstep hlast ih
    constructor
    · rintro ⟨hguarded, -, hle⟩
      refine (displayState u q).guarded_concat hguarded ?_
      rw [hp, hd]
      intro hhidden hshow hdrawable g hg
      obtain ⟨p', hbuilt⟩ := (drawable_iff hu q _ _).mp hdrawable
      obtain ⟨hvisible, hgeneration⟩ := buildPresentation_shown hbuilt
      refine hle g hg _ ?_
      simp [displayState, applyUpdate_show hbuilt hshow hhidden, hvisible, hgeneration]
    · intro hguarded
      obtain ⟨hguarded, hnewer⟩ := (displayState u q).guarded_snoc hguarded
      rw [hp, hd] at hnewer
      refine ⟨hguarded, ?_, ?_⟩
      · rcases hstep with hnone | ⟨hone, -⟩
        · rw [hnone]
          exact List.Pairwise.nil
        · rw [hone]
          exact List.pairwise_singleton _ _
      · intro g hg g' hg'
        rcases hstep with hnone | ⟨hone, hbuilt, hvisible, hhidden⟩
        · rw [hnone] at hg'
          cases hg'
        · rw [hone] at hg'
          obtain rfl := List.mem_singleton.mp hg'
          cases hv : p.visible with
          | false => exact hnewer hv (hhidden hv) ((drawable_iff hu q _ _).mpr hbuilt) g hg
          | true =>
            -- the visible presentation was the last and so the newest
            exact le_trans (le_last (ih.mpr hguarded) (hlast hv) g hg) (hvisible hv)

/-- A field of generation `g` with the text "a", and its end. -/
def showField (g : Nat) : AppliedUpdate :=
  ⟨{ event := .show, generation := g, utf8 := .buffer [0x61], cursorUtf16 := 1 }, ⟨800, 600, F32.one⟩⟩

def hideField (g : Nat) : AppliedUpdate := ⟨{ event := .hide, generation := g }, ⟨800, 600, F32.one⟩⟩

/-- An older `Show` and `Hide` beside a visible field do nothing, and a newer field follows a `Hide`. -/
theorem generations_ascend_demo :
    ((displayState plainUtf8proc fun w _ => w).run {} [showField 2, showField 1, hideField 1, hideField 2, showField 3]).2 =
      [2, 3] ∧
    (displayState plainUtf8proc fun w _ => w).Guarded ShowsNewer {}
      [showField 2, showField 1, hideField 1, hideField 2, showField 3] :=
  ⟨by decide, (generations_ascend_iff plainUtf8proc_decodes _ _).mp (by decide)⟩

/-- After the field of generation 2 was hidden, the one of generation 1 is shown. -/
theorem older_field_shown :
    ((displayState plainUtf8proc fun w _ => w).run {} [showField 2, hideField 2, showField 1]).2 = [2, 1] ∧
    ¬ ((displayState plainUtf8proc fun w _ => w).run {} [showField 2, hideField 2, showField 1]).2.Pairwise (· ≤ ·) := by
  decide

/-! ## What the editor publishes -/

/-- The call publishes nothing but what the editor holds. -/
def TextCall.Publishes (ed : Editor) : TextCall → Prop
  | .display event session text cursor first last =>
    event = .hide ∨ session = ed.session ∧ text = ed.text ∧ cursor = ed.snapshot.cursorUtf16 ∧
      first = ed.snapshot.selectionBeginUtf16 ∧ last = ed.snapshot.selectionEndUtf16
  | _ => True

abbrev Edit.Published (x : Edit) : Prop := ∀ call ∈ x.calls, call.Publishes x.ed

theorem publishDisplay_publishes (event : TextDisplayEvent) : ∀ call ∈ ed.publishDisplay cfg event, call.Publishes ed := by
  unfold Editor.publishDisplay
  split
  · exact List.forall_mem_nil _
  split
  · rename_i hhide
    exact List.forall_mem_singleton.mpr (Or.inl hhide)
  · exact List.forall_mem_singleton.mpr (Or.inr ⟨rfl, rfl, rfl, rfl, rfl⟩)

theorem hide_publishes (ed' : Editor) : ∀ call ∈ ed.publishDisplay cfg .hide, call.Publishes ed' := by
  unfold Editor.publishDisplay
  split
  · exact List.forall_mem_nil _
  · rw [if_pos rfl]
    exact List.forall_mem_singleton.mpr (Or.inl rfl)

theorem clear_publishes (ed' : Editor) : ∀ call ∈ (ed.clear cfg).2, call.Publishes ed' := by
  unfold Editor.clear
  simp only
  split
  · exact hide_publishes ed'
  · exact List.forall_mem_nil _

theorem abandon_publishes (status : Status) {calls : List TextCall}
    (h : ∀ call ∈ calls, call.Publishes (ed.abandon cfg status calls).ed) :
    (ed.abandon cfg status calls).Published := by
  intro call hcall
  rcases List.mem_append.mp hcall with hcall | hcall
  · rcases List.mem_append.mp hcall with hcall | hcall
    · exact h call hcall
    · rw [List.mem_singleton.mp hcall]
      trivial
  · exact clear_publishes _ call hcall

/-- The native calls of a method publish nothing. -/
theorem native_publishes {ed' : Editor} {calls rest : List TextCall} (hcalls : ∀ call ∈ calls, ∀ ed', call.Publishes ed')
    (hrest : ∀ call ∈ rest, call.Publishes ed') : ∀ call ∈ calls ++ rest, call.Publishes ed' := by
  intro call hcall
  rcases List.mem_append.mp hcall with hcall | hcall
  · exact hcalls call hcall ed'
  · exact hrest call hcall

theorem commitText_publishes (committed : Bool) : (ed.commitText cfg a committed).Published := by
  unfold Editor.commitText
  split
  · exact abandon_publishes _ (List.forall_mem_singleton.mpr trivial)
  split
  · exact abandon_publishes _ (List.forall_mem_cons.mpr ⟨trivial, List.forall_mem_singleton.mpr trivial⟩)
  · exact native_publishes (List.forall_mem_cons.mpr ⟨fun _ => trivial, List.forall_mem_singleton.mpr fun _ => trivial⟩)
      (publishDisplay_publishes .update)

theorem replaceText_publishes (first last : Nat) (r : Text) : (ed.replaceText u cfg a first last r).Published :=
  commitText_publishes true

theorem movedFrom_publishes (previous : Editor) : (ed.movedFrom u cfg a previous).Published := by
  unfold Editor.movedFrom
  split
  · exact List.forall_mem_nil _
  simp only
  split
  · exact publishDisplay_publishes .update
  split
  · exact abandon_publishes _ (List.forall_mem_singleton.mpr trivial)
  · exact List.forall_mem_cons.mpr ⟨trivial, publishDisplay_publishes .update⟩

theorem replaceComposition_publishes (event : TextEditingEvent) : (ed.replaceComposition u cfg a event).Published := by
  rcases replaceComposition_cases u cfg a ed event with ⟨-, -, heq⟩ | ⟨-, heq⟩ | ⟨ed₁, heq, -⟩
  · rw [heq]
    exact List.forall_mem_nil _
  · rw [heq]
    exact List.forall_mem_nil _
  · rw [heq]
    exact commitText_publishes false

theorem copySelection_publishes (cut : Bool) : (ed.copySelection u cfg a cut).Published := by
  unfold Editor.copySelection
  split
  · exact List.forall_mem_nil _
  simp only
  split
  · exact List.forall_mem_singleton.mpr trivial
  · exact List.forall_mem_cons.mpr ⟨trivial, replaceText_publishes _ _ _⟩

theorem paste_publishes : (ed.paste u cfg a).Published := by
  unfold Editor.paste
  split
  · exact List.forall_mem_nil _
  split
  · exact List.forall_mem_singleton.mpr trivial
  · exact List.forall_mem_cons.mpr ⟨trivial, replaceText_publishes _ _ _⟩

theorem finish_publishes : (ed.finish cfg a).Published := by
  have hnative : ∀ finished, ∀ call ∈ [ed.syncCall, .returnPressed ed.session.textboxHandle, ed.passCall finished],
      ∀ ed', call.Publishes ed' := by
    intro finished
    simp only [List.forall_mem_cons, List.not_mem_nil, false_imp_iff, implies_true, and_true]
    exact ⟨fun _ => trivial, fun _ => trivial, fun _ => trivial⟩
  unfold Editor.finish
  simp only
  split
  · exact abandon_publishes _ (List.forall_mem_singleton.mpr trivial)
  split
  · exact abandon_publishes _ (List.forall_mem_cons.mpr ⟨trivial, List.forall_mem_singleton.mpr trivial⟩)
  split
  · exact List.forall_mem_cons.mpr ⟨trivial, List.forall_mem_singleton.mpr trivial⟩
  split
  · exact abandon_publishes _ fun call hcall => hnative true call hcall _
  · exact native_publishes (hnative true) (clear_publishes _)

theorem release_publishes : (ed.release cfg a).Published := by
  unfold Editor.release
  simp only
  split
  · exact List.forall_mem_singleton.mpr trivial
  · exact List.forall_mem_cons.mpr ⟨trivial, clear_publishes _⟩

theorem moveCursor_publishes (offset : Nat) (extend : Bool) : (ed.moveCursor u cfg a offset extend).Published :=
  movedFrom_publishes ed

theorem editText_publishes (e : KeyEvent) : (ed.editText u cfg a e).Published := by
  unfold Editor.editText
  simp only
  split
  · -- Backspace
    split
    · exact replaceText_publishes _ _ _
    split
    · exact List.forall_mem_nil _
    · exact replaceText_publishes _ _ _
  split
  · -- Delete
    split
    · exact replaceText_publishes _ _ _
    split
    · exact List.forall_mem_nil _
    · exact replaceText_publishes _ _ _
  split
  · -- Left
    split
    · exact moveCursor_publishes _ _
    · exact moveCursor_publishes _ _
  split
  · -- Right
    split
    · exact moveCursor_publishes _ _
    · exact moveCursor_publishes _ _
  split
  · exact moveCursor_publishes _ _
  split
  · exact moveCursor_publishes _ _
  split
  · exact release_publishes
  split
  · exact replaceText_publishes _ _ _
  · exact finish_publishes

theorem handleKey_publishes (e : KeyEvent) : (ed.handleKey u cfg a e).Published := by
  unfold Editor.handleKey
  extract_lets bit noted
  split
  · exact List.forall_mem_nil _
  split
  · exact List.forall_mem_nil _
  split
  · exact List.forall_mem_nil _
  split
  · exact List.forall_mem_nil _
  generalize noted = ed'
  split
  · exact List.forall_mem_nil _
  split
  · exact movedFrom_publishes ed'
  split
  · exact copySelection_publishes false
  split
  · exact paste_publishes
  split
  · exact copySelection_publishes true
  · exact editText_publishes e

theorem handleTextInput_publishes (text : Text) : (ed.handleTextInput u cfg a text).Published := by
  unfold Editor.handleTextInput
  split
  · exact List.forall_mem_nil _
  split
  · exact List.forall_mem_nil _
  extract_lets first last
  split
  · exact List.forall_mem_nil _
  · exact replaceText_publishes _ _ _

theorem beginFocusSession_publishes (session : TextFocusSession) (text : Text) :
    ∀ call ∈ (ed.beginFocusSession u cfg session text).2.1, call.Publishes (ed.beginFocusSession u cfg session text).1 := by
  unfold Editor.beginFocusSession
  split
  · exact List.forall_mem_nil _
  split
  · exact List.forall_mem_nil _
  split
  · exact List.forall_mem_nil _
  extract_lets cleared ed₁ ed₂
  intro call hcall
  rcases List.mem_append.mp hcall with hcall | hcall
  · by_cases hfocused : ed.snapshot.focused = true
    · simp only [cleared, if_pos hfocused] at hcall
      exact clear_publishes _ call hcall
    · simp only [cleared, if_neg hfocused] at hcall
      cases hcall
  · exact publishDisplay_publishes .show call hcall

theorem endFocusSession_publishes (handle : Int) (generation : Nat) (notify : Bool) :
    ∀ call ∈ (ed.endFocusSession cfg a handle generation notify).2.1,
      call.Publishes (ed.endFocusSession cfg a handle generation notify).1 := by
  unfold Editor.endFocusSession
  split
  · exact List.forall_mem_nil _
  split
  · exact List.forall_mem_nil _
  · refine native_publishes ?_ (clear_publishes _)
    cases notify with
    | false => exact List.forall_mem_nil _
    | true => exact List.forall_mem_singleton.mpr fun _ => trivial

theorem replaceFocusedTextFromEngine_publishes (generation : Nat) (text : Text) :
    ∀ call ∈ (ed.replaceFocusedTextFromEngine u cfg generation text).2.1,
      call.Publishes (ed.replaceFocusedTextFromEngine u cfg generation text).1 := by
  unfold Editor.replaceFocusedTextFromEngine
  split
  · exact List.forall_mem_nil _
  split
  · exact List.forall_mem_nil _
  split
  · exact publishDisplay_publishes .update
  split
  · exact List.forall_mem_nil _
  split
  · exact List.forall_mem_nil _
  · exact publishDisplay_publishes .update

theorem updateFocusProperties_publishes (generation : Nat) (properties : TextFocusProperties) :
    ∀ call ∈ (ed.updateFocusProperties cfg generation properties).2.1,
      call.Publishes (ed.updateFocusProperties cfg generation properties).1 := by
  unfold Editor.updateFocusProperties
  split
  · exact List.forall_mem_nil _
  · exact publishDisplay_publishes .update

theorem handleTextEditing_publishes (event : TextEditingEvent) : (ed.handleTextEditing u cfg a event).Published := by
  unfold Editor.handleTextEditing
  split
  · exact List.forall_mem_nil _
  · exact replaceComposition_publishes event

/-- Whatever a call publishes is what the editor holds after it. -/
theorem step_publishes (act : EditorAct) :
    ∀ call ∈ (stepEditor u cfg ed act).2, call.Publishes (stepEditor u cfg ed act).1 := by
  obtain ⟨op, a⟩ := act
  cases op with
  | beginFocus session text => exact beginFocusSession_publishes session text
  | endFocus handle generation notify => exact endFocusSession_publishes handle generation notify
  | replaceFromEngine generation text => exact replaceFocusedTextFromEngine_publishes generation text
  | updateProperties generation properties => exact updateFocusProperties_publishes generation properties
  | textInput text => exact handleTextInput_publishes text
  | textEditing event => exact handleTextEditing_publishes event
  | key e => exact handleKey_publishes e

/-! ## The overlay beside the editor -/

/-- The further a boundary, the more code points are before it. -/
theorem codepointCount_mono {t : Text} {i j k m : Nat} (hi : Boundary t i) (hj : Boundary t j) (hij : i ≤ j)
    (hk : CodepointCount (t.take i) k) (hm : CodepointCount (t.take j) m) : k ≤ m := by
  obtain ⟨front, hfront, heq, rfl⟩ := hk
  obtain ⟨rest, hrest, heq'⟩ := hi.between hj hij
  have hboth : t.take j = (front ++ rest).flatMap encode := by
    rw [List.flatMap_append, ← heq, ← heq', ← List.take_add, Nat.add_sub_cancel' hij]
  have hscalar : ∀ c ∈ front ++ rest, Scalar c := by
    intro c hc
    rcases List.mem_append.mp hc with hc | hc
    · exact hfront c hc
    · exact hrest c hc
  rw [codepointCount_unique hm ⟨front ++ rest, hscalar, hboth, rfl⟩, List.length_append]
  omega

/-- The caret and the selection are drawn at the editor's offsets; in a password field, at the bullets that stand for
    the code points there. -/
structure DrawnAt (ed : Editor) (p : OverlayPresentation) : Prop where
  plain : Editor.isPasswordInputType ed.session.properties.textInputType = false →
    p.displayUtf8 = ed.text ∧ p.caretUtf8Byte = ed.cursorByte ∧ p.selectionBeginUtf8Byte = ed.selectionBegin ∧
      p.selectionEndUtf8Byte = ed.selectionEnd
  masked : Editor.isPasswordInputType ed.session.properties.textInputType = true → ∀ k,
    (CodepointCount (ed.text.take ed.cursorByte) k → p.caretUtf8Byte = k * kPasswordBullet.length) ∧
      (CodepointCount (ed.text.take ed.selectionBegin) k → p.selectionBeginUtf8Byte = k * kPasswordBullet.length) ∧
      (CodepointCount (ed.text.take ed.selectionEnd) k → p.selectionEndUtf8Byte = k * kPasswordBullet.length)

/-- A position that the editor published is read back as the offset it stands for. -/
theorem read_back (hu : u.Decodes) {t : Text} {b n : Nat} (hb : Boundary t b) (hn : Utf16Length t n) (hlt : n < 2 ^ 31) :
    (utf8ByteForUtf16Cursor u t (int32 (utf16Cursor u t b))).1 = b := by
  have hle := utf16Cursor_le hu hb hn
  rw [int32_of_lt (by omega)]
  exact utf8ByteForUtf16Cursor_utf16Cursor hu hb

theorem publishedUpdate_text {event : TextDisplayEvent} (hevent : event ≠ .hide) (session : TextFocusSession) (text : Text)
    (cursor first last : Nat) :
    (publishedUpdate event session text cursor first last).utf8.bytes = text ∧
      (publishedUpdate event session text cursor first last).cursorUtf16 = int32 cursor ∧
      (publishedUpdate event session text cursor first last).selectionBeginUtf16 = int32 first ∧
      (publishedUpdate event session text cursor first last).selectionEndUtf16 = int32 last ∧
      (publishedUpdate event session text cursor first last).textInputType = session.properties.textInputType := by
  simp only [publishedUpdate, if_neg hevent, TextView.bytes, and_self]

/-- The presentation of what an aligned editor holds. -/
theorem drawnAt_built (hu : u.Decodes) (h : Aligned u ed) {n : Nat} (hn : Utf16Length ed.text n) (hlt : n < 2 ^ 31)
    {event : TextDisplayEvent} (hevent : event ≠ .hide)
    (hp : buildPresentation u q (publishedUpdate event ed.session ed.text ed.snapshot.cursorUtf16
      ed.snapshot.selectionBeginUtf16 ed.snapshot.selectionEndUtf16) viewport = .ok p) : DrawnAt ed p := by
  have hle := selectionBegin_le ed
  have hcaret := read_back hu h.cursor hn hlt
  have hfirst := read_back hu h.selectionBegin hn hlt
  have hlast := read_back hu h.selectionEnd hn hlt
  have hcount := fun position => (utf8ByteForUtf16Cursor_caretAt hu h.text position).2
  have hcaretCount := hcount (int32 (utf16Cursor u ed.text ed.cursorByte))
  have hfirstCount := hcount (int32 (utf16Cursor u ed.text ed.selectionBegin))
  have hlastCount := hcount (int32 (utf16Cursor u ed.text ed.selectionEnd))
  rw [hcaret] at hcaretCount
  rw [hfirst] at hfirstCount
  rw [hlast] at hlastCount
  rw [h.cursorUtf16, h.selectionBeginUtf16, h.selectionEndUtf16] at hp
  obtain ⟨htext, hc, hb, he, htype⟩ := publishedUpdate_text hevent ed.session ed.text (utf16Cursor u ed.text ed.cursorByte)
    (utf16Cursor u ed.text ed.selectionBegin) (utf16Cursor u ed.text ed.selectionEnd)
  obtain ⟨-, m, -, ⟨hpassword, rfl⟩ | ⟨hpassword, rfl⟩⟩ := buildPresentation_cases hp
  · rw [htype] at hpassword
    have hmono := codepointCount_mono h.selectionBegin h.selectionEnd hle hfirstCount hlastCount
    rw [htext, hc, hb, he]
    refine ⟨fun hplain => ?_, fun _ k => ⟨fun hk => ?_, fun hk => ?_, fun hk => ?_⟩⟩
    · rw [hplain] at hpassword
      cases hpassword
    · rw [codepointCount_unique hk hcaretCount]
      rfl
    · simp only [OverlayPresentation.masked]
      rw [codepointCount_unique hk hfirstCount, Nat.min_eq_left hmono]
    · simp only [OverlayPresentation.masked]
      rw [codepointCount_unique hk hlastCount, Nat.max_eq_right hmono]
  · rw [htype] at hpassword
    rw [htext, hc, hb, he, hcaret, hfirst, hlast]
    refine ⟨fun _ => ⟨htext, rfl, Nat.min_eq_left hle, Nat.max_eq_right hle⟩, fun hmasked => ?_⟩
    rw [hpassword] at hmasked
    cases hmasked

/-- UTF-16 positions and byte offsets are inverse, and the overlay draws where the editor is. -/
theorem overlay_draws_editor_offsets (hu : u.Decodes) (cfg : EditorConfig) (q : DensityQuotient) :
    (∀ text b n, Boundary text b → Utf16Length text n → n < 2 ^ 31 →
      (utf8ByteForUtf16Cursor u text (int32 (utf16Cursor u text b))).1 = b) ∧
    (∀ text position, WellFormed text → CaretAt text position (utf8ByteForUtf16Cursor u text position).1 ∧
      CodepointCount (text.take (utf8ByteForUtf16Cursor u text position).1) (utf8ByteForUtf16Cursor u text position).2) ∧
    ∀ acts act event session text cursor first last,
      .display event session text cursor first last ∈ (stepEditor u cfg ((textEditor u cfg).run {} acts).1 act).2 →
      event ≠ .hide →
      ∀ n, Utf16Length ((textEditor u cfg).run {} (acts ++ [act])).1.text n → n < 2 ^ 31 →
      ∀ old viewport p status,
        applyUpdate u q old (publishedUpdate event session text cursor first last) viewport = (p, status, true) →
        DrawnAt ((textEditor u cfg).run {} (acts ++ [act])).1 p := by
  refine ⟨fun text b n hb hn hlt => read_back hu hb hn hlt,
    fun text position ht => utf8ByteForUtf16Cursor_caretAt hu ht position, ?_⟩
  intro acts act event session text cursor first last hcall hevent n hn hlt old viewport p status happlied
  have haligned := run_aligned hu cfg (acts ++ [act])
  have hpublished := step_publishes act _ hcall
  have hstep : ((textEditor u cfg).run {} (acts ++ [act])).1 =
      (stepEditor u cfg ((textEditor u cfg).run {} acts).1 act).1 := by
    rw [Machine.run_snoc]
    rfl
  rw [← hstep] at hpublished
  obtain rfl | ⟨rfl, rfl, rfl, rfl, rfl⟩ := hpublished
  · exact absurd rfl hevent
  · refine drawnAt_built hu haligned hn hlt hevent (applyUpdate_built happlied ?_)
    unfold publishedUpdate
    rw [if_neg hevent]
    exact hevent

/-- A TextBox with "a", U+1F600 and "b" is focused. -/
def focusPair : EditorAct := { op := .beginFocus { textboxHandle := 1, generation := 3 } ([0x61, 0x1F600, 0x62].flatMap encode) }

theorem overlay_draws_editor_offsets_demo :
    (utf8ByteForUtf16Cursor plainUtf8proc ([0x61, 0x1F600, 0x62].flatMap encode)
      (int32 (utf16Cursor plainUtf8proc ([0x61, 0x1F600, 0x62].flatMap encode) 5))).1 = 5 ∧
    ∃ p, applyUpdate plainUtf8proc (fun w _ => w) {} (publishedUpdate .show { textboxHandle := 1, generation := 3 }
        ([0x61, 0x1F600, 0x62].flatMap encode) 4 4 4) ⟨800, 600, F32.one⟩ = (p, Status.okStatus, true) ∧
      DrawnAt ((textEditor plainUtf8proc {}).run {} ([] ++ [focusPair])).1 p := by
  have hscalar : ∀ c ∈ [0x61, 0x1F600, 0x62], Scalar c := by decide
  have hunits : Utf16Length ([0x61, 0x1F600, 0x62].flatMap encode) 4 := ⟨_, hscalar, rfl, by decide⟩
  have hbound : Boundary ([0x61, 0x1F600, 0x62].flatMap encode) 5 :=
    (boundary_flatMap hscalar).mpr ⟨[0x61, 0x1F600], [0x62], rfl, by decide⟩
  obtain ⟨hread, -, hdrawn⟩ := overlay_draws_editor_offsets plainUtf8proc_decodes {} (fun w _ => w)
  refine ⟨hread _ 5 4 hbound hunits (by decide), _, rfl, ?_⟩
  exact hdrawn [] focusPair .show { textboxHandle := 1, generation := 3 } ([0x61, 0x1F600, 0x62].flatMap encode) 4 4 4 (by decide)
    (by decide) 4 hunits (by decide) {} ⟨800, 600, F32.one⟩ _ Status.okStatus rfl

end Mocktail.Input

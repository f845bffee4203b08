/-
  Mocktail.Input.TextEchoes — the echoes `RobloxTextEditor` expects from the engine.

  Each text that was passed to the native sink may come back as an engine update. The editor
  keeps such texts until they do (`pendingNativeEchoes`) with a running total of their sizes:
  the oldest make room, an update takes one out of the middle, the end of the session and an
  empty update drop them all.

  `EchoChange` lists what a call can do to them. `Watched` is the editor with the texts that it
  has passed successfully in the session, which the program does not keep.

  Proved (`echoes_kept`): in a run whose newlines find room, the list and its total are bounded
  and agree, no subtraction wraps, and each echo was passed in the session. A newline that finds
  none makes a text longer than the total may be (`newline_overfills_echoes`).
-/

import Mocktail.Input.TextBuffer

namespace Mocktail.Input

open Mocktail.Lib Mocktail.Lib.Utf8

/-! ## Watching a session -/

def echoBytes (echoes : List Text) : Nat := (echoes.map List.length).sum

/-- The subtractions of the loop of `RememberPendingNativeEchoLocked`: from what, and what. -/
def evictions (size : Nat) : List Text → Nat → List (Nat × Nat)
  | [], _ => []
  | echo :: echoes, bytes =>
    if kMaximumPendingNativeEchoes ≤ (echo :: echoes).length || sizeSub kMaximumTextBytes size < bytes then
      (bytes, echo.length) :: evictions size echoes (sizeSub bytes echo.length)
    else []

/-- The text is among those a call passes to the native sink. -/
def passes (calls : List TextCall) (text : Text) : Bool :=
  calls.any fun
    | .passText _ passed _ _ => passed == text
    | _ => false

/-- The call opens a session. -/
def opens (u : Utf8proc) (cfg : EditorConfig) (ed : Editor) (act : EditorAct) : Bool :=
  match act.op with
  | .beginFocus session text => (ed.beginFocusSession u cfg session text).2.2.ok
  | _ => false

structure Watched where
  ed : Editor := {}
  /-- The texts the editor had in this session and passed successfully. -/
  passed : List Text := []

def watch (u : Utf8proc) (cfg : EditorConfig) (w : Watched) (act : EditorAct) : Watched :=
  let after := stepEditor u cfg w.ed act
  { ed := after.1
    passed :=
      if !after.1.snapshot.focused || opens u cfg w.ed act then []
      else if act.answers.passText.ok && passes after.2 after.1.text then w.passed ++ [after.1.text]
      else w.passed }

def watched (u : Utf8proc) (cfg : EditorConfig) (acts : List EditorAct) : Watched := acts.foldl (watch u cfg) {}

structure EchoesOk (w : Watched) : Prop where
  count : w.ed.pendingNativeEchoes.length ≤ kMaximumPendingNativeEchoes
  total : w.ed.pendingNativeEchoBytes = echoBytes w.ed.pendingNativeEchoes
  bounded : w.ed.pendingNativeEchoBytes ≤ kMaximumTextBytes
  passed : ∀ echo ∈ w.ed.pendingNativeEchoes, echo ∈ w.passed
  ended : w.ed.snapshot.focused = false → w.ed.pendingNativeEchoes = []

/-! ## What a call can do to the echoes -/

variable {calls : List TextCall}

section
variable {u : Utf8proc} {cfg : EditorConfig} {a : Answers} {ed ed' : Editor}

/-- The echoes and their total are as before, and so is the focus. -/
def SameEchoes (ed ed' : Editor) : Prop :=
  ed'.pendingNativeEchoes = ed.pendingNativeEchoes ∧ ed'.pendingNativeEchoBytes = ed.pendingNativeEchoBytes ∧
    ed'.snapshot.focused = ed.snapshot.focused

inductive EchoChange (a : Answers) (ed ed' : Editor) (calls : List TextCall) : Prop where
  | kept : SameEchoes ed ed' → EchoChange a ed ed' calls
  | emptied : ed'.pendingNativeEchoes = [] → ed'.pendingNativeEchoBytes = 0 → EchoChange a ed ed' calls
  | consumed (text : Text) : text ∈ ed.pendingNativeEchoes → ed'.pendingNativeEchoes = ed.pendingNativeEchoes.erase text →
      ed'.pendingNativeEchoBytes = sizeSub ed.pendingNativeEchoBytes text.length → ed'.snapshot.focused = ed.snapshot.focused →
      EchoChange a ed ed' calls
  | remembered (ed₁ : Editor) : SameEchoes ed ed₁ → ed'.text = ed₁.text → SameEchoes ed₁.rememberPendingNativeEcho ed' →
      a.passText.ok = true → passes calls ed'.text = true → EchoChange a ed ed' calls

theorem EchoChange.ite {c : Prop} [Decidable c] {x y : Edit} (hx : EchoChange a ed x.ed x.calls)
    (hy : EchoChange a ed y.ed y.calls) :
    EchoChange a ed (if c then x else y).ed (if c then x else y).calls := by
  split
  · exact hx
  · exact hy

theorem EchoChange.after {ed₁ : Editor} (h : EchoChange a ed₁ ed' calls) (hs : SameEchoes ed ed₁) :
    EchoChange a ed ed' calls := by
  obtain ⟨he, hb, hf⟩ := hs
  cases h with
  | kept h => exact .kept ⟨h.1.trans he, h.2.1.trans hb, h.2.2.trans hf⟩
  | emptied h hb => exact .emptied h hb
  | consumed text hmem he' hb' hf' => exact .consumed text (he ▸ hmem) (he ▸ he') (hb ▸ hb') (hf'.trans hf)
  | remembered ed₂ h htext hsame hok hpass =>
    exact .remembered ed₂ ⟨h.1.trans he, h.2.1.trans hb, h.2.2.trans hf⟩ htext hsame hok hpass

theorem remember_focused (ed : Editor) : ed.rememberPendingNativeEcho.snapshot.focused = ed.snapshot.focused := by
  unfold Editor.rememberPendingNativeEcho
  split <;> rfl

theorem commitText_echoes {ed₁ : Editor} (h : SameEchoes ed ed₁) (committed : Bool) :
    EchoChange a ed (ed₁.commitText cfg a committed).ed (ed₁.commitText cfg a committed).calls := by
  unfold Editor.commitText
  split
  · exact .emptied rfl rfl
  · split
    · exact .emptied rfl rfl
    · rename_i hpass
      have htext := (rememberPendingNativeEcho_same ed₁).text
      have hpassed (last : List TextCall) : passes ([ed₁.syncCall, ed₁.passCall false] ++ last) ed₁.text = true := by
        simp [passes, Editor.passCall]
      cases committed with
      | false | true =>
        exact .remembered ed₁ h htext ⟨rfl, rfl, rfl⟩ (by simpa using hpass) (htext ▸ hpassed _)

theorem replaceText_echoes (first last : Nat) (r : Text) :
    EchoChange a ed (ed.replaceText u cfg a first last r).ed (ed.replaceText u cfg a first last r).calls := by
  unfold Editor.replaceText
  apply commitText_echoes
  exact ⟨rfl, rfl, rfl⟩

theorem replaceComposition_echoes (event : TextEditingEvent) :
    EchoChange a ed (ed.replaceComposition u cfg a event).ed (ed.replaceComposition u cfg a event).calls := by
  unfold Editor.replaceComposition
  refine .ite (.kept ⟨rfl, rfl, rfl⟩) ?_
  refine .ite (.kept ⟨rfl, rfl, rfl⟩) ?_
  apply commitText_echoes
  cases ed.compositionActive <;> cases event.text.isEmpty <;> exact ⟨rfl, rfl, rfl⟩

theorem movedFrom_echoes {ed₁ : Editor} (h : SameEchoes ed ed₁) (previous : Editor) :
    EchoChange a ed (ed₁.movedFrom u cfg a previous).ed (ed₁.movedFrom u cfg a previous).calls := by
  unfold Editor.movedFrom
  exact .ite (.kept h) (.ite (.kept h) (.ite (.emptied rfl rfl) (.kept h)))

theorem finish_echoes : EchoChange a ed (ed.finish cfg a).ed (ed.finish cfg a).calls := by
  unfold Editor.finish
  exact .ite (.emptied rfl rfl) (.ite (.emptied rfl rfl)
    (.ite (.kept ⟨rfl, rfl, rfl⟩) (.ite (.emptied rfl rfl) (.emptied rfl rfl))))

theorem release_echoes : EchoChange a ed (ed.release cfg a).ed (ed.release cfg a).calls := by
  unfold Editor.release
  exact .ite (.kept ⟨rfl, rfl, rfl⟩) (.emptied rfl rfl)

theorem EchoChange.prepend (h : EchoChange a ed ed' calls) (call : TextCall) :
    EchoChange a ed ed' (call :: calls) := by
  cases h with
  | kept h => exact .kept h
  | emptied h hb => exact .emptied h hb
  | consumed text hmem he hb hf => exact .consumed text hmem he hb hf
  | remembered ed₁ h htext hsame hok hpass =>
    refine .remembered ed₁ h htext hsame hok ?_
    rw [passes, List.any_cons, ← passes, hpass, Bool.or_true]

theorem copySelection_echoes (cut : Bool) :
    EchoChange a ed (ed.copySelection u cfg a cut).ed (ed.copySelection u cfg a cut).calls := by
  unfold Editor.copySelection
  exact .ite (.kept ⟨rfl, rfl, rfl⟩) (.ite (.kept ⟨rfl, rfl, rfl⟩) ((replaceText_echoes _ _ _).prepend _))

theorem paste_echoes : EchoChange a ed (ed.paste u cfg a).ed (ed.paste u cfg a).calls := by
  unfold Editor.paste
  exact .ite (.kept ⟨rfl, rfl, rfl⟩) (.ite (.kept ⟨rfl, rfl, rfl⟩) ((replaceText_echoes _ _ _).prepend _))

theorem editText_echoes (e : KeyEvent) : EchoChange a ed (ed.editText u cfg a e).ed (ed.editText u cfg a e).calls := by
  have hreplace (i j : Nat) (r : Text) : EchoChange a ed (ed.replaceText u cfg a i j r).ed (ed.replaceText u cfg a i j r).calls :=
    replaceText_echoes i j r
  have hmove (i : Nat) (b : Bool) : EchoChange a ed (ed.moveCursor u cfg a i b).ed (ed.moveCursor u cfg a i b).calls := by
    unfold Editor.moveCursor
    apply movedFrom_echoes
    exact ⟨rfl, rfl, rfl⟩
  have hnothing : EchoChange a ed (⟨ed, [], { handled := true }⟩ : Edit).ed [] := .kept ⟨rfl, rfl, rfl⟩
  unfold Editor.editText
  refine .ite (.ite (hreplace _ _ _) (.ite hnothing (hreplace _ _ _))) ?_
  refine .ite (.ite (hreplace _ _ _) (.ite hnothing (hreplace _ _ _))) ?_
  refine .ite (.ite (hmove _ _) (hmove _ _)) (.ite (.ite (hmove _ _) (hmove _ _)) (.ite (hmove _ _) (.ite (hmove _ _) ?_)))
  exact .ite release_echoes (.ite (hreplace _ _ _) finish_echoes)

theorem handleKey_echoes (e : KeyEvent) : EchoChange a ed (ed.handleKey u cfg a e).ed (ed.handleKey u cfg a e).calls := by
  unfold Editor.handleKey
  refine .ite (.kept ⟨rfl, rfl, rfl⟩) (.ite (.kept ⟨rfl, rfl, rfl⟩)
    (.ite (.kept ⟨rfl, rfl, rfl⟩) (.ite (.kept ⟨rfl, rfl, rfl⟩) ?_)))
  -- The shortcut is noted first, which the echoes do not see.
  have hnoted : SameEchoes ed (if e.shortcut then
      { ed with activeShortcuts := ed.activeShortcuts ||| shortcutBit e.scancode } else ed) := by
    split <;> exact ⟨rfl, rfl, rfl⟩
  generalize (if e.shortcut then { ed with activeShortcuts := ed.activeShortcuts ||| shortcutBit e.scancode } else ed) =
    noted at hnoted
  have hall : EchoChange a noted (noted.selectAll u cfg a).ed (noted.selectAll u cfg a).calls := by
    unfold Editor.selectAll
    apply movedFrom_echoes
    exact ⟨rfl, rfl, rfl⟩
  refine EchoChange.after (.ite (.kept ⟨rfl, rfl, rfl⟩) ?_) hnoted
  exact .ite hall (.ite (copySelection_echoes false)
    (.ite paste_echoes (.ite (copySelection_echoes true) (editText_echoes e))))

theorem handleTextInput_echoes (text : Text) :
    EchoChange a ed (ed.handleTextInput u cfg a text).ed (ed.handleTextInput u cfg a text).calls := by
  unfold Editor.handleTextInput
  exact .ite (.kept ⟨rfl, rfl, rfl⟩) (.ite (.kept ⟨rfl, rfl, rfl⟩) (.ite (.kept ⟨rfl, rfl, rfl⟩) (replaceText_echoes _ _ _)))

theorem handleTextEditing_echoes (event : TextEditingEvent) :
    EchoChange a ed (ed.handleTextEditing u cfg a event).ed (ed.handleTextEditing u cfg a event).calls := by
  unfold Editor.handleTextEditing
  exact .ite (.kept ⟨rfl, rfl, rfl⟩) (replaceComposition_echoes event)

theorem endFocusSession_echoes (handle : Int) (generation : Nat) (notify : Bool) :
    EchoChange a ed (ed.endFocusSession cfg a handle generation notify).1
      (ed.endFocusSession cfg a handle generation notify).2.1 := by
  unfold Editor.endFocusSession
  split
  · exact .kept ⟨rfl, rfl, rfl⟩
  · split
    · exact .kept ⟨rfl, rfl, rfl⟩
    · exact .emptied rfl rfl

theorem replaceFocusedTextFromEngine_echoes (generation : Nat) (text : Text) :
    EchoChange a ed (ed.replaceFocusedTextFromEngine u cfg generation text).1
      (ed.replaceFocusedTextFromEngine u cfg generation text).2.1 := by
  unfold Editor.replaceFocusedTextFromEngine
  split
  · exact .kept ⟨rfl, rfl, rfl⟩
  · split
    · exact .kept ⟨rfl, rfl, rfl⟩
    · split
      · exact .emptied rfl rfl
      · unfold Editor.consumePendingNativeEcho
        by_cases hmem : text ∈ ed.pendingNativeEchoes
        · rw [if_pos hmem]
          exact .consumed text hmem rfl rfl rfl
        · rw [if_neg hmem]
          dsimp only
          split <;> exact .kept ⟨rfl, rfl, rfl⟩

theorem updateFocusProperties_echoes (generation : Nat) (properties : TextFocusProperties) :
    EchoChange a ed (ed.updateFocusProperties cfg generation properties).1
      (ed.updateFocusProperties cfg generation properties).2.1 := by
  unfold Editor.updateFocusProperties
  split <;> exact .kept ⟨rfl, rfl, rfl⟩

theorem beginFocusSession_cases (ed : Editor) (session : TextFocusSession) (text : Text) :
    (ed.beginFocusSession u cfg session text).2.2.ok = true ∨ (ed.beginFocusSession u cfg session text).1 = ed := by
  unfold Editor.beginFocusSession
  split
  · exact .inr rfl
  · split
    · exact .inr rfl
    · split
      · exact .inr rfl
      · exact .inl rfl

/-- A session that opens starts without echoes, if there were none without a session. -/
theorem beginFocusSession_echoes {session : TextFocusSession} {text : Text}
    (h : ed.snapshot.focused = false → ed.pendingNativeEchoes = [] ∧ ed.pendingNativeEchoBytes = 0)
    (hok : (ed.beginFocusSession u cfg session text).2.2.ok = true) :
    (ed.beginFocusSession u cfg session text).1.pendingNativeEchoes = [] ∧
      (ed.beginFocusSession u cfg session text).1.pendingNativeEchoBytes = 0 := by
  unfold Editor.beginFocusSession at hok ⊢
  split_ifs at hok ⊢
  · cases hok
  · cases hok
  · cases hok
  · exact ⟨rfl, rfl⟩
  · rename_i hfocused
    exact h (by simpa using hfocused)

end

/-! ## The list and its total -/

theorem echoBytes_cons (echo : Text) (echoes : List Text) : echoBytes (echo :: echoes) = echo.length + echoBytes echoes := by
  simp [echoBytes]

theorem echoBytes_append (echoes : List Text) (echo : Text) : echoBytes (echoes ++ [echo]) = echoBytes echoes + echo.length := by
  simp [echoBytes]

variable {echoes passed : List Text}

theorem echoBytes_erase {echo : Text} (h : echo ∈ echoes) :
    echoBytes (echoes.erase echo) + echo.length = echoBytes echoes := by
  induction echoes with
  | nil => cases h
  | cons first echoes ih =>
    by_cases heq : first = echo
    · rw [heq, List.erase_cons_head, echoBytes_cons]
      omega
    · have hmem := (List.mem_cons.mp h).resolve_left (Ne.symm heq)
      rw [List.erase_cons_tail (by simpa using heq), echoBytes_cons, echoBytes_cons, ← ih hmem]
      omega

/-- The oldest echoes leave until there is room for one more, and each subtraction is of a size that the total has. -/
theorem evictEchoes_spec (size : Nat) {bytes : Nat} (hbytes : bytes = echoBytes echoes) (hlt : bytes < 2 ^ 64) :
    let kept := Editor.evictEchoes size echoes bytes
    kept.1 <:+ echoes ∧ kept.2 = echoBytes kept.1 ∧
      (kept.1 = [] ∨ kept.1.length < kMaximumPendingNativeEchoes ∧ kept.2 ≤ sizeSub kMaximumTextBytes size) ∧
      ∀ s ∈ evictions size echoes bytes, s.2 ≤ s.1 := by
  induction echoes generalizing bytes with
  | nil => exact ⟨List.suffix_rfl, hbytes, .inl rfl, nofun⟩
  | cons echo echoes ih =>
    rw [echoBytes_cons] at hbytes
    simp only [Editor.evictEchoes, evictions]
    split
    · have hsub : sizeSub bytes echo.length = echoBytes echoes := by
        rw [sizeSub_eq (by omega) hlt]
        omega
      obtain ⟨hsuffix, hsum, hroom, hall⟩ := ih hsub (by omega)
      refine ⟨hsuffix.trans (List.suffix_cons _ _), hsum, hroom, List.forall_mem_cons.mpr ⟨?_, hall⟩⟩
      show echo.length ≤ bytes
      omega
    · rename_i hroom
      simp only [Bool.or_eq_true, decide_eq_true_eq, not_or, Nat.not_le, Nat.not_lt] at hroom
      exact ⟨List.suffix_rfl, by rw [echoBytes_cons]; exact hbytes, .inr hroom, nofun⟩

section
variable {u : Utf8proc} {cfg : EditorConfig} {ed : Editor} {w : Watched} {act : EditorAct}

/-- What `EchoesOk` says of the editor alone. -/
def Totalled (ed : Editor) : Prop :=
  ed.pendingNativeEchoes.length ≤ kMaximumPendingNativeEchoes ∧ ed.pendingNativeEchoBytes = echoBytes ed.pendingNativeEchoes ∧
    ed.pendingNativeEchoBytes ≤ kMaximumTextBytes

theorem kMaximumTextBytes_lt : kMaximumTextBytes < 2 ^ 64 := by decide

theorem remember_totalled (h : Totalled ed) (htext : ed.text.length ≤ kMaximumTextBytes) :
    Totalled ed.rememberPendingNativeEcho ∧
      ∀ echo ∈ ed.rememberPendingNativeEcho.pendingNativeEchoes, echo ∈ ed.pendingNativeEchoes ∨ echo = ed.text := by
  obtain ⟨hcount, htotal, hbound⟩ := h
  have hmax := kMaximumTextBytes_lt
  unfold Editor.rememberPendingNativeEcho
  split
  · exact ⟨⟨hcount, htotal, hbound⟩, fun _ h => .inl h⟩
  · obtain ⟨hsuffix, hsum, hroom, -⟩ := evictEchoes_spec ed.text.length htotal (by omega)
    rw [sizeSub_eq htext hmax] at hroom
    dsimp only
    generalize Editor.evictEchoes ed.text.length ed.pendingNativeEchoes ed.pendingNativeEchoBytes = kept at hsuffix hsum hroom
    have hfits : kept.1.length < kMaximumPendingNativeEchoes ∧ kept.2 + ed.text.length ≤ kMaximumTextBytes := by
      rcases hroom with hnil | ⟨hlt, hle⟩
      · rw [hsum, hnil]
        exact ⟨by decide, by simpa [echoBytes] using htext⟩
      · exact ⟨hlt, by omega⟩
    have hmod : (kept.2 + ed.text.length) % 2 ^ 64 = kept.2 + ed.text.length := Nat.mod_eq_of_lt (by omega)
    refine ⟨⟨?_, ?_, ?_⟩, ?_⟩
    · rw [List.length_append]
      exact hfits.1
    · rw [hmod, echoBytes_append, hsum]
    · rw [hmod]
      exact hfits.2
    · intro echo hecho
      rcases List.mem_append.mp hecho with hecho | hecho
      · exact .inl (hsuffix.subset hecho)
      · exact .inr (List.mem_singleton.mp hecho)

theorem EchoChange.ok {ed' : Editor} {a : Answers} (h : EchoesOk w)
    (hlive : w.ed.snapshot.focused = true) (hchange : EchoChange a w.ed ed' calls) (htext : ed'.text.length ≤ kMaximumTextBytes)
    (hpassed : ed'.snapshot.focused = true → ∀ echo ∈ w.passed, echo ∈ passed)
    (hnew : ed'.snapshot.focused = true → a.passText.ok = true → passes calls ed'.text = true → ed'.text ∈ passed) :
    EchoesOk ⟨ed', passed⟩ := by
  obtain ⟨hcount, htotal, hbound, hin, hended⟩ := h
  cases hchange with
  | emptied he hb =>
    refine ⟨by rw [he]; exact Nat.zero_le _, by rw [he, hb]; rfl, by rw [hb]; exact Nat.zero_le _, ?_, fun _ => he⟩
    intro echo hecho
    rw [he] at hecho
    cases hecho
  | kept hs =>
    obtain ⟨he, hb, hf⟩ := hs
    have hfocused : ed'.snapshot.focused = true := hf.trans hlive
    refine ⟨by rwa [he], by rwa [he, hb], by rwa [hb], ?_, fun h => by rw [hfocused] at h; cases h⟩
    intro echo hecho
    rw [he] at hecho
    exact hpassed hfocused echo (hin echo hecho)
  | consumed text hmem he hb hf =>
    have hsum := echoBytes_erase hmem
    have hmax := kMaximumTextBytes_lt
    rw [sizeSub_eq (by omega) (by omega)] at hb
    have hbytes : ed'.pendingNativeEchoBytes = echoBytes (w.ed.pendingNativeEchoes.erase text) := by omega
    have hfocused : ed'.snapshot.focused = true := hf.trans hlive
    refine ⟨?_, by rw [he]; exact hbytes, by rw [hbytes]; omega, ?_, fun h => by rw [hfocused] at h; cases h⟩
    · rw [he]
      exact Nat.le_trans List.length_erase_le hcount
    · intro echo hecho
      rw [he] at hecho
      exact hpassed hfocused echo (hin echo (List.mem_of_mem_erase hecho))
  | remembered ed₁ hs hsame hafter hok hpass =>
    obtain ⟨he, hb, hf⟩ := hs
    obtain ⟨he', hb', hf'⟩ := hafter
    obtain ⟨⟨hcount', htotal', hbound'⟩, hfrom⟩ :=
      @remember_totalled ed₁ ⟨by rwa [he], by rwa [he, hb], by rwa [hb]⟩ (by rwa [← hsame])
    have hfocused : ed'.snapshot.focused = true := by rw [hf', remember_focused, hf, hlive]
    refine ⟨by rwa [he'], by rwa [he', hb'], by rwa [hb'], ?_, fun h => by rw [hfocused] at h; cases h⟩
    intro echo hecho
    rw [he'] at hecho
    rcases hfrom echo hecho with hold | rfl
    · exact hpassed hfocused echo (hin echo (he ▸ hold))
    · rw [← hsame]
      exact hnew hfocused hok hpass

/-! ## Runs -/

/-- Without a session only a new one changes anything. -/
theorem unfocused_same (h : ed.snapshot.focused = false) (hopens : opens u cfg ed act = false) :
    (stepEditor u cfg ed act).1 = ed := by
  obtain ⟨op, a⟩ := act
  cases op with
  | beginFocus session text => exact (beginFocusSession_cases ed session text).resolve_left (by simpa [opens] using hopens)
  | endFocus => simp [stepEditor, Editor.endFocusSession, h]
  | replaceFromEngine => simp [stepEditor, Editor.replaceFocusedTextFromEngine, h]
  | updateProperties => simp [stepEditor, Editor.updateFocusProperties, h]
  | textInput => simp [stepEditor, Editor.handleTextInput, h]
  | textEditing => simp [stepEditor, Editor.handleTextEditing, h]
  | key => simp [stepEditor, Editor.handleKey, h]

theorem step_echoes (hopens : opens u cfg ed act = false) :
    EchoChange act.answers ed (stepEditor u cfg ed act).1 (stepEditor u cfg ed act).2 := by
  obtain ⟨op, a⟩ := act
  cases op with
  | beginFocus session text =>
    have hsame := (beginFocusSession_cases ed session text).resolve_left (by simpa [opens] using hopens)
    exact .kept (by rw [stepEditor, hsame]; exact ⟨rfl, rfl, rfl⟩)
  | endFocus handle generation notify => exact endFocusSession_echoes handle generation notify
  | replaceFromEngine generation text => exact replaceFocusedTextFromEngine_echoes generation text
  | updateProperties generation properties => exact updateFocusProperties_echoes generation properties
  | textInput text => exact handleTextInput_echoes text
  | textEditing event => exact handleTextEditing_echoes event
  | key e => exact handleKey_echoes e

theorem EchoesOk.emptied (he : ed.pendingNativeEchoes = [] ∧ ed.pendingNativeEchoBytes = 0) :
    EchoesOk ⟨ed, passed⟩ := by
  obtain ⟨he, hb⟩ := he
  refine ⟨by rw [he]; exact Nat.zero_le _, by rw [he, hb]; rfl, by rw [hb]; exact Nat.zero_le _, ?_, fun _ => he⟩
  intro echo hecho
  rw [he] at hecho
  cases hecho

theorem watch_ok (h : EchoesOk w) (htext : (stepEditor u cfg w.ed act).1.text.length ≤ kMaximumTextBytes) :
    EchoesOk (watch u cfg w act) := by
  have hnone : w.ed.snapshot.focused = false → w.ed.pendingNativeEchoes = [] ∧ w.ed.pendingNativeEchoBytes = 0 := by
    intro hf
    have he := h.ended hf
    exact ⟨he, by rw [h.total, he]; rfl⟩
  unfold watch
  dsimp only
  cases hopens : opens u cfg w.ed act with
  | true =>
    obtain ⟨op, a⟩ := act
    cases op with
    | beginFocus session text => exact .emptied (beginFocusSession_echoes hnone hopens)
    | endFocus | replaceFromEngine | updateProperties | textInput | textEditing | key => cases hopens
  | false =>
    cases hf : w.ed.snapshot.focused with
    | false =>
      rw [unfocused_same hf hopens]
      exact .emptied (hnone hf)
    | true =>
      refine (step_echoes hopens).ok h hf htext ?_ ?_
      · intro hfocused echo hecho
        rw [if_neg (by simp [hfocused])]
        split
        · exact List.mem_append_left _ hecho
        · exact hecho
      · intro hfocused hok hpass
        rw [if_neg (by simp [hfocused]), if_pos (by simp [hok, hpass])]
        exact List.mem_append_right _ List.mem_cons_self

theorem watched_ed (u : Utf8proc) (cfg : EditorConfig) (acts : List EditorAct) :
    (watched u cfg acts).ed = ((textEditor u cfg).run {} acts).1 := by
  induction acts using List.reverseRecOn with
  | nil => rfl
  | append_singleton acts act ih =>
    rw [watched, List.foldl_append, ← watched, Machine.run_snoc]
    show (stepEditor u cfg (watched u cfg acts).ed act).1 = _
    rw [ih]
    rfl

theorem watched_ok (hu : u.Decodes) (cfg : EditorConfig) {acts : List EditorAct}
    (hfits : (textEditor u cfg).Guarded (fun ed _ act => NewlineFits ed act) {} acts) : EchoesOk (watched u cfg acts) := by
  induction acts using List.reverseRecOn with
  | nil => exact .emptied ⟨rfl, rfl⟩
  | append_singleton acts act ih =>
    have hsize := (run_buffer hu cfg _ hfits).size
    rw [← watched_ed, watched, List.foldl_append, ← watched] at hsize
    rw [watched, List.foldl_append, ← watched]
    exact watch_ok (ih (Machine.guarded_snoc _ hfits).1) hsize

end

theorem echoes_kept {u : Utf8proc} (hu : u.Decodes) (cfg : EditorConfig) (acts : List EditorAct)
    (hfits : (textEditor u cfg).Guarded (fun ed _ act => NewlineFits ed act) {} acts) :
    let w := watched u cfg acts
    w.ed = ((textEditor u cfg).run {} acts).1 ∧ EchoesOk w ∧
    (∀ size, ∀ s ∈ evictions size w.ed.pendingNativeEchoes w.ed.pendingNativeEchoBytes, s.2 ≤ s.1) ∧
    (∀ text ∈ w.ed.pendingNativeEchoes, text.length ≤ w.ed.pendingNativeEchoBytes) ∧
    ∀ generation, (w.ed.replaceFocusedTextFromEngine u cfg generation []).2.2.ok = true →
      (w.ed.replaceFocusedTextFromEngine u cfg generation []).1.pendingNativeEchoes = [] := by
  intro w
  have hok : EchoesOk w := watched_ok hu cfg hfits
  have hmax := kMaximumTextBytes_lt
  refine ⟨watched_ed u cfg acts, hok, fun size =>
    (evictEchoes_spec size hok.total (Nat.lt_of_le_of_lt hok.bounded hmax)).2.2.2, ?_, ?_⟩
  · intro text hmem
    have := echoBytes_erase hmem
    rw [hok.total]
    omega
  · intro generation haccepted
    unfold Editor.replaceFocusedTextFromEngine at haccepted ⊢
    rw [if_pos (show ([] : Text).isEmpty = true from rfl)] at haccepted ⊢
    split_ifs at haccepted ⊢
    · cases haccepted
    · cases haccepted
    · rfl

theorem echoes_kept_demo :
    EchoesOk (watched plainUtf8proc {} demoEdits) ∧ (watched plainUtf8proc {} demoEdits).ed.pendingNativeEchoes.length = 4 :=
  ⟨(echoes_kept plainUtf8proc_decodes {} demoEdits (by decide +kernel)).2.1, by decide +kernel⟩

theorem newline_echo {u : Utf8proc} {cfg : EditorConfig} {a : Answers} {ed : Editor} {e : KeyEvent}
    (h : ed.insertsNewline e = true) (hsync : a.sync.ok = true) (hpass : a.passText.ok = true) :
    Editor.splice ed.text ed.selectionBegin ed.selectionEnd [0x0A] ∈
      (stepEditor u cfg ed ⟨.key e, a⟩).1.pendingNativeEchoes := by
  show _ ∈ (ed.handleKey u cfg a e).ed.pendingNativeEchoes
  rw [handleKey_newline h]
  unfold Editor.replaceText Editor.commitText
  rw [if_neg (by simp [hsync]), if_neg (by simp [hpass])]
  show _ ∈ (Editor.rememberPendingNativeEcho _).pendingNativeEchoes
  unfold Editor.rememberPendingNativeEcho
  split
  · rename_i hlast
    exact List.mem_of_getLast? hlast
  · exact List.mem_append_right _ List.mem_cons_self

theorem full_return_echoed {u : Utf8proc} (hu : u.Decodes) {text : Text} (hwf : WellFormed text)
    (hsize : text.length = kMaximumTextBytes) :
    ¬ EchoesOk (watched u {}
      [⟨.beginFocus { textboxHandle := 1, generation := 1, properties := { multiline := true } } text, {}⟩,
        ⟨.key { pressed := true, scancode := Scancode.return }, {}⟩]) := by
  intro hok
  have hvalid : (layout u text).valid = true := layout_accepts hu hwf (by rw [hsize]; decide)
  have hmem : text ++ [0x0A] ∈ (watched u {}
      [⟨.beginFocus { textboxHandle := 1, generation := 1, properties := { multiline := true } } text, {}⟩,
        ⟨.key { pressed := true, scancode := Scancode.return }, {}⟩]).ed.pendingNativeEchoes := by
    rw [watched_ed]
    show _ ∈
      (stepEditor u {} (Editor.beginFocusSession u {} {}
        { textboxHandle := 1, generation := 1, properties := { multiline := true } } text).1
      ⟨.key { pressed := true, scancode := Scancode.return }, {}⟩).1.pendingNativeEchoes
    unfold Editor.beginFocusSession
    rw [if_neg (by decide), if_neg (by simp [hvalid, hsize]), if_neg (by decide)]
    refine Eq.mp (congrArg (· ∈ _) ?_) (newline_echo ?_ ?_ ?_)
    · show Editor.splice text (min text.length text.length) (max text.length text.length) [0x0A] = _
      simp [Editor.splice]
    · rfl
    · rfl
    · rfl
  have hle := echoBytes_erase hmem
  have hbounded := hok.bounded
  rw [← hok.total, List.length_append, hsize] at hle
  simp only [List.length_singleton] at hle
  omega

theorem newline_overfills_echoes :
    plainUtf8proc.Decodes ∧ ¬ ∀ acts, EchoesOk (watched plainUtf8proc {} acts) := by
  refine ⟨plainUtf8proc_decodes, fun h => ?_⟩
  have hwf : WellFormed (List.replicate kMaximumTextBytes 0x61) := by
    apply wellFormed_ascii
    intro b hb
    rw [List.eq_of_mem_replicate hb]
    decide
  exact full_return_echoed plainUtf8proc_decodes hwf List.length_replicate (h overflowingReturn)

end Mocktail.Input

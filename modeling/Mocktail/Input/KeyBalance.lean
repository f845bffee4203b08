/-
  Mocktail.Input.KeyBalance — native key-downs and key-ups across text focus.

  `Keyboard` is an active, focused router beside the host keys that are down: the host sends
  balanced key events (down, repeats, up) with any keycodes and modifiers, and the text
  focus changes in between. Each native key call is logged with the host key it comes from.
  Editor and router decide about every event on its own, so a key may be released natively
  that was never pressed, or stay pressed: `Paired` says when both halves of a key agree,
  and then the log is balanced (`keys_balanced`). Escape in a focused TextBox is one that
  does not (`escape_released_unpressed`).
-/

import Mocktail.Input.Effects

namespace Mocktail.Input

open Mocktail.Lib

/-! ## The keyboard -/

structure Keyboard where
  router : Router
  /-- The host keys that are down. -/
  down : List UInt32 := []
  deriving DecidableEq, Repr

/-- What the clipboard answers. -/
structure Clipboard where
  readText : Status := Status.okStatus
  text : Text := []
  writeText : Status := Status.okStatus
  deriving DecidableEq, Repr

inductive KeyboardEv where
  | key (e : KeyEvent) (clipboard : Clipboard)
  | textInput (text : Text)
  | textEditing (e : TextEditingEvent)
  | beginText (session : TextFocusSession) (initialText : Text)
  | endText (textboxHandle : Int) (generation : Nat) (notifyNative : Bool)
  | replaceText (generation : Nat) (authoritative : Text)
  | updateText (generation : Nat) (properties : TextFocusProperties)
  deriving DecidableEq, Repr

/-- The method it calls; the native sink returns ok. -/
def KeyboardEv.act : KeyboardEv → Act
  | .key e c =>
    ⟨.event (.key e), { text := { readText := c.readText, clipboardText := c.text, writeText := c.writeText } }⟩
  | .textInput t => ⟨.event (.textInput t), {}⟩
  | .textEditing t => ⟨.event (.textEditing t), {}⟩
  | .beginText s t => ⟨.beginText s t, {}⟩
  | .endText h g n => ⟨.endText h g n, {}⟩
  | .replaceText g t => ⟨.replaceText g t, {}⟩
  | .updateText g p => ⟨.updateText g p, {}⟩

/-- A native key call and the host key it comes from. -/
structure KeyLog where
  scancode : UInt32
  pressed : Bool
  keyCode : Int
  deriving DecidableEq, Repr

def keyLog (scancode : UInt32) : Call → Option KeyLog
  | .key pressed _ keyCode _ => some ⟨scancode, pressed, keyCode⟩
  | _ => none

/-- A balanced host: a key goes down when it is up, repeats and comes up when it is down. -/
def hostSends (down : List UInt32) (e : KeyEvent) : Bool :=
  if e.pressed then e.repeat == down.contains e.scancode else down.contains e.scancode

/-- The host keys after a key event. -/
def downAfter (down : List UInt32) (e : KeyEvent) : List UInt32 :=
  if e.pressed then (if e.repeat then down else e.scancode :: down) else down.filter (· != e.scancode)

variable (u : Utf8proc) (arith : Arith) (sink : Sink)

def stepKeyboard (w : Keyboard) (ev : KeyboardEv) : Keyboard × List KeyLog :=
  let next := stepRouter u arith sink w.router ev.act
  match ev with
  | .key e _ =>
    if hostSends w.down e then
      (⟨next.1, downAfter w.down e⟩, next.2.filterMap (keyLog e.scancode))
    else (w, [])
  | _ => (⟨next.1, w.down⟩, [])

def keyboard : Machine Keyboard KeyboardEv KeyLog := ⟨stepKeyboard u arith sink⟩

/-! ## Balance -/

/-- A native key-down of `scancode` with code `k` that no key-up followed. -/
def Unreleased (t : List KeyLog) (scancode : UInt32) (k : Int) : Prop :=
  ∃ pre post, t = pre ++ ⟨scancode, true, k⟩ :: post ∧ ⟨scancode, false, k⟩ ∉ post

/-- Every key-up releases a key-down of its key and code; a key-down is unreleased only while its
host key is down. -/
def KeysBalanced (w : Keyboard) (t : List KeyLog) : Prop :=
  Always (fun pre a => a.pressed = false → Unreleased pre a.scancode a.keyCode) t ∧
    ∀ scancode k, Unreleased t scancode k → w.down.contains scancode = true

/-- Both halves of a key agree: a passed event of a key the router holds has the held code, and a
key-up is passed exactly if the router holds the key. -/
def Paired (w : Keyboard) (_ : List KeyLog) : KeyboardEv → Prop
  | .key e _ => hostSends w.down e = true →
      (∀ held ∈ w.router.activeKeys.find? (Router.isKey e.scancode), w.router.passesKey e = true →
        (mapSdlKeyToAndroid e.scancode e.keycode).keyCode = held.android.keyCode) ∧
      (e.pressed = false → w.router.passesKey e = (w.router.activeKeys.find? (Router.isKey e.scancode)).isSome)
  | _ => True

theorem unreleased_nil (sc : UInt32) (k : Int) : ¬ Unreleased [] sc k := by
  intro hex
  obtain ⟨pre, post, h, -⟩ := hex
  simp at h

variable {t : List KeyLog} {sc : UInt32}

theorem unreleased_snoc {a : KeyLog} {k : Int} :
    Unreleased (t ++ [a]) sc k ↔ a = ⟨sc, true, k⟩ ∨ a ≠ ⟨sc, false, k⟩ ∧ Unreleased t sc k := by
  constructor
  · intro hex
    obtain ⟨pre, post, h, hn⟩ := hex
    induction post using List.reverseRecOn with
    | nil =>
      have := (List.append_inj' h rfl).2
      exact Or.inl (by simpa using this)
    | append_singleton post b _ =>
      rw [← List.cons_append, ← List.append_assoc] at h
      obtain ⟨ht, hb⟩ := List.append_inj' h rfl
      have hb : a = b := by simpa using hb
      subst hb
      refine Or.inr ⟨fun ha => hn (by simp [ha]), pre, post, ht, fun hm => hn (by simp [hm])⟩
  · intro hor
    rcases hor with rfl | ⟨ha, pre, post, rfl, hn⟩
    · exact ⟨t, [], rfl, by simp⟩
    · refine ⟨pre, post ++ [a], by simp, fun hm => ?_⟩
      rcases List.mem_append.mp hm with hm | hm
      · exact hn hm
      · exact ha (List.mem_singleton.mp hm).symm

/-! ## The invariant -/

theorem isKey_iff (sc : UInt32) (k : ActiveKey) : Router.isKey sc k = true ↔ k.sdlScancode = sc := by simp [Router.isKey]

/-- The router's keys are the unreleased key-downs, and their host keys are down. -/
structure Held (w : Keyboard) (t : List KeyLog) : Prop where
  active : w.router.active = true
  distinct : (w.router.activeKeys.map (·.sdlScancode)).Nodup
  unreleased : ∀ sc k, Unreleased t sc k ↔ ∃ held ∈ w.router.activeKeys, held.sdlScancode = sc ∧ held.android.keyCode = k
  down : ∀ held ∈ w.router.activeKeys, w.down.contains held.sdlScancode = true

theorem act_ok (ev : KeyboardEv) : ev.act.outcome.Ok := by
  cases ev <;> exact ⟨fun _ => rfl, rfl⟩

variable {r : Router}

/-- What a key event does to the keys: nothing that is logged, or one native call. -/
theorem key_cases (hs : sink.complete = true) (ha : r.active = true) (e : KeyEvent) (c : Clipboard) :
    let next := stepRouter u arith sink r (KeyboardEv.key e c).act
    let m := mapSdlKeyToAndroid e.scancode e.keycode
    next.1.active = true ∧
      (r.passesKey e = false ∧ next.1.activeKeys = r.activeKeys ∧ next.2.filterMap (keyLog e.scancode) = [] ∨
        r.passesKey e = true ∧ next.1.activeKeys = Router.pressKey r.activeKeys e.pressed e.scancode m ∧
          next.2.filterMap (keyLog e.scancode) = [⟨e.scancode, e.pressed, m.keyCode⟩]) := by
  intro next m
  have hE : Effect arith sink r (.event (.key e)) next.1.pressed next.2 :=
    step_effect u hs (act_ok (KeyboardEv.key e c))
  generalize hp : next.1.pressed = p' at hE
  generalize hc : next.2 = calls at hE
  cases hE with
  | quiet _ focused _ hplain _ hpass _ =>
    refine ⟨(congrArg Pressed.active hp).trans ha, Or.inl ⟨hpass e rfl ha, congrArg Pressed.keys hp, ?_⟩⟩
    rw [List.filterMap_eq_nil_iff]
    intro a hm
    have := hplain a hm
    cases a <;> first | rfl | cases this
  | key _ keys _ hpass hkeys =>
    exact ⟨(congrArg Pressed.active hp).trans ha, Or.inr ⟨hpass, (congrArg Pressed.keys hp).trans hkeys, rfl⟩⟩
  | released _ active before after hrel => cases hrel

/-- The other events neither touch the keys nor pass one on. -/
theorem text_keys (hs : sink.complete = true) (ha : r.active = true) {ev : KeyboardEv}
    (hk : ∀ e c, ev ≠ .key e c) :
    (stepRouter u arith sink r ev.act).1.active = true ∧
      (stepRouter u arith sink r ev.act).1.activeKeys = r.activeKeys := by
  have hE : Effect arith sink r ev.act.method (stepRouter u arith sink r ev.act).1.pressed _ := step_effect u hs (act_ok ev)
  generalize hp : (stepRouter u arith sink r ev.act).1.pressed = p' at hE
  generalize (stepRouter u arith sink r ev.act).2 = calls at hE
  generalize hm : ev.act.method = m at hE
  cases hE with
  | quiet => exact ⟨(congrArg Pressed.active hp).trans ha, congrArg Pressed.keys hp⟩
  | button | touch | activated => cases ev <;> cases hm
  | key e => cases ev <;> first | exact absurd rfl (hk _ _) | cases hm
  | released _ active before after hrel =>
    cases ev <;> subst hm <;> cases hrel

/-! ## One event -/

variable {m : AndroidKeyMapping}

theorem pressKey_new {keys : List ActiveKey}
    (h : keys.find? (Router.isKey sc) = none) : Router.pressKey keys true sc m = keys ++ [⟨sc, m⟩] := by
  have hany : keys.any (Router.isKey sc) = false := by
    rw [List.any_eq_false]
    exact List.find?_eq_none.mp h
  simp [Router.pressKey, hany]

theorem pressKey_held {keys : List ActiveKey} {held : ActiveKey}
    (h : keys.find? (Router.isKey sc) = some held) : Router.pressKey keys true sc m = keys := by
  have hany : keys.any (Router.isKey sc) = true :=
    List.any_eq_true.mpr ⟨held, List.mem_of_find?_eq_some h, List.find?_some h⟩
  simp [Router.pressKey, hany]

variable {e : KeyEvent}

theorem downAfter_pressed {down : List UInt32} (hsend : hostSends down e = true) (hp : e.pressed = true) :
    (downAfter down e).contains e.scancode = true ∧
      ∀ sc, down.contains sc = true → (downAfter down e).contains sc = true := by
  simp only [hostSends, hp, if_true, beq_iff_eq] at hsend
  simp only [downAfter, hp, if_true]
  cases hr : e.repeat with
  | true =>
    rw [hr] at hsend
    exact ⟨hsend.symm, fun _ h => h⟩
  | false => exact ⟨by simp, fun sc h => by simp at h ⊢; exact Or.inr h⟩

theorem downAfter_released {down : List UInt32} (hp : e.pressed = false)
    (hne : sc ≠ e.scancode) (h : down.contains sc = true) : (downAfter down e).contains sc = true := by
  simp only [downAfter, hp, Bool.false_eq_true, if_false]
  simp only [List.contains_iff_mem] at h ⊢
  exact List.mem_filter.mpr ⟨h, by simpa using hne⟩

variable {w : Keyboard}

/-- A host key comes up: the router does not hold it, or its release is passed with the held code. -/
theorem released_held (h : Held w t) (he : e.pressed = false)
    {held : ActiveKey} (hf : w.router.activeKeys.find? (Router.isKey e.scancode) = some held)
    (ha : r.active = true) (hkeys : r.activeKeys = w.router.activeKeys.eraseP (Router.isKey e.scancode)) :
    Held ⟨r, downAfter w.down e⟩ (t ++ [⟨e.scancode, false, held.android.keyCode⟩]) := by
  obtain ⟨hmem, hsc⟩ := (find_some_iff (isKey_iff e.scancode) h.distinct).mp hf
  have herase : ∀ x, x ∈ r.activeKeys ↔ x ∈ w.router.activeKeys ∧ x.sdlScancode ≠ e.scancode := by
    intro x
    rw [hkeys]
    exact mem_eraseP (isKey_iff e.scancode) h.distinct
  refine ⟨ha, by rw [hkeys]; exact nodup_eraseP h.distinct, fun sc k => ?_, fun x hx => ?_⟩
  · rw [unreleased_snoc, h.unreleased]
    constructor
    · intro hor
      rcases hor with hd | ⟨hne, x, hx, hxs, hxk⟩
      · cases hd
      refine ⟨x, (herase x).mpr ⟨hx, fun hxe => hne ?_⟩, hxs, hxk⟩
      -- the one key of this scancode is the released one
      have hxh : x = held := List.inj_on_of_nodup_map h.distinct hx hmem (hxe.trans hsc.symm)
      rw [← hxs, ← hxk, hxh, hsc]
    · intro hex
      obtain ⟨x, hx, hxs, hxk⟩ := hex
      obtain ⟨hx, hne⟩ := (herase x).mp hx
      refine Or.inr ⟨fun hup => hne ?_, x, hx, hxs, hxk⟩
      cases hup
      exact hxs
  · obtain ⟨hx, hne⟩ := (herase x).mp hx
    exact downAfter_released he hne (h.down x hx)

theorem pressed_held (h : Held w t) (hsend : hostSends w.down e = true)
    (he : e.pressed = true)
    (hsame : ∀ held ∈ w.router.activeKeys.find? (Router.isKey e.scancode), m.keyCode = held.android.keyCode)
    (ha : r.active = true) (hkeys : r.activeKeys = Router.pressKey w.router.activeKeys true e.scancode m) :
    Held ⟨r, downAfter w.down e⟩ (t ++ [⟨e.scancode, true, m.keyCode⟩]) := by
  obtain ⟨hd, hmono⟩ := downAfter_pressed hsend he
  cases hf : w.router.activeKeys.find? (Router.isKey e.scancode) with
  | some held =>
    -- a repeat of a key that is held
    rw [pressKey_held hf] at hkeys
    have hk := hsame held hf
    obtain ⟨hmem, hsc⟩ := (find_some_iff (isKey_iff e.scancode) h.distinct).mp hf
    refine ⟨ha, by rw [hkeys]; exact h.distinct, fun sc k => ?_, fun x hx => hmono _ (h.down x (hkeys ▸ hx))⟩
    rw [unreleased_snoc, h.unreleased, hkeys]
    constructor
    · intro hor
      rcases hor with hdn | ⟨-, hx⟩
      · cases hdn
        exact ⟨held, hmem, hsc, hk.symm⟩
      · exact hx
    · intro hx
      exact Or.inr ⟨by simp, hx⟩
  | none =>
    rw [pressKey_new hf] at hkeys
    have hni := (find_none_iff (isKey_iff e.scancode)).mp hf
    refine ⟨ha, by rw [hkeys]; exact nodup_snoc h.distinct hni, fun sc k => ?_, fun x hx => ?_⟩
    · rw [unreleased_snoc, h.unreleased, hkeys]
      constructor
      · intro hor
        rcases hor with hdn | ⟨-, x, hx, hxs, hxk⟩
        · cases hdn
          exact ⟨_, List.mem_append_right _ (List.mem_singleton.mpr rfl), rfl, rfl⟩
        · exact ⟨x, List.mem_append_left _ hx, hxs, hxk⟩
      · intro hex
        obtain ⟨x, hx, hxs, hxk⟩ := hex
        rcases List.mem_append.mp hx with hx | hx
        · exact Or.inr ⟨by simp, x, hx, hxs, hxk⟩
        · rw [List.mem_singleton.mp hx] at hxs hxk
          exact Or.inl (by rw [← hxs, ← hxk])
    · rw [hkeys] at hx
      rcases List.mem_append.mp hx with hx | hx
      · exact hmono _ (h.down x hx)
      · rw [List.mem_singleton.mp hx]
        exact hd

theorem key_held (hs : sink.complete = true) (h : Held w t) {c : Clipboard}
    (hsend : hostSends w.down e = true) (hp : Paired w t (.key e c)) :
    let next := stepRouter u arith sink w.router (KeyboardEv.key e c).act
    Held ⟨next.1, downAfter w.down e⟩ (t ++ next.2.filterMap (keyLog e.scancode)) ∧
      Always (fun pre a => a.pressed = false → Unreleased (t ++ pre) a.scancode a.keyCode)
        (next.2.filterMap (keyLog e.scancode)) := by
  intro next
  obtain ⟨hsame, hup⟩ := hp hsend
  obtain ⟨ha, hcase⟩ := key_cases u arith sink hs h.active e c
  rcases hcase with ⟨hpass, hkeys, hlog⟩ | ⟨hpass, hkeys, hlog⟩
  · -- nothing is passed on: a released key was not held
    rw [hlog, List.append_nil]
    refine ⟨⟨ha, by rw [hkeys]; exact h.distinct, fun sc k => by rw [h.unreleased, hkeys], fun x hx => ?_⟩, always_nil _⟩
    rw [hkeys] at hx
    cases he : e.pressed with
    | true => exact (downAfter_pressed hsend he).2 _ (h.down x hx)
    | false =>
      have hnone : w.router.activeKeys.find? (Router.isKey e.scancode) = none := by
        have := hup he
        rw [hpass] at this
        exact Option.isSome_eq_false_iff.mp this.symm |> Option.isNone_iff_eq_none.mp
      have hni := (find_none_iff (isKey_iff e.scancode)).mp hnone
      refine downAfter_released he (fun hxe => hni ?_) (h.down x hx)
      rw [← hxe]
      exact List.mem_map_of_mem hx
  · rw [hlog]
    cases he : e.pressed with
    | true =>
      rw [he] at hkeys
      refine ⟨pressed_held h hsend he (fun held hf => hsame held hf hpass) ha hkeys, ?_⟩
      rw [← List.nil_append [_], always_snoc]
      exact ⟨always_nil _, fun hf => by cases hf⟩
    | false =>
      cases hf : w.router.activeKeys.find? (Router.isKey e.scancode) with
      | none =>
        have := hup he
        rw [hpass, hf] at this
        cases this
      | some held =>
        have hk := hsame held hf hpass
        rw [he] at hkeys
        rw [hk]
        refine ⟨released_held h he hf ha hkeys, ?_⟩
        rw [← List.nil_append [_], always_snoc]
        refine ⟨always_nil _, fun _ => ?_⟩
        obtain ⟨hmem, hsc⟩ := (find_some_iff (isKey_iff e.scancode) h.distinct).mp hf
        rw [List.append_nil, h.unreleased]
        exact ⟨held, hmem, hsc, rfl⟩

theorem keyboard_held (hs : sink.complete = true) (h : Held w t) {ev : KeyboardEv}
    (hp : Paired w t ev) :
    Held ((keyboard u arith sink).step w ev).1 (t ++ ((keyboard u arith sink).step w ev).2) ∧
      Always (fun pre a => a.pressed = false → Unreleased (t ++ pre) a.scancode a.keyCode)
        ((keyboard u arith sink).step w ev).2 := by
  have htext : (∀ e c, ev ≠ .key e c) → Held ⟨(stepRouter u arith sink w.router ev.act).1, w.down⟩ (t ++ []) ∧
      Always (fun pre a => a.pressed = false → Unreleased (t ++ pre) a.scancode a.keyCode) ([] : List KeyLog) := by
    intro hk
    obtain ⟨ha, hkeys⟩ := text_keys u arith sink hs h.active hk
    rw [List.append_nil]
    exact ⟨⟨ha, by rw [hkeys]; exact h.distinct, fun sc k => by rw [h.unreleased, hkeys],
      fun x hx => h.down x (hkeys ▸ hx)⟩, always_nil _⟩
  cases ev with
  | key e c =>
    simp only [keyboard, stepKeyboard]
    split
    · rename_i hsend; exact key_held u arith sink hs h hsend hp
    · rw [List.append_nil]; exact ⟨h, always_nil _⟩
  | textInput | textEditing | beginText | endText | replaceText | updateText => exact htext (by simp)

/-! ## Every run -/

theorem keys_balanced (hs : sink.complete = true) (r : Router) (ha : r.active = true)
    (hk : r.activeKeys = []) (es : List KeyboardEv)
    (hg : (keyboard u arith sink).Guarded Paired { router := r } es) :
    KeysBalanced ((keyboard u arith sink).run { router := r } es).1 ((keyboard u arith sink).run { router := r } es).2 := by
  have h0 : Held { router := r } [] := by
    refine ⟨ha, by simp [hk], fun sc k => ?_, by simp [hk]⟩
    simp [hk, unreleased_nil]
  have hrun := (keyboard u arith sink).run_induct_guarded
    (I := fun w t => Held w t ∧ Always (fun pre a => a.pressed = false → Unreleased pre a.scancode a.keyCode) t)
    ⟨h0, always_nil _⟩ (fun w t ev h hp => ?_) es hg
  · refine ⟨hrun.2, fun sc k hu => ?_⟩
    obtain ⟨held, hmem, hsc, -⟩ := (hrun.1.unreleased sc k).mp hu
    rw [← hsc]
    exact hrun.1.down held hmem
  · obtain ⟨h1, h2⟩ := keyboard_held u arith sink hs h.1 hp
    exact ⟨h1, always_append.mpr ⟨h.2, h2⟩⟩

/-! ## Runs -/

instance (w : Keyboard) (t : List KeyLog) : ∀ ev, Decidable (Paired w t ev)
  | .key _ _ => by unfold Paired; infer_instance
  | .textInput _ | .textEditing _ | .beginText _ _ | .endText _ _ _ | .replaceText _ _ | .updateText _ _ => .isTrue trivial

def activeRouter : Router := (({} : Router).activate demoViewport true).1

def pressEv (sc : UInt32) : KeyboardEv := .key { pressed := true, scancode := sc } {}

def releaseEv (sc : UInt32) : KeyboardEv := .key { scancode := sc } {}

def demoSession : KeyboardEv := .beginText { textboxHandle := 1, generation := 1 } []

/-- A letter is held over a focus session in which Backspace is pressed and released. -/
theorem keys_balanced_demo : KeysBalanced
    ((keyboard plainUtf8proc plainArith {}).run { router := activeRouter }
      [pressEv 26, demoSession, pressEv 42, releaseEv 42, releaseEv 26, .endText 1 1 true, pressEv 42, releaseEv 42]).1
    ((keyboard plainUtf8proc plainArith {}).run { router := activeRouter }
      [pressEv 26, demoSession, pressEv 42, releaseEv 42, releaseEv 26, .endText 1 1 true, pressEv 42, releaseEv 42]).2 :=
  keys_balanced plainUtf8proc plainArith {} (by decide) activeRouter (by decide) (by decide) _ (by decide)

/-- Escape ends the focus that swallows its own key-down; a Backspace held into a focus session
stays down. -/
theorem escape_released_unpressed :
    ¬ KeysBalanced
      ((keyboard plainUtf8proc plainArith {}).run { router := activeRouter } [demoSession, pressEv 41, releaseEv 41]).1
      ((keyboard plainUtf8proc plainArith {}).run { router := activeRouter } [demoSession, pressEv 41, releaseEv 41]).2 ∧
    ¬ KeysBalanced
      ((keyboard plainUtf8proc plainArith {}).run { router := activeRouter } [pressEv 42, demoSession, releaseEv 42]).1
      ((keyboard plainUtf8proc plainArith {}).run { router := activeRouter } [pressEv 42, demoSession, releaseEv 42]).2 := by
  constructor
  · have hlog : ((keyboard plainUtf8proc plainArith {}).run { router := activeRouter }
        [demoSession, pressEv 41, releaseEv 41]).2 = [⟨41, false, 111⟩] := by decide
    rw [hlog]
    intro h
    exact unreleased_nil _ _ (h.1 [] _ [] rfl rfl)
  · have hlog : ((keyboard plainUtf8proc plainArith {}).run { router := activeRouter }
        [pressEv 42, demoSession, releaseEv 42]).2 = [⟨42, true, 67⟩] := by decide
    have hdown : ((keyboard plainUtf8proc plainArith {}).run { router := activeRouter }
        [pressEv 42, demoSession, releaseEv 42]).1.down = [] := by decide
    rw [hlog]
    intro h
    have := h.2 42 67 ⟨[], [], rfl, by simp⟩
    rw [hdown] at this
    cases this

end Mocktail.Input

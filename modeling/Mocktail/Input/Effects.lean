/-
  Mocktail.Input.Effects — what a method of the router does to the inputs it holds pressed.

  `Pressed` is the part of the router that records pressed buttons, touches and keys.
  `step_effect` says once what each method does to it and which button, touch and key calls
  it makes, for a complete sink whose calls return ok: nothing, one press, move or release,
  the release of everything, or a fresh start.
-/

import Mocktail.Input.Router

namespace Mocktail.Input

open Mocktail.Lib

attribute [local simp] Router.ignored

def Sink.complete (s : Sink) : Bool :=
  s.mouseMove && s.mouseButton && s.mouseWheel && s.touch && s.key && s.gamepad && s.editor.sinkComplete

/-- The native sink returns ok; the clipboard may not. -/
structure Outcome.Ok (o : Outcome) : Prop where
  native : ∀ c, (o.native c).ok = true
  text : o.text.sinkOk = true

/-- A call that is no button, touch or key. -/
def Call.plain : Call → Bool
  | .mouseButton .. | .touch .. | .key .. => false
  | _ => true

structure Pressed where
  active : Bool
  focused : Bool
  buttons : List Int
  touches : List ActiveTouch
  keys : List ActiveKey
  /-- `active_mouse_buttons`, `active_touches` and `active_keys` of the snapshot. -/
  counts : Nat × Nat × Nat
  deriving DecidableEq, Repr

def Router.pressed (r : Router) : Pressed :=
  ⟨r.active, r.focused, r.activeMouseButtons, r.activeTouches, r.activeKeys,
    (r.counters.activeMouseButtons, r.counters.activeTouches, r.counters.activeKeys)⟩

namespace Router

variable (r : Router)

/-- A key event reaches the native side. -/
def passesKey (e : KeyEvent) : Bool :=
  !r.editor.takesKey e && (mapSdlKeyToAndroid e.scancode e.keycode).valid

/-- The method releases everything: a deactivation or the loss of focus. -/
def releases : Method → Bool
  | .deactivate => r.active
  | .event (.focus focused) => r.active && r.focused && !focused
  | _ => false

end Router

section

variable (arith : Arith) (sink : Sink) (r : Router)

/-- The pointer, the native action and the touches after a touch event. -/
inductive TouchStep (e : TouchEvent) : Nat → AndroidTouch → List ActiveTouch → Prop
  | down (id : Nat) (x y : F32) : r.activeTouches.find? (Router.isTouch e.touchId e.fingerId) = none →
      r.allocatePointerId = some id → TouchStep e id .down (r.activeTouches ++ [⟨e.touchId, e.fingerId, id, x, y⟩])
  | move (t : ActiveTouch) (x y : F32) : r.activeTouches.find? (Router.isTouch e.touchId e.fingerId) = some t →
      TouchStep e t.pointerId .move
        (modifyFirst (Router.isTouch e.touchId e.fingerId) (fun t => { t with x := x, y := y }) r.activeTouches)
  | up (t : ActiveTouch) : r.activeTouches.find? (Router.isTouch e.touchId e.fingerId) = some t →
      TouchStep e t.pointerId .up (r.activeTouches.eraseP (Router.isTouch e.touchId e.fingerId))

inductive Effect : Method → Pressed → List Call → Prop
  | quiet (m : Method) (focused : Bool) (calls : List Call) : (∀ c ∈ calls, c.plain = true) →
      focused = r.focused ∨ r.active = true ∧ focused = true →
      (∀ e, m = .event (.key e) → r.active = true → r.passesKey e = false) → r.releases m = false →
      Effect m { r.pressed with focused := focused } calls
  | button (pressed : Bool) (button : UInt8) (x y x' y' : F32) (relative : Bool) (buttons : List Int) : r.active = true →
      buttons = Router.pressButton r.activeMouseButtons pressed (mapSdlMouseButtonToRoblox button) →
      Effect (.event (.mouseButton pressed button x y relative))
        { r.pressed with focused := true, buttons := buttons, counts := (buttons.length, r.pressed.counts.2) }
        [.mouseButton x' y' pressed (mapSdlMouseButtonToRoblox button)]
  | touch (e : TouchEvent) (id : Nat) (x y : F32) (action : AndroidTouch) (w h : Int) (touches : List ActiveTouch) :
      r.active = true → TouchStep r e id action touches →
      Effect (.event (.touch e))
        { r.pressed with
          focused := true, touches := touches, counts := (r.pressed.counts.1, touches.length, r.pressed.counts.2.2) }
        [.touch id x y action w h]
  | key (e : KeyEvent) (keys : List ActiveKey) : r.active = true → r.passesKey e = true →
      keys = Router.pressKey r.activeKeys e.pressed e.scancode (mapSdlKeyToAndroid e.scancode e.keycode) →
      Effect (.event (.key e))
        { r.pressed with focused := true, keys := keys, counts := (r.pressed.counts.1, r.pressed.counts.2.1, keys.length) }
        [.key e.pressed (mapSdlKeyToAndroid e.scancode e.keycode).scanCode
          (mapSdlKeyToAndroid e.scancode e.keycode).keyCode e.repeat]
  | released (m : Method) (active : Bool) (before after : List Call) : r.releases m = true →
      (∀ c ∈ before, c.plain = true) → (∀ c ∈ after, c.plain = true) →
      Effect m ⟨active, false, [], [], [], (0, 0, 0)⟩
        (before ++ (r.buttonReleases sink ++ r.touchReleases arith sink ++ r.keyReleases sink) ++ after)
  | activated (viewport : Viewport) (focused : Bool) : r.active = false →
      Effect (.activate viewport focused) ⟨true, focused, [], [], [], (0, 0, 0)⟩ []

/-! ## The handlers -/

variable {arith sink r}

@[simp] theorem nativeResult_pressed (calls : List Call) (status : Status) (kind : EventKind) :
    (r.nativeResult calls status kind).r.pressed = r.pressed := by
  unfold Router.nativeResult
  split
  · rfl
  · cases kind <;> rfl

@[simp] theorem nativeResult_calls (calls : List Call) (status : Status) (kind : EventKind) :
    (r.nativeResult calls status kind).calls = calls := by
  unfold Router.nativeResult
  split <;> rfl

/-- A handler that changes nothing pressed. -/
structure Quiet (f : Bool) (h : Handled) : Prop where
  pressed : h.r.pressed = { r.pressed with focused := f }
  calls : ∀ c ∈ h.calls, c.plain = true

theorem quiet_ignored (kind : EventKind) (m : String) :
    Quiet (r := r) true ({ r with focused := true }.ignored kind m) := ⟨rfl, by simp⟩

theorem textResult_quiet (e : Edit) : Quiet (r := r) true ({ r with focused := true }.textResult e) := by
  unfold Router.textResult
  simp only
  split
  · exact ⟨rfl, by simp [Call.plain]⟩
  split
  · exact ⟨rfl, by simp [Call.plain]⟩
  · exact ⟨rfl, by simp [Call.plain]⟩

theorem handleText_quiet (e : Edit) : Quiet (r := r) true ({ r with focused := true }.handleText e) := by
  unfold Router.handleText
  split
  · exact textResult_quiet e
  · exact ⟨rfl, by simp [Router.textIgnored]⟩

theorem padCalls_plain (calls : List GamepadCall) : ∀ c ∈ Router.padCalls calls, c.plain = true := by
  simp [Router.padCalls, Call.plain]

variable {o : Outcome}

theorem connection_quiet (i : Int) (c : Bool) (d : GamepadDescriptor) (m : Bool) :
    Quiet (r := r) r.focused (r.handleGamepadConnection arith sink o i c d m) := by
  unfold Router.handleGamepadConnection
  split
  · exact ⟨rfl, by simp⟩
  split
  · exact ⟨rfl, by simp [Router.rejected]⟩
  simp only
  split
  · exact ⟨rfl, by simp⟩
  have hp : ∀ (b : Bool) (runs : List PadRun) (pads : List ActiveGamepad),
      Router.pressed (if b = true then (r.countPads runs).setPads pads else r) = r.pressed := by
    intro b runs pads
    cases b <;> rfl
  generalize hr : (if (r.gamepads.find? (Router.isPad i)).isSome = true then Router.setPads _ _ else r) = r'
  have hr' : r'.pressed = r.pressed := by rw [← hr]; exact hp _ _ _
  have hs : ∀ pads, (r'.setPads pads).pressed = r.pressed := fun _ => hr'
  split
  · split
    · exact ⟨hr', padCalls_plain _⟩
    · exact ⟨by rw [nativeResult_pressed]; exact hr', by rw [nativeResult_calls]; exact padCalls_plain _⟩
  · split
    · exact ⟨hr', padCalls_plain _⟩
    · split
      · exact ⟨hr', padCalls_plain _⟩
      split
      · exact ⟨hs _, padCalls_plain _⟩
      · exact ⟨by rw [nativeResult_pressed]; exact hs _, by rw [nativeResult_calls]; exact padCalls_plain _⟩

theorem padButton_quiet (i : Int) (b : UInt8) (p : Bool) :
    Quiet (r := r) r.focused (r.handleGamepadButton sink o i b p) := by
  unfold Router.handleGamepadButton
  split
  · simp only
    split
    · exact ⟨rfl, by simp⟩
    split
    · exact ⟨rfl, by simp⟩
    split
    · exact ⟨rfl, by simp⟩
    split
    · exact ⟨by rw [nativeResult_pressed]; rfl, by rw [nativeResult_calls]; exact padCalls_plain _⟩
    · exact ⟨by rw [nativeResult_pressed]; rfl, by rw [nativeResult_calls]; exact padCalls_plain _⟩
  · exact ⟨rfl, by simp⟩

theorem padAxis_quiet (i : Int) (x : UInt8) (v : Int) :
    Quiet (r := r) r.focused (r.handleGamepadAxis arith sink o i x v) := by
  unfold Router.handleGamepadAxis
  split
  · simp only
    split
    · exact ⟨rfl, by simp⟩
    split
    · exact ⟨rfl, by simp⟩
    split
    · exact ⟨rfl, padCalls_plain _⟩
    · exact ⟨by rw [nativeResult_pressed]; rfl, by rw [nativeResult_calls]; exact padCalls_plain _⟩
  · exact ⟨rfl, by simp⟩

theorem motion_quiet (x y dx dy : F32) (m : Bool) :
    Quiet (r := r) true ({ r with focused := true }.handleMouseMotion arith sink o x y dx dy m) := by
  unfold Router.handleMouseMotion
  split
  · exact quiet_ignored _ _
  · exact ⟨by rw [nativeResult_pressed]; rfl, by rw [nativeResult_calls]; simp [Call.plain]⟩

theorem wheel_quiet (dy x y : F32) (m : Bool) :
    Quiet (r := r) true ({ r with focused := true }.handleMouseWheel arith sink o dy x y m) := by
  unfold Router.handleMouseWheel
  split
  · exact quiet_ignored _ _
  · exact ⟨by rw [nativeResult_pressed]; rfl, by rw [nativeResult_calls]; simp [Call.plain]⟩

theorem button_effect (hs : sink.mouseButton = true) (ho : ∀ c, (o.native c).ok = true) (ha : r.active = true)
    (p : Bool) (b : UInt8) (x y : F32) (m : Bool) :
    Effect arith sink r (.event (.mouseButton p b x y m))
      ({ r with focused := true }.handleMouseButton arith sink o p b x y m).r.pressed
      ({ r with focused := true }.handleMouseButton arith sink o p b x y m).calls := by
  unfold Router.handleMouseButton
  rw [if_neg (by simp [hs])]
  simp only
  split
  · exact .quiet _ true [] (by simp) (Or.inr ⟨ha, rfl⟩) (by simp) rfl
  · rw [if_pos (ho _), nativeResult_pressed, nativeResult_calls]
    exact .button p b x y _ _ m _ ha rfl

theorem touch_effect (hs : sink.touch = true) (ho : ∀ c, (o.native c).ok = true) (ha : r.active = true) (e : TouchEvent) :
    Effect arith sink r (.event (.touch e)) ({ r with focused := true }.handleTouch arith sink o e).r.pressed
      ({ r with focused := true }.handleTouch arith sink o e).calls := by
  have hq : Effect arith sink r (.event (.touch e)) { r.pressed with focused := true } [] :=
    .quiet _ true [] (by simp) (Or.inr ⟨ha, rfl⟩) (by simp) rfl
  unfold Router.handleTouch
  rw [if_neg (by simp [hs])]
  simp only
  split
  · exact hq
  · rename_i hf _
    split
    · exact hq
    · rename_i id hid
      simp only [ho, if_true]
      rw [nativeResult_pressed, nativeResult_calls]
      exact .touch e id _ _ .down _ _ _ ha (.down id _ _ hf hid)
  · exact hq
  · rename_i t hf _
    simp only [ho, if_true]
    rw [nativeResult_pressed, nativeResult_calls]
    exact .touch e t.pointerId _ _ .move _ _ _ ha (.move t _ _ hf)
  · rename_i t hf _ _
    rw [nativeResult_pressed, nativeResult_calls]
    exact .touch e t.pointerId _ _ .up _ _ _ ha (.up t hf)

theorem key_effect (u : Utf8proc) (hs : sink.key = true) (ho : ∀ c, (o.native c).ok = true) (ha : r.active = true)
    (e : KeyEvent) :
    Effect arith sink r (.event (.key e)) ({ r with focused := true }.handleKeyEvent u sink o e).r.pressed
      ({ r with focused := true }.handleKeyEvent u sink o e).calls := by
  have hquiet : ∀ h : Handled, Quiet (r := r) true h → r.passesKey e = false →
      Effect arith sink r (.event (.key e)) h.r.pressed h.calls := by
    intro h hq hp
    rw [hq.pressed]
    refine .quiet _ true _ hq.calls (Or.inr ⟨ha, rfl⟩) (fun e' he _ => ?_) rfl
    cases he
    exact hp
  unfold Router.handleKeyEvent
  simp only [Editor.handleKey_handled]
  cases ht : r.editor.takesKey e with
  | true => exact hquiet _ (textResult_quiet _) (by simp [Router.passesKey, ht])
  | false =>
    rw [if_neg (by simp)]
    unfold Router.handleKeyLocked
    rw [if_neg (by simp [hs])]
    simp only
    split
    · rename_i hv
      exact hquiet _ (quiet_ignored _ _) (by simp only [Router.passesKey, ht]; simpa using hv)
    · rename_i hv
      rw [if_pos (ho _), nativeResult_pressed, nativeResult_calls]
      exact .key e _ ha (by simp only [Router.passesKey, ht]; simpa using hv) rfl

theorem endText_pressed : (r.endText sink o).1.pressed = r.pressed := by
  unfold Router.endText
  split <;> rfl

theorem endText_plain : ∀ c ∈ (r.endText sink o).2.1, c.plain = true := by
  unfold Router.endText
  split
  · simp [Call.plain]
  · simp

theorem release_calls : (r.releasePressedInputs arith sink o).2.1 =
    Router.padCalls ((r.gamepads.map (·.release arith.curves (Router.padStatus o))).flatMap (·.calls)) ++
      (r.buttonReleases sink ++ r.touchReleases arith sink ++ r.keyReleases sink) := by
  simp [Router.releasePressedInputs, List.append_assoc]

theorem focus_effect (ha : r.active = true) (f : Bool) :
    Effect arith sink r (.event (.focus f)) (r.handleFocus arith sink o f).r.pressed
      (r.handleFocus arith sink o f).calls := by
  unfold Router.handleFocus
  by_cases hl : (!f && r.focused) = true
  · rw [if_pos hl]
    have hrel : r.releases (.event (.focus f)) = true := by
      simp only [Bool.and_eq_true, Bool.not_eq_true'] at hl
      simp [Router.releases, ha, hl.1, hl.2]
    have hmain := @Effect.released arith sink r (.event (.focus f)) true
      (Router.padCalls ((r.gamepads.map (·.release arith.curves (Router.padStatus o))).flatMap (·.calls)))
      ((r.releasePressedInputs arith sink o).1.endText sink o).2.1 hrel (padCalls_plain _) endText_plain
    have hp : ({ ((r.releasePressedInputs arith sink o).1.endText sink o).1 with focused := false } : Router).pressed =
        ⟨true, false, [], [], [], (0, 0, 0)⟩ := by
      have h : ((r.releasePressedInputs arith sink o).1.endText sink o).1.pressed = _ := endText_pressed
      have hr : (r.releasePressedInputs arith sink o).1.pressed = ⟨r.active, r.focused, [], [], [], (0, 0, 0)⟩ := rfl
      rw [hr] at h
      simp only [Router.pressed, Pressed.mk.injEq] at h ⊢
      exact ⟨h.1.trans ha, trivial, h.2.2.1, h.2.2.2.1, h.2.2.2.2.1, h.2.2.2.2.2⟩
    have hc : (r.releasePressedInputs arith sink o).2.1 = _ := release_calls
    rw [← hp, ← hc] at hmain
    simp only
    split
    · exact hmain
    · exact hmain
  · rw [if_neg hl]
    refine .quiet _ f [] (by simp) ?_ (by simp) (by simp only [Router.releases, ha]; cases f <;> simp_all)
    cases f with
    | true => exact Or.inr ⟨ha, rfl⟩
    | false => exact Or.inl (by simpa using hl)

theorem deactivate_effect : Effect arith sink r .deactivate (r.deactivate arith sink o).1.pressed
    (r.deactivate arith sink o).2.1 := by
  unfold Router.deactivate
  cases ha : r.active with
  | false =>
    exact .quiet _ r.focused [] (by simp) (Or.inl rfl) (by simp) (by simp [Router.releases, ha])
  | true =>
    rw [if_neg (by simp)]
    simp only [release_calls, List.append_assoc]
    have hr : r.releases .deactivate = true := ha
    generalize hg : Router.setPads _ [] = gone
    have hgone : gone.pressed = ⟨r.active, r.focused, [], [], [], (0, 0, 0)⟩ := by rw [← hg]; rfl
    have ht : (gone.endText sink o).1.pressed = _ := endText_pressed
    rw [hgone] at ht
    simp only [Router.pressed, Pressed.mk.injEq] at ht
    have hp : (Router.pressed { (gone.endText sink o).1 with
        active := false
        focused := false
        counters := { (gone.endText sink o).1.counters with activeMouseButtons := 0, activeTouches := 0, activeKeys := 0 } }) =
        ⟨false, false, [], [], [], (0, 0, 0)⟩ := by
      simp only [Router.pressed, Pressed.mk.injEq]
      exact ⟨trivial, trivial, ht.2.2.1, ht.2.2.2.1, ht.2.2.2.2.1, trivial⟩
    rw [hp]
    have hmain := @Effect.released arith sink r .deactivate false
      (Router.padCalls ((r.gamepads.map (·.release arith.curves (Router.padStatus o))).flatMap (·.calls)))
      (Router.padCalls (((r.releasePressedInputs arith sink o).1.gamepads.map
        (·.disconnect arith.curves (Router.padStatus o))).flatMap (·.calls)) ++ (gone.endText sink o).2.1) hr
      (padCalls_plain _) (fun c hc => ?_)
    · simpa only [List.append_assoc] using hmain
    · rcases List.mem_append.mp hc with hc | hc
      · exact padCalls_plain _ c hc
      · exact endText_plain c hc

theorem event_effect (u : Utf8proc) (hs : sink.complete = true) (ho : o.Ok) (e : PlatformEvent) :
    Effect arith sink r (.event e) (r.handleEvent u arith sink o e).r.pressed (r.handleEvent u arith sink o e).calls := by
  simp only [Sink.complete, Bool.and_eq_true] at hs
  obtain ⟨⟨⟨⟨⟨⟨-, hmb⟩, -⟩, htc⟩, hkey⟩, -⟩, -⟩ := hs
  unfold Router.handleEvent
  by_cases ha : r.active = true
  swap
  · rw [if_pos (by simp [ha])]
    refine .quiet _ r.focused [] (by simp) (Or.inl rfl) (by simp [ha]) ?_
    cases e <;> simp [Router.releases, ha]
  · rw [if_neg (by simp [ha])]
    have hquiet : ∀ (f : Bool) (h : Handled), Quiet (r := r) f h → f = r.focused ∨ f = true →
        (∀ k, e ≠ .key k) → (∀ b, e ≠ .focus b) → Effect arith sink r (.event e) h.r.pressed h.calls := by
      intro f h hq hf hk hfo
      rw [hq.pressed]
      refine .quiet _ f _ hq.calls (hf.imp id (fun h => ⟨ha, h⟩)) (fun k hm => absurd (by cases hm; rfl) (hk k)) ?_
      cases e <;> first | rfl | exact absurd rfl (hfo _)
    cases e with
    | resized v =>
      simp only
      split
      · exact hquiet _ _ ⟨rfl, by simp [Router.rejected]⟩ (Or.inl rfl) (by simp) (by simp)
      · exact hquiet r.focused _ ⟨rfl, by simp⟩ (Or.inl rfl) (by simp) (by simp)
    | focus f => exact focus_effect ha f
    | gamepadConnection i c d m => exact hquiet _ _ (connection_quiet i c d m) (Or.inl rfl) (by simp) (by simp)
    | gamepadButton i b p => exact hquiet _ _ (padButton_quiet i b p) (Or.inl rfl) (by simp) (by simp)
    | gamepadAxis i x v => exact hquiet _ _ (padAxis_quiet i x v) (Or.inl rfl) (by simp) (by simp)
    | quit => exact hquiet r.focused _ ⟨rfl, by simp⟩ (Or.inl rfl) (by simp) (by simp)
    | mouseMotion x y dx dy m => exact hquiet true _ (motion_quiet x y dx dy m) (Or.inr rfl) (by simp) (by simp)
    | mouseButton p b x y m => exact button_effect hmb ho.native ha p b x y m
    | mouseWheel dy x y m => exact hquiet true _ (wheel_quiet dy x y m) (Or.inr rfl) (by simp) (by simp)
    | touch t => exact touch_effect htc ho.native ha t
    | key k => exact key_effect u hkey ho.native ha k
    | textInput t | textEditing t => exact hquiet true _ (handleText_quiet _) (Or.inr rfl) (by simp) (by simp)

theorem step_effect (u : Utf8proc) (hs : sink.complete = true) {act : Act} (ho : act.outcome.Ok) :
    Effect arith sink r act.method (stepRouter u arith sink r act).1.pressed (stepRouter u arith sink r act).2 := by
  have hedit : ∀ (m : Method) (t : Editor × List TextCall × Status), (∀ e, m ≠ .event e) → m ≠ .deactivate →
      Effect arith sink r m (r.edited t).1.pressed (r.edited t).2 := by
    intro m t he hd
    refine .quiet m r.focused _ (by simp [Router.edited, Call.plain]) (Or.inl rfl) (fun k hm => absurd hm (he _)) ?_
    cases m <;> first | rfl | exact absurd rfl (he _) | exact absurd rfl hd
  obtain ⟨m, o⟩ := act
  cases m with
  | activate v f =>
    simp only [stepRouter, Router.activate]
    split
    · exact .quiet _ r.focused [] (by simp) (Or.inl rfl) (by simp) rfl
    rename_i ha
    split
    · exact .quiet _ r.focused [] (by simp) (Or.inl rfl) (by simp) rfl
    · exact .activated v f (by simpa using ha)
  | deactivate => exact deactivate_effect
  | event e => exact event_effect u hs ho e
  | beginText session text =>
    simp only [stepRouter]
    split
    · exact .quiet _ r.focused [] (by simp) (Or.inl rfl) (by simp) rfl
    · exact hedit _ _ (by simp) (by simp)
  | endText h g n | replaceText g t | updateText g p => exact hedit _ _ (by simp) (by simp)

end

end Mocktail.Input

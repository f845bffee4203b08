/-
  Mocktail.Input.Release — pointers, touch streams and the release of what is pressed.

  Over every run of the router from its construction, with a complete sink whose calls
  return ok and one keycode per scancode: pointer ids and fingers are distinct, the native
  touch calls of a pointer are gestures, nothing is recorded as pressed without focus, and
  a loss of focus or a deactivation releases everything whose last native call pressed it.

  The invariant ties each record to the calls made so far; `step_effect` gives its cases.
-/

import Mocktail.Input.Effects

namespace Mocktail.Input

open Mocktail.Lib

/-! ## The native calls of one button, pointer or key code -/

def buttonCall (b : Int) : Call → Option Bool
  | .mouseButton _ _ pressed button => if button = b then some pressed else none
  | _ => none

def touchAction (p : Nat) : Call → Option AndroidTouch
  | .touch pointer _ _ action _ _ => if pointer = p then some action else none
  | _ => none

def keyCall (k : Int) : Call → Option Bool
  | .key pressed _ keyCode _ => if keyCode = k then some pressed else none
  | _ => none

/-- `(down move* up)*`. -/
inductive Gestures : List AndroidTouch → Prop
  | nil : Gestures []
  | snoc (w : List AndroidTouch) (n : Nat) : Gestures w →
      Gestures (w ++ (AndroidTouch.down :: List.replicate n AndroidTouch.move ++ [AndroidTouch.up]))

/-- Gestures, and the start of one more. -/
def Open (w : List AndroidTouch) : Prop :=
  ∃ v n, Gestures v ∧ w = v ++ AndroidTouch.down :: List.replicate n AndroidTouch.move

variable {w : List AndroidTouch}

theorem open_down (h : Gestures w) : Open (w ++ [AndroidTouch.down]) := ⟨w, 0, h, rfl⟩

theorem open_move (h : Open w) : Open (w ++ [AndroidTouch.move]) := by
  obtain ⟨v, n, hv, rfl⟩ := h
  refine ⟨v, n + 1, hv, ?_⟩
  rw [List.append_assoc, List.cons_append, ← List.replicate_succ']

theorem open_up (h : Open w) : Gestures (w ++ [AndroidTouch.up]) := by
  obtain ⟨v, n, hv, rfl⟩ := h
  rw [List.append_assoc, List.cons_append]
  exact .snoc v n hv

theorem gestures_last (h : Gestures w) : w.getLast? = none ∨ w.getLast? = some .up := by
  cases h with
  | nil => exact Or.inl rfl
  | snoc w n _ => exact Or.inr (by rw [← List.append_assoc, List.getLast?_concat])

/-! ## The discipline -/

structure Disciplined (r : Router) (t : List Call) : Prop where
  pointers : (r.activeTouches.map (·.pointerId)).Nodup
  pointerRange : ∀ x ∈ r.activeTouches, x.pointerId < kMaximumAndroidPointers
  fingers : (r.activeTouches.map (fun x => (x.touchId, x.fingerId))).Nodup
  streams : ∀ p, ∃ w, Gestures w ∧ t.filterMap (touchAction p) <+: w
  unpressed : r.focused = false ∨ r.active = false →
    r.activeMouseButtons = [] ∧ r.activeTouches = [] ∧ r.activeKeys = [] ∧ r.pressed.counts = (0, 0, 0)

/-- `out` releases every button, pointer and key code whose last call in `t` was a press. -/
structure ReleasesAll (t out : List Call) : Prop where
  buttons : ∀ b, (t.filterMap (buttonCall b)).getLast? = some true → ∃ x y, .mouseButton x y false b ∈ out
  touches : ∀ p, (t.filterMap (touchAction p)).getLast? = some .down ∨ (t.filterMap (touchAction p)).getLast? = some .move →
    ∃ x y w h, .touch p x y .up w h ∈ out
  keys : ∀ k, (t.filterMap (keyCall k)).getLast? = some true → ∃ scan again, .key false scan k again ∈ out

/-- A deactivation, or the loss of focus of a focused router. -/
def Router.loses (r : Router) : Method → Prop
  | .deactivate => True
  | .event (.focus focused) => r.focused = true ∧ focused = false
  | _ => False

/-- Each scancode carries one keycode. -/
def SameKeycode (keycode : UInt32 → UInt32) (act : Act) : Prop :=
  match act.method with
  | .event (.key e) => e.keycode = keycode e.scancode
  | _ => True

/-! ## The invariant -/

/-- A button whose last call pressed it is recorded. -/
def ButtonsRecorded (buttons : List Int) (t : List Call) : Prop :=
  ∀ b, (t.filterMap (buttonCall b)).getLast? = some true → b ∈ buttons

/-- A pointer is recorded while its gesture is open. -/
structure TouchesRecorded (touches : List ActiveTouch) (t : List Call) : Prop where
  pointers : (touches.map (·.pointerId)).Nodup
  pointerRange : ∀ x ∈ touches, x.pointerId < kMaximumAndroidPointers
  fingers : (touches.map (fun x => (x.touchId, x.fingerId))).Nodup
  touching : ∀ p, p ∈ touches.map (·.pointerId) → Open (t.filterMap (touchAction p))
  lifted : ∀ p, p ∉ touches.map (·.pointerId) → Gestures (t.filterMap (touchAction p))

/-- A key code whose last call pressed it is that of a recorded key. -/
structure KeysRecorded (keycode : UInt32 → UInt32) (keys : List ActiveKey) (t : List Call) : Prop where
  pressed : ∀ k, (t.filterMap (keyCall k)).getLast? = some true → ∃ x ∈ keys, x.android.keyCode = k
  mapped : ∀ x ∈ keys, x.android = mapSdlKeyToAndroid x.sdlScancode (keycode x.sdlScancode)

structure Recorded (keycode : UInt32 → UInt32) (p : Pressed) (t : List Call) : Prop where
  buttons : ButtonsRecorded p.buttons t
  touches : TouchesRecorded p.touches t
  keys : KeysRecorded keycode p.keys t
  counts : p.counts = (p.buttons.length, p.touches.length, p.keys.length)
  unpressed : p.focused = false ∨ p.active = false → p.buttons = [] ∧ p.touches = [] ∧ p.keys = []

variable {calls : List Call}

theorem plain_nil (h : ∀ c ∈ calls, c.plain = true) (b : Int) (p : Nat) (k : Int) :
    calls.filterMap (buttonCall b) = [] ∧ calls.filterMap (touchAction p) = [] ∧ calls.filterMap (keyCall k) = [] := by
  refine ⟨?_, ?_, ?_⟩
  all_goals
    rw [List.filterMap_eq_nil_iff]
    intro c hc
    have := h c hc
    cases c <;> first | rfl | cases this

/-- Releases at the end of a stream: its last call is a press only if there are none. -/
theorem last_press {α : Type} {q : α → Prop} [DecidablePred q] {l : List Bool} {xs : List α}
    (h : (l ++ xs.filterMap (fun a => if q a then some false else none)).getLast? = some true) :
    (∀ a ∈ xs, ¬ q a) ∧ l.getLast? = some true := by
  induction xs using List.reverseRecOn with
  | nil => exact ⟨by simp, by simpa using h⟩
  | append_singleton xs x ih =>
    by_cases hx : q x
    · simp [hx] at h
    · obtain ⟨hall, hl⟩ := ih (by simpa [hx] using h)
      refine ⟨fun a ha => ?_, hl⟩
      rcases List.mem_append.mp ha with ha | ha
      · exact hall a ha
      · rw [List.mem_singleton.mp ha]
        exact hx

/-! ## Buttons -/

section

variable {buttons : List Int} {touches : List ActiveTouch} {keys : List ActiveKey} {t out : List Call}

theorem ButtonsRecorded.frame (h : ButtonsRecorded buttons t) (hout : ∀ b, out.filterMap (buttonCall b) = []) :
    ButtonsRecorded buttons (t ++ out) := by
  intro b hb
  rw [List.filterMap_append, hout b, List.append_nil] at hb
  exact h b hb

theorem ButtonsRecorded.press (h : ButtonsRecorded buttons t) (x y : F32) (pressed : Bool) (button : Int) :
    ButtonsRecorded (Router.pressButton buttons pressed button) (t ++ [Call.mouseButton x y pressed button]) := by
  intro b hb
  rw [List.filterMap_append] at hb
  unfold Router.pressButton
  by_cases hbb : button = b
  · subst hbb
    -- the last call of the button is this one
    have hp : pressed = true := by simpa [buttonCall] using hb
    subst hp
    rw [if_pos rfl]
    split
    · assumption
    · simp
  · have hmem : b ∈ buttons := h b (by simpa [buttonCall, hbb] using hb)
    cases pressed with
    | true =>
      rw [if_pos rfl]
      split
      · exact hmem
      · exact List.mem_append_left _ hmem
    | false => exact (List.mem_erase_of_ne (Ne.symm hbb)).mpr hmem

/-! ## Touches -/

theorem TouchesRecorded.frame (h : TouchesRecorded touches t) (hout : ∀ p, out.filterMap (touchAction p) = []) :
    TouchesRecorded touches (t ++ out) := by
  refine ⟨h.pointers, h.pointerRange, h.fingers, fun p hp => ?_, fun p hp => ?_⟩
  · rw [List.filterMap_append, hout p, List.append_nil]
    exact h.touching p hp
  · rw [List.filterMap_append, hout p, List.append_nil]
    exact h.lifted p hp

theorem isTouch_iff (touchId fingerId : Int) (x : ActiveTouch) :
    Router.isTouch touchId fingerId x = true ↔ (x.touchId, x.fingerId) = (touchId, fingerId) := by
  simp [Router.isTouch]

variable {id : Nat}

theorem allocatePointerId_free {r : Router} (h : r.allocatePointerId = some id) :
    id < kMaximumAndroidPointers ∧ id ∉ r.activeTouches.map (·.pointerId) := by
  refine ⟨List.mem_range.mp (List.mem_of_find?_eq_some h), fun hid => ?_⟩
  obtain ⟨x, hx, hxid⟩ := List.mem_map.mp hid
  have hfree := List.find?_some h
  rw [Bool.not_eq_true', List.any_eq_false] at hfree
  exact hfree x hx (by simpa using hxid)

/-- A touch call adds its action to the stream of its pointer and to no other. -/
theorem touchAction_snoc (t : List Call) (p id : Nat) (x y : F32) (action : AndroidTouch) (w h : Int) :
    (t ++ [Call.touch id x y action w h]).filterMap (touchAction p) =
      t.filterMap (touchAction p) ++ if id = p then [action] else [] := by
  rw [List.filterMap_append]
  congr 1
  by_cases hp : id = p
  · simp [touchAction, hp]
  · simp [touchAction, hp]

variable {touchId fingerId : Int}

theorem TouchesRecorded.down {r : Router} (h : TouchesRecorded r.activeTouches t)
    (hf : r.activeTouches.find? (Router.isTouch touchId fingerId) = none) (hid : r.allocatePointerId = some id)
    (tx ty x y : F32) (wd ht : Int) :
    TouchesRecorded (r.activeTouches ++ [⟨touchId, fingerId, id, tx, ty⟩]) (t ++ [Call.touch id x y .down wd ht]) := by
  obtain ⟨hlt, hfree⟩ := allocatePointerId_free hid
  have hnew : (touchId, fingerId) ∉ r.activeTouches.map (fun x => (x.touchId, x.fingerId)) :=
    (find_none_iff (isTouch_iff touchId fingerId)).mp hf
  refine ⟨nodup_snoc h.pointers hfree, fun a ha => ?_, nodup_snoc h.fingers hnew, fun p hp => ?_, fun p hp => ?_⟩
  · rcases List.mem_append.mp ha with ha | ha
    · exact h.pointerRange a ha
    · rw [List.mem_singleton.mp ha]
      exact hlt
  · rw [touchAction_snoc]
    by_cases hpi : id = p
    · subst hpi
      rw [if_pos rfl]
      exact open_down (h.lifted id hfree)
    · rw [if_neg hpi, List.append_nil]
      refine h.touching p ?_
      rw [List.map_append, List.mem_append] at hp
      exact hp.resolve_right (by simpa using Ne.symm hpi)
  · rw [List.map_append, List.mem_append, not_or] at hp
    have hpi : id ≠ p := Ne.symm (by simpa using hp.2)
    rw [touchAction_snoc, if_neg hpi, List.append_nil]
    exact h.lifted p hp.1

theorem TouchesRecorded.move (h : TouchesRecorded touches t) {u : ActiveTouch}
    (hf : touches.find? (Router.isTouch touchId fingerId) = some u) (tx ty x y : F32) (wd ht : Int) :
    TouchesRecorded (modifyFirst (Router.isTouch touchId fingerId) (fun u => { u with x := tx, y := ty }) touches)
      (t ++ [Call.touch u.pointerId x y .move wd ht]) := by
  have hmem := List.mem_of_find?_eq_some hf
  generalize hmoved : modifyFirst (Router.isTouch touchId fingerId) (fun u => { u with x := tx, y := ty }) touches = moved
  have hmap : moved.map (·.pointerId) = touches.map (·.pointerId) := by
    rw [← hmoved]
    exact map_modifyFirst (fun _ => rfl)
  have hfin : moved.map (fun x => (x.touchId, x.fingerId)) = touches.map (fun x => (x.touchId, x.fingerId)) := by
    rw [← hmoved]
    exact map_modifyFirst (fun _ => rfl)
  refine ⟨by rw [hmap]; exact h.pointers, fun a ha => ?_, by rw [hfin]; exact h.fingers, fun p hp => ?_, fun p hp => ?_⟩
  · have hin : a.pointerId ∈ touches.map (·.pointerId) := hmap ▸ List.mem_map_of_mem ha
    obtain ⟨b, hb, hba⟩ := List.mem_map.mp hin
    rw [← hba]
    exact h.pointerRange b hb
  · rw [hmap] at hp
    rw [touchAction_snoc]
    split
    · exact open_move (h.touching p hp)
    · rw [List.append_nil]
      exact h.touching p hp
  · rw [hmap] at hp
    have hne : u.pointerId ≠ p := by
      intro heq
      subst heq
      exact hp (List.mem_map_of_mem hmem)
    rw [touchAction_snoc, if_neg hne, List.append_nil]
    exact h.lifted p hp

theorem TouchesRecorded.up (h : TouchesRecorded touches t) {u : ActiveTouch}
    (hf : touches.find? (Router.isTouch touchId fingerId) = some u) (x y : F32) (wd ht : Int) :
    TouchesRecorded (touches.eraseP (Router.isTouch touchId fingerId)) (t ++ [Call.touch u.pointerId x y .up wd ht]) := by
  have hkey := isTouch_iff touchId fingerId
  have hmem := List.mem_of_find?_eq_some hf
  have huk := (hkey u).mp (List.find?_some hf)
  -- fingers and pointers are both distinct, so the erased touch is the one with pointer `u.pointerId`
  have hleft : ∀ p, p ∈ (touches.eraseP (Router.isTouch touchId fingerId)).map (·.pointerId) ↔
      p ∈ touches.map (·.pointerId) ∧ u.pointerId ≠ p := by
    intro p
    constructor
    · intro hp
      obtain ⟨a, ha, rfl⟩ := List.mem_map.mp hp
      obtain ⟨hain, hak⟩ := (mem_eraseP hkey h.fingers).mp ha
      refine ⟨List.mem_map_of_mem hain, fun hua => hak ?_⟩
      rw [← List.inj_on_of_nodup_map h.pointers hmem hain hua]
      exact huk
    · intro hex
      obtain ⟨hp, hne⟩ := hex
      obtain ⟨a, ha, rfl⟩ := List.mem_map.mp hp
      refine List.mem_map_of_mem ((mem_eraseP hkey h.fingers).mpr ⟨ha, fun hak => hne ?_⟩)
      rw [List.inj_on_of_nodup_map h.fingers hmem ha (huk.trans hak.symm)]
  refine ⟨nodup_eraseP h.pointers, fun a ha => h.pointerRange a (List.mem_of_mem_eraseP ha), nodup_eraseP h.fingers,
    fun p hp => ?_, fun p hp => ?_⟩
  · obtain ⟨hin, hne⟩ := (hleft p).mp hp
    rw [touchAction_snoc, if_neg hne, List.append_nil]
    exact h.touching p hin
  · rw [touchAction_snoc]
    by_cases hup : u.pointerId = p
    · rw [if_pos hup, ← hup]
      exact open_up (h.touching _ (List.mem_map_of_mem hmem))
    · rw [if_neg hup, List.append_nil]
      exact h.lifted p (fun hin => hp ((hleft p).mpr ⟨hin, hup⟩))

theorem TouchesRecorded.step {r : Router} (h : TouchesRecorded r.activeTouches t) {e : TouchEvent}
    {action : AndroidTouch} (hstep : TouchStep r e id action touches) (x y : F32) (wd ht : Int) :
    TouchesRecorded touches (t ++ [Call.touch id x y action wd ht]) := by
  cases hstep with
  | down id tx ty hf hid => exact h.down hf hid tx ty x y wd ht
  | move u tx ty hf => exact h.move hf tx ty x y wd ht
  | up u hf => exact h.up hf x y wd ht

/-! ## Keys -/

variable {keycode : UInt32 → UInt32}

theorem KeysRecorded.frame (h : KeysRecorded keycode keys t) (hout : ∀ k, out.filterMap (keyCall k) = []) :
    KeysRecorded keycode keys (t ++ out) := by
  refine ⟨fun k hk => ?_, h.mapped⟩
  rw [List.filterMap_append, hout k, List.append_nil] at hk
  exact h.pressed k hk

theorem KeysRecorded.press (h : KeysRecorded keycode keys t) {sc : UInt32} {m : AndroidKeyMapping}
    (hm : m = mapSdlKeyToAndroid sc (keycode sc)) (pressed again : Bool) :
    KeysRecorded keycode (Router.pressKey keys pressed sc m) (t ++ [Call.key pressed m.scanCode m.keyCode again]) := by
  have hstream : ∀ k, (t ++ [Call.key pressed m.scanCode m.keyCode again]).filterMap (keyCall k) =
      t.filterMap (keyCall k) ++ if m.keyCode = k then [pressed] else [] := by
    intro k
    rw [List.filterMap_append]
    by_cases hk : m.keyCode = k <;> simp [keyCall, hk]
  unfold Router.pressKey
  cases pressed with
  | true =>
    rw [if_pos rfl]
    by_cases hany : keys.any (Router.isKey sc) = true
    · rw [if_pos hany]
      refine ⟨fun k hk => ?_, h.mapped⟩
      by_cases hmk : m.keyCode = k
      · obtain ⟨x, hx, hsc⟩ := List.any_eq_true.mp hany
        have hsc : x.sdlScancode = sc := by simpa [Router.isKey] using hsc
        refine ⟨x, hx, ?_⟩
        rw [h.mapped x hx, hsc, ← hm, hmk]
      · rw [hstream, if_neg hmk, List.append_nil] at hk
        exact h.pressed k hk
    · rw [if_neg hany]
      refine ⟨fun k hk => ?_, fun x hx => ?_⟩
      · by_cases hmk : m.keyCode = k
        · exact ⟨⟨sc, m⟩, by simp, hmk⟩
        · rw [hstream, if_neg hmk, List.append_nil] at hk
          obtain ⟨x, hx, hxk⟩ := h.pressed k hk
          exact ⟨x, List.mem_append_left _ hx, hxk⟩
      · rcases List.mem_append.mp hx with hx | hx
        · exact h.mapped x hx
        · rw [List.mem_singleton.mp hx]
          exact hm
  | false =>
    rw [if_neg (by simp)]
    refine ⟨fun k hk => ?_, fun x hx => h.mapped x (List.mem_of_mem_eraseP hx)⟩
    rw [hstream] at hk
    by_cases hmk : m.keyCode = k
    · rw [if_pos hmk] at hk
      simp at hk
    · rw [if_neg hmk, List.append_nil] at hk
      obtain ⟨x, hx, hxk⟩ := h.pressed k hk
      -- the erased key has the code of its scancode, which is not `k`
      have hsc : ¬ Router.isKey sc x = true := by
        intro hsc
        have hsc : x.sdlScancode = sc := by simpa [Router.isKey] using hsc
        exact hmk (by rw [← hxk, h.mapped x hx, hsc, ← hm])
      exact ⟨x, (List.mem_eraseP_of_neg hsc).mpr hx, hxk⟩

end

/-! ## The release -/

section

variable {arith : Arith} {sink : Sink} {r : Router} {before after : List Call}

/-- The streams of the release: those of the recorded buttons, touches and keys. -/
theorem release_streams (hs : sink.complete = true) (hb : ∀ c ∈ before, c.plain = true) (ha : ∀ c ∈ after, c.plain = true)
    (b : Int) (p : Nat) (k : Int) :
    let out := before ++ (r.buttonReleases sink ++ r.touchReleases arith sink ++ r.keyReleases sink) ++ after
    out.filterMap (buttonCall b) = r.activeMouseButtons.filterMap (fun x => if x = b then some false else none) ∧
      out.filterMap (touchAction p) =
        r.activeTouches.filterMap (fun x => if x.pointerId = p then some AndroidTouch.up else none) ∧
      out.filterMap (keyCall k) = r.activeKeys.filterMap (fun x => if x.android.keyCode = k then some false else none) := by
  simp only [Sink.complete, Bool.and_eq_true] at hs
  obtain ⟨⟨⟨⟨⟨⟨-, hmb⟩, -⟩, htc⟩, hkey⟩, -⟩, -⟩ := hs
  obtain ⟨hb1, hb2, hb3⟩ := plain_nil hb b p k
  obtain ⟨ha1, ha2, ha3⟩ := plain_nil ha b p k
  simp only [List.filterMap_append, hb1, hb2, hb3, ha1, ha2, ha3, Router.buttonReleases, Router.touchReleases,
    Router.keyReleases, hmb, htc, hkey, if_true, List.filterMap_map]
  refine ⟨?_, ?_, ?_⟩
  · simp [Function.comp_def, buttonCall, Router.touchCall]
  · simp [Function.comp_def, touchAction, Router.touchCall]
  · simp [Function.comp_def, keyCall, Router.touchCall]

variable {keycode : UInt32 → UInt32} {t : List Call}

/-- After the release nothing is recorded, and nothing has to be. -/
theorem release_recorded (hs : sink.complete = true) (h : Recorded keycode r.pressed t) (hb : ∀ c ∈ before, c.plain = true)
    (ha : ∀ c ∈ after, c.plain = true) (active : Bool) :
    Recorded keycode ⟨active, false, [], [], [], (0, 0, 0)⟩
      (t ++ (before ++ (r.buttonReleases sink ++ r.touchReleases arith sink ++ r.keyReleases sink) ++ after)) := by
  have hst := @release_streams arith sink r before after hs hb ha
  refine ⟨fun b hl => ?_, ⟨by simp, by simp, by simp, by simp, fun p _ => ?_⟩, ⟨fun k hl => ?_, by simp⟩, rfl,
    fun _ => ⟨rfl, rfl, rfl⟩⟩
  · rw [List.filterMap_append, (hst b 0 0).1] at hl
    obtain ⟨hall, hlast⟩ := last_press hl
    exact absurd rfl (hall b (h.buttons b hlast))
  · have hpointers : (r.activeTouches.map (·.pointerId)).Nodup := h.touches.pointers
    rw [List.filterMap_append, (hst 0 p 0).2.1, filterMap_key hpointers]
    split
    · exact open_up (h.touches.touching p ‹_›)
    · rw [List.append_nil]
      exact h.touches.lifted p ‹_›
  · rw [List.filterMap_append, (hst 0 0 k).2.2] at hl
    obtain ⟨hall, hlast⟩ := last_press hl
    obtain ⟨x, hx, hxk⟩ := h.keys.pressed k hlast
    exact absurd hxk (hall x hx)

theorem touch_recorded {p : Nat} (h : TouchesRecorded r.activeTouches t)
    (hl : (t.filterMap (touchAction p)).getLast? = some .down ∨ (t.filterMap (touchAction p)).getLast? = some .move) :
    p ∈ r.activeTouches.map (·.pointerId) := by
  by_contra hp
  rcases gestures_last (h.lifted p hp) with hg | hg
  · rw [hg] at hl; simp at hl
  · rw [hg] at hl; simp at hl

theorem release_all (hs : sink.complete = true) (h : Recorded keycode r.pressed t) :
    ReleasesAll t (before ++ (r.buttonReleases sink ++ r.touchReleases arith sink ++ r.keyReleases sink) ++ after) := by
  simp only [Sink.complete, Bool.and_eq_true] at hs
  obtain ⟨⟨⟨⟨⟨⟨-, hmb⟩, -⟩, htc⟩, hkey⟩, -⟩, -⟩ := hs
  refine ⟨fun b hl => ⟨r.mouseX, r.mouseY, ?_⟩, fun p hl => ?_, fun k hl => ?_⟩
  · have hmem : b ∈ r.activeMouseButtons := h.buttons b hl
    simp [Router.buttonReleases, hmb, hmem]
  · obtain ⟨x, hx, rfl⟩ := List.mem_map.mp (touch_recorded h.touches hl)
    refine ⟨x.x, x.y, arith.roundedWidth r.viewport, arith.roundedHeight r.viewport, ?_⟩
    have hin : Call.touch x.pointerId x.x x.y .up (arith.roundedWidth r.viewport) (arith.roundedHeight r.viewport) ∈
        r.touchReleases arith sink := by
      rw [Router.touchReleases, if_pos htc]
      exact List.mem_map.mpr ⟨x, hx, rfl⟩
    simp [hin]
  · obtain ⟨x, hx, rfl⟩ := h.keys.pressed k hl
    refine ⟨x.android.scanCode, false, ?_⟩
    have hin : Call.key false x.android.scanCode x.android.keyCode false ∈ r.keyReleases sink := by
      rw [Router.keyReleases, if_pos hkey]
      exact List.mem_map.mpr ⟨x, hx, rfl⟩
    simp [hin]

/-! ## One step -/

theorem Recorded.frame (h : Recorded keycode r.pressed t) (hp : ∀ c ∈ calls, c.plain = true)
    {focused : Bool} (hf : focused = r.focused ∨ r.active = true ∧ focused = true) :
    Recorded keycode { r.pressed with focused := focused } (t ++ calls) := by
  refine ⟨h.buttons.frame (fun b => (plain_nil hp b 0 0).1), h.touches.frame (fun p => (plain_nil hp 0 p 0).2.1),
    h.keys.frame (fun k => (plain_nil hp 0 0 k).2.2), h.counts, fun hu => h.unpressed ?_⟩
  rcases hf with hf | ⟨ha, hf⟩
  · subst hf
    exact hu
  · subst hf
    rcases hu with hu | hu
    · cases hu
    · exact Or.inr hu

theorem effect_recorded (hs : sink.complete = true) (h : Recorded keycode r.pressed t) {m : Method} {p : Pressed}
    (hm : ∀ e, m = .event (.key e) → e.keycode = keycode e.scancode)
    (he : Effect arith sink r m p calls) : Recorded keycode p (t ++ calls) := by
  have hon : r.active = true → ¬ (true = false ∨ r.active = false) := by simp
  cases he with
  | quiet m focused calls hplain hf _ _ => exact h.frame hplain hf
  | button pressed button x y x' y' relative buttons ha hbs =>
    subst hbs
    exact ⟨h.buttons.press x' y' pressed _, h.touches.frame (fun _ => rfl), h.keys.frame (fun _ => rfl),
      congrArg (Prod.mk _) (congrArg Prod.snd h.counts), fun hu => absurd hu (hon ha)⟩
  | touch e id x y action w ht touches ha hstep =>
    refine ⟨h.buttons.frame (fun _ => rfl), TouchesRecorded.step h.touches hstep x y w ht, h.keys.frame (fun _ => rfl), ?_,
      fun hu => absurd hu (hon ha)⟩
    show (r.pressed.counts.1, touches.length, r.pressed.counts.2.2) = _
    rw [h.counts]
  | key e keys ha _ hks =>
    subst hks
    refine ⟨h.buttons.frame (fun _ => rfl), h.touches.frame (fun _ => rfl), h.keys.press ?_ e.pressed e.repeat, ?_,
      fun hu => absurd hu (hon ha)⟩
    · rw [hm e rfl]
    · show (r.pressed.counts.1, r.pressed.counts.2.1, _) = _
      rw [h.counts]
  | released m active before after _ hb hafter => exact release_recorded hs h hb hafter active
  | activated viewport focused ha =>
    obtain ⟨hbs, hts, hks⟩ := h.unpressed (Or.inr ha)
    rw [List.append_nil]
    exact ⟨hbs ▸ h.buttons, hts ▸ h.touches, hks ▸ h.keys, rfl, fun _ => ⟨rfl, rfl, rfl⟩⟩

end

/-! ## Every run -/

variable (u : Utf8proc) (arith : Arith) (sink : Sink)

theorem step_recorded (hs : sink.complete = true) {keycode : UInt32 → UInt32} {r : Router} {t : List Call}
    (h : Recorded keycode r.pressed t) {act : Act} (ho : act.outcome.Ok) (hk : SameKeycode keycode act) :
    Recorded keycode (stepRouter u arith sink r act).1.pressed (t ++ (stepRouter u arith sink r act).2) := by
  refine effect_recorded hs h (fun e he => ?_) (step_effect u hs ho)
  simpa only [SameKeycode, he] using hk

/-- With nothing recorded no last call is a press. -/
theorem unpressed_all {keycode : UInt32 → UInt32} {r : Router} {t : List Call} (h : Recorded keycode r.pressed t)
    (hu : r.active = false) (out : List Call) : ReleasesAll t out := by
  obtain ⟨hbs, hts, hks⟩ := h.unpressed (Or.inr hu)
  refine ⟨fun b hl => ?_, fun p hl => ?_, fun k hl => ?_⟩
  · have hmem := h.buttons b hl
    rw [hbs] at hmem
    cases hmem
  · have hmem := touch_recorded h.touches hl
    rw [show r.activeTouches = [] from hts] at hmem
    cases hmem
  · obtain ⟨x, hx, -⟩ := h.keys.pressed k hl
    rw [hks] at hx
    cases hx

theorem step_releases (hs : sink.complete = true) {keycode : UInt32 → UInt32} {r : Router} {t : List Call}
    (h : Recorded keycode r.pressed t) {act : Act} (ho : act.outcome.Ok) (hl : r.loses act.method) :
    ReleasesAll t (stepRouter u arith sink r act).2 := by
  by_cases ha : r.active = true
  swap
  · exact unpressed_all h (by simpa using ha) _
  have hrel : r.releases act.method = true := by
    revert hl
    cases act.method with
    | deactivate => exact fun _ => ha
    | event e =>
      cases e with
      | focus f =>
        intro hex
        obtain ⟨hf, rfl⟩ := hex
        simp [Router.releases, ha, hf]
      | _ => exact False.elim
    | _ => exact False.elim
  have hE : Effect arith sink r act.method _ (stepRouter u arith sink r act).2 := step_effect u hs ho
  generalize (stepRouter u arith sink r act).1.pressed = p at hE
  generalize (stepRouter u arith sink r act).2 = calls at hE ⊢
  generalize act.method = m at hE hrel
  cases hE with
  | quiet m focused calls _ _ _ hq => rw [hq] at hrel; cases hrel
  | released m active before after _ _ _ => exact release_all hs h
  | button | touch | key | activated => cases hrel

theorem Recorded.disciplined {keycode : UInt32 → UInt32} {r : Router} {t : List Call} (h : Recorded keycode r.pressed t) :
    Disciplined r t := by
  refine ⟨h.touches.pointers, h.touches.pointerRange, h.touches.fingers, fun p => ?_, fun hu => ?_⟩
  · by_cases hp : p ∈ r.activeTouches.map (·.pointerId)
    · exact ⟨_, open_up (h.touches.touching p hp), List.prefix_append _ _⟩
    · exact ⟨_, h.touches.lifted p hp, List.prefix_rfl⟩
  · obtain ⟨hbs, hts, hks⟩ := h.unpressed hu
    refine ⟨hbs, hts, hks, ?_⟩
    rw [h.counts, hbs, hts, hks]
    rfl

theorem recorded_nil (keycode : UInt32 → UInt32) : Recorded keycode ⟨false, false, [], [], [], (0, 0, 0)⟩ [] :=
  ⟨fun _ hb => by simp at hb, ⟨by simp, by simp, by simp, by simp, fun _ _ => .nil⟩, ⟨by simp, by simp⟩, rfl,
    fun _ => ⟨rfl, rfl, rfl⟩⟩

theorem run_recorded (hs : sink.complete = true) (keycode : UInt32 → UInt32) (acts : List Act)
    (hacts : ∀ act ∈ acts, act.outcome.Ok ∧ SameKeycode keycode act) :
    Recorded keycode ((router u arith sink).run {} acts).1.pressed ((router u arith sink).run {} acts).2 := by
  refine (router u arith sink).run_induct_guarded (C := fun _ _ act => act.outcome.Ok ∧ SameKeycode keycode act)
    (I := fun r t => Recorded keycode r.pressed t) ?_ (fun r t act h hact => ?_) acts ?_
  · exact recorded_nil keycode
  · exact step_recorded u arith sink hs h hact.1 hact.2
  · intro pre act post hsplit
    exact hacts act (by simp [hsplit])

theorem release_discipline (hs : sink.complete = true) (keycode : UInt32 → UInt32) (acts : List Act)
    (hacts : ∀ act ∈ acts, act.outcome.Ok ∧ SameKeycode keycode act) :
    Disciplined ((router u arith sink).run {} acts).1 ((router u arith sink).run {} acts).2 ∧
      ∀ pre act post, acts = pre ++ act :: post → ((router u arith sink).run {} pre).1.loses act.method →
        ReleasesAll ((router u arith sink).run {} pre).2
          ((router u arith sink).step ((router u arith sink).run {} pre).1 act).2 := by
  refine ⟨(run_recorded u arith sink hs keycode acts hacts).disciplined, fun pre act post hsplit hl => ?_⟩
  have hpre := run_recorded u arith sink hs keycode pre (fun a ha => hacts a (by simp [hsplit, ha]))
  exact step_releases u arith sink hs hpre (hacts act (by simp [hsplit])).1 hl

/-- A button, two fingers and a key go down; one finger moves. -/
def demoPresses : List Act :=
  [⟨.activate demoViewport true, {}⟩, ⟨.event (.mouseButton true 1 F32.zero F32.zero false), {}⟩,
    ⟨.event (.touch { action := .down, fingerId := 7 }), {}⟩, ⟨.event (.touch { action := .down, fingerId := 8 }), {}⟩,
    ⟨.event (.key { pressed := true, scancode := 26 }), {}⟩, ⟨.event (.touch { action := .move, fingerId := 8 }), {}⟩]

theorem quiet_outcome_ok : ({} : Outcome).Ok := ⟨fun _ => rfl, rfl⟩

theorem release_discipline_demo :
    ReleasesAll ((router plainUtf8proc plainArith {}).run {} demoPresses).2
      ((router plainUtf8proc plainArith {}).step ((router plainUtf8proc plainArith {}).run {} demoPresses).1
        ⟨.event (.focus false), {}⟩).2 :=
  (release_discipline plainUtf8proc plainArith {} (by decide) (fun _ => 0) (demoPresses ++ [⟨.event (.focus false), {}⟩])
    (by simp [demoPresses, SameKeycode, quiet_outcome_ok])).2 demoPresses _ [] rfl ⟨by decide, rfl⟩

end Mocktail.Input

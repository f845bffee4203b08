/-
  Mocktail.Input.GamepadRouting — the gamepads of every run of the router.

  `PadsOk` ties the pads and their counters to the native table: every pad agrees with its
  device, a device without a pad is at rest, and no pad holds an input while the window is
  unfocused. Each method keeps it and makes gamepad calls that the table takes
  (`step_pads`), so the log of a run alternates and leaves nothing held behind
  (`gamepad_discipline`).
-/

import Mocktail.Input.Effects
import Mocktail.Input.PadRuns

namespace Mocktail.Input

open Mocktail.Lib

/-! ## The view and its invariant -/

/-- The part of the router that the pads live in. -/
structure PadView where
  active : Bool
  focused : Bool
  gamepads : List ActiveGamepad
  /-- `detected_gamepads` and `connected_gamepads` of the snapshot. -/
  detected : Nat
  connected : Int

def Router.padView (r : Router) : PadView :=
  ⟨r.active, r.focused, r.gamepads, r.counters.detectedGamepads, r.counters.connectedGamepads⟩

attribute [local simp] Router.padView

/-- The gamepad calls of a log. -/
def padLog (calls : List Call) : List GamepadCall :=
  calls.filterMap fun
    | .gamepad call => some call
    | _ => none

/-- The pads that are connected on the native side. -/
def linkedPads (pads : List ActiveGamepad) : Int := (pads.filter (·.connected)).length

structure PadsOk (v : PadView) (n : NativePads) : Prop where
  instances : (v.gamepads.map (·.instanceId)).Nodup
  devices : (v.gamepads.map (·.deviceId)).Nodup
  positive : ∀ pad ∈ v.gamepads, 0 < pad.deviceId
  detected : v.detected = v.gamepads.length
  connected : v.connected = linkedPads v.gamepads
  agrees : ∀ pad ∈ v.gamepads, PadAgrees n pad
  others : ∀ d, d ∉ v.gamepads.map (·.deviceId) → DeviceRests n d
  unfocused : v.focused = false → ∀ pad ∈ v.gamepads, pad.Idle
  inactive : v.active = false → v.gamepads = [] ∧ v.focused = false

@[simp] theorem padLog_append (calls more : List Call) : padLog (calls ++ more) = padLog calls ++ padLog more := by
  simp [padLog]

@[simp] theorem padLog_padCalls (calls : List GamepadCall) : padLog (Router.padCalls calls) = calls := by
  induction calls with
  | nil => rfl
  | cons call calls ih => exact congrArg (call :: ·) ih

/-- A call that is no gamepad call. -/
def Call.elsewhere : Call → Bool
  | .gamepad _ => false
  | _ => true

attribute [local simp] Call.elsewhere

theorem padLog_elsewhere {calls : List Call} (h : ∀ c ∈ calls, c.elsewhere = true) : padLog calls = [] := by
  refine List.filterMap_eq_nil_iff.mpr fun c hc => ?_
  have := h c hc
  cases c <;> simp_all [Call.elsewhere]

theorem linkedPads_append (pads more : List ActiveGamepad) : linkedPads (pads ++ more) = linkedPads pads + linkedPads more := by
  simp [linkedPads]

theorem linkedPads_cons (pad : ActiveGamepad) (pads : List ActiveGamepad) :
    linkedPads (pad :: pads) = (if pad.connected then 1 else 0) + linkedPads pads := by
  cases hc : pad.connected with
  | false => simp [linkedPads, hc]
  | true =>
    simp [linkedPads, hc]
    omega

section Table

variable {v : PadView} {n n' : NativePads} {pad pad' : ActiveGamepad} {pre post : List ActiveGamepad} {calls : List GamepadCall}

/-- The pads besides one of them. -/
theorem PadsOk.apart (h : PadsOk v n) (hv : v.gamepads = pre ++ pad :: post) :
    ∀ p ∈ pre ++ post, p ∈ v.gamepads ∧ p.deviceId ≠ pad.deviceId ∧ p.instanceId ≠ pad.instanceId := by
  intro p hp
  have hd := h.devices
  have hi := h.instances
  rw [hv, List.map_append, List.map_cons, List.nodup_middle] at hd hi
  rw [← List.map_append, List.nodup_cons] at hd hi
  refine ⟨?_, fun he => hd.1 ?_, fun he => hi.1 ?_⟩
  · rw [hv]
    simp only [List.mem_append, List.mem_cons] at hp ⊢
    tauto
  · rw [← he]; exact List.mem_map_of_mem hp
  · rw [← he]; exact List.mem_map_of_mem hp

/-- One pad took input; the window is focused. -/
theorem PadsOk.update (h : PadsOk v n) (hv : v.gamepads = pre ++ pad :: post) (hfocused : v.focused = true)
    (hi : pad'.instanceId = pad.instanceId) (hd : pad'.deviceId = pad.deviceId)
    (hf : Feeds n pad.deviceId calls n') (ha : PadAgrees n' pad') {delta : Int}
    (hdelta : delta = (if pad'.connected then 1 else 0) - (if pad.connected then 1 else 0)) :
    PadsOk { v with gamepads := pre ++ pad' :: post, connected := v.connected + delta } n' where
  instances := by
    have hn := h.instances
    rw [hv] at hn
    simpa [hi] using hn
  devices := by
    have hn := h.devices
    rw [hv] at hn
    simpa [hd] using hn
  positive := by
    intro p hp
    rcases List.mem_append.mp hp with hp | hp
    · exact h.positive p (h.apart hv p (by simp [hp])).1
    · rcases List.mem_cons.mp hp with rfl | hp
      · rw [hd]; exact h.positive pad (by simp [hv])
      · exact h.positive p (h.apart hv p (by simp [hp])).1
  detected := by
    have hl := h.detected
    rw [hv] at hl
    simpa using hl
  connected := by
    have hl := h.connected
    rw [hv, linkedPads_append, linkedPads_cons] at hl
    show v.connected + delta = linkedPads (pre ++ pad' :: post)
    rw [linkedPads_append, linkedPads_cons]
    omega
  agrees := by
    intro p hp
    have hother : ∀ p ∈ pre ++ post, PadAgrees n' p := by
      intro p hp
      obtain ⟨hmem, hne, -⟩ := h.apart hv p hp
      exact (h.agrees p hmem).frame (hf.unmoved _ hne)
    rcases List.mem_append.mp hp with hp | hp
    · exact hother p (by simp [hp])
    · rcases List.mem_cons.mp hp with rfl | hp
      · exact ha
      · exact hother p (by simp [hp])
  others := by
    intro e he
    have he' : e ∉ v.gamepads.map (·.deviceId) := by
      rw [hv]
      simpa [hd] using he
    have hne : e ≠ pad.deviceId := by
      intro heq
      subst heq
      exact he' (List.mem_map_of_mem (by simp [hv]))
    exact (h.others e he').frame (hf.unmoved e hne)
  unfocused := fun hu => absurd (hfocused.symm.trans hu) (by decide)
  inactive := fun hu => absurd ((h.inactive hu).1.symm.trans hv) (by simp)

/-- One pad is disconnected and forgotten. -/
theorem PadsOk.remove (h : PadsOk v n) (hv : v.gamepads = pre ++ pad :: post) (hf : Feeds n pad.deviceId calls n')
    (hr : DeviceRests n' pad.deviceId) :
    PadsOk { v with
      gamepads := pre ++ post
      detected := (pre ++ post).length
      connected := v.connected + (if pad.connected then -1 else 0) } n' where
  instances := by
    have hn := h.instances
    rw [hv] at hn
    exact hn.sublist (List.Sublist.map _ (by simp))
  devices := by
    have hn := h.devices
    rw [hv] at hn
    exact hn.sublist (List.Sublist.map _ (by simp))
  positive := fun p hp => h.positive p (h.apart hv p hp).1
  detected := rfl
  connected := by
    have hl := h.connected
    rw [hv, linkedPads_append, linkedPads_cons] at hl
    show v.connected + _ = linkedPads (pre ++ post)
    rw [linkedPads_append, hl]
    split <;> omega
  agrees := by
    intro p hp
    obtain ⟨hmem, hne, -⟩ := h.apart hv p hp
    exact (h.agrees p hmem).frame (hf.unmoved _ hne)
  others := by
    intro e he
    by_cases hd : e = pad.deviceId
    · rw [hd]; exact hr
    · refine (h.others e ?_).frame (hf.unmoved e hd)
      rw [hv]
      simp only [List.map_append, List.map_cons, List.mem_append, List.mem_cons, not_or] at he ⊢
      exact ⟨he.1, hd, he.2⟩
  unfocused := fun hu p hp => h.unfocused hu p (h.apart hv p hp).1
  inactive := fun hu => absurd ((h.inactive hu).1.symm.trans hv) (by simp)

/-- A device at rest is that of a pad that was just detected. -/
theorem padAgrees_fresh {d : Int} (h : DeviceRests n d) (i : Int) (descriptor : GamepadDescriptor) :
    PadAgrees n { instanceId := i, deviceId := d, descriptor := descriptor } where
  connected := h.connected
  keys := fun b _ => by rw [hasBit_zero]; exact h.keys _
  otherKeys := fun k _ => h.keys k
  axes := fun i hi => axisAgrees_of_rest hi (h.axes _) replicate_rest
  otherAxes := fun a _ => h.axes a
  idle := fun _ => ⟨rfl, rfl⟩
  sent := rfl
  raw := rfl

theorem PadsOk.add (h : PadsOk v n) (hactive : v.active = true) {i d : Int} (hi : i ∉ v.gamepads.map (·.instanceId))
    (hd : d ∉ v.gamepads.map (·.deviceId)) (hpos : 0 < d) (descriptor : GamepadDescriptor) :
    PadsOk { v with
      gamepads := v.gamepads ++ [{ instanceId := i, deviceId := d, descriptor := descriptor }]
      detected :=
        (v.gamepads ++ [({ instanceId := i, deviceId := d, descriptor := descriptor } : ActiveGamepad)]).length } n where
  instances := nodup_snoc h.instances hi
  devices := nodup_snoc h.devices hd
  positive := by
    intro p hp
    rcases List.mem_append.mp hp with hp | hp
    · exact h.positive p hp
    · rw [List.mem_singleton.mp hp]; exact hpos
  detected := rfl
  connected := by
    show v.connected = linkedPads (v.gamepads ++ _)
    rw [linkedPads_append, h.connected]
    rfl
  agrees := by
    intro p hp
    rcases List.mem_append.mp hp with hp | hp
    · exact h.agrees p hp
    · rw [List.mem_singleton.mp hp]; exact padAgrees_fresh (h.others d hd) i descriptor
  others := by
    intro e he
    simp only [List.map_append, List.mem_append, not_or] at he
    exact h.others e he.1
  unfocused := by
    intro hu p hp
    rcases List.mem_append.mp hp with hp | hp
    · exact h.unfocused hu p hp
    · rw [List.mem_singleton.mp hp]; exact ⟨rfl, rfl⟩
  inactive := fun hu => absurd (hactive.symm.trans hu) (by decide)

/-- One run of each pad, in order: what a run makes of its own device stays. -/
theorem feeds_all {f : ActiveGamepad → PadRun} {Q : NativePads → ActiveGamepad → Prop}
    (hrun : ∀ n pad, PadAgrees n pad → ∃ n', Feeds n pad.deviceId (f pad).calls n' ∧ Q n' pad)
    (hframe : ∀ n n' pad, Q n pad → Unmoved n n' pad.deviceId → Q n' pad) (pads : List ActiveGamepad)
    (hd : (pads.map (·.deviceId)).Nodup) (ha : ∀ pad ∈ pads, PadAgrees n pad) :
    ∃ n', n.feedAll ((pads.map f).flatMap (·.calls)) = some n' ∧ (∀ pad ∈ pads, Q n' pad) ∧
      ∀ e, e ∉ pads.map (·.deviceId) → Unmoved n n' e := by
  induction pads generalizing n with
  | nil => exact ⟨n, rfl, by simp, fun e _ => Unmoved.refl n e⟩
  | cons pad pads ih =>
    obtain ⟨hnot, hd⟩ := List.nodup_cons.mp hd
    obtain ⟨m, hf, hq⟩ := hrun n pad (ha pad (by simp))
    have hpads : ∀ p ∈ pads, PadAgrees m p := by
      intro p hp
      refine (ha p (by simp [hp])).frame (hf.unmoved _ fun he => ?_)
      exact hnot (List.mem_map.mpr ⟨p, hp, he⟩)
    obtain ⟨n', hfed, hqs, hrest⟩ := ih hd hpads
    refine ⟨n', ?_, ?_, ?_⟩
    · simp only [List.map_cons, List.flatMap_cons]
      rw [NativePads.feedAll_append _ _ hf.fed, hfed]
    · intro p hp
      rcases List.mem_cons.mp hp with rfl | hp
      · exact hframe m n' p hq (hrest _ hnot)
      · exact hqs p hp
    · intro e he
      simp only [List.map_cons, List.mem_cons, not_or] at he
      exact (hf.unmoved e he.1).trans (hrest e he.2)

/-- What the runs of all pads add to the counter. -/
theorem sum_connected {f : ActiveGamepad → PadRun} {c : Int} (pads : List ActiveGamepad)
    (hf : ∀ pad ∈ pads, (f pad).connected = if pad.connected then c else 0) :
    ((pads.map f).map PadRun.connected).sum = c * linkedPads pads := by
  induction pads with
  | nil => simp [linkedPads]
  | cons pad pads ih =>
    rw [List.map_cons, List.map_cons, List.sum_cons, ih fun p hp => hf p (by simp [hp]), hf pad (by simp), linkedPads_cons,
      Int.mul_add]
    cases pad.connected <;> simp

theorem PadsOk.releaseAll (h : PadsOk v n) (ha : ∀ pad ∈ v.gamepads, PadAgrees n' pad.rested)
    (hu : ∀ e, e ∉ v.gamepads.map (·.deviceId) → Unmoved n n' e) :
    PadsOk { v with gamepads := v.gamepads.map (·.rested), focused := false } n' := by
  have hi : (v.gamepads.map (·.rested)).map (·.instanceId) = v.gamepads.map (·.instanceId) := by
    rw [List.map_map]
    rfl
  have hd : (v.gamepads.map (·.rested)).map (·.deviceId) = v.gamepads.map (·.deviceId) := by
    rw [List.map_map]
    rfl
  have hl : linkedPads (v.gamepads.map (·.rested)) = linkedPads v.gamepads := by
    unfold linkedPads
    rw [List.filter_map, List.length_map]
    rfl
  refine ⟨by rw [hi]; exact h.instances, by rw [hd]; exact h.devices, ?_, ?_, by rw [hl]; exact h.connected, ?_, ?_, ?_, ?_⟩
  · intro p hp
    obtain ⟨pad, hpad, rfl⟩ := List.mem_map.mp hp
    exact h.positive pad hpad
  · rw [List.length_map]; exact h.detected
  · intro p hp
    obtain ⟨pad, hpad, rfl⟩ := List.mem_map.mp hp
    exact ha pad hpad
  · intro e he
    rw [hd] at he
    exact (h.others e he).frame (hu e he)
  · intro _ p hp
    obtain ⟨pad, hpad, rfl⟩ := List.mem_map.mp hp
    exact ⟨rfl, rfl⟩
  · intro hactive
    exact ⟨by rw [(h.inactive hactive).1]; rfl, rfl⟩

/-- Every pad went away. -/
theorem PadsOk.clear (h : PadsOk v n) (ha : ∀ pad ∈ v.gamepads, DeviceRests n' pad.deviceId)
    (hu : ∀ e, e ∉ v.gamepads.map (·.deviceId) → Unmoved n n' e) : PadsOk ⟨false, false, [], 0, 0⟩ n' where
  instances := by simp
  devices := by simp
  positive := by simp
  detected := rfl
  connected := rfl
  agrees := by simp
  others := by
    intro e _
    by_cases he : e ∈ v.gamepads.map (·.deviceId)
    · obtain ⟨pad, hpad, rfl⟩ := List.mem_map.mp he
      exact ha pad hpad
    · exact (h.others e he).frame (hu e he)
  unfocused := by simp
  inactive := fun _ => ⟨rfl, rfl⟩

end Table

/-! ## Methods without gamepads -/

section Elsewhere

variable {u : Utf8proc} {arith : Arith} {sink : Sink} {o : Outcome} {r : Router}

@[simp] theorem nativeResult_padView (calls : List Call) (status : Status) (kind : EventKind) :
    (r.nativeResult calls status kind).r.padView = r.padView := by
  unfold Router.nativeResult
  split
  · rfl
  · cases kind <;> rfl

/-- A handler that leaves the pads alone. -/
structure KeepsPads (r : Router) (h : Handled) : Prop where
  view : h.r.padView = { r.padView with focused := true }
  calls : ∀ c ∈ h.calls, c.elsewhere = true

theorem keepsPads_ignored (kind : EventKind) (m : String) : KeepsPads r ({ r with focused := true }.ignored kind m) :=
  ⟨rfl, by simp [Router.ignored]⟩

theorem keepsPads_rejected (kind : EventKind) (m : String) : KeepsPads r ({ r with focused := true }.rejected kind m) :=
  ⟨rfl, by simp [Router.rejected]⟩

theorem keepsPads_native {r' : Router} (hr : r'.padView = { r.padView with focused := true }) {calls : List Call}
    (hc : ∀ c ∈ calls, c.elsewhere = true) (status : Status) (kind : EventKind) :
    KeepsPads r (r'.nativeResult calls status kind) :=
  ⟨by rw [nativeResult_padView]; exact hr, by rw [nativeResult_calls]; exact hc⟩

theorem motion_keeps (x y dx dy : F32) (m : Bool) :
    KeepsPads r ({ r with focused := true }.handleMouseMotion arith sink o x y dx dy m) := by
  unfold Router.handleMouseMotion
  split
  · exact keepsPads_ignored _ _
  · exact keepsPads_native rfl (by simp) _ _

theorem mouseButton_keeps (p : Bool) (b : UInt8) (x y : F32) (m : Bool) :
    KeepsPads r ({ r with focused := true }.handleMouseButton arith sink o p b x y m) := by
  unfold Router.handleMouseButton
  split
  · exact keepsPads_ignored _ _
  simp only
  split
  · exact keepsPads_ignored _ _
  generalize (if m = true then r.mouseX else arith.guestX r.viewport x) = mx
  generalize (if m = true then r.mouseY else arith.guestY r.viewport y) = my
  split
  · exact keepsPads_native rfl (by simp) _ _
  · exact keepsPads_native rfl (by simp) _ _

theorem wheel_keeps (dy x y : F32) (m : Bool) :
    KeepsPads r ({ r with focused := true }.handleMouseWheel arith sink o dy x y m) := by
  unfold Router.handleMouseWheel
  split
  · exact keepsPads_ignored _ _
  · exact keepsPads_native rfl (by simp) _ _

theorem touch_keeps (e : TouchEvent) : KeepsPads r ({ r with focused := true }.handleTouch arith sink o e) := by
  unfold Router.handleTouch
  split
  · exact keepsPads_ignored _ _
  simp only
  split
  · exact keepsPads_rejected _ _
  · split
    · exact keepsPads_rejected _ _
    · exact keepsPads_native rfl (by simp [Router.touchCall]) _ _
  · exact keepsPads_rejected _ _
  · exact keepsPads_native rfl (by simp [Router.touchCall]) _ _
  · exact keepsPads_native rfl (by simp [Router.touchCall]) _ _

theorem textResult_keeps (e : Edit) : KeepsPads r ({ r with focused := true }.textResult e) := by
  unfold Router.textResult
  simp only
  split
  · exact ⟨rfl, by simp⟩
  split
  · exact ⟨rfl, by simp⟩
  · exact ⟨rfl, by simp⟩

theorem key_keeps (e : KeyEvent) : KeepsPads r ({ r with focused := true }.handleKeyEvent u sink o e) := by
  unfold Router.handleKeyEvent
  simp only
  split
  · exact textResult_keeps _
  unfold Router.handleKeyLocked
  split
  · exact keepsPads_ignored _ _
  simp only
  split
  · exact keepsPads_ignored _ _
  split
  · exact keepsPads_native rfl (by simp) _ _
  · exact keepsPads_native rfl (by simp) _ _

theorem text_keeps (e : Edit) : KeepsPads r ({ r with focused := true }.handleText e) := by
  unfold Router.handleText
  split
  · exact textResult_keeps e
  · exact ⟨rfl, by simp [Router.textIgnored, Router.ignored]⟩

theorem endText_padView : (r.endText sink o).1.padView = r.padView := by
  unfold Router.endText
  split <;> rfl

theorem endText_elsewhere : padLog (r.endText sink o).2.1 = [] := by
  apply padLog_elsewhere
  unfold Router.endText
  split
  · simp
  · simp

theorem releases_elsewhere :
    padLog (r.buttonReleases sink ++ r.touchReleases arith sink ++ r.keyReleases sink) = [] := by
  apply padLog_elsewhere
  intro c hc
  simp only [List.mem_append, Router.buttonReleases, Router.touchReleases, Router.keyReleases] at hc
  rcases hc with (hc | hc) | hc
  · split at hc
    · obtain ⟨b, -, rfl⟩ := List.mem_map.mp hc; rfl
    · cases hc
  · split at hc
    · obtain ⟨b, -, rfl⟩ := List.mem_map.mp hc; rfl
    · cases hc
  · split at hc
    · obtain ⟨b, -, rfl⟩ := List.mem_map.mp hc; rfl
    · cases hc

end Elsewhere

/-! ## Gamepad events -/

section Events

variable {u : Utf8proc} {arith : Arith} {sink : Sink} {o : Outcome} {r : Router} {n : NativePads}

theorem isPad_iff (i : Int) (pad : ActiveGamepad) : Router.isPad i pad = true ↔ pad.instanceId = i := by simp [Router.isPad]

/-- The pad that is found, with the pads before and after it. -/
theorem find_pad {pads : List ActiveGamepad} {i : Int} {pad : ActiveGamepad} (hf : pads.find? (Router.isPad i) = some pad) :
    ∃ pre post, pads = pre ++ pad :: post ∧ pad.instanceId = i ∧ ∀ p ∈ pre, Router.isPad i p = false := by
  obtain ⟨hp, pre, post, heq, hpre⟩ := List.find?_eq_some_iff_append.mp hf
  exact ⟨pre, post, heq, (isPad_iff i pad).mp hp, fun p hp => by simpa using hpre p hp⟩

theorem eraseP_pad {i : Int} {pad : ActiveGamepad} {pre post : List ActiveGamepad} (hi : pad.instanceId = i)
    (hpre : ∀ p ∈ pre, Router.isPad i p = false) : (pre ++ pad :: post).eraseP (Router.isPad i) = pre ++ post := by
  rw [List.eraseP_append_right _ (by simpa using hpre), List.eraseP_cons_of_pos ((isPad_iff i pad).mpr hi)]

theorem modifyFirst_pad {i : Int} {pad pad' : ActiveGamepad} {pre post : List ActiveGamepad} (hi : pad.instanceId = i)
    (hpre : ∀ p ∈ pre, Router.isPad i p = false) :
    modifyFirst (Router.isPad i) (fun _ => pad') (pre ++ pad :: post) = pre ++ pad' :: post := by
  induction pre with
  | nil => simp [modifyFirst, (isPad_iff i pad).mpr hi]
  | cons p pre ih =>
    simp only [List.cons_append, modifyFirst, hpre p (by simp), Bool.false_eq_true, if_false]
    rw [ih fun q hq => hpre q (by simp [hq])]

theorem freeDeviceId_free {pads : List ActiveGamepad} {d : Nat} (h : Router.freeDeviceId pads = some d) :
    0 < d ∧ (d : Int) ∉ pads.map (·.deviceId) := by
  have hmem := List.mem_of_find?_eq_some h
  have hfree := List.find?_some h
  refine ⟨by simp at hmem; omega, fun hd => ?_⟩
  obtain ⟨pad, hp, he⟩ := List.mem_map.mp hd
  simp at hfree
  exact hfree pad hp he

/-- The run of the known pad that goes away, if there is one. -/
def Router.dropRuns (arith : Arith) (o : Outcome) (r : Router) (i : Int) : List PadRun :=
  ((r.gamepads.find? (Router.isPad i)).map (·.disconnect arith.curves (Router.padStatus o))).toList

def Router.dropPad (arith : Arith) (o : Outcome) (r : Router) (i : Int) : Router :=
  if (r.gamepads.find? (Router.isPad i)).isSome then
    (r.countPads (r.dropRuns arith o i)).setPads (r.gamepads.eraseP (Router.isPad i))
  else r

theorem padStatus_ok (hok : ∀ c, (o.native c).ok = true) (c : GamepadCall) : (Router.padStatus o c).ok = true := hok _

theorem dropPad_pads (hok : ∀ c, (o.native c).ok = true) (hz : arith.curves.RestAtZero) (h : PadsOk r.padView n) (i : Int) :
    (r.dropPad arith o i).active = r.active ∧ i ∉ (r.dropPad arith o i).gamepads.map (·.instanceId) ∧
      ∃ n', n.feedAll ((r.dropRuns arith o i).flatMap (·.calls)) = some n' ∧ PadsOk (r.dropPad arith o i).padView n' := by
  unfold Router.dropPad Router.dropRuns
  cases hf : r.gamepads.find? (Router.isPad i) with
  | none => exact ⟨rfl, (find_none_iff (isPad_iff i)).mp hf, n, rfl, h⟩
  | some pad =>
    obtain ⟨pre, post, hv, hi, hpre⟩ := find_pad hf
    obtain ⟨hcount, n', hfeed, hrests⟩ := disconnect_feeds (padStatus_ok hok) hz
      (h.agrees pad (by simp [hv]))
    have herase : r.gamepads.eraseP (Router.isPad i) = pre ++ post := by rw [hv]; exact eraseP_pad hi hpre
    simp only [Option.isSome_some, if_true, Option.map_some, Option.toList_some, herase]
    refine ⟨rfl, ?_, n', by simpa using hfeed.fed, ?_⟩
    · intro hmem
      obtain ⟨p, hp, he⟩ := List.mem_map.mp hmem
      exact (h.apart hv p hp).2.2 (he.trans hi.symm)
    · have hview := h.remove hv hfeed hrests
      rw [← hcount] at hview
      simpa [Router.countPads, Router.setPads] using hview

theorem connection_pads (hok : ∀ c, (o.native c).ok = true) (hz : arith.curves.RestAtZero) (ha : r.active = true)
    (h : PadsOk r.padView n) (i : Int) (connected : Bool) (descriptor : GamepadDescriptor) (remapped : Bool) :
    ∃ n', n.feedAll (padLog (r.handleGamepadConnection arith sink o i connected descriptor remapped).calls) = some n' ∧
      PadsOk (r.handleGamepadConnection arith sink o i connected descriptor remapped).r.padView n' := by
  unfold Router.handleGamepadConnection
  split
  · exact ⟨n, rfl, h⟩
  split
  · exact ⟨n, rfl, h⟩
  simp only
  split
  · exact ⟨n, rfl, h⟩
  obtain ⟨hactive, hfresh, n', hfed, hpads⟩ := dropPad_pads hok hz h i
  unfold Router.dropPad Router.dropRuns at hactive hfresh hpads
  unfold Router.dropRuns at hfed
  generalize (if (r.gamepads.find? (Router.isPad i)).isSome = true then _ else r) = r' at hactive hfresh hpads ⊢
  refine ⟨n', ?_⟩
  split
  · split
    · exact ⟨by rw [padLog_padCalls]; exact hfed, hpads⟩
    · rw [nativeResult_calls, nativeResult_padView, padLog_padCalls]
      exact ⟨hfed, hpads⟩
  · split
    · exact ⟨by rw [padLog_padCalls]; exact hfed, hpads⟩
    · rename_i d hd
      obtain ⟨hpos, hfree⟩ := freeDeviceId_free hd
      split
      · exact ⟨by rw [padLog_padCalls]; exact hfed, hpads⟩
      have hadd := hpads.add (hactive.trans ha) hfresh hfree (by omega) descriptor
      split
      · exact ⟨by rw [padLog_padCalls]; exact hfed, hadd⟩
      · rw [nativeResult_calls, nativeResult_padView, padLog_padCalls]
        exact ⟨hfed, hadd⟩

theorem putPad_pads (h : PadsOk r.padView n) (hfocused : r.focused = true) {i : Int} {pad : ActiveGamepad}
    (hfind : r.gamepads.find? (Router.isPad i) = some pad) {run : PadRun} (hi : run.pad.instanceId = pad.instanceId)
    (hd : run.pad.deviceId = pad.deviceId) {n' : NativePads} {calls : List GamepadCall}
    (hf : Feeds n pad.deviceId calls n') (ha : PadAgrees n' run.pad)
    (hdelta : run.connected = (if run.pad.connected then 1 else 0) - (if pad.connected then 1 else 0)) :
    PadsOk (r.putPad run).padView n' := by
  obtain ⟨pre, post, hv, hp, hpre⟩ := find_pad hfind
  have hmodify : modifyFirst (Router.isPad run.pad.instanceId) (fun _ => run.pad) r.gamepads = pre ++ run.pad :: post := by
    rw [hi, hp, hv]
    exact modifyFirst_pad hp hpre
  have hview := h.update hv hfocused hi hd hf ha hdelta
  simpa [Router.putPad, Router.countPads, hmodify] using hview

theorem padButton_pads (hok : ∀ c, (o.native c).ok = true) (h : PadsOk r.padView n) (i : Int) (b : UInt8) (p : Bool) :
    ∃ n', n.feedAll (padLog (r.handleGamepadButton sink o i b p).calls) = some n' ∧
      PadsOk (r.handleGamepadButton sink o i b p).r.padView n' := by
  unfold Router.handleGamepadButton
  split
  · rename_i pad _ hfind
    have hagree : PadAgrees n pad := h.agrees pad (List.mem_of_find?_eq_some hfind)
    simp only
    split
    · exact ⟨n, rfl, h⟩
    rename_i hfocused
    split
    · exact ⟨n, rfl, h⟩
    rename_i hkey
    split
    · exact ⟨n, rfl, h⟩
    rename_i hpressed
    have hb : b ∈ kButtons := by
      apply mem_kButtons
      by_contra hneg
      simp [show mapSdlGamepadButtonToAndroid b < 0 by omega] at hkey
    have hcall := padStatus_ok hok
    obtain ⟨hs, hp, hcount, m, hfeed, hm⟩ := connect_feeds hcall hagree
    obtain ⟨hpress, hm'⟩ := @PadAgrees.button _ _ hm rfl _ hb p (by simpa using hpressed)
    simp only [hs, hp, hcall, Bool.not_true, Bool.false_eq_true, if_false, if_true]
    rw [nativeResult_calls, nativeResult_padView, padLog_padCalls]
    refine ⟨_, (hfeed.append hpress).fed, ?_⟩
    refine putPad_pads h (by simpa using hfocused) hfind rfl rfl (hfeed.append hpress) hm' ?_
    show (pad.connect (Router.padStatus o)).connected = _
    rw [hcount, connected_count]
    rfl
  · exact ⟨n, rfl, h⟩

theorem padAxis_pads (hok : ∀ c, (o.native c).ok = true) (h : PadsOk r.padView n) (i : Int) (x : UInt8) (value : Int) :
    ∃ n', n.feedAll (padLog (r.handleGamepadAxis arith sink o i x value).calls) = some n' ∧
      PadsOk (r.handleGamepadAxis arith sink o i x value).r.padView n' := by
  unfold Router.handleGamepadAxis
  split
  · rename_i pad _ hfind
    have hagree : PadAgrees n pad := h.agrees pad (List.mem_of_find?_eq_some hfind)
    simp only
    split
    · exact ⟨n, rfl, h⟩
    rename_i hfocused
    split
    · exact ⟨n, rfl, h⟩
    rename_i haxis
    have h6 : x.toNat < 6 := by
      simp only [Bool.or_eq_true, decide_eq_true_eq, not_or] at haxis
      exact not_le.mp haxis.1
    have hraw : PadAgrees n { pad with rawAxes := pad.rawAxes.set x.toNat value } :=
      ⟨hagree.connected, hagree.keys, hagree.otherKeys, hagree.axes, hagree.otherAxes, hagree.idle, hagree.sent,
        by simp [hagree.raw]⟩
    have hrun := @dispatchAxes_run arith.curves _ _ _ (padStatus_ok hok) hraw _ h6
    obtain ⟨n', hfeed, hn'⟩ := hrun.feeds
    have hput : PadsOk (r.putPad (({ pad with rawAxes := pad.rawAxes.set x.toNat value } : ActiveGamepad).dispatchAxes
        arith.curves (Router.padStatus o) x.toNat).1).padView n' :=
      putPad_pads h (by simpa using hfocused) hfind (by rw [hrun.kept]) (by rw [hrun.kept]) hfeed hn' hrun.counted
    refine ⟨n', ?_⟩
    split
    · rw [padLog_padCalls]
      exact ⟨hfeed.fed, hput⟩
    · rw [nativeResult_calls, nativeResult_padView, padLog_padCalls]
      exact ⟨hfeed.fed, hput⟩
  · exact ⟨n, rfl, h⟩

/-! ## Focus loss and deactivation -/

theorem release_pads (hok : ∀ c, (o.native c).ok = true) (hz : arith.curves.RestAtZero) (h : PadsOk r.padView n) :
    ∃ n', n.feedAll (padLog (r.releasePressedInputs arith sink o).2.1) = some n' ∧
      PadsOk { (r.releasePressedInputs arith sink o).1.padView with focused := false } n' ∧
      (r.releasePressedInputs arith sink o).1.active = r.active := by
  have hrel : ∀ n pad, PadAgrees n pad → ∃ n', Feeds n pad.deviceId
      (pad.release arith.curves (Router.padStatus o)).calls n' ∧ PadAgrees n' pad.rested := by
    intro n pad ha
    obtain ⟨-, -, -, hfeeds⟩ := release_feeds (padStatus_ok hok) hz ha
    exact hfeeds
  obtain ⟨n', hfed, hrested, hrest⟩ := feeds_all hrel (fun _ _ pad hq hu => PadAgrees.frame hq hu) r.gamepads h.devices h.agrees
  have hmap : (r.gamepads.map (·.release arith.curves (Router.padStatus o))).map (·.pad) = r.gamepads.map (·.rested) := by
    rw [List.map_map]
    refine List.map_congr_left fun pad hpad => ?_
    exact (release_feeds (padStatus_ok hok) hz (h.agrees pad hpad)).2.1
  have hsum : ((r.gamepads.map (·.release arith.curves (Router.padStatus o))).map PadRun.connected).sum = 0 := by
    rw [sum_connected (c := 0) r.gamepads, Int.zero_mul]
    intro pad hpad
    rw [ite_self]
    exact (release_feeds (padStatus_ok hok) hz (h.agrees pad hpad)).2.2.1
  have hview : (r.releasePressedInputs arith sink o).1.padView = { r.padView with gamepads := r.gamepads.map (·.rested) } := by
    unfold Router.releasePressedInputs Router.padView Router.countPads
    simp only [hmap, hsum, Int.add_zero]
  refine ⟨n', ?_, ?_, rfl⟩
  · rw [release_calls, padLog_append, padLog_padCalls, releases_elsewhere, List.append_nil]
    exact hfed
  · rw [hview]
    exact h.releaseAll hrested hrest

theorem focus_pads (hok : ∀ c, (o.native c).ok = true) (hz : arith.curves.RestAtZero) (hactive : r.active = true)
    (h : PadsOk r.padView n) (focused : Bool) :
    ∃ n', n.feedAll (padLog (r.handleFocus arith sink o focused).calls) = some n' ∧
      PadsOk (r.handleFocus arith sink o focused).r.padView n' := by
  unfold Router.handleFocus
  by_cases hl : (!focused && r.focused) = true
  · rw [if_pos hl]
    obtain ⟨n', hfed, hpads, -⟩ := @release_pads _ sink _ _ _ hok hz h
    have hview : ({ ((r.releasePressedInputs arith sink o).1.endText sink o).1 with focused := false } : Router).padView =
        { (r.releasePressedInputs arith sink o).1.padView with focused := false } := by
      have ht := @endText_padView sink o (r.releasePressedInputs arith sink o).1
      rw [← ht]
      rfl
    have hcalls : n.feedAll (padLog ((r.releasePressedInputs arith sink o).2.1 ++
        ((r.releasePressedInputs arith sink o).1.endText sink o).2.1)) = some n' := by
      rw [padLog_append, endText_elsewhere, List.append_nil]
      exact hfed
    rw [← hview] at hpads
    refine ⟨n', ?_⟩
    simp only
    split
    · exact ⟨hcalls, hpads⟩
    · exact ⟨hcalls, hpads⟩
  · rw [if_neg hl]
    refine ⟨n, rfl, h.instances, h.devices, h.positive, h.detected, h.connected, h.agrees, h.others, ?_, ?_⟩
    · intro hf
      have hf : focused = false := hf
      have hunfocused : r.focused = false := by simpa [hf] using hl
      exact h.unfocused hunfocused
    · intro hf
      exact absurd (hactive.symm.trans hf) (by decide)

theorem deactivate_pads (hok : ∀ c, (o.native c).ok = true) (hz : arith.curves.RestAtZero) (h : PadsOk r.padView n) :
    ∃ n', n.feedAll (padLog (r.deactivate arith sink o).2.1) = some n' ∧ PadsOk (r.deactivate arith sink o).1.padView n' := by
  unfold Router.deactivate
  by_cases hactive : r.active = true
  swap
  · rw [if_pos (by simp [hactive])]
    exact ⟨n, rfl, h⟩
  rw [if_neg (by simp [hactive])]
  obtain ⟨m, hfed, hpads, -⟩ := @release_pads _ sink _ _ _ hok hz h
  generalize r.releasePressedInputs arith sink o = released at hfed hpads
  have hdis : ∀ n pad, PadAgrees n pad → ∃ n', Feeds n pad.deviceId
      (pad.disconnect arith.curves (Router.padStatus o)).calls n' ∧ DeviceRests n' pad.deviceId := by
    intro n pad ha
    exact (disconnect_feeds (padStatus_ok hok) hz ha).2
  obtain ⟨n', hfed', hrests, hrest⟩ :=
    feeds_all hdis (fun _ _ pad hq hu => DeviceRests.frame hq hu) released.1.gamepads hpads.devices hpads.agrees
  have hsum : ((released.1.gamepads.map (·.disconnect arith.curves (Router.padStatus o))).map PadRun.connected).sum =
      -linkedPads released.1.gamepads := by
    rw [sum_connected (c := -1) released.1.gamepads]
    · omega
    · intro pad hpad
      exact (disconnect_feeds (padStatus_ok hok) hz (hpads.agrees pad hpad)).1
  have hclear := hpads.clear hrests hrest
  have hconnected : released.1.counters.connectedGamepads = linkedPads released.1.gamepads := hpads.connected
  have hview : ((released.1.countPads (released.1.gamepads.map (·.disconnect arith.curves (Router.padStatus o)))).setPads
      []).padView = { released.1.padView with gamepads := [], detected := 0, connected := 0 } := by
    unfold Router.setPads Router.countPads Router.padView
    simp only [hsum, hconnected, Int.add_right_neg, List.length_nil]
  have ht := (@endText_padView sink o _).trans hview
  simp only
  refine ⟨n', ?_, ?_⟩
  · rw [padLog_append, padLog_append, endText_elsewhere, List.append_nil, padLog_padCalls,
      NativePads.feedAll_append _ _ hfed]
    exact hfed'
  · unfold Router.padView at ht ⊢
    simp only [PadView.mk.injEq] at ht ⊢
    obtain ⟨-, -, h1, h2, h3⟩ := ht
    rw [h1, h2, h3]
    exact hclear

theorem event_pads (hok : ∀ c, (o.native c).ok = true) (hz : arith.curves.RestAtZero) (h : PadsOk r.padView n)
    (e : PlatformEvent) :
    ∃ n', n.feedAll (padLog (r.handleEvent u arith sink o e).calls) = some n' ∧
      PadsOk (r.handleEvent u arith sink o e).r.padView n' := by
  unfold Router.handleEvent
  by_cases hactive : r.active = true
  swap
  · rw [if_pos (by simp [hactive])]
    exact ⟨n, rfl, h⟩
  rw [if_neg (by simp [hactive])]
  have hkeeps : ∀ handled, KeepsPads r handled →
      ∃ n', n.feedAll (padLog handled.calls) = some n' ∧ PadsOk handled.r.padView n' := by
    intro handled hk
    refine ⟨n, by rw [padLog_elsewhere hk.calls]; rfl, ?_⟩
    rw [hk.view]
    exact ⟨h.instances, h.devices, h.positive, h.detected, h.connected, h.agrees, h.others,
      fun hf => absurd hf (by simp), fun hf => absurd (hactive.symm.trans hf) (by decide)⟩
  cases e with
  | resized viewport =>
    simp only
    split
    · exact ⟨n, rfl, h⟩
    · exact ⟨n, rfl, h⟩
  | focus focused => exact focus_pads hok hz hactive h focused
  | gamepadConnection i c d m => exact connection_pads hok hz hactive h i c d m
  | gamepadButton i b p => exact padButton_pads hok h i b p
  | gamepadAxis i x value => exact padAxis_pads hok h i x value
  | quit => exact ⟨n, rfl, h⟩
  | mouseMotion x y dx dy m => exact hkeeps _ (motion_keeps x y dx dy m)
  | mouseButton p b x y m => exact hkeeps _ (mouseButton_keeps p b x y m)
  | mouseWheel dy x y m => exact hkeeps _ (wheel_keeps dy x y m)
  | touch t => exact hkeeps _ (touch_keeps t)
  | key k => exact hkeeps _ (key_keeps k)
  | textInput t => exact hkeeps _ (text_keeps _)
  | textEditing t => exact hkeeps _ (text_keeps _)

theorem step_pads (hz : arith.curves.RestAtZero) (h : PadsOk r.padView n) {act : Act}
    (hok : ∀ c, (act.outcome.native c).ok = true) :
    ∃ n', n.feedAll (padLog (stepRouter u arith sink r act).2) = some n' ∧
      PadsOk (stepRouter u arith sink r act).1.padView n' := by
  have hedit : ∀ t : Editor × List TextCall × Status,
      ∃ n', n.feedAll (padLog (r.edited t).2) = some n' ∧ PadsOk (r.edited t).1.padView n' := by
    intro t
    refine ⟨n, ?_, h⟩
    rw [padLog_elsewhere (by simp [Router.edited])]
    rfl
  obtain ⟨m, o⟩ := act
  cases m with
  | activate viewport focused =>
    simp only [stepRouter, Router.activate]
    split
    · exact ⟨n, rfl, h⟩
    rename_i hactive
    split
    · exact ⟨n, rfl, h⟩
    · -- an inactive router has no pads, so the fresh one has the same devices at rest
      have hinactive : r.active = false := by simpa using hactive
      have hnone : r.gamepads = [] := (h.inactive hinactive).1
      refine ⟨n, rfl, by simp, by simp, by simp, rfl, rfl,
        by simp, fun d _ => h.others d (by simp [hnone]), by simp,
        by simp⟩
  | deactivate => exact deactivate_pads hok hz h
  | event e => exact event_pads hok hz h e
  | beginText session text =>
    simp only [stepRouter]
    split
    · exact ⟨n, rfl, h⟩
    · exact hedit _
  | endText handle generation notify => exact hedit _
  | replaceText generation text => exact hedit _
  | updateText generation properties => exact hedit _

end Events

/-! ## Every run -/

/-- No key of the device is down and the last value of each of its axes is zero. -/
def Released (log : List GamepadCall) (d : Int) : Prop :=
  (∀ k, lastOf (keyStream d k log) = false) ∧ ∀ a, AtRest (lastAxis d a log)

structure PadDiscipline (r : Router) (log : List GamepadCall) : Prop where
  instances : (r.gamepads.map (·.instanceId)).Nodup
  devices : (r.gamepads.map (·.deviceId)).Nodup
  positive : ∀ pad ∈ r.gamepads, 0 < pad.deviceId
  detected : r.counters.detectedGamepads = r.gamepads.length
  connected : r.counters.connectedGamepads = ((r.gamepads.filter fun pad => lastOf (linkStream pad.deviceId log)).length : Int)
  /-- Only known pads are connected. -/
  known : ∀ d, lastOf (linkStream d log) = true → d ∈ r.gamepads.map (·.deviceId)
  keys : ∀ d k, Toggles (keyStream d k log)
  links : ∀ d, Toggles (linkStream d log)
  /-- Buttons and axes only while the device is connected. -/
  driven : Always (fun before call => ∀ d ∈ call.drives, lastOf (linkStream d before) = true) log
  released : ∀ d, r.active = false ∨ r.focused = false ∨ lastOf (linkStream d log) = false → Released log d

theorem PadsOk.discipline {r : Router} {n : NativePads} (h : PadsOk r.padView n) {log : List GamepadCall}
    (hlog : PadRecord log n) : PadDiscipline r log where
  instances := h.instances
  devices := h.devices
  positive := h.positive
  detected := h.detected
  connected := by
    have hfilter : r.gamepads.filter (fun pad => lastOf (linkStream pad.deviceId log)) = r.gamepads.filter (·.connected) := by
      refine List.filter_congr fun pad hpad => ?_
      rw [(hlog.links _).2, (h.agrees pad hpad).connected]
    rw [hfilter]
    exact h.connected
  known := by
    intro d hd
    by_contra hnot
    rw [(hlog.links d).2, (h.others d hnot).connected] at hd
    cases hd
  keys := fun d k => (hlog.keys d k).1
  links := fun d => (hlog.links d).1
  driven := hlog.driven
  released := by
    intro d hd
    have hrests : (∀ k, n.pressed d k = false) ∧ ∀ a, AtRest (n.axes d a) := by
      by_cases hpad : d ∈ r.gamepads.map (·.deviceId)
      · obtain ⟨pad, hmem, rfl⟩ := List.mem_map.mp hpad
        refine (h.agrees pad hmem).rests ?_
        rcases hd with hd | hd | hd
        · exact h.unfocused (h.inactive hd).2 pad hmem
        · exact h.unfocused hd pad hmem
        · refine (h.agrees pad hmem).idle ?_
          rw [← (h.agrees pad hmem).connected, ← (hlog.links _).2]
          exact hd
      · exact ⟨(h.others d hpad).keys, (h.others d hpad).axes⟩
    exact ⟨fun k => by rw [(hlog.keys d k).2]; exact hrests.1 k, fun a => by rw [hlog.axes d a]; exact hrests.2 a⟩

theorem padsOk_nil : PadsOk (Router.padView {}) {} where
  instances := by simp
  devices := by simp
  positive := by simp
  detected := rfl
  connected := rfl
  agrees := by simp
  others := fun _ _ => ⟨rfl, fun _ => rfl, fun _ => ⟨rest_zero, rest_zero, rest_zero⟩⟩
  unfocused := by simp
  inactive := fun _ => ⟨rfl, rfl⟩

variable (u : Utf8proc) (arith : Arith) (sink : Sink)

theorem run_pads (hz : arith.curves.RestAtZero) (acts : List Act) (hok : ∀ act ∈ acts, ∀ c, (act.outcome.native c).ok = true) :
    ∃ n, NativePads.feedAll {} (padLog ((router u arith sink).run {} acts).2) = some n ∧
      PadsOk ((router u arith sink).run {} acts).1.padView n := by
  refine (router u arith sink).run_induct_guarded (C := fun _ _ act => ∀ c, (act.outcome.native c).ok = true)
    (I := fun r t => ∃ n, NativePads.feedAll {} (padLog t) = some n ∧ PadsOk r.padView n) ?_ ?_ acts ?_
  · exact ⟨{}, rfl, padsOk_nil⟩
  · intro r t act hex hact
    obtain ⟨n, hfed, hpads⟩ := hex
    obtain ⟨n', hfed', hpads'⟩ := @step_pads u _ sink _ _ hz hpads _ hact
    refine ⟨n', ?_, hpads'⟩
    rw [padLog_append, NativePads.feedAll_append _ _ hfed]
    exact hfed'
  · intro pre act post hsplit
    exact hok act (by simp [hsplit])

theorem gamepad_discipline (hz : arith.curves.RestAtZero) (acts : List Act)
    (hok : ∀ act ∈ acts, ∀ c, (act.outcome.native c).ok = true) :
    PadDiscipline ((router u arith sink).run {} acts).1 (padLog ((router u arith sink).run {} acts).2) := by
  obtain ⟨n, hfed, hpads⟩ := run_pads u arith sink hz acts hok
  exact hpads.discipline (padRecord_of_fed hfed)

/-- Curves with full deflection everywhere but at rest. -/
def fullCurves : GamepadCurves where
  stick x y := (if x = 0 then F32.zero else F32.one, if y = 0 then F32.zero else F32.one)
  trigger x := if x = 0 then F32.zero else F32.one

theorem fullCurves_rest : fullCurves.RestAtZero := ⟨rest_zero, rest_zero, rest_zero⟩

/-- A pad is detected, presses its South button, pushes its left stick and is remapped; it
presses again before the window loses its focus. -/
def demoPads : List Act :=
  [⟨.activate demoViewport true, {}⟩,
    ⟨.event (.gamepadConnection 5 true { buttons := 1, axes := 3 } false), {}⟩,
    ⟨.event (.gamepadButton 5 0 true), {}⟩, ⟨.event (.gamepadAxis 5 0 200), {}⟩,
    ⟨.event (.gamepadConnection 5 true { buttons := 1, axes := 3 } true), {}⟩,
    ⟨.event (.gamepadButton 5 0 true), {}⟩, ⟨.event (.focus false), {}⟩]

theorem gamepad_discipline_demo :
    PadDiscipline ((router plainUtf8proc { plainArith with curves := fullCurves } {}).run {} demoPads).1
        (padLog ((router plainUtf8proc { plainArith with curves := fullCurves } {}).run {} demoPads).2) ∧
      linkStream 1 (padLog ((router plainUtf8proc { plainArith with curves := fullCurves } {}).run {} demoPads).2) =
        [true, false, true] ∧
      keyStream 1 96 (padLog ((router plainUtf8proc { plainArith with curves := fullCurves } {}).run {} demoPads).2) =
        [true, false, true, false] ∧
      axisStream 1 1 (padLog ((router plainUtf8proc { plainArith with curves := fullCurves } {}).run {} demoPads).2) =
        [(F32.one, F32.zero, F32.zero), (F32.zero, F32.zero, F32.zero)] :=
  ⟨gamepad_discipline plainUtf8proc { plainArith with curves := fullCurves } {} fullCurves_rest demoPads
    (by simp [demoPads, Status.ok, Status.okStatus]), by decide +kernel, by decide +kernel, by decide +kernel⟩

end Mocktail.Input

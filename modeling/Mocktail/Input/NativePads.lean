/-
  Mocktail.Input.NativePads — the gamepads as the native side sees them.

  The abstract model is a table of devices: which are connected, which of their keys are
  down and the last value of each of their axes. `feed` takes one call and refuses the calls
  that make no sense there: a second connection, a disconnection or an input of a device that
  is not connected, a press of a key that is down, a release of one that is up. Nothing is
  reset at a disconnection, so a refused call is a call that breaks the alternation.

  A log that is fed to the end alternates, drives connected devices only and leaves the
  table behind as its last values (`padRecord_of_fed`).
-/

import Mocktail.Lib.Trace
import Mocktail.Input.Gamepad

namespace Mocktail.Input

open Mocktail.Lib

/-! ## The table and its calls -/

abbrev AxisValue := F32 × F32 × F32

structure NativePads where
  connected : Int → Bool := fun _ => false
  pressed : Int → Int → Bool := fun _ _ => false
  axes : Int → Int → AxisValue := fun _ _ => (F32.zero, F32.zero, F32.zero)

namespace NativePads

def link (n : NativePads) (d : Int) (up : Bool) : NativePads :=
  { n with connected := fun d' => if d' = d then up else n.connected d' }

def press (n : NativePads) (d k : Int) (down : Bool) : NativePads :=
  { n with pressed := fun d' k' => if d' = d ∧ k' = k then down else n.pressed d' k' }

def move (n : NativePads) (d a : Int) (v : AxisValue) : NativePads :=
  { n with axes := fun d' a' => if d' = d ∧ a' = a then v else n.axes d' a' }

def feed (n : NativePads) : GamepadCall → Option NativePads
  | .supportedKey .. => some n
  | .supportedMotion .. => some n
  | .connect d _ => if n.connected d then none else some (n.link d true)
  | .disconnect d => if n.connected d then some (n.link d false) else none
  | .button d k p => if n.connected d ∧ n.pressed d k ≠ p then some (n.press d k p) else none
  | .axis d a x y z => if n.connected d then some (n.move d a (x, y, z)) else none

def feedAll (n : NativePads) : List GamepadCall → Option NativePads
  | [] => some n
  | call :: calls => (n.feed call).bind fun n => n.feedAll calls

variable {n n' n'' : NativePads}

theorem feedAll_append (calls more : List GamepadCall) (h : n.feedAll calls = some n') :
    n.feedAll (calls ++ more) = n'.feedAll more := by
  induction calls generalizing n with
  | nil => cases h; rfl
  | cons call calls ih =>
    simp only [feedAll, List.cons_append] at h ⊢
    cases hf : n.feed call with
    | none => rw [hf] at h; cases h
    | some m =>
      rw [hf] at h
      exact ih h

theorem feedAll_snoc {calls : List GamepadCall} {call : GamepadCall} (h : n.feedAll (calls ++ [call]) = some n'') :
    ∃ n', n.feedAll calls = some n' ∧ n'.feed call = some n'' := by
  induction calls generalizing n with
  | nil =>
    refine ⟨n, rfl, ?_⟩
    simp only [List.nil_append, feedAll] at h
    cases hf : n.feed call with
    | none => rw [hf] at h; cases h
    | some m => rw [hf] at h; exact h
  | cons c calls ih =>
    simp only [feedAll, List.cons_append] at h ⊢
    cases hf : n.feed c with
    | none => rw [hf] at h; cases h
    | some m =>
      rw [hf] at h
      exact ih h

end NativePads

/-! ## Streams -/

/-- The value before the next one; false at the start. -/
def lastOf (bs : List Bool) : Bool := bs.getLastD false

/-- Each value differs from the one before it, the first one from false. -/
def Toggles (bs : List Bool) : Prop := Always (fun before b => b ≠ lastOf before) bs

@[simp] theorem lastOf_snoc (bs : List Bool) (b : Bool) : lastOf (bs ++ [b]) = b := by simp [lastOf]

/-- The presses (true) and releases (false) of one key of a device. -/
def keyStream (d k : Int) (log : List GamepadCall) : List Bool :=
  log.filterMap fun
    | .button d' k' p => if d' = d ∧ k' = k then some p else none
    | _ => none

/-- The connections (true) and disconnections (false) of a device. -/
def linkStream (d : Int) (log : List GamepadCall) : List Bool :=
  log.filterMap fun
    | .connect d' _ => if d' = d then some true else none
    | .disconnect d' => if d' = d then some false else none
    | _ => none

/-- The values sent on one axis of a device. -/
def axisStream (d a : Int) (log : List GamepadCall) : List AxisValue :=
  log.filterMap fun
    | .axis d' a' x y z => if d' = d ∧ a' = a then some (x, y, z) else none
    | _ => none

/-- The device a call is an input of. -/
def GamepadCall.drives : GamepadCall → Option Int
  | .button d _ _ => some d
  | .axis d _ _ _ _ => some d
  | _ => none

/-- The last value sent on an axis; a device starts at zero. -/
def lastAxis (d a : Int) (log : List GamepadCall) : AxisValue :=
  (axisStream d a log).getLastD (F32.zero, F32.zero, F32.zero)

/-- What a log says of a table it was fed to. -/
structure PadRecord (log : List GamepadCall) (n : NativePads) : Prop where
  keys : ∀ d k, Toggles (keyStream d k log) ∧ lastOf (keyStream d k log) = n.pressed d k
  links : ∀ d, Toggles (linkStream d log) ∧ lastOf (linkStream d log) = n.connected d
  axes : ∀ d a, lastAxis d a log = n.axes d a
  driven : Always (fun before call => ∀ d ∈ call.drives, lastOf (linkStream d before) = true) log

theorem toggles_snoc {bs : List Bool} {b : Bool} : Toggles (bs ++ [b]) ↔ Toggles bs ∧ b ≠ lastOf bs := always_snoc

section PadRecord

variable {log : List GamepadCall} {n n' : NativePads}

/-- A call that is no input and no link of any device. -/
def GamepadCall.announces : GamepadCall → Bool
  | .supportedKey .. => true
  | .supportedMotion .. => true
  | _ => false

theorem padRecord_announce (h : PadRecord log n) {call : GamepadCall} (hc : call.announces = true) :
    PadRecord (log ++ [call]) n := by
  have hk : ∀ d k, keyStream d k (log ++ [call]) = keyStream d k log := by
    intro d k
    cases call <;> simp_all [keyStream, GamepadCall.announces]
  have hl : ∀ d, linkStream d (log ++ [call]) = linkStream d log := by
    intro d
    cases call <;> simp_all [linkStream, GamepadCall.announces]
  have ha : ∀ d a, axisStream d a (log ++ [call]) = axisStream d a log := by
    intro d a
    cases call <;> simp_all [axisStream, GamepadCall.announces]
  refine ⟨fun d k => by rw [hk]; exact h.keys d k, fun d => by rw [hl]; exact h.links d, fun d a => ?_, ?_⟩
  · unfold lastAxis
    rw [ha]
    exact h.axes d a
  · refine always_snoc.mpr ⟨h.driven, fun d hd => ?_⟩
    cases call <;> simp_all [GamepadCall.drives, GamepadCall.announces]

theorem padRecord_link (h : PadRecord log n) {d : Int} {up : Bool} (hn : n.connected d ≠ up) {call : GamepadCall}
    (hc : (∃ type, call = .connect d type ∧ up = true) ∨ (call = .disconnect d ∧ up = false)) :
    PadRecord (log ++ [call]) (n.link d up) := by
  have hk : ∀ e k, keyStream e k (log ++ [call]) = keyStream e k log := by
    intro e k
    rcases hc with ⟨type, rfl, -⟩ | ⟨rfl, -⟩ <;> simp [keyStream]
  have ha : ∀ e a, axisStream e a (log ++ [call]) = axisStream e a log := by
    intro e a
    rcases hc with ⟨type, rfl, -⟩ | ⟨rfl, -⟩ <;> simp [axisStream]
  have hl : linkStream d (log ++ [call]) = linkStream d log ++ [up] := by
    rcases hc with ⟨type, rfl, rfl⟩ | ⟨rfl, rfl⟩ <;> simp [linkStream]
  have hlo : ∀ e, e ≠ d → linkStream e (log ++ [call]) = linkStream e log := by
    intro e he
    rcases hc with ⟨type, rfl, -⟩ | ⟨rfl, -⟩ <;> simp [linkStream, Ne.symm he]
  refine ⟨fun e k => by rw [hk]; exact h.keys e k, fun e => ?_, fun e a => ?_, ?_⟩
  · by_cases he : e = d
    · subst he
      rw [hl, toggles_snoc, lastOf_snoc, (h.links e).2]
      exact ⟨⟨(h.links e).1, Ne.symm hn⟩, by simp [NativePads.link]⟩
    · rw [hlo e he]
      simpa [NativePads.link, he] using h.links e
  · unfold lastAxis
    rw [ha]
    exact h.axes e a
  · refine always_snoc.mpr ⟨h.driven, fun e he => ?_⟩
    rcases hc with ⟨type, rfl, -⟩ | ⟨rfl, -⟩ <;> simp [GamepadCall.drives] at he

theorem padRecord_press (h : PadRecord log n) {d k : Int} {p : Bool} (hd : n.connected d = true)
    (hp : n.pressed d k ≠ p) : PadRecord (log ++ [.button d k p]) (n.press d k p) := by
  have hk : keyStream d k (log ++ [GamepadCall.button d k p]) = keyStream d k log ++ [p] := by simp [keyStream]
  have hko : ∀ e j, ¬ (e = d ∧ j = k) → keyStream e j (log ++ [GamepadCall.button d k p]) = keyStream e j log := by
    intro e j hne
    have hne : ¬ (d = e ∧ k = j) := fun he => hne ⟨he.1.symm, he.2.symm⟩
    simp [keyStream, hne]
  have hl : ∀ e, linkStream e (log ++ [GamepadCall.button d k p]) = linkStream e log := by simp [linkStream]
  have ha : ∀ e a, axisStream e a (log ++ [GamepadCall.button d k p]) = axisStream e a log := by simp [axisStream]
  refine ⟨fun e j => ?_, fun e => by rw [hl]; exact h.links e, fun e a => ?_, ?_⟩
  · by_cases he : e = d ∧ j = k
    · obtain ⟨rfl, rfl⟩ := he
      rw [hk, toggles_snoc, lastOf_snoc, (h.keys e j).2]
      exact ⟨⟨(h.keys e j).1, Ne.symm hp⟩, by simp [NativePads.press]⟩
    · rw [hko e j he]
      simpa [NativePads.press, he] using h.keys e j
  · unfold lastAxis
    rw [ha]
    exact h.axes e a
  · refine always_snoc.mpr ⟨h.driven, fun e he => ?_⟩
    obtain rfl : d = e := by simpa [GamepadCall.drives] using he
    rw [(h.links d).2, hd]

theorem padRecord_move (h : PadRecord log n) {d a : Int} (x y z : F32) (hd : n.connected d = true) :
    PadRecord (log ++ [.axis d a x y z]) (n.move d a (x, y, z)) := by
  have hk : ∀ e k, keyStream e k (log ++ [GamepadCall.axis d a x y z]) = keyStream e k log := by simp [keyStream]
  have hl : ∀ e, linkStream e (log ++ [GamepadCall.axis d a x y z]) = linkStream e log := by simp [linkStream]
  have ha : axisStream d a (log ++ [GamepadCall.axis d a x y z]) = axisStream d a log ++ [(x, y, z)] := by
    simp [axisStream]
  have hao : ∀ e b, ¬ (e = d ∧ b = a) → axisStream e b (log ++ [GamepadCall.axis d a x y z]) = axisStream e b log := by
    intro e b hne
    have hne : ¬ (d = e ∧ a = b) := fun he => hne ⟨he.1.symm, he.2.symm⟩
    simp [axisStream, hne]
  refine ⟨fun e k => by rw [hk]; exact h.keys e k, fun e => by rw [hl]; exact h.links e, fun e b => ?_, ?_⟩
  · unfold lastAxis
    by_cases he : e = d ∧ b = a
    · obtain ⟨rfl, rfl⟩ := he
      rw [ha]
      simp [NativePads.move]
    · rw [hao e b he]
      simp only [NativePads.move, if_neg he]
      exact h.axes e b
  · refine always_snoc.mpr ⟨h.driven, fun e he => ?_⟩
    obtain rfl : d = e := by simpa [GamepadCall.drives] using he
    rw [(h.links d).2, hd]

theorem padRecord_feed (h : PadRecord log n) {call : GamepadCall} (hf : n.feed call = some n') :
    PadRecord (log ++ [call]) n' := by
  cases call with
  | supportedKey d k a type | supportedMotion d a dir av type => cases hf; exact padRecord_announce h rfl
  | connect d type =>
    simp only [NativePads.feed] at hf
    split at hf
    · cases hf
    · rename_i hc
      cases hf
      exact padRecord_link h hc (Or.inl ⟨type, rfl, rfl⟩)
  | disconnect d =>
    simp only [NativePads.feed] at hf
    split at hf
    · rename_i hc
      cases hf
      exact padRecord_link h (by simp [hc]) (Or.inr ⟨rfl, rfl⟩)
    · cases hf
  | button d k p =>
    simp only [NativePads.feed] at hf
    split at hf
    · rename_i hc
      cases hf
      exact padRecord_press h hc.1 hc.2
    · cases hf
  | axis d a x y z =>
    simp only [NativePads.feed] at hf
    split at hf
    · rename_i hc
      cases hf
      exact padRecord_move h x y z hc
    · cases hf

theorem padRecord_of_fed (h : NativePads.feedAll {} log = some n) : PadRecord log n := by
  induction log using List.reverseRecOn generalizing n with
  | nil =>
    cases h
    exact ⟨fun _ _ => ⟨always_nil _, rfl⟩, fun _ => ⟨always_nil _, rfl⟩, fun _ _ => rfl, always_nil _⟩
  | append_singleton log call ih =>
    obtain ⟨m, hm, hf⟩ := NativePads.feedAll_snoc h
    exact padRecord_feed (ih hm) hf

end PadRecord

end Mocktail.Input

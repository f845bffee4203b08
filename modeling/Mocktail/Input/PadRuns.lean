/-
  Mocktail.Input.PadRuns — the functions of a pad against the native table, for a sink whose
  calls return ok.

  `PadAgrees` ties a pad of the router to its device: the connection, the keys, and the last
  value of each axis, which the pad records in `sentAxes`. Each function of the pad makes
  calls that the table takes, keeps the agreement and leaves the other devices alone
  (`connect_feeds`, `dispatchAxes_run`, `release_feeds`, `disconnect_feeds`).
-/

import Mathlib.Data.Bool.AllAny
import Mathlib.Data.List.Nodup
import Mocktail.Input.NativePads

namespace Mocktail.Input

/-! ## A pad and its device -/

/-- Equal to zero, of either sign. -/
def Rest (x : F32) : Prop := x.feq F32.zero = true

/-- Equal, or both zero. -/
def Same (x y : F32) : Prop := x = y ∨ (Rest x ∧ Rest y)

def AtRest (v : AxisValue) : Prop := Rest v.1 ∧ Rest v.2.1 ∧ Rest v.2.2

theorem rest_zero : Rest F32.zero := by
  show F32.zero.feq F32.zero = true
  decide

theorem Same.rest {x y : F32} (h : Same x y) (hy : Rest y) : Rest x := by
  rcases h with rfl | h
  · exact hy
  · exact h.1

/-- Not connected, no key down, every axis at zero. -/
structure DeviceRests (n : NativePads) (d : Int) : Prop where
  connected : n.connected d = false
  keys : ∀ k, n.pressed d k = false
  axes : ∀ a, AtRest (n.axes d a)

/-- The native code of the `i`-th axis. -/
def axisCode (i : Nat) : Int := kAndroidAxes.getD i 0

/-- The value of a device's axis against the pad's record of what was sent. -/
def AxisAgrees (pad : ActiveGamepad) (i : Nat) (v : AxisValue) : Prop :=
  if hasBit pad.descriptor.axes i.toUInt8 then
    if i < 4 then
      Same v.1 (pad.sentAxes.getD (i / 2 * 2) F32.zero) ∧ Same v.2.1 (pad.sentAxes.getD (i / 2 * 2 + 1) F32.zero) ∧
        Rest v.2.2
    else Rest v.1 ∧ Rest v.2.1 ∧ Same v.2.2 (pad.sentAxes.getD i F32.zero)
  else AtRest v

/-- Nothing pressed and nothing sent. -/
def ActiveGamepad.Idle (pad : ActiveGamepad) : Prop :=
  pad.pressedButtons = 0 ∧ pad.sentAxes = List.replicate 6 F32.zero

structure PadAgrees (n : NativePads) (pad : ActiveGamepad) : Prop where
  connected : n.connected pad.deviceId = pad.connected
  keys : ∀ b ∈ kButtons, n.pressed pad.deviceId (mapSdlGamepadButtonToAndroid b) = hasBit pad.pressedButtons b
  otherKeys : ∀ k, (∀ b ∈ kButtons, mapSdlGamepadButtonToAndroid b ≠ k) → n.pressed pad.deviceId k = false
  axes : ∀ i < 6, AxisAgrees pad i (n.axes pad.deviceId (axisCode i))
  otherAxes : ∀ a, (∀ i < 6, axisCode i ≠ a) → AtRest (n.axes pad.deviceId a)
  /-- Input connects a pad first. -/
  idle : pad.connected = false → pad.Idle
  sent : pad.sentAxes.length = 6
  raw : pad.rawAxes.length = 6

/-- A device is as it was. -/
structure Unmoved (n n' : NativePads) (e : Int) : Prop where
  connected : n'.connected e = n.connected e
  pressed : ∀ k, n'.pressed e k = n.pressed e k
  axes : ∀ a, n'.axes e a = n.axes e a

/-- Calls that are taken and change one device only. -/
structure Feeds (n : NativePads) (d : Int) (calls : List GamepadCall) (n' : NativePads) : Prop where
  fed : n.feedAll calls = some n'
  unmoved : ∀ e ≠ d, Unmoved n n' e

section Feeds

variable {n n' n'' : NativePads} {d : Int} {calls more : List GamepadCall}

theorem Unmoved.refl (n : NativePads) (e : Int) : Unmoved n n e := ⟨rfl, fun _ => rfl, fun _ => rfl⟩

theorem Unmoved.trans {e : Int} (h : Unmoved n n' e) (h' : Unmoved n' n'' e) : Unmoved n n'' e :=
  ⟨h'.connected.trans h.connected, fun k => (h'.pressed k).trans (h.pressed k), fun a => (h'.axes a).trans (h.axes a)⟩

theorem Feeds.nil (n : NativePads) (d : Int) : Feeds n d [] n := ⟨rfl, fun e _ => Unmoved.refl n e⟩

theorem Feeds.append (h : Feeds n d calls n') (h' : Feeds n' d more n'') : Feeds n d (calls ++ more) n'' where
  fed := by rw [NativePads.feedAll_append calls more h.fed, h'.fed]
  unmoved := fun e he => (h.unmoved e he).trans (h'.unmoved e he)

theorem PadAgrees.frame {pad : ActiveGamepad} (h : PadAgrees n pad) (hu : Unmoved n n' pad.deviceId) : PadAgrees n' pad where
  connected := hu.connected.trans h.connected
  keys := fun b hb => (hu.pressed _).trans (h.keys b hb)
  otherKeys := fun k hk => (hu.pressed k).trans (h.otherKeys k hk)
  axes := fun i hi => by rw [hu.axes]; exact h.axes i hi
  otherAxes := fun a ha => by rw [hu.axes]; exact h.otherAxes a ha
  idle := h.idle
  sent := h.sent
  raw := h.raw

theorem DeviceRests.frame {e : Int} (h : DeviceRests n e) (hu : Unmoved n n' e) : DeviceRests n' e where
  connected := hu.connected.trans h.connected
  keys := fun k => (hu.pressed k).trans (h.keys k)
  axes := fun a => by rw [hu.axes]; exact h.axes a

theorem feeds_announcements (n : NativePads) (d : Int) (h : ∀ call ∈ calls, call.announces = true) :
    Feeds n d calls n := by
  refine ⟨?_, fun e _ => Unmoved.refl n e⟩
  induction calls with
  | nil => rfl
  | cons call calls ih =>
    have hc : n.feed call = some n := by
      have hannounces := h call List.mem_cons_self
      cases call <;> first | rfl | exact absurd hannounces Bool.false_ne_true
    simp only [NativePads.feedAll, hc, Option.bind_some]
    exact ih fun c hcalls => h c (by simp [hcalls])

theorem configureCalls_announce (pad : ActiveGamepad) (available : Bool) :
    ∀ call ∈ pad.configureCalls available, call.announces = true := by
  intro call hc
  simp only [ActiveGamepad.configureCalls, List.mem_append, List.mem_map, List.mem_cons, List.not_mem_nil, or_false] at hc
  rcases hc with (⟨b, -, rfl⟩ | ⟨i, -, rfl⟩) | rfl | rfl | rfl | rfl | rfl | rfl <;> rfl

theorem feeds_connect (hc : n.connected d = false) (type : Int) : Feeds n d [.connect d type] (n.link d true) where
  fed := by simp [NativePads.feedAll, NativePads.feed, hc]
  unmoved := fun e he => ⟨if_neg he, fun _ => rfl, fun _ => rfl⟩

theorem feeds_disconnect (hc : n.connected d = true) : Feeds n d [.disconnect d] (n.link d false) where
  fed := by simp [NativePads.feedAll, NativePads.feed, hc]
  unmoved := fun e he => ⟨if_neg he, fun _ => rfl, fun _ => rfl⟩

theorem feeds_button (hc : n.connected d = true) {k : Int} {p : Bool} (hp : n.pressed d k ≠ p) :
    Feeds n d [.button d k p] (n.press d k p) where
  fed := by simp [NativePads.feedAll, NativePads.feed, hc, hp]
  unmoved := fun e he => ⟨rfl, fun j => if_neg fun h => he h.1, fun _ => rfl⟩

end Feeds

/-! ## The pad's functions under a sink that succeeds -/

theorem firstErrorOf_ok {statuses : List Status} (h : ∀ s ∈ statuses, s.ok = true) : (firstErrorOf statuses).ok = true := by
  have hfold : ∀ (l : List Status) (first : Status), first.ok = true → (∀ s ∈ l, s.ok = true) →
      (l.foldl (fun first status => keepFirstError status first) first).ok = true := by
    intro l
    induction l with
    | nil => intro first hf _; exact hf
    | cons s l ih =>
      intro first hf hl
      refine ih _ ?_ fun s' hs' => hl s' (by simp [hs'])
      show (keepFirstError s first).ok = true
      unfold keepFirstError
      rw [if_pos hf]
      exact hl s (by simp)
  exact hfold statuses _ rfl h

section Pad

variable {curves : GamepadCurves} {native : GamepadCall → Status} {n : NativePads} {pad : ActiveGamepad}

theorem PadAgrees.link (h : PadAgrees n pad) : PadAgrees (n.link pad.deviceId true) { pad with connected := true } where
  connected := by simp [NativePads.link]
  keys := h.keys
  otherKeys := h.otherKeys
  axes := h.axes
  otherAxes := h.otherAxes
  idle := fun hc => by cases hc
  sent := h.sent
  raw := h.raw

theorem configure_ok (hok : ∀ c, (native c).ok = true) (available : Bool) : (pad.configure native available).2.ok = true := by
  unfold ActiveGamepad.configure
  apply firstErrorOf_ok
  intro s hs
  obtain ⟨c, -, rfl⟩ := List.mem_map.mp hs
  exact hok c

theorem connect_eq (hok : ∀ c, (native c).ok = true) (hc : pad.connected = false) :
    pad.connect native =
      { pad := { pad with connected := true }
        calls := pad.configureCalls true ++ [.connect pad.deviceId (robloxGamepadType pad.descriptor.family)]
        connected := 1 } := by
  unfold ActiveGamepad.connect
  rw [if_neg (by simp [hc])]
  simp only [configure_ok hok, hok, if_true, Bool.not_true, Bool.false_eq_true, if_false]
  rfl

theorem connect_feeds (hok : ∀ c, (native c).ok = true) (h : PadAgrees n pad) :
    (pad.connect native).status.ok = true ∧ (pad.connect native).pad = { pad with connected := true } ∧
    (pad.connect native).connected = (if pad.connected then 0 else 1) ∧
    ∃ n', Feeds n pad.deviceId (pad.connect native).calls n' ∧ PadAgrees n' { pad with connected := true } := by
  by_cases hc : pad.connected = true
  · have hp : ({ pad with connected := true } : ActiveGamepad) = pad := by rw [← hc]
    have he : pad.connect native = { pad := pad } := if_pos hc
    rw [he, hp, if_pos hc]
    exact ⟨rfl, rfl, rfl, n, Feeds.nil n _, h⟩
  · have hc := eq_false_of_ne_true hc
    have hn : n.connected pad.deviceId = false := h.connected.trans hc
    rw [connect_eq hok hc, hc]
    refine ⟨rfl, rfl, rfl, n.link pad.deviceId true, ?_, h.link⟩
    exact (feeds_announcements n _ (configureCalls_announce pad true)).append (feeds_connect hn _)

/-! ### Axes -/

/-- The table after a value was sent on some axes. -/
def NativePads.moveAll (n : NativePads) (d : Int) (v : AxisValue) (axes : List Nat) : NativePads :=
  axes.foldl (fun n i => n.move d (axisCode i) v) n

theorem moveAll_connected (axes : List Nat) (d : Int) (v : AxisValue) (n : NativePads) :
    (n.moveAll d v axes).connected = n.connected ∧ (n.moveAll d v axes).pressed = n.pressed := by
  induction axes generalizing n with
  | nil => exact ⟨rfl, rfl⟩
  | cons i axes ih => exact ih (n.move d (axisCode i) v)

theorem moveAll_axes (axes : List Nat) (d : Int) (v : AxisValue) (n : NativePads) (e a : Int) :
    (n.moveAll d v axes).axes e a = if e = d ∧ ∃ i ∈ axes, axisCode i = a then v else n.axes e a := by
  induction axes generalizing n with
  | nil => simp [NativePads.moveAll]
  | cons i axes ih =>
    have hstep : n.moveAll d v (i :: axes) = (n.move d (axisCode i) v).moveAll d v axes := rfl
    rw [hstep, ih]
    by_cases he : e = d ∧ ∃ j ∈ axes, axisCode j = a
    · rw [if_pos he, if_pos ⟨he.1, by obtain ⟨j, hj, hja⟩ := he.2; exact ⟨j, by simp [hj], hja⟩⟩]
    · rw [if_neg he]
      by_cases hi : e = d ∧ axisCode i = a
      · rw [if_pos ⟨hi.1, i, by simp, hi.2⟩]
        simp [NativePads.move, hi.1, hi.2.symm]
      · rw [if_neg]
        · simp only [NativePads.move]
          rw [if_neg fun hx => hi ⟨hx.1, hx.2.symm⟩]
        · intro hex
          obtain ⟨h1, j, hj, hja⟩ := hex
          rcases List.mem_cons.mp hj with rfl | hj
          · exact hi ⟨h1, hja⟩
          · exact he ⟨h1, j, hj, hja⟩

theorem feeds_moves {d : Int} (hc : n.connected d = true) (v : AxisValue) (axes : List Nat) :
    Feeds n d (axes.map fun i => GamepadCall.axis d (axisCode i) v.1 v.2.1 v.2.2) (n.moveAll d v axes) := by
  refine ⟨?_, fun e he => ⟨by rw [(moveAll_connected axes d v n).1], fun k => by rw [(moveAll_connected axes d v n).2],
    fun a => by rw [moveAll_axes, if_neg fun h => he h.1]⟩⟩
  induction axes generalizing n with
  | nil => rfl
  | cons i axes ih =>
    simp only [List.map_cons, NativePads.feedAll, NativePads.feed, hc, if_true, Option.bind_some]
    exact ih hc

theorem sendAxes_ok (hok : ∀ c, (native c).ok = true) (calls : List GamepadCall) :
    ActiveGamepad.sendAxes native calls = (calls, Status.okStatus) := by
  induction calls with
  | nil => rfl
  | cons call calls ih => simp [ActiveGamepad.sendAxes, hok, ih]

variable {i : Nat}

theorem getD_set {l : List F32} (hi : i < l.length) (v : F32) (j : Nat) :
    (l.set i v).getD j F32.zero = if j = i then v else l.getD j F32.zero := by
  rw [List.getD_eq_getElem?_getD, List.getD_eq_getElem?_getD, List.getElem?_set]
  by_cases h : i = j
  · subst h
    rw [if_pos rfl, if_pos hi, if_pos rfl]
    rfl
  · rw [if_neg h, if_neg (Ne.symm h)]

theorem axisCode_inj : ∀ i < 6, ∀ j < 6, axisCode i = axisCode j → i = j := by decide

/-- The axes of a group that the pad has. -/
def ActiveGamepad.shown (pad : ActiveGamepad) (axes : List Nat) : List Nat :=
  axes.filter fun i => hasBit pad.descriptor.axes i.toUInt8

variable {sentAxes : List F32} {v : AxisValue}

/-- Values sent on some axes of a connected pad, recorded in its `sentAxes`. -/
theorem PadAgrees.moves (h : PadAgrees n pad) (hc : pad.connected = true) {group : List Nat} (hg : ∀ i ∈ group, i < 6)
    (hlen : sentAxes.length = 6)
    (hin : ∀ i ∈ group, hasBit pad.descriptor.axes i.toUInt8 = true → AxisAgrees { pad with sentAxes := sentAxes } i v)
    (hout : ∀ i < 6, i ∉ group → ∀ w, AxisAgrees pad i w → AxisAgrees { pad with sentAxes := sentAxes } i w) :
    PadAgrees (n.moveAll pad.deviceId v (pad.shown group)) { pad with sentAxes := sentAxes } := by
  have hshown : ∀ i, i ∈ pad.shown group ↔ i ∈ group ∧ hasBit pad.descriptor.axes i.toUInt8 = true := by
    intro i
    simp [ActiveGamepad.shown]
  refine ⟨?_, ?_, ?_, ?_, ?_, fun hd => absurd (hc.symm.trans hd) (by decide), hlen, h.raw⟩
  · rw [(moveAll_connected _ _ _ n).1]; exact h.connected
  · rw [(moveAll_connected _ _ _ n).2]; exact h.keys
  · rw [(moveAll_connected _ _ _ n).2]; exact h.otherKeys
  · intro i hi
    show AxisAgrees _ i ((n.moveAll pad.deviceId v (pad.shown group)).axes pad.deviceId (axisCode i))
    rw [moveAll_axes]
    by_cases hsent : i ∈ pad.shown group
    · rw [if_pos ⟨rfl, i, hsent, rfl⟩]
      exact hin i ((hshown i).mp hsent).1 ((hshown i).mp hsent).2
    · rw [if_neg]
      · by_cases hig : i ∈ group
        · -- an axis the pad does not have is never sent
          have hb : ¬ hasBit pad.descriptor.axes i.toUInt8 = true := fun hb => hsent ((hshown i).mpr ⟨hig, hb⟩)
          have ha := h.axes i hi
          unfold AxisAgrees at ha ⊢
          rw [if_neg hb] at ha ⊢
          exact ha
        · exact hout i hi hig _ (h.axes i hi)
      · intro hex
        obtain ⟨-, j, hj, hji⟩ := hex
        have hj6 := hg j ((hshown j).mp hj).1
        exact hsent (axisCode_inj j hj6 i hi hji ▸ hj)
  · intro a ha
    show AtRest ((n.moveAll pad.deviceId v (pad.shown group)).axes pad.deviceId a)
    rw [moveAll_axes, if_neg]
    · exact h.otherAxes a ha
    · intro hex
      obtain ⟨-, j, hj, hja⟩ := hex
      exact ha j (hg j ((hshown j).mp hj).1) hja

/-- A pad is connected and values are sent on some of its axes. -/
theorem PadAgrees.send (h : PadAgrees n pad) (hok : ∀ c, (native c).ok = true) (group : List Nat)
    (hg : ∀ i ∈ group, i < 6) (hlen : sentAxes.length = 6)
    (hin : ∀ i ∈ group, hasBit pad.descriptor.axes i.toUInt8 = true → AxisAgrees { pad with sentAxes := sentAxes } i v)
    (hout : ∀ i < 6, i ∉ group → ∀ w, AxisAgrees pad i w → AxisAgrees { pad with sentAxes := sentAxes } i w) :
    ∃ n', Feeds n pad.deviceId ((pad.connect native).calls ++
        (pad.shown group).map fun i => GamepadCall.axis pad.deviceId (axisCode i) v.1 v.2.1 v.2.2) n' ∧
      PadAgrees n' { pad with connected := true, sentAxes := sentAxes } := by
  obtain ⟨-, -, -, m, hfeed, hm⟩ := connect_feeds hok h
  exact ⟨_, hfeed.append (feeds_moves hm.connected v _), hm.moves rfl hg hlen hin hout⟩

/-- The axes of the stick or trigger of an axis. -/
def axisMembers (axis : Nat) : List Nat := if axis < 4 then [axis / 2 * 2, axis / 2 * 2 + 1] else [axis]

/-- What an axis dispatch leaves: the group's new values, taken by the native side. -/
structure AxisRun (curves : GamepadCurves) (n : NativePads) (pad : ActiveGamepad) (axis : Nat) (run : PadRun) : Prop where
  status : run.status.ok = true
  kept : run.pad = { pad with connected := run.pad.connected, sentAxes := run.pad.sentAxes }
  counted : run.connected = (if run.pad.connected then 1 else 0) - (if pad.connected then 1 else 0)
  linked : pad.connected = true → run.pad.connected = true
  rest : Rest (pad.axisGroup curves axis).2.2.1 → Rest (pad.axisGroup curves axis).2.2.2 →
    ∀ i ∈ axisMembers axis, Rest (run.pad.sentAxes.getD i F32.zero)
  others : ∀ i, i ∉ axisMembers axis → run.pad.sentAxes.getD i F32.zero = pad.sentAxes.getD i F32.zero
  feeds : ∃ n', Feeds n pad.deviceId run.calls n' ∧ PadAgrees n' run.pad

theorem rest_iff {x : F32} : Rest x ↔ x.magnitude = 0 := by
  have hz : F32.zero.magnitude = 0 := rfl
  have hnan : F32.zero.isNaN = false := rfl
  constructor
  · intro h
    simp only [Rest, F32.feq, Bool.and_eq_true, Bool.or_eq_true, beq_iff_eq] at h
    rcases h.2 with hb | hm
    · unfold F32.magnitude
      rw [hb]
      rfl
    · exact hm.1
  · intro h
    have hx : x.isNaN = false := by simp [F32.isNaN, h]
    simp [Rest, F32.feq, hx, hnan, h, hz]

theorem Rest.of_feq {x y : F32} (h : x.feq y = true) (hy : Rest y) : Rest x := by
  rw [rest_iff] at hy ⊢
  simp only [F32.feq, Bool.and_eq_true, Bool.or_eq_true, beq_iff_eq] at h
  rcases h.2 with hb | hm
  · unfold F32.magnitude at hy ⊢
    rw [hb]
    exact hy
  · exact hm.1

theorem connected_count (b : Bool) : ((if b then 0 else 1 : Int)) = 1 - (if b then 1 else 0) := by cases b <;> rfl

/-- An axis whose stick or trigger was not sent agrees as before. -/
theorem AxisAgrees.keep {w : AxisValue} (hw : AxisAgrees pad i w)
    (h : ∀ j ∈ axisMembers i, sentAxes.getD j F32.zero = pad.sentAxes.getD j F32.zero) :
    AxisAgrees { pad with sentAxes := sentAxes } i w := by
  unfold axisMembers at h
  unfold AxisAgrees at hw ⊢
  by_cases hi : i < 4
  · rw [if_pos hi] at h hw ⊢
    rw [h (i / 2 * 2) (by simp), h (i / 2 * 2 + 1) (by simp)]
    exact hw
  · rw [if_neg hi] at h hw ⊢
    rw [h i (by simp)]
    exact hw

theorem mem_axisMembers {axis i : Nat} :
    i ∈ axisMembers axis ↔ if axis < 4 then i = axis / 2 * 2 ∨ i = axis / 2 * 2 + 1 else i = axis := by
  unfold axisMembers
  split <;> simp

theorem axisMembers_disjoint {axis i j : Nat} (hi : i ∉ axisMembers axis) (hj : j ∈ axisMembers i) : j ∉ axisMembers axis := by
  rw [mem_axisMembers] at hi hj ⊢
  by_cases ha : axis < 4
  · rw [if_pos ha] at hi ⊢
    split at hj <;> omega
  · rw [if_neg ha] at hi ⊢
    split at hj <;> omega

theorem stick_run (hok : ∀ c, (native c).ok = true) (h : PadAgrees n pad) {axis : Nat} (ha : axis < 4) :
    AxisRun curves n pad axis (pad.dispatchAxes curves native axis).1 := by
  have hmem : axisMembers axis = [axis / 2 * 2, axis / 2 * 2 + 1] := if_pos ha
  have hgroup : pad.axisGroup curves axis = (axis / 2 * 2, 2,
      (curves.stick (pad.rawAxes.getD (axis / 2 * 2) 0) (pad.rawAxes.getD (axis / 2 * 2 + 1) 0)).1,
      (curves.stick (pad.rawAxes.getD (axis / 2 * 2) 0) (pad.rawAxes.getD (axis / 2 * 2 + 1) 0)).2) := if_pos ha
  generalize hf : axis / 2 * 2 = first at hmem hgroup
  have hfirst : first = 0 ∨ first = 2 := by omega
  generalize curves.stick (pad.rawAxes.getD first 0) (pad.rawAxes.getD (first + 1) 0) = xy at hgroup
  obtain ⟨x, y⟩ := xy
  have hlen := h.sent
  unfold ActiveGamepad.dispatchAxes
  simp only [hgroup]
  by_cases hsame : ((pad.sentAxes.getD first F32.zero).feq x && (2 == 1 || (pad.sentAxes.getD (first + 1) F32.zero).feq y)) = true
  · rw [if_pos hsame]
    simp only [Bool.and_eq_true, Bool.or_eq_true, beq_iff_eq, Nat.reduceEqDiff, false_or] at hsame
    refine ⟨rfl, rfl, by simp, id, ?_, fun _ _ => rfl, n, Feeds.nil n _, h⟩
    rw [hgroup, hmem]
    intro hx hy i hi
    rcases List.mem_cons.mp hi with rfl | hi
    · exact Rest.of_feq hsame.1 hx
    · obtain rfl := List.mem_singleton.mp hi
      exact Rest.of_feq hsame.2 hy
  · rw [if_neg hsame]
    obtain ⟨hs, hp, hcount, -⟩ := connect_feeds hok h
    have hlen' : ((pad.sentAxes.set first x).set (first + 1) y).length = 6 := by simp [hlen]
    have hget : ∀ i, ((pad.sentAxes.set first x).set (first + 1) y).getD i F32.zero =
        if i = first + 1 then y else if i = first then x else pad.sentAxes.getD i F32.zero := by
      intro i
      rw [getD_set (by simp [hlen]; omega), getD_set (by omega)]
    obtain ⟨n', hfeed, hagree⟩ := h.send hok [first, first + 1] (by simp; omega) (v := (x, y, F32.zero)) hlen'
      (fun i hi hb => by
        have hi' : i = first ∨ i = first + 1 := by simpa using hi
        have hhalf : i / 2 * 2 = first := by omega
        unfold AxisAgrees
        rw [if_pos hb, if_pos (by omega), hhalf, hget, hget, if_neg (by omega), if_pos rfl, if_pos rfl]
        exact ⟨Or.inl rfl, Or.inl rfl, rest_zero⟩)
      (fun i hi hout w hw => by
        refine hw.keep fun j hj => ?_
        have hj' := axisMembers_disjoint (hmem ▸ hout) hj
        rw [hmem] at hj'
        simp only [List.mem_cons, List.not_mem_nil, or_false, not_or] at hj'
        rw [hget, if_neg hj'.2, if_neg hj'.1])
    have hshown : ((List.range 2).map (first + ·)).filter (fun i => hasBit pad.descriptor.axes i.toUInt8) =
        pad.shown [first, first + 1] := rfl
    simp only [hs, hp, sendAxes_ok hok, hshown, Bool.not_true, Bool.false_eq_true, if_false]
    refine ⟨rfl, rfl, ?_, fun _ => rfl, ?_, ?_, n', hfeed, hagree⟩
    · show (pad.connect native).connected = _
      rw [hcount, connected_count]
      rfl
    · rw [hgroup, hmem]
      intro hx hy i hi
      have hi' : i = first ∨ i = first + 1 := by simpa using hi
      show Rest (((pad.sentAxes.set first x).set (first + 1) y).getD i F32.zero)
      rw [hget]
      rcases hi' with rfl | rfl
      · rw [if_neg (by omega), if_pos rfl]
        exact hx
      · rw [if_pos rfl]
        exact hy
    · intro i hi
      rw [hmem] at hi
      simp only [List.mem_cons, List.not_mem_nil, or_false, not_or] at hi
      show ((pad.sentAxes.set first x).set (first + 1) y).getD i F32.zero = _
      rw [hget, if_neg hi.2, if_neg hi.1]

theorem trigger_run (hok : ∀ c, (native c).ok = true) (h : PadAgrees n pad) {axis : Nat} (h4 : 4 ≤ axis) (h6 : axis < 6) :
    AxisRun curves n pad axis (pad.dispatchAxes curves native axis).1 := by
  have hmem : axisMembers axis = [axis] := if_neg (by omega)
  have hgroup : pad.axisGroup curves axis = (axis, 1, curves.trigger (pad.rawAxes.getD axis 0), F32.zero) :=
    if_neg (by omega)
  generalize curves.trigger (pad.rawAxes.getD axis 0) = x at hgroup
  have hlen := h.sent
  unfold ActiveGamepad.dispatchAxes
  simp only [hgroup]
  by_cases hsame : ((pad.sentAxes.getD axis F32.zero).feq x &&
      (1 == 1 || (pad.sentAxes.getD (axis + 1) F32.zero).feq F32.zero)) = true
  · rw [if_pos hsame]
    simp only [Bool.and_eq_true] at hsame
    refine ⟨rfl, rfl, by simp, id, ?_, fun _ _ => rfl, n, Feeds.nil n _, h⟩
    rw [hgroup, hmem]
    intro hx _ i hi
    obtain rfl := List.mem_singleton.mp hi
    exact Rest.of_feq hsame.1 hx
  · rw [if_neg hsame]
    obtain ⟨hs, hp, hcount, -⟩ := connect_feeds hok h
    have hget : ∀ i, (pad.sentAxes.set axis x).getD i F32.zero = if i = axis then x else pad.sentAxes.getD i F32.zero :=
      fun i => getD_set (by omega) x i
    have hlen' : (pad.sentAxes.set axis x).length = 6 := by simp [hlen]
    obtain ⟨n', hfeed, hagree⟩ := h.send hok [axis] (by simp; omega) (v := (F32.zero, F32.zero, x)) hlen'
      (fun i hi hb => by
        obtain rfl := List.mem_singleton.mp hi
        unfold AxisAgrees
        rw [if_pos hb, if_neg (by omega), hget, if_pos rfl]
        exact ⟨rest_zero, rest_zero, Or.inl rfl⟩)
      (fun i hi hout w hw => by
        refine hw.keep fun j hj => ?_
        have hj' := axisMembers_disjoint (hmem ▸ hout) hj
        rw [hmem, List.mem_singleton] at hj'
        rw [hget, if_neg hj'])
    have hshown : ((List.range 1).map (axis + ·)).filter (fun i => hasBit pad.descriptor.axes i.toUInt8) =
        pad.shown [axis] := rfl
    simp only [hs, hp, sendAxes_ok hok, hshown, Bool.not_true, Bool.false_eq_true, if_false]
    refine ⟨rfl, rfl, ?_, fun _ => rfl, ?_, ?_, n', hfeed, hagree⟩
    · show (pad.connect native).connected = _
      rw [hcount, connected_count]
      rfl
    · rw [hgroup, hmem]
      intro hx _ i hi
      obtain rfl := List.mem_singleton.mp hi
      show Rest ((pad.sentAxes.set i x).getD i F32.zero)
      rw [hget, if_pos rfl]
      exact hx
    · intro i hi
      rw [hmem, List.mem_singleton] at hi
      show (pad.sentAxes.set axis x).getD i F32.zero = _
      rw [hget, if_neg hi]

theorem dispatchAxes_run (hok : ∀ c, (native c).ok = true) (h : PadAgrees n pad) {axis : Nat} (h6 : axis < 6) :
    AxisRun curves n pad axis (pad.dispatchAxes curves native axis).1 := by
  by_cases h4 : axis < 4
  · exact stick_run hok h h4
  · exact trigger_run hok h (by omega) h6

/-! ### Releases -/

/-- The curves are zero where the sticks and triggers are. -/
structure GamepadCurves.RestAtZero (curves : GamepadCurves) : Prop where
  stickX : Rest (curves.stick 0 0).1
  stickY : Rest (curves.stick 0 0).2
  trigger : Rest (curves.trigger 0)

theorem hasBit_zero (b : UInt8) : hasBit 0 b = false := by simp [hasBit]

/-- Key releases of distinct keys that are down. -/
theorem feeds_releases {d : Int} (hc : n.connected d = true) (bs : List UInt8)
    (hnd : (bs.map mapSdlGamepadButtonToAndroid).Nodup)
    (hp : ∀ b ∈ bs, n.pressed d (mapSdlGamepadButtonToAndroid b) = true) :
    ∃ n', Feeds n d (bs.map fun b => GamepadCall.button d (mapSdlGamepadButtonToAndroid b) false) n' ∧
      n'.connected = n.connected ∧ n'.axes = n.axes ∧
      ∀ k, n'.pressed d k = (n.pressed d k && !decide (k ∈ bs.map mapSdlGamepadButtonToAndroid)) := by
  induction bs generalizing n with
  | nil => exact ⟨n, Feeds.nil n d, rfl, rfl, fun k => by simp⟩
  | cons b bs ih =>
    simp only [List.map_cons, List.nodup_cons] at hnd
    have hb : n.pressed d (mapSdlGamepadButtonToAndroid b) ≠ false := by simp [hp b]
    have hrest : ∀ b' ∈ bs, (n.press d (mapSdlGamepadButtonToAndroid b) false).pressed d (mapSdlGamepadButtonToAndroid b') =
        true := by
      intro b' hb'
      have hne : mapSdlGamepadButtonToAndroid b' ≠ mapSdlGamepadButtonToAndroid b := by
        intro he
        exact hnd.1 (he ▸ List.mem_map_of_mem hb')
      simp only [NativePads.press]
      rw [if_neg fun h => hne h.2]
      exact hp b' (by simp [hb'])
    obtain ⟨n', hf, hconn, haxes, hpressed⟩ := ih (n := n.press d (mapSdlGamepadButtonToAndroid b) false) hc hnd.2 hrest
    refine ⟨n', (feeds_button hc hb).append hf, hconn, haxes, fun k => ?_⟩
    rw [hpressed k]
    by_cases hk : k = mapSdlGamepadButtonToAndroid b
    · simp [NativePads.press, hk]
    · simp [NativePads.press, hk]

theorem kButtons_keys_nodup : (kButtons.map mapSdlGamepadButtonToAndroid).Nodup := by decide

/-- The keys of a connected pad are released. -/
theorem PadAgrees.ups (h : PadAgrees n pad) (hc : pad.connected = true) :
    ∃ n', Feeds n pad.deviceId ((kButtons.filter (hasBit pad.pressedButtons)).map fun b =>
        GamepadCall.button pad.deviceId (mapSdlGamepadButtonToAndroid b) false) n' ∧
      PadAgrees n' { pad with pressedButtons := 0 } := by
  have hsub : ((kButtons.filter (hasBit pad.pressedButtons)).map mapSdlGamepadButtonToAndroid).Nodup :=
    kButtons_keys_nodup.sublist (List.filter_sublist.map _)
  obtain ⟨n', hf, hconn, haxes, hpressed⟩ := feeds_releases (h.connected.trans hc) _ hsub fun b hb => by
    obtain ⟨hmem, hbit⟩ := List.mem_filter.mp hb
    rw [h.keys b hmem, hbit]
  refine ⟨n', hf, by rw [hconn]; exact h.connected, fun b hb => ?_, fun k hk => ?_, ?_, ?_,
    fun hd => absurd (hc.symm.trans hd) (by decide), h.sent, h.raw⟩
  · show n'.pressed pad.deviceId _ = _
    rw [hpressed, hasBit_zero, h.keys b hb]
    cases hbit : hasBit pad.pressedButtons b with
    | false => rfl
    | true =>
      have hin : mapSdlGamepadButtonToAndroid b ∈
          (kButtons.filter (hasBit pad.pressedButtons)).map mapSdlGamepadButtonToAndroid :=
        List.mem_map_of_mem (List.mem_filter.mpr ⟨hb, hbit⟩)
      simp only [hin, decide_true, Bool.not_true, Bool.and_false]
  · show n'.pressed pad.deviceId k = false
    rw [hpressed, h.otherKeys k hk, Bool.false_and]
  · rw [haxes]; exact h.axes
  · rw [haxes]; exact h.otherAxes

/-- The pressed buttons play no part in the axes. -/
theorem dispatchAxes_pressed (hok : ∀ c, (native c).ok = true) (buttons : UInt32) (axis : Nat) :
    ({ pad with pressedButtons := buttons } : ActiveGamepad).dispatchAxes curves native axis =
      ({ (pad.dispatchAxes curves native axis).1 with
          pad := { (pad.dispatchAxes curves native axis).1.pad with pressedButtons := buttons } },
        (pad.dispatchAxes curves native axis).2) := by
  have hconnect : ({ pad with pressedButtons := buttons } : ActiveGamepad).connect native =
      { pad.connect native with pad := { (pad.connect native).pad with pressedButtons := buttons } } := by
    by_cases hc : pad.connected = true
    · unfold ActiveGamepad.connect
      rw [if_pos hc, if_pos hc]
    · have hc := eq_false_of_ne_true hc
      rw [connect_eq hok hc, @connect_eq _ { pad with pressedButtons := buttons } hok hc]
      rfl
  have hs : (pad.connect native).status.ok = true := by
    by_cases hc : pad.connected = true
    · unfold ActiveGamepad.connect
      rw [if_pos hc]
      rfl
    · rw [connect_eq hok (eq_false_of_ne_true hc)]
      rfl
  have hgroup : ({ pad with pressedButtons := buttons } : ActiveGamepad).axisGroup curves axis = pad.axisGroup curves axis := rfl
  unfold ActiveGamepad.dispatchAxes
  rw [hgroup]
  generalize pad.axisGroup curves axis = g
  obtain ⟨first, count, x, y⟩ := g
  simp only
  by_cases hsame : ((pad.sentAxes.getD first F32.zero).feq x &&
      (count == 1 || (pad.sentAxes.getD (first + 1) F32.zero).feq y)) = true
  · rw [if_pos hsame, if_pos hsame]
  · rw [if_neg hsame, if_neg hsame]
    simp only [hconnect, hs, sendAxes_ok hok, Bool.not_true, Bool.false_eq_true, if_false]
    rfl

theorem axisGroup_rest (hz : curves.RestAtZero) (hraw : pad.rawAxes = List.replicate 6 0) {axis : Nat} (h6 : axis < 6) :
    Rest (pad.axisGroup curves axis).2.2.1 ∧ Rest (pad.axisGroup curves axis).2.2.2 := by
  have hget : ∀ i < 6, pad.rawAxes.getD i 0 = 0 := by
    intro i hi
    rw [hraw]
    revert i
    decide
  unfold ActiveGamepad.axisGroup
  by_cases h4 : axis < 4
  · rw [if_pos h4]
    simp only
    rw [hget _ (by omega), hget _ (by omega)]
    exact ⟨hz.stickX, hz.stickY⟩
  · rw [if_neg h4]
    simp only
    rw [hget _ h6]
    exact ⟨hz.trigger, rest_zero⟩

/-- The axes of a connected pad are brought to rest, one stick or trigger after another; its
keys were released before. -/
theorem releaseAxes_run (hok : ∀ c, (native c).ok = true) (hz : curves.RestAtZero) (axes : List Nat)
    (haxes : ∀ a ∈ axes, a < 6) (run : PadRun) {m : NativePads} (hstatus : run.status.ok = true)
    (hc : run.pad.connected = true) (hraw : run.pad.rawAxes = List.replicate 6 0)
    (hfeed : Feeds n run.pad.deviceId run.calls m) (hagree : PadAgrees m { run.pad with pressedButtons := 0 }) :
    ∃ sent m', (ActiveGamepad.releaseAxes curves native axes run).pad = { run.pad with sentAxes := sent } ∧
      (ActiveGamepad.releaseAxes curves native axes run).status.ok = true ∧
      (ActiveGamepad.releaseAxes curves native axes run).connected = run.connected ∧
      Feeds n run.pad.deviceId (ActiveGamepad.releaseAxes curves native axes run).calls m' ∧
      PadAgrees m' { run.pad with pressedButtons := 0, sentAxes := sent } ∧
      ∀ i, (Rest (run.pad.sentAxes.getD i F32.zero) ∨ ∃ a ∈ axes, i ∈ axisMembers a) → Rest (sent.getD i F32.zero) := by
  induction axes generalizing run m with
  | nil => exact ⟨run.pad.sentAxes, m, rfl, hstatus, rfl, hfeed, hagree, fun i hi => by simpa using hi⟩
  | cons axis axes ih =>
    have h6 : axis < 6 := haxes axis (by simp)
    -- the dispatch as it is with the keys already up
    have hrun := @dispatchAxes_run curves _ _ _ hok hagree _ h6
    have hpressed := @dispatchAxes_pressed curves _ { run.pad with pressedButtons := 0 } hok
      run.pad.pressedButtons axis
    have hrest := @axisGroup_rest _ { run.pad with pressedButtons := 0 } hz hraw _ h6
    generalize ({ run.pad with pressedButtons := 0 } : ActiveGamepad).dispatchAxes curves native axis = q at hrun hpressed
    obtain ⟨q, dispatched⟩ := q
    have hlinked : q.pad.connected = true := hrun.linked hc
    have hpad : ({ q.pad with pressedButtons := run.pad.pressedButtons } : ActiveGamepad) =
        { run.pad with sentAxes := q.pad.sentAxes } := by
      rw [hrun.kept, hlinked, ← hc]
    have hcount : q.connected = 0 := by
      rw [hrun.counted, hlinked]
      simp [hc]
    have hdispatch : run.pad.dispatchAxes curves native axis =
        ({ q with pad := { run.pad with sentAxes := q.pad.sentAxes } }, dispatched) := by rw [← hpad]; exact hpressed
    have hq : q.pad = { run.pad with pressedButtons := 0, sentAxes := q.pad.sentAxes } := by
      rw [hrun.kept, hlinked, ← hc]
    obtain ⟨m1, hf1, ha1⟩ := hrun.feeds
    rw [hq] at ha1
    have hstep : ActiveGamepad.releaseAxes curves native (axis :: axes) run =
        ActiveGamepad.releaseAxes curves native axes
          { pad := { run.pad with sentAxes := q.pad.sentAxes }
            calls := run.calls ++ q.calls
            status := keepFirstError q.status run.status
            events := run.events + if q.status.ok && dispatched then 1 else 0
            connected := run.connected + q.connected } := by
      simp only [ActiveGamepad.releaseAxes, hdispatch]
    obtain ⟨sent, m', h1, h2, h3, h4, h5, h7⟩ := ih (fun a ha => haxes a (by simp [ha]))
      { pad := { run.pad with sentAxes := q.pad.sentAxes }
        calls := run.calls ++ q.calls
        status := keepFirstError q.status run.status
        events := run.events + if q.status.ok && dispatched then 1 else 0
        connected := run.connected + q.connected }
      (m := m1) (by unfold keepFirstError; rw [if_pos hstatus]; exact hrun.status) hc hraw (hfeed.append hf1) ha1
    rw [hstep]
    refine ⟨sent, m', h1, h2, by rw [h3, hcount, add_zero], h4, h5, fun i hi => h7 i ?_⟩
    by_cases hmem : i ∈ axisMembers axis
    · exact Or.inl (hrun.rest hrest.1 hrest.2 i hmem)
    · rcases hi with hi | ⟨a, ha, hia⟩
      · left
        show Rest (q.pad.sentAxes.getD i F32.zero)
        rw [hrun.others i hmem]
        exact hi
      · rcases List.mem_cons.mp ha with rfl | ha
        · exact absurd hia hmem
        · exact Or.inr ⟨a, ha, hia⟩

theorem axisAgrees_rest (hi : i < 6) (hv : AxisAgrees pad i v)
    (hrest : ∀ j < 6, Rest (pad.sentAxes.getD j F32.zero)) : AtRest v := by
  unfold AxisAgrees at hv
  split at hv
  · split at hv
    · exact ⟨hv.1.rest (hrest _ (by omega)), hv.2.1.rest (hrest _ (by omega)), hv.2.2⟩
    · exact ⟨hv.1, hv.2.1, hv.2.2.rest (hrest i hi)⟩
  · exact hv

theorem axisAgrees_of_rest (hi : i < 6) (hv : AtRest v)
    (hrest : ∀ j < 6, Rest (pad.sentAxes.getD j F32.zero)) : AxisAgrees pad i v := by
  unfold AxisAgrees
  split
  · split
    · exact ⟨Or.inr ⟨hv.1, hrest _ (by omega)⟩, Or.inr ⟨hv.2.1, hrest _ (by omega)⟩, hv.2.2⟩
    · exact ⟨hv.1, hv.2.1, Or.inr ⟨hv.2.2, hrest i hi⟩⟩
  · exact hv

theorem replicate_rest : ∀ j < 6, Rest ((List.replicate 6 F32.zero).getD j F32.zero) := by
  intro j hj
  have hget : ∀ j < 6, (List.replicate 6 F32.zero).getD j F32.zero = F32.zero := by decide
  rw [hget j hj]
  exact rest_zero

/-- An idle pad's device has no key down and every axis at zero. -/
theorem PadAgrees.rests (h : PadAgrees n pad) (hi : pad.Idle) :
    (∀ k, n.pressed pad.deviceId k = false) ∧ ∀ a, AtRest (n.axes pad.deviceId a) := by
  constructor
  · intro k
    by_cases hk : ∃ b ∈ kButtons, mapSdlGamepadButtonToAndroid b = k
    · obtain ⟨b, hb, rfl⟩ := hk
      rw [h.keys b hb, hi.1, hasBit_zero]
    · exact h.otherKeys k fun b hb he => hk ⟨b, hb, he⟩
  · intro a
    by_cases ha : ∃ i < 6, axisCode i = a
    · obtain ⟨i, hi6, rfl⟩ := ha
      refine axisAgrees_rest hi6 (h.axes i hi6) ?_
      rw [hi.2]
      exact replicate_rest
    · exact h.otherAxes a fun i hi6 he => ha ⟨i, hi6, he⟩

/-- A pad whose axes were sent back to zero may forget them. -/
theorem PadAgrees.rested (h : PadAgrees n { pad with pressedButtons := 0 })
    (hrest : ∀ j < 6, Rest (pad.sentAxes.getD j F32.zero)) : PadAgrees n pad.rested where
  connected := h.connected
  keys := h.keys
  otherKeys := h.otherKeys
  axes := fun i hi => axisAgrees_of_rest hi (axisAgrees_rest hi (h.axes i hi) hrest) replicate_rest
  otherAxes := h.otherAxes
  idle := fun _ => ⟨rfl, rfl⟩
  sent := rfl
  raw := rfl

theorem release_feeds (hok : ∀ c, (native c).ok = true) (hz : curves.RestAtZero) (h : PadAgrees n pad) :
    (pad.release curves native).status.ok = true ∧ (pad.release curves native).pad = pad.rested ∧
    (pad.release curves native).connected = 0 ∧
    ∃ n', Feeds n pad.deviceId (pad.release curves native).calls n' ∧ PadAgrees n' pad.rested := by
  unfold ActiveGamepad.release
  by_cases hc : pad.connected = true
  · rw [if_pos hc]
    simp only
    generalize hups : ((kButtons.filter (hasBit pad.pressedButtons)).map fun b =>
      GamepadCall.button pad.deviceId (mapSdlGamepadButtonToAndroid b) false) = ups
    obtain ⟨m, hfeed, hagree⟩ := h.ups hc
    rw [hups] at hfeed
    have hfirst : (firstErrorOf (ups.map native)).ok = true := firstErrorOf_ok (by simp [hok])
    have hraw : PadAgrees m { pad with rawAxes := List.replicate 6 0, pressedButtons := 0 } :=
      ⟨hagree.connected, hagree.keys, hagree.otherKeys, hagree.axes, hagree.otherAxes, hagree.idle, hagree.sent, rfl⟩
    obtain ⟨sent, m', h1, h2, h3, h4, h5, h6⟩ := releaseAxes_run hok hz [0, 2, 4, 5] (by decide)
      { pad := { pad with rawAxes := List.replicate 6 0 }
        calls := ups
        status := firstErrorOf (ups.map native)
        events := (ups.filter (fun call => (native call).ok)).length }
      hfirst hc rfl hfeed hraw
    refine ⟨h2, ?_, h3, m', h4, ?_⟩
    · rw [h1]; rfl
    · refine @PadAgrees.rested _ { pad with rawAxes := List.replicate 6 0, sentAxes := sent } h5 fun j hj => ?_
      refine h6 j (Or.inr ?_)
      have hcover : ∀ j < 6, ∃ a ∈ [0, 2, 4, 5], j ∈ axisMembers a := by decide
      exact hcover j hj
  · rw [if_neg hc]
    obtain ⟨hb, hs⟩ := h.idle (eq_false_of_ne_true hc)
    refine ⟨rfl, rfl, rfl, n, Feeds.nil n _, ?_⟩
    have hzero : ({ pad with pressedButtons := 0 } : ActiveGamepad) = pad := by rw [← hb]
    refine PadAgrees.rested (by rw [hzero]; exact h) ?_
    rw [hs]
    exact replicate_rest

theorem disconnect_feeds (hok : ∀ c, (native c).ok = true) (hz : curves.RestAtZero) (h : PadAgrees n pad) :
    (pad.disconnect curves native).connected = (if pad.connected then -1 else 0) ∧
    ∃ n', Feeds n pad.deviceId (pad.disconnect curves native).calls n' ∧ DeviceRests n' pad.deviceId := by
  obtain ⟨-, hpad, hcount, m, hfeed, hagree⟩ := release_feeds hok hz h
  obtain ⟨hkeys, haxes⟩ := hagree.rests ⟨rfl, rfl⟩
  have hconn : m.connected pad.deviceId = pad.connected := hagree.connected
  have hreleased : (pad.release curves native).pad.connected = pad.connected := by rw [hpad]; rfl
  unfold ActiveGamepad.disconnect
  by_cases hc : pad.connected = true
  · rw [if_pos (hreleased.trans hc), if_pos hc]
    refine ⟨by simp [hcount], m.link pad.deviceId false, ?_, ?_⟩
    · have hannounce : ∀ call ∈ ((pad.release curves native).pad.configure native false).1, call.announces = true := by
        unfold ActiveGamepad.configure
        exact configureCalls_announce _ false
      exact (hfeed.append (feeds_announcements m _ hannounce)).append (feeds_disconnect (hconn.trans hc))
    · exact ⟨by simp [NativePads.link], hkeys, haxes⟩
  · have hc := eq_false_of_ne_true hc
    rw [if_neg (by simp [hreleased, hc]), hc]
    exact ⟨hcount, m, hfeed, hconn.trans hc, hkeys, haxes⟩

/-! ### Buttons -/

theorem hasBit_eq (mask : UInt32) (c : UInt8) : hasBit mask c = mask.toBitVec.getLsbD c.toNat := by
  unfold hasBit
  by_cases h : c.toNat < 32
  · simp [h, BitVec.getLsbD]
  · simp [h, BitVec.getLsbD_of_ge _ _ (by omega : 32 ≤ c.toNat)]

theorem hasBit_set (mask : UInt32) {b : UInt8} (hb : b.toNat < 32) (pressed : Bool) (c : UInt8) :
    hasBit (if pressed then mask ||| 1 <<< b.toUInt32 else mask &&& ~~~(1 <<< b.toUInt32)) c =
      if c = b then pressed else hasBit mask c := by
  have hone : ((1 : UInt32) <<< b.toUInt32).toBitVec = BitVec.twoPow 32 b.toNat := by
    rw [UInt32.toBitVec_shiftLeft]
    apply BitVec.eq_of_toNat_eq
    simp [BitVec.twoPow, Nat.mod_eq_of_lt hb]
  have heq : b.toNat = c.toNat ↔ c = b := by
    rw [← UInt8.toNat_inj]
    exact eq_comm
  cases pressed with
  | false =>
    simp only [hasBit_eq, Bool.false_eq_true, if_false, UInt32.toBitVec_and, UInt32.toBitVec_not, hone,
      BitVec.getLsbD_and, BitVec.getLsbD_not, BitVec.getLsbD_twoPow, hb, heq, decide_true, Bool.true_and]
    by_cases hc : c = b
    · simp [hc]
    · by_cases h32 : c.toNat < 32
      · simp [hc, h32]
      · simp [hc, h32, BitVec.getLsbD_of_ge _ _ (by omega : 32 ≤ c.toNat)]
  | true =>
    simp only [hasBit_eq, if_true, UInt32.toBitVec_or, hone, BitVec.getLsbD_or, BitVec.getLsbD_twoPow, hb, heq,
      decide_true, Bool.true_and]
    by_cases hc : c = b <;> simp [hc]

theorem mem_kButtons : ∀ b : UInt8, 0 ≤ mapSdlGamepadButtonToAndroid b → b ∈ kButtons := by
  intro b hb
  unfold mapSdlGamepadButtonToAndroid at hb
  by_contra hmem
  simp only [kButtons, List.mem_cons, List.not_mem_nil, or_false, not_or] at hmem
  simp [hmem] at hb

theorem kButtons_lt : ∀ b ∈ kButtons, b.toNat < 32 := List.all_iff_forall_prop.mp (by decide)

theorem kButtons_inj : ∀ b ∈ kButtons, ∀ c ∈ kButtons,
    mapSdlGamepadButtonToAndroid c = mapSdlGamepadButtonToAndroid b → c = b := by
  have hnodup : (kButtons.map mapSdlGamepadButtonToAndroid).Nodup := by decide
  intro b hb c hc h
  exact List.inj_on_of_nodup_map hnodup hc hb h

theorem PadAgrees.button (h : PadAgrees n pad) (hc : pad.connected = true) {b : UInt8} (hb : b ∈ kButtons) {pressed : Bool}
    (hp : hasBit pad.pressedButtons b ≠ pressed) :
    Feeds n pad.deviceId [.button pad.deviceId (mapSdlGamepadButtonToAndroid b) pressed]
        (n.press pad.deviceId (mapSdlGamepadButtonToAndroid b) pressed) ∧
      PadAgrees (n.press pad.deviceId (mapSdlGamepadButtonToAndroid b) pressed)
        { pad with pressedButtons := if pressed then pad.pressedButtons ||| 1 <<< b.toUInt32
                                     else pad.pressedButtons &&& ~~~(1 <<< b.toUInt32) } := by
  refine ⟨feeds_button (h.connected.trans hc) (by rw [h.keys b hb]; exact hp), h.connected, fun c hcb => ?_, fun k hk => ?_,
    h.axes, h.otherAxes, fun hd => absurd (hc.symm.trans hd) (by decide), h.sent, h.raw⟩
  · rw [hasBit_set _ (kButtons_lt b hb)]
    by_cases he : c = b
    · subst he
      simp [NativePads.press]
    · rw [if_neg he]
      simp only [NativePads.press]
      rw [if_neg fun hx => he (kButtons_inj b hb c hcb hx.2)]
      exact h.keys c hcb
  · simp only [NativePads.press]
    rw [if_neg fun hx => hk b hb hx.2.symm]
    exact h.otherKeys k hk

end Pad

end Mocktail.Input

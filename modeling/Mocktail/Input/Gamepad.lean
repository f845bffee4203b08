/-
  Mocktail.Input.Gamepad — one gamepad of `RobloxInputRouter`
  (src/runtime/roblox_gamepad_input.cc).

  Each function takes a pad to the pad after it, the native calls it made, their first error
  and what it adds to the router's counters (`PadRun`). What a call returns is a function of
  the call. The stick and trigger curves are a parameter: they are single precision
  arithmetic, and nothing here depends on their values. The pad's name is only logged and
  left out.
-/

import Mocktail.Base.Status
import Mocktail.Input.KeyMap

namespace Mocktail.Input

structure GamepadDescriptor where
  family : GamepadFamily := .unknown
  buttons : UInt32 := 0
  axes : UInt32 := 0
  deriving DecidableEq, Repr

structure ActiveGamepad where
  instanceId : Int := 0
  deviceId : Int := 0
  descriptor : GamepadDescriptor := {}
  connected : Bool := false
  pressedButtons : UInt32 := 0
  rawAxes : List Int := List.replicate 6 0
  sentAxes : List F32 := List.replicate 6 F32.zero
  deriving DecidableEq, Repr

inductive GamepadCall where
  | supportedKey (deviceId key : Int) (available : Bool) (type : Int)
  | supportedMotion (deviceId axis direction : Int) (available : Bool) (type : Int)
  | connect (deviceId type : Int)
  | disconnect (deviceId : Int)
  | button (deviceId key : Int) (pressed : Bool)
  | axis (deviceId axis : Int) (x y z : F32)
  deriving DecidableEq, Repr

/-- `Stick` (both axes of a stick, the second negated) and `Trigger`. -/
structure GamepadCurves where
  stick : Int → Int → F32 × F32
  trigger : Int → F32

def hasBit (mask : UInt32) (index : UInt8) : Bool := decide (index.toNat < 32) && mask.toNat.testBit index.toNat

def keepFirstError (status firstError : Status) : Status := if firstError.ok then status else firstError

/-- The first error of calls that are all made. -/
def firstErrorOf (statuses : List Status) : Status :=
  statuses.foldl (fun first status => keepFirstError status first) Status.okStatus

structure PadRun where
  pad : ActiveGamepad
  calls : List GamepadCall := []
  status : Status := Status.okStatus
  /-- What is added to `gamepad_events`. -/
  events : Nat := 0
  /-- What is added to `connected_gamepads`. -/
  connected : Int := 0
  deriving DecidableEq, Repr

namespace ActiveGamepad

variable (curves : GamepadCurves) (native : GamepadCall → Status) (pad : ActiveGamepad)

def configureCalls (available : Bool) : List GamepadCall :=
  let type := if available then robloxGamepadType pad.descriptor.family else 0
  let key := GamepadCall.supportedKey pad.deviceId
  let motion := GamepadCall.supportedMotion pad.deviceId
  kButtons.map (fun b => key (mapSdlGamepadButtonToAndroid b) (available && hasBit pad.descriptor.buttons b) type) ++
    [0, 1, 2, 3, 4, 5].map (fun i : UInt8 =>
      motion (kAndroidAxes.getD i.toNat 0) (-1) (available && hasBit pad.descriptor.axes i) type) ++
    -- SDL has already normalized trigger aliases; D-pad uses key events only.
    [motion 22 (-1) false type, motion 23 (-1) false type, motion 15 (-1) false type, motion 15 1 false type,
      motion 16 (-1) false type, motion 16 1 false type]

def configure (available : Bool) : List GamepadCall × Status :=
  (pad.configureCalls available, firstErrorOf ((pad.configureCalls available).map native))

def connect : PadRun :=
  if pad.connected then { pad := pad }
  else
    -- Android announces capabilities, then connection, then the first action.
    let configured := pad.configure native true
    let call := GamepadCall.connect pad.deviceId (robloxGamepadType pad.descriptor.family)
    let calls := if configured.2.ok then configured.1 ++ [call] else configured.1
    let status := if configured.2.ok then native call else configured.2
    if !status.ok then
      { pad := pad, calls := calls ++ pad.configureCalls false ++ [GamepadCall.disconnect pad.deviceId], status := status }
    else { pad := { pad with connected := true }, calls := calls, connected := 1 }

/-- The axis calls in order, up to the first that fails. -/
def sendAxes : List GamepadCall → List GamepadCall × Status
  | [] => ([], Status.okStatus)
  | call :: calls =>
    if !(native call).ok then ([call], native call)
    else
      let r := sendAxes calls
      (call :: r.1, r.2)

/-- The stick or trigger that `axis` belongs to: its first axis, how many it has, its value. -/
def axisGroup (axis : Nat) : Nat × Nat × F32 × F32 :=
  if axis < 4 then
    let first := axis / 2 * 2
    let s := curves.stick (pad.rawAxes.getD first 0) (pad.rawAxes.getD (first + 1) 0)
    (first, 2, s.1, s.2)
  else (axis, 1, curves.trigger (pad.rawAxes.getD axis 0), F32.zero)

/-- `DispatchGamepadAxesLocked`, with whether an axis call was made. -/
def dispatchAxes (axis : Nat) : PadRun × Bool :=
  let (first, count, x, y) := pad.axisGroup curves axis
  if (pad.sentAxes.getD first F32.zero).feq x && (count == 1 || (pad.sentAxes.getD (first + 1) F32.zero).feq y) then
    ({ pad := pad }, false)
  else
    let connected := pad.connect native
    if !connected.status.ok then (connected, false)
    else
      let pad := connected.pad
      let indices := ((List.range count).map (first + ·)).filter (fun i => hasBit pad.descriptor.axes i.toUInt8)
      let sent := sendAxes native (indices.map (fun i =>
        .axis pad.deviceId (kAndroidAxes.getD i 0) (if count == 2 then x else F32.zero) (if count == 2 then y else F32.zero)
          (if count == 1 then x else F32.zero)))
      let run := { connected with calls := connected.calls ++ sent.1, status := sent.2 }
      -- a failed call leaves the axes as they were sent before
      if !sent.2.ok then (run, sent.1.length > 1)
      else
        let sentAxes := pad.sentAxes.set first x
        let sentAxes := if count == 2 then sentAxes.set (first + 1) y else sentAxes
        ({ run with pad := { pad with sentAxes := sentAxes } }, !sent.1.isEmpty)

/-- The pad's state with nothing pressed and every axis at rest. -/
def rested : ActiveGamepad :=
  { pad with pressedButtons := 0, rawAxes := List.replicate 6 0, sentAxes := List.replicate 6 F32.zero }

/-- The axes of `release`, one stick or trigger after another. -/
def releaseAxes : List Nat → PadRun → PadRun
  | [], run => run
  | axis :: axes, run =>
    let (r, dispatched) := run.pad.dispatchAxes curves native axis
    releaseAxes axes
      { pad := r.pad
        calls := run.calls ++ r.calls
        status := keepFirstError r.status run.status
        events := run.events + if r.status.ok && dispatched then 1 else 0
        connected := run.connected + r.connected }

def release : PadRun :=
  if pad.connected then
    let ups := (kButtons.filter (hasBit pad.pressedButtons)).map
      (fun b => GamepadCall.button pad.deviceId (mapSdlGamepadButtonToAndroid b) false)
    let run := releaseAxes curves native [0, 2, 4, 5]
      { pad := { pad with rawAxes := List.replicate 6 0 }
        calls := ups
        status := firstErrorOf (ups.map native)
        events := (ups.filter (fun call => (native call).ok)).length }
    { run with pad := run.pad.rested }
  else { pad := pad.rested }

/-- `DisconnectGamepadLocked`. -/
def disconnect : PadRun :=
  let released := pad.release curves native
  if released.pad.connected then
    let configured := released.pad.configure native false
    let call := GamepadCall.disconnect pad.deviceId
    { pad := { released.pad with connected := false }
      calls := released.calls ++ configured.1 ++ [call]
      status := keepFirstError (native call) (keepFirstError configured.2 released.status)
      events := released.events
      connected := released.connected - 1 }
  else released

end ActiveGamepad

end Mocktail.Input

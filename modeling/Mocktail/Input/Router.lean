/-
  Mocktail.Input.Router — `RobloxInputRouter` (src/runtime/roblox_input_router.cc), from SDL
  platform events to the native input calls.

  Every method holds the router's mutex, the editor's methods inside it included, so a
  method is one step; its output are the native calls it makes. What they return is an
  argument (`Outcome`). Coordinates are single precision arithmetic, taken as a parameter
  (`Arith`): which call is made never depends on their values. `RobloxInputDispatchResult`
  keeps its state, kind and status.
-/

import Mocktail.Lib.Trace
import Mocktail.Lib.Keyed
import Mocktail.Input.TextEditor
import Mocktail.Input.Gamepad

namespace Mocktail.Input

open Mocktail.Lib

def kMaximumAndroidPointers : Nat := 32

structure Viewport where
  logicalWidth : Int := 0
  logicalHeight : Int := 0
  pixelWidth : Int := 0
  pixelHeight : Int := 0
  densityScale : F32 := F32.one
  deriving DecidableEq, Repr

def Viewport.valid (v : Viewport) : Bool :=
  decide (0 < v.logicalWidth) && decide (0 < v.logicalHeight) && decide (0 < v.pixelWidth) &&
    decide (0 < v.pixelHeight) && v.densityScale.isFinite && v.densityScale.gtZero

/-- The coordinate expressions of the source. -/
structure Arith where
  /-- `HostLogicalToGuestX` and `HostLogicalToGuestY`. -/
  guestX : Viewport → F32 → F32
  guestY : Viewport → F32 → F32
  /-- `std::clamp(x, 0.0f, max(0.0f, guest_width - 1.0f))`, and with the height. -/
  clampX : Viewport → F32 → F32
  clampY : Viewport → F32 → F32
  /-- `std::clamp(x, 0.0f, 1.0f) * guest_width`, rounded, and with the height. -/
  touchX : Viewport → F32 → F32
  touchY : Viewport → F32 → F32
  roundedWidth : Viewport → Int
  roundedHeight : Viewport → Int
  add : F32 → F32 → F32
  curves : GamepadCurves

/-- `std::max(0.0f, x)`. -/
def maxZero (x : F32) : F32 := if x.gtZero then x else F32.zero

/-! ## Events and calls -/

inductive TouchAction where
  | down
  | move
  | up
  | cancelled
  deriving DecidableEq, Repr

structure TouchEvent where
  action : TouchAction := .move
  touchId : Int := 0
  fingerId : Int := 0
  x : F32 := F32.zero
  y : F32 := F32.zero
  deriving DecidableEq, Repr

/-- `PlatformEventPayload`. -/
inductive PlatformEvent where
  | quit
  | resized (viewport : Viewport)
  | focus (focused : Bool)
  | key (e : KeyEvent)
  | textInput (text : Text)
  | textEditing (e : TextEditingEvent)
  | mouseMotion (x y deltaX deltaY : F32) (relativeMode : Bool)
  | mouseButton (pressed : Bool) (button : UInt8) (x y : F32) (relativeMode : Bool)
  | mouseWheel (deltaY mouseX mouseY : F32) (relativeMode : Bool)
  | touch (e : TouchEvent)
  | gamepadConnection (instanceId : Int) (connected : Bool) (descriptor : GamepadDescriptor) (remapped : Bool)
  | gamepadAxis (instanceId : Int) (axis : UInt8) (value : Int)
  | gamepadButton (instanceId : Int) (button : UInt8) (pressed : Bool)
  deriving DecidableEq, Repr

/-- The touch actions of the native interface: 0, 1 and 2. -/
inductive AndroidTouch where
  | down
  | move
  | up
  deriving DecidableEq, Repr

inductive Call where
  | mouseMove (x y deltaX deltaY : F32)
  | mouseButton (x y : F32) (pressed : Bool) (button : Int)
  | mouseWheel (x y deltaY : F32)
  | touch (pointerId : Nat) (x y : F32) (action : AndroidTouch) (width height : Int)
  | key (pressed : Bool) (scanCode keyCode : Int) («repeat» : Bool)
  | text (call : TextCall)
  | gamepad (call : GamepadCall)
  deriving DecidableEq, Repr

/-- The functions of the native sink that are there. -/
structure Sink where
  mouseMove : Bool := true
  mouseButton : Bool := true
  mouseWheel : Bool := true
  touch : Bool := true
  key : Bool := true
  gamepad : Bool := true
  editor : EditorConfig := {}
  deriving DecidableEq, Repr

/-- What the native calls of one method return. -/
structure Outcome where
  native : Call → Status := fun _ => Status.okStatus
  text : Answers := {}

inductive EventKind where
  | none
  | mouseMotion
  | mouseButton
  | mouseWheel
  | touch
  | keyboard
  | text
  | focus
  | viewport
  | gamepadConnection
  | gamepadButton
  | gamepadAxis
  deriving DecidableEq, Repr

inductive DispatchState where
  | dispatched
  | stateUpdated
  | ignoredInactive
  | ignoredUnfocused
  | ignoredUnsupported
  | rejectedInvalid
  | nativeError
  deriving DecidableEq, Repr

structure DispatchResult where
  state : DispatchState := .stateUpdated
  kind : EventKind := .none
  status : Status := Status.okStatus
  deriving DecidableEq, Repr

/-! ## The router -/

structure ActiveTouch where
  touchId : Int
  fingerId : Int
  pointerId : Nat
  x : F32
  y : F32
  deriving DecidableEq, Repr

structure ActiveKey where
  sdlScancode : UInt32
  android : AndroidKeyMapping
  deriving DecidableEq, Repr

/-- The counters of `RobloxInputSnapshot`. -/
structure Counters where
  mouseEvents : UInt64 := 0
  touchEvents : UInt64 := 0
  keyboardEvents : UInt64 := 0
  ignoredTextEvents : UInt64 := 0
  textEvents : UInt64 := 0
  nativeErrors : UInt64 := 0
  gamepadEvents : UInt64 := 0
  activeMouseButtons : Nat := 0
  activeTouches : Nat := 0
  activeKeys : Nat := 0
  detectedGamepads : Nat := 0
  connectedGamepads : Int := 0
  deriving DecidableEq, Repr

structure Router where
  active : Bool := false
  focused : Bool := false
  viewport : Viewport := {}
  counters : Counters := {}
  activeMouseButtons : List Int := []
  activeTouches : List ActiveTouch := []
  activeKeys : List ActiveKey := []
  gamepads : List ActiveGamepad := []
  mouseX : F32 := F32.zero
  mouseY : F32 := F32.zero
  editor : Editor := {}
  deriving DecidableEq, Repr

/-- A method's outcome. -/
structure Handled where
  r : Router
  calls : List Call := []
  result : DispatchResult := {}
  deriving DecidableEq, Repr

namespace Router

variable (u : Utf8proc) (arith : Arith) (sink : Sink) (o : Outcome) (r : Router)

def countError : Router := { r with counters := { r.counters with nativeErrors := r.counters.nativeErrors + 1 } }

/-- `NativeResultLocked` after the calls of an event. -/
def nativeResult (calls : List Call) (status : Status) (kind : EventKind) : Handled :=
  if !status.ok then ⟨r.countError, calls, ⟨.nativeError, kind, status⟩⟩
  else
    let c := r.counters
    let c :=
      match kind with
      | .mouseMotion | .mouseButton | .mouseWheel => { c with mouseEvents := c.mouseEvents + 1 }
      | .touch => { c with touchEvents := c.touchEvents + 1 }
      | .keyboard => { c with keyboardEvents := c.keyboardEvents + 1 }
      | .gamepadButton | .gamepadAxis => { c with gamepadEvents := c.gamepadEvents + 1 }
      | _ => c
    ⟨{ r with counters := c }, calls, { state := .dispatched, kind := kind }⟩

def ignored (kind : EventKind) (message : String) : Handled :=
  ⟨r, [], ⟨.ignoredUnsupported, kind, Status.unsupported message⟩⟩

def rejected (kind : EventKind) (message : String) : Handled :=
  ⟨r, [], ⟨.rejectedInvalid, kind, Status.invalidArgument message⟩⟩

/-! ## Mouse -/

def handleMouseMotion (x y deltaX deltaY : F32) (relativeMode : Bool) : Handled :=
  if !sink.mouseMove then r.ignored .mouseMotion "native mouse motion is unavailable"
  else
    let dx := arith.guestX r.viewport deltaX
    let dy := arith.guestY r.viewport deltaY
    -- the captured pointer keeps an unclipped virtual position
    let mx := if relativeMode then arith.add r.mouseX dx else arith.guestX r.viewport x
    let my := if relativeMode then arith.add r.mouseY dy else arith.guestY r.viewport y
    let call := Call.mouseMove (if relativeMode then mx else arith.clampX r.viewport mx)
      (if relativeMode then my else arith.clampY r.viewport my) dx dy
    { r with mouseX := mx, mouseY := my }.nativeResult [call] (o.native call) .mouseMotion

/-- The pressed buttons after a button event. -/
def pressButton (buttons : List Int) (pressed : Bool) (button : Int) : List Int :=
  if pressed then if button ∈ buttons then buttons else buttons ++ [button] else buttons.erase button

def handleMouseButton (pressed : Bool) (button : UInt8) (x y : F32) (relativeMode : Bool) : Handled :=
  if !sink.mouseButton then r.ignored .mouseButton "native mouse buttons are unavailable"
  else
    let robloxButton := mapSdlMouseButtonToRoblox button
    if robloxButton < 0 then r.ignored .mouseButton "SDL mouse button has no Roblox mapping"
    else
      let mx := if relativeMode then r.mouseX else arith.guestX r.viewport x
      let my := if relativeMode then r.mouseY else arith.guestY r.viewport y
      let r := { r with mouseX := mx, mouseY := my }
      -- Roblox decides whether a click releases TextBox focus.
      let call := Call.mouseButton (arith.clampX r.viewport mx) (arith.clampY r.viewport my) pressed robloxButton
      if (o.native call).ok then
        let buttons := pressButton r.activeMouseButtons pressed robloxButton
        { r with activeMouseButtons := buttons
                 counters := { r.counters with activeMouseButtons := buttons.length } }.nativeResult
          [call] (o.native call) .mouseButton
      else r.nativeResult [call] (o.native call) .mouseButton

def handleMouseWheel (deltaY mouseX mouseY : F32) (relativeMode : Bool) : Handled :=
  if !sink.mouseWheel || deltaY.feq F32.zero then
    r.ignored .mouseWheel "vertical native mouse wheel is unavailable"
  else
    let mx := if relativeMode then r.mouseX else arith.guestX r.viewport (maxZero mouseX)
    let my := if relativeMode then r.mouseY else arith.guestY r.viewport (maxZero mouseY)
    let call := Call.mouseWheel (maxZero mx) (maxZero my) deltaY
    { r with mouseX := mx, mouseY := my }.nativeResult [call] (o.native call) .mouseWheel

/-! ## Touch -/

/-- `AllocatePointerIdLocked`: the smallest free pointer id. -/
def allocatePointerId : Option Nat :=
  (List.range kMaximumAndroidPointers).find? (fun i => !r.activeTouches.any (·.pointerId == i))

def isTouch (touchId fingerId : Int) (t : ActiveTouch) : Bool := t.touchId == touchId && t.fingerId == fingerId

def touchCall (pointerId : Nat) (x y : F32) (action : AndroidTouch) : Call :=
  .touch pointerId x y action (arith.roundedWidth r.viewport) (arith.roundedHeight r.viewport)

def setTouches (touches : List ActiveTouch) : Router :=
  { r with activeTouches := touches, counters := { r.counters with activeTouches := touches.length } }

def handleTouch (e : TouchEvent) : Handled :=
  if !sink.touch then r.ignored .touch "native touch input is unavailable"
  else
    let x := arith.touchX r.viewport e.x
    let y := arith.touchY r.viewport e.y
    let mine := isTouch e.touchId e.fingerId
    match r.activeTouches.find? mine, e.action with
    | some _, .down => r.rejected .touch "duplicate touch down was rejected"
    | none, .down =>
      match r.allocatePointerId with
      | none => r.rejected .touch "Android pointer limit was reached"
      | some id =>
        let call := r.touchCall arith id x y .down
        let touches :=
          if (o.native call).ok then r.activeTouches ++ [⟨e.touchId, e.fingerId, id, x, y⟩] else r.activeTouches
        (r.setTouches touches).nativeResult [call] (o.native call) .touch
    | none, _ => r.rejected .touch "touch event has no active pointer"
    | some t, .move =>
      let call := r.touchCall arith t.pointerId x y .move
      let touches :=
        if (o.native call).ok then modifyFirst mine (fun t => { t with x := x, y := y }) r.activeTouches
        else r.activeTouches
      (r.setTouches touches).nativeResult [call] (o.native call) .touch
    | some t, _ =>
      let call := r.touchCall arith t.pointerId x y .up
      (r.setTouches (r.activeTouches.eraseP mine)).nativeResult [call] (o.native call) .touch

/-! ## Keys -/

def isKey (scancode : UInt32) (k : ActiveKey) : Bool := k.sdlScancode == scancode

/-- The pressed keys after a key event that was passed on. -/
def pressKey (keys : List ActiveKey) (pressed : Bool) (scancode : UInt32) (android : AndroidKeyMapping) :
    List ActiveKey :=
  if pressed then if keys.any (isKey scancode) then keys else keys ++ [⟨scancode, android⟩]
  else keys.eraseP (isKey scancode)

def handleKeyLocked (e : KeyEvent) : Handled :=
  if !sink.key then r.ignored .keyboard "native hardware keyboard is unavailable"
  else
    let android := mapSdlKeyToAndroid e.scancode e.keycode
    if !android.valid then r.ignored .keyboard "SDL key has no Android mapping"
    else
      let call := Call.key e.pressed android.scanCode android.keyCode e.repeat
      if (o.native call).ok then
        let keys := pressKey r.activeKeys e.pressed e.scancode android
        { r with activeKeys := keys, counters := { r.counters with activeKeys := keys.length } }.nativeResult
          [call] (o.native call) .keyboard
      else r.nativeResult [call] (o.native call) .keyboard

/-! ## Gamepads -/

def padStatus (call : GamepadCall) : Status := o.native (.gamepad call)

def isPad (instanceId : Int) (p : ActiveGamepad) : Bool := p.instanceId == instanceId

/-- The counters after pads ran. -/
def countPads (runs : List PadRun) : Router :=
  { r with counters :=
      { r.counters with
        gamepadEvents := r.counters.gamepadEvents + (runs.map PadRun.events).sum.toUInt64
        connectedGamepads := r.counters.connectedGamepads + (runs.map PadRun.connected).sum } }

def setPads (pads : List ActiveGamepad) : Router :=
  { r with gamepads := pads, counters := { r.counters with detectedGamepads := pads.length } }

/-- The smallest device id from 1 that no pad has; one of the first `length + 1` is free. -/
def freeDeviceId (pads : List ActiveGamepad) : Option Nat :=
  (List.range' 1 (pads.length + 1)).find? (fun d => !pads.any (·.deviceId == d))

def padCalls (calls : List GamepadCall) : List Call := calls.map .gamepad

def handleGamepadConnection (instanceId : Int) (connected : Bool) (descriptor : GamepadDescriptor) (remapped : Bool) :
    Handled :=
  if !sink.gamepad then r.ignored .gamepadConnection "Roblox gamepad export table is incomplete"
  else if instanceId ≤ 0 then r.rejected .gamepadConnection "invalid gamepad ID"
  else
    let found := r.gamepads.find? (isPad instanceId)
    if found.isSome && connected && !remapped then ⟨r, [], { kind := .gamepadConnection }⟩
    else
      let runs := (found.map (·.disconnect arith.curves (padStatus o))).toList
      let calls := padCalls (runs.flatMap (·.calls))
      let status := firstErrorOf (runs.map (·.status))
      let r := if found.isSome then (r.countPads runs).setPads (r.gamepads.eraseP (isPad instanceId)) else r
      if !connected then
        if status.ok then ⟨r, calls, { kind := .gamepadConnection }⟩ else r.nativeResult calls status .gamepadConnection
      else
        match freeDeviceId r.gamepads with
        | none => ⟨r, calls, ⟨.rejectedInvalid, .gamepadConnection, Status.unavailable "Roblox gamepad device IDs exhausted"⟩⟩
        | some d =>
          if 2 ^ 31 - 1 < d then
            ⟨r, calls, ⟨.rejectedInvalid, .gamepadConnection, Status.unavailable "Roblox gamepad device IDs exhausted"⟩⟩
          else
            let r := r.setPads (r.gamepads ++ [{ instanceId := instanceId, deviceId := d, descriptor := descriptor }])
            if status.ok then ⟨r, calls, { kind := .gamepadConnection }⟩
            else r.nativeResult calls status .gamepadConnection

/-- The pad after its run, in its place. -/
def putPad (run : PadRun) : Router :=
  { r.countPads [run] with gamepads := modifyFirst (isPad run.pad.instanceId) (fun _ => run.pad) r.gamepads }

def handleGamepadButton (instanceId : Int) (button : UInt8) (pressed : Bool) : Handled :=
  match sink.gamepad, r.gamepads.find? (isPad instanceId) with
  | true, some pad =>
    let key := mapSdlGamepadButtonToAndroid button
    if !r.focused then ⟨r, [], ⟨.ignoredUnfocused, .gamepadButton, Status.okStatus⟩⟩
    else if key < 0 || !hasBit pad.descriptor.buttons button then
      r.ignored .gamepadButton "gamepad button is not supported"
    else if hasBit pad.pressedButtons button == pressed then ⟨r, [], { kind := .gamepadButton }⟩
    else
      let run := pad.connect (padStatus o)
      let call := GamepadCall.button pad.deviceId key pressed
      if !run.status.ok then (r.putPad run).nativeResult (padCalls run.calls) run.status .gamepadButton
      else
        let mask : UInt32 := 1 <<< button.toUInt32
        let buttons := if pressed then run.pad.pressedButtons ||| mask else run.pad.pressedButtons &&& ~~~mask
        let run :=
          if (padStatus o call).ok then { run with pad := { run.pad with pressedButtons := buttons } } else run
        (r.putPad run).nativeResult (padCalls (run.calls ++ [call])) (padStatus o call) .gamepadButton
  | _, _ => r.ignored .gamepadButton "gamepad is not available"

def handleGamepadAxis (instanceId : Int) (axis : UInt8) (value : Int) : Handled :=
  match sink.gamepad, r.gamepads.find? (isPad instanceId) with
  | true, some pad =>
    if !r.focused then ⟨r, [], ⟨.ignoredUnfocused, .gamepadAxis, Status.okStatus⟩⟩
    else if kAndroidAxes.length ≤ axis.toNat || !hasBit pad.descriptor.axes axis then
      r.ignored .gamepadAxis "gamepad axis is not supported"
    else
      let pad := { pad with rawAxes := pad.rawAxes.set axis.toNat value }
      let (run, dispatched) := pad.dispatchAxes arith.curves (padStatus o) axis.toNat
      if run.status.ok && !dispatched then ⟨r.putPad run, padCalls run.calls, { kind := .gamepadAxis }⟩
      else (r.putPad run).nativeResult (padCalls run.calls) run.status .gamepadAxis
  | _, _ => r.ignored .gamepadAxis "gamepad is not available"

/-! ## Releases -/

def buttonReleases : List Call :=
  if sink.mouseButton then r.activeMouseButtons.map (.mouseButton r.mouseX r.mouseY false ·) else []

def touchReleases : List Call :=
  if sink.touch then r.activeTouches.map (fun t => r.touchCall arith t.pointerId t.x t.y .up) else []

def keyReleases : List Call :=
  if sink.key then r.activeKeys.map (fun k => .key false k.android.scanCode k.android.keyCode false) else []

/-- The calls that returned ok. -/
def countOk (calls : List Call) : UInt64 := (calls.filter (fun call => (o.native call).ok)).length.toUInt64

/-- `ReleasePressedInputsLocked`. -/
def releasePressedInputs : Router × List Call × Status :=
  let runs := r.gamepads.map (·.release arith.curves (padStatus o))
  let buttons := r.buttonReleases sink
  let touches := r.touchReleases arith sink
  let keys := r.keyReleases sink
  let counted := r.countPads runs
  let c := counted.counters
  ({ counted with
      gamepads := runs.map (·.pad)
      activeMouseButtons := []
      activeTouches := []
      activeKeys := []
      counters :=
        { c with
          mouseEvents := c.mouseEvents + countOk o buttons
          touchEvents := c.touchEvents + countOk o touches
          keyboardEvents := c.keyboardEvents + countOk o keys
          activeMouseButtons := 0
          activeTouches := 0
          activeKeys := 0 } },
    padCalls (runs.flatMap (·.calls)) ++ buttons ++ touches ++ keys,
    firstErrorOf (runs.map (·.status) ++ (buttons ++ touches ++ keys).map o.native))

/-- The focused TextBox loses its session. -/
def endText : Router × List Call × Status :=
  if r.editor.snapshot.focused then
    let t := r.editor.endFocusSession sink.editor o.text r.editor.snapshot.textboxHandle r.editor.snapshot.generation true
    ({ r with editor := t.1 }, t.2.1.map .text, t.2.2)
  else (r, [], Status.okStatus)

/-! ## Methods -/

def activate (viewport : Viewport) (initiallyFocused : Bool) : Router × Status :=
  if r.active then (r, Status.failedPrecondition "Roblox input router is already active")
  else if !viewport.valid then (r, Status.invalidArgument "input viewport dimensions must be positive")
  else ({ active := true, focused := initiallyFocused, viewport := viewport, editor := r.editor }, Status.okStatus)

def deactivate : Router × List Call × Status :=
  if !r.active then (r, [], Status.okStatus)
  else
    let released := r.releasePressedInputs arith sink o
    let runs := released.1.gamepads.map (·.disconnect arith.curves (padStatus o))
    let gone := (released.1.countPads runs).setPads []
    let text := gone.endText sink o
    let c := text.1.counters
    ({ text.1 with
        active := false
        focused := false
        counters := { c with activeMouseButtons := 0, activeTouches := 0, activeKeys := 0 } },
      released.2.1 ++ padCalls (runs.flatMap (·.calls)) ++ text.2.1,
      keepFirstError text.2.2 (keepFirstError (firstErrorOf (runs.map (·.status))) released.2.2))

/-- The router after an event that the editor handled. -/
def textResult (e : Edit) : Handled :=
  let calls := e.calls.map Call.text
  let r := { r with editor := e.ed }
  if !e.result.status.ok then ⟨r.countError, calls, ⟨.nativeError, .text, e.result.status⟩⟩
  else if e.result.dispatched then
    ⟨{ r with counters := { r.counters with textEvents := r.counters.textEvents + 1 } }, calls,
      { state := .dispatched, kind := .text }⟩
  else ⟨r, calls, { kind := .text }⟩

/-- A text event without a focused TextBox. -/
def textIgnored : Handled :=
  { r with counters := { r.counters with ignoredTextEvents := r.counters.ignoredTextEvents + 1 } }.ignored .text
    "text input has no focused Roblox TextBox"

def handleFocus (focused : Bool) : Handled :=
  if !focused && r.focused then
    let released := r.releasePressedInputs arith sink o
    let text := released.1.endText sink o
    let r := { text.1 with focused := false }
    let calls := released.2.1 ++ text.2.1
    let status := keepFirstError text.2.2 released.2.2
    if !status.ok then ⟨r.countError, calls, ⟨.nativeError, .focus, status⟩⟩ else ⟨r, calls, { kind := .focus }⟩
  else ⟨{ r with focused := focused }, [], { kind := .focus }⟩

/-- A key goes to the editor first. -/
def handleKeyEvent (e : KeyEvent) : Handled :=
  let edit := r.editor.handleKey u sink.editor o.text e
  if edit.result.handled then r.textResult edit else r.handleKeyLocked sink o e

def handleText (edit : Edit) : Handled := if edit.result.handled then r.textResult edit else r.textIgnored

def handleEvent (e : PlatformEvent) : Handled :=
  if !r.active then ⟨r, [], { state := .ignoredInactive }⟩
  else
    -- input that reaches the window focuses it
    let f := { r with focused := true }
    match e with
    | .resized viewport =>
      if !viewport.valid then r.rejected .viewport "resized input viewport is invalid"
      else ⟨{ r with viewport := viewport }, [], { kind := .viewport }⟩
    | .focus focused => r.handleFocus arith sink o focused
    | .gamepadConnection i c d m => r.handleGamepadConnection arith sink o i c d m
    | .gamepadButton i b p => r.handleGamepadButton sink o i b p
    | .gamepadAxis i x v => r.handleGamepadAxis arith sink o i x v
    | .quit => r.ignored .none "platform event has no Roblox input route"
    | .mouseMotion x y dx dy m => f.handleMouseMotion arith sink o x y dx dy m
    | .mouseButton p b x y m => f.handleMouseButton arith sink o p b x y m
    | .mouseWheel dy x y m => f.handleMouseWheel arith sink o dy x y m
    | .touch t => f.handleTouch arith sink o t
    | .key k => f.handleKeyEvent u sink o k
    | .textInput t => f.handleText (f.editor.handleTextInput u sink.editor o.text t)
    | .textEditing t => f.handleText (f.editor.handleTextEditing u sink.editor o.text t)

end Router

/-! ## The component -/

inductive Method where
  | activate (viewport : Viewport) (initiallyFocused : Bool)
  | deactivate
  | event (e : PlatformEvent)
  | beginText (session : TextFocusSession) (initialText : Text)
  | endText (textboxHandle : Int) (generation : Nat) (notifyNative : Bool)
  | replaceText (generation : Nat) (authoritative : Text)
  | updateText (generation : Nat) (properties : TextFocusProperties)
  deriving DecidableEq, Repr

/-- A call of a method, with what its native calls return. -/
structure Act where
  method : Method
  outcome : Outcome := {}

variable (u : Utf8proc) (arith : Arith) (sink : Sink)

/-- The router with the editor and the calls of a text method. -/
def Router.edited (r : Router) (t : Editor × List TextCall × Status) : Router × List Call :=
  ({ r with editor := t.1 }, t.2.1.map .text)

def stepRouter (r : Router) (act : Act) : Router × List Call :=
  let o := act.outcome
  match act.method with
  | .activate viewport focused => ((r.activate viewport focused).1, [])
  | .deactivate => ((r.deactivate arith sink o).1, (r.deactivate arith sink o).2.1)
  | .event e => ((r.handleEvent u arith sink o e).r, (r.handleEvent u arith sink o e).calls)
  | .beginText session text =>
    if !r.active then (r, []) else r.edited (r.editor.beginFocusSession u sink.editor session text)
  | .endText handle generation notify =>
    r.edited (r.editor.endFocusSession sink.editor o.text handle generation notify)
  | .replaceText generation text => r.edited (r.editor.replaceFocusedTextFromEngine u sink.editor generation text)
  | .updateText generation properties =>
    r.edited (r.editor.updateFocusProperties sink.editor generation properties)

def router : Machine Router Act Call := ⟨stepRouter u arith sink⟩

/-- Coordinates on a viewport whose logical, pixel and guest sizes agree. -/
def plainArith : Arith where
  guestX _ x := x
  guestY _ y := y
  clampX _ x := x
  clampY _ y := y
  touchX _ x := x
  touchY _ y := y
  roundedWidth v := v.pixelWidth
  roundedHeight v := v.pixelHeight
  add x y := if x = F32.zero then y else x
  curves := ⟨fun _ _ => (F32.zero, F32.zero), fun _ => F32.zero⟩

def demoViewport : Viewport := { logicalWidth := 640, logicalHeight := 480, pixelWidth := 640, pixelHeight := 480 }

end Mocktail.Input

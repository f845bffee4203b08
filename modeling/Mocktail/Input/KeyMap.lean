/-
  Mocktail.Input.KeyMap — the host codes and their Android codes (`MapSdlKeyToAndroid`,
  `MapSdlMouseButtonToRoblox` in src/runtime/roblox_input_router.cc,
  `MapSdlGamepadButtonToAndroid`, `RobloxGamepadType` in src/runtime/roblox_gamepad_input.cc).

  The switch of `MapSdlKeyToAndroid` is a table, in the source's order; SDL scancodes are
  USB HID usages. A scancode that is not in it falls back to the key's character, then to
  the scancode itself.
-/

import Mathlib.Algebra.Ring.Nat
import Mathlib.Algebra.Ring.Int.Defs

namespace Mocktail.Input

structure AndroidKeyMapping where
  scanCode : Int := 0
  keyCode : Int := 0
  deriving DecidableEq, Repr

def AndroidKeyMapping.valid (m : AndroidKeyMapping) : Bool := decide (0 < m.scanCode) && decide (0 < m.keyCode)

/-- `static_cast<int32_t>`. -/
def asInt32 (x : UInt32) : Int := if x.toNat < 2 ^ 31 then x.toNat else x.toNat - 2 ^ 32

structure KeyRow where
  scancode : UInt32
  scan : Int
  key : Int

def keyTable : List KeyRow :=
  [
    -- A to Z
    ⟨4, 30, 29⟩, ⟨5, 48, 30⟩, ⟨6, 46, 31⟩, ⟨7, 32, 32⟩, ⟨8, 18, 33⟩, ⟨9, 33, 34⟩, ⟨10, 34, 35⟩, ⟨11, 35, 36⟩,
    ⟨12, 23, 37⟩, ⟨13, 36, 38⟩, ⟨14, 37, 39⟩, ⟨15, 38, 40⟩, ⟨16, 50, 41⟩, ⟨17, 49, 42⟩, ⟨18, 24, 43⟩,
    ⟨19, 25, 44⟩, ⟨20, 16, 45⟩, ⟨21, 19, 46⟩, ⟨22, 31, 47⟩, ⟨23, 20, 48⟩, ⟨24, 22, 49⟩, ⟨25, 47, 50⟩,
    ⟨26, 17, 51⟩, ⟨27, 45, 52⟩, ⟨28, 21, 53⟩, ⟨29, 44, 54⟩,
    -- 1 to 9 and 0
    ⟨30, 2, 8⟩, ⟨31, 3, 9⟩, ⟨32, 4, 10⟩, ⟨33, 5, 11⟩, ⟨34, 6, 12⟩, ⟨35, 7, 13⟩, ⟨36, 8, 14⟩, ⟨37, 9, 15⟩,
    ⟨38, 10, 16⟩, ⟨39, 11, 7⟩,
    -- Return, Escape, Backspace, Tab, Space
    ⟨40, 28, 66⟩, ⟨41, 1, 111⟩, ⟨42, 14, 67⟩, ⟨43, 15, 61⟩, ⟨44, 57, 62⟩,
    -- Minus, Equals, brackets, Backslash, Semicolon, Apostrophe, Grave, Comma, Period, Slash, CapsLock
    ⟨45, 12, 69⟩, ⟨46, 13, 70⟩, ⟨47, 26, 71⟩, ⟨48, 27, 72⟩, ⟨49, 43, 73⟩, ⟨51, 39, 74⟩, ⟨52, 40, 75⟩,
    ⟨53, 41, 68⟩, ⟨54, 51, 55⟩, ⟨55, 52, 56⟩, ⟨56, 53, 76⟩, ⟨57, 58, 115⟩,
    -- F1 to F12
    ⟨58, 59, 131⟩, ⟨59, 60, 132⟩, ⟨60, 61, 133⟩, ⟨61, 62, 134⟩, ⟨62, 63, 135⟩, ⟨63, 64, 136⟩, ⟨64, 65, 137⟩,
    ⟨65, 66, 138⟩, ⟨66, 67, 139⟩, ⟨67, 68, 140⟩, ⟨68, 87, 141⟩, ⟨69, 88, 142⟩,
    -- PrintScreen, ScrollLock, Pause, Insert, Home, PageUp, Delete, End, PageDown
    ⟨70, 99, 120⟩, ⟨71, 70, 116⟩, ⟨72, 119, 121⟩, ⟨73, 110, 124⟩, ⟨74, 102, 122⟩, ⟨75, 104, 92⟩,
    ⟨76, 111, 112⟩, ⟨77, 107, 123⟩, ⟨78, 109, 93⟩,
    -- Right, Left, Down, Up, NumLock
    ⟨79, 106, 22⟩, ⟨80, 105, 21⟩, ⟨81, 108, 20⟩, ⟨82, 103, 19⟩, ⟨83, 69, 143⟩,
    -- keypad: Divide, Multiply, Minus, Plus, Enter, 1 to 9, 0, Period
    ⟨84, 98, 154⟩, ⟨85, 55, 155⟩, ⟨86, 74, 156⟩, ⟨87, 78, 157⟩, ⟨88, 96, 160⟩, ⟨89, 79, 145⟩, ⟨90, 80, 146⟩,
    ⟨91, 81, 147⟩, ⟨92, 75, 148⟩, ⟨93, 76, 149⟩, ⟨94, 77, 150⟩, ⟨95, 71, 151⟩, ⟨96, 72, 152⟩, ⟨97, 73, 153⟩,
    ⟨98, 82, 144⟩, ⟨99, 83, 158⟩,
    -- LCtrl, LShift, LAlt, LGui, RCtrl, RShift, RAlt, RGui, Application
    ⟨224, 29, 113⟩, ⟨225, 42, 59⟩, ⟨226, 56, 57⟩, ⟨227, 125, 117⟩, ⟨228, 97, 114⟩, ⟨229, 54, 60⟩,
    ⟨230, 100, 58⟩, ⟨231, 126, 118⟩, ⟨101, 127, 82⟩
  ]

/-- The Android key code of a digit or a letter. -/
def fallbackKeycode (key : UInt32) : Int :=
  let k : Int := key.toNat
  if 48 ≤ k && k ≤ 57 then 7 + (k - 48)
  else if 97 ≤ k && k ≤ 122 then 29 + (k - 97)
  else if 65 ≤ k && k ≤ 90 then 29 + (k - 65)
  else 0

def mapSdlKeyToAndroid (scancode key : UInt32) : AndroidKeyMapping :=
  match keyTable.find? (·.scancode == scancode) with
  | some row => ⟨row.scan, row.key⟩
  | none =>
    if 0 < fallbackKeycode key then
      ⟨if 0 < scancode.toNat then asInt32 scancode else fallbackKeycode key, fallbackKeycode key⟩
    else if 0 < scancode.toNat then ⟨asInt32 scancode, asInt32 scancode⟩
    else {}

/-- SDL buttons are Left 1, Middle 2, Right 3, X1 4, X2 5. -/
def mapSdlMouseButtonToRoblox (button : UInt8) : Int :=
  if button == 1 then 0
  else if button == 3 then 1
  else if button == 2 then 2
  else if button == 4 then 7
  else if button == 5 then 15
  else -1

/-! ## Gamepads -/

/-- SDL gamepad buttons: South 0, East 1, West 2, North 3, Back 4, Start 6, sticks 7 and 8,
shoulders 9 and 10, D-pad 11 to 14. -/
def mapSdlGamepadButtonToAndroid (button : UInt8) : Int :=
  if button == 0 then 96
  else if button == 1 then 97
  else if button == 2 then 99
  else if button == 3 then 100
  else if button == 11 then 19
  else if button == 12 then 20
  else if button == 13 then 21
  else if button == 14 then 22
  else if button == 9 then 102
  else if button == 10 then 103
  else if button == 7 then 106
  else if button == 8 then 107
  else if button == 6 then 108
  else if button == 4 then 109
  else -1

inductive GamepadFamily where
  | unknown
  | xbox
  | playStation4
  | playStation5
  deriving DecidableEq, Repr

def robloxGamepadType : GamepadFamily → Int
  | .playStation4 => 1
  | .playStation5 => 2
  | .xbox => 3
  | .unknown => 0

/-- `kButtons`, in the order they are announced. -/
def kButtons : List UInt8 := [0, 1, 2, 3, 11, 12, 13, 14, 10, 9, 7, 8, 4, 6]

/-- `kAndroidAxes`. -/
def kAndroidAxes : List Int := [0, 1, 11, 14, 17, 18]

end Mocktail.Input

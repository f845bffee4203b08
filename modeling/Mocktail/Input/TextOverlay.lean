/-
  Mocktail.Input.TextOverlay — the overlay's presentation of a focused TextBox
  (`BuildRobloxTextOverlayPresentation` and `RobloxTextDisplayState` in
  src/runtime/roblox_text_display_state.cc, include/runtime/roblox_text_display_state.h).

  A display update carries a text and UTF-16 positions; the presentation carries the text to
  draw and byte offsets into it. Both loops of the source read one code point an iteration,
  so the length of the text plus one is fuel enough. `std::lround` of a quotient of two
  single precision values is a parameter (`DensityQuotient`): it places the viewport's edges and
  nothing else.
-/

import Mocktail.Input.TextEditor

namespace Mocktail.Input

/-! ## Data -/

/-- `utf8` and `utf8_size`: a buffer, or a null pointer with a size beside it. -/
inductive TextView where
  | buffer (bytes : Text)
  | null (size : Nat)
  deriving DecidableEq, Repr

/-- `utf8_size != 0 && utf8 == nullptr`. -/
def TextView.unavailable : TextView → Bool
  | .buffer _ => false
  | .null size => size != 0

/-- The bytes read through the view: a null pointer is read as the empty string. -/
def TextView.bytes : TextView → Text
  | .buffer bytes => bytes
  | .null _ => []

/-- `RobloxTextDisplayUpdate`. -/
structure TextDisplayUpdate where
  event : TextDisplayEvent := .hide
  generation : Nat := 0
  areaX : Int := 0
  areaY : Int := 0
  areaWidth : Int := 0
  areaHeight : Int := 0
  fontSize : F32 := F32.zero
  multiline : Bool := false
  xAlignment : Int := 0
  yAlignment : Int := 1
  textColor : Int := 0
  font : Int := 0
  textInputType : Int := 0
  textWrapped : Bool := false
  utf8 : TextView := .null 0
  cursorUtf16 : Int := 0
  selectionBeginUtf16 : Int := 0
  selectionEndUtf16 : Int := 0
  deriving DecidableEq, Repr

/-- `RobloxTextOverlayViewport`. -/
structure OverlayViewport where
  width : Int := 0
  height : Int := 0
  densityScale : F32 := F32.one
  deriving DecidableEq, Repr

def OverlayViewport.valid (v : OverlayViewport) : Bool :=
  decide (0 < v.width) && decide (0 < v.height) && v.densityScale.isFinite && v.densityScale.gtZero

/-- `std::lround(static_cast<float>(extent) / density)` as an `int`. -/
abbrev DensityQuotient := Int → F32 → Int

def OverlayViewport.coordinateWidth (q : DensityQuotient) (v : OverlayViewport) : Int :=
  if v.valid then q v.width v.densityScale else 0

def OverlayViewport.coordinateHeight (q : DensityQuotient) (v : OverlayViewport) : Int :=
  if v.valid then q v.height v.densityScale else 0

/-- `RobloxTextOverlayGeometry`. -/
structure OverlayGeometry where
  x : Int := 0
  y : Int := 0
  width : Int := 0
  height : Int := 0
  usedFallback : Bool := false
  deriving DecidableEq, Repr

/-- `RobloxTextOverlayPresentation`. Its defaults are what `ClearSensitive` leaves. -/
structure OverlayPresentation where
  visible : Bool := false
  generation : Nat := 0
  geometry : OverlayGeometry := {}
  fontSize : F32 := F32.zero
  multiline : Bool := false
  xAlignment : Int := 0
  yAlignment : Int := 1
  textColor : Int := 0
  font : Int := 0
  textInputType : Int := 0
  textWrapped : Bool := false
  displayUtf8 : Text := []
  caretUtf8Byte : Nat := 0
  selectionBeginUtf8Byte : Nat := 0
  selectionEndUtf8Byte : Nat := 0
  deriving DecidableEq, Repr

/-- `kPasswordBullet`: U+2022. -/
def kPasswordBullet : Text := [0xE2, 0x80, 0xA2]

/-- `std::numeric_limits<std::size_t>::max()`. -/
def maxSize : Nat := 2 ^ 64 - 1

/-! ## Reading the text -/

section
variable (u : Utf8proc)

/-- The loop of `Utf8ByteForUtf16Cursor` at `byte`, with `rest` the bytes from there. -/
def utf8ByteLoop (target : Nat) : Nat → Text → Nat → Nat → Nat → Nat × Nat
  | 0, _, byte, _, codepoints => (byte, codepoints)
  | _ + 1, [], byte, _, codepoints => (byte, codepoints)
  | fuel + 1, rest@(_ :: _), byte, utf16, codepoints =>
    let (count, codepoint) := u.iterate rest
    if count ≤ 0 then (byte, codepoints)
    else if target < utf16 + utf16Width codepoint then (byte, codepoints)
    else
      utf8ByteLoop target fuel (rest.drop count.toNat) (byte + count.toNat) (utf16 + utf16Width codepoint) (codepoints + 1)

/-- The byte offset of a UTF-16 position, and the code points before it. -/
def utf8ByteForUtf16Cursor (text : Text) (requestedUtf16 : Int) : Nat × Nat :=
  utf8ByteLoop u (if 0 < requestedUtf16 then requestedUtf16.toNat else 0) (text.length + 1) text 0 0 0

def countUtf8Loop : Nat → Text → Nat → Option Nat
  | 0, _, _ => none
  | _ + 1, [], count => some count
  | fuel + 1, rest@(_ :: _), count =>
    let (length, _) := u.iterate rest
    if length ≤ 0 then none else countUtf8Loop fuel (rest.drop length.toNat) (count + 1)

def validateAndCountUtf8 (text : Text) : Option Nat := countUtf8Loop u (text.length + 1) text 0

end

/-! ## Geometry -/

section
variable (q : DensityQuotient)

def nativeGeometryIntersectsViewport (update : TextDisplayUpdate) (viewport : OverlayViewport) : Bool :=
  if !viewport.valid || decide (update.areaWidth ≤ 0) || decide (update.areaHeight ≤ 0) then false
  else
    decide (0 < update.areaX + update.areaWidth) && decide (0 < update.areaY + update.areaHeight) &&
      decide (update.areaX < viewport.coordinateWidth q) && decide (update.areaY < viewport.coordinateHeight q)

def resolveGeometry (update : TextDisplayUpdate) (viewport : OverlayViewport) : OverlayGeometry :=
  -- Missing native geometry stays fail-closed until a later focus snapshot supplies a real rectangle.
  if !nativeGeometryIntersectsViewport q update viewport then {}
  else ⟨update.areaX, update.areaY, update.areaWidth, update.areaHeight, false⟩

end

/-! ## The presentation -/

section
variable (u : Utf8proc) (q : DensityQuotient)

/-- The candidate before its text is filled in. -/
def OverlayPresentation.ofUpdate (update : TextDisplayUpdate) (viewport : OverlayViewport) : OverlayPresentation :=
  { visible := true
    generation := update.generation
    geometry := resolveGeometry q update viewport
    fontSize := update.fontSize
    multiline := update.multiline
    xAlignment := update.xAlignment
    yAlignment := update.yAlignment
    textColor := update.textColor
    font := update.font
    textInputType := update.textInputType
    textWrapped := update.textWrapped }

/-- `BuildRobloxTextOverlayPresentation`. -/
def buildPresentation (update : TextDisplayUpdate) (viewport : OverlayViewport) : Except Status OverlayPresentation :=
  if update.generation = 0 then .error (Status.invalidArgument "text overlay generation must be nonzero")
  else if !viewport.valid then .error (Status.invalidArgument "text overlay viewport must be positive")
  else if update.utf8.unavailable then .error (Status.invalidArgument "text overlay UTF-8 buffer is unavailable")
  else
    let text := update.utf8.bytes
    match validateAndCountUtf8 u text with
    | none => .error (Status.invalidArgument "text overlay received invalid UTF-8")
    | some codepointCount =>
      let candidate := OverlayPresentation.ofUpdate q update viewport
      let caret := utf8ByteForUtf16Cursor u text update.cursorUtf16
      let selectionBegin := utf8ByteForUtf16Cursor u text update.selectionBeginUtf16
      let selectionEnd := utf8ByteForUtf16Cursor u text update.selectionEndUtf16
      if Editor.isPasswordInputType update.textInputType then
        if maxSize / kPasswordBullet.length < codepointCount then
          .error (Status.unavailable "text overlay password mask is too large")
        else
          .ok { candidate with
                displayUtf8 := (List.replicate codepointCount kPasswordBullet).flatten
                caretUtf8Byte := caret.2 * kPasswordBullet.length
                selectionBeginUtf8Byte := min selectionBegin.2 selectionEnd.2 * kPasswordBullet.length
                selectionEndUtf8Byte := max selectionBegin.2 selectionEnd.2 * kPasswordBullet.length }
      else
        .ok { candidate with
              displayUtf8 := text
              caretUtf8Byte := caret.1
              selectionBeginUtf8Byte := min selectionBegin.1 selectionEnd.1
              selectionEndUtf8Byte := max selectionBegin.1 selectionEnd.1 }

/-! ## The display state -/

/-- `RobloxTextDisplayState::Apply`: the presentation after it, its status and whether it changed. -/
def applyUpdate (presentation : OverlayPresentation) (update : TextDisplayUpdate) (viewport : OverlayViewport) :
    OverlayPresentation × Status × Bool :=
  if update.event = .hide then
    if !presentation.visible || update.generation != presentation.generation then (presentation, Status.okStatus, false)
    else ({}, Status.okStatus, true)
  else if update.event = .update && (!presentation.visible || update.generation != presentation.generation) then
    (presentation, Status.okStatus, false)
  else if update.event = .show && presentation.visible && decide (update.generation < presentation.generation) then
    (presentation, Status.okStatus, false)
  else
    match buildPresentation u q update viewport with
    | .error status => (presentation, status, false)
    | .ok candidate => (candidate, Status.okStatus, true)

end

/-! ## What the editor publishes -/

/-- An `int32_t` of `n` units. -/
def int32 (n : Nat) : Int := Int.bmod n (2 ^ 32)

/-- The update of `PublishDisplayLocked`. -/
def publishedUpdate (event : TextDisplayEvent) (session : TextFocusSession) (text : Text)
    (cursorUtf16 selectionBeginUtf16 selectionEndUtf16 : Nat) : TextDisplayUpdate :=
  let update : TextDisplayUpdate :=
    { event := event
      generation := session.generation
      areaX := session.properties.areaX
      areaY := session.properties.areaY
      areaWidth := session.properties.areaWidth
      areaHeight := session.properties.areaHeight
      fontSize := session.properties.fontSize
      multiline := session.properties.multiline
      xAlignment := session.properties.xAlignment
      yAlignment := session.properties.yAlignment
      textColor := session.properties.textColor
      font := session.properties.font
      textInputType := session.properties.textInputType
      textWrapped := session.properties.textWrapped }
  if event = .hide then update
  else
    { update with
      utf8 := .buffer text
      cursorUtf16 := int32 cursorUtf16
      selectionBeginUtf16 := int32 selectionBeginUtf16
      selectionEndUtf16 := int32 selectionEndUtf16 }

end Mocktail.Input

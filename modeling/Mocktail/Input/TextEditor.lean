/-
  Mocktail.Input.TextEditor — `RobloxTextEditor` (src/runtime/roblox_text_editor.cc), the
  UTF-8 shadow editor of one focused TextBox.

  Every method holds the editor's mutex for its whole length, so it is one step from the
  state to the new state, the calls it made and its result. What the native text sink and
  the clipboard answer is an argument (`Answers`); a method makes each kind of call at most
  once. Sizes are `size_t`: `sizeSub` is its subtraction, with the wrap around. `SecureClear`
  is an assignment of the empty text. The display sink's update carries the session's
  layout properties as one value.
-/

import Mocktail.Base.Status
import Mocktail.Input.TextLayout

namespace Mocktail.Input

def kMaximumTextBytes : Nat := 4 * 1024 * 1024

def kMaximumPendingNativeEchoes : Nat := 16

/-- Subtraction of `std::size_t`. -/
def sizeSub (a b : Nat) : Nat := (a + 2 ^ 64 - b) % 2 ^ 64

/-! ## Data -/

/-- `RobloxTextFocusProperties`. -/
structure TextFocusProperties where
  manualFocusRelease : Bool := false
  multiline : Bool := false
  areaX : Int := 0
  areaY : Int := 0
  areaWidth : Int := 0
  areaHeight : Int := 0
  fontSize : F32 := F32.zero
  xAlignment : Int := 0
  yAlignment : Int := 1
  textColor : Int := 0
  font : Int := 0
  textInputType : Int := 0
  returnKeyType : Int := 0
  textWrapped : Bool := false
  deriving DecidableEq, Repr

/-- `RobloxTextFocusSession`; its initial text is moved to the editor's. -/
structure TextFocusSession where
  textboxHandle : Int := 0
  generation : Nat := 0
  properties : TextFocusProperties := {}
  deriving DecidableEq, Repr

structure TextEditorSnapshot where
  focused : Bool := false
  textboxHandle : Int := 0
  generation : Nat := 0
  textBytes : Nat := 0
  cursorUtf16 : Nat := 0
  selectionBeginUtf16 : Nat := 0
  selectionEndUtf16 : Nat := 0
  committedEdits : UInt64 := 0
  nativeErrors : UInt64 := 0
  deriving DecidableEq, Repr

inductive TextDisplayEvent where
  | show
  | update
  | hide
  deriving DecidableEq, Repr

/-- The calls the editor makes: the native text sink's, the clipboard's and the display's. -/
inductive TextCall where
  | sync (text : Text) (cursorUtf16 : Nat)
  | passText (textboxHandle : Int) (text : Text) (finished : Bool) (cursorUtf16 : Nat)
  | returnPressed (textboxHandle : Int)
  | releaseFocus (textboxHandle : Int)
  | readText
  | writeText (text : Text)
  | display (event : TextDisplayEvent) (session : TextFocusSession) (text : Text)
      (cursorUtf16 selectionBeginUtf16 selectionEndUtf16 : Nat)
  deriving DecidableEq, Repr

/-- What the calls of one method return. -/
structure Answers where
  sync : Status := Status.okStatus
  passText : Status := Status.okStatus
  returnPressed : Status := Status.okStatus
  releaseFocus : Status := Status.okStatus
  readText : Status := Status.okStatus
  /-- The text `ReadText` writes. -/
  clipboardText : Text := []
  writeText : Status := Status.okStatus
  deriving DecidableEq, Repr

/-- The native text sink always returns ok; the clipboard may not. -/
def Answers.sinkOk (a : Answers) : Bool := a.sync.ok && a.passText.ok && a.returnPressed.ok && a.releaseFocus.ok

/-- The tables the editor was built with. -/
structure EditorConfig where
  /-- Every function of the native text sink is there. -/
  sinkComplete : Bool := true
  display : Bool := true
  clipboard : Bool := true
  deriving DecidableEq, Repr

structure TextEditResult where
  handled : Bool := false
  dispatched : Bool := false
  sessionEnded : Bool := false
  status : Status := Status.okStatus
  deriving DecidableEq, Repr

structure Editor where
  session : TextFocusSession := {}
  text : Text := []
  cursorByte : Nat := 0
  selectionAnchorByte : Nat := 0
  compositionBeginByte : Nat := 0
  compositionEndByte : Nat := 0
  compositionOriginalCursorByte : Nat := 0
  compositionOriginalAnchorByte : Nat := 0
  compositionReplacedText : Text := []
  compositionActive : Bool := false
  activeShortcuts : UInt32 := 0
  pendingNativeEchoes : List Text := []
  pendingNativeEchoBytes : Nat := 0
  snapshot : TextEditorSnapshot := {}
  deriving DecidableEq, Repr

/-- A method's outcome. -/
structure Edit where
  ed : Editor
  calls : List TextCall := []
  result : TextEditResult := {}
  deriving DecidableEq, Repr

/-! ## Host events -/

structure KeyEvent where
  pressed : Bool := false
  «repeat» : Bool := false
  scancode : UInt32 := 0
  keycode : UInt32 := 0
  modifiers : UInt32 := 0
  deriving DecidableEq, Repr

structure TextEditingEvent where
  text : Text := []
  start : Int := 0
  length : Int := 0
  deriving DecidableEq, Repr

/-! ## The helpers under the lock -/

namespace Editor

variable (u : Utf8proc) (cfg : EditorConfig) (a : Answers) (ed : Editor)

def selectionBegin : Nat := min ed.cursorByte ed.selectionAnchorByte

def selectionEnd : Nat := max ed.cursorByte ed.selectionAnchorByte

def hasSelection : Bool := ed.cursorByte != ed.selectionAnchorByte

def updateSelectionSnapshot : Editor :=
  { ed with snapshot :=
      { ed.snapshot with
        cursorUtf16 := utf16Cursor u ed.text ed.cursorByte
        selectionBeginUtf16 := utf16Cursor u ed.text ed.selectionBegin
        selectionEndUtf16 := utf16Cursor u ed.text ed.selectionEnd } }

def publishDisplay (event : TextDisplayEvent) : List TextCall :=
  if !cfg.display then []
  else if event = .hide then [.display event ed.session [] 0 0 0]
  else
    [.display event ed.session ed.text ed.snapshot.cursorUtf16 ed.snapshot.selectionBeginUtf16
      ed.snapshot.selectionEndUtf16]

/-- The composition fields, cleared. -/
def dropComposition : Editor :=
  { ed with compositionBeginByte := 0, compositionEndByte := 0, compositionOriginalCursorByte := 0,
            compositionOriginalAnchorByte := 0, compositionReplacedText := [], compositionActive := false }

def clearPendingNativeEchoes : Editor := { ed with pendingNativeEchoes := [], pendingNativeEchoBytes := 0 }

def clear : Editor × List TextCall :=
  ({ ed.dropComposition.clearPendingNativeEchoes with
      session := {}
      text := []
      cursorByte := 0
      selectionAnchorByte := 0
      activeShortcuts := 0
      snapshot := { committedEdits := ed.snapshot.committedEdits, nativeErrors := ed.snapshot.nativeErrors } },
    if ed.snapshot.focused then ed.publishDisplay cfg .hide else [])

def countError : Editor := { ed with snapshot := { ed.snapshot with nativeErrors := ed.snapshot.nativeErrors + 1 } }

def syncCall : TextCall := .sync ed.text ed.snapshot.cursorUtf16

def passCall (finished : Bool) : TextCall :=
  .passText ed.session.textboxHandle ed.text finished ed.snapshot.cursorUtf16

/-- A failed native call: the focus is released and the session ends. -/
def abandon (status : Status) (calls : List TextCall) : Edit :=
  let cleared := (ed.countError).clear cfg
  ⟨cleared.1, calls ++ [TextCall.releaseFocus ed.session.textboxHandle] ++ cleared.2, ⟨true, false, true, status⟩⟩

/-- The loop of `RememberPendingNativeEchoLocked`: the oldest echoes make room. -/
def evictEchoes (size : Nat) : List Text → Nat → List Text × Nat
  | [], bytes => ([], bytes)
  | echo :: echoes, bytes =>
    if kMaximumPendingNativeEchoes ≤ (echo :: echoes).length || sizeSub kMaximumTextBytes size < bytes then
      evictEchoes size echoes (sizeSub bytes echo.length)
    else (echo :: echoes, bytes)

def rememberPendingNativeEcho : Editor :=
  if ed.pendingNativeEchoes.getLast? = some ed.text then ed
  else
    let kept := evictEchoes ed.text.length ed.pendingNativeEchoes ed.pendingNativeEchoBytes
    { ed with pendingNativeEchoes := kept.1 ++ [ed.text], pendingNativeEchoBytes := (kept.2 + ed.text.length) % 2 ^ 64 }

/-- `ConsumePendingNativeEchoLocked`: the first echo equal to `text` is taken out. -/
def consumePendingNativeEcho (text : Text) : Option Editor :=
  if text ∈ ed.pendingNativeEchoes then
    some { ed with pendingNativeEchoes := ed.pendingNativeEchoes.erase text
                   pendingNativeEchoBytes := sizeSub ed.pendingNativeEchoBytes text.length }
  else none

/-- `text_` with the bytes from `begin` to `end` replaced. -/
def splice (text : Text) (first last : Nat) (replacement : Text) : Text :=
  text.take first ++ replacement ++ text.drop last

/-- The native calls of a changed text, and what follows from their results. -/
def commitText (committed : Bool) : Edit :=
  if !a.sync.ok then ed.abandon cfg a.sync [ed.syncCall]
  else if !a.passText.ok then ed.abandon cfg a.passText [ed.syncCall, ed.passCall false]
  else
    let ed' := ed.rememberPendingNativeEcho
    let ed' :=
      if committed then { ed' with snapshot := { ed'.snapshot with committedEdits := ed'.snapshot.committedEdits + 1 } }
      else ed'
    ⟨ed', [ed.syncCall, ed.passCall false] ++ ed'.publishDisplay cfg .update, ⟨true, true, false, a.passText⟩⟩

def replaceText (first last : Nat) (replacement : Text) : Edit :=
  let text := splice ed.text first last replacement
  let cursor := first + replacement.length
  let ed := { ed with text := text, cursorByte := cursor, selectionAnchorByte := cursor }.dropComposition
  let ed := { ed with snapshot := { ed.snapshot with textBytes := ed.text.length } }
  (ed.updateSelectionSnapshot u).commitText cfg a true

def replaceComposition (event : TextEditingEvent) : Edit :=
  if !ed.compositionActive && event.text.isEmpty then ⟨ed, [], { handled := true }⟩
  else
    let first := if ed.compositionActive then ed.compositionBeginByte else ed.selectionBegin
    let last := if ed.compositionActive then ed.compositionEndByte else ed.selectionEnd
    if !(layout u event.text).valid ||
        sizeSub kMaximumTextBytes (sizeSub ed.text.length (sizeSub last first)) < event.text.length then
      ⟨ed, [], ⟨true, false, false, Status.invalidArgument "preedit text is invalid UTF-8 or too large"⟩⟩
    else
      let ed :=
        if ed.compositionActive then ed
        else
          { ed with
            compositionOriginalCursorByte := ed.cursorByte
            compositionOriginalAnchorByte := ed.selectionAnchorByte
            compositionReplacedText := (ed.text.drop first).take (last - first) }
      let cancel := event.text.isEmpty
      let visible := if cancel then ed.compositionReplacedText else event.text
      let ed :=
        { ed with
          text := splice ed.text first last visible
          compositionBeginByte := first
          compositionEndByte := first + visible.length
          compositionActive := !cancel }
      let ed :=
        if cancel then
          { ed with
            cursorByte := ed.compositionOriginalCursorByte
            selectionAnchorByte := ed.compositionOriginalAnchorByte
            compositionOriginalCursorByte := 0
            compositionOriginalAnchorByte := 0
            compositionReplacedText := [] }
        else
          let cursor := first + utf8CharacterByteOffset u event.text event.start
          { ed with cursorByte := cursor, selectionAnchorByte := cursor }
      let ed := { ed with snapshot := { ed.snapshot with textBytes := ed.text.length } }
      (ed.updateSelectionSnapshot u).commitText cfg a false

/-- The cursor or the selection moved from where `previous` has them. -/
def movedFrom (previous : Editor) : Edit :=
  if ed.cursorByte == previous.cursorByte && ed.selectionAnchorByte == previous.selectionAnchorByte then
    ⟨ed, [], { handled := true }⟩
  else
    let shown := ed.updateSelectionSnapshot u
    if ed.cursorByte == previous.cursorByte then ⟨shown, shown.publishDisplay cfg .update, { handled := true }⟩
    else if !a.sync.ok then shown.abandon cfg a.sync [shown.syncCall]
    else ⟨shown, shown.syncCall :: shown.publishDisplay cfg .update, ⟨true, true, false, a.sync⟩⟩

def moveCursor (byteOffset : Nat) (extendSelection : Bool) : Edit :=
  { ed with cursorByte := byteOffset
            selectionAnchorByte := if extendSelection then ed.selectionAnchorByte else byteOffset }.movedFrom u cfg a ed

def selectAll : Edit := { ed with selectionAnchorByte := 0, cursorByte := ed.text.length }.movedFrom u cfg a ed

def isPasswordInputType (textInputType : Int) : Bool :=
  textInputType == 5 || textInputType == 9 || textInputType == 10

def copySelection (cut : Bool) : Edit :=
  if !ed.hasSelection || !cfg.clipboard || isPasswordInputType ed.session.properties.textInputType then
    ⟨ed, [], { handled := true }⟩
  else
    let selected := (ed.text.drop ed.selectionBegin).take (ed.selectionEnd - ed.selectionBegin)
    -- A copy failure is non-fatal and must not close the focused TextBox.
    if !a.writeText.ok || !cut then ⟨ed, [.writeText selected], { handled := true }⟩
    else
      let r := ed.replaceText u cfg a ed.selectionBegin ed.selectionEnd []
      { r with calls := .writeText selected :: r.calls }

def paste : Edit :=
  if !cfg.clipboard then ⟨ed, [], { handled := true }⟩
  else if !a.readText.ok || a.clipboardText.isEmpty ||
      sizeSub kMaximumTextBytes (sizeSub ed.text.length (sizeSub ed.selectionEnd ed.selectionBegin)) <
        a.clipboardText.length ||
      !(layout u a.clipboardText).valid then ⟨ed, [.readText], { handled := true }⟩
  else
    let r := ed.replaceText u cfg a ed.selectionBegin ed.selectionEnd a.clipboardText
    { r with calls := .readText :: r.calls }

/-- Sync, return, then (unless manual release is requested) pass the final text and hide the editor. -/
def finish : Edit :=
  let handle := ed.session.textboxHandle
  if !a.sync.ok then ed.abandon cfg a.sync [ed.syncCall]
  else if !a.returnPressed.ok then ed.abandon cfg a.returnPressed [ed.syncCall, .returnPressed handle]
  else if ed.session.properties.manualFocusRelease then
    ⟨ed, [ed.syncCall, .returnPressed handle], ⟨true, true, false, a.returnPressed⟩⟩
  else if !a.passText.ok then
    ed.abandon cfg a.passText [ed.syncCall, .returnPressed handle, ed.passCall true]
  else
    let cleared := ed.clear cfg
    ⟨cleared.1, [ed.syncCall, .returnPressed handle, ed.passCall true] ++ cleared.2, ⟨true, true, true, a.passText⟩⟩

def release : Edit :=
  let call := TextCall.releaseFocus ed.session.textboxHandle
  if !a.releaseFocus.ok then ⟨ed.countError, [call], ⟨true, false, false, a.releaseFocus⟩⟩
  else
    let cleared := ed.clear cfg
    ⟨cleared.1, call :: cleared.2, ⟨true, true, true, Status.okStatus⟩⟩

/-! ## The focus session -/

def beginFocusSession (session : TextFocusSession) (initialText : Text) : Editor × List TextCall × Status :=
  if session.textboxHandle == 0 || session.generation == 0 then
    (ed, [], Status.invalidArgument "TextBox handle and generation must be non-zero")
  else if kMaximumTextBytes < initialText.length || !(layout u initialText).valid then
    (ed, [], Status.invalidArgument "initial TextBox text is invalid UTF-8 or too large")
  else if !cfg.sinkComplete then
    (ed, [], Status.unsupported "Roblox TextBox native export table is incomplete")
  else
    -- A new session is evidence that the engine already switched focus: the old handle is not released.
    let cleared := if ed.snapshot.focused then ed.clear cfg else (ed, [])
    let ed := cleared.1.dropComposition
    let ed :=
      { ed with
        text := initialText
        session := session
        cursorByte := initialText.length
        selectionAnchorByte := initialText.length
        activeShortcuts := 0
        snapshot :=
          { ed.snapshot with
            focused := true
            textboxHandle := session.textboxHandle
            generation := session.generation
            textBytes := initialText.length } }.updateSelectionSnapshot u
    (ed, cleared.2 ++ ed.publishDisplay cfg .show, Status.okStatus)

def endFocusSession (textboxHandle : Int) (generation : Nat) (notifyNative : Bool) : Editor × List TextCall × Status :=
  if !ed.snapshot.focused then (ed, [], Status.okStatus)
  else if textboxHandle != ed.session.textboxHandle || generation != ed.session.generation then
    (ed, [], Status.failedPrecondition "stale Roblox TextBox focus generation")
  else
    let released := if notifyNative then [TextCall.releaseFocus ed.session.textboxHandle] else []
    let status := if notifyNative then a.releaseFocus else Status.okStatus
    let cleared := (if status.ok then ed else ed.countError).clear cfg
    (cleared.1, released ++ cleared.2, status)

/-- The text becomes the engine's, with the cursor at its end. -/
def adoptText (text : Text) : Editor × List TextCall :=
  let ed := { ed with text := text, cursorByte := text.length, selectionAnchorByte := text.length }.dropComposition
  let ed := { ed with snapshot := { ed.snapshot with textBytes := text.length } }.updateSelectionSnapshot u
  (ed, ed.publishDisplay cfg .update)

def replaceFocusedTextFromEngine (generation : Nat) (authoritative : Text) : Editor × List TextCall × Status :=
  if !ed.snapshot.focused || generation != ed.session.generation then
    (ed, [], Status.failedPrecondition "stale Roblox TextBox engine update")
  else if kMaximumTextBytes < authoritative.length || !(layout u authoritative).valid then
    (ed, [], Status.invalidArgument "engine TextBox text is invalid UTF-8 or too large")
  else if authoritative.isEmpty then
    -- An empty engine update wins even when it matches an older host echo.
    let r := ed.clearPendingNativeEchoes.adoptText u cfg []
    (r.1, r.2, Status.okStatus)
  else
    match ed.consumePendingNativeEcho authoritative with
    | some ed => (ed, [], Status.okStatus)
    | none =>
      if authoritative == ed.text then (ed, [], Status.okStatus)
      else
        let r := ed.adoptText u cfg authoritative
        (r.1, r.2, Status.okStatus)

def updateFocusProperties (generation : Nat) (properties : TextFocusProperties) : Editor × List TextCall × Status :=
  if !ed.snapshot.focused || generation != ed.session.generation then
    (ed, [], Status.failedPrecondition "stale Roblox TextBox property update")
  else
    let ed := { ed with session := { ed.session with properties := properties } }
    (ed, ed.publishDisplay cfg .update, Status.okStatus)

/-! ## Host events -/

def handleTextInput (text : Text) : Edit :=
  if !ed.snapshot.focused then ⟨ed, [], {}⟩
  else if text.isEmpty then ⟨ed, [], { handled := true }⟩
  else
    let first := if ed.compositionActive then ed.compositionBeginByte else ed.selectionBegin
    let last := if ed.compositionActive then ed.compositionEndByte else ed.selectionEnd
    if !(layout u text).valid ||
        sizeSub kMaximumTextBytes (sizeSub ed.text.length (sizeSub last first)) < text.length then
      ⟨ed, [], ⟨true, false, false, Status.invalidArgument "committed text is invalid UTF-8 or too large"⟩⟩
    else ed.replaceText u cfg a first last text

def handleTextEditing (event : TextEditingEvent) : Edit :=
  if !ed.snapshot.focused then ⟨ed, [], {}⟩ else ed.replaceComposition u cfg a event

end Editor

/-! ## Keys -/

namespace Scancode

/-! SDL scancodes are USB HID usages. -/

def a : UInt32 := 4
def c : UInt32 := 6
def v : UInt32 := 25
def x : UInt32 := 27
def «return» : UInt32 := 40
def escape : UInt32 := 41
def backspace : UInt32 := 42
def home : UInt32 := 74
def delete : UInt32 := 76
def «end» : UInt32 := 77
def right : UInt32 := 79
def left : UInt32 := 80
def kpEnter : UInt32 := 88

end Scancode

def kShortcutSelectAll : UInt32 := 1
def kShortcutCopy : UInt32 := 2
def kShortcutPaste : UInt32 := 4
def kShortcutCut : UInt32 := 8

def shortcutBit (scancode : UInt32) : UInt32 :=
  if scancode == Scancode.a then kShortcutSelectAll
  else if scancode == Scancode.c then kShortcutCopy
  else if scancode == Scancode.v then kShortcutPaste
  else if scancode == Scancode.x then kShortcutCut
  else 0

namespace KeyEvent

variable (e : KeyEvent)

/-- `SDL_KMOD_CTRL`, `SDL_KMOD_ALT` and `SDL_KMOD_SHIFT`, left or right. -/
def ctrlPressed : Bool := e.modifiers &&& 0x00C0 != 0
def altPressed : Bool := e.modifiers &&& 0x0300 != 0
def shiftPressed : Bool := e.modifiers &&& 0x0003 != 0

def shortcut : Bool := shortcutBit e.scancode != 0 && e.ctrlPressed && !e.altPressed

/-- The key edits the text of a focused TextBox. -/
def editKey : Bool :=
  e.scancode == Scancode.backspace || e.scancode == Scancode.delete || e.scancode == Scancode.left ||
    e.scancode == Scancode.right || e.scancode == Scancode.home || e.scancode == Scancode.end ||
    e.scancode == Scancode.return || e.scancode == Scancode.kpEnter || e.scancode == Scancode.escape || e.shortcut

end KeyEvent

namespace Editor

variable (u : Utf8proc) (cfg : EditorConfig) (a : Answers) (ed : Editor)

/-- `std::lower_bound`: the index of the first boundary not below `x`. -/
def lowerBound (bounds : List Nat) (x : Nat) : Nat := (bounds.takeWhile (· < x)).length

/-- A pressed editing key that is no shortcut, without a composition. -/
def editText (e : KeyEvent) : Edit :=
  let bounds := (layout u ed.text).graphemeBoundaries
  let current := lowerBound bounds ed.cursorByte
  if e.scancode == Scancode.backspace then
    if ed.hasSelection then ed.replaceText u cfg a ed.selectionBegin ed.selectionEnd []
    else if current == 0 then ⟨ed, [], { handled := true }⟩
    else ed.replaceText u cfg a (bounds.getD (current - 1) 0) ed.cursorByte []
  else if e.scancode == Scancode.delete then
    if ed.hasSelection then ed.replaceText u cfg a ed.selectionBegin ed.selectionEnd []
    else if current == bounds.length || current + 1 == bounds.length then ⟨ed, [], { handled := true }⟩
    else ed.replaceText u cfg a ed.cursorByte (bounds.getD (current + 1) 0) []
  else if e.scancode == Scancode.left then
    if ed.hasSelection && !e.shiftPressed then ed.moveCursor u cfg a ed.selectionBegin false
    else
      ed.moveCursor u cfg a (if current == 0 then ed.cursorByte else bounds.getD (current - 1) 0) e.shiftPressed
  else if e.scancode == Scancode.right then
    if ed.hasSelection && !e.shiftPressed then ed.moveCursor u cfg a ed.selectionEnd false
    else
      ed.moveCursor u cfg a (if current + 1 == bounds.length then ed.cursorByte else bounds.getD (current + 1) 0)
        e.shiftPressed
  else if e.scancode == Scancode.home then ed.moveCursor u cfg a 0 e.shiftPressed
  else if e.scancode == Scancode.end then ed.moveCursor u cfg a ed.text.length e.shiftPressed
  else if e.scancode == Scancode.escape then ed.release cfg a
  else if ed.session.properties.multiline then ed.replaceText u cfg a ed.selectionBegin ed.selectionEnd [0x0A]
  else ed.finish cfg a

def handleKey (e : KeyEvent) : Edit :=
  let bit := shortcutBit e.scancode
  if !ed.snapshot.focused then ⟨ed, [], {}⟩
  else if !e.pressed && bit != 0 && ed.activeShortcuts &&& bit != 0 then
    ⟨{ ed with activeShortcuts := ed.activeShortcuts &&& ~~~bit }, [], { handled := true }⟩
  else if !e.editKey then ⟨ed, [], {}⟩
  -- Swallow both halves so editing keys are never duplicated through nativePassKeyEvent.
  else if !e.pressed then ⟨ed, [], { handled := true }⟩
  else
    let ed := if e.shortcut then { ed with activeShortcuts := ed.activeShortcuts ||| bit } else ed
    -- The IME owns editing keys while composition is active.
    if ed.compositionActive then ⟨ed, [], { handled := true }⟩
    else if bit == kShortcutSelectAll then ed.selectAll u cfg a
    else if bit == kShortcutCopy then ed.copySelection u cfg a false
    else if bit == kShortcutPaste then ed.paste u cfg a
    else if bit == kShortcutCut then ed.copySelection u cfg a true
    else ed.editText u cfg a e

/-! ## Which keys the editor takes -/

/-- The editor takes the key; the router passes it on otherwise. -/
def takesKey (e : KeyEvent) : Bool :=
  ed.snapshot.focused &&
    (!e.pressed && shortcutBit e.scancode != 0 && ed.activeShortcuts &&& shortcutBit e.scancode != 0 || e.editKey)

theorem commitText_handled (b : Bool) : (ed.commitText cfg a b).result.handled = true := by
  unfold commitText
  split
  · rfl
  split <;> rfl

theorem movedFrom_handled (previous : Editor) : (ed.movedFrom u cfg a previous).result.handled = true := by
  unfold movedFrom
  split
  · rfl
  simp only
  split
  · rfl
  split <;> rfl

theorem finish_handled : (ed.finish cfg a).result.handled = true := by
  unfold finish
  simp only
  split
  · rfl
  split
  · rfl
  split
  · rfl
  split <;> rfl

theorem release_handled : (ed.release cfg a).result.handled = true := by
  unfold release
  simp only
  split <;> rfl

theorem copySelection_handled (cut : Bool) : (ed.copySelection u cfg a cut).result.handled = true := by
  unfold copySelection
  split
  · rfl
  simp only
  split
  · rfl
  · exact commitText_handled cfg a _ true

theorem paste_handled : (ed.paste u cfg a).result.handled = true := by
  unfold paste
  split
  · rfl
  split
  · rfl
  · exact commitText_handled cfg a _ true

theorem editText_handled (e : KeyEvent) : (ed.editText u cfg a e).result.handled = true := by
  have hr : ∀ i j t, (ed.replaceText u cfg a i j t).result.handled = true := fun _ _ _ => commitText_handled cfg a _ true
  have hm : ∀ i b, (ed.moveCursor u cfg a i b).result.handled = true := fun _ _ => movedFrom_handled u cfg a _ ed
  simp only [editText, apply_ite Edit.result, apply_ite TextEditResult.handled, hr, hm, finish_handled, release_handled,
    ite_self]

theorem pressed_handled (e : KeyEvent) (bit : UInt32) :
    (if ed.compositionActive then (⟨ed, [], { handled := true }⟩ : Edit)
      else if bit == kShortcutSelectAll then ed.selectAll u cfg a
      else if bit == kShortcutCopy then ed.copySelection u cfg a false
      else if bit == kShortcutPaste then ed.paste u cfg a
      else if bit == kShortcutCut then ed.copySelection u cfg a true
      else ed.editText u cfg a e).result.handled = true := by
  split
  · rfl
  split
  · exact movedFrom_handled u cfg a _ ed
  split
  · exact copySelection_handled u cfg a ed false
  split
  · exact paste_handled u cfg a ed
  split
  · exact copySelection_handled u cfg a ed true
  · exact editText_handled u cfg a ed e

theorem handleKey_handled (e : KeyEvent) : (ed.handleKey u cfg a e).result.handled = ed.takesKey e := by
  unfold handleKey takesKey
  simp only
  by_cases hf : ed.snapshot.focused = true
  swap
  · rw [if_pos (by simpa using hf), Bool.eq_false_iff.mpr hf]
    rfl
  rw [if_neg (by simp [hf]), hf, Bool.true_and]
  by_cases hs : (!e.pressed && shortcutBit e.scancode != 0 && ed.activeShortcuts &&& shortcutBit e.scancode != 0) = true
  · rw [if_pos hs, hs]
    rfl
  rw [if_neg hs, Bool.eq_false_iff.mpr hs, Bool.false_or]
  by_cases hk : e.editKey = true
  swap
  · rw [if_pos (by simpa using hk), Bool.eq_false_iff.mpr hk]
  rw [if_neg (by simp [hk]), hk]
  by_cases hp : (!e.pressed) = true
  · rw [if_pos hp]
  rw [if_neg hp]
  exact pressed_handled u cfg a _ e (shortcutBit e.scancode)

end Editor

end Mocktail.Input

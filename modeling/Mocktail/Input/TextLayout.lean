/-
  Mocktail.Input.TextLayout — UTF-8 layout of the text editor
  (`Layout`, `Utf16Cursor`, `Utf8CharacterByteOffset` in src/runtime/roblox_text_editor.cc).

  A text is its bytes. utf8proc is a parameter: `iterate` reads one code point off the front
  of a string and returns how many bytes it took (0 or an error below 0 otherwise), and
  `graphemeBreakStateful` tells whether a grapheme ends between two code points. Each loop
  of the source consumes at least one byte an iteration, so the length of the text plus one
  is fuel enough.
-/

import Mathlib.Algebra.Ring.Nat
import Mathlib.Algebra.Ring.Int.Defs

namespace Mocktail.Input

abbrev Text := List UInt8

structure Utf8proc where
  /-- `utf8proc_iterate`: the count it returns and the code point it writes. -/
  iterate : Text → Int × Nat
  /-- `utf8proc_grapheme_break_stateful`: a break, and the state after it. -/
  graphemeBreakStateful : Nat → Nat → Int → Bool × Int

structure Utf8Layout where
  valid : Bool := false
  utf16Units : Nat := 0
  graphemeBoundaries : List Nat := [0]
  deriving DecidableEq, Repr

def utf16Width (codepoint : Nat) : Nat := if 0xffff < codepoint then 2 else 1

/-- `std::numeric_limits<int32_t>::max()`. -/
def maxInt32 : Nat := 2 ^ 31 - 1

variable (u : Utf8proc)

/-- The loop of `Layout` at `offset`, with `rest` the bytes from there. -/
def layoutLoop (size : Nat) : Nat → Text → Nat → Option Nat → Int → Nat → List Nat → Utf8Layout
  | 0, _, _, _, _, _, bounds => { graphemeBoundaries := bounds }
  | _ + 1, [], _, _, _, units, bounds =>
    { valid := true
      utf16Units := units
      graphemeBoundaries := if bounds.getLast? = some size then bounds else bounds ++ [size] }
  | fuel + 1, rest@(_ :: _), offset, previous, breakState, units, bounds =>
    let (count, codepoint) := u.iterate rest
    if count ≤ 0 then { graphemeBoundaries := bounds }
    else
      let (broken, breakState) :=
        match previous with
        | some p => u.graphemeBreakStateful p codepoint breakState
        | none => (false, breakState)
      let bounds := if broken then bounds ++ [offset] else bounds
      let units := units + utf16Width codepoint
      if maxInt32 < units then { graphemeBoundaries := bounds }
      else layoutLoop size fuel (rest.drop count.toNat) (offset + count.toNat) (some codepoint) breakState units bounds

def layout (text : Text) : Utf8Layout := layoutLoop u text.length (text.length + 1) text 0 none 0 0 [0]

def utf16CursorLoop : Nat → Text → Nat → Nat
  | 0, _, _ => 0
  | _ + 1, [], units => units
  | fuel + 1, rest@(_ :: _), units =>
    let (count, codepoint) := u.iterate rest
    if count ≤ 0 then 0 else utf16CursorLoop fuel (rest.drop count.toNat) (units + utf16Width codepoint)

def utf16Cursor (text : Text) (byteOffset : Nat) : Nat :=
  utf16CursorLoop u ((text.take byteOffset).length + 1) (text.take byteOffset) 0

def utf8CharacterLoop (size : Nat) : Nat → Text → Nat → Nat
  | 0, _, offset => offset
  | _ + 1, [], offset => offset
  | index + 1, rest@(_ :: _), offset =>
    let (count, _) := u.iterate rest
    if count ≤ 0 then size else utf8CharacterLoop size index (rest.drop count.toNat) (offset + count.toNat)

def utf8CharacterByteOffset (text : Text) (characterIndex : Int) : Nat :=
  if characterIndex < 0 then text.length else utf8CharacterLoop u text.length characterIndex.toNat text 0

/-! ## The decoder as utf8proc documents it -/

def utfCont (b : UInt8) : Bool := b.toNat / 64 == 2

/-- Strict UTF-8: no overlong form, no surrogate, nothing above U+10FFFF. -/
def strictIterate : Text → Int × Nat
  | [] => (0, 0)
  | a :: rest =>
    let a := a.toNat
    if a < 0x80 then (1, a)
    else if a < 0xc2 || 0xf4 < a then (-3, 0)
    else
      match decide (a < 0xe0), decide (a < 0xf0), rest with
      | true, _, b :: _ => if utfCont b then (2, a % 32 * 64 + b.toNat % 64) else (-3, 0)
      | false, true, b :: c :: _ =>
        let cp := a % 16 * 4096 + b.toNat % 64 * 64 + c.toNat % 64
        if !utfCont b || !utfCont c || (a == 0xed && decide (0x9f < b.toNat)) || decide (cp < 0x800) then (-3, 0)
        else (3, cp)
      | false, false, b :: c :: d :: _ =>
        if !utfCont b || !utfCont c || !utfCont d || (a == 0xf0 && decide (b.toNat < 0x90)) ||
            (a == 0xf4 && decide (0x8f < b.toNat)) then (-3, 0)
        else (4, a % 8 * 262144 + b.toNat % 64 * 4096 + c.toNat % 64 * 64 + d.toNat % 64)
      | _, _, _ => (-3, 0)

/-- The decoder with a break between any two code points, as between two letters. -/
def plainUtf8proc : Utf8proc := ⟨strictIterate, fun _ _ s => (true, s)⟩

end Mocktail.Input

/-
  Mocktail.Graphics.EtcSpecification — ETC2 and EAC blocks as their specification defines them.

  The specification reads a block as one big-endian 64-bit number and names fields of its bits;
  `etc2_decoder.cc` picks the same fields out of single bytes. Nothing here is taken from the
  decoder: fields are given by bit positions, colours are extended by replication, written as
  arithmetic, and tables hold the magnitudes the specification lists.
-/

import Mocktail.Graphics.EtcBlocks
import Mocktail.Lib.BitFields

namespace Mocktail.Graphics.Specification

open Mocktail.Lib

/-- The block as one number, its first byte most significant. -/
def word (b : Block) : Nat := (List.ofFn b).foldl (fun w byte => w * 256 + byte.toNat) 0

/-! ## Colour -/

inductive Mode where
  | individual
  | differential
  | t
  | h
  | planar
  deriving DecidableEq, Repr

def clampByte (value : Int) : Nat := (max 0 (min 255 value)).toNat

def extend4 (v : Nat) : Nat := v * 16 + v
def extend5 (v : Nat) : Nat := v * 8 + v / 4
def extend6 (v : Nat) : Nat := v * 4 + v / 16
def extend7 (v : Nat) : Nat := v * 2 + v / 64

/-- The magnitudes a and b of each table codeword. -/
def modifiers : List (Nat × Nat) := [(2, 8), (5, 17), (9, 29), (13, 42), (18, 60), (24, 80), (33, 106), (47, 183)]

def distances : List Nat := [3, 6, 11, 16, 23, 32, 41, 64]

section
variable (w : Nat)

/-- Bit 33: the differential bit, or the opaque bit where the format has punchthrough alpha. -/
def diffBit : Nat := bits w 33 33

def flipBit : Nat := bits w 32 32

/-- The differential base colours of a channel (0, 1, 2 for red, green, blue): five bits, and a
    difference of three in two's complement. -/
def base5 (c : Nat) : Nat := bits w (63 - 8 * c) (59 - 8 * c)

def difference (c : Nat) : Int :=
  let d := bits w (58 - 8 * c) (56 - 8 * c)
  if d < 4 then d else (d : Int) - 8

def second (c : Nat) : Int := base5 w c + difference w c

def overflows (c : Nat) : Bool := second w c < 0 || 31 < second w c

/-- There is no individual mode with punchthrough alpha. -/
def mode (punchthrough : Bool) : Mode :=
  if !punchthrough && diffBit w == 0 then .individual
  else if overflows w 0 then .t
  else if overflows w 1 then .h
  else if overflows w 2 then .planar
  else .differential

/-- The two index bits of a texel, texels counted down the columns. -/
def pixelIndex (x y : Nat) : Nat := 2 * bits w (16 + (4 * x + y)) (16 + (4 * x + y)) + bits w (4 * x + y) (4 * x + y)

/-- Two columns each side by side, or two rows each one above the other when flipped. -/
def subblock (x y : Nat) : Nat := if flipBit w = 0 then x / 2 else y / 2

def tableCodeword (s : Nat) : Nat := if s = 0 then bits w 39 37 else bits w 36 34

def modifier (s index : Nat) : Int :=
  let (a, b) := modifiers.getD (tableCodeword w s) (0, 0)
  match index with
  | 0 => a
  | 1 => b
  | 2 => -a
  | _ => -b

def individualBase (s c : Nat) : Nat :=
  if s = 0 then extend4 (bits w (63 - 8 * c) (60 - 8 * c)) else extend4 (bits w (59 - 8 * c) (56 - 8 * c))

def differentialBase (s c : Nat) : Nat := if s = 0 then extend5 (base5 w c) else extend5 (second w c).toNat

/-- T: a colour alone and three around another. -/
def tColours : List Nat × List Nat :=
  ([extend4 (bits w 60 59 * 4 + bits w 57 56), extend4 (bits w 55 52), extend4 (bits w 51 48)],
    [extend4 (bits w 47 44), extend4 (bits w 43 40), extend4 (bits w 39 36)])

def tChannel (index c : Nat) : Int :=
  let first := (tColours w).1.getD c 0
  let second := (tColours w).2.getD c 0
  let d := distances.getD (bits w 35 34 * 2 + bits w 32 32) 0
  match index with
  | 0 => first
  | 1 => second + d
  | 2 => second
  | _ => second - d

/-- H: two colours around each of two. The order of the two gives the last bit of the distance. -/
def hColours : List Nat × List Nat :=
  ([extend4 (bits w 62 59), extend4 (bits w 58 56 * 2 + bits w 52 52), extend4 (bits w 51 51 * 8 + bits w 49 47)],
    [extend4 (bits w 46 43), extend4 (bits w 42 39), extend4 (bits w 38 35)])

def colourNumber (colour : List Nat) : Nat := colour.foldl (fun n v => n * 256 + v) 0

def hDistance : Nat :=
  let order := if colourNumber (hColours w).2 ≤ colourNumber (hColours w).1 then 1 else 0
  distances.getD (bits w 34 34 * 4 + bits w 32 32 * 2 + order) 0

def hChannel (index c : Nat) : Int :=
  let first := (hColours w).1.getD c 0
  let second := (hColours w).2.getD c 0
  match index with
  | 0 => first + hDistance w
  | 1 => first - hDistance w
  | 2 => second + hDistance w
  | _ => second - hDistance w

/-- Planar: the colours at the origin and four texels to the right and below. -/
def planarOrigin (c : Nat) : Nat :=
  [extend6 (bits w 62 57), extend7 (bits w 56 56 * 64 + bits w 54 49),
    extend6 (bits w 48 48 * 32 + bits w 44 43 * 8 + bits w 41 39)].getD c 0

def planarHorizontal (c : Nat) : Nat :=
  [extend6 (bits w 38 34 * 2 + bits w 32 32), extend7 (bits w 31 25), extend6 (bits w 24 19)].getD c 0

def planarVertical (c : Nat) : Nat := [extend6 (bits w 18 13), extend7 (bits w 12 6), extend6 (bits w 5 0)].getD c 0

def planarChannel (x y c : Nat) : Int :=
  let o : Int := planarOrigin w c
  (x * (planarHorizontal w c - o) + y * (planarVertical w c - o) + 4 * o + 2) / 4

/-- A texel that is not opaque has index 2, in every mode but planar. -/
def transparent (punchthrough : Bool) (x y : Nat) : Bool :=
  punchthrough && diffBit w == 0 && pixelIndex w x y == 2 && mode w punchthrough != .planar

/-- Without the opaque bit the small modifiers are zero; the negative one is the transparent texel. -/
def modifierAt (punchthrough : Bool) (x y : Nat) : Int :=
  if punchthrough && diffBit w == 0 && pixelIndex w x y == 0 then 0
  else modifier w (subblock w x y) (pixelIndex w x y)

def channel (punchthrough : Bool) (x y c : Nat) : Int :=
  match mode w punchthrough with
  | .individual => individualBase w (subblock w x y) c + modifierAt w punchthrough x y
  | .differential => differentialBase w (subblock w x y) c + modifierAt w punchthrough x y
  | .t => tChannel w (pixelIndex w x y) c
  | .h => hChannel w (pixelIndex w x y) c
  | .planar => planarChannel w x y c

/-- Red, green, blue and alpha of the texel at column `x` and row `y` of the block. -/
def texel (punchthrough : Bool) (x y : Nat) : List Nat :=
  if transparent w punchthrough x y then [0, 0, 0, 0]
  else (List.range 3).map (fun c => clampByte (channel w punchthrough x y c)) ++ [255]

/-! ## EAC -/

/-- The magnitudes of the four negative modifiers of each table; a positive one is less by one. -/
def magnitudes : List (List Nat) :=
  [[3, 6, 9, 15], [3, 7, 10, 13], [2, 5, 8, 13], [2, 4, 6, 13], [3, 6, 8, 12], [3, 7, 9, 11], [4, 7, 8, 11],
    [3, 5, 8, 11], [2, 6, 8, 10], [2, 5, 8, 10], [2, 4, 8, 10], [2, 5, 7, 10], [3, 4, 7, 10], [1, 2, 3, 10],
    [4, 6, 8, 9], [3, 5, 7, 9]]

/-- The modifier of a texel; its three bits are counted from bit 47 down. -/
def eacModifierAt (x y : Nat) : Int :=
  let index := bits w (47 - 3 * (4 * x + y)) (45 - 3 * (4 * x + y))
  let magnitude := (magnitudes.getD (bits w 51 48) []).getD (index % 4) 0
  if index < 4 then -magnitude else magnitude - 1

def eacMultiplier : Nat := bits w 55 52

def alpha (x y : Nat) : Nat := clampByte (bits w 63 56 + eacModifierAt w x y * eacMultiplier w)

/-- The modifier in eighths of a base step; a multiplier of zero counts as one eighth. -/
def scaledModifier (x y : Nat) : Int :=
  if eacMultiplier w = 0 then eacModifierAt w x y else eacModifierAt w x y * eacMultiplier w * 8

def unsigned11 (x y : Nat) : Nat := (max 0 (min 2047 (bits w 63 56 * 8 + 4 + scaledModifier w x y))).toNat

/-- The base in two's complement, with -128 read as -127. -/
def signedBase : Int := max (-127) (if bits w 63 56 < 128 then bits w 63 56 else (bits w 63 56 : Int) - 256)

def signed11 (x y : Nat) : Int := max (-1023) (min 1023 (signedBase w * 8 + scaledModifier w x y))

/-- The extensions to 16 bits repeat the highest bits, of the magnitude when signed. -/
def unsigned16 (x y : Nat) : Nat := unsigned11 w x y * 32 + unsigned11 w x y / 64

def signed16 (x y : Nat) : Int :=
  (signed11 w x y).sign * ((signed11 w x y).natAbs * 32 + (signed11 w x y).natAbs / 32 : Nat)

end

/-! ## Formats -/

def littleEndian (v : Nat) : List Nat := [v % 256, v / 256]

/-- The bytes of a texel; `part` gives the words of its block. Alpha comes before colour and red
    before green. -/
def texelBytes (format : EtcFormat) (part : Nat → Nat) (x y : Nat) : List Nat :=
  let signed (w : Nat) : List Nat := littleEndian (signed16 w x y % 65536).toNat
  match format with
  | .etc2Rgb8 => texel (part 0) false x y
  | .etc2Rgb8A1 => texel (part 0) true x y
  | .etc2Rgba8 => (texel (part 1) false x y).take 3 ++ [alpha (part 0) x y]
  | .eacR11 => littleEndian (unsigned16 (part 0) x y)
  | .eacR11Signed => signed (part 0)
  | .eacRg11 => littleEndian (unsigned16 (part 0) x y) ++ littleEndian (unsigned16 (part 1) x y)
  | .eacRg11Signed => signed (part 0) ++ signed (part 1)

end Mocktail.Graphics.Specification

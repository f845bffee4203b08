/-
  Mocktail.Graphics.EtcBlocks — decoding one ETC2 or EAC block (`etc2_decoder.cc`).

  A block of 8 bytes holds 4 by 4 texels, numbered column by column: texel 4x + y. Formats
  with 16-byte blocks have two of them one after the other: alpha and colour, or red and
  green. `DecodeRgbBlock` fills the 16 texels of an array; here each texel is computed on its
  own. C++ ints that cannot be negative are `Nat`, the others `Int`.
-/

import Mathlib.Data.Nat.Bitwise
import Mathlib.Order.Lattice
import Mocktail.Lib.Stores

namespace Mocktail.Graphics

open Mocktail.Lib

abbrev Block := Fin 8 → UInt8

instance eightBytes : NeZero 8 := ⟨by decide⟩

inductive EtcFormat where
  | etc2Rgb8
  | etc2Rgb8A1
  | etc2Rgba8
  | eacR11
  | eacR11Signed
  | eacRg11
  | eacRg11Signed
  deriving DecidableEq, Repr

/-! ## Tables -/

def kDistance : List Int := [3, 6, 11, 16, 23, 32, 41, 64]

def kEtc1Modifiers : List (List Int) :=
  [[2, 8, -2, -8], [5, 17, -5, -17], [9, 29, -9, -29], [13, 42, -13, -42], [18, 60, -18, -60], [24, 80, -24, -80],
    [33, 106, -33, -106], [47, 183, -47, -183]]

def kEacModifiers : List (List Int) :=
  [[-3, -6, -9, -15, 2, 5, 8, 14], [-3, -7, -10, -13, 2, 6, 9, 12],
    [-2, -5, -8, -13, 1, 4, 7, 12], [-2, -4, -6, -13, 1, 3, 5, 12],
    [-3, -6, -8, -12, 2, 5, 7, 11], [-3, -7, -9, -11, 2, 6, 8, 10],
    [-4, -7, -8, -11, 3, 6, 7, 10], [-3, -5, -8, -11, 2, 4, 7, 10],
    [-2, -6, -8, -10, 1, 5, 7, 9], [-2, -5, -8, -10, 1, 4, 7, 9],
    [-2, -4, -8, -10, 1, 3, 7, 9], [-2, -5, -7, -10, 1, 4, 6, 9],
    [-3, -4, -7, -10, 2, 3, 6, 9], [-1, -2, -3, -10, 0, 1, 2, 9],
    [-4, -6, -8, -9, 3, 5, 7, 8], [-3, -5, -7, -9, 2, 4, 6, 8]]

def kDelta : List Int := [0, 1, 2, 3, -4, -3, -2, -1]

def entry (table : List (List Int)) (row column : Nat) : Int := (table.getD row []).getD column 0

def clamp (value low high : Int) : Int := max low (min value high)

def clamp255 (value : Int) : UInt8 := UInt8.ofNat (clamp value 0 255).toNat

def expand4 (value : Nat) : Nat := value <<< 4 ||| value
def expand5 (value : Nat) : Nat := value <<< 3 ||| value >>> 2
def expand6 (value : Nat) : Nat := value <<< 2 ||| value >>> 4
def expand7 (value : Nat) : Nat := value <<< 1 ||| value >>> 6

/-! ## Colour blocks -/

/-- Red, green and blue before they are clamped. -/
structure Paint where
  r : Int
  g : Int
  b : Int

def Paint.shifted (p : Paint) (d : Int) : Paint := { r := p.r + d, g := p.g + d, b := p.b + d }

def Paint.texel (p : Paint) (a : UInt8) : List UInt8 := [clamp255 p.r, clamp255 p.g, clamp255 p.b, a]

section
variable (b : Block)

def byteAt (i : Fin 8) : Nat := (b i).toNat

def textureIndex (texel : Nat) : Nat :=
  let msb := byteAt b 4 <<< 8 ||| byteAt b 5
  let lsb := byteAt b 6 <<< 8 ||| byteAt b 7
  (msb >>> texel &&& 1) <<< 1 ||| (lsb >>> texel &&& 1)

/-- The second base colour of a channel, which out of range selects another mode. -/
def channelSum (c : Fin 8) : Int := (byteAt b c >>> 3 : Nat) + kDelta.getD (byteAt b c &&& 7) 0

def outOfRange (value : Int) : Bool := value < 0 || value > 31

def paintOf (r g b : Nat) : Paint := { r, g, b }

/-- T mode. -/
def tPaint (index : Nat) : Paint :=
  let c1 := paintOf (expand4 ((byteAt b 0 >>> 3 &&& 3) <<< 2 ||| byteAt b 0 &&& 3)) (expand4 (byteAt b 1 >>> 4))
    (expand4 (byteAt b 1 &&& 15))
  let c2 := paintOf (expand4 (byteAt b 2 >>> 4)) (expand4 (byteAt b 2 &&& 15)) (expand4 (byteAt b 3 >>> 4))
  let d := kDistance.getD ((byteAt b 3 >>> 2 &&& 3) <<< 1 ||| byteAt b 3 &&& 1) 0
  match index with
  | 0 => c1
  | 1 => c2.shifted d
  | 2 => c2
  | _ => c2.shifted (-d)

/-- H mode. -/
def hPaint (index : Nat) : Paint :=
  let r1 := expand4 (byteAt b 0 >>> 3 &&& 15)
  let g1 := expand4 ((byteAt b 0 &&& 7) <<< 1 ||| byteAt b 1 >>> 4 &&& 1)
  let b1 := expand4 (byteAt b 1 &&& 8 ||| (byteAt b 1 &&& 3) <<< 1 ||| byteAt b 2 >>> 7)
  let r2 := expand4 (byteAt b 2 >>> 3 &&& 15)
  let g2 := expand4 ((byteAt b 2 &&& 7) <<< 1 ||| byteAt b 3 >>> 7)
  let b2 := expand4 (byteAt b 3 >>> 3 &&& 15)
  let v1 := r1 <<< 16 ||| g1 <<< 8 ||| b1
  let v2 := r2 <<< 16 ||| g2 <<< 8 ||| b2
  let d := kDistance.getD (byteAt b 3 &&& 4 ||| (byteAt b 3 &&& 1) <<< 1 ||| if v1 ≥ v2 then 1 else 0) 0
  match index with
  | 0 => (paintOf r1 g1 b1).shifted d
  | 1 => (paintOf r1 g1 b1).shifted (-d)
  | 2 => (paintOf r2 g2 b2).shifted d
  | _ => (paintOf r2 g2 b2).shifted (-d)

def planarChannel (x y : Nat) (o h v : Int) : Int := (x * (h - o) + y * (v - o) + 4 * o + 2) >>> (2 : Nat)

/-- Planar mode. -/
def planarPaint (x y : Nat) : Paint :=
  let ro := expand6 (byteAt b 0 >>> 1 &&& 63)
  let go := expand7 ((byteAt b 0 &&& 1) <<< 6 ||| byteAt b 1 >>> 1 &&& 63)
  let bo := expand6 ((byteAt b 1 &&& 1) <<< 5 ||| byteAt b 2 &&& 0x18 ||| (byteAt b 2 &&& 3) <<< 1 ||| byteAt b 3 >>> 7)
  let rh := expand6 ((byteAt b 3 &&& 0x7c) >>> 1 ||| byteAt b 3 &&& 1)
  let gh := expand7 (byteAt b 4 >>> 1)
  let bh := expand6 ((byteAt b 4 &&& 1) <<< 5 ||| byteAt b 5 >>> 3)
  let rv := expand6 ((byteAt b 5 &&& 7) <<< 3 ||| byteAt b 6 >>> 5)
  let gv := expand7 ((byteAt b 6 &&& 31) <<< 2 ||| byteAt b 7 >>> 6)
  let bv := expand6 (byteAt b 7 &&& 63)
  { r := planarChannel x y ro rh rv, g := planarChannel x y go gh gv, b := planarChannel x y bo bh bv }

/-- A base colour's channel in individual or differential mode; the sums are in range there. -/
def baseChannel (individual : Bool) (sub : Nat) (c : Fin 8) : Nat :=
  match individual, sub with
  | true, 0 => expand4 (byteAt b c >>> 4)
  | true, _ => expand4 (byteAt b c &&& 15)
  | false, 0 => expand5 (byteAt b c >>> 3)
  | false, _ => expand5 (channelSum b c).toNat

def tableOf (sub : Nat) : Nat := if sub = 0 then byteAt b 3 >>> 5 else byteAt b 3 >>> 2 &&& 7

/-- Individual and differential mode. -/
def basePaint (individual isOpaque : Bool) (x y index : Nat) : Paint :=
  let flipped := byteAt b 3 &&& 1 ≠ 0
  let sub := if flipped then (if y ≥ 2 then 1 else 0) else (if x ≥ 2 then 1 else 0)
  let modifier := if !isOpaque && index == 0 then 0 else entry kEtc1Modifiers (tableOf b sub) index
  (paintOf (baseChannel b individual sub 0) (baseChannel b individual sub 1) (baseChannel b individual sub 2)).shifted modifier

/-- One texel of `DecodeRgbBlock`: red, green, blue and alpha. -/
def decodeRgbBlock (punchthrough : Bool) (texel : Nat) : List UInt8 :=
  let diffOrOpaque := byteAt b 3 &&& 2 ≠ 0
  let isOpaque := !punchthrough || diffOrOpaque
  let individual := !punchthrough && !diffOrOpaque
  let index := textureIndex b texel
  let x := texel / 4
  let y := texel % 4
  let clear := !isOpaque && index == 2
  if !individual && (outOfRange (channelSum b 0) || outOfRange (channelSum b 1)) then
    if clear then [0, 0, 0, 0]
    else if outOfRange (channelSum b 0) then (tPaint b index).texel 255
    else (hPaint b index).texel 255
  else if !individual && outOfRange (channelSum b 2) then (planarPaint b x y).texel 255
  else if clear then [0, 0, 0, 0]
  else (basePaint b individual isOpaque x y index).texel 255

/-! ## EAC blocks -/

def eacIndex (texel : Nat) : Nat :=
  let bits := ([2, 3, 4, 5, 6, 7] : List (Fin 8)).foldl (fun bits i => bits <<< 8 ||| byteAt b i) 0
  bits >>> (45 - texel * 3) &&& 7

def eacModifier (texel : Nat) : Int := entry kEacModifiers (byteAt b 1 &&& 15) (eacIndex b texel)

def decodeR11 (texel : Nat) (isSigned : Bool) : UInt16 :=
  let multiplier := byteAt b 1 >>> 4
  let modifier := eacModifier b texel
  let scaled : Int := if multiplier ≠ 0 then modifier * multiplier * 8 else modifier
  if !isSigned then
    let value := (clamp (byteAt b 0 * 8 + 4 + scaled) 0 2047).toNat
    UInt16.ofNat (value <<< 5 ||| value >>> 6)
  else
    let base := max (-127) (b 0).toInt8.toInt
    let value := clamp (base * 8 + scaled) (-1023) 1023
    let magnitude := value.natAbs
    let expanded := magnitude <<< 5 ||| magnitude >>> 5
    UInt16.ofInt (if value < 0 then -expanded else expanded)

end

/-! ## One texel -/

def etcBlockBytes : EtcFormat → Nat
  | .etc2Rgba8 => 16
  | .eacRg11 => 16
  | .eacRg11Signed => 16
  | _ => 8

def etcDecodedTexelBytes : EtcFormat → Nat
  | .eacR11 => 2
  | .eacR11Signed => 2
  | _ => 4

attribute [local simp] etcDecodedTexelBytes

/-- A 16-bit channel, low byte first, at an offset of the texel. -/
def channelStores (offset : Nat) (value : UInt16) : List (Nat × UInt8) :=
  [(offset, value.toUInt8), (offset + 1, (value >>> 8).toUInt8)]

/-- The stores for one texel, at offsets within it; `part` gives the 8-byte parts of its
    block. The alpha of an RGBA texel is stored over that of the colour block. -/
def texelStores (format : EtcFormat) (part : Nat → Block) (texel : Nat) : List (Nat × UInt8) :=
  let rgba (b : Block) (punchthrough : Bool) : List (Nat × UInt8) :=
    (decodeRgbBlock b punchthrough texel).mapIdx fun i byte => (i, byte)
  match format with
  | .etc2Rgb8 => rgba (part 0) false
  | .etc2Rgb8A1 => rgba (part 0) true
  | .etc2Rgba8 =>
    rgba (part 1) false ++
      [(3, clamp255 (byteAt (part 0) 0 + eacModifier (part 0) texel * (byteAt (part 0) 1 >>> 4 : Nat)))]
  | .eacR11 => channelStores 0 (decodeR11 (part 0) texel false)
  | .eacR11Signed => channelStores 0 (decodeR11 (part 0) texel true)
  | .eacRg11 =>
    channelStores 0 (decodeR11 (part 0) texel false) ++ channelStores 2 (decodeR11 (part 1) texel false)
  | .eacRg11Signed =>
    channelStores 0 (decodeR11 (part 0) texel true) ++ channelStores 2 (decodeR11 (part 1) texel true)

attribute [local simp] texelStores

/-- A byte of a decoded texel. -/
def decodedByte (format : EtcFormat) (part : Nat → Block) (texel k : Nat) : UInt8 :=
  match format with
  | .etc2Rgb8 => (decodeRgbBlock (part 0) false texel).getD k 0
  | .etc2Rgb8A1 => (decodeRgbBlock (part 0) true texel).getD k 0
  | .etc2Rgba8 =>
    if k = 3 then clamp255 (byteAt (part 0) 0 + eacModifier (part 0) texel * (byteAt (part 0) 1 >>> 4 : Nat))
    else (decodeRgbBlock (part 1) false texel).getD k 0
  | .eacR11 => channelByte (decodeR11 (part 0) texel false) k
  | .eacR11Signed => channelByte (decodeR11 (part 0) texel true) k
  | .eacRg11 =>
    if k < 2 then channelByte (decodeR11 (part 0) texel false) k else channelByte (decodeR11 (part 1) texel false) (k - 2)
  | .eacRg11Signed =>
    if k < 2 then channelByte (decodeR11 (part 0) texel true) k else channelByte (decodeR11 (part 1) texel true) (k - 2)
where
  channelByte (value : UInt16) (k : Nat) : UInt8 := if k = 0 then value.toUInt8 else (value >>> 8).toUInt8

theorem length_decodeRgbBlock (b : Block) (punchthrough : Bool) (texel : Nat) :
    (decodeRgbBlock b punchthrough texel).length = 4 := by
  unfold decodeRgbBlock
  dsimp only
  split_ifs <;> rfl

theorem exists_decodeRgbBlock (b : Block) (punchthrough : Bool) (texel : Nat) :
    ∃ r g bl a, decodeRgbBlock b punchthrough texel = [r, g, bl, a] := by
  have h := length_decodeRgbBlock b punchthrough texel
  match hd : decodeRgbBlock b punchthrough texel, h with
  | [r, g, bl, a], _ => exact ⟨r, g, bl, a, rfl⟩

theorem lt_four {k : Nat} (hk : k < 4) : k = 0 ∨ k = 1 ∨ k = 2 ∨ k = 3 := by omega

theorem texelStores_lt {format : EtcFormat} {part : Nat → Block} {texel : Nat} {store : Nat × UInt8}
    (h : store ∈ texelStores format part texel) : store.1 < etcDecodedTexelBytes format := by
  cases format with
  | etc2Rgb8 =>
    obtain ⟨r, g, bl, a, hd⟩ := exists_decodeRgbBlock (part 0) false texel
    simp only [texelStores, hd] at h
    simp at h
    rcases h with rfl | rfl | rfl | rfl <;> simp
  | etc2Rgb8A1 =>
    obtain ⟨r, g, bl, a, hd⟩ := exists_decodeRgbBlock (part 0) true texel
    simp only [texelStores, hd] at h
    simp at h
    rcases h with rfl | rfl | rfl | rfl <;> simp
  | etc2Rgba8 =>
    obtain ⟨r, g, bl, a, hd⟩ := exists_decodeRgbBlock (part 1) false texel
    simp only [texelStores, hd] at h
    simp at h
    rcases h with rfl | rfl | rfl | rfl | rfl <;> simp
  | eacR11 | eacR11Signed =>
    simp [channelStores] at h
    rcases h with rfl | rfl <;> simp
  | eacRg11 | eacRg11Signed =>
    simp [channelStores] at h
    rcases h with rfl | rfl | rfl | rfl <;> simp

/-- A texel's stores leave its decoded bytes, wherever the texel is. -/
theorem storeAll_texelStores (format : EtcFormat) (part : Nat → Block) (texel : Nat) (memory : Nat → UInt8)
    {k : Nat} (hk : k < etcDecodedTexelBytes format) :
    storeAll memory (texelStores format part texel) k = decodedByte format part texel k := by
  cases format with
  | etc2Rgb8 =>
    obtain ⟨r, g, bl, a, hd⟩ := exists_decodeRgbBlock (part 0) false texel
    obtain rfl | rfl | rfl | rfl := lt_four hk
    all_goals simp [decodedByte, hd, upd]
  | etc2Rgb8A1 =>
    obtain ⟨r, g, bl, a, hd⟩ := exists_decodeRgbBlock (part 0) true texel
    obtain rfl | rfl | rfl | rfl := lt_four hk
    all_goals simp [decodedByte, hd, upd]
  | etc2Rgba8 =>
    obtain ⟨r, g, bl, a, hd⟩ := exists_decodeRgbBlock (part 1) false texel
    obtain rfl | rfl | rfl | rfl := lt_four hk
    all_goals simp [decodedByte, hd, upd]
  | eacR11 | eacR11Signed =>
    obtain rfl | rfl : k = 0 ∨ k = 1 := by simp at hk; omega
    all_goals simp [channelStores, decodedByte, decodedByte.channelByte, upd]
  | eacRg11 | eacRg11Signed =>
    obtain rfl | rfl | rfl | rfl := lt_four hk
    all_goals simp [channelStores, decodedByte, decodedByte.channelByte, upd]

end Mocktail.Graphics

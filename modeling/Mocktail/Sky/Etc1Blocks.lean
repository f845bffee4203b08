/-
  Mocktail.Sky.Etc1Blocks — the sky transcoder's own ETC1 decoder
  (`vulkan_etc1_sky_transcoder.cc`).

  It fills 16 colours row by row, walking the index bits of the block column by column, where
  `etc2_decoder.cc` numbers the texels column by column and reads each one's bits in place.
  Its colours are bytes from the start: a differential base that leaves [0, 31] is expanded all
  the same, as a 32-bit int cut to a byte, where the ETC2 decoder takes another mode.

  `decodeEtc1RgbBlock_agrees`: on every block that is ETC1 to the ETC2 decoder as well, the two
  store the same red, green and blue for every texel.
-/

import Mocktail.Graphics.EtcBlocks

namespace Mocktail.Sky

open Mocktail.Lib
open Mocktail.Graphics (Block byteAt channelSum decodeRgbBlock)

structure Rgb where
  r : UInt8
  g : UInt8
  b : UInt8
  deriving DecidableEq, Repr

def clampByte (value : Int) : UInt8 := UInt8.ofNat (max 0 (min 255 value)).toNat

def applyModifier (color : Rgb) (modifier : Int) : Rgb :=
  ⟨clampByte (color.r.toNat + modifier), clampByte (color.g.toNat + modifier), clampByte (color.b.toNat + modifier)⟩

def signExtend3 (value : Nat) : Int := if value &&& 4 ≠ 0 then (value : Int) - 8 else value

def expand4 (value : Nat) : UInt8 := UInt8.ofNat (value <<< 4 ||| value)

/-- The argument is an int, and may be negative. -/
def expand5 (value : Int) : UInt8 :=
  let v := BitVec.ofInt 32 value
  UInt8.ofBitVec ((v <<< 3 ||| v.sshiftRight 2).setWidth 8)

def kWriteOrder : List Nat := [0, 4, 8, 12, 1, 5, 9, 13, 2, 6, 10, 14, 3, 7, 11, 15]

def kModifier : List (List Nat) := [[2, 8], [5, 17], [9, 29], [13, 42], [18, 60], [24, 80], [33, 106], [47, 183]]

def kSubblock : List (List Nat) :=
  [[0, 0, 0, 0, 0, 0, 0, 0, 1, 1, 1, 1, 1, 1, 1, 1], [0, 0, 1, 1, 0, 0, 1, 1, 0, 0, 1, 1, 0, 0, 1, 1]]

section
variable (b : Block)

def colorChannel (side : Nat) (channel : Fin 8) : UInt8 :=
  if byteAt b 3 &&& 2 ≠ 0 then
    let base : Int := (byteAt b channel >>> 3 : Nat)
    if side = 0 then expand5 base else expand5 (base + signExtend3 (byteAt b channel &&& 7))
  else if side = 0 then expand4 (byteAt b channel >>> 4)
  else expand4 (byteAt b channel &&& 15)

def color (side : Nat) : Rgb := ⟨colorChannel b side 0, colorChannel b side 1, colorChannel b side 2⟩

def code (side : Nat) : Nat := if side = 0 then byteAt b 3 >>> 5 else byteAt b 3 >>> 2 &&& 7

/-- What a pixel is given when `low` and `high` are what is left of the index bits. -/
def pixelColor (pixel low high : Nat) : Rgb :=
  let side := (kSubblock.getD (byteAt b 3 &&& 1) []).getD pixel 0
  let modifier : Int := (kModifier.getD (code b side) []).getD (low &&& 1) 0
  applyModifier (color b side) (if high &&& 1 ≠ 0 then -modifier else modifier)

def pixelLoop : List Nat → Nat → Nat → (Nat → Rgb) → Nat → Rgb
  | [], _, _, output => output
  | pixel :: rest, low, high, output =>
    pixelLoop rest (low >>> 1) (high >>> 1) (upd output (kWriteOrder.getD pixel 0) (pixelColor b pixel low high))

def lowIndices : Nat := byteAt b 6 <<< 8 ||| byteAt b 7

def highIndices : Nat := byteAt b 4 <<< 8 ||| byteAt b 5

/-- The array `DecodeEtc1RgbBlock` fills: the pixel at (x, y) is number 4y + x. -/
def decodeEtc1RgbBlock : Nat → Rgb :=
  pixelLoop b (List.range 16) (lowIndices b) (highIndices b) fun _ => ⟨0, 0, 0⟩

end

/-! ## The pixel loop -/

section
variable {b : Block} {pixels : List Nat} {low high : Nat} {output : Nat → Rgb}

theorem pixelLoop_untouched {place : Nat} (h : place ∉ pixels.map (kWriteOrder.getD · 0)) :
    pixelLoop b pixels low high output place = output place := by
  induction pixels generalizing low high output with
  | nil => rfl
  | cons pixel rest ih =>
    simp only [List.map_cons, List.mem_cons, not_or] at h
    rw [pixelLoop, ih h.2, upd_ne _ _ h.1]

/-- Each pixel is decided by its own bit of either index word. -/
theorem pixelLoop_at {i pixel : Nat} (hi : pixels[i]? = some pixel)
    (hnd : (pixels.map (kWriteOrder.getD · 0)).Nodup) :
    pixelLoop b pixels low high output (kWriteOrder.getD pixel 0) = pixelColor b pixel (low >>> i) (high >>> i) := by
  induction pixels generalizing i low high output with
  | nil => simp at hi
  | cons first rest ih =>
    rw [List.map_cons, List.nodup_cons] at hnd
    rw [pixelLoop]
    cases i with
    | zero =>
      obtain rfl : first = pixel := by simpa using hi
      rw [pixelLoop_untouched hnd.1, upd_same]
      rfl
    | succ i =>
      have hrest : rest[i]? = some pixel := by simpa using hi
      rw [ih hrest hnd.2, ← Nat.shiftRight_add, ← Nat.shiftRight_add, Nat.add_comm 1 i]

theorem decodeEtc1RgbBlock_at (b : Block) {pixel : Nat} (h : pixel < 16) :
    decodeEtc1RgbBlock b (kWriteOrder.getD pixel 0) =
      pixelColor b pixel (lowIndices b >>> pixel) (highIndices b >>> pixel) := by
  have hnd : ((List.range 16).map (kWriteOrder.getD · 0)).Nodup := by decide
  apply pixelLoop_at _ hnd
  rw [List.getElem?_range h]

end

/-! ## Against the ETC2 decoder -/

theorem toNat_expand4 {value : Nat} (h : value < 16) : (expand4 value).toNat = Graphics.expand4 value := by
  have hall : ∀ v : Fin 16, (expand4 v).toNat = Graphics.expand4 v := by decide
  exact hall ⟨value, h⟩

theorem toNat_expand5 {value : Int} (h0 : 0 ≤ value) (h1 : value ≤ 31) :
    (expand5 value).toNat = Graphics.expand5 value.toNat := by
  have hall : ∀ v : Fin 32, (expand5 ((v : Nat) : Int)).toNat = Graphics.expand5 v := by decide
  obtain ⟨n, rfl⟩ := Int.eq_ofNat_of_zero_le h0
  exact hall ⟨n, by omega⟩

theorem signExtend3_eq {value : Nat} (h : value < 8) : signExtend3 value = Graphics.kDelta.getD value 0 := by
  have hall : ∀ v : Fin 8, signExtend3 v = Graphics.kDelta.getD v 0 := by decide
  exact hall ⟨value, h⟩

theorem byteAt_lt (b : Block) (c : Fin 8) : byteAt b c < 256 := (b c).toNat_lt

theorem and_seven_lt (n : Nat) : n &&& 7 < 8 := by
  rw [show 7 = 2 ^ 3 - 1 from rfl, Nat.and_two_pow_sub_one_eq_mod]
  omega

/-- A block with the two base colours that ETC1 gives it: individual, or differential with all
    three sums in range. -/
def isEtc1 (b : Block) : Prop :=
  byteAt b 3 &&& 2 = 0 ∨ ∀ c ∈ ([0, 1, 2] : List (Fin 8)), 0 ≤ channelSum b c ∧ channelSum b c ≤ 31

instance (b : Block) : Decidable (isEtc1 b) := by unfold isEtc1; infer_instance

theorem toNat_colorChannel {b : Block} {c : Fin 8} (side : Nat)
    (h : byteAt b 3 &&& 2 = 0 ∨ 0 ≤ channelSum b c ∧ channelSum b c ≤ 31) :
    (colorChannel b side c).toNat = Graphics.baseChannel b (byteAt b 3 &&& 2 = 0) side c := by
  have hb := byteAt_lt b c
  have hhigh : byteAt b c >>> 3 ≤ 31 := by rw [Nat.shiftRight_eq_div_pow]; omega
  by_cases hmode : byteAt b 3 &&& 2 = 0
  · have hnibble : byteAt b c &&& 15 < 16 := by
      rw [show 15 = 2 ^ 4 - 1 from rfl, Nat.and_two_pow_sub_one_eq_mod]
      omega
    have htop : byteAt b c >>> 4 < 16 := by rw [Nat.shiftRight_eq_div_pow]; omega
    cases side with
    | zero => simp [colorChannel, Graphics.baseChannel, hmode, toNat_expand4 htop]
    | succ side => simp [colorChannel, Graphics.baseChannel, hmode, toNat_expand4 hnibble]
  · have hsum := h.resolve_left hmode
    cases side with
    | zero =>
      have hbase : (expand5 (byteAt b c >>> 3 : Nat)).toNat = Graphics.expand5 (byteAt b c >>> 3) :=
        toNat_expand5 (by omega) (by omega)
      rw [colorChannel, if_pos hmode, decide_eq_false hmode]
      exact hbase
    | succ side =>
      have hdelta := toNat_expand5 hsum.1 hsum.2
      rw [colorChannel, if_pos hmode, decide_eq_false hmode]
      show (expand5 ((byteAt b c >>> 3 : Nat) + signExtend3 (byteAt b c &&& 7))).toNat = _
      rw [signExtend3_eq (and_seven_lt _)]
      exact hdelta

/-- The ETC1 tables: the second index bit is the sign. -/
theorem entry_kEtc1Modifiers {row low high : Nat} (hrow : row < 8) (hlow : low < 2) (hhigh : high < 2) :
    Graphics.entry Graphics.kEtc1Modifiers row (high <<< 1 ||| low) =
      if high ≠ 0 then -(((kModifier.getD row []).getD low 0 : Nat) : Int) else ((kModifier.getD row []).getD low 0 : Nat) := by
  have hall : ∀ (row : Fin 8) (low high : Fin 2),
      Graphics.entry Graphics.kEtc1Modifiers row (high.val <<< 1 ||| low.val) =
        if high.val ≠ 0 then -(((kModifier.getD row []).getD low 0 : Nat) : Int)
        else ((kModifier.getD row []).getD low 0 : Nat) := by
    decide
  exact hall ⟨row, hrow⟩ ⟨low, hlow⟩ ⟨high, hhigh⟩

/-- The sub-block of a texel: the right half, or the lower one if the block is flipped. -/
theorem kSubblock_at {flip : Nat} (hflip : flip < 2) (x y : Fin 4) :
    (kSubblock.getD flip []).getD (4 * x + y) 0 =
      if flip ≠ 0 then (if y.val ≥ 2 then 1 else 0) else (if x.val ≥ 2 then 1 else 0) := by
  have hall : ∀ (flip : Fin 2) (x y : Fin 4), (kSubblock.getD flip []).getD (4 * x + y) 0 =
      if flip.val ≠ 0 then (if y.val ≥ 2 then 1 else 0) else (if x.val ≥ 2 then 1 else 0) := by
    decide
  exact hall ⟨flip, hflip⟩ x y

theorem kWriteOrder_at (x y : Fin 4) : kWriteOrder.getD (4 * x + y) 0 = 4 * y + x := by
  revert x y
  decide

theorem code_lt (b : Block) (side : Nat) : code b side < 8 := by
  have hb := byteAt_lt b 3
  unfold code
  split
  · rw [Nat.shiftRight_eq_div_pow]
    omega
  · exact and_seven_lt _

theorem and_one_lt (n : Nat) : n &&& 1 < 2 := by
  rw [Nat.and_one_is_mod]
  omega

theorem clampByte_eq (value : Int) : clampByte value = Graphics.clamp255 value := by
  unfold clampByte Graphics.clamp255 Graphics.clamp
  rw [min_comm]

/-- In the modes of ETC1 the ETC2 decoder paints from the two base colours. -/
theorem decodeRgbBlock_base {b : Block} (h : isEtc1 b) (texel : Nat) :
    decodeRgbBlock b false texel =
      (Graphics.basePaint b (byteAt b 3 &&& 2 = 0) true (texel / 4) (texel % 4) (Graphics.textureIndex b texel)).texel 255 := by
  rcases h with hmode | hsums
  · simp [decodeRgbBlock, hmode]
  · have hin : ∀ c ∈ ([0, 1, 2] : List (Fin 8)), Graphics.outOfRange (channelSum b c) = false := by
      intro c hc
      obtain ⟨h0, h1⟩ := hsums c hc
      simp only [Graphics.outOfRange, Bool.or_eq_false_iff, decide_eq_false_iff_not]
      omega
    have h0 := hin 0 (by simp)
    have h1 := hin 1 (by simp)
    have h2 := hin 2 (by simp)
    by_cases hmode : byteAt b 3 &&& 2 = 0
    · simp [decodeRgbBlock, hmode]
    · simp [decodeRgbBlock, hmode, h0, h1, h2]

/-- The pixel's modifier is the one its texture index selects. -/
theorem modifier_eq (b : Block) (side pixel : Nat) :
    (let modifier : Int := ((kModifier.getD (code b side) []).getD (lowIndices b >>> pixel &&& 1) 0 : Nat)
      if highIndices b >>> pixel &&& 1 ≠ 0 then -modifier else modifier) =
      Graphics.entry Graphics.kEtc1Modifiers (Graphics.tableOf b side) (Graphics.textureIndex b pixel) :=
  (entry_kEtc1Modifiers (code_lt b side) (and_one_lt _) (and_one_lt _)).symm

theorem decodeEtc1RgbBlock_agrees (b : Block) (h : isEtc1 b) (x y : Fin 4) :
    [(decodeEtc1RgbBlock b (4 * y + x)).r, (decodeEtc1RgbBlock b (4 * y + x)).g, (decodeEtc1RgbBlock b (4 * y + x)).b] =
      (decodeRgbBlock b false (4 * x + y)).take 3 := by
  have hx := x.isLt
  have hy := y.isLt
  have hchannel : ∀ c ∈ ([0, 1, 2] : List (Fin 8)), ∀ side,
      ((colorChannel b side c).toNat : Int) = Graphics.baseChannel b (byteAt b 3 &&& 2 = 0) side c := by
    intro c hc side
    congr 1
    apply toNat_colorChannel
    rcases h with hmode | hsums
    · exact .inl hmode
    · exact .inr (hsums c hc)
  have hplace := decodeEtc1RgbBlock_at b (show 4 * x.val + y.val < 16 by omega)
  rw [kWriteOrder_at] at hplace
  have hdiv : (4 * x.val + y.val) / 4 = x.val := by omega
  have hmod : (4 * x.val + y.val) % 4 = y.val := by omega
  rw [hplace, decodeRgbBlock_base h, hdiv, hmod]
  -- both sides are now one base colour and one modifier
  have hside := kSubblock_at (and_one_lt (byteAt b 3)) x y
  simp only [pixelColor, modifier_eq, applyModifier, color, hside]
  rw [hchannel 0 (by simp), hchannel 1 (by simp), hchannel 2 (by simp), clampByte_eq, clampByte_eq, clampByte_eq]
  rfl

/-- A differential block of red 16 + 3, flipped, read at its last texel. -/
theorem decodeEtc1RgbBlock_agrees_differential :
    let b : Block := fun i => [0x83, 0x40, 0x21, 0xab, 0x12, 0x34, 0x56, 0x78].getD i.val 0
    isEtc1 b ∧ [(decodeEtc1RgbBlock b 15).r, (decodeEtc1RgbBlock b 15).g, (decodeEtc1RgbBlock b 15).b] =
      (decodeRgbBlock b false 15).take 3 :=
  ⟨by decide, decodeEtc1RgbBlock_agrees _ (by decide) 3 3⟩

end Mocktail.Sky

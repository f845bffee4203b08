/-
  Mocktail.Sky.Bc1Blocks — what a BC1 decoder makes of the blocks the sky transcoder writes
  (`vulkan_etc1_sky_transcoder.cc`).

  A BC1 block is two 5-6-5 endpoints and 16 two-bit indices, all low byte first and the texels
  row by row. The first endpoint being the larger selects four opaque colours; otherwise the
  third is halfway between the endpoints and the fourth is transparent. ETC1 numbers its texels
  column by column.

  `convertEtc1RgbBlockToBc1_nearest`: whatever the inset, the rounding to 5-6-5 and the fix-up of
  equal endpoints do, a converted block has four colours, and each texel decodes to one of them
  that none of the others beats.
-/

import Mocktail.Lib.BitFields
import Mocktail.Sky.Transcoder

namespace Mocktail.Sky

open Mocktail.Lib
open Mocktail.Graphics (Block)

/-! ## The two formats, texel by texel -/

section
variable (b : Block)

/-- The ETC1 colour of the texel in column `x` and row `y`. -/
def etc1Texel (x y : Fin 4) : Rgb :=
  pixelColor b (4 * x + y) (lowIndices b >>> (4 * x + y : Nat)) (highIndices b >>> (4 * x + y : Nat))

def bc1Endpoint0 : Nat := (b 0).toNat + 256 * (b 1).toNat

def bc1Endpoint1 : Nat := (b 2).toNat + 256 * (b 3).toNat

/-- Row `y` is one byte, column `x` two bits of it. -/
def bc1Index (x y : Fin 4) : Nat := (b ⟨4 + y, by omega⟩).toNat / 4 ^ x.val % 4

/-- The colour halfway between the endpoints, when there are only three. -/
def halfway (near far : Rgb) : Rgb :=
  let channel (n f : UInt8) : UInt8 := UInt8.ofNat ((n.toNat + f.toNat) / 2)
  ⟨channel near.r far.r, channel near.g far.g, channel near.b far.b⟩

/-- The palette; `none` is transparent. -/
def bc1Color (index : Nat) : Option Rgb :=
  let color0 := unpackRgb565 (UInt16.ofNat (bc1Endpoint0 b))
  let color1 := unpackRgb565 (UInt16.ofNat (bc1Endpoint1 b))
  let fourColors := bc1Endpoint1 b < bc1Endpoint0 b
  match index with
  | 0 => some color0
  | 1 => some color1
  | 2 => some (if fourColors then third color0 color1 else halfway color0 color1)
  | _ => if fourColors then some (third color1 color0) else none

def bc1Texel (x y : Fin 4) : Option Rgb := bc1Color b (bc1Index b x y)

end

theorem etc1Texel_eq (b : Block) (x y : Fin 4) : etc1Texel b x y = decodeEtc1RgbBlock b (4 * y + x) := by
  have hlt : 4 * x.val + y.val < 16 := by omega
  rw [← kWriteOrder_at, decodeEtc1RgbBlock_at b hlt]
  rfl

/-! ## Endpoints -/

theorem endpoints_lt (maximum minimum : Rgb) : (endpoints maximum minimum).2 < (endpoints maximum minimum).1 := by
  rw [endpoints]
  generalize packRgb565 maximum = e0
  generalize packRgb565 minimum = e1
  split_ifs with hswap heq hmax heq hmax <;> simp only [UInt16.lt_iff_toNat_lt, ← UInt16.toNat_inj] at *
  · omega
  · omega
  · omega
  · rw [UInt16.toNat_add]
    have : e0.toNat < 65535 := hmax
    simp only [UInt16.reduceToNat]
    omega
  · have : ¬e0.toNat < 65535 := hmax
    have := e1.toNat_lt
    rw [UInt16.toNat_sub_of_le]
    · simp only [UInt16.reduceToNat]
      omega
    · rw [UInt16.le_iff_toNat_le]
      simp only [UInt16.reduceToNat]
      omega
  · omega

theorem toNat_bytes (e : UInt16) : e.toUInt8.toNat + 256 * (e >>> 8).toUInt8.toNat = e.toNat := by
  have := e.toNat_lt
  have hhigh : (e >>> 8).toNat = e.toNat / 256 := by
    rw [UInt16.toNat_shiftRight, Nat.shiftRight_eq_div_pow]
    rfl
  rw [UInt16.toNat_toUInt8, UInt16.toNat_toUInt8, hhigh]
  omega

/-! ## Indices -/

theorem colorDistance_lt (lhs rhs : Rgb) : colorDistance lhs rhs < 2 ^ 32 - 1 := by
  have hchannel (m n : UInt8) : ((m.toNat : Int) - n.toNat) * (m.toNat - n.toNat) ≤ 255 * 255 := by
    have hm := m.toNat_lt
    have hn := n.toNat_lt
    have hd : ((m.toNat : Int) - n.toNat).natAbs ≤ 255 := by omega
    rw [← Int.natAbs_mul_self]
    exact_mod_cast Nat.mul_le_mul hd hd
  have hr := hchannel lhs.r rhs.r
  have hg := hchannel lhs.g rhs.g
  have hb := hchannel lhs.b rhs.b
  simp only [colorDistance]
  omega

/-- The scan for the least distance: it keeps the best of what it has seen. -/
theorem least_of_scan (distance : Nat → Nat) (indices : List Nat) (best : Nat × Nat) :
    let last := indices.foldl (fun (best : Nat × Nat) index =>
      if distance index < best.1 then (distance index, index) else best) best
    (last = best ∨ last.2 ∈ indices ∧ last.1 = distance last.2) ∧ last.1 ≤ best.1 ∧
      ∀ index ∈ indices, last.1 ≤ distance index := by
  induction indices generalizing best with
  | nil => simp
  | cons index rest ih =>
    intro last
    by_cases hless : distance index < best.1
    · obtain ⟨hfrom, hle, hall⟩ := ih (distance index, index)
      rw [show rest.foldl _ (distance index, index) = last by simp only [last, List.foldl_cons, if_pos hless]] at hfrom hle hall
      refine ⟨.inr ?_, by omega, ?_⟩
      · rcases hfrom with hfrom | ⟨hmem, heq⟩
        · rw [hfrom]
          exact ⟨List.mem_cons_self, rfl⟩
        · exact ⟨List.mem_cons_of_mem _ hmem, heq⟩
      · intro other hother
        rcases List.mem_cons.mp hother with rfl | hother
        · exact hle
        · exact hall other hother
    · obtain ⟨hfrom, hle, hall⟩ := ih best
      rw [show rest.foldl _ best = last by simp only [last, List.foldl_cons, if_neg hless]] at hfrom hle hall
      refine ⟨hfrom.imp_right fun h => ⟨List.mem_cons_of_mem _ h.1, h.2⟩, hle, ?_⟩
      intro other hother
      rcases List.mem_cons.mp hother with rfl | hother
      · omega
      · exact hall other hother

theorem bestIndex_spec {palette : List Rgb} (pixel : Rgb) (hne : 0 < palette.length) :
    bestIndex palette pixel < palette.length ∧
      ∀ index < palette.length,
        colorDistance pixel (palette.getD (bestIndex palette pixel) ⟨0, 0, 0⟩) ≤
          colorDistance pixel (palette.getD index ⟨0, 0, 0⟩) := by
  obtain ⟨hfrom, -, hall⟩ :=
    least_of_scan (fun index => colorDistance pixel (palette.getD index ⟨0, 0, 0⟩)) (List.range palette.length) (2 ^ 32 - 1, 0)
  simp only [List.mem_range] at hfrom hall
  -- No distance is as large as the one the scan starts from, so it has moved on from there.
  rcases hfrom with hfrom | ⟨hlt, heq⟩
  · have hfirst := hall 0 hne
    have := colorDistance_lt pixel (palette.getD 0 ⟨0, 0, 0⟩)
    rw [hfrom] at hfirst
    omega
  · refine ⟨hlt, ?_⟩
    intro index hindex
    exact heq ▸ hall index hindex

theorem packed_indices (f : Nat → Nat) (hf : ∀ i, f i < 4) (n : Nat) :
    let packed := (List.range n).foldl (fun indices i => indices ||| f i <<< (2 * i)) 0
    packed < 4 ^ n ∧ ∀ i < n, packed / 4 ^ i % 4 = f i := by
  induction n with
  | zero => simp
  | succ n ih =>
    intro packed
    have hpow (k : Nat) : 2 ^ (2 * k) = 4 ^ k := by rw [Nat.pow_mul]
    have hpacked : packed = f n * 4 ^ n + (List.range n).foldl (fun indices i => indices ||| f i <<< (2 * i)) 0 := by
      simp only [packed, List.range_succ, List.foldl_append, List.foldl_cons, List.foldl_nil]
      rw [Nat.or_comm, shiftLeft_or _ (by rw [hpow]; exact ih.1), hpow]
    obtain ⟨hlt, hread⟩ := ih
    rw [hpacked]
    generalize (List.range n).foldl (fun indices i => indices ||| f i <<< (2 * i)) 0 = low at hlt hread
    refine ⟨?_, ?_⟩
    · have := Nat.mul_le_mul_right (4 ^ n) (Nat.le_of_lt_succ (hf n))
      rw [Nat.pow_succ]
      omega
    · intro i hi
      rcases Nat.lt_succ_iff_lt_or_eq.mp hi with hi | rfl
      · have hsplit : f n * 4 ^ n = 4 ^ i * (4 * (f n * 4 ^ (n - i - 1))) := by
          rw [show 4 ^ n = 4 ^ i * 4 * 4 ^ (n - i - 1) by rw [← Nat.pow_succ, ← Nat.pow_add]; congr 1; omega]
          ring
        rw [hsplit, Nat.mul_add_div (Nat.pow_pos (by omega)), Nat.mul_add_mod, hread i hi]
      · rw [Nat.mul_comm, Nat.mul_add_div (Nat.pow_pos (by omega)), Nat.div_eq_of_lt hlt]
        exact Nat.mod_eq_of_lt (hf i)

/-! ## A converted block -/

/-- The colours of two endpoints, the larger first. -/
def palette565 (ends : UInt16 × UInt16) : List Rgb :=
  let color0 := unpackRgb565 ends.1
  let color1 := unpackRgb565 ends.2
  [color0, color1, third color0 color1, third color1 color0]

theorem convertEtc1RgbBlockToBc1_parts (etc1 : Block) :
    ∃ ends : UInt16 × UInt16, ends.2 < ends.1 ∧
      ∀ i : Fin 8, convertEtc1RgbBlockToBc1 etc1 i =
        ([ends.1.toUInt8, (ends.1 >>> 8).toUInt8, ends.2.toUInt8, (ends.2 >>> 8).toUInt8] ++
          le32 ((List.range 16).foldl (fun indices i => indices |||
            bestIndex (palette565 ends) (((List.range 16).map (decodeEtc1RgbBlock etc1)).getD i ⟨0, 0, 0⟩) <<< (2 * i)) 0)).getD
              i 0 :=
  ⟨_, endpoints_lt _ _, fun _ => rfl⟩

section
variable {b : Block} {ends : UInt16 × UInt16}

theorem bc1Color_palette (h0 : bc1Endpoint0 b = ends.1.toNat) (h1 : bc1Endpoint1 b = ends.2.toNat)
    (hlt : ends.2 < ends.1) {index : Nat} (hindex : index < 4) :
    bc1Color b index = some ((palette565 ends).getD index ⟨0, 0, 0⟩) := by
  have hfour : bc1Endpoint1 b < bc1Endpoint0 b := by rwa [h0, h1, ← UInt16.lt_iff_toNat_lt]
  simp only [bc1Color, palette565, if_pos hfour]
  rw [h0, h1, UInt16.ofNat_toNat, UInt16.ofNat_toNat]
  match index, hindex with
  | 0, _ | 1, _ | 2, _ | 3, _ => rfl

theorem toNat_le32_row (n : Nat) (y : Fin 4) : ((le32 n).getD y 0).toNat = n / 4 ^ (4 * y.val) % 256 := by
  match y with
  | ⟨0, _⟩ | ⟨1, _⟩ | ⟨2, _⟩ | ⟨3, _⟩ => simp [le32, Nat.shiftRight_eq_div_pow]

theorem row_column {n : Nat} (x y : Fin 4) : n / 4 ^ (4 * y.val) % 256 / 4 ^ x.val % 4 = n / 4 ^ (4 * y.val + x.val) % 4 := by
  rw [Nat.pow_add, ← Nat.div_div_eq_div_mul]
  generalize n / 4 ^ (4 * y.val) = m
  match x with
  | ⟨0, _⟩ | ⟨1, _⟩ | ⟨2, _⟩ | ⟨3, _⟩ =>
    simp only [Nat.reducePow]
    omega

end

theorem convertEtc1RgbBlockToBc1_nearest (etc1 : Block) :
    let bc1 := convertEtc1RgbBlockToBc1 etc1
    bc1Endpoint1 bc1 < bc1Endpoint0 bc1 ∧
      ∀ x y : Fin 4, ∃ color, bc1Texel bc1 x y = some color ∧
        ∀ index < 4, ∃ other, bc1Color bc1 index = some other ∧
          colorDistance (etc1Texel etc1 x y) color ≤ colorDistance (etc1Texel etc1 x y) other := by
  obtain ⟨ends, hlt, hbytes⟩ := convertEtc1RgbBlockToBc1_parts etc1
  intro bc1
  replace hbytes (i : Fin 8) : bc1 i = _ := hbytes i
  have h0 : bc1Endpoint0 bc1 = ends.1.toNat := by
    rw [bc1Endpoint0, hbytes, hbytes]
    exact toNat_bytes ends.1
  have h1 : bc1Endpoint1 bc1 = ends.2.toNat := by
    rw [bc1Endpoint1, hbytes, hbytes]
    exact toNat_bytes ends.2
  refine ⟨by rwa [h0, h1, ← UInt16.lt_iff_toNat_lt], ?_⟩
  intro x y
  have hpalette : (palette565 ends).length = 4 := rfl
  have hbest (pixel : Rgb) := bestIndex_spec pixel (show 0 < (palette565 ends).length by omega)
  have hindex : bc1Index bc1 x y = bestIndex (palette565 ends) (etc1Texel etc1 x y) := by
    have hplace : 4 * y.val + x.val < 16 := by omega
    have hpixel : ((List.range 16).map (decodeEtc1RgbBlock etc1)).getD (4 * y + x) ⟨0, 0, 0⟩ = etc1Texel etc1 x y := by
      rw [etc1Texel_eq, List.getD_eq_getElem _ _ (by simpa using hplace), List.getElem_map, List.getElem_range]
    rw [bc1Index, hbytes, ← hpixel, List.getD_append_right _ _ _ _ (by simp)]
    simp only [List.length_cons, List.length_nil, Nat.reduceAdd, Nat.add_sub_cancel_left]
    rw [toNat_le32_row, row_column]
    exact (packed_indices _ (fun i => (hbest _).1) 16).2 _ hplace
  have hcolor (index : Nat) (h : index < 4) := bc1Color_palette h0 h1 hlt h
  refine ⟨(palette565 ends).getD (bestIndex (palette565 ends) (etc1Texel etc1 x y)) ⟨0, 0, 0⟩, ?_, ?_⟩
  · rw [bc1Texel, hindex]
    exact hcolor _ (hbest _).1
  · intro index h
    exact ⟨_, hcolor index h, (hbest _).2 index h⟩

end Mocktail.Sky

/-
  Mocktail.Graphics.EtcConformance — the block decoder and the image loops follow the
  specification of ETC2 and EAC.

  Each field the decoder picks out of bytes is a field of the block's number (`mask_word`,
  `top_word`); then each mode is compared on its own.
-/

import Mocktail.Graphics.EtcImage
import Mocktail.Graphics.EtcSpecification

namespace Mocktail.Graphics

open Mocktail.Lib Specification

/-! ## Bytes of the block's number -/

theorem byteAt_lt (b : Block) (i : Fin 8) : byteAt b i < 256 := (b i).toNat_lt

theorem word_eq (b : Block) :
    word b = byteAt b 0 * 2 ^ 56 + byteAt b 1 * 2 ^ 48 + byteAt b 2 * 2 ^ 40 + byteAt b 3 * 2 ^ 32 +
      byteAt b 4 * 2 ^ 24 + byteAt b 5 * 2 ^ 16 + byteAt b 6 * 2 ^ 8 + byteAt b 7 := by
  simp only [word, byteAt, List.ofFn_succ, List.ofFn_zero, List.foldl_cons, List.foldl_nil]
  simp only [Fin.succ_zero_eq_one, Fin.reduceSucc]
  omega

theorem byteAt_eq (b : Block) (i : Fin 8) : byteAt b i = word b / 2 ^ (56 - 8 * i.val) % 2 ^ 8 := by
  have h0 := byteAt_lt b 0
  have h1 := byteAt_lt b 1
  have h2 := byteAt_lt b 2
  have h3 := byteAt_lt b 3
  have h4 := byteAt_lt b 4
  have h5 := byteAt_lt b 5
  have h6 := byteAt_lt b 6
  have h7 := byteAt_lt b 7
  rw [word_eq]
  match i with
  | 0 => show byteAt b 0 = _ / 2 ^ 56 % 2 ^ 8; omega
  | 1 => show byteAt b 1 = _ / 2 ^ 48 % 2 ^ 8; omega
  | 2 => show byteAt b 2 = _ / 2 ^ 40 % 2 ^ 8; omega
  | 3 => show byteAt b 3 = _ / 2 ^ 32 % 2 ^ 8; omega
  | 4 => show byteAt b 4 = _ / 2 ^ 24 % 2 ^ 8; omega
  | 5 => show byteAt b 5 = _ / 2 ^ 16 % 2 ^ 8; omega
  | 6 => show byteAt b 6 = _ / 2 ^ 8 % 2 ^ 8; omega
  | 7 => show byteAt b 7 = _ / 2 ^ 0 % 2 ^ 8; omega

/-- A field within a byte is a field of the number. -/
theorem bits_word (b : Block) (i : Fin 8) {h : Nat} (l : Nat) (hh : h < 8) :
    bits (byteAt b i) h l = bits (word b) (h + (56 - 8 * i.val)) (l + (56 - 8 * i.val)) := by
  rw [byteAt_eq, bits_mod _ _ hh, bits_div]

/-- A byte shifted and masked: `n + 1` bits from `l` on. -/
theorem mask_word (b : Block) (i : Fin 8) (l n : Nat) (h : l + n < 8) :
    byteAt b i >>> l &&& (2 ^ (n + 1) - 1) = bits (word b) (l + n + (56 - 8 * i.val)) (l + (56 - 8 * i.val)) := by
  rw [shiftRight_and, bits_word b i l h]

/-- The bits of a byte from `l` on. -/
theorem top_word (b : Block) (i : Fin 8) (l : Nat) (h : l < 8) :
    byteAt b i >>> l = bits (word b) (7 + (56 - 8 * i.val)) (l + (56 - 8 * i.val)) := by
  rw [← bits_word b i l (show 7 < 8 by decide), bits, Nat.shiftRight_eq_div_pow, Nat.mod_eq_of_lt]
  have hb := byteAt_lt b i
  rw [Nat.div_lt_iff_lt_mul (Nat.two_pow_pos l), ← Nat.pow_add, show 7 + 1 - l + l = 8 by omega]
  exact hb

/-! ## Extension -/

variable {v : Nat}

theorem expand4_eq (h : v < 16) : expand4 v = extend4 v := shiftLeft_or v h

theorem expand5_eq (h : v < 32) : expand5 v = extend5 v := by
  rw [expand5, Nat.shiftRight_eq_div_pow, shiftLeft_or v (by omega)]
  rfl

theorem expand6_eq (h : v < 64) : expand6 v = extend6 v := by
  rw [expand6, Nat.shiftRight_eq_div_pow, shiftLeft_or v (by omega)]
  rfl

theorem expand7_eq (h : v < 128) : expand7 v = extend7 v := by
  rw [expand7, Nat.shiftRight_eq_div_pow, shiftLeft_or v (by omega)]
  rfl

theorem expand4_high (b : Block) (i : Fin 8) :
    expand4 (byteAt b i >>> 4) = extend4 (bits (word b) (7 + (56 - 8 * i.val)) (4 + (56 - 8 * i.val))) := by
  rw [top_word b i 4 (by decide)]
  apply expand4_eq
  rw [← bits_word b i 4 (by decide)]
  exact bits_lt _ _ _

theorem expand4_low (b : Block) (i : Fin 8) :
    expand4 (byteAt b i &&& 15) = extend4 (bits (word b) (3 + (56 - 8 * i.val)) (56 - 8 * i.val)) := by
  have hlow : byteAt b i &&& 15 = bits (byteAt b i) 3 0 := shiftRight_and _ 0 3
  rw [hlow, expand4_eq (bits_lt _ _ _), bits_word b i 0 (by decide), Nat.zero_add]

theorem clamp255_eq (v : Int) : (clamp255 v).toNat = clampByte v := by
  have h : (clamp v 0 255).toNat < 256 := by unfold clamp; omega
  rw [clamp255, UInt8.toNat_ofNat', Nat.mod_eq_of_lt h, clamp, clampByte, min_comm]

/-! ## T mode -/

theorem distance_eq {i : Nat} (h : i < 8) : kDistance.getD i 0 = (distances.getD i 0 : Nat) := by
  revert i
  decide

theorem tPaint_eq (b : Block) (index : Nat) :
    tPaint b index =
      { r := tChannel (word b) index 0, g := tChannel (word b) index 1, b := tChannel (word b) index 2 } := by
  have hr1 : expand4 ((byteAt b 0 >>> 3 &&& 3) <<< 2 ||| byteAt b 0 &&& 3) =
      extend4 (bits (word b) 60 59 * 4 + bits (word b) 57 56) := by
    have hhi : byteAt b 0 >>> 3 &&& 3 = bits (word b) 60 59 := mask_word b 0 3 1 (by decide)
    have hlo : byteAt b 0 &&& 3 = bits (word b) 57 56 := mask_word b 0 0 1 (by decide)
    have hhi' : bits (word b) 60 59 < 4 := bits_lt _ _ _
    have hlo' : bits (word b) 57 56 < 4 := bits_lt _ _ _
    rw [hhi, hlo, shiftLeft_or _ hlo']
    exact expand4_eq (by omega)
  have hd : kDistance.getD ((byteAt b 3 >>> 2 &&& 3) <<< 1 ||| byteAt b 3 &&& 1) 0 =
      (distances.getD (bits (word b) 35 34 * 2 + bits (word b) 32 32) 0 : Nat) := by
    have hhi : byteAt b 3 >>> 2 &&& 3 = bits (word b) 35 34 := mask_word b 3 2 1 (by decide)
    have hlo : byteAt b 3 &&& 1 = bits (word b) 32 32 := mask_word b 3 0 0 (by decide)
    have hhi' : bits (word b) 35 34 < 4 := bits_lt _ _ _
    have hlo' : bits (word b) 32 32 < 2 := bits_lt _ _ _
    rw [hhi, hlo, shiftLeft_or _ hlo']
    exact distance_eq (by omega)
  unfold tPaint
  simp only [hr1, hd, expand4_high, expand4_low]
  match index with
  | 0 => rfl
  | 1 => rfl
  | 2 => rfl
  | n + 3 => rfl

/-! ## H mode -/

theorem colourNumber_eq {r g bl : Nat} (hg : g < 256) (hb : bl < 256) :
    r <<< 16 ||| g <<< 8 ||| bl = colourNumber [r, g, bl] := by
  have hg' : g <<< 8 < 2 ^ 16 := by rw [Nat.shiftLeft_eq]; omega
  rw [shiftLeft_or r hg', Nat.shiftLeft_eq, show r * 2 ^ 16 + g * 2 ^ 8 = (r * 2 ^ 8 + g) * 2 ^ 8 by ring,
    mul_two_pow_or _ hb]
  simp only [colourNumber, List.foldl_cons, List.foldl_nil]
  omega

theorem hColours_eq (b : Block) :
    (hColours (word b)).1 =
      [expand4 (byteAt b 0 >>> 3 &&& 15), expand4 ((byteAt b 0 &&& 7) <<< 1 ||| byteAt b 1 >>> 4 &&& 1),
        expand4 (byteAt b 1 &&& 8 ||| (byteAt b 1 &&& 3) <<< 1 ||| byteAt b 2 >>> 7)] ∧
    (hColours (word b)).2 =
      [expand4 (byteAt b 2 >>> 3 &&& 15), expand4 ((byteAt b 2 &&& 7) <<< 1 ||| byteAt b 3 >>> 7),
        expand4 (byteAt b 3 >>> 3 &&& 15)] := by
  have hr1 : byteAt b 0 >>> 3 &&& 15 = bits (word b) 62 59 := mask_word b 0 3 3 (by decide)
  have hr2 : byteAt b 2 >>> 3 &&& 15 = bits (word b) 46 43 := mask_word b 2 3 3 (by decide)
  have hb2 : byteAt b 3 >>> 3 &&& 15 = bits (word b) 38 35 := mask_word b 3 3 3 (by decide)
  have hg1 : (byteAt b 0 &&& 7) <<< 1 ||| byteAt b 1 >>> 4 &&& 1 = bits (word b) 58 56 * 2 + bits (word b) 52 52 := by
    have hhi : byteAt b 0 &&& 7 = bits (word b) 58 56 := mask_word b 0 0 2 (by decide)
    have hlo : byteAt b 1 >>> 4 &&& 1 = bits (word b) 52 52 := mask_word b 1 4 0 (by decide)
    rw [hhi, hlo]
    exact shiftLeft_or _ (bits_lt _ _ _)
  have hg2 : (byteAt b 2 &&& 7) <<< 1 ||| byteAt b 3 >>> 7 = bits (word b) 42 39 := by
    have hhi : byteAt b 2 &&& 7 = bits (word b) 42 40 := mask_word b 2 0 2 (by decide)
    have hlo : byteAt b 3 >>> 7 = bits (word b) 39 39 := top_word b 3 7 (by decide)
    rw [hhi, hlo]
    exact bits_join (word b) 42 40 39 (by decide) (by decide)
  have hb1 : byteAt b 1 &&& 8 ||| (byteAt b 1 &&& 3) <<< 1 ||| byteAt b 2 >>> 7 =
      bits (word b) 51 51 * 8 + bits (word b) 49 47 := by
    have htop : byteAt b 1 &&& 8 = bits (word b) 51 51 * 2 ^ 3 := by
      rw [← show byteAt b 1 >>> 3 &&& 1 = bits (word b) 51 51 from mask_word b 1 3 0 (by decide)]
      exact and_mask (byteAt b 1) 3 1
    have hmid : byteAt b 1 &&& 3 = bits (word b) 49 48 := mask_word b 1 0 1 (by decide)
    have hlo : byteAt b 2 >>> 7 = bits (word b) 47 47 := top_word b 2 7 (by decide)
    have hmid' : bits (word b) 49 48 < 4 := bits_lt _ _ _
    have hlo' : bits (word b) 47 47 < 2 ^ 1 := bits_lt _ _ _
    have hsplit : bits (word b) 49 47 = bits (word b) 49 48 * 2 ^ 1 + bits (word b) 47 47 :=
      bits_split (word b) 49 48 47 (by decide) (by decide)
    rw [htop, hmid, hlo, Nat.shiftLeft_eq, mul_two_pow_or _ (by omega),
      show bits (word b) 51 51 * 2 ^ 3 + bits (word b) 49 48 * 2 ^ 1 =
        (bits (word b) 51 51 * 4 + bits (word b) 49 48) * 2 ^ 1 by omega, mul_two_pow_or _ hlo']
    omega
  have hg1' : bits (word b) 58 56 * 2 + bits (word b) 52 52 < 16 := by
    have hhi : bits (word b) 58 56 < 8 := bits_lt _ _ _
    have hlo : bits (word b) 52 52 < 2 := bits_lt _ _ _
    omega
  have hb1' : bits (word b) 51 51 * 8 + bits (word b) 49 47 < 16 := by
    have hhi : bits (word b) 51 51 < 2 := bits_lt _ _ _
    have hlo : bits (word b) 49 47 < 8 := bits_lt _ _ _
    omega
  rw [hr1, hg1, hb1, hr2, hg2, hb2, expand4_eq (bits_lt _ _ _), expand4_eq hg1', expand4_eq hb1',
    expand4_eq (bits_lt _ _ _), expand4_eq (bits_lt _ _ _), expand4_eq (bits_lt _ _ _)]
  exact ⟨rfl, rfl⟩

theorem hColours_lt (w : Nat) : (∀ v ∈ (hColours w).1, v < 256) ∧ ∀ v ∈ (hColours w).2, v < 256 := by
  have hr1 : bits w 62 59 < 16 := bits_lt _ _ _
  have hg1 : bits w 58 56 < 8 := bits_lt _ _ _
  have hg1' : bits w 52 52 < 2 := bits_lt _ _ _
  have hb1 : bits w 51 51 < 2 := bits_lt _ _ _
  have hb1' : bits w 49 47 < 8 := bits_lt _ _ _
  have hr2 : bits w 46 43 < 16 := bits_lt _ _ _
  have hg2 : bits w 42 39 < 16 := bits_lt _ _ _
  have hb2 : bits w 38 35 < 16 := bits_lt _ _ _
  simp only [hColours, extend4, List.mem_cons, List.not_mem_nil, or_false]
  constructor
  · rintro v (rfl | rfl | rfl) <;> omega
  · rintro v (rfl | rfl | rfl) <;> omega

theorem hPaint_eq (b : Block) (index : Nat) :
    hPaint b index =
      { r := hChannel (word b) index 0, g := hChannel (word b) index 1, b := hChannel (word b) index 2 } := by
  obtain ⟨h1, h2⟩ := hColours_eq b
  obtain ⟨hlt1, hlt2⟩ := hColours_lt (word b)
  rw [h1] at hlt1
  rw [h2] at hlt2
  simp only [List.mem_cons, List.not_mem_nil, or_false, forall_eq_or_imp, forall_eq] at hlt1 hlt2
  have htop : byteAt b 3 &&& 4 = bits (word b) 34 34 * 2 ^ 2 := by
    rw [← show byteAt b 3 >>> 2 &&& 1 = bits (word b) 34 34 from mask_word b 3 2 0 (by decide)]
    exact and_mask (byteAt b 3) 2 1
  have hmid : byteAt b 3 &&& 1 = bits (word b) 32 32 := mask_word b 3 0 0 (by decide)
  have htop' : bits (word b) 34 34 < 2 := bits_lt _ _ _
  have hmid' : bits (word b) 32 32 < 2 := bits_lt _ _ _
  have hdistance : ∀ last < 2, kDistance.getD (byteAt b 3 &&& 4 ||| (byteAt b 3 &&& 1) <<< 1 ||| last) 0 =
      (distances.getD (bits (word b) 34 34 * 4 + bits (word b) 32 32 * 2 + last) 0 : Nat) := by
    intro last hlast
    rw [← distance_eq (by omega), htop, hmid, Nat.shiftLeft_eq, mul_two_pow_or _ (by omega),
      show bits (word b) 34 34 * 2 ^ 2 + bits (word b) 32 32 * 2 ^ 1 =
        (bits (word b) 34 34 * 2 + bits (word b) 32 32) * 2 ^ 1 by omega, mul_two_pow_or _ hlast]
    congr 1
    omega
  unfold hPaint hChannel hDistance
  rw [h1, h2]
  dsimp only
  rw [colourNumber_eq hlt1.2.1 hlt1.2.2, colourNumber_eq hlt2.2.1 hlt2.2.2]
  have horder : ∀ p : Prop, [Decidable p] → (if p then 1 else 0) < 2 := by
    intro p _
    split <;> omega
  rw [hdistance _ (horder _)]
  match index with
  | 0 => rfl
  | 1 => rfl
  | 2 => rfl
  | n + 3 => rfl

/-! ## Planar mode -/

theorem planarOrigin_eq (b : Block) :
    planarOrigin (word b) 0 = expand6 (byteAt b 0 >>> 1 &&& 63) ∧
    planarOrigin (word b) 1 = expand7 ((byteAt b 0 &&& 1) <<< 6 ||| byteAt b 1 >>> 1 &&& 63) ∧
    planarOrigin (word b) 2 =
      expand6 ((byteAt b 1 &&& 1) <<< 5 ||| byteAt b 2 &&& 0x18 ||| (byteAt b 2 &&& 3) <<< 1 ||| byteAt b 3 >>> 7) := by
  have hr : byteAt b 0 >>> 1 &&& 63 = bits (word b) 62 57 := mask_word b 0 1 5 (by decide)
  have hg : byteAt b 0 &&& 1 = bits (word b) 56 56 := mask_word b 0 0 0 (by decide)
  have hg' : byteAt b 1 >>> 1 &&& 63 = bits (word b) 54 49 := mask_word b 1 1 5 (by decide)
  have hb1 : byteAt b 1 &&& 1 = bits (word b) 48 48 := mask_word b 1 0 0 (by decide)
  have hb2 : byteAt b 2 &&& 0x18 = bits (word b) 44 43 * 2 ^ 3 := by
    rw [← show byteAt b 2 >>> 3 &&& 3 = bits (word b) 44 43 from mask_word b 2 3 1 (by decide)]
    exact and_mask (byteAt b 2) 3 2
  have hb3 : byteAt b 2 &&& 3 = bits (word b) 41 40 := mask_word b 2 0 1 (by decide)
  have hb4 : byteAt b 3 >>> 7 = bits (word b) 39 39 := top_word b 3 7 (by decide)
  have hsplit : bits (word b) 41 39 = bits (word b) 41 40 * 2 ^ 1 + bits (word b) 39 39 :=
    bits_split (word b) 41 40 39 (by decide) (by decide)
  have lr : bits (word b) 62 57 < 64 := bits_lt _ _ _
  have lg : bits (word b) 56 56 < 2 := bits_lt _ _ _
  have lg' : bits (word b) 54 49 < 2 ^ 6 := bits_lt _ _ _
  have l1 : bits (word b) 48 48 < 2 := bits_lt _ _ _
  have l2 : bits (word b) 44 43 < 4 := bits_lt _ _ _
  have l3 : bits (word b) 41 40 < 4 := bits_lt _ _ _
  have l4 : bits (word b) 39 39 < 2 ^ 1 := bits_lt _ _ _
  refine ⟨?_, ?_, ?_⟩
  · rw [hr, expand6_eq lr]
    rfl
  · rw [hg, hg', shiftLeft_or _ lg', expand7_eq (by omega)]
    rfl
  · have hjoined : bits (word b) 48 48 <<< 5 ||| bits (word b) 44 43 * 2 ^ 3 ||| bits (word b) 41 40 <<< 1 |||
        bits (word b) 39 39 = bits (word b) 48 48 * 32 + bits (word b) 44 43 * 8 + bits (word b) 41 39 := by
      rw [shiftLeft_or (bits (word b) 48 48) (by omega), Nat.shiftLeft_eq,
        show bits (word b) 48 48 * 2 ^ 5 + bits (word b) 44 43 * 2 ^ 3 =
          (bits (word b) 48 48 * 4 + bits (word b) 44 43) * 2 ^ 3 by omega, mul_two_pow_or _ (by omega),
        show (bits (word b) 48 48 * 4 + bits (word b) 44 43) * 2 ^ 3 + bits (word b) 41 40 * 2 ^ 1 =
          (bits (word b) 48 48 * 16 + bits (word b) 44 43 * 4 + bits (word b) 41 40) * 2 ^ 1 by omega,
        mul_two_pow_or _ l4]
      omega
    rw [hb1, hb2, hb3, hb4, hjoined, expand6_eq (by omega)]
    rfl

theorem planarHorizontal_eq (b : Block) :
    planarHorizontal (word b) 0 = expand6 ((byteAt b 3 &&& 0x7c) >>> 1 ||| byteAt b 3 &&& 1) ∧
    planarHorizontal (word b) 1 = expand7 (byteAt b 4 >>> 1) ∧
    planarHorizontal (word b) 2 = expand6 ((byteAt b 4 &&& 1) <<< 5 ||| byteAt b 5 >>> 3) := by
  have hr : byteAt b 3 &&& 0x7c = bits (word b) 38 34 * 2 ^ 2 := by
    rw [← show byteAt b 3 >>> 2 &&& 31 = bits (word b) 38 34 from mask_word b 3 2 4 (by decide)]
    exact and_mask (byteAt b 3) 2 5
  have hr' : byteAt b 3 &&& 1 = bits (word b) 32 32 := mask_word b 3 0 0 (by decide)
  have hg : byteAt b 4 >>> 1 = bits (word b) 31 25 := top_word b 4 1 (by decide)
  have hb : byteAt b 4 &&& 1 = bits (word b) 24 24 := mask_word b 4 0 0 (by decide)
  have hb' : byteAt b 5 >>> 3 = bits (word b) 23 19 := top_word b 5 3 (by decide)
  have hjoin : bits (word b) 24 24 <<< 5 ||| bits (word b) 23 19 = bits (word b) 24 19 :=
    bits_join (word b) 24 24 19 (by decide) (by decide)
  have lr : bits (word b) 38 34 < 32 := bits_lt _ _ _
  have lr' : bits (word b) 32 32 < 2 ^ 1 := bits_lt _ _ _
  refine ⟨?_, ?_, ?_⟩
  · rw [hr, hr', Nat.shiftRight_eq_div_pow,
      show bits (word b) 38 34 * 2 ^ 2 / 2 ^ 1 = bits (word b) 38 34 * 2 ^ 1 by omega, mul_two_pow_or _ lr',
      expand6_eq (by omega)]
    rfl
  · rw [hg, expand7_eq (bits_lt _ _ _)]
    rfl
  · rw [hb, hb', hjoin, expand6_eq (bits_lt _ _ _)]
    rfl

theorem planarVertical_eq (b : Block) :
    planarVertical (word b) 0 = expand6 ((byteAt b 5 &&& 7) <<< 3 ||| byteAt b 6 >>> 5) ∧
    planarVertical (word b) 1 = expand7 ((byteAt b 6 &&& 31) <<< 2 ||| byteAt b 7 >>> 6) ∧
    planarVertical (word b) 2 = expand6 (byteAt b 7 &&& 63) := by
  have hr : byteAt b 5 &&& 7 = bits (word b) 18 16 := mask_word b 5 0 2 (by decide)
  have hr' : byteAt b 6 >>> 5 = bits (word b) 15 13 := top_word b 6 5 (by decide)
  have hg : byteAt b 6 &&& 31 = bits (word b) 12 8 := mask_word b 6 0 4 (by decide)
  have hg' : byteAt b 7 >>> 6 = bits (word b) 7 6 := top_word b 7 6 (by decide)
  have hb : byteAt b 7 &&& 63 = bits (word b) 5 0 := mask_word b 7 0 5 (by decide)
  have hred : bits (word b) 18 16 <<< 3 ||| bits (word b) 15 13 = bits (word b) 18 13 :=
    bits_join (word b) 18 16 13 (by decide) (by decide)
  have hgreen : bits (word b) 12 8 <<< 2 ||| bits (word b) 7 6 = bits (word b) 12 6 :=
    bits_join (word b) 12 8 6 (by decide) (by decide)
  refine ⟨?_, ?_, ?_⟩
  · rw [hr, hr', hred, expand6_eq (bits_lt _ _ _)]
    rfl
  · rw [hg, hg', hgreen, expand7_eq (bits_lt _ _ _)]
    rfl
  · rw [hb, expand6_eq (bits_lt _ _ _)]
    rfl

theorem planarPaint_eq (b : Block) (x y : Nat) :
    planarPaint b x y =
      { r := Specification.planarChannel (word b) x y 0, g := Specification.planarChannel (word b) x y 1,
        b := Specification.planarChannel (word b) x y 2 } := by
  obtain ⟨ro, go, bo⟩ := planarOrigin_eq b
  obtain ⟨rh, gh, bh⟩ := planarHorizontal_eq b
  obtain ⟨rv, gv, bv⟩ := planarVertical_eq b
  simp only [planarPaint, planarChannel, Specification.planarChannel, ro, go, bo, rh, gh, bh, rv, gv, bv,
    Int.shiftRight_eq_div_pow]
  rfl

/-! ## Individual and differential mode -/

theorem diffBit_eq (b : Block) : (byteAt b 3 &&& 2 ≠ 0) ↔ diffBit (word b) ≠ 0 := by
  have h : byteAt b 3 &&& 2 = diffBit (word b) * 2 ^ 1 := by
    rw [diffBit, ← show byteAt b 3 >>> 1 &&& 1 = bits (word b) 33 33 from mask_word b 3 1 0 (by decide)]
    exact and_mask (byteAt b 3) 1 1
  rw [h]
  omega

theorem flipBit_eq (b : Block) : byteAt b 3 &&& 1 = flipBit (word b) := mask_word b 3 0 0 (by decide)

variable {x y : Nat}

theorem textureIndex_eq (b : Block) (hx : x < 4) (hy : y < 4) :
    textureIndex b (4 * x + y) = pixelIndex (word b) x y := by
  have hmsb : byteAt b 4 <<< 8 ||| byteAt b 5 = bits (word b) 31 16 := by
    rw [byteAt_eq b 4, byteAt_eq b 5]
    exact bits_join (word b) 31 24 16 (by decide) (by decide)
  have hlsb : byteAt b 6 <<< 8 ||| byteAt b 7 = bits (word b) 15 0 := by
    rw [byteAt_eq b 6, byteAt_eq b 7]
    exact bits_join (word b) 15 8 0 (by decide) (by decide)
  have hbit : ∀ v : Nat, v >>> (4 * x + y) &&& 1 = bits v (4 * x + y) (4 * x + y) := fun v => shiftRight_and v _ 0
  have hhigh : bits (bits (word b) 31 16) (4 * x + y) (4 * x + y) = bits (word b) (16 + (4 * x + y)) (16 + (4 * x + y)) := by
    have h := bits_mod (k := 16) (word b / 2 ^ 16) (4 * x + y) (show 4 * x + y < 16 by omega)
    rw [bits_div, Nat.add_comm (4 * x + y) 16] at h
    exact h
  have hlow : bits (bits (word b) 15 0) (4 * x + y) (4 * x + y) = bits (word b) (4 * x + y) (4 * x + y) := by
    have h := bits_mod (k := 16) (word b / 2 ^ 0) (4 * x + y) (show 4 * x + y < 16 by omega)
    rw [bits_div] at h
    exact h
  have hlt : bits (word b) (4 * x + y) (4 * x + y) < 2 ^ 1 := by
    have h := bits_lt (word b) (4 * x + y) (4 * x + y)
    rwa [show 4 * x + y + 1 - (4 * x + y) = 1 by omega] at h
  rw [textureIndex, hmsb, hlsb, hbit, hbit, hhigh, hlow, shiftLeft_or _ hlt, pixelIndex]
  omega

theorem pixelIndex_lt (w x y : Nat) : pixelIndex w x y < 4 := by
  have hbit : ∀ i, bits w i i < 2 := by
    intro i
    have h := bits_lt w i i
    rwa [show i + 1 - i = 1 by omega] at h
  have h1 := hbit (16 + (4 * x + y))
  have h2 := hbit (4 * x + y)
  unfold pixelIndex
  omega

theorem delta_eq {d : Nat} (h : d < 8) : kDelta.getD d 0 = if d < 4 then (d : Int) else (d : Int) - 8 := by
  revert d
  decide

theorem channelSum_eq (b : Block) (c : Fin 8) (hc : c.val < 3) : channelSum b c = second (word b) c := by
  have hbase : byteAt b c >>> 3 = base5 (word b) c := by
    rw [top_word b c 3 (by decide), base5, show 63 - 8 * c.val = 7 + (56 - 8 * c.val) by omega,
      show 59 - 8 * c.val = 3 + (56 - 8 * c.val) by omega]
  have hdelta : byteAt b c &&& 7 = bits (word b) (58 - 8 * c.val) (56 - 8 * c.val) := by
    rw [show 58 - 8 * c.val = 0 + 2 + (56 - 8 * c.val) by omega]
    exact (mask_word b c 0 2 (by decide)).trans (by rw [Nat.zero_add (56 - 8 * c.val)])
  have hlt : bits (word b) (58 - 8 * c.val) (56 - 8 * c.val) < 8 := by
    have h := bits_lt (word b) (58 - 8 * c.val) (56 - 8 * c.val)
    rwa [show 58 - 8 * c.val + 1 - (56 - 8 * c.val) = 3 by omega] at h
  rw [channelSum, second, difference, hbase, hdelta, delta_eq hlt]

theorem tableOf_eq (b : Block) (s : Nat) : tableOf b s = tableCodeword (word b) s := by
  unfold tableOf tableCodeword
  rw [show byteAt b 3 >>> 5 = bits (word b) 39 37 from top_word b 3 5 (by decide),
    show byteAt b 3 >>> 2 &&& 7 = bits (word b) 36 34 from mask_word b 3 2 2 (by decide)]

theorem tableCodeword_lt (w s : Nat) : tableCodeword w s < 8 := by
  unfold tableCodeword
  split
  · exact bits_lt _ _ _
  · exact bits_lt _ _ _

theorem modifier_eq (b : Block) (s : Nat) {index : Nat} (h : index < 4) :
    entry kEtc1Modifiers (tableOf b s) index = modifier (word b) s index := by
  have ht := tableCodeword_lt (word b) s
  rw [tableOf_eq]
  unfold modifier
  generalize tableCodeword (word b) s = t at ht
  revert t index
  decide

/-- The base colour of a half, where the differential sum is in range. -/
theorem baseChannel_eq (b : Block) (individual : Bool) {s : Nat} (c : Fin 8) (hc : c.val < 3)
    (hin : individual = false → overflows (word b) c = false) :
    (baseChannel b individual s c : Int) =
      (if individual then individualBase (word b) s c else differentialBase (word b) s c : Nat) := by
  have hi1 : 63 - 8 * c.val = 7 + (56 - 8 * c.val) := by omega
  have hi2 : 60 - 8 * c.val = 4 + (56 - 8 * c.val) := by omega
  have hi3 : 59 - 8 * c.val = 3 + (56 - 8 * c.val) := by omega
  cases individual with
  | true =>
    rcases s with _ | s
    · rw [baseChannel, expand4_high, if_pos rfl, individualBase, if_pos rfl, hi1, hi2]
    · rw [baseChannel, expand4_low, if_pos rfl, individualBase, if_neg (by omega), hi3]
      intro h
      omega
  | false =>
    have hsum := hin rfl
    have hbase : base5 (word b) c < 32 := by
      have h := bits_lt (word b) (63 - 8 * c.val) (59 - 8 * c.val)
      rwa [show 63 - 8 * c.val + 1 - (59 - 8 * c.val) = 5 by omega] at h
    rcases s with _ | s
    · rw [baseChannel, top_word b c 3 (by decide), if_neg (by decide), differentialBase, if_pos rfl, ← hi1, ← hi3]
      exact congrArg Nat.cast (expand5_eq hbase)
    · have hlt : (second (word b) c).toNat < 32 := by
        simp only [overflows, Bool.or_eq_false_iff, decide_eq_false_iff_not] at hsum
        omega
      rw [baseChannel, channelSum_eq b c hc, if_neg (by decide), differentialBase, if_neg (by omega), expand5_eq hlt]
      intro h
      omega

/-- What both modes give a texel, where the differential sums are in range. -/
theorem basePaint_eq (b : Block) (individual isOpaque : Bool) (hx : x < 4) (hy : y < 4)
    (hin : individual = false → ∀ c < 3, overflows (word b) c = false) :
    let base c : Int :=
      (if individual then individualBase (word b) (subblock (word b) x y) c
        else differentialBase (word b) (subblock (word b) x y) c : Nat)
    let m := if !isOpaque && pixelIndex (word b) x y == 0 then 0
      else modifier (word b) (subblock (word b) x y) (pixelIndex (word b) x y)
    basePaint b individual isOpaque x y (pixelIndex (word b) x y) = { r := base 0 + m, g := base 1 + m, b := base 2 + m } := by
  have hsub : (if byteAt b 3 &&& 1 ≠ 0 then (if y ≥ 2 then 1 else 0) else (if x ≥ 2 then 1 else 0)) =
      subblock (word b) x y := by
    rw [flipBit_eq, subblock]
    split_ifs <;> omega
  unfold basePaint
  dsimp only
  rw [hsub, modifier_eq b _ (pixelIndex_lt _ _ _)]
  simp only [Paint.shifted, paintOf, baseChannel_eq b individual 0 (by decide) (fun h => hin h 0 (by decide)),
    baseChannel_eq b individual 1 (by decide) (fun h => hin h 1 (by decide)),
    baseChannel_eq b individual 2 (by decide) (fun h => hin h 2 (by decide))]
  rfl

/-! ## Colour blocks -/

theorem outOfRange_eq (b : Block) (c : Fin 8) (hc : c.val < 3) : outOfRange (channelSum b c) = overflows (word b) c := by
  rw [channelSum_eq b c hc]
  rfl

theorem map_texel (p : Paint) : (p.texel 255).map UInt8.toNat = [clampByte p.r, clampByte p.g, clampByte p.b, 255] := by
  simp [Paint.texel, clamp255_eq]

theorem mode_differential {w : Nat} {punchthrough : Bool} (h : mode w punchthrough = .differential) :
    ∀ c < 3, overflows w c = false := by
  unfold mode at h
  split_ifs at h with hi h0 h1 h2
  intro c hc
  obtain rfl | rfl | rfl : c = 0 ∨ c = 1 ∨ c = 2 := by omega
  · exact (Bool.not_eq_true _).mp h0
  · exact (Bool.not_eq_true _).mp h1
  · exact (Bool.not_eq_true _).mp h2

/-- The decoder's branches, by the mode the specification gives the block. -/
theorem decodeRgbBlock_mode (b : Block) (punchthrough : Bool) (hx : x < 4) (hy : y < 4) :
    decodeRgbBlock b punchthrough (4 * x + y) =
      let clear := punchthrough && diffBit (word b) == 0 && pixelIndex (word b) x y == 2
      match mode (word b) punchthrough with
      | .planar => (planarPaint b x y).texel 255
      | .t => if clear then [0, 0, 0, 0] else (tPaint b (pixelIndex (word b) x y)).texel 255
      | .h => if clear then [0, 0, 0, 0] else (hPaint b (pixelIndex (word b) x y)).texel 255
      | .individual => if clear then [0, 0, 0, 0]
        else (basePaint b true (!(punchthrough && diffBit (word b) == 0)) x y (pixelIndex (word b) x y)).texel 255
      | .differential => if clear then [0, 0, 0, 0]
        else (basePaint b false (!(punchthrough && diffBit (word b) == 0)) x y (pixelIndex (word b) x y)).texel 255 := by
  have hcolumn : (4 * x + y) / 4 = x := by omega
  have hrow : (4 * x + y) % 4 = y := by omega
  have h0 : outOfRange (channelSum b 0) = overflows (word b) 0 := outOfRange_eq b 0 (by decide)
  have h1 : outOfRange (channelSum b 1) = overflows (word b) 1 := outOfRange_eq b 1 (by decide)
  have h2 : outOfRange (channelSum b 2) = overflows (word b) 2 := outOfRange_eq b 2 (by decide)
  have hdiff : decide (byteAt b 3 &&& 2 ≠ 0) = !(diffBit (word b) == 0) := by
    have h := diffBit_eq b
    by_cases hz : diffBit (word b) = 0
    · rw [decide_eq_false (fun hne => h.mp hne hz), hz]
      rfl
    · rw [decide_eq_true (h.mpr hz), beq_false_of_ne hz]
      rfl
  have hopaque : (!(!punchthrough || !(diffBit (word b) == 0))) = (punchthrough && diffBit (word b) == 0) := by
    cases punchthrough <;> cases (diffBit (word b) == 0) <;> rfl
  unfold decodeRgbBlock
  dsimp only
  rw [hcolumn, hrow, textureIndex_eq b hx hy, h0, h1, h2, hdiff, hopaque]
  unfold mode
  cases punchthrough <;> cases (diffBit (word b) == 0) <;> cases overflows (word b) 0 <;> cases overflows (word b) 1 <;>
    cases overflows (word b) 2 <;> rfl

/-- A texel of a colour block, with and without punchthrough alpha. -/
theorem decodeRgbBlock_eq (b : Block) (punchthrough : Bool) (hx : x < 4) (hy : y < 4) :
    (decodeRgbBlock b punchthrough (4 * x + y)).map UInt8.toNat = texel (word b) punchthrough x y := by
  rw [decodeRgbBlock_mode b punchthrough hx hy]
  unfold texel transparent channel
  have hpaints : ∀ (clear : Bool) (p : Paint) (f : Nat → Int), p = { r := f 0, g := f 1, b := f 2 } →
      (if clear then [0, 0, 0, 0] else p.texel 255).map UInt8.toNat =
        if clear then [0, 0, 0, 0] else (List.range 3).map (fun c => clampByte (f c)) ++ [255] := by
    intro clear p f hp
    cases clear with
    | true => rfl
    | false =>
      rw [if_neg (by decide), if_neg (by decide), map_texel, hp]
      rfl
  cases hm : mode (word b) punchthrough with
  | planar =>
    rw [show (Mode.planar != Mode.planar) = false from rfl, Bool.and_false]
    exact hpaints false _ _ (planarPaint_eq b x y)
  | t =>
    rw [show (Mode.t != Mode.planar) = true from rfl, Bool.and_true]
    exact hpaints _ _ _ (tPaint_eq b _)
  | h =>
    rw [show (Mode.h != Mode.planar) = true from rfl, Bool.and_true]
    exact hpaints _ _ _ (hPaint_eq b _)
  | individual =>
    rw [show (Mode.individual != Mode.planar) = true from rfl, Bool.and_true]
    apply hpaints
    rw [basePaint_eq b true _ hx hy (by intro h; cases h)]
    simp only [modifierAt, Bool.not_not, if_true]
  | differential =>
    rw [show (Mode.differential != Mode.planar) = true from rfl, Bool.and_true]
    apply hpaints
    rw [basePaint_eq b false _ hx hy (fun _ => mode_differential hm)]
    simp only [modifierAt, Bool.not_not, Bool.false_eq_true, if_false]

/-! ## EAC blocks -/

theorem base_eq (b : Block) : byteAt b 0 = bits (word b) 63 56 := byteAt_eq b 0

theorem multiplier_eq (b : Block) : byteAt b 1 >>> 4 = eacMultiplier (word b) := top_word b 1 4 (by decide)

theorem eacIndex_eq (b : Block) {texel : Nat} (h : texel < 16) :
    eacIndex b texel = bits (word b) (47 - 3 * texel) (45 - 3 * texel) := by
  have hlow : ([2, 3, 4, 5, 6, 7] : List (Fin 8)).foldl (fun bits i => bits <<< 8 ||| byteAt b i) 0 = word b % 2 ^ 48 := by
    have hor : ∀ (v : Nat) (i : Fin 8), v <<< 8 ||| byteAt b i = v * 2 ^ 8 + byteAt b i := fun v i =>
      shiftLeft_or v (byteAt_lt b i)
    have h2 := byteAt_lt b 2
    have h3 := byteAt_lt b 3
    have h4 := byteAt_lt b 4
    have h5 := byteAt_lt b 5
    have h6 := byteAt_lt b 6
    have h7 := byteAt_lt b 7
    simp only [List.foldl_cons, List.foldl_nil, hor]
    rw [word_eq]
    omega
  have hfield := shiftRight_and (word b % 2 ^ 48) (45 - texel * 3) 2
  rw [bits_mod _ _ (by omega)] at hfield
  rw [eacIndex, hlow, show 47 - 3 * texel = 45 - texel * 3 + 2 by omega, show 45 - 3 * texel = 45 - texel * 3 by omega]
  exact hfield

theorem eacTable_eq : ∀ table < 16, ∀ index < 8,
    entry kEacModifiers table index =
      let magnitude := (magnitudes.getD table []).getD (index % 4) 0
      if index < 4 then -(magnitude : Int) else magnitude - 1 := by
  decide

theorem eacModifier_eq (b : Block) (hx : x < 4) (hy : y < 4) :
    eacModifier b (4 * x + y) = eacModifierAt (word b) x y := by
  have htable : byteAt b 1 &&& 15 = bits (word b) 51 48 := mask_word b 1 0 3 (by decide)
  have hlt : bits (word b) (47 - 3 * (4 * x + y)) (45 - 3 * (4 * x + y)) < 8 := by
    have h := bits_lt (word b) (47 - 3 * (4 * x + y)) (45 - 3 * (4 * x + y))
    rwa [show 47 - 3 * (4 * x + y) + 1 - (45 - 3 * (4 * x + y)) = 3 by omega] at h
  rw [eacModifier, eacIndex_eq b (by omega), htable, eacTable_eq _ (bits_lt _ _ _) _ hlt, eacModifierAt]

theorem alpha_eq (b : Block) (hx : x < 4) (hy : y < 4) :
    (clamp255 (byteAt b 0 + eacModifier b (4 * x + y) * (byteAt b 1 >>> 4 : Nat))).toNat = alpha (word b) x y := by
  rw [clamp255_eq, eacModifier_eq b hx hy, multiplier_eq, base_eq, alpha]

theorem scaled_eq (b : Block) (hx : x < 4) (hy : y < 4) :
    (if byteAt b 1 >>> 4 ≠ 0 then eacModifier b (4 * x + y) * (byteAt b 1 >>> 4 : Nat) * 8 else eacModifier b (4 * x + y)) =
      scaledModifier (word b) x y := by
  rw [eacModifier_eq b hx hy, multiplier_eq, scaledModifier, ite_not]

theorem decodeR11_unsigned (b : Block) (hx : x < 4) (hy : y < 4) :
    (decodeR11 b (4 * x + y) false).toNat = unsigned16 (word b) x y := by
  have hvalue : (clamp (byteAt b 0 * 8 + 4 + scaledModifier (word b) x y) 0 2047).toNat = unsigned11 (word b) x y := by
    rw [base_eq, clamp, unsigned11, min_comm]
  have hlt : unsigned11 (word b) x y < 2048 := by unfold unsigned11; omega
  unfold decodeR11
  dsimp only
  rw [scaled_eq b hx hy, if_pos (by rfl), hvalue, Nat.shiftRight_eq_div_pow, shiftLeft_or _ (by omega), UInt16.toNat_ofNat',
    Nat.mod_eq_of_lt (by omega)]
  rfl

theorem signedBase_eq (b : Block) : max (-127) (b 0).toInt8.toInt = signedBase (word b) := by
  have htwos : (b 0).toInt8.toInt = if byteAt b 0 < 128 then (byteAt b 0 : Int) else (byteAt b 0 : Int) - 256 := by
    have h := BitVec.toInt_eq_toNat_cond (b 0).toBitVec
    have hiff : 2 * (b 0).toBitVec.toNat < 2 ^ 8 ↔ byteAt b 0 < 128 := by
      show 2 * byteAt b 0 < 256 ↔ byteAt b 0 < 128
      omega
    rw [if_congr hiff rfl rfl] at h
    exact h
  rw [htwos, base_eq, signedBase]

/-- A number in the signed range of 16 bits is what its unsigned form stands for. -/
theorem toInt16_ofInt {z : Int} (hlo : -32768 ≤ z) (hhi : z < 32768) : (UInt16.ofInt z).toInt16.toInt = z := by
  have h := BitVec.toInt_eq_toNat_cond (UInt16.ofInt z).toBitVec
  have hnat : (UInt16.ofInt z).toBitVec.toNat = (z % 2 ^ 16).toNat := by
    show (UInt16.ofNat (z % 2 ^ 16).toNat).toNat = _
    rw [UInt16.toNat_ofNat', Nat.mod_eq_of_lt (by omega)]
  rw [hnat] at h
  show (UInt16.ofInt z).toBitVec.toInt = z
  rw [h]
  split <;> omega

theorem decodeR11_signed (b : Block) (hx : x < 4) (hy : y < 4) :
    (decodeR11 b (4 * x + y) true).toInt16.toInt = signed16 (word b) x y := by
  have hvalue : clamp (signedBase (word b) * 8 + scaledModifier (word b) x y) (-1023) 1023 = signed11 (word b) x y := by
    rw [clamp, signed11, min_comm]
  unfold decodeR11
  dsimp only
  rw [scaled_eq b hx hy, if_neg (by decide), signedBase_eq, hvalue, Nat.shiftRight_eq_div_pow]
  have hrange : (signed11 (word b) x y).natAbs < 1024 := by unfold signed11; omega
  rw [shiftLeft_or _ (by omega)]
  unfold signed16
  generalize signed11 (word b) x y = v at hrange
  rcases lt_trichotomy v 0 with hneg | rfl | hpos
  · rw [if_pos hneg, Int.sign_eq_neg_one_of_neg hneg, toInt16_ofInt (by omega) (by omega)]
    omega
  · decide
  · rw [if_neg (by omega), Int.sign_eq_one_of_pos hpos, toInt16_ofInt (by omega) (by omega)]
    omega

/-! ## Images -/

/-- The low and the high byte of a 16-bit value. -/
theorem channelByte_eq (v : UInt16) {k : Nat} (hk : k < 2) :
    (decodedByte.channelByte v k).toNat = (littleEndian v.toNat).getD k 0 := by
  have hv := v.toNat_lt
  obtain rfl | rfl : k = 0 ∨ k = 1 := by omega
  · simp [decodedByte.channelByte, littleEndian]
  · simp [decodedByte.channelByte, littleEndian, Nat.shiftRight_eq_div_pow]
    omega

theorem toNat_of_toInt16 (v : UInt16) : v.toNat = (v.toInt16.toInt % 65536).toNat := by
  have hv := v.toNat_lt
  have h := BitVec.toInt_eq_toNat_cond v.toBitVec
  change v.toInt16.toInt = if 2 * v.toNat < 2 ^ 16 then (v.toNat : Int) else (v.toNat : Int) - 2 ^ 16 at h
  rw [h]
  split <;> omega

theorem decodedByte_eq (format : EtcFormat) (part : Nat → Block) {x y k : Nat} (hx : x < 4) (hy : y < 4)
    (hk : k < etcDecodedTexelBytes format) :
    (decodedByte format part (4 * x + y) k).toNat = (texelBytes format (fun i => word (part i)) x y).getD k 0 := by
  have hcolour : ∀ b punchthrough, ((decodeRgbBlock b punchthrough (4 * x + y)).getD k 0).toNat =
      (texel (word b) punchthrough x y).getD k 0 := by
    intro b punchthrough
    rw [← decodeRgbBlock_eq b punchthrough hx hy]
    obtain ⟨r, g, bl, a, hd⟩ := exists_decodeRgbBlock b punchthrough (4 * x + y)
    rw [hd]
    rcases k with _ | _ | _ | _ | k <;> rfl
  have hunsigned : ∀ b, ∀ j < 2, (decodedByte.channelByte (decodeR11 b (4 * x + y) false) j).toNat =
      (littleEndian (unsigned16 (word b) x y)).getD j 0 := by
    intro b j hj
    rw [channelByte_eq _ hj, decodeR11_unsigned b hx hy]
  have hsigned : ∀ b, ∀ j < 2, (decodedByte.channelByte (decodeR11 b (4 * x + y) true) j).toNat =
      (littleEndian (signed16 (word b) x y % 65536).toNat).getD j 0 := by
    intro b j hj
    rw [channelByte_eq _ hj, toNat_of_toInt16, decodeR11_signed b hx hy]
  cases format with
  | etc2Rgb8 => exact hcolour (part 0) false
  | etc2Rgb8A1 => exact hcolour (part 0) true
  | etc2Rgba8 =>
    have htexel := decodeRgbBlock_eq (part 1) false hx hy
    obtain ⟨r, g, bl, a, hd⟩ := exists_decodeRgbBlock (part 1) false (4 * x + y)
    rw [hd] at htexel
    simp only [decodedByte, texelBytes, hd, ← htexel]
    obtain rfl | rfl | rfl | rfl := lt_four hk
    · rfl
    · rfl
    · rfl
    · exact alpha_eq (part 0) hx hy
  | eacR11 => exact hunsigned (part 0) k hk
  | eacR11Signed => exact hsigned (part 0) k hk
  | eacRg11 =>
    simp only [decodedByte, texelBytes]
    by_cases hlow : k < 2
    · rw [if_pos hlow, List.getD_append _ _ _ _ hlow]
      exact hunsigned (part 0) k hlow
    · rw [if_neg hlow, List.getD_append_right _ _ _ _ (Nat.le_of_not_lt hlow)]
      exact hunsigned (part 1) (k - 2) (by simp only [etcDecodedTexelBytes] at hk; omega)
  | eacRg11Signed =>
    simp only [decodedByte, texelBytes]
    by_cases hlow : k < 2
    · rw [if_pos hlow, List.getD_append _ _ _ _ hlow]
      exact hsigned (part 0) k hlow
    · rw [if_neg hlow, List.getD_append_right _ _ _ _ (Nat.le_of_not_lt hlow)]
      exact hsigned (part 1) (k - 2) (by simp only [etcDecodedTexelBytes] at hk; omega)

/-- The image loops place texel (x, y) of a block at the pixel that far from the block's. -/
theorem blockRows_place {format : EtcFormat} {source : Source} {sourceBytes : Nat}
    {width height firstBlockRow blockRowCount : UInt32} {destination : Option Nat} {destinationBytes : Nat}
    (h : (decodeEtcImageBlockRows format source sourceBytes width height firstBlockRow blockRowCount destination
      destinationBytes).1 = true) :
    ∃ bytes, source = some bytes ∧ ∀ (memory : Nat → UInt8) (column row x y k : Nat), x < 4 → y < 4 →
      firstBlockRow.toNat ≤ row → row < firstBlockRow.toNat + blockRowCount.toNat →
      4 * column + x < width.toNat → 4 * row + y < height.toNat → k < etcDecodedTexelBytes format →
      (storeAll memory (storesOf (decodeEtcImageBlockRows format source sourceBytes width height firstBlockRow
          blockRowCount destination destinationBytes).2)
        (((4 * row + y) * width.toNat + (4 * column + x)) * etcDecodedTexelBytes format + k)).toNat =
        (texelBytes format
          (fun part => word (blockParts bytes ((row * blocksAlong width + column) * etcBlockBytes format) part)) x y).getD
          k 0 := by
  unfold decodeEtcImageBlockRows at h ⊢
  split at h
  · cases h
  · rename_i hfits
    split at h
    · cases h
    · rename_i hrows
      cases source with
      | none => cases h
      | some bytes =>
        refine ⟨bytes, rfl, ?_⟩
        intro memory column row x y k hx hy hfirst hlast hwidth hheight hk
        have hmem : (4 * column + x, 4 * row + y) ∈ visited width height firstBlockRow.toNat blockRowCount.toNat :=
          mem_visited.mpr ⟨hwidth, by omega, by omega⟩
        have hvalue := visited_values format bytes width height firstBlockRow.toNat blockRowCount.toNat memory hmem hk
        rw [if_neg hfits, if_neg hrows]
        dsimp only
        rw [storesOf_rows format bytes width height]
        have hparts : partsAt format bytes width (4 * column + x) (4 * row + y) =
            blockParts bytes ((row * blocksAlong width + column) * etcBlockBytes format) := by
          rw [partsAt, blockOffset, show (4 * row + y) / 4 = row by omega, show (4 * column + x) / 4 = column by omega]
        have htexel : texelIn (4 * column + x) (4 * row + y) = 4 * x + y := by unfold texelIn; omega
        rw [← decodedByte_eq format _ hx hy hk, ← hparts, ← htexel]
        exact congrArg UInt8.toNat hvalue

/-- Every block of every mode decodes as the specification has it, and every image holds the
    texels of its blocks. -/
theorem etcDecoder_specified :
    (∀ (b : Block) (punchthrough : Bool) (x y : Fin 4),
      (decodeRgbBlock b punchthrough (4 * x + y)).map UInt8.toNat = texel (word b) punchthrough x y) ∧
    (∀ (b : Block) (x y : Fin 4),
      (clamp255 (byteAt b 0 + eacModifier b (4 * x + y) * (byteAt b 1 >>> 4 : Nat))).toNat = alpha (word b) x y) ∧
    (∀ (b : Block) (x y : Fin 4), (decodeR11 b (4 * x + y) false).toNat = unsigned16 (word b) x y) ∧
    (∀ (b : Block) (x y : Fin 4), (decodeR11 b (4 * x + y) true).toInt16.toInt = signed16 (word b) x y) ∧
    (∀ (format : EtcFormat) (source : Source) (sourceBytes : Nat) (width height firstBlockRow blockRowCount : UInt32)
      (destination : Option Nat) (destinationBytes : Nat),
      (decodeEtcImageBlockRows format source sourceBytes width height firstBlockRow blockRowCount destination
        destinationBytes).1 = true →
      ∃ bytes, source = some bytes ∧ ∀ (memory : Nat → UInt8) (column row : Nat) (x y : Fin 4) (k : Nat),
        firstBlockRow.toNat ≤ row → row < firstBlockRow.toNat + blockRowCount.toNat →
        4 * column + x < width.toNat → 4 * row + y < height.toNat → k < etcDecodedTexelBytes format →
        (storeAll memory (storesOf (decodeEtcImageBlockRows format source sourceBytes width height firstBlockRow
            blockRowCount destination destinationBytes).2)
          (((4 * row + y) * width.toNat + (4 * column + x)) * etcDecodedTexelBytes format + k)).toNat =
          (texelBytes format
            (fun part => word (blockParts bytes ((row * blocksAlong width + column) * etcBlockBytes format) part))
            x y).getD k 0) := by
  refine ⟨?_, ?_, ?_, ?_, ?_⟩
  · intro b punchthrough x y
    exact decodeRgbBlock_eq b punchthrough x.isLt y.isLt
  · intro b x y
    exact alpha_eq b x.isLt y.isLt
  · intro b x y
    exact decodeR11_unsigned b x.isLt y.isLt
  · intro b x y
    exact decodeR11_signed b x.isLt y.isLt
  · intro format source sourceBytes width height firstBlockRow blockRowCount destination destinationBytes h
    obtain ⟨bytes, hsource, hplace⟩ := blockRows_place h
    refine ⟨bytes, hsource, ?_⟩
    intro memory column row x y k
    exact hplace memory column row x y k x.isLt y.isLt

/-- An image of two blocks side by side: the green of texel (1, 3) of the second is that of pixel
    (5, 3). -/
theorem etcDecoder_specified_pair :
    (decodeEtcImageBlockRows .etc2Rgb8 (some fun i => UInt8.ofNat (17 * i)) 16 6 4 0 1 (some 64) 96).1 = true ∧
      (storeAll (fun _ => 0) (storesOf (decodeEtcImageBlockRows .etc2Rgb8 (some fun i => UInt8.ofNat (17 * i)) 16 6 4 0 1
        (some 64) 96).2) ((3 * 6 + 5) * 4 + 1)).toNat = 59 := by
  have haccepted : (decodeEtcImageBlockRows .etc2Rgb8 (some fun i => UInt8.ofNat (17 * i)) 16 6 4 0 1 (some 64) 96).1 = true := by
    decide
  refine ⟨haccepted, ?_⟩
  obtain ⟨bytes, hsource, hplace⟩ := etcDecoder_specified.2.2.2.2 _ _ _ _ _ _ _ _ _ haccepted
  cases hsource
  exact (hplace (fun _ => 0) 1 0 1 3 1 (by decide) (by decide) (by decide) (by decide) (by decide)).trans (by decide)

end Mocktail.Graphics

/-
  Mocktail.Lib.BitFields — fields of bits of a number, and the shifts and masks that read them.
-/

import Mathlib.Data.Nat.Bitwise
import Mathlib.Tactic.Ring

namespace Mocktail.Lib

/-- The bits of a word from `hi` down to `lo`. -/
def bits (w hi lo : Nat) : Nat := w / 2 ^ lo % 2 ^ (hi + 1 - lo)

theorem bits_lt (w hi lo : Nat) : bits w hi lo < 2 ^ (hi + 1 - lo) := Nat.mod_lt _ (Nat.two_pow_pos _)

/-- Or of parts that share no bit is their sum. -/
theorem shiftLeft_or {b i : Nat} (a : Nat) (h : b < 2 ^ i) : a <<< i ||| b = a * 2 ^ i + b := by
  rw [← Nat.shiftLeft_add_eq_or_of_lt h, Nat.shiftLeft_eq]

theorem mul_two_pow_or {b i : Nat} (a : Nat) (h : b < 2 ^ i) : a * 2 ^ i ||| b = a * 2 ^ i + b := by
  rw [← Nat.shiftLeft_eq, shiftLeft_or a h, Nat.shiftLeft_eq]

theorem shiftRight_and (w lo n : Nat) : w >>> lo &&& (2 ^ (n + 1) - 1) = bits w (lo + n) lo := by
  rw [Nat.and_two_pow_sub_one_eq_mod, Nat.shiftRight_eq_div_pow, bits, show lo + n + 1 - lo = n + 1 by omega]

/-- A mask away from the lowest bit leaves the field where it is. -/
theorem and_mask (w lo n : Nat) : w &&& (2 ^ n - 1) * 2 ^ lo = (w >>> lo &&& (2 ^ n - 1)) * 2 ^ lo := by
  apply Nat.eq_of_testBit_eq
  intro i
  simp only [Nat.testBit_and, Nat.testBit_mul_two_pow, Nat.testBit_two_pow_sub_one, Nat.testBit_shiftRight]
  by_cases hi : lo ≤ i
  · simp [hi, show lo + (i - lo) = i by omega]
  · simp [hi]

/-- The mask of the bits from `lo` on rounds a word down. -/
theorem and_high_mask {w x lo : Nat} (hx : x < 2 ^ w) (hlo : lo ≤ w) :
    x &&& (2 ^ w - 1 - (2 ^ lo - 1)) = x / 2 ^ lo * 2 ^ lo := by
  have hpow : 2 ^ (w - lo) * 2 ^ lo = 2 ^ w := by rw [← Nat.pow_add, Nat.sub_add_cancel hlo]
  have hmask : 2 ^ w - 1 - (2 ^ lo - 1) = (2 ^ (w - lo) - 1) * 2 ^ lo := by
    rw [Nat.sub_one_mul, hpow]
    have hle := Nat.two_pow_pos lo
    omega
  have hlt : x / 2 ^ lo < 2 ^ (w - lo) := Nat.div_lt_of_lt_mul (by rwa [Nat.mul_comm, hpow])
  rw [hmask, and_mask, Nat.and_two_pow_sub_one_eq_mod, Nat.shiftRight_eq_div_pow, Nat.mod_eq_of_lt hlt]

/-- The bits below `k` are those of the remainder by `2 ^ k`. -/
theorem bits_mod {k hi : Nat} (w lo : Nat) (h : hi < k) : bits (w % 2 ^ k) hi lo = bits w hi lo := by
  unfold bits
  by_cases hl : lo ≤ hi
  · obtain ⟨d, rfl⟩ : ∃ d, k = lo + d := ⟨k - lo, by omega⟩
    rw [Nat.pow_add, Nat.mod_mul_right_div_self]
    exact Nat.mod_mod_of_dvd _ (Nat.pow_dvd_pow 2 (by omega))
  · rw [show hi + 1 - lo = 0 by omega]
    simp [Nat.mod_one]

/-- The bits from `k` on are those of the quotient by `2 ^ k`. -/
theorem bits_div (w hi lo k : Nat) : bits (w / 2 ^ k) hi lo = bits w (hi + k) (lo + k) := by
  unfold bits
  rw [Nat.div_div_eq_div_mul, ← Nat.pow_add, Nat.add_comm k lo, show hi + k + 1 - (lo + k) = hi + 1 - lo by omega]

theorem bits_split (w hi m lo : Nat) (hlo : lo < m) (hm : m ≤ hi) :
    bits w hi lo = bits w hi m * 2 ^ (m - lo) + bits w (m - 1) lo := by
  unfold bits
  rw [show hi + 1 - lo = (m - lo) + (hi + 1 - m) by omega, show m - 1 + 1 - lo = m - lo by omega, Nat.pow_add,
    Nat.mod_mul, Nat.div_div_eq_div_mul, ← Nat.pow_add, show lo + (m - lo) = m by omega]
  ring

theorem bits_join (w hi m lo : Nat) (hlo : lo < m) (hm : m ≤ hi) :
    bits w hi m <<< (m - lo) ||| bits w (m - 1) lo = bits w hi lo := by
  have hlt : bits w (m - 1) lo < 2 ^ (m - lo) := by
    have h := bits_lt w (m - 1) lo
    rwa [show m - 1 + 1 - lo = m - lo by omega] at h
  rw [shiftLeft_or _ hlt, bits_split w hi m lo hlo hm]

end Mocktail.Lib

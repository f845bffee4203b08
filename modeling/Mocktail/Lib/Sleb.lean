/-
  Mocktail.Lib.Sleb — signed LEB128.

  `Sleb bytes value` says that the bytes encode the value: seven bits a byte, low ones first,
  the eighth bit set on all but the last byte, whose seventh bit is the sign. A value has many
  encodings; `SlebMinimal` is one that no other is shorter than, and `SlebAll` a row of them.
-/

import Mathlib.Tactic.Ring

namespace Mocktail.Lib

inductive Sleb : List UInt8 → Int → Prop where
  | positive {byte : UInt8} (h : byte.toNat < 64) : Sleb [byte] byte.toNat
  | negative {byte : UInt8} (h : 64 ≤ byte.toNat) (h' : byte.toNat < 128) : Sleb [byte] (byte.toNat - 128)
  | more {byte : UInt8} {rest : List UInt8} {value : Int} (h : 128 ≤ byte.toNat) (hrest : Sleb rest value) :
      Sleb (byte :: rest) (byte.toNat - 128 + 128 * value)

def SlebMinimal (bytes : List UInt8) (value : Int) : Prop :=
  Sleb bytes value ∧ ∀ other, Sleb other value → bytes.length ≤ other.length

/-- SlebMinimal encodings one after the other. -/
inductive SlebAll : List Int → List UInt8 → Prop where
  | nil : SlebAll [] []
  | cons {value : Int} {values : List Int} {bytes rest : List UInt8} (h : SlebMinimal bytes value) (hrest : SlebAll values rest) :
      SlebAll (value :: values) (bytes ++ rest)

theorem sleb_length_pos {bytes : List UInt8} {value : Int} (h : Sleb bytes value) : 0 < bytes.length := by
  cases h <;> simp

/-- A value of 7n + 7 bits has an encoding of n + 1 bytes. -/
theorem exists_sleb (n : Nat) {value : Int} (h0 : -2 ^ (7 * n + 6) ≤ value) (h1 : value < 2 ^ (7 * n + 6)) :
    ∃ bytes, Sleb bytes value ∧ bytes.length ≤ n + 1 := by
  have htoNat : ∀ k : Nat, k < 256 → (UInt8.ofNat k).toNat = k := by
    intro k hk
    exact Nat.mod_eq_of_lt hk
  induction n generalizing value with
  | zero =>
    rw [Nat.mul_zero, Nat.zero_add] at h0 h1
    by_cases hneg : value < 0
    · have hbyte := htoNat (value + 128).toNat (by omega)
      have hvalue : value = (UInt8.ofNat (value + 128).toNat).toNat - 128 := by
        rw [hbyte]
        omega
      refine ⟨[UInt8.ofNat (value + 128).toNat], ?_, Nat.le_refl _⟩
      have henc : Sleb [UInt8.ofNat (value + 128).toNat] _ := .negative (by rw [hbyte]; omega) (by rw [hbyte]; omega)
      rwa [← hvalue] at henc
    · have hbyte := htoNat value.toNat (by omega)
      have hvalue : value = (UInt8.ofNat value.toNat).toNat := by
        rw [hbyte]
        omega
      refine ⟨[UInt8.ofNat value.toNat], ?_, Nat.le_refl _⟩
      have henc : Sleb [UInt8.ofNat value.toNat] _ := .positive (by rw [hbyte]; omega)
      rwa [← hvalue] at henc
  | succ n ih =>
    have hpow : (2 : Int) ^ (7 * (n + 1) + 6) = 128 * 2 ^ (7 * n + 6) := by ring
    rw [hpow] at h0 h1
    generalize (2 : Int) ^ (7 * n + 6) = bound at h0 h1 ih
    obtain ⟨rest, hrest, hlen⟩ := @ih (value / 128) (by omega) (by omega)
    have hbyte := htoNat (value % 128 + 128).toNat (by omega)
    refine ⟨UInt8.ofNat (value % 128 + 128).toNat :: rest, ?_, by rw [List.length_cons]; omega⟩
    have hvalue : value = (UInt8.ofNat (value % 128 + 128).toNat).toNat - 128 + 128 * (value / 128) := by
      rw [hbyte]
      omega
    have henc : Sleb (UInt8.ofNat (value % 128 + 128).toNat :: rest) _ := .more (by rw [hbyte]; omega) hrest
    rwa [← hvalue] at henc

theorem slebMinimal_length {bytes : List UInt8} {value : Int} (h : SlebMinimal bytes value) (h0 : -2 ^ 63 ≤ value)
    (h1 : value < 2 ^ 63) : bytes.length ≤ 10 := by
  have hlow : -2 ^ (7 * 9 + 6) ≤ value := by omega
  obtain ⟨other, hother, hlen⟩ := exists_sleb 9 hlow (by omega)
  exact Nat.le_trans (h.2 other hother) hlen

theorem slebAll_bytes {bytes : List UInt8} (h : ∀ byte ∈ bytes, byte.toNat < 64) :
    SlebAll (bytes.map fun byte => (byte.toNat : Int)) bytes := by
  induction bytes with
  | nil => exact .nil
  | cons byte rest ih =>
    have hbyte : SlebMinimal [byte] byte.toNat := by
      refine ⟨.positive (h byte (List.mem_cons_self ..)), ?_⟩
      intro other hother
      exact sleb_length_pos hother
    exact .cons hbyte (ih fun b hb => h b (List.mem_cons_of_mem _ hb))

end Mocktail.Lib

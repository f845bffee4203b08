/-
  Mocktail.Graphics.ScaledUploads — the host intervals of a scaled image's copies.

  The host mip of an axis is the scaled base shifted, which can be longer than the scaled
  application mip: the last interval of a mip takes what is over (`scaledAxis_eq`). So the host
  intervals of copies that make up an application mip make up the host mip
  (`scaledAxis_tiles`).
-/

import Mocktail.Graphics.UploadPlanning
import Mocktail.Lib.Tiles

namespace Mocktail.Graphics

open Mocktail.Lib

/-- A copy along one axis of a mip. -/
structure AxisCopy where
  offset : Nat
  extent : Nat
  deriving DecidableEq, Repr

/-- Its interval, clipped to a mip. -/
def AxisCopy.clipped (mip : Nat) (copy : AxisCopy) : Nat × Nat := (copy.offset, min mip (copy.offset + copy.extent))

section
variable {base scale mip : Nat}

theorem appMip_pos : 1 ≤ appMip base mip := Nat.le_max_left _ _

theorem appMip_le (hbase : 1 ≤ base) : appMip base mip ≤ base := by
  have hshift : base >>> mip ≤ base := by
    rw [Nat.shiftRight_eq_div_pow]
    exact Nat.div_le_self _ _
  exact Nat.max_le.mpr ⟨hbase, hshift⟩

theorem hostMip_pos : 1 ≤ hostMip base scale mip := Nat.le_max_left _ _

/-- What comes before the end of the application mip comes before the end of the host mip. -/
theorem scaled_lt_hostMip (hscale : 1 ≤ scale) (hwide : base * scale < 2 ^ 31) {n : Nat} (hn : n < appMip base mip) :
    n * scale < hostMip base scale mip := by
  by_cases hzero : n = 0
  · rw [hzero, Nat.zero_mul]
    exact hostMip_pos
  · have hwrap : wrap32 (base * scale) = base * scale := Nat.mod_eq_of_lt (by omega)
    unfold appMip at hn
    have hlt : n + 1 ≤ base / 2 ^ mip := by
      rw [← Nat.shiftRight_eq_div_pow]
      omega
    have hmul : (n + 1) * scale ≤ base * scale / 2 ^ mip :=
      calc (n + 1) * scale ≤ base / 2 ^ mip * scale := Nat.mul_le_mul_right _ hlt
        _ ≤ base * scale / 2 ^ mip := by
          rw [Nat.mul_comm, Nat.mul_comm base]
          exact Nat.mul_div_le_mul_div_assoc _ _ _
    have hmax : base * scale / 2 ^ mip ≤ hostMip base scale mip := by
      rw [hostMip, hwrap, Nat.shiftRight_eq_div_pow]
      exact Nat.le_max_right _ _
    nlinarith

/-- Where a point of the application mip is on the host. -/
def hostPoint (base scale mip : Nat) (n : Nat) : Nat := if n = appMip base mip then hostMip base scale mip else n * scale

theorem hostPoint_lt (hscale : 1 ≤ scale) (hwide : base * scale < 2 ^ 31) {n m : Nat} (hnm : n < m) (hm : m ≤ appMip base mip) :
    hostPoint base scale mip n < hostPoint base scale mip m := by
  have hn : hostPoint base scale mip n = n * scale := if_neg (by omega)
  rw [hn]
  by_cases hend : m = appMip base mip
  · rw [hostPoint, if_pos hend]
    exact scaled_lt_hostMip hscale hwide (by omega)
  · rw [hostPoint, if_neg hend]
    exact Nat.mul_lt_mul_of_pos_right hnm hscale

theorem scaledAxis_eq (hbase : 1 ≤ base) (hscale : 1 ≤ scale) (hwide : base * scale < 2 ^ 31) {copy : AxisCopy}
    (hoffset : copy.offset < (copy.clipped (appMip base mip)).2) (hsize : copy.offset + copy.extent < 2 ^ 32) :
    scaledAxis base scale mip copy.offset copy.extent =
      some { texels := (copy.clipped (appMip base mip)).2 - copy.offset
             hostStart := hostPoint base scale mip copy.offset
             hostEnd := hostPoint base scale mip (copy.clipped (appMip base mip)).2 } := by
  have hmip : appMip base mip ≤ base := appMip_le hbase
  have hclipped : (copy.clipped (appMip base mip)).2 ≤ appMip base mip := Nat.min_le_left _ _
  have hextent : wrap32 (copy.offset + copy.extent) = copy.offset + copy.extent := Nat.mod_eq_of_lt hsize
  have hbound : ∀ n ≤ appMip base mip, n * scale < 2 ^ 31 := fun n hn =>
    lt_of_le_of_lt (Nat.mul_le_mul_right _ (hn.trans hmip)) hwide
  have hstart : wrap32 (copy.offset * scale) = hostPoint base scale mip copy.offset := by
    rw [hostPoint, if_neg (by omega)]
    exact Nat.mod_eq_of_lt (lt_trans (hbound _ (by omega)) (by norm_num))
  have hstop : (if (copy.clipped (appMip base mip)).2 = appMip base mip then hostMip base scale mip
      else min (hostMip base scale mip) (wrap32 ((copy.clipped (appMip base mip)).2 * scale))) =
      hostPoint base scale mip (copy.clipped (appMip base mip)).2 := by
    unfold hostPoint
    by_cases hend : (copy.clipped (appMip base mip)).2 = appMip base mip
    · rw [if_pos hend, if_pos hend]
    · have hlt := scaled_lt_hostMip hscale hwide (show (copy.clipped (appMip base mip)).2 < appMip base mip by omega)
      have hwrap : wrap32 ((copy.clipped (appMip base mip)).2 * scale) = (copy.clipped (appMip base mip)).2 * scale :=
        Nat.mod_eq_of_lt (lt_trans (hbound _ hclipped) (by norm_num))
      rw [if_neg hend, if_neg hend, hwrap, Nat.min_eq_right hlt.le]
  have htexels : wrap32 ((copy.clipped (appMip base mip)).2 + 2 ^ 32 - copy.offset) =
      (copy.clipped (appMip base mip)).2 - copy.offset := by
    have hsmall : base < 2 ^ 31 := lt_of_le_of_lt (Nat.le_mul_of_pos_right _ hscale) hwide
    rw [wrap32, show (copy.clipped (appMip base mip)).2 + 2 ^ 32 - copy.offset =
      (copy.clipped (appMip base mip)).2 - copy.offset + 2 ^ 32 by omega, Nat.add_mod_right]
    exact Nat.mod_eq_of_lt (by omega)
  have hlt := hostPoint_lt hscale hwide hoffset hclipped
  unfold scaledAxis
  rw [if_neg (by omega), Int.toNat_natCast]
  simp only [hextent]
  rw [show min (appMip base mip) (copy.offset + copy.extent) = (copy.clipped (appMip base mip)).2 from rfl, hstop,
    hstart, htexels, if_neg (by omega)]

end

/-- Copies that make up an application mip from a point on. -/
theorem scaledAxis_tiles_from {base scale mip : Nat} (hbase : 1 ≤ base) (hscale : 1 ≤ scale) (hwide : base * scale < 2 ^ 31)
    {first : Nat} {copies : List AxisCopy}
    (htiles : Tiles first (appMip base mip) (copies.map (AxisCopy.clipped (appMip base mip))))
    (hsize : ∀ copy ∈ copies, copy.offset + copy.extent < 2 ^ 32) :
    ∃ intervals, copies.mapM (fun copy => scaledAxis base scale mip copy.offset copy.extent) = some intervals ∧
      Tiles (hostPoint base scale mip first) (hostMip base scale mip) (intervals.map fun i => (i.hostStart, i.hostEnd)) ∧
      intervals.map (·.texels) = copies.map fun copy => (copy.clipped (appMip base mip)).2 - copy.offset := by
  induction copies generalizing first with
  | nil =>
    cases htiles
    refine ⟨[], rfl, ?_, rfl⟩
    rw [hostPoint, if_pos rfl]
    exact .nil _
  | cons copy copies ih =>
    cases htiles with
    | cons hlt hrest =>
      obtain ⟨intervals, hintervals, hhost, htexels⟩ := ih hrest fun other ho => hsize other (List.mem_cons_of_mem _ ho)
      have hone := scaledAxis_eq hbase hscale hwide hlt (hsize copy List.mem_cons_self)
      refine ⟨⟨(copy.clipped (appMip base mip)).2 - copy.offset, hostPoint base scale mip copy.offset,
        hostPoint base scale mip (copy.clipped (appMip base mip)).2⟩ :: intervals, ?_, ?_, ?_⟩
      · rw [List.mapM_cons, hone, hintervals]
        rfl
      · exact .cons (hostPoint_lt hscale hwide hlt (Nat.min_le_left _ _)) hhost
      · rw [List.map_cons, List.map_cons, htexels]

/-- Copies that make up an application mip all succeed, and their host intervals make up the host mip. -/
theorem scaledAxis_tiles {base scale mip : Nat} (hbase : 1 ≤ base) (hscale : 2 ≤ scale ∧ scale ≤ 8)
    (hwide : base * scale < 2 ^ 31) (_hmip : mip < 32) {copies : List AxisCopy}
    (htiles : Tiles 0 (appMip base mip) (copies.map (AxisCopy.clipped (appMip base mip))))
    (hsize : ∀ copy ∈ copies, copy.offset + copy.extent < 2 ^ 32) :
    ∃ intervals, copies.mapM (fun copy => scaledAxis base scale mip copy.offset copy.extent) = some intervals ∧
      Tiles 0 (max 1 ((base * scale) >>> mip)) (intervals.map fun i => (i.hostStart, i.hostEnd)) ∧
      intervals.map (·.texels) = copies.map fun copy => (copy.clipped (appMip base mip)).2 - copy.offset := by
  have hzero : hostPoint base scale mip 0 = 0 := by
    have hpos : 1 ≤ appMip base mip := appMip_pos
    rw [hostPoint, if_neg (by omega), Nat.zero_mul]
  have hwrap : hostMip base scale mip = max 1 ((base * scale) >>> mip) := by
    rw [hostMip, wrap32, Nat.mod_eq_of_lt (by omega)]
  have h := scaledAxis_tiles_from hbase (by omega) hwide htiles hsize
  rwa [hzero, hwrap] at h

/-- A base of 5 texels at three times its size: the mip 1 of 2 texels is 7 texels on the host, in copies of 1 and 4. -/
theorem scaledAxis_tiles_five :
    ∃ intervals, [(⟨0, 1⟩ : AxisCopy), ⟨1, 4⟩].mapM (fun copy => scaledAxis 5 3 1 copy.offset copy.extent) = some intervals ∧
      Tiles 0 7 (intervals.map fun i => (i.hostStart, i.hostEnd)) ∧ intervals.map (·.texels) = [1, 1] :=
  scaledAxis_tiles (by decide) (by decide) (by decide) (by decide) (.cons (by decide) (.cons (by decide) (.nil _))) (by decide)

end Mocktail.Graphics

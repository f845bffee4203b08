/-
  Mocktail.Graphics.GatheredUploads — what planned uploads write, read and decode.

  The targets of a plan lie one after the other in the staging buffer (`planLoop_sound`).
  A planned upload is laid out in rows and layers that do not overlap (`Laid`), so it reads
  within its span only, and its span is as long as its blocks only where there is nothing
  between them: then one copy of all of them is the same as the copies of the rows
  (`contiguous_eq_strided`).
-/

import Mocktail.Graphics.UploadPlanning
import Mocktail.Lib.Tiles

namespace Mocktail.Graphics

open Mocktail.Lib

/-! ## The layout of an upload -/

variable {a base extent i layer mip offset row scale : Nat}

namespace PendingUpload

/-- The rows of blocks of an upload and how they lie in its source. -/
structure Laid (upload : PendingUpload) : Prop where
  layers_pos : 0 < upload.layers
  rows_pos : 0 < upload.blockRows
  row_pos : 0 < upload.packedRow
  compressed : upload.compressed = upload.layers * (upload.blockRows * upload.packedRow)
  row : upload.packedRow ≤ upload.sourceRowStride
  layer : upload.blockRows * upload.sourceRowStride ≤ upload.sourceLayerStride
  span : upload.sourceSpan =
    (upload.layers - 1) * upload.sourceLayerStride + (upload.blockRows - 1) * upload.sourceRowStride + upload.packedRow

variable {upload : PendingUpload}

theorem Laid.compressedLayer (h : upload.Laid) : upload.compressedLayer = upload.blockRows * upload.packedRow := by
  rw [PendingUpload.compressedLayer, h.compressed]
  exact Nat.mul_div_cancel_left _ h.layers_pos

theorem Laid.row_within (h : upload.Laid) (hlayer : layer < upload.layers) (hrow : row < upload.blockRows) :
    layer * upload.sourceLayerStride + row * upload.sourceRowStride + upload.packedRow ≤ upload.sourceSpan := by
  have h1 : layer * upload.sourceLayerStride ≤ (upload.layers - 1) * upload.sourceLayerStride :=
    Nat.mul_le_mul_right _ (by omega)
  have h2 : row * upload.sourceRowStride ≤ (upload.blockRows - 1) * upload.sourceRowStride :=
    Nat.mul_le_mul_right _ (by omega)
  have h3 := h.span
  omega

theorem gatherCopies_within (h : upload.Laid) {target : Nat} {copy : BlockCopy} (hcopy : copy ∈ upload.gatherCopies target) :
    upload.sourceOffset ≤ copy.start ∧ copy.start + copy.size ≤ upload.sourceOffset + upload.sourceSpan := by
  unfold gatherCopies at hcopy
  by_cases hspan : upload.sourceSpan = upload.compressed
  · rw [if_pos hspan, List.mem_singleton] at hcopy
    rw [hcopy]
    exact ⟨Nat.le_refl _, by rw [contiguousCopy, hspan]⟩
  · rw [if_neg hspan] at hcopy
    obtain ⟨layer, hlayer, hcopy⟩ := List.mem_flatMap.mp hcopy
    obtain ⟨row, hrow, rfl⟩ := List.mem_map.mp hcopy
    have hwithin := h.row_within (List.mem_range.mp hlayer) (List.mem_range.mp hrow)
    dsimp only
    omega

/-- A span as long as the blocks leaves nothing between the rows that are there. -/
theorem Laid.contiguous (h : upload.Laid) (hspan : upload.sourceSpan = upload.compressed)
    (hlayer : layer < upload.layers) (hrow : row < upload.blockRows) :
    layer * upload.sourceLayerStride + row * upload.sourceRowStride =
      layer * (upload.blockRows * upload.packedRow) + row * upload.packedRow := by
  obtain ⟨n, hn⟩ : ∃ n, upload.layers = n + 1 := ⟨upload.layers - 1, by have := h.layers_pos; omega⟩
  obtain ⟨m, hm⟩ : ∃ m, upload.blockRows = m + 1 := ⟨upload.blockRows - 1, by have := h.rows_pos; omega⟩
  have hlayers := h.layer
  have hrows := h.row
  have heq := h.span
  rw [hspan, h.compressed, hn, hm, Nat.add_sub_cancel, Nat.add_sub_cancel] at heq
  rw [hm] at hlayers
  -- the layers and the rows are at least as far apart as they are long
  have hlayerLe : (m + 1) * upload.packedRow ≤ upload.sourceLayerStride :=
    (Nat.mul_le_mul_left _ hrows).trans hlayers
  have h1 : n * ((m + 1) * upload.packedRow) ≤ n * upload.sourceLayerStride := Nat.mul_le_mul_left _ hlayerLe
  have h2 : m * upload.packedRow ≤ m * upload.sourceRowStride := Nat.mul_le_mul_left _ hrows
  have hexpand : (n + 1) * ((m + 1) * upload.packedRow) =
      n * ((m + 1) * upload.packedRow) + m * upload.packedRow + upload.packedRow := by
    rw [Nat.add_mul, Nat.one_mul, Nat.add_mul m, Nat.one_mul]
    omega
  rw [hexpand] at heq
  have hlayerEq : n * upload.sourceLayerStride = n * ((m + 1) * upload.packedRow) := by omega
  have hrowEq : m * upload.sourceRowStride = m * upload.packedRow := by omega
  have hl : layer * upload.sourceLayerStride = layer * ((m + 1) * upload.packedRow) := by
    rcases Nat.eq_zero_or_pos n with hzero | hpos
    · rw [show layer = 0 by omega, Nat.zero_mul, Nat.zero_mul]
    · rw [Nat.eq_of_mul_eq_mul_left hpos hlayerEq]
  have hr : row * upload.sourceRowStride = row * upload.packedRow := by
    rcases Nat.eq_zero_or_pos m with hzero | hpos
    · rw [show row = 0 by omega, Nat.zero_mul, Nat.zero_mul]
    · rw [Nat.eq_of_mul_eq_mul_left hpos hrowEq]
  rw [hl, hr, hm]

/-! ## The two ways to gather -/

theorem stridedCopies_ascending (h : upload.Laid) (target : Nat) :
    (upload.stridedCopies target).Pairwise fun c d => c.target + c.size ≤ d.target := by
  refine List.pairwise_flatMap.mpr ⟨fun layer _ => ?_, ?_⟩
  · refine List.pairwise_map.mpr (List.pairwise_lt_range.imp fun {row row'} hlt => ?_)
    have hle : (row + 1) * upload.packedRow ≤ row' * upload.packedRow := Nat.mul_le_mul_right _ hlt
    rw [Nat.add_mul, Nat.one_mul] at hle
    dsimp only
    omega
  · refine List.pairwise_lt_range.imp fun {layer layer'} hlt c hc d hd => ?_
    obtain ⟨row, hrow, rfl⟩ := List.mem_map.mp hc
    obtain ⟨row', -, rfl⟩ := List.mem_map.mp hd
    have hrows : (row + 1) * upload.packedRow ≤ upload.blockRows * upload.packedRow :=
      Nat.mul_le_mul_right _ (List.mem_range.mp hrow)
    have hlayers : (layer + 1) * upload.compressedLayer ≤ layer' * upload.compressedLayer := Nat.mul_le_mul_right _ hlt
    rw [Nat.add_mul, Nat.one_mul] at hrows hlayers
    have hlayer := h.compressedLayer
    dsimp only
    omega

/-- An offset of the packed blocks has a layer, a row and a place in the row. -/
theorem exists_place {layers rows size k : Nat} (hk : k < layers * (rows * size)) :
    ∃ layer < layers, ∃ row < rows, ∃ i < size, k = layer * (rows * size) + row * size + i := by
  have hpos : 0 < rows * size := by
    rcases Nat.eq_zero_or_pos (rows * size) with hzero | hpos
    · rw [hzero] at hk
      omega
    · exact hpos
  have hrest : k % (rows * size) < rows * size := Nat.mod_lt _ hpos
  have hsize : 0 < size := Nat.pos_of_mul_pos_left hpos
  refine ⟨k / (rows * size), Nat.div_lt_of_lt_mul (by rwa [Nat.mul_comm]), k % (rows * size) / size,
    Nat.div_lt_of_lt_mul (by rw [Nat.mul_comm size]; exact hrest), k % (rows * size) % size, Nat.mod_lt _ hsize, ?_⟩
  have h1 := Nat.div_add_mod' k (rows * size)
  have h2 := Nat.div_add_mod' (k % (rows * size)) size
  omega

/-- The packed blocks are within their place of the scratch buffer. -/
theorem Laid.place_lt (h : upload.Laid) (hlayer : layer < upload.layers) (hrow : row < upload.blockRows)
    (hi : i < upload.packedRow) : layer * upload.compressedLayer + row * upload.packedRow + i < upload.compressed := by
  have hrows : (row + 1) * upload.packedRow ≤ upload.blockRows * upload.packedRow := Nat.mul_le_mul_right _ hrow
  have hlayers : (layer + 1) * (upload.blockRows * upload.packedRow) ≤ upload.layers * (upload.blockRows * upload.packedRow) :=
    Nat.mul_le_mul_right _ hlayer
  rw [Nat.add_mul, Nat.one_mul] at hrows hlayers
  rw [h.compressedLayer, h.compressed]
  omega

theorem strided_at (h : upload.Laid) (buffer scratch : Nat → UInt8) (target : Nat) (hlayer : layer < upload.layers)
    (hrow : row < upload.blockRows) (hi : i < upload.packedRow) :
    copyAll buffer scratch (upload.stridedCopies target) (target + layer * upload.compressedLayer + row * upload.packedRow + i) =
      buffer (upload.sourceOffset + layer * upload.sourceLayerStride + row * upload.sourceRowStride + i) := by
  have hmem : (⟨target + layer * upload.compressedLayer + row * upload.packedRow,
      upload.sourceOffset + layer * upload.sourceLayerStride + row * upload.sourceRowStride, upload.packedRow⟩ : BlockCopy) ∈
      upload.stridedCopies target :=
    List.mem_flatMap.mpr ⟨layer, List.mem_range.mpr hlayer, List.mem_map.mpr ⟨row, List.mem_range.mpr hrow, rfl⟩⟩
  exact copyAll_ascending (stridedCopies_ascending h target) hmem hi

theorem strided_outside (h : upload.Laid) (buffer scratch : Nat → UInt8) (target : Nat)
    (ha : a < target ∨ target + upload.compressed ≤ a) : copyAll buffer scratch (upload.stridedCopies target) a = scratch a := by
  refine copyAll_outside fun copy hcopy => ?_
  obtain ⟨layer, hlayer, hcopy⟩ := List.mem_flatMap.mp hcopy
  obtain ⟨row, hrow, rfl⟩ := List.mem_map.mp hcopy
  have hpos := h.row_pos
  have hlt := h.place_lt (List.mem_range.mp hlayer) (List.mem_range.mp hrow)
    (show upload.packedRow - 1 < upload.packedRow by omega)
  dsimp only
  omega

/-- The one copy of contiguous blocks and the copies of their rows leave the same. -/
theorem contiguous_eq_strided (h : upload.Laid) (hspan : upload.sourceSpan = upload.compressed) (buffer scratch : Nat → UInt8)
    (target : Nat) :
    copyAll buffer scratch [upload.contiguousCopy target] = copyAll buffer scratch (upload.stridedCopies target) := by
  funext a
  by_cases ha : target ≤ a ∧ a < target + upload.compressed
  · obtain ⟨k, rfl⟩ := Nat.exists_eq_add_of_le ha.1
    have hk : k < upload.compressed := by omega
    obtain ⟨layer, hlayer, row, hrow, i, hi, hplace⟩ := exists_place (h.compressed ▸ hk)
    have hone : copyBlock buffer scratch (upload.contiguousCopy target) (target + k) = buffer (upload.sourceOffset + k) :=
      copyBlock_inside hk
    have hmany := strided_at h buffer scratch target hlayer hrow hi
    rw [h.compressedLayer] at hmany
    show copyBlock buffer scratch (upload.contiguousCopy target) (target + k) = _
    rw [hone, show target + k = target + layer * (upload.blockRows * upload.packedRow) + row * upload.packedRow + i by
      omega, hmany]
    have hstrides := h.contiguous hspan hlayer hrow
    congr 1
    omega
  · have hout : a < target ∨ target + upload.compressed ≤ a := by omega
    rw [strided_outside h buffer scratch target hout]
    show copyBlock buffer scratch (upload.contiguousCopy target) a = scratch a
    exact copyBlock_outside hout

/-- Whichever way is taken, the scratch buffer holds what the copies of the rows leave. -/
theorem gatherCopies_eq (h : upload.Laid) (buffer scratch : Nat → UInt8) (target : Nat) :
    copyAll buffer scratch (upload.gatherCopies target) = copyAll buffer scratch (upload.stridedCopies target) := by
  unfold gatherCopies
  by_cases hspan : upload.sourceSpan = upload.compressed
  · rw [if_pos hspan]
    exact contiguous_eq_strided h hspan buffer scratch target
  · rw [if_neg hspan]

end PendingUpload

/-! ## Planning -/

/-- The sizes of a region that are in question. -/
structure Region.Bounded (region : Region) : Prop where
  width : region.imageExtent.width < 2 ^ 16
  height : region.imageExtent.height < 2 ^ 16
  rowLength : region.bufferRowLength < 2 ^ 16
  imageHeight : region.bufferImageHeight < 2 ^ 16
  layers : region.layerCount ≤ 2 ^ 12

theorem etcBlockBytes_range (format : EtcFormat) : 0 < etcBlockBytes format ∧ etcBlockBytes format ≤ 16 := by
  cases format <;> decide

theorem etcDecodedTexelBytes_range (format : EtcFormat) : 0 < etcDecodedTexelBytes format ∧ etcDecodedTexelBytes format ≤ 4 := by
  cases format <;> decide

theorem etc2UploadByteCounts_some {format : EtcFormat} {width height depth layerCount compressed decoded : Nat}
    (h : etc2UploadByteCounts format width height depth layerCount = some (compressed, decoded)) :
    0 < width ∧ 0 < height ∧ 0 < layerCount ∧
      compressed = wrap64 ((width + 3) / 4 * ((height + 3) / 4) * etcBlockBytes format * layerCount) ∧
      decoded = wrap64 (width * height * etcDecodedTexelBytes format * layerCount) := by
  unfold etc2UploadByteCounts at h
  by_cases hbad : width = 0 ∨ height = 0 ∨ depth ≠ 1 ∨ layerCount = 0
  · rw [if_pos hbad] at h
    cases h
  · rw [if_neg hbad] at h
    simp only [Option.some.injEq, Prod.mk.injEq] at h
    exact ⟨by omega, by omega, by omega, h.1.symm, h.2.symm⟩

theorem scaledAxis_some {offset : Int} {interval : ScaledInterval}
    (h : scaledAxis base scale mip offset extent = some interval) :
    interval.hostStart < interval.hostEnd ∧ interval.hostEnd ≤ hostMip base scale mip := by
  unfold scaledAxis at h
  simp only [Option.ite_none_left_eq_some, Option.some.injEq] at h
  obtain ⟨-, hlt, rfl⟩ := h
  refine ⟨Nat.lt_of_not_le hlt, ?_⟩
  dsimp only
  split
  · exact Nat.le_refl _
  · exact Nat.min_le_left _ _

theorem scaledAxis_length (hbase : base < 2 ^ 16) (hscale : scale ≤ 8) {offset : Int}
    {interval : ScaledInterval} (h : scaledAxis base scale mip offset extent = some interval) :
    0 < interval.hostEnd - interval.hostStart ∧ interval.hostEnd - interval.hostStart ≤ 2 ^ 19 := by
  obtain ⟨hlt, hle⟩ := scaledAxis_some h
  have hmul : base * scale ≤ 2 ^ 16 * 8 := Nat.mul_le_mul hbase.le hscale
  have hwrap : wrap32 (base * scale) ≤ 2 ^ 19 := (Nat.mod_le _ _).trans (hmul.trans (by norm_num))
  have hshift : wrap32 (base * scale) >>> mip ≤ 2 ^ 19 := by
    rw [Nat.shiftRight_eq_div_pow]
    exact (Nat.div_le_self _ _).trans hwrap
  have hhost : hostMip base scale mip ≤ 2 ^ 19 := Nat.max_le.mpr ⟨by norm_num, hshift⟩
  omega

/-- The layout that the strides of a bounded region make. -/
theorem laid_of_strides {upload : PendingUpload} {rowTexels layerRows : Nat} (hwidth : 0 < upload.width ∧ upload.width < 2 ^ 16)
    (hheight : 0 < upload.height ∧ upload.height < 2 ^ 16) (hlayers : 0 < upload.layers ∧ upload.layers ≤ 2 ^ 12)
    (hrowTexels : upload.width ≤ rowTexels ∧ rowTexels < 2 ^ 16) (hlayerRows : upload.height ≤ layerRows ∧ layerRows < 2 ^ 16)
    (hcompressed : upload.compressed =
      wrap64 ((upload.width + 3) / 4 * ((upload.height + 3) / 4) * etcBlockBytes upload.format * upload.layers))
    (hrow : upload.sourceRowStride = wrap64 ((rowTexels + 3) / 4 * etcBlockBytes upload.format))
    (hlayer : upload.sourceLayerStride = wrap64 (upload.sourceRowStride * ((layerRows + 3) / 4)))
    (hspan : upload.sourceSpan = wrap64 ((upload.layers - 1) * upload.sourceLayerStride +
      ((upload.height + 3) / 4 - 1) * upload.sourceRowStride + (upload.width + 3) / 4 * etcBlockBytes upload.format)) :
    upload.Laid ∧ upload.compressed ≤ 2 ^ 44 ∧ upload.packedRow = (upload.width + 3) / 4 * etcBlockBytes upload.format := by
  obtain ⟨hbytes, hbytes16⟩ := etcBlockBytes_range upload.format
  have hcolumns : 0 < (upload.width + 3) / 4 ∧ (upload.width + 3) / 4 ≤ 2 ^ 14 := by omega
  have hrows : 0 < (upload.height + 3) / 4 ∧ (upload.height + 3) / 4 ≤ 2 ^ 14 := by omega
  have hwide : (upload.width + 3) / 4 ≤ (rowTexels + 3) / 4 ∧ (rowTexels + 3) / 4 ≤ 2 ^ 14 := by omega
  have hhigh : (upload.height + 3) / 4 ≤ (layerRows + 3) / 4 ∧ (layerRows + 3) / 4 ≤ 2 ^ 14 := by omega
  have hblockRows : upload.blockRows = (upload.height + 3) / 4 := rfl
  generalize (upload.width + 3) / 4 = columns at *
  generalize (upload.height + 3) / 4 = rows at *
  generalize (rowTexels + 3) / 4 = rowColumns at *
  generalize (layerRows + 3) / 4 = layerBlocks at *
  generalize etcBlockBytes upload.format = bytes at *
  -- nothing wraps
  have hpacked : columns * bytes ≤ 2 ^ 18 := (Nat.mul_le_mul hcolumns.2 hbytes16).trans (by norm_num)
  have hproduct : columns * rows * bytes * upload.layers ≤ 2 ^ 44 :=
    (Nat.mul_le_mul (Nat.mul_le_mul (Nat.mul_le_mul hcolumns.2 hrows.2) hbytes16) hlayers.2).trans (by norm_num)
  have hstride : rowColumns * bytes ≤ 2 ^ 18 := (Nat.mul_le_mul hwide.2 hbytes16).trans (by norm_num)
  rw [wrap64, Nat.mod_eq_of_lt (by omega)] at hrow
  have hlayerStride : upload.sourceRowStride * layerBlocks ≤ 2 ^ 32 := by
    rw [hrow]
    exact (Nat.mul_le_mul hstride hhigh.2).trans (by norm_num)
  rw [wrap64, Nat.mod_eq_of_lt (by omega)] at hlayer
  have hspan1 : (upload.layers - 1) * upload.sourceLayerStride ≤ 2 ^ 44 := by
    rw [hlayer]
    exact (Nat.mul_le_mul (show upload.layers - 1 ≤ 2 ^ 12 by omega) hlayerStride).trans (by norm_num)
  have hspan2 : (rows - 1) * upload.sourceRowStride ≤ 2 ^ 32 := by
    rw [hrow]
    exact (Nat.mul_le_mul (show rows - 1 ≤ 2 ^ 14 by omega) hstride).trans (by norm_num)
  rw [wrap64, Nat.mod_eq_of_lt (by omega)] at hspan
  rw [wrap64, Nat.mod_eq_of_lt (by omega)] at hcompressed
  have hpacks : upload.packedRow = columns * bytes := by
    have hlayerBytes : upload.compressedLayer = columns * rows * bytes := by
      rw [PendingUpload.compressedLayer, hcompressed]
      exact Nat.mul_div_cancel _ hlayers.1
    rw [PendingUpload.packedRow, hlayerBytes, hblockRows, Nat.mul_right_comm]
    exact Nat.mul_div_cancel _ hrows.1
  refine ⟨⟨hlayers.1, ?_, ?_, ?_, ?_, ?_, ?_⟩, ?_, hpacks⟩
  · rw [hblockRows]
    exact hrows.1
  · rw [hpacks]
    exact Nat.mul_pos hcolumns.1 hbytes
  · rw [hcompressed, hpacks, hblockRows]
    ring
  · rw [hpacks, hrow]
    exact Nat.mul_le_mul_right _ hwide.1
  · rw [hblockRows, hlayer, Nat.mul_comm]
    exact Nat.mul_le_mul_left _ hhigh.1
  · rw [hspan, hblockRows, hpacks]
  · rw [hcompressed]
    exact hproduct

/-- An upload that can be gathered and decoded. -/
structure PendingUpload.Ready (upload : PendingUpload) : Prop where
  laid : upload.Laid
  compressed : upload.compressed ≤ 2 ^ 44
  extent : upload.width < 2 ^ 16 ∧ upload.height < 2 ^ 16
  packed : upload.packedRow = (upload.width + 3) / 4 * etcBlockBytes upload.format

/-- What planning makes of a region. -/
structure Planned (total : Nat) (upload : PendingUpload) (copy : Region) : Prop where
  ready : upload.Ready
  target : upload.targetOffset = total
  offset : copy.bufferOffset = total
  bytes : 0 < upload.targetBytes ∧ upload.targetBytes ≤ 2 ^ 46

variable {record : ImageRecord}

theorem planRegion_planned (hrecord : record.width < 2 ^ 16 ∧ record.height < 2 ^ 16) {total : Nat}
    {region : Region} (hregion : region.Bounded) {upload : PendingUpload} {copy : Region}
    (h : planRegion record total region = some (upload, copy)) : Planned total upload copy := by
  unfold planRegion at h
  dsimp only at h
  cases hcounts : etc2UploadByteCounts record.format region.imageExtent.width region.imageExtent.height region.imageExtent.depth
      region.layerCount with
  | none =>
    rw [hcounts] at h
    cases h
  | some counts =>
    obtain ⟨compressed, decoded⟩ := counts
    rw [hcounts] at h
    obtain ⟨hwidth, hheight, hlayers, hcompressed, hdecoded⟩ := etc2UploadByteCounts_some hcounts
    simp only [Option.ite_none_left_eq_some] at h
    obtain ⟨-, hstrides, h⟩ := h
    have hrowTexels : region.imageExtent.width ≤ (if region.bufferRowLength ≠ 0 then
        region.bufferRowLength else region.imageExtent.width) ∧
        (if region.bufferRowLength ≠ 0 then region.bufferRowLength else region.imageExtent.width) < 2 ^ 16 := by
      have hrow := hregion.rowLength
      have hext := hregion.width
      refine ⟨Nat.le_of_not_lt (not_or.mp hstrides).1, ?_⟩
      split <;> omega
    have hlayerRows : region.imageExtent.height ≤ (if region.bufferImageHeight ≠ 0 then
        region.bufferImageHeight else region.imageExtent.height) ∧
        (if region.bufferImageHeight ≠ 0 then region.bufferImageHeight else region.imageExtent.height) < 2 ^ 16 := by
      have himage := hregion.imageHeight
      have hext := hregion.height
      refine ⟨Nat.le_of_not_lt (not_or.mp hstrides).2, ?_⟩
      split <;> omega
    obtain ⟨htexel, htexel4⟩ := etcDecodedTexelBytes_range record.format
    by_cases hscale : record.scale ≤ 1
    · rw [if_pos hscale] at h
      have hlaid : upload.Laid ∧ upload.compressed ≤ 2 ^ 44 ∧
          upload.packedRow = (upload.width + 3) / 4 * etcBlockBytes upload.format := by
        cases h
        exact laid_of_strides ⟨hwidth, hregion.width⟩ ⟨hheight, hregion.height⟩ ⟨hlayers, hregion.layers⟩ hrowTexels hlayerRows
          hcompressed rfl rfl rfl
      cases h
      have hbytes : region.imageExtent.width * region.imageExtent.height *
          etcDecodedTexelBytes record.format * region.layerCount ≤ 2 ^ 46 :=
        (Nat.mul_le_mul (Nat.mul_le_mul (Nat.mul_le_mul hregion.width.le hregion.height.le) htexel4) hregion.layers).trans
          (by norm_num)
      have hpositive : 0 < region.imageExtent.width * region.imageExtent.height *
          etcDecodedTexelBytes record.format * region.layerCount := by
        positivity
      rw [wrap64, Nat.mod_eq_of_lt (by omega)] at hdecoded
      exact ⟨⟨hlaid.1, hlaid.2.1, ⟨hregion.width, hregion.height⟩, hlaid.2.2⟩, rfl, rfl, hdecoded ▸ ⟨hpositive, hbytes⟩⟩
    · rw [if_neg hscale] at h
      cases hacross : scaledAxis record.width record.scale region.mipLevel region.imageOffset.x region.imageExtent.width with
      | none =>
        rw [hacross] at h
        cases h
      | some across =>
        rw [hacross] at h
        cases hdown : scaledAxis record.height record.scale region.mipLevel region.imageOffset.y region.imageExtent.height with
        | none =>
          rw [hdown] at h
          cases h
        | some down =>
          rw [hdown] at h
          have hlaid : upload.Laid ∧ upload.compressed ≤ 2 ^ 44 ∧
              upload.packedRow = (upload.width + 3) / 4 * etcBlockBytes upload.format := by
            cases h
            exact laid_of_strides ⟨hwidth, hregion.width⟩ ⟨hheight, hregion.height⟩ ⟨hlayers, hregion.layers⟩ hrowTexels
              hlayerRows
              hcompressed rfl rfl rfl
          cases h
          obtain ⟨hacross0, hacross1⟩ := scaledAxis_length hrecord.1 record.scale_range.2 hacross
          obtain ⟨hdown0, hdown1⟩ := scaledAxis_length hrecord.2 record.scale_range.2 hdown
          have hbytes : (across.hostEnd - across.hostStart) * (down.hostEnd - down.hostStart) *
              etcDecodedTexelBytes record.format ≤ 2 ^ 40 :=
            (Nat.mul_le_mul (Nat.mul_le_mul hacross1 hdown1) htexel4).trans (by norm_num)
          have hpositive : 0 < (across.hostEnd - across.hostStart) * (down.hostEnd - down.hostStart) *
              etcDecodedTexelBytes record.format :=
            Nat.mul_pos (Nat.mul_pos hacross0 hdown0) htexel
          refine ⟨⟨hlaid.1, hlaid.2.1, ⟨hregion.width, hregion.height⟩, hlaid.2.2⟩, rfl, rfl, ?_⟩
          dsimp only
          rw [wrap64, Nat.mod_eq_of_lt (by omega)]
          omega

/-- Where an upload goes in the staging buffer. -/
def PendingUpload.targetRange (upload : PendingUpload) : Nat × Nat :=
  (upload.targetOffset, upload.targetOffset + upload.targetBytes)

/-- What the loop of planning keeps. -/
structure Plan.Sound (plan : Plan) : Prop where
  tiles : Tiles 0 plan.total (plan.uploads.map PendingUpload.targetRange)
  offsets : plan.rewritten.map (·.bufferOffset) = plan.uploads.map (·.targetOffset)
  ready : ∀ upload ∈ plan.uploads, upload.Ready
  total : plan.total ≤ plan.uploads.length * 2 ^ 46

theorem planLoop_sound (hrecord : record.width < 2 ^ 16 ∧ record.height < 2 ^ 16) {regions : List Region}
    (hregions : ∀ region ∈ regions, region.Bounded) {plan result : Plan} (hplan : plan.Sound)
    (hcount : plan.uploads.length + regions.length ≤ 2 ^ 12) (h : planLoop record regions plan = some result) :
    result.Sound ∧ result.uploads.length = plan.uploads.length + regions.length := by
  induction regions generalizing plan with
  | nil =>
    cases h
    exact ⟨hplan, rfl⟩
  | cons region regions ih =>
    rw [planLoop] at h
    cases hone : planRegion record plan.total region with
    | none =>
      rw [hone] at h
      cases h
    | some made =>
      obtain ⟨upload, copy⟩ := made
      rw [hone] at h
      have hplanned := planRegion_planned hrecord (hregions region List.mem_cons_self) hone
      rw [List.length_cons] at hcount
      have htotal := hplan.total
      obtain ⟨hpositive, hbytes⟩ := hplanned.bytes
      -- at most 2^12 uploads of 2^46 bytes: the offsets do not wrap
      have hwrap : wrap64 (plan.total + upload.targetBytes) = plan.total + upload.targetBytes := Nat.mod_eq_of_lt (by omega)
      dsimp only at h
      rw [hwrap] at h
      have hsound : Plan.Sound ⟨plan.uploads ++ [upload], plan.rewritten ++ [copy], plan.total + upload.targetBytes⟩ := by
        refine ⟨?_, ?_, ?_, ?_⟩
        · rw [List.map_append, List.map_singleton, PendingUpload.targetRange, hplanned.target]
          exact hplan.tiles.snoc (Nat.lt_add_of_pos_right hpositive)
        · rw [List.map_append, List.map_append, hplan.offsets, List.map_singleton, List.map_singleton, hplanned.offset,
            hplanned.target]
        · intro other ho
          rcases List.mem_append.mp ho with ho | ho
          · exact hplan.ready other ho
          · rw [List.mem_singleton.mp ho]
            exact hplanned.ready
        · rw [List.length_append, List.length_singleton]
          dsimp only
          omega
      obtain ⟨hresult, hlength⟩ := ih (fun other ho => hregions other (List.mem_cons_of_mem _ ho)) hsound
        (by rw [List.length_append, List.length_singleton]; omega) h
      refine ⟨hresult, ?_⟩
      rw [hlength, List.length_append, List.length_singleton, List.length_cons]
      omega

theorem planRegions_sound (hrecord : record.width < 2 ^ 16 ∧ record.height < 2 ^ 16) {regions : List Region}
    (hregions : ∀ region ∈ regions, region.Bounded) (hcount : regions.length ≤ 2 ^ 12) {plan : Plan}
    (h : planRegions record regions = some plan) : plan.Sound ∧ plan.uploads.length = regions.length := by
  unfold planRegions at h
  by_cases hnone : regions = []
  · rw [if_pos hnone] at h
    cases h
  · rw [if_neg hnone] at h
    have hempty : Plan.Sound ⟨[], [], 0⟩ := ⟨.nil 0, rfl, fun _ hu => absurd hu List.not_mem_nil, Nat.zero_le _⟩
    have hloop := planLoop_sound hrecord hregions hempty (by simpa using hcount) h
    rwa [List.length_nil, Nat.zero_add] at hloop

/-! ## Gathering -/

/-- The bytes that some copies take of the scratch buffer. -/
def gathered (copies : List UploadCopy) : Nat := (copies.map (·.upload.compressed)).sum

variable {copies : List UploadCopy}

/-- What is gathered later does not touch what is gathered. -/
theorem gatherLoop_below (hready : ∀ copy ∈ copies, copy.upload.Ready)
    (hsum : offset + gathered copies < 2 ^ 64) (scratch : Nat → UInt8) (ha : a < offset) :
    gatherLoop copies offset scratch a = scratch a := by
  induction copies generalizing offset scratch with
  | nil => rfl
  | cons copy copies ih =>
    have hlaid := (hready copy List.mem_cons_self).laid
    have hsum' : offset + (copy.upload.compressed + gathered copies) < 2 ^ 64 := hsum
    have hwrap : wrap64 (offset + copy.upload.compressed) = offset + copy.upload.compressed := Nat.mod_eq_of_lt (by omega)
    rw [gatherLoop, hwrap, ih (fun other ho => hready other (List.mem_cons_of_mem _ ho)) (by omega) _ (by omega),
      PendingUpload.gatherCopies_eq hlaid, PendingUpload.strided_outside hlaid _ _ _ (.inl ha)]

/-- A job decodes the blocks of a layer, in the order of their rows. -/
structure Receives (job : EtcDecodeJob) (copy : UploadCopy) (layer : Nat) : Prop where
  format : job.format = copy.upload.format
  extent : job.width.toNat = copy.upload.width ∧ job.height.toNat = copy.upload.height
  bytes : job.sourceBytes = blocksAlong job.width * blocksAlong job.height * etcBlockBytes job.format
  blocks : ∃ source, job.source = some source ∧ ∀ row < blocksAlong job.height, ∀ column < blocksAlong job.width,
    ∀ i < etcBlockBytes job.format, source (blockOffset job.format job.width row column + i) =
      copy.buffer (copy.upload.sourceOffset + layer * copy.upload.sourceLayerStride + row * copy.upload.sourceRowStride +
        (column * etcBlockBytes job.format + i))

theorem layerJob_receives {copy : UploadCopy} (h : copy.upload.Ready) {scratch : Nat → UInt8}
    (hscratch : ∀ row < copy.upload.blockRows, ∀ i < copy.upload.packedRow,
      scratch (offset + layer * copy.upload.compressedLayer + row * copy.upload.packedRow + i) =
        copy.buffer (copy.upload.sourceOffset + layer * copy.upload.sourceLayerStride + row * copy.upload.sourceRowStride + i)) :
    Receives (layerJob scratch copy offset layer) copy layer := by
  have hwidth : (UInt32.ofNat copy.upload.width).toNat = copy.upload.width := by
    rw [UInt32.toNat_ofNat', Nat.mod_eq_of_lt (lt_trans h.extent.1 (by norm_num))]
  have hheight : (UInt32.ofNat copy.upload.height).toNat = copy.upload.height := by
    rw [UInt32.toNat_ofNat', Nat.mod_eq_of_lt (lt_trans h.extent.2 (by norm_num))]
  have hcolumns : blocksAlong (UInt32.ofNat copy.upload.width) = (copy.upload.width + 3) / 4 := by rw [blocksAlong, hwidth]
  have hrows : blocksAlong (UInt32.ofNat copy.upload.height) = copy.upload.blockRows := by rw [blocksAlong, hheight]; rfl
  refine ⟨rfl, ⟨hwidth, hheight⟩, ?_, _, rfl, ?_⟩
  · show copy.upload.compressedLayer = blocksAlong (UInt32.ofNat copy.upload.width) *
      blocksAlong (UInt32.ofNat copy.upload.height) * etcBlockBytes copy.upload.format
    rw [h.laid.compressedLayer, hcolumns, hrows, h.packed]
    ring
  · intro row hrow column hcolumn i hi
    replace hrow : row < copy.upload.blockRows := by rwa [← hrows]
    replace hcolumn : column < (copy.upload.width + 3) / 4 := by rwa [← hcolumns]
    -- the block is within its row
    have hplace : column * etcBlockBytes copy.upload.format + i < copy.upload.packedRow := by
      have hle : (column + 1) * etcBlockBytes copy.upload.format ≤
          (copy.upload.width + 3) / 4 * etcBlockBytes copy.upload.format :=
        Nat.mul_le_mul_right _ hcolumn
      rw [Nat.add_mul, Nat.one_mul] at hle
      rw [h.packed]
      exact lt_of_lt_of_le (Nat.add_lt_add_left hi _) hle
    have hoffset : offset + layer * copy.upload.compressedLayer +
        (blockOffset copy.upload.format (UInt32.ofNat copy.upload.width) row column + i) =
        offset + layer * copy.upload.compressedLayer + row * copy.upload.packedRow +
          (column * etcBlockBytes copy.upload.format + i) := by
      rw [blockOffset, hcolumns, h.packed]
      ring
    show scratch (offset + layer * copy.upload.compressedLayer +
        (blockOffset copy.upload.format (UInt32.ofNat copy.upload.width) row column + i)) = _
    rw [hoffset]
    exact hscratch row hrow _ hplace

/-- The layers of some copies, in the order of their jobs. -/
def copyLayers (copies : List UploadCopy) : List (UploadCopy × Nat) :=
  copies.flatMap fun copy => (List.range copy.upload.layers).map fun layer => (copy, layer)

theorem jobLoop_receives (hready : ∀ copy ∈ copies, copy.upload.Ready)
    (hsum : offset + gathered copies < 2 ^ 64) (scratch : Nat → UInt8) :
    List.Forall₂ (fun job place => Receives job place.1 place.2) (jobLoop (gatherLoop copies offset scratch) copies offset)
      (copyLayers copies) := by
  induction copies generalizing offset scratch with
  | nil => exact List.Forall₂.nil
  | cons copy copies ih =>
    have h := hready copy List.mem_cons_self
    have hrest : ∀ other ∈ copies, other.upload.Ready := fun other ho => hready other (List.mem_cons_of_mem _ ho)
    have hsum' : offset + (copy.upload.compressed + gathered copies) < 2 ^ 64 := hsum
    have hwrap : wrap64 (offset + copy.upload.compressed) = offset + copy.upload.compressed := Nat.mod_eq_of_lt (by omega)
    rw [jobLoop, copyLayers, List.flatMap_cons, gatherLoop, hwrap]
    refine List.rel_append ?_ (ih hrest (by omega) _)
    rw [List.forall₂_map_left_iff, List.forall₂_map_right_iff, List.forall₂_same]
    intro layer hlayer
    have hlayer := List.mem_range.mp hlayer
    refine layerJob_receives h fun row hrow i hi => ?_
    have hlt := h.laid.place_lt hlayer hrow hi
    rw [gatherLoop_below hrest (by omega) _ (by omega), PendingUpload.gatherCopies_eq h.laid]
    exact PendingUpload.strided_at h.laid copy.buffer scratch offset hlayer hrow hi

theorem gathered_le (hready : ∀ copy ∈ copies, copy.upload.Ready) :
    gathered copies ≤ copies.length * 2 ^ 44 := by
  induction copies with
  | nil => exact Nat.zero_le _
  | cons copy copies ih =>
    have hone := (hready copy List.mem_cons_self).compressed
    have hrest := ih fun other ho => hready other (List.mem_cons_of_mem _ ho)
    have hsum : gathered (copy :: copies) = copy.upload.compressed + gathered copies := rfl
    rw [hsum, List.length_cons]
    omega

/-- What holds of planned uploads, and of the copies of those that are gathered on a submission. -/
structure Uploaded (plan : Plan) : Prop where
  targets : Tiles 0 plan.total (plan.uploads.map PendingUpload.targetRange)
  disjoint : (plan.uploads.map PendingUpload.targetRange).Pairwise fun i j => i.2 ≤ j.1
  rewritten : plan.rewritten.map (·.bufferOffset) = plan.uploads.map (·.targetOffset)
  /-- Reads are within the span. -/
  reads : ∀ upload ∈ plan.uploads, ∀ target, ∀ copy ∈ upload.gatherCopies target,
    upload.sourceOffset ≤ copy.start ∧ copy.start + copy.size ≤ upload.sourceOffset + upload.sourceSpan
  /-- The one copy is as good as the copies of the rows. -/
  contiguous : ∀ upload ∈ plan.uploads, upload.sourceSpan = upload.compressed → ∀ (buffer scratch : Nat → UInt8) (target : Nat),
    copyAll buffer scratch (upload.gatherCopies target) = copyAll buffer scratch (upload.stridedCopies target)
  /-- Some of the uploads are gathered, with any buffers. -/
  jobs : ∀ copies : List UploadCopy, (copies.map (·.upload)).Sublist plan.uploads → ∀ scratch,
    List.Forall₂ (fun job place => Receives job place.1 place.2) (uploadJobs copies scratch) (copyLayers copies)

theorem planned_uploads_gathered (record : ImageRecord) (hrecord : record.width < 2 ^ 16 ∧ record.height < 2 ^ 16)
    (regions : List Region) (hregions : ∀ region ∈ regions, region.Bounded) (hcount : regions.length ≤ 2 ^ 12) (plan : Plan)
    (h : planRegions record regions = some plan) : Uploaded plan := by
  obtain ⟨hsound, hlength⟩ := planRegions_sound hrecord hregions hcount h
  refine ⟨hsound.tiles, hsound.tiles.disjoint, hsound.offsets, fun upload hu target copy hcopy =>
    PendingUpload.gatherCopies_within (hsound.ready upload hu).laid hcopy,
    fun upload hu _ buffer scratch target =>
      PendingUpload.gatherCopies_eq (hsound.ready upload hu).laid buffer scratch target, ?_⟩
  intro copies hsub scratch
  have hready : ∀ copy ∈ copies, copy.upload.Ready := fun copy hcopy =>
    hsound.ready _ (hsub.subset (List.mem_map_of_mem hcopy))
  have hle := hsub.length_le
  rw [List.length_map, hlength] at hle
  have hsum := gathered_le hready
  exact jobLoop_receives hready (by omega) scratch

/-- An image of 8 by 8 texels, with this value in the environment. -/
def squareRecord (upscale : Option (List UInt8)) : ImageRecord :=
  createImage upscale { format := .etc2Rgb8, width := 8, height := 8 }

/-- Some layers of it, their rows 12 texels long in the buffer, and 4 by 4 texels without padding. -/
def squareRegions (layers : Nat) : List Region :=
  [⟨0, 12, 0, 0, layers, ⟨0, 0, 0⟩, ⟨8, 8, 1⟩⟩, ⟨512, 0, 0, 0, 1, ⟨4, 0, 0⟩, ⟨4, 4, 1⟩⟩]

theorem squareRegions_bounded {layers : Nat} (h : layers ≤ 2 ^ 12) : ∀ region ∈ squareRegions layers, region.Bounded := by
  intro region hregion
  simp only [squareRegions, List.mem_cons, List.not_mem_nil, or_false] at hregion
  rcases hregion with rfl | rfl
  · exact ⟨by norm_num, by norm_num, by norm_num, by norm_num, h⟩
  · exact ⟨by decide, by decide, by decide, by decide, by decide⟩

/-- Two layers of an image that is not scaled, and an image scaled by 3. -/
theorem planned_uploads_gathered_square :
    (∃ plan, planRegions (squareRecord none) (squareRegions 2) = some plan ∧ plan.total = 576 ∧ Uploaded plan) ∧
      ∃ plan, planRegions (squareRecord (some [0x33])) (squareRegions 1) = some plan ∧ plan.total = 2880 ∧ Uploaded plan :=
  ⟨⟨_, rfl, rfl, planned_uploads_gathered (squareRecord none) (by decide) (squareRegions 2) (squareRegions_bounded (by decide))
      (by decide) _ rfl⟩,
    ⟨_, rfl, rfl, planned_uploads_gathered (squareRecord (some [0x33])) (by decide) (squareRegions 1)
      (squareRegions_bounded (by decide)) (by decide) _ rfl⟩⟩

end Mocktail.Graphics

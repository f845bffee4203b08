/-
  Mocktail.Graphics.EtcImage — decoding block rows of an image (`DecodeEtcImageBlockRows`).

  `imageFits` multiplies in 64 bits, where both products can wrap; for sizes below 2^60 a
  product that wraps is refused by the other test (`imageFits_fits`). An image that fits is
  decoded block by block: the accesses of the loops are listed in their order, reads of the
  source and stores to the destination, each at its offset. A block is read whole.

  Proved:
  - `blockRows_decodes`: the reads and the stores are within the declared sizes, the texels of
    the requested rows are visited once each, and the destination holds their decoded bytes
    afterwards and is otherwise as it was.
-/

import Mathlib.Data.List.TakeWhile
import Mathlib.Data.Nat.ModEq
import Mathlib.Tactic.Linarith
import Mathlib.Tactic.Ring
import Mocktail.Graphics.EtcBlocks

namespace Mocktail.Graphics

open Mocktail.Lib

/-- `none` is a null pointer. -/
abbrev Source := Option (Nat → UInt8)

/-- Texels to blocks, as the 64-bit code has it. -/
def blocksAlong (length : UInt32) : Nat := (length.toNat + 3) / 4

def imageFits (format : EtcFormat) (source : Source) (sourceBytes : Nat) (width height : UInt32)
    (destination : Option Nat) (destinationBytes : Nat) : Bool :=
  if source.isNone || destination.isNone || width = 0 || height = 0 then false
  else
    blocksAlong width * blocksAlong height * etcBlockBytes format % 2 ^ 64 ≤ sourceBytes &&
      width.toNat * height.toNat * etcDecodedTexelBytes format % 2 ^ 64 ≤ destinationBytes

inductive Access where
  | read (offset : Nat)
  | store (offset : Nat) (byte : UInt8)
  deriving DecidableEq, Repr

section
variable (format : EtcFormat) (source : Nat → UInt8) (width height : UInt32)

/-- Where the block of a column and a row of blocks starts. -/
def blockOffset (row column : Nat) : Nat := (row * blocksAlong width + column) * etcBlockBytes format

/-- The 8-byte parts of the block at an offset. -/
def blockParts (offset : Nat) (part : Nat) : Block := fun i => source (offset + 8 * part + i)

/-- The texels of a block that are within the image, in the order of the loops. -/
def blockTexels (row column : Nat) : List (Nat × Nat) :=
  ((List.range 4).takeWhile fun y => row * 4 + y < height.toNat).flatMap fun y =>
    ((List.range 4).takeWhile fun x => column * 4 + x < width.toNat).map fun x => (x, y)

def texelOffset (x y : Nat) : Nat := (y * width.toNat + x) * etcDecodedTexelBytes format

def blockAccesses (row column : Nat) : List Access :=
  let block := blockOffset format width row column
  (List.range (etcBlockBytes format)).map (fun i => .read (block + i)) ++
    (blockTexels width height row column).flatMap fun (x, y) =>
      (texelStores format (blockParts source block) (x * 4 + y)).map fun (k, byte) =>
        .store (texelOffset format width (column * 4 + x) (row * 4 + y) + k) byte

def rowAccesses (row : Nat) : List Access :=
  (List.range (blocksAlong width)).flatMap fun column => blockAccesses format source width height row column

end

/-- The result and what it accesses: `read` offsets are into the source, `store` offsets into the
    destination. -/
def decodeEtcImageBlockRows (format : EtcFormat) (source : Source) (sourceBytes : Nat) (width height : UInt32)
    (firstBlockRow blockRowCount : UInt32) (destination : Option Nat) (destinationBytes : Nat) : Bool × List Access :=
  if !imageFits format source sourceBytes width height destination destinationBytes then (false, [])
  else if firstBlockRow.toNat + blockRowCount.toNat > blocksAlong height then (false, [])
  else
    match source with
    | none => (false, [])
    | some source =>
      (true, (List.range' firstBlockRow.toNat blockRowCount.toNat).flatMap fun row =>
        rowAccesses format source width height row)

/-- All block rows; the row count is computed in 32 bits. -/
def decodeEtcImage (format : EtcFormat) (source : Source) (sourceBytes : Nat) (width height : UInt32)
    (destination : Option Nat) (destinationBytes : Nat) : Bool × List Access :=
  decodeEtcImageBlockRows format source sourceBytes width height 0 ((height + 3) / 4) destination destinationBytes

/-! ## The size test -/

/-- What the size test is for. -/
structure Fits (format : EtcFormat) (sourceBytes : Nat) (width height : UInt32) (destinationBytes : Nat) : Prop where
  width_pos : 0 < width.toNat
  height_pos : 0 < height.toNat
  source : blocksAlong width * blocksAlong height * etcBlockBytes format ≤ sourceBytes
  destination : width.toNat * height.toNat * etcDecodedTexelBytes format ≤ destinationBytes

theorem blocksAlong_le (length : UInt32) : blocksAlong length ≤ 2 ^ 30 := by
  have h := length.toNat_lt
  unfold blocksAlong
  omega

theorem le_four_blocksAlong (length : UInt32) : length.toNat ≤ 4 * blocksAlong length := by
  unfold blocksAlong
  omega

theorem texel_le_blocks (width height : UInt32) :
    width.toNat * height.toNat ≤ 16 * (blocksAlong width * blocksAlong height) := by
  have h := Nat.mul_le_mul (le_four_blocksAlong width) (le_four_blocksAlong height)
  linarith

/-- The source's product wraps only for the largest images of 16-byte blocks. -/
theorem wrapped_source {format : EtcFormat} {width height : UInt32}
    (h : 2 ^ 64 ≤ blocksAlong width * blocksAlong height * etcBlockBytes format) :
    2 ^ 32 - 3 ≤ width.toNat ∧ 2 ^ 32 - 3 ≤ height.toNat ∧ etcDecodedTexelBytes format = 4 := by
  have hw := blocksAlong_le width
  have hh := blocksAlong_le height
  have hle := Nat.mul_le_mul hw hh
  have hbytes : etcBlockBytes format = 16 := by
    by_contra hne
    have h8 : etcBlockBytes format = 8 := by cases format <;> simp_all [etcBlockBytes]
    rw [h8] at h
    omega
  have hblocks : 2 ^ 60 ≤ blocksAlong width * blocksAlong height := by
    rw [hbytes] at h
    omega
  have hwide : blocksAlong width = 2 ^ 30 := by
    by_contra hne
    have hlt := Nat.mul_le_mul (show blocksAlong width ≤ 2 ^ 30 - 1 by omega) hh
    omega
  have hhigh : blocksAlong height = 2 ^ 30 := by
    by_contra hne
    have hlt := Nat.mul_le_mul hw (show blocksAlong height ≤ 2 ^ 30 - 1 by omega)
    omega
  unfold blocksAlong at hwide hhigh
  refine ⟨by omega, by omega, ?_⟩
  cases format <;> simp_all [etcBlockBytes, etcDecodedTexelBytes]

/-- There the destination's product wraps too, to one far too large. -/
theorem wrapped_destination {width height : UInt32} (hw : 2 ^ 32 - 3 ≤ width.toNat) (hh : 2 ^ 32 - 3 ≤ height.toNat) :
    2 ^ 60 ≤ width.toNat * height.toNat * 4 % 2 ^ 64 := by
  have hw' := width.toNat_lt
  have hh' := height.toNat_lt
  obtain hw | hw | hw : width.toNat = 2 ^ 32 - 3 ∨ width.toNat = 2 ^ 32 - 2 ∨ width.toNat = 2 ^ 32 - 1 := by omega
  all_goals
    obtain hh | hh | hh : height.toNat = 2 ^ 32 - 3 ∨ height.toNat = 2 ^ 32 - 2 ∨ height.toNat = 2 ^ 32 - 1 := by omega
  all_goals rw [hw, hh]; decide

variable {column count destinationBytes first k row sourceBytes x y : Nat}

theorem imageFits_fits {format : EtcFormat} {source : Source} {width height : UInt32}
    {destination : Option Nat}
    (h : imageFits format source sourceBytes width height destination destinationBytes = true)
    (hs : sourceBytes < 2 ^ 60) (hd : destinationBytes < 2 ^ 60) :
    Fits format sourceBytes width height destinationBytes := by
  unfold imageFits at h
  split at h
  · cases h
  · rename_i hnull
    simp only [Bool.or_eq_true, decide_eq_true_eq, not_or] at hnull
    obtain ⟨⟨-, hwidth⟩, hheight⟩ := hnull
    simp only [Bool.and_eq_true, decide_eq_true_eq] at h
    obtain ⟨hsource, hdestination⟩ := h
    have hpos : ∀ length : UInt32, length ≠ 0 → 0 < length.toNat := by
      intro length hne
      by_contra hzero
      exact hne (UInt32.toNat_inj.mp (by simpa using hzero))
    have htexels := texel_le_blocks width height
    by_cases hwrap : 2 ^ 64 ≤ blocksAlong width * blocksAlong height * etcBlockBytes format
    · obtain ⟨hw, hh, htb⟩ := wrapped_source hwrap
      have hfar := wrapped_destination hw hh
      rw [htb] at hdestination
      omega
    · rw [Nat.mod_eq_of_lt (by omega)] at hsource
      have hblock : 8 ≤ etcBlockBytes format := by cases format <;> simp [etcBlockBytes]
      have htb : etcDecodedTexelBytes format ≤ 4 := by cases format <;> simp [etcDecodedTexelBytes]
      have h8 := Nat.mul_le_mul_left (blocksAlong width * blocksAlong height) hblock
      have h4 := Nat.mul_le_mul_left (width.toNat * height.toNat) htb
      rw [Nat.mod_eq_of_lt (by omega)] at hdestination
      exact ⟨hpos width hwidth, hpos height hheight, hsource, hdestination⟩

/-! ## The texels the loops visit -/

/-- The texels of a block row, in the order of the loops. -/
def rowTexels (width height : UInt32) (row : Nat) : List (Nat × Nat) :=
  (List.range (blocksAlong width)).flatMap fun column =>
    (blockTexels width height row column).map fun (x, y) => (column * 4 + x, row * 4 + y)

def visited (width height : UInt32) (firstBlockRow blockRowCount : Nat) : List (Nat × Nat) :=
  (List.range' firstBlockRow blockRowCount).flatMap (rowTexels width height)

theorem mem_takeWhile_range {p : Nat → Bool} (hp : ∀ a b, a ≤ b → p b = true → p a = true) {n a : Nat} :
    a ∈ (List.range n).takeWhile p ↔ a < n ∧ p a = true := by
  constructor
  · intro h
    exact ⟨List.mem_range.mp (List.takeWhile_sublist p |>.subset h), List.mem_takeWhile_imp h⟩
  · intro hex
    obtain ⟨han, hpa⟩ := hex
    induction n with
    | zero => omega
    | succ n ih =>
      rw [List.range_succ, List.takeWhile_append]
      by_cases hall : ((List.range n).takeWhile p).length = (List.range n).length
      · rw [if_pos hall]
        by_cases hlast : a = n
        · subst hlast
          simp [hpa]
        · exact List.mem_append_left _ (List.mem_range.mpr (by omega))
      · rw [if_neg hall]
        apply ih
        by_contra hge
        -- `a` is the last index, so the whole range before it passes
        apply hall
        rw [List.takeWhile_eq_self_iff.mpr]
        intro b hb
        exact hp b a (by have := List.mem_range.mp hb; omega) hpa

theorem mem_blockTexels {width height : UInt32} :
    (x, y) ∈ blockTexels width height row column ↔
      x < 4 ∧ y < 4 ∧ column * 4 + x < width.toNat ∧ row * 4 + y < height.toNat := by
  have hy : ∀ a b, a ≤ b → decide (row * 4 + b < height.toNat) = true → decide (row * 4 + a < height.toNat) = true := by
    intro a b hab hb
    rw [decide_eq_true_eq] at hb ⊢
    omega
  have hx : ∀ a b, a ≤ b → decide (column * 4 + b < width.toNat) = true → decide (column * 4 + a < width.toNat) = true := by
    intro a b hab hb
    rw [decide_eq_true_eq] at hb ⊢
    omega
  simp only [blockTexels, List.mem_flatMap, List.mem_map, mem_takeWhile_range hy, mem_takeWhile_range hx,
    decide_eq_true_eq, Prod.mk.injEq]
  constructor
  · intro h
    obtain ⟨b, hb, a, ha, rfl, rfl⟩ := h
    exact ⟨ha.1, hb.1, ha.2, hb.2⟩
  · intro h
    exact ⟨y, ⟨h.2.1, h.2.2.2⟩, x, ⟨h.1, h.2.2.1⟩, rfl, rfl⟩

theorem mem_rowTexels {width height : UInt32} :
    (x, y) ∈ rowTexels width height row ↔ x < width.toNat ∧ y / 4 = row ∧ y < height.toNat := by
  simp only [rowTexels, List.mem_flatMap, List.mem_map, List.mem_range, Prod.exists, mem_blockTexels, Prod.mk.injEq]
  constructor
  · intro h
    obtain ⟨column, -, a, b, ⟨ha, hb, hw, hh⟩, rfl, rfl⟩ := h
    exact ⟨hw, by omega, hh⟩
  · intro h
    obtain ⟨hx, rfl, hy⟩ := h
    exact ⟨x / 4, by unfold blocksAlong; omega, x % 4, y % 4, by omega, by omega, by omega⟩

theorem mem_visited {width height : UInt32} :
    (x, y) ∈ visited width height first count ↔
      x < width.toNat ∧ first * 4 ≤ y ∧ y < min height.toNat ((first + count) * 4) := by
  simp only [visited, List.mem_flatMap, List.mem_range'_1, mem_rowTexels]
  constructor
  · intro h
    obtain ⟨row, hrow, hx, rfl, hy⟩ := h
    omega
  · intro h
    exact ⟨y / 4, by omega, h.1, rfl, by omega⟩

theorem nodup_blockTexels (width height : UInt32) (row column : Nat) : (blockTexels width height row column).Nodup := by
  unfold blockTexels
  rw [List.nodup_flatMap]
  constructor
  · intro y _
    apply List.Nodup.map
    · intro a b hab
      exact (Prod.mk.inj hab).1
    · exact List.nodup_range.sublist (List.takeWhile_sublist _)
  · apply List.Pairwise.imp _ (List.nodup_range.sublist (List.takeWhile_sublist _))
    intro y y' hne p hp hp'
    obtain ⟨x, -, rfl⟩ := List.mem_map.mp hp
    obtain ⟨x', -, heq⟩ := List.mem_map.mp hp'
    exact hne (Prod.mk.inj heq).2.symm

theorem nodup_rowTexels (width height : UInt32) (row : Nat) : (rowTexels width height row).Nodup := by
  unfold rowTexels
  rw [List.nodup_flatMap]
  constructor
  · intro column _
    apply (nodup_blockTexels width height row column).map
    intro a b hab
    simp only [Prod.mk.injEq] at hab
    exact Prod.ext (by omega) (by omega)
  · apply List.Pairwise.imp _ List.nodup_range
    intro column column' hne p hp hp'
    obtain ⟨⟨x, y⟩, hxy, rfl⟩ := List.mem_map.mp hp
    obtain ⟨⟨x', y'⟩, hxy', heq⟩ := List.mem_map.mp hp'
    simp only [Prod.mk.injEq] at heq
    have hx := (mem_blockTexels.mp hxy).1
    have hx' := (mem_blockTexels.mp hxy').1
    exact hne (by omega)

theorem nodup_visited (width height : UInt32) (first count : Nat) : (visited width height first count).Nodup := by
  unfold visited
  rw [List.nodup_flatMap]
  constructor
  · intro row _
    exact nodup_rowTexels width height row
  · apply List.Pairwise.imp _ List.nodup_range'
    intro row row' hne p hp hp'
    obtain ⟨x, y⟩ := p
    exact hne ((mem_rowTexels.mp hp).2.1.symm.trans (mem_rowTexels.mp hp').2.1)

/-! ## What is stored -/

def Access.stored : Access → Option (Nat × UInt8)
  | .store offset byte => some (offset, byte)
  | .read _ => none

/-- The stores among the accesses. -/
def storesOf (accesses : List Access) : List (Nat × UInt8) := accesses.filterMap Access.stored

theorem storesOf_append (a b : List Access) : storesOf (a ++ b) = storesOf a ++ storesOf b := by simp [storesOf]

theorem storesOf_flatMap {ι : Type} (l : List ι) (f : ι → List Access) :
    storesOf (l.flatMap f) = l.flatMap fun p => storesOf (f p) := by
  induction l with
  | nil => rfl
  | cons p l ih => rw [List.flatMap_cons, storesOf_append, ih, List.flatMap_cons]

section
variable (format : EtcFormat) (source : Nat → UInt8) (width height : UInt32)

/-- The parts of the block a texel is in. -/
def partsAt (x y : Nat) : Nat → Block := blockParts source (blockOffset format width (y / 4) (x / 4))

/-- A texel's number in its block. -/
def texelIn (x y : Nat) : Nat := x % 4 * 4 + y % 4

/-- A byte of the texel at a column and a row of the image. -/
def decodedAt (x y k : Nat) : UInt8 := decodedByte format (partsAt format source width x y) (texelIn x y) k

/-- The stores for the texel at a column and a row of the image. -/
def storesAt : Nat × Nat → List (Nat × UInt8)
  | (x, y) => (texelStores format (partsAt format source width x y) (texelIn x y)).map fun (k, byte) =>
      (texelOffset format width x y + k, byte)

theorem storesOf_blockAccesses (row column : Nat) :
    storesOf (blockAccesses format source width height row column) =
      ((blockTexels width height row column).map fun (x, y) => (column * 4 + x, row * 4 + y)).flatMap
        (storesAt format source width) := by
  have hreads : ∀ l : List Nat, storesOf (l.map fun i => .read (blockOffset format width row column + i)) = [] := by
    intro l
    simp [storesOf, List.filterMap_eq_nil_iff, Access.stored]
  have hstores : ∀ stores : List (Nat × UInt8), ∀ offset : Nat,
      storesOf (stores.map fun (k, byte) => .store (offset + k) byte) = stores.map fun (k, byte) => (offset + k, byte) := by
    intro stores offset
    simp only [storesOf, List.filterMap_map]
    rw [← List.filterMap_eq_map]
    rfl
  simp only [blockAccesses, storesOf_append, hreads, List.nil_append, List.flatMap_map, storesOf_flatMap]
  apply List.flatMap_congr
  intro p hp
  obtain ⟨x, y⟩ := p
  obtain ⟨hx, hy, -, -⟩ := mem_blockTexels.mp hp
  dsimp only
  rw [hstores]
  have h1 : (column * 4 + x) / 4 = column := by omega
  have h2 : (row * 4 + y) / 4 = row := by omega
  have h3 : texelIn (column * 4 + x) (row * 4 + y) = x * 4 + y := by unfold texelIn; omega
  simp only [storesAt, partsAt, h1, h2, h3]

theorem storesOf_rowAccesses (row : Nat) :
    storesOf (rowAccesses format source width height row) =
      (rowTexels width height row).flatMap (storesAt format source width) := by
  simp only [rowAccesses, rowTexels, storesOf_flatMap, storesOf_blockAccesses, List.flatMap_assoc]

theorem storesOf_rows (first count : Nat) :
    storesOf ((List.range' first count).flatMap (rowAccesses format source width height)) =
      (visited width height first count).flatMap (storesAt format source width) := by
  simp only [visited, storesOf_flatMap, storesOf_rowAccesses, List.flatMap_assoc]

end

/-! ## Bounds -/

theorem texelOffset_lt {format : EtcFormat} {width height : UInt32} (hx : x < width.toNat)
    (hy : y < height.toNat) (hk : k < etcDecodedTexelBytes format) :
    texelOffset format width x y + k < width.toNat * height.toNat * etcDecodedTexelBytes format := by
  have hrow : y * width.toNat + x + 1 ≤ width.toNat * height.toNat := by
    have h := Nat.mul_le_mul_right width.toNat (show y + 1 ≤ height.toNat by omega)
    rw [Nat.mul_comm width.toNat]
    rw [Nat.add_mul] at h
    omega
  have h := Nat.mul_le_mul_right (etcDecodedTexelBytes format) hrow
  rw [Nat.add_mul] at h
  unfold texelOffset
  omega

theorem texelOffset_inj {format : EtcFormat} {width : UInt32} {x' y' k' : Nat} (hx : x < width.toNat)
    (hx' : x' < width.toNat) (hk : k < etcDecodedTexelBytes format) (hk' : k' < etcDecodedTexelBytes format)
    (h : texelOffset format width x y + k = texelOffset format width x' y' + k') : x = x' ∧ y = y' := by
  have hdiv : ∀ a j, j < etcDecodedTexelBytes format →
      (a * etcDecodedTexelBytes format + j) / etcDecodedTexelBytes format = a := by
    intro a j hj
    rw [Nat.mul_comm, Nat.mul_add_div (by omega), Nat.div_eq_of_lt hj, Nat.add_zero]
  have hindex : y * width.toNat + x = y' * width.toNat + x' := by
    have h' := congrArg (· / etcDecodedTexelBytes format) h
    simpa only [texelOffset, hdiv _ _ hk, hdiv _ _ hk'] using h'
  have hcolumn := congrArg (· % width.toNat) hindex
  have hrow := congrArg (· / width.toNat) hindex
  simp only [Nat.mul_comm _ width.toNat, Nat.mul_add_mod, Nat.mod_eq_of_lt hx, Nat.mod_eq_of_lt hx'] at hcolumn
  simp only [Nat.mul_comm _ width.toNat, Nat.mul_add_div (show 0 < width.toNat by omega), Nat.div_eq_of_lt hx,
    Nat.div_eq_of_lt hx', Nat.add_zero] at hrow
  exact ⟨hcolumn, hrow⟩

theorem blockOffset_lt {format : EtcFormat} {width height : UInt32} {i : Nat}
    (hr : row < blocksAlong height) (hc : column < blocksAlong width) (hi : i < etcBlockBytes format) :
    blockOffset format width row column + i < blocksAlong width * blocksAlong height * etcBlockBytes format := by
  have hrow : row * blocksAlong width + column + 1 ≤ blocksAlong width * blocksAlong height := by
    have h := Nat.mul_le_mul_right (blocksAlong width) (show row + 1 ≤ blocksAlong height by omega)
    rw [Nat.mul_comm (blocksAlong width)]
    rw [Nat.add_mul] at h
    omega
  have h := Nat.mul_le_mul_right (etcBlockBytes format) hrow
  rw [Nat.add_mul] at h
  unfold blockOffset
  omega

theorem read_rowAccesses {format : EtcFormat} {source : Nat → UInt8} {width height : UInt32} {offset : Nat}
    (h : .read offset ∈ rowAccesses format source width height row) (hr : row < blocksAlong height) :
    offset < blocksAlong width * blocksAlong height * etcBlockBytes format := by
  obtain ⟨column, hcolumn, h⟩ := List.mem_flatMap.mp h
  simp only [blockAccesses, List.mem_append, List.mem_map, List.mem_flatMap] at h
  rcases h with ⟨i, hi, heq⟩ | ⟨p, -, store, -, heq⟩
  · obtain rfl : blockOffset format width row column + i = offset := by simpa using heq
    exact blockOffset_lt hr (List.mem_range.mp hcolumn) (List.mem_range.mp hi)
  · simp at heq

/-! ## What decoding block rows does -/

/-- The bytes of the texels that are asked for. -/
def Requested (format : EtcFormat) (width height : UInt32) (first count offset : Nat) : Prop :=
  ∃ x y k, (x, y) ∈ visited width height first count ∧ k < etcDecodedTexelBytes format ∧
    offset = texelOffset format width x y + k

structure Decodes (format : EtcFormat) (source : Nat → UInt8) (sourceBytes : Nat) (width height : UInt32)
    (first count destinationBytes : Nat) (accesses : List Access) : Prop where
  reads : ∀ offset, .read offset ∈ accesses → offset < sourceBytes
  stores : ∀ offset byte, .store offset byte ∈ accesses →
    offset < destinationBytes ∧ Requested format width height first count offset
  /-- Each texel of the rows, clipped to the image, is visited once and stored there. -/
  once : storesOf accesses = (visited width height first count).flatMap (storesAt format source width) ∧
    (visited width height first count).Nodup ∧
    ∀ x y, (x, y) ∈ visited width height first count ↔
      x < width.toNat ∧ first * 4 ≤ y ∧ y < min height.toNat ((first + count) * 4)
  values : ∀ memory x y k, (x, y) ∈ visited width height first count → k < etcDecodedTexelBytes format →
    storeAll memory (storesOf accesses) (texelOffset format width x y + k) = decodedAt format source width x y k
  others : ∀ memory offset, ¬ Requested format width height first count offset →
    storeAll memory (storesOf accesses) offset = memory offset

theorem mem_storesAt {format : EtcFormat} {source : Nat → UInt8} {width : UInt32} {store : Nat × UInt8}
    (h : store ∈ storesAt format source width (x, y)) :
    ∃ k < etcDecodedTexelBytes format, store.1 = texelOffset format width x y + k := by
  obtain ⟨⟨k, byte⟩, hk, rfl⟩ := List.mem_map.mp h
  exact ⟨k, texelStores_lt hk, rfl⟩

/-- The stores of one texel, as seen from its first byte. -/
theorem storeAll_shift (memory : Nat → UInt8) (offset k : Nat) (stores : List (Nat × UInt8)) :
    storeAll memory (stores.map fun (k, byte) => (offset + k, byte)) (offset + k) =
      storeAll (fun k => memory (offset + k)) stores k := by
  induction stores generalizing memory with
  | nil => rfl
  | cons store stores ih =>
    obtain ⟨i, byte⟩ := store
    rw [List.map_cons, storeAll_cons, storeAll_cons, ih]
    congr 1
    funext j
    by_cases hj : j = i
    · simp [upd, hj]
    · rw [upd_ne _ _ hj, upd_ne _ _ (show offset + j ≠ offset + i by omega)]

theorem visited_values (format : EtcFormat) (source : Nat → UInt8) (width height : UInt32) (first count : Nat)
    (memory : Nat → UInt8) (h : (x, y) ∈ visited width height first count)
    (hk : k < etcDecodedTexelBytes format) :
    storeAll memory ((visited width height first count).flatMap (storesAt format source width))
      (texelOffset format width x y + k) = decodedAt format source width x y k := by
  rw [storeAll_flatMap memory h (nodup_visited width height first count), storesAt, storeAll_shift,
    storeAll_texelStores format _ _ _ hk, decodedAt]
  intro p hp hne store hstore heq
  obtain ⟨x', y'⟩ := p
  obtain ⟨k', hk', hoffset⟩ := mem_storesAt hstore
  rw [hoffset] at heq
  obtain ⟨rfl, rfl⟩ := texelOffset_inj (mem_visited.mp hp).1 (mem_visited.mp h).1 hk' hk heq
  exact hne rfl

theorem rows_decode (format : EtcFormat) (source : Nat → UInt8) {width height : UInt32}
    (hf : Fits format sourceBytes width height destinationBytes)
    (hrows : first + count ≤ blocksAlong height) :
    Decodes format source sourceBytes width height first count destinationBytes
      ((List.range' first count).flatMap (rowAccesses format source width height)) := by
  have hstores := storesOf_rows format source width height first count
  refine ⟨?_, ?_, ⟨hstores, nodup_visited width height first count, fun x y => mem_visited⟩, ?_, ?_⟩
  · intro offset h
    obtain ⟨row, hrow, h⟩ := List.mem_flatMap.mp h
    have := read_rowAccesses h (by have := List.mem_range'_1.mp hrow; omega)
    have := hf.source
    omega
  · intro offset byte h
    have hmem : (offset, byte) ∈ (visited width height first count).flatMap (storesAt format source width) := by
      rw [← hstores, storesOf]
      exact List.mem_filterMap.mpr ⟨_, h, rfl⟩
    obtain ⟨⟨x, y⟩, hxy, hmem⟩ := List.mem_flatMap.mp hmem
    obtain ⟨k, hk, hoffset⟩ := mem_storesAt hmem
    obtain ⟨hx, -, hy⟩ := mem_visited.mp hxy
    have hlt := texelOffset_lt hx (show y < height.toNat by omega) hk
    have hle := hf.destination
    dsimp only at hoffset
    exact ⟨by omega, x, y, k, hxy, hk, hoffset⟩
  · intro memory x y k h hk
    rw [hstores]
    exact visited_values format source width height first count memory h hk
  · intro memory offset hnot
    rw [hstores]
    apply storeAll_flatMap_untouched
    intro p hp store hstore heq
    obtain ⟨x, y⟩ := p
    obtain ⟨k, hk, hoffset⟩ := mem_storesAt hstore
    exact hnot ⟨x, y, k, hp, hk, by rw [← hoffset, heq]⟩

/-- A decode that is refused accesses nothing; one that is made decodes the rows asked for. -/
theorem blockRows_decodes (format : EtcFormat) (source : Source) (width height firstBlockRow blockRowCount : UInt32)
    (destination : Option Nat) {sourceBytes destinationBytes : Nat} (hs : sourceBytes < 2 ^ 60)
    (hd : destinationBytes < 2 ^ 60) :
    ((decodeEtcImageBlockRows format source sourceBytes width height firstBlockRow blockRowCount destination
        destinationBytes).1 = true →
      ∃ bytes, source = some bytes ∧
        Decodes format bytes sourceBytes width height firstBlockRow.toNat blockRowCount.toNat destinationBytes
          (decodeEtcImageBlockRows format source sourceBytes width height firstBlockRow blockRowCount destination
            destinationBytes).2) ∧
    ((decodeEtcImageBlockRows format source sourceBytes width height firstBlockRow blockRowCount destination
        destinationBytes).1 = false →
      (decodeEtcImageBlockRows format source sourceBytes width height firstBlockRow blockRowCount destination
        destinationBytes).2 = []) := by
  unfold decodeEtcImageBlockRows
  split
  · simp
  · rename_i hfits
    split
    · simp
    · rename_i hrows
      cases source with
      | none => simp
      | some bytes =>
        refine ⟨fun _ => ⟨bytes, rfl, ?_⟩, by simp⟩
        exact rows_decode format bytes (imageFits_fits (by simpa using hfits) hs hd) (by omega)

/-- Four texels of one colour: the first column of a block of an image one texel wide. -/
theorem blockRows_decodes_column :
    (decodeEtcImageBlockRows .etc2Rgb8 (some fun _ => 0) 8 1 4 0 1 (some 64) 16).1 = true ∧
      ∃ bytes, (some fun _ => 0 : Source) = some bytes ∧
        Decodes .etc2Rgb8 bytes 8 1 4 0 1 16
          (decodeEtcImageBlockRows .etc2Rgb8 (some fun _ => 0) 8 1 4 0 1 (some 64) 16).2 :=
  ⟨by decide, (blockRows_decodes .etc2Rgb8 (some fun _ => 0) 1 4 0 1 (some 64) (by decide) (by decide)).1 (by decide)⟩

end Mocktail.Graphics

/-
  Mocktail.Graphics.EtcJobs — decoding several images at once (`DecodeEtcJobs`).

  Every image that fits is cut into bands of block rows, and the bands of all images go into
  one queue (`Mocktail.Lib.WorkQueue`) that the caller and the helpers of the pool empty.
  Addresses are numbers, a destination is where it starts. The sources are not among the
  destinations: they do not change.

  The bands of an image cover its block rows one after the other (`bands_rows`), and different
  bands store to different addresses (`disjoint_bands`), so every interleaving leaves what
  decoding all block rows of each image leaves (`parallel_memory`).

  As built `DecodeEtcImage` computes its row count in 32 bits, where a height of 2^32 - 3 or
  more wraps to no rows at all, while `DecodeEtcJobs` computes it in 64:
  - `parallel_agrees_iff`: both leave the same for every memory exactly when no image that
    fits is that high.
-/

import Mocktail.Graphics.EtcImage
import Mocktail.Lib.WorkQueue

namespace Mocktail.Graphics

open Mocktail.Lib

def kBlocksPerBand : Nat := 1024
def kParallelMinimumBlocks : Nat := 4096

structure EtcDecodeJob where
  format : EtcFormat
  source : Source
  sourceBytes : Nat
  width : UInt32
  height : UInt32
  destination : Option Nat
  destinationBytes : Nat

structure DecodeBand where
  job : EtcDecodeJob
  firstBlockRow : UInt32
  blockRowCount : UInt32

namespace EtcDecodeJob

def fits (job : EtcDecodeJob) : Bool :=
  imageFits job.format job.source job.sourceBytes job.width job.height job.destination job.destinationBytes

/-- Stores to a destination, at their addresses. -/
def placed (job : EtcDecodeJob) (accesses : List Access) : List (Nat × UInt8) :=
  (storesOf accesses).map fun (offset, byte) => (job.destination.getD 0 + offset, byte)

def rowsPerBand (job : EtcDecodeJob) : Nat := max 1 (kBlocksPerBand / blocksAlong job.width)

/-- The loop that cuts an image into bands. -/
def bandLoop (job : EtcDecodeJob) : Nat → Nat → List DecodeBand
  | 0, _ => []
  | fuel + 1, row =>
    if row < blocksAlong job.height then
      { job
        firstBlockRow := UInt32.ofNat row
        blockRowCount := UInt32.ofNat (min job.rowsPerBand (blocksAlong job.height - row)) } ::
        bandLoop job fuel (row + job.rowsPerBand)
    else []

def bands (job : EtcDecodeJob) : List DecodeBand := if job.fits then job.bandLoop (blocksAlong job.height) 0 else []

/-- `DecodeEtcImage` on the job's fields. -/
def image (job : EtcDecodeJob) : Bool × List Access :=
  decodeEtcImage job.format job.source job.sourceBytes job.width job.height job.destination job.destinationBytes

end EtcDecodeJob

/-- What a worker does with a band. -/
def DecodeBand.decode (band : DecodeBand) : Bool × List Access :=
  decodeEtcImageBlockRows band.job.format band.job.source band.job.sourceBytes band.job.width band.job.height
    band.firstBlockRow band.blockRowCount band.job.destination band.job.destinationBytes

def DecodeBand.stores (band : DecodeBand) : List (Nat × UInt8) := band.job.placed band.decode.2

def queueOf (jobs : List EtcDecodeJob) : List DecodeBand := jobs.flatMap EtcDecodeJob.bands

def totalBlocks (jobs : List EtcDecodeJob) : Nat :=
  ((jobs.filter EtcDecodeJob.fits).map fun job => blocksAlong job.width * blocksAlong job.height).sum

/-- How many helpers the caller asks the pool for, and gets of those it has. -/
def helperCount (jobs : List EtcDecodeJob) (workerCount poolSize : Nat) : Nat :=
  let threads :=
    if totalBlocks jobs < kParallelMinimumBlocks then 1 else min (max workerCount 1) (queueOf jobs).length
  if threads ≤ 1 then 0 else min (threads - 1) poolSize

/-- `DecodeEtcJobs` under a schedule: the flags it sets and the queue as far as it has come. -/
def decodeEtcJobs (jobs : List EtcDecodeJob) (workerCount poolSize : Nat) (memory : Nat → UInt8)
    (schedule : List (Fin (helperCount jobs workerCount poolSize + 1))) :
    List Bool × WorkQueue UInt8 (helperCount jobs workerCount poolSize) :=
  (jobs.map EtcDecodeJob.fits,
    queueAfter ((queueOf jobs).map DecodeBand.stores) (helperCount jobs workerCount poolSize) memory schedule)

/-- `DecodeEtcImage` for one job after the other. -/
def decodeEach (jobs : List EtcDecodeJob) (memory : Nat → UInt8) : Nat → UInt8 :=
  jobs.foldl (fun memory job => storeAll memory (job.placed job.image.2)) memory

/-! ## Block rows of a job -/

variable {store store' : Nat × UInt8} {row row' : Nat}

namespace EtcDecodeJob

variable {job : EtcDecodeJob}

/-- The stores of one block row, at their addresses. -/
def rowStores (job : EtcDecodeJob) (row : Nat) : List (Nat × UInt8) :=
  job.placed (rowAccesses job.format (job.source.getD fun _ => 0) job.width job.height row)

/-- The stores of all block rows. -/
def stored (job : EtcDecodeJob) : List (Nat × UInt8) :=
  if job.fits then (List.range' 0 (blocksAlong job.height)).flatMap job.rowStores else []

theorem placed_flatMap {ι : Type} (job : EtcDecodeJob) (l : List ι) (f : ι → List Access) :
    job.placed (l.flatMap f) = l.flatMap fun i => job.placed (f i) := by
  rw [placed, storesOf_flatMap, List.map_flatMap]
  rfl

theorem fits_some (h : job.fits = true) :
    ∃ source destination, job.source = some source ∧ job.destination = some destination := by
  unfold fits imageFits at h
  split at h
  · cases h
  · rename_i hnull
    simp only [Bool.or_eq_true, not_or, Option.isNone_iff_eq_none] at hnull
    obtain ⟨source, hs⟩ := Option.ne_none_iff_exists'.mp hnull.1.1.1
    obtain ⟨destination, hd⟩ := Option.ne_none_iff_exists'.mp hnull.1.1.2
    exact ⟨source, destination, hs, hd⟩

theorem decode_rows (h : job.fits = true) {first count : UInt32}
    (hrows : first.toNat + count.toNat ≤ blocksAlong job.height) :
    (decodeEtcImageBlockRows job.format job.source job.sourceBytes job.width job.height first count job.destination
        job.destinationBytes).1 = true ∧
      job.placed (decodeEtcImageBlockRows job.format job.source job.sourceBytes job.width job.height first count
        job.destination job.destinationBytes).2 = (List.range' first.toNat count.toNat).flatMap job.rowStores := by
  obtain ⟨source, -, hs, -⟩ := fits_some h
  unfold decodeEtcImageBlockRows
  rw [if_neg (by rw [fits] at h; simp [h]), if_neg (by omega), hs]
  refine ⟨rfl, ?_⟩
  rw [placed_flatMap]
  apply List.flatMap_congr
  intro row _
  rw [rowStores, hs]
  rfl

theorem mem_rowStores (h : store ∈ job.rowStores row) :
    ∃ x y k, x < job.width.toNat ∧ y < job.height.toNat ∧ y / 4 = row ∧ k < etcDecodedTexelBytes job.format ∧
      store.1 = job.destination.getD 0 + (texelOffset job.format job.width x y + k) := by
  rw [rowStores, placed, storesOf_rowAccesses] at h
  obtain ⟨⟨offset, byte⟩, hmem, rfl⟩ := List.mem_map.mp h
  obtain ⟨⟨x, y⟩, hxy, hmem⟩ := List.mem_flatMap.mp hmem
  obtain ⟨k, hk, rfl⟩ := mem_storesAt hmem
  obtain ⟨hx, hrow, hy⟩ := mem_rowTexels.mp hxy
  exact ⟨x, y, k, hx, hy, hrow, hk, rfl⟩

theorem rowStores_ne (h : store ∈ job.rowStores row)
    (h' : store' ∈ job.rowStores row') (hne : row ≠ row') : store.1 ≠ store'.1 := by
  obtain ⟨x, y, k, hx, -, hrow, hk, haddress⟩ := mem_rowStores h
  obtain ⟨x', y', k', hx', -, hrow', hk', haddress'⟩ := mem_rowStores h'
  intro heq
  rw [haddress, haddress'] at heq
  have := (texelOffset_inj hx hx' hk hk' (Nat.add_left_cancel heq)).2
  omega

/-- Every store of a job is within its destination. -/
theorem rowStores_within (hf : Fits job.format job.sourceBytes job.width job.height job.destinationBytes)
    (h : store ∈ job.rowStores row) :
    job.destination.getD 0 ≤ store.1 ∧ store.1 < job.destination.getD 0 + job.destinationBytes := by
  obtain ⟨x, y, k, hx, hy, -, hk, haddress⟩ := mem_rowStores h
  have hlt := texelOffset_lt hx hy hk
  have hle := hf.destination
  omega

/-! ## The bands of a job -/

theorem one_le_rowsPerBand (job : EtcDecodeJob) : 1 ≤ job.rowsPerBand := Nat.le_max_left _ _

theorem rowsPerBand_le (job : EtcDecodeJob) : job.rowsPerBand ≤ 1024 := by
  unfold rowsPerBand kBlocksPerBand
  have := Nat.div_le_self 1024 (blocksAlong job.width)
  omega

/-- The bands from a row on: they are the job's, within the image, and their rows are the rows
    from there on. -/
theorem bandLoop_rows (job : EtcDecodeJob) (fuel row : Nat) (hfuel : blocksAlong job.height - row ≤ fuel) :
    (∀ band ∈ job.bandLoop fuel row, band.job = job ∧
        band.firstBlockRow.toNat + band.blockRowCount.toNat ≤ blocksAlong job.height) ∧
      (job.bandLoop fuel row).flatMap (fun band => List.range' band.firstBlockRow.toNat band.blockRowCount.toNat) =
        List.range' row (blocksAlong job.height - row) := by
  induction fuel generalizing row with
  | zero =>
    rw [show blocksAlong job.height - row = 0 by omega]
    exact ⟨by simp [bandLoop], rfl⟩
  | succ fuel ih =>
    unfold bandLoop
    split
    · rename_i hrow
      have hone := job.one_le_rowsPerBand
      have hblocks := blocksAlong_le job.height
      obtain ⟨hmem, hrows⟩ := ih (row + job.rowsPerBand) (by omega)
      have hsize : UInt32.size = 2 ^ 32 := rfl
      have hfirst : (UInt32.ofNat row).toNat = row := UInt32.toNat_ofNat_of_lt' (by omega)
      have hcount : (UInt32.ofNat (min job.rowsPerBand (blocksAlong job.height - row))).toNat =
          min job.rowsPerBand (blocksAlong job.height - row) := UInt32.toNat_ofNat_of_lt' (by omega)
      constructor
      · intro band hband
        rcases List.mem_cons.mp hband with heq | hband
        · subst heq
          exact ⟨rfl, by dsimp only; omega⟩
        · exact hmem band hband
      · rw [List.flatMap_cons, hrows]
        dsimp only
        rw [hfirst, hcount]
        by_cases hlast : job.rowsPerBand ≤ blocksAlong job.height - row
        · rw [Nat.min_eq_left hlast, List.range'_append_1]
          congr 1
          omega
        · rw [Nat.min_eq_right (by omega), show blocksAlong job.height - (row + job.rowsPerBand) = 0 by omega]
          simp
    · rw [show blocksAlong job.height - row = 0 by omega]
      exact ⟨by simp, rfl⟩

variable {band : DecodeBand}

theorem band_stores (h : job.fits = true) (hjob : band.job = job)
    (hrows : band.firstBlockRow.toNat + band.blockRowCount.toNat ≤ blocksAlong job.height) :
    band.stores = (List.range' band.firstBlockRow.toNat band.blockRowCount.toNat).flatMap job.rowStores := by
  subst hjob
  exact (decode_rows h hrows).2

theorem mem_bands (h : band ∈ job.bands) :
    job.fits = true ∧ band.job = job ∧
      band.stores = (List.range' band.firstBlockRow.toNat band.blockRowCount.toNat).flatMap job.rowStores := by
  unfold bands at h
  split at h
  · rename_i hfits
    obtain ⟨hjob, hrows⟩ := (job.bandLoop_rows _ 0 (Nat.sub_le _ _)).1 band h
    exact ⟨hfits, hjob, band_stores hfits hjob hrows⟩
  · cases h

/-- One band after the other stores what all block rows do. -/
theorem bands_rows (job : EtcDecodeJob) : job.bands.flatMap DecodeBand.stores = job.stored := by
  have hstores : job.bands.flatMap DecodeBand.stores = job.bands.flatMap fun band =>
      (List.range' band.firstBlockRow.toNat band.blockRowCount.toNat).flatMap job.rowStores :=
    List.flatMap_congr fun band hband => (mem_bands hband).2.2
  rw [hstores, ← List.flatMap_assoc]
  unfold bands stored
  split
  · rw [(job.bandLoop_rows _ 0 (Nat.sub_le _ _)).2, Nat.sub_zero]
  · rfl

theorem bandLoop_first {fuel : Nat} (h : band ∈ job.bandLoop fuel row) (hrow : row ≤ 2 ^ 31) :
    row ≤ band.firstBlockRow.toNat := by
  induction fuel generalizing row with
  | zero => cases h
  | succ fuel ih =>
    unfold bandLoop at h
    split at h
    · have hblocks := blocksAlong_le job.height
      have hper := job.rowsPerBand_le
      rcases List.mem_cons.mp h with heq | h
      · subst heq
        exact Nat.le_of_eq (UInt32.toNat_ofNat_of_lt' (by rw [UInt32.size]; omega)).symm
      · have := ih h (by omega)
        omega
    · cases h

/-- The bands of a job come one after the other. -/
theorem pairwise_bandLoop (job : EtcDecodeJob) (fuel row : Nat) (hrow : row ≤ 2 ^ 31) :
    (job.bandLoop fuel row).Pairwise fun a b =>
      a.firstBlockRow.toNat + a.blockRowCount.toNat ≤ b.firstBlockRow.toNat := by
  induction fuel generalizing row with
  | zero => exact List.Pairwise.nil
  | succ fuel ih =>
    unfold bandLoop
    split
    · have hblocks := blocksAlong_le job.height
      have hsize : UInt32.size = 2 ^ 32 := rfl
      have hper := job.rowsPerBand_le
      refine List.Pairwise.cons ?_ (ih _ (by omega))
      intro band hband
      have hfirst := bandLoop_first hband (by omega)
      dsimp only
      rw [UInt32.toNat_ofNat_of_lt' (by omega), UInt32.toNat_ofNat_of_lt' (by omega)]
      omega
    · exact List.Pairwise.nil

/-! ## One image alone -/

/-- The 32-bit row count is the number of block rows, or wraps to none. -/
theorem rowCount (job : EtcDecodeJob) : ((job.height + 3) / 4).toNat =
    if job.height.toNat + 3 < 2 ^ 32 then blocksAlong job.height else 0 := by
  have hlt := job.height.toNat_lt
  rw [UInt32.toNat_div, UInt32.toNat_add]
  change (job.height.toNat + 3) % 2 ^ 32 / 4 = _
  unfold blocksAlong
  split <;> omega

theorem rowCount_within (job : EtcDecodeJob) :
    (0 : UInt32).toNat + ((job.height + 3) / 4).toNat ≤ blocksAlong job.height := by
  rw [rowCount]
  split
  · exact Nat.le_of_eq (Nat.zero_add _)
  · exact Nat.zero_le _

theorem image_flag (job : EtcDecodeJob) : job.image.1 = job.fits := by
  cases hfits : job.fits with
  | false =>
    unfold image decodeEtcImage decodeEtcImageBlockRows
    rw [fits] at hfits
    simp [hfits]
  | true => exact (decode_rows hfits job.rowCount_within).1

theorem image_stores (job : EtcDecodeJob) :
    job.placed job.image.2 = if job.height.toNat + 3 < 2 ^ 32 then job.stored else [] := by
  cases hfits : job.fits with
  | false =>
    have hnone : job.image.2 = [] := by
      unfold image decodeEtcImage decodeEtcImageBlockRows
      rw [fits] at hfits
      simp [hfits]
    rw [hnone, stored, hfits]
    split <;> rfl
  | true =>
    have hwithin := job.rowCount_within
    rw [image, decodeEtcImage, (decode_rows hfits hwithin).2, rowCount, stored, if_pos hfits]
    split <;> rfl

end EtcDecodeJob

theorem decodeEach_eq (jobs : List EtcDecodeJob) (memory : Nat → UInt8) :
    decodeEach jobs memory = storeAll memory (jobs.flatMap fun job => job.placed job.image.2) := by
  unfold decodeEach
  induction jobs generalizing memory with
  | nil => rfl
  | cons job jobs ih => rw [List.foldl_cons, ih, List.flatMap_cons, storeAll_append]

/-! ## All of them at once -/

def DisjointDestinations (jobs : List EtcDecodeJob) : Prop :=
  jobs.Pairwise fun a b => ∀ p ∈ a.destination, ∀ q ∈ b.destination,
    p + a.destinationBytes ≤ q ∨ q + b.destinationBytes ≤ p

def DeclaredBelow (jobs : List EtcDecodeJob) : Prop :=
  ∀ job ∈ jobs, job.sourceBytes < 2 ^ 60 ∧ job.destinationBytes < 2 ^ 60

section
variable {jobs : List EtcDecodeJob}

theorem fits_of_mem (hb : DeclaredBelow jobs) {job : EtcDecodeJob} (hmem : job ∈ jobs) (h : job.fits = true) :
    Fits job.format job.sourceBytes job.width job.height job.destinationBytes :=
  imageFits_fits h (hb job hmem).1 (hb job hmem).2

/-- Rows of images with different destinations. -/
theorem rowStores_apart {a b : EtcDecodeJob} (ha : a.fits = true)
    (hb : b.fits = true) (hfa : Fits a.format a.sourceBytes a.width a.height a.destinationBytes)
    (hfb : Fits b.format b.sourceBytes b.width b.height b.destinationBytes)
    (hapart : ∀ p ∈ a.destination, ∀ q ∈ b.destination, p + a.destinationBytes ≤ q ∨ q + b.destinationBytes ≤ p)
    (hs : store ∈ a.rowStores row) (hs' : store' ∈ b.rowStores row') : store.1 ≠ store'.1 := by
  obtain ⟨-, p, -, hp⟩ := EtcDecodeJob.fits_some ha
  obtain ⟨-, q, -, hq⟩ := EtcDecodeJob.fits_some hb
  have hin := EtcDecodeJob.rowStores_within hfa hs
  have hin' := EtcDecodeJob.rowStores_within hfb hs'
  have := hapart p hp q hq
  rw [hp, Option.getD_some] at hin
  rw [hq, Option.getD_some] at hin'
  omega

theorem disjoint_bands (hd : DisjointDestinations jobs) (hb : DeclaredBelow jobs) :
    DisjointJobs ((queueOf jobs).map DecodeBand.stores) := by
  unfold DisjointJobs queueOf
  rw [List.pairwise_map, List.pairwise_flatMap]
  constructor
  · intro job _
    by_cases hfits : job.fits = true
    · have hloop := job.pairwise_bandLoop (blocksAlong job.height) 0 (Nat.zero_le _)
      have hbands : job.bands = job.bandLoop (blocksAlong job.height) 0 := if_pos hfits
      rw [← hbands] at hloop
      apply hloop.imp_of_mem
      intro a b ha hb' hab s hs t ht
      rw [(EtcDecodeJob.mem_bands ha).2.2] at hs
      rw [(EtcDecodeJob.mem_bands hb').2.2] at ht
      obtain ⟨row, hrow, hs⟩ := List.mem_flatMap.mp hs
      obtain ⟨row', hrow', ht⟩ := List.mem_flatMap.mp ht
      have h1 := List.mem_range'_1.mp hrow
      have h2 := List.mem_range'_1.mp hrow'
      exact EtcDecodeJob.rowStores_ne hs ht (by omega)
    · rw [EtcDecodeJob.bands, if_neg hfits]
      exact List.Pairwise.nil
  · apply hd.imp_of_mem
    intro a b ha hb' hapart x hx y hy s hs t ht
    obtain ⟨hfa, -, hxs⟩ := EtcDecodeJob.mem_bands hx
    obtain ⟨hfb, -, hys⟩ := EtcDecodeJob.mem_bands hy
    rw [hxs] at hs
    rw [hys] at ht
    obtain ⟨row, -, hs⟩ := List.mem_flatMap.mp hs
    obtain ⟨row', -, ht⟩ := List.mem_flatMap.mp ht
    exact rowStores_apart hfa hfb (fits_of_mem hb ha hfa) (fits_of_mem hb hb' hfb) hapart hs ht

theorem parallel_memory (hd : DisjointDestinations jobs) (hb : DeclaredBelow jobs) {workerCount poolSize : Nat}
    {memory : Nat → UInt8} {schedule : List (Fin (helperCount jobs workerCount poolSize + 1))}
    (h : (decodeEtcJobs jobs workerCount poolSize memory schedule).2.Returned) :
    (decodeEtcJobs jobs workerCount poolSize memory schedule).2.memory =
      storeAll memory (jobs.flatMap EtcDecodeJob.stored) := by
  have hmemory := memory_of_returned (disjoint_bands hd hb) h
  rw [decodeEtcJobs, hmemory, ← List.flatMap_def, queueOf, List.flatMap_assoc]
  congr 1
  apply List.flatMap_congr
  intro job _
  exact job.bands_rows

/-- The stores of all rows put the first texel's first byte at the start of the destination. -/
theorem storeAll_stored {job : EtcDecodeJob} (h : job.fits = true)
    (hf : Fits job.format job.sourceBytes job.width job.height job.destinationBytes) (memory : Nat → UInt8) :
    storeAll memory job.stored (job.destination.getD 0) =
      decodedAt job.format (job.source.getD fun _ => 0) job.width 0 0 0 := by
  have hstored : job.stored = ((visited job.width job.height 0 (blocksAlong job.height)).flatMap
      (storesAt job.format (job.source.getD fun _ => 0) job.width)).map
        fun (offset, byte) => (job.destination.getD 0 + offset, byte) := by
    rw [EtcDecodeJob.stored, if_pos h, ← storesOf_rows]
    exact (job.placed_flatMap _ _).symm
  have hshift := storeAll_shift memory (job.destination.getD 0) 0
    ((visited job.width job.height 0 (blocksAlong job.height)).flatMap
      (storesAt job.format (job.source.getD fun _ => 0) job.width))
  have hfirst : (0, 0) ∈ visited job.width job.height 0 (blocksAlong job.height) := by
    have hheight := hf.height_pos
    rw [mem_visited]
    refine ⟨hf.width_pos, Nat.zero_le _, ?_⟩
    unfold blocksAlong
    omega
  have hvalue := visited_values job.format (job.source.getD fun _ => 0) job.width job.height 0
    (blocksAlong job.height) (fun k => memory (job.destination.getD 0 + k)) (k := 0) hfirst
    (by cases job.format <;> decide)
  rw [texelOffset, Nat.zero_mul, Nat.zero_add, Nat.zero_mul] at hvalue
  rw [hstored, ← hvalue, ← hshift, Nat.add_zero]

/-- Stores of the other images leave the start of a destination alone. -/
theorem stored_elsewhere {job other : EtcDecodeJob} (h : job.fits = true)
    (hf : Fits job.format job.sourceBytes job.width job.height job.destinationBytes)
    (hother : other.fits = true →
      Fits other.format other.sourceBytes other.width other.height other.destinationBytes)
    (hapart : ∀ p ∈ job.destination, ∀ q ∈ other.destination,
      p + job.destinationBytes ≤ q ∨ q + other.destinationBytes ≤ p)
    (hs : store ∈ other.stored) : store.1 ≠ job.destination.getD 0 := by
  unfold EtcDecodeJob.stored at hs
  split at hs
  · rename_i hfits
    obtain ⟨row, -, hs⟩ := List.mem_flatMap.mp hs
    have hin := EtcDecodeJob.rowStores_within (hother hfits) hs
    obtain ⟨-, p, -, hp⟩ := EtcDecodeJob.fits_some h
    obtain ⟨-, q, -, hq⟩ := EtcDecodeJob.fits_some hfits
    have hwide := hf.width_pos
    have hhigh := hf.height_pos
    have hbytes : 0 < etcDecodedTexelBytes job.format := by cases job.format <;> decide
    have hpos := Nat.mul_pos (Nat.mul_pos hwide hhigh) hbytes
    have hle := hf.destination
    have := hapart p hp q hq
    rw [hq, Option.getD_some] at hin
    rw [hp, Option.getD_some]
    omega
  · cases hs

/-- The start of the destination of one of the images, after lists of stores for each of them. -/
theorem storeAll_start (hd : DisjointDestinations jobs) (hb : DeclaredBelow jobs) {job : EtcDecodeJob}
    (hmem : job ∈ jobs) (h : job.fits = true) (memory : Nat → UInt8) {stores : EtcDecodeJob → List (Nat × UInt8)}
    (hstores : ∀ other, ∀ store ∈ stores other, store ∈ other.stored) :
    storeAll memory (jobs.flatMap stores) (job.destination.getD 0) =
      storeAll memory (stores job) (job.destination.getD 0) := by
  have hf := fits_of_mem hb hmem h
  obtain ⟨pre, post, rfl⟩ := List.append_of_mem hmem
  obtain ⟨-, hrest, hcross⟩ := List.pairwise_append.mp hd
  obtain ⟨hafter, -⟩ := List.pairwise_cons.mp hrest
  have hpre : ∀ other ∈ pre, ∀ store ∈ stores other, store.1 ≠ job.destination.getD 0 := by
    intro other ho store hs
    refine stored_elsewhere h hf (fits_of_mem hb (List.mem_append_left _ ho)) ?_ (hstores other store hs)
    intro p hp q hq
    exact (hcross other ho job (List.mem_cons_self ..) q hq p hp).symm
  have hpost : ∀ other ∈ post, ∀ store ∈ stores other, store.1 ≠ job.destination.getD 0 := by
    intro other ho store hs
    exact stored_elsewhere h hf (fits_of_mem hb (List.mem_append_right _ (List.mem_cons_of_mem _ ho)))
      (hafter other ho) (hstores other store hs)
  rw [List.flatMap_append, List.flatMap_cons, storeAll_append, storeAll_append,
    storeAll_flatMap_untouched _ hpost]
  exact storeAll_congr (storeAll_flatMap_untouched _ hpre) _

/-- Decoding at once does what decoding one after the other does, for every memory, number of
    workers and interleaving; and it comes to an end. -/
structure ParallelAgrees (jobs : List EtcDecodeJob) : Prop where
  flags : ∀ workerCount poolSize memory schedule,
    (decodeEtcJobs jobs workerCount poolSize memory schedule).1 = jobs.map fun job => job.image.1
  bytes : ∀ workerCount poolSize memory schedule,
    (decodeEtcJobs jobs workerCount poolSize memory schedule).2.Returned →
      (decodeEtcJobs jobs workerCount poolSize memory schedule).2.memory = decodeEach jobs memory
  returns : ∀ workerCount poolSize memory schedule,
    ∃ more, (decodeEtcJobs jobs workerCount poolSize memory (schedule ++ more)).2.Returned

theorem agrees_returns (hd : DisjointDestinations jobs) (hb : DeclaredBelow jobs) (workerCount poolSize : Nat)
    (memory : Nat → UInt8) (schedule : List (Fin (helperCount jobs workerCount poolSize + 1))) :
    ∃ more, (decodeEtcJobs jobs workerCount poolSize memory (schedule ++ more)).2.Returned :=
  exists_returned (disjoint_bands hd hb) memory schedule

/-- `DecodeEtcImage` decodes no row of an image that high, `DecodeEtcJobs` all of them. -/
theorem low_of_agrees (hd : DisjointDestinations jobs) (hb : DeclaredBelow jobs) (h : ParallelAgrees jobs)
    {job : EtcDecodeJob} (hmem : job ∈ jobs) (hfits : job.fits = true) : job.height.toNat + 3 < 2 ^ 32 := by
  by_contra hhigh
  -- a memory that differs from the first byte there is to decode
  let memory : Nat → UInt8 := fun _ => decodedAt job.format (job.source.getD fun _ => 0) job.width 0 0 0 + 1
  obtain ⟨more, hmore⟩ := agrees_returns hd hb 0 0 memory []
  have hbytes := congrFun (h.bytes 0 0 memory _ hmore) (job.destination.getD 0)
  have hstored : ∀ other : EtcDecodeJob, ∀ store ∈ other.placed other.image.2, store ∈ other.stored := by
    intro other store hs
    rw [EtcDecodeJob.image_stores] at hs
    split at hs
    · exact hs
    · cases hs
  rw [parallel_memory hd hb hmore, storeAll_start hd hb hmem hfits memory (fun _ _ hs => hs),
    storeAll_stored hfits (fits_of_mem hb hmem hfits), decodeEach_eq, storeAll_start hd hb hmem hfits memory hstored,
    EtcDecodeJob.image_stores, if_neg hhigh, storeAll_nil] at hbytes
  exact absurd hbytes (by simp [memory])

theorem parallel_agrees_iff (hd : DisjointDestinations jobs) (hb : DeclaredBelow jobs) :
    ParallelAgrees jobs ↔ ∀ job ∈ jobs, job.fits = true → job.height.toNat + 3 < 2 ^ 32 := by
  constructor
  · intro h job hmem hfits
    exact low_of_agrees hd hb h hmem hfits
  · intro hlow
    refine ⟨?_, ?_, agrees_returns hd hb⟩
    · intro workerCount poolSize memory schedule
      exact List.map_congr_left fun job _ => job.image_flag.symm
    · intro workerCount poolSize memory schedule hreturned
      rw [parallel_memory hd hb hreturned, decodeEach_eq]
      congr 1
      apply List.flatMap_congr
      intro job hmem
      rw [EtcDecodeJob.image_stores]
      split
      · rfl
      · rename_i hhigh
        rw [EtcDecodeJob.stored, if_neg]
        intro hfits
        exact hhigh (hlow job hmem hfits)

end

/-- One column of texels. -/
def columnJob (height : UInt32) (destination : Nat) : EtcDecodeJob :=
  { format := .etc2Rgb8
    source := some fun _ => 0
    sourceBytes := blocksAlong height * 8
    width := 1
    height
    destination := some destination
    destinationBytes := height.toNat * 4 }

/-- Two columns that are long enough for three helpers of the pool. -/
theorem parallel_agrees_columns :
    helperCount [columnJob 16384 65536, columnJob 4105 131072] 8 3 = 3 ∧
      ParallelAgrees [columnJob 16384 65536, columnJob 4105 131072] := by
  refine ⟨by decide +kernel, (parallel_agrees_iff ?_ ?_).mpr ?_⟩
  · unfold DisjointDestinations
    simp [columnJob]
  · unfold DeclaredBelow
    simp [columnJob, blocksAlong]
  · simp [columnJob]

/-- A column of the greatest height, which `DecodeEtcImage` reports decoded and leaves as it was. -/
theorem tall_column_disagrees :
    DisjointDestinations [columnJob 4294967295 0] ∧ DeclaredBelow [columnJob 4294967295 0] ∧
      ¬ ParallelAgrees [columnJob 4294967295 0] := by
  have hd : DisjointDestinations [columnJob 4294967295 0] := List.pairwise_singleton _ _
  have hb : DeclaredBelow [columnJob 4294967295 0] := by
    intro job hjob
    rw [List.mem_singleton.mp hjob]
    decide
  refine ⟨hd, hb, ?_⟩
  intro h
  have hlow := low_of_agrees hd hb h (List.mem_singleton_self _) (by decide)
  exact absurd hlow (by decide)

end Mocktail.Graphics

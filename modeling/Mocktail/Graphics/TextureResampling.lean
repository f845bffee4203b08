/-
  Mocktail.Graphics.TextureResampling — an RGBA image brought to another size (`ResampleRgba`
  in `texture_override.cc`).

  Each pixel of the target is the rounded mean of a box of source pixels. An image of the same
  size is copied and one that grows by whole factors has its pixels repeated, without the boxes.
  What is modelled is the list of reads from the source and of writes to the target, each write
  with its bytes; the two buffers are there and do not overlap.

  Proved, for a source with pixels (`resampled_boxes`): nothing but the source is read; the
  writes lie one behind the other from the start of the target to its end; both shortcuts leave
  what the boxes give; a channel is between the least and the greatest of its box; and where the
  target is not larger the boxes make up the source. A source without pixels leaves the target
  as it is.
-/

import Mathlib.Algebra.Group.Action.Defs
import Mocktail.Graphics.UploadPlanning
import Mocktail.Lib.Tiles

namespace Mocktail.Graphics

open Mocktail.Lib

structure TextureExtent where
  width : UInt32
  height : UInt32
  deriving DecidableEq, Repr

namespace TextureExtent

def columns (extent : TextureExtent) : Nat := extent.width.toNat
def rows (extent : TextureExtent) : Nat := extent.height.toNat
def bytes (extent : TextureExtent) : Nat := extent.columns * extent.rows * 4

end TextureExtent

inductive TextureAccess where
  | read (start size : Nat)
  | write (target : Nat) (bytes : List UInt8)
  deriving DecidableEq, Repr

/-- The intervals of the source that are read. -/
def readIntervals (accesses : List TextureAccess) : List (Nat × Nat) :=
  accesses.filterMap fun
    | .read start size => some (start, start + size)
    | .write _ _ => none

def writesOf (accesses : List TextureAccess) : List (Nat × List UInt8) :=
  accesses.filterMap fun
    | .read _ _ => none
    | .write target bytes => some (target, bytes)

def writeIntervals (accesses : List TextureAccess) : List (Nat × Nat) :=
  (writesOf accesses).map fun write => (write.1, write.1 + write.2.length)

/-- What the accesses leave in the target buffer. -/
def leaves (destination : Nat → UInt8) (accesses : List TextureAccess) : Nat → UInt8 :=
  storeBlocks destination (writesOf accesses)

/-! ## The three ways -/

/-- The box of a target coordinate along one axis, half-open. -/
def boxAxis (source target i : Nat) : Nat × Nat :=
  let first := wrap64 (i * source) / target
  let last := wrap64 (wrap64 (i + 1) * source) / target
  (first, if last ≤ first then wrap64 (first + 1) else last)

section
variable (pixels : Nat → UInt8) (source target : TextureExtent)

/-- Where the pixels of the box start in the source. -/
def boxOffsets (x y : Nat) : List Nat :=
  let across := boxAxis source.columns target.columns x
  let down := boxAxis source.rows target.rows y
  (List.range' down.1 (down.2 - down.1)).flatMap fun sy =>
    (List.range' across.1 (across.2 - across.1)).map fun sx => wrap64 (wrap64 (wrap64 (sy * source.columns) + sx) * 4)

def boxCount (x y : Nat) : Nat :=
  let across := boxAxis source.columns target.columns x
  let down := boxAxis source.rows target.rows y
  wrap64 ((down.2 - down.1) * (across.2 - across.1))

def boxChannel (x y channel : Nat) : UInt8 :=
  let sum := (boxOffsets source target x y).foldl (fun sum offset => wrap64 (sum + (pixels (offset + channel)).toNat)) 0
  let count := boxCount source target x y
  UInt8.ofNat (wrap64 (sum + count / 2) / count)

/-- The loops over the boxes. -/
def boxAccesses : List TextureAccess :=
  (List.range target.rows).flatMap fun y =>
    (List.range target.columns).flatMap fun x =>
      (boxOffsets source target x y).map (TextureAccess.read · 4) ++
        [.write (wrap64 (wrap64 (wrap64 (y * target.columns) + x) * 4))
          ((List.range 4).map (boxChannel pixels source target x y))]

def copyAccesses : List TextureAccess :=
  let size := wrap64 (wrap64 (target.columns * target.rows) * 4)
  [.read 0 size, .write 0 (cellsAt pixels 0 size)]

/-- The calls of `memcpy` that fill the row buffer. -/
def rowCopies (y : Nat) : List BlockCopy :=
  let scale := target.columns / source.columns
  let row := wrap64 (wrap64 (y * source.columns) * 4)
  (List.range source.columns).flatMap fun x =>
    (List.range scale).map fun repeated => ⟨wrap64 (wrap64 (wrap64 (x * scale) + repeated) * 4), row + wrap64 (x * 4), 4⟩

def enlargeAccesses : List TextureAccess :=
  let scale := target.rows / source.rows
  let rowBytes := wrap64 (target.columns * 4)
  (List.range source.rows).flatMap fun y =>
    ((rowCopies source target y).map fun copy => .read copy.start copy.size) ++
      (List.range scale).map fun repeated =>
        .write (wrap64 (wrap64 (y * scale) * rowBytes) + wrap64 (repeated * rowBytes))
          (cellsAt (copyAll pixels (fun _ => 0) (rowCopies source target y)) 0 rowBytes)

def resampleRgba : List TextureAccess :=
  if target.width = 0 ∨ target.height = 0 ∨ source.width = 0 ∨ source.height = 0 then []
  else if target.width = source.width ∧ target.height = source.height then copyAccesses pixels target
  else if target.width.toNat % source.width.toNat = 0 ∧ target.height.toNat % source.height.toNat = 0 then
    enlargeAccesses pixels source target
  else boxAccesses pixels source target

end

structure RgbaImage where
  extent : TextureExtent
  pixels : List UInt8

/-- The overload for an image: one with too few bytes is left out. -/
def resampleImage (image : RgbaImage) (target : TextureExtent) : List TextureAccess :=
  if image.pixels.length < wrap64 (wrap64 (image.extent.columns * image.extent.rows) * 4) then []
  else resampleRgba (fun a => image.pixels.getD a 0) image.extent target

/-! ## Boxes -/

section
variable {source target i : Nat}

def boxFirst (source target i : Nat) : Nat := i * source / target

def boxLast (source target i : Nat) : Nat := max (boxFirst source target i + 1) ((i + 1) * source / target)

theorem boxAxis_eq (hsource : source < 2 ^ 32) (htarget : target < 2 ^ 32) (hi : i < target) :
    boxAxis source target i = (boxFirst source target i, boxLast source target i) := by
  have hlow : (i + 1) * source < 2 ^ 64 :=
    calc (i + 1) * source ≤ 2 ^ 32 * source := Nat.mul_le_mul_right _ (by omega)
      _ < 2 ^ 32 * 2 ^ 32 := Nat.mul_lt_mul_of_pos_left hsource (by decide)
  have hless : i * source ≤ (i + 1) * source := Nat.mul_le_mul_right _ (Nat.le_succ i)
  have hfirst : i * source / target ≤ i * source := Nat.div_le_self _ _
  unfold boxAxis boxLast boxFirst wrap64
  rw [Nat.mod_eq_of_lt (show i + 1 < 2 ^ 64 by omega), Nat.mod_eq_of_lt (show i * source < 2 ^ 64 by omega),
    Nat.mod_eq_of_lt hlow]
  dsimp only
  split
  · have hsmall : i * source / target + 1 < 2 ^ 64 := by
      have := Nat.div_le_of_le_mul (show i * source ≤ target * source from Nat.mul_le_mul_right _ (Nat.le_of_lt hi))
      omega
    rw [Nat.mod_eq_of_lt hsmall, Nat.max_eq_left (by omega)]
  · rw [Nat.max_eq_right (by omega)]

theorem boxFirst_lt_boxLast (source target i : Nat) : boxFirst source target i < boxLast source target i :=
  Nat.lt_of_lt_of_le (Nat.lt_succ_self _) (Nat.le_max_left _ _)

theorem boxLast_le (hsource : 0 < source) (hi : i < target) : boxLast source target i ≤ source := by
  have hpos : 0 < target := Nat.zero_lt_of_lt hi
  refine Nat.max_le.mpr ⟨?_, ?_⟩
  · exact (Nat.div_lt_iff_lt_mul hpos).mpr (by rw [Nat.mul_comm source]; exact Nat.mul_lt_mul_of_pos_right hi hsource)
  · calc (i + 1) * source / target ≤ target * source / target := Nat.div_le_div_right (Nat.mul_le_mul_right _ hi)
      _ = source := Nat.mul_div_cancel_left _ hpos

/-- A target that is a multiple of the source: each box is one pixel. -/
theorem box_multiple {factor : Nat} (hsource : 0 < source) (hfactor : 0 < factor) (i : Nat) :
    boxFirst source (source * factor) i = i / factor ∧ boxLast source (source * factor) i = i / factor + 1 := by
  have hdiv (n : Nat) : n * source / (source * factor) = n / factor := by
    rw [Nat.mul_comm n, Nat.mul_div_mul_left _ _ hsource]
  have hnext : (i + 1) / factor ≤ i / factor + 1 := by
    rw [← Nat.add_div_right i hfactor]
    exact Nat.div_le_div_right (by omega)
  unfold boxLast boxFirst
  rw [hdiv, hdiv]
  exact ⟨rfl, Nat.max_eq_left hnext⟩

/-- A target that is not larger: the boxes of an axis lie one behind the other. -/
theorem boxes_tile (htarget : 0 < target) (hle : target ≤ source) :
    Tiles 0 source ((List.range target).map fun i => (boxFirst source target i, boxLast source target i)) := by
  have hstep (i : Nat) : boxFirst source target i + 1 ≤ boxFirst source target (i + 1) := by
    unfold boxFirst
    rw [← Nat.add_div_right _ htarget, Nat.add_mul, Nat.one_mul]
    exact Nat.div_le_div_right (by omega)
  have hlast (i : Nat) : boxLast source target i = boxFirst source target (i + 1) := Nat.max_eq_right (hstep i)
  have htiles := Tiles.map_range (f := boxFirst source target) (n := target) fun i _ => hstep i
  simp only [hlast]
  rwa [show boxFirst source target 0 = 0 by simp [boxFirst], show boxFirst source target target = source from
    Nat.mul_div_cancel_left _ htarget] at htiles

end

/-- A source with pixels, and sizes that a buffer can have. -/
structure Resizes (source target : TextureExtent) : Prop where
  columns : 0 < source.columns
  rows : 0 < source.rows
  source_bytes : source.bytes < 2 ^ 56
  target_bytes : target.bytes < 2 ^ 56

variable {a columns last n : Nat}

theorem wrap64_eq (h : n < 2 ^ 56) : wrap64 n = n := Nat.mod_eq_of_lt (Nat.lt_trans h (by decide))

theorem pixel_le {rows x y : Nat} (hx : x < columns) (hy : y < rows) : (y * columns + x) * 4 + 4 ≤ columns * rows * 4 := by
  have hrow : y * columns + columns ≤ columns * rows := by
    rw [← Nat.succ_mul, Nat.mul_comm columns]
    exact Nat.mul_le_mul_right _ hy
  omega

theorem pixel_wrap {extent : TextureExtent} (hbytes : extent.bytes < 2 ^ 56) {x y : Nat} (hx : x < extent.columns)
    (hy : y < extent.rows) :
    wrap64 (wrap64 (wrap64 (y * extent.columns) + x) * 4) = (y * extent.columns + x) * 4 := by
  have hle := pixel_le hx hy
  unfold TextureExtent.bytes at hbytes
  rw [wrap64_eq (n := y * extent.columns) (by omega), wrap64_eq (n := y * extent.columns + x) (by omega), wrap64_eq (by omega)]

theorem exists_pixel (rows : Nat) (ha : a < columns * rows * 4) :
    ∃ x y c, x < columns ∧ y < rows ∧ c < 4 ∧ a = (y * columns + x) * 4 + c := by
  have hcolumns : 0 < columns := Nat.pos_of_ne_zero fun h => by simp [h] at ha
  refine ⟨a / 4 % columns, a / 4 / columns, a % 4, Nat.mod_lt _ hcolumns, ?_, Nat.mod_lt _ (by decide), ?_⟩
  · exact Nat.div_lt_of_lt_mul (by omega)
  · have := Nat.div_add_mod (a / 4) columns
    rw [Nat.mul_comm] at this
    omega

variable {sx sy : Nat}

section
variable {pixels : Nat → UInt8} {source target : TextureExtent} {x y : Nat}

theorem columnsAxis_eq (hx : x < target.columns) : boxAxis source.columns target.columns x =
    (boxFirst source.columns target.columns x, boxLast source.columns target.columns x) :=
  boxAxis_eq source.width.toNat_lt target.width.toNat_lt hx

theorem rowsAxis_eq (hy : y < target.rows) : boxAxis source.rows target.rows y =
    (boxFirst source.rows target.rows y, boxLast source.rows target.rows y) :=
  boxAxis_eq source.height.toNat_lt target.height.toNat_lt hy

/-- The pixels of a box. -/
def InBox (source target : TextureExtent) (x y sx sy : Nat) : Prop :=
  ((boxAxis source.columns target.columns x).1 ≤ sx ∧ sx < (boxAxis source.columns target.columns x).2) ∧
    (boxAxis source.rows target.rows y).1 ≤ sy ∧ sy < (boxAxis source.rows target.rows y).2

theorem inBox_iff (hx : x < target.columns) (hy : y < target.rows) :
    InBox source target x y sx sy ↔
      (boxFirst source.columns target.columns x ≤ sx ∧ sx < boxLast source.columns target.columns x) ∧
        boxFirst source.rows target.rows y ≤ sy ∧ sy < boxLast source.rows target.rows y := by
  rw [InBox, columnsAxis_eq hx, rowsAxis_eq hy]

theorem InBox.inside (h : Resizes source target) (hx : x < target.columns) (hy : y < target.rows)
    (hbox : InBox source target x y sx sy) : sx < source.columns ∧ sy < source.rows := by
  obtain ⟨⟨-, hsx⟩, -, hsy⟩ := (inBox_iff hx hy).mp hbox
  exact ⟨Nat.lt_of_lt_of_le hsx (boxLast_le h.columns hx), Nat.lt_of_lt_of_le hsy (boxLast_le h.rows hy)⟩

theorem mem_boxOffsets (h : Resizes source target) (hx : x < target.columns) (hy : y < target.rows) {offset : Nat} :
    offset ∈ boxOffsets source target x y ↔ ∃ sx sy, InBox source target x y sx sy ∧ offset = (sy * source.columns + sx) * 4 := by
  have hwrap {sx sy : Nat} (hbox : InBox source target x y sx sy) :=
    pixel_wrap h.source_bytes (hbox.inside h hx hy).1 (hbox.inside h hx hy).2
  have hcolumns := boxFirst_lt_boxLast source.columns target.columns x
  have hrows := boxFirst_lt_boxLast source.rows target.rows y
  unfold boxOffsets
  rw [columnsAxis_eq hx, rowsAxis_eq hy]
  simp only [List.mem_flatMap, List.mem_map, List.mem_range'_1]
  constructor
  · rintro ⟨sy, hsy, sx, hsx, rfl⟩
    have hbox : InBox source target x y sx sy := (inBox_iff hx hy).mpr ⟨by omega, by omega⟩
    exact ⟨sx, sy, hbox, hwrap hbox⟩
  · rintro ⟨sx, sy, hbox, rfl⟩
    obtain ⟨hsx, hsy⟩ := (inBox_iff hx hy).mp hbox
    exact ⟨sy, by omega, sx, by omega, hwrap hbox⟩

theorem boxCount_eq (h : Resizes source target) (hx : x < target.columns) (hy : y < target.rows) :
    boxCount source target x y = (boxOffsets source target x y).length ∧ 0 < boxCount source target x y ∧
      boxCount source target x y < 2 ^ 54 := by
  have hcolumns := boxFirst_lt_boxLast source.columns target.columns x
  have hrows := boxFirst_lt_boxLast source.rows target.rows y
  have hmul := Nat.mul_le_mul (show boxLast source.rows target.rows y - boxFirst source.rows target.rows y ≤ source.rows from
      Nat.le_trans (Nat.sub_le _ _) (boxLast_le h.rows hy))
    (show boxLast source.columns target.columns x - boxFirst source.columns target.columns x ≤ source.columns from
      Nat.le_trans (Nat.sub_le _ _) (boxLast_le h.columns hx))
  have hbytes := h.source_bytes
  unfold TextureExtent.bytes at hbytes
  rw [Nat.mul_comm source.columns] at hbytes
  have hlength : (boxOffsets source target x y).length =
      (boxLast source.rows target.rows y - boxFirst source.rows target.rows y) *
      (boxLast source.columns target.columns x - boxFirst source.columns target.columns x) := by
    unfold boxOffsets
    rw [columnsAxis_eq hx, rowsAxis_eq hy]
    simp [List.length_flatMap]
  unfold boxCount
  rw [columnsAxis_eq hx, rowsAxis_eq hy, hlength]
  dsimp only
  rw [wrap64_eq (by omega)]
  exact ⟨rfl, Nat.mul_pos (by omega) (by omega), by omega⟩

theorem boxSum_eq (f : Nat → UInt8) (offsets : List Nat) : ∀ start : Nat, start + 255 * offsets.length < 2 ^ 64 →
    offsets.foldl (fun sum offset => wrap64 (sum + (f offset).toNat)) start =
      start + (offsets.map fun offset => (f offset).toNat).sum := by
  induction offsets with
  | nil => exact fun _ _ => rfl
  | cons offset offsets ih =>
    intro start hstart
    have hbyte := (f offset).toNat_lt
    rw [List.length_cons] at hstart
    rw [List.foldl_cons, List.map_cons, List.sum_cons, wrap64, Nat.mod_eq_of_lt (by omega), ih _ (by omega)]
    omega

/-- A channel is the mean of the channel in the box, rounded to the nearest. -/
theorem boxChannel_eq (h : Resizes source target) (hx : x < target.columns) (hy : y < target.rows) (channel : Nat) :
    boxChannel pixels source target x y channel =
      UInt8.ofNat ((((boxOffsets source target x y).map fun offset => (pixels (offset + channel)).toNat).sum +
        (boxOffsets source target x y).length / 2) / (boxOffsets source target x y).length) := by
  obtain ⟨hcount, hpos, hsmall⟩ := boxCount_eq h hx hy
  have hsum := boxSum_eq (fun offset => pixels (offset + channel)) (boxOffsets source target x y) 0 (by omega)
  have hle : ((boxOffsets source target x y).map fun offset => (pixels (offset + channel)).toNat).sum ≤
      255 * (boxOffsets source target x y).length := by
    have hbound := List.sum_le_card_nsmul ((boxOffsets source target x y).map fun offset => (pixels (offset + channel)).toNat) 255
      fun v hv => by
        obtain ⟨offset, -, rfl⟩ := List.mem_map.mp hv
        exact Nat.le_of_lt_succ (pixels (offset + channel)).toNat_lt
    rwa [List.length_map, smul_eq_mul, Nat.mul_comm] at hbound
  unfold boxChannel
  dsimp only
  rw [hsum, Nat.zero_add, hcount, wrap64, Nat.mod_eq_of_lt (by omega)]

/-- The rounded mean is between any bounds of the values. -/
theorem mean_between {values : List Nat} {lo hi : Nat} (hvalues : values ≠ []) (h : ∀ v ∈ values, lo ≤ v ∧ v ≤ hi) :
    lo ≤ (values.sum + values.length / 2) / values.length ∧ (values.sum + values.length / 2) / values.length ≤ hi := by
  have hpos : 0 < values.length := List.length_pos_of_ne_nil hvalues
  have hlow := List.card_nsmul_le_sum values lo fun v hv => (h v hv).1
  have hhigh := List.sum_le_card_nsmul values hi fun v hv => (h v hv).2
  rw [smul_eq_mul] at hlow hhigh
  constructor
  · rw [Nat.le_div_iff_mul_le hpos, Nat.mul_comm]
    omega
  · rw [← Nat.lt_succ_iff, Nat.div_lt_iff_lt_mul hpos, Nat.succ_mul, Nat.mul_comm hi]
    omega

theorem boxChannel_between (h : Resizes source target) (hx : x < target.columns) (hy : y < target.rows) {channel : Nat}
    {lo hi : UInt8} (hbox : ∀ sx sy, InBox source target x y sx sy →
      lo ≤ pixels ((sy * source.columns + sx) * 4 + channel) ∧ pixels ((sy * source.columns + sx) * 4 + channel) ≤ hi) :
    lo ≤ boxChannel pixels source target x y channel ∧ boxChannel pixels source target x y channel ≤ hi := by
  obtain ⟨hcount, hpos, -⟩ := boxCount_eq h hx hy
  have hvalues : ∀ v ∈ (boxOffsets source target x y).map fun offset => (pixels (offset + channel)).toNat,
      lo.toNat ≤ v ∧ v ≤ hi.toNat := by
    intro v hv
    obtain ⟨offset, hoffset, rfl⟩ := List.mem_map.mp hv
    obtain ⟨sx, sy, hin, rfl⟩ := (mem_boxOffsets h hx hy).mp hoffset
    exact hbox sx sy hin
  have hmean := mean_between (fun hnil => by rw [List.map_eq_nil_iff.mp hnil] at hcount; simp at hcount; omega) hvalues
  rw [List.length_map] at hmean
  have hhi := hi.toNat_lt
  rw [boxChannel_eq h hx hy, UInt8.le_iff_toNat_le, UInt8.le_iff_toNat_le, UInt8.toNat_ofNat', Nat.mod_eq_of_lt (by omega)]
  exact hmean

theorem boxChannel_single (h : Resizes source target) (hx : x < target.columns) (hy : y < target.rows)
    (hacross : boxFirst source.columns target.columns x = sx ∧ boxLast source.columns target.columns x = sx + 1)
    (hdown : boxFirst source.rows target.rows y = sy ∧ boxLast source.rows target.rows y = sy + 1) (channel : Nat) :
    boxChannel pixels source target x y channel = pixels ((sy * source.columns + sx) * 4 + channel) := by
  have hin : ∀ sx' sy', InBox source target x y sx' sy' →
      pixels ((sy * source.columns + sx) * 4 + channel) ≤ pixels ((sy' * source.columns + sx') * 4 + channel) ∧
        pixels ((sy' * source.columns + sx') * 4 + channel) ≤ pixels ((sy * source.columns + sx) * 4 + channel) := by
    intro sx' sy' hbox
    obtain ⟨hsx, hsy⟩ := (inBox_iff hx hy).mp hbox
    obtain rfl : sx' = sx := by omega
    obtain rfl : sy' = sy := by omega
    exact ⟨UInt8.le_refl _, UInt8.le_refl _⟩
  obtain ⟨hle, hge⟩ := boxChannel_between h hx hy hin
  exact UInt8.le_antisymm hge hle

end

/-! ## What is written -/

theorem writesOf_append (accesses more : List TextureAccess) : writesOf (accesses ++ more) = writesOf accesses ++ writesOf more :=
  List.filterMap_append ..

theorem readIntervals_append (accesses more : List TextureAccess) :
    readIntervals (accesses ++ more) = readIntervals accesses ++ readIntervals more := List.filterMap_append ..

variable {α : Type}

theorem writesOf_flatMap (l : List α) (f : α → List TextureAccess) :
    writesOf (l.flatMap f) = l.flatMap fun a => writesOf (f a) := by
  induction l with
  | nil => rfl
  | cons a l ih => rw [List.flatMap_cons, writesOf_append, ih, List.flatMap_cons]

theorem readIntervals_flatMap (l : List α) (f : α → List TextureAccess) :
    readIntervals (l.flatMap f) = l.flatMap fun a => readIntervals (f a) := by
  induction l with
  | nil => rfl
  | cons a l ih => rw [List.flatMap_cons, readIntervals_append, ih, List.flatMap_cons]

@[simp] theorem writesOf_reads (l : List α) (start size : α → Nat) :
    writesOf (l.map fun a => .read (start a) (size a)) = [] := by
  simp [writesOf]

@[simp] theorem readIntervals_writes (l : List α) (target : α → Nat) (bytes : α → List UInt8) :
    readIntervals (l.map fun a => .write (target a) (bytes a)) = [] := by
  simp [readIntervals]

/-- The writes lie one behind the other, and leave these values. -/
structure Renders (target : TextureExtent) (value : Nat → Nat → Nat → UInt8) (accesses : List TextureAccess) : Prop where
  tiles : Tiles 0 target.bytes (writeIntervals accesses)
  value : ∀ destination, ∀ x < target.columns, ∀ y < target.rows, ∀ c < 4,
    leaves destination accesses ((y * target.columns + x) * 4 + c) = value x y c

variable {accesses : List TextureAccess}

theorem leaves_at (h : Tiles 0 last (writeIntervals accesses)) (destination : Nat → UInt8)
    {write : Nat × List UInt8} (hwrite : write ∈ writesOf accesses) {i : Nat} (hi : i < write.2.length) :
    write.2[i]? = some (leaves destination accesses (write.1 + i)) :=
  storeBlocks_ascending (List.pairwise_map.mp h.disjoint) hwrite hi

theorem leaves_outside (h : Tiles 0 last (writeIntervals accesses)) (destination : Nat → UInt8)
    (ha : last ≤ a) : leaves destination accesses a = destination a := by
  refine storeBlocks_outside fun write hwrite => .inr ?_
  have hwithin := (h.within (List.mem_map_of_mem hwrite)).2.2
  exact Nat.le_trans hwithin ha

variable {value value' : Nat → Nat → Nat → UInt8}

theorem Renders.leaves_eq {target : TextureExtent} {accesses accesses' : List TextureAccess}
    (h : Renders target value accesses) (h' : Renders target value' accesses')
    (heq : ∀ x < target.columns, ∀ y < target.rows, ∀ c < 4, value x y c = value' x y c) (destination : Nat → UInt8) :
    leaves destination accesses = leaves destination accesses' := by
  funext a
  by_cases ha : a < target.bytes
  · obtain ⟨x, y, c, hx, hy, hc, rfl⟩ := exists_pixel target.rows ha
    rw [h.value destination x hx y hy c hc, h'.value destination x hx y hy c hc, heq x hx y hy c hc]
  · rw [leaves_outside h.tiles destination (by omega), leaves_outside h'.tiles destination (by omega)]

section
variable {pixels : Nat → UInt8} {source target : TextureExtent}

theorem writesOf_boxAccesses (htarget : target.bytes < 2 ^ 56) :
    writesOf (boxAccesses pixels source target) = (List.range target.rows).flatMap fun y =>
      (List.range target.columns).map fun x =>
      ((y * target.columns + x) * 4, (List.range 4).map (boxChannel pixels source target x y)) := by
  unfold boxAccesses
  rw [writesOf_flatMap]
  refine List.flatMap_congr fun y hy => ?_
  rw [writesOf_flatMap, List.map_eq_flatMap]
  refine List.flatMap_congr fun x hx => ?_
  rw [pixel_wrap htarget (List.mem_range.mp hx) (List.mem_range.mp hy), writesOf_append]
  simp [writesOf]

theorem boxAccesses_renders (htarget : target.bytes < 2 ^ 56) :
    Renders target (boxChannel pixels source target) (boxAccesses pixels source target) := by
  have htiles : Tiles 0 target.bytes (writeIntervals (boxAccesses pixels source target)) := by
    have hrow (y : Nat) : Tiles (y * target.columns * 4) ((y + 1) * target.columns * 4)
        ((List.range target.columns).map fun x => ((y * target.columns + x) * 4, (y * target.columns + (x + 1)) * 4)) := by
      have h := Tiles.map_range (f := fun x => (y * target.columns + x) * 4) (n := target.columns) fun x _ => by omega
      rwa [Nat.add_zero, ← Nat.succ_mul] at h
    have hall := Tiles.flatMap_range (f := fun y => y * target.columns * 4) (n := target.rows) fun y _ => hrow y
    rw [writeIntervals, writesOf_boxAccesses htarget, List.map_flatMap]
    rw [Nat.zero_mul, Nat.zero_mul, Nat.mul_comm target.rows] at hall
    refine cast (congrArg (Tiles 0 target.bytes) (List.flatMap_congr fun y _ => ?_)) hall
    rw [List.map_map]
    refine List.map_congr_left fun x _ => ?_
    simp only [Function.comp_apply, List.length_map, List.length_range, Prod.mk.injEq, true_and]
    omega
  refine ⟨htiles, fun destination x hx y hy c hc => ?_⟩
  have hmem : ((y * target.columns + x) * 4, (List.range 4).map (boxChannel pixels source target x y)) ∈
      writesOf (boxAccesses pixels source target) := by
    rw [writesOf_boxAccesses htarget]
    exact List.mem_flatMap.mpr ⟨y, List.mem_range.mpr hy, List.mem_map.mpr ⟨x, List.mem_range.mpr hx, rfl⟩⟩
  have hvalue := leaves_at htiles destination hmem (i := c) (by simpa using hc)
  rw [List.getElem?_map, List.getElem?_range hc, Option.map_some, Option.some.injEq] at hvalue
  exact hvalue.symm

theorem copyAccesses_renders (htarget : target.bytes < 2 ^ 56) (hpos : 0 < target.bytes) :
    Renders target (fun x y c => pixels ((y * target.columns + x) * 4 + c)) (copyAccesses pixels target) := by
  have hsize : wrap64 (wrap64 (target.columns * target.rows) * 4) = target.bytes := by
    unfold TextureExtent.bytes at htarget ⊢
    rw [wrap64_eq (n := target.columns * target.rows) (by omega), wrap64_eq htarget]
  have hwrites : writesOf (copyAccesses pixels target) = [(0, cellsAt pixels 0 target.bytes)] := by
    unfold copyAccesses
    rw [hsize]
    rfl
  have htiles : Tiles 0 target.bytes (writeIntervals (copyAccesses pixels target)) := by
    rw [writeIntervals, hwrites]
    simpa using Tiles.cons hpos (.nil target.bytes)
  refine ⟨htiles, fun destination x hx y hy c hc => ?_⟩
  have hle := pixel_le hx hy
  have hin : (y * target.columns + x) * 4 + c < target.bytes := by
    unfold TextureExtent.bytes
    omega
  have hvalue := leaves_at htiles destination (hwrites ▸ List.mem_singleton_self _) (i := (y * target.columns + x) * 4 + c)
    (by simpa using hin)
  rw [getElem?_cellsAt _ _ hin, Option.some.injEq, Nat.zero_add] at hvalue
  exact hvalue.symm

/-! ## Repeated pixels -/

/-- The target is the source with its columns and rows repeated. -/
structure Multiplies (source target : TextureExtent) (across down : Nat) : Prop where
  across_pos : 0 < across
  down_pos : 0 < down
  columns : target.columns = source.columns * across
  rows : target.rows = source.rows * down

variable {across down : Nat}

theorem Multiplies.columns_div (hm : Multiplies source target across down) (h : Resizes source target) :
    target.columns / source.columns = across := by rw [hm.columns, Nat.mul_div_cancel_left _ h.columns]

theorem Multiplies.rows_div (hm : Multiplies source target across down) (h : Resizes source target) :
    target.rows / source.rows = down := by rw [hm.rows, Nat.mul_div_cancel_left _ h.rows]

theorem repeated_lt {m i j : Nat} (hi : i < n) (hj : j < m) : i * m + j < n * m := by
  have hle : (i + 1) * m ≤ n * m := Nat.mul_le_mul_right _ hi
  rw [Nat.succ_mul] at hle
  omega

theorem rowCopies_eq (h : Resizes source target) (hm : Multiplies source target across down) {y : Nat} (hy : y < source.rows) :
    rowCopies source target y = (List.range source.columns).flatMap fun x => (List.range across).map fun repeated =>
      ⟨(x * across + repeated) * 4, (y * source.columns + x) * 4, 4⟩ := by
  have hbytes := h.source_bytes
  have hwide : target.columns < 2 ^ 32 := target.width.toNat_lt
  unfold TextureExtent.bytes at hbytes
  unfold rowCopies
  rw [hm.columns_div h]
  refine List.flatMap_congr fun x hx => List.map_congr_left fun repeated hrepeated => ?_
  have hx := List.mem_range.mp hx
  have hrepeated := List.mem_range.mp hrepeated
  have hle := pixel_le hx hy
  have hlt := repeated_lt hx hrepeated
  rw [← hm.columns] at hlt
  rw [wrap64_eq (n := x * across) (by omega), wrap64_eq (n := x * across + repeated) (by omega), wrap64_eq (by omega),
    wrap64_eq (n := y * source.columns) (by omega), wrap64_eq (n := y * source.columns * 4) (by omega), wrap64_eq (by omega)]
  rw [BlockCopy.mk.injEq]
  exact ⟨rfl, by omega, rfl⟩

theorem rowCopies_tile (h : Resizes source target) (hm : Multiplies source target across down) {y : Nat} (hy : y < source.rows) :
    Tiles 0 (target.columns * 4) ((rowCopies source target y).map fun copy => (copy.target, copy.target + copy.size)) := by
  have hpixel (x : Nat) : Tiles (x * across * 4) ((x + 1) * across * 4)
      ((List.range across).map fun repeated => ((x * across + repeated) * 4, (x * across + (repeated + 1)) * 4)) := by
    have h := Tiles.map_range (f := fun repeated => (x * across + repeated) * 4) (n := across) fun repeated _ => by omega
    rwa [Nat.add_zero, ← Nat.succ_mul] at h
  have hall := Tiles.flatMap_range (f := fun x => x * across * 4) (n := source.columns) fun x _ => hpixel x
  rw [Nat.zero_mul, Nat.zero_mul, ← hm.columns] at hall
  rw [rowCopies_eq h hm hy, List.map_flatMap]
  refine cast (congrArg (Tiles 0 (target.columns * 4)) (List.flatMap_congr fun x _ => ?_)) hall
  rw [List.map_map]
  refine List.map_congr_left fun repeated _ => ?_
  simp only [Function.comp_apply, Prod.mk.injEq, true_and]
  omega

theorem row_value (h : Resizes source target) (hm : Multiplies source target across down) {x y c : Nat} (hy : y < source.rows)
    (hx : x < target.columns) (hc : c < 4) :
    copyAll pixels (fun _ => 0) (rowCopies source target y) (x * 4 + c) = pixels ((y * source.columns + x / across) * 4 + c) := by
  have hdiv : x / across < source.columns := Nat.div_lt_of_lt_mul (by rw [Nat.mul_comm, ← hm.columns]; exact hx)
  have hmem : (⟨x * 4, (y * source.columns + x / across) * 4, 4⟩ : BlockCopy) ∈ rowCopies source target y := by
    rw [rowCopies_eq h hm hy]
    refine List.mem_flatMap.mpr ⟨x / across, List.mem_range.mpr hdiv, List.mem_map.mpr ⟨x % across, ?_, ?_⟩⟩
    · exact List.mem_range.mpr (Nat.mod_lt _ hm.across_pos)
    · rw [Nat.mul_comm (x / across), Nat.div_add_mod]
  exact copyAll_ascending (List.pairwise_map.mp (rowCopies_tile h hm hy).disjoint) hmem hc

theorem writesOf_enlargeAccesses (h : Resizes source target) (hm : Multiplies source target across down) :
    writesOf (enlargeAccesses pixels source target) = (List.range source.rows).flatMap fun y =>
      (List.range down).map fun repeated =>
      ((y * down + repeated) * (target.columns * 4),
        cellsAt (copyAll pixels (fun _ => 0) (rowCopies source target y)) 0 (target.columns * 4)) := by
  have hbytes := h.target_bytes
  have hwide : target.columns < 2 ^ 32 := target.width.toNat_lt
  have hrow : wrap64 (target.columns * 4) = target.columns * 4 := wrap64_eq (by omega)
  unfold enlargeAccesses
  rw [hm.rows_div h, writesOf_flatMap]
  refine List.flatMap_congr fun y hy => ?_
  rw [writesOf_append, writesOf_reads, List.nil_append, hrow]
  simp only [writesOf, List.filterMap_map, Function.comp_def]
  rw [List.filterMap_eq_map']
  refine List.map_congr_left fun repeated hrepeated => ?_
  have hlt := repeated_lt (List.mem_range.mp hy) (List.mem_range.mp hrepeated)
  have hsum : (y * down + repeated) * (target.columns * 4) ≤ target.bytes :=
    calc (y * down + repeated) * (target.columns * 4) ≤ target.rows * (target.columns * 4) :=
          Nat.mul_le_mul_right _ (by rw [hm.rows]; omega)
      _ = target.bytes := by rw [← Nat.mul_assoc, Nat.mul_comm target.rows, TextureExtent.bytes]
  rw [Nat.add_mul] at hsum
  have hdown : y * down < 2 ^ 56 := by
    have : target.rows < 2 ^ 32 := target.height.toNat_lt
    rw [hm.rows] at this
    omega
  rw [wrap64_eq hdown, wrap64_eq (by omega), wrap64_eq (n := repeated * _) (by omega), Nat.add_mul]

theorem enlargeAccesses_renders (h : Resizes source target) (hm : Multiplies source target across down) :
    Renders target (fun x y c => pixels ((y / down * source.columns + x / across) * 4 + c))
      (enlargeAccesses pixels source target) := by
  have hwide : 0 < target.columns * 4 := by
    rw [hm.columns]
    exact Nat.mul_pos (Nat.mul_pos h.columns hm.across_pos) (by decide)
  have htiles : Tiles 0 target.bytes (writeIntervals (enlargeAccesses pixels source target)) := by
    have hrow (y : Nat) : Tiles (y * down * (target.columns * 4)) ((y + 1) * down * (target.columns * 4))
        ((List.range down).map fun repeated =>
          ((y * down + repeated) * (target.columns * 4), (y * down + (repeated + 1)) * (target.columns * 4))) := by
      have h := Tiles.map_range (f := fun repeated => (y * down + repeated) * (target.columns * 4)) (n := down)
        fun repeated _ => Nat.mul_lt_mul_of_pos_right (by omega) hwide
      rwa [Nat.add_zero, ← Nat.succ_mul] at h
    have hall := Tiles.flatMap_range (f := fun y => y * down * (target.columns * 4)) (n := source.rows) fun y _ => hrow y
    rw [Nat.zero_mul, Nat.zero_mul, ← hm.rows, ← Nat.mul_assoc, Nat.mul_comm target.rows] at hall
    rw [writeIntervals, writesOf_enlargeAccesses h hm, List.map_flatMap]
    refine cast (congrArg (Tiles 0 target.bytes) (List.flatMap_congr fun y _ => ?_)) hall
    rw [List.map_map]
    refine List.map_congr_left fun repeated _ => ?_
    simp only [Function.comp_apply, length_cellsAt, Prod.mk.injEq, true_and]
    rw [← Nat.add_assoc, Nat.succ_mul]
  refine ⟨htiles, fun destination x hx y hy c hc => ?_⟩
  have hdiv : y / down < source.rows := Nat.div_lt_of_lt_mul (by rw [Nat.mul_comm, ← hm.rows]; exact hy)
  have hplace : y / down * down + y % down = y := by rw [Nat.mul_comm, Nat.div_add_mod]
  have hmem : (y * (target.columns * 4), cellsAt (copyAll pixels (fun _ => 0) (rowCopies source target (y / down))) 0
      (target.columns * 4)) ∈
      writesOf (enlargeAccesses pixels source target) := by
    rw [writesOf_enlargeAccesses h hm]
    refine List.mem_flatMap.mpr ⟨y / down, List.mem_range.mpr hdiv, List.mem_map.mpr ⟨y % down, ?_, ?_⟩⟩
    · exact List.mem_range.mpr (Nat.mod_lt _ hm.down_pos)
    · rw [hplace]
  have hin : x * 4 + c < target.columns * 4 := by omega
  have hvalue := leaves_at htiles destination hmem (i := x * 4 + c) (by simpa using hin)
  rw [getElem?_cellsAt _ _ hin, Option.some.injEq, Nat.zero_add, row_value h hm hdiv hx hc] at hvalue
  rw [hvalue]
  congr 1
  rw [← Nat.mul_assoc]
  omega

/-! ## All ways -/

theorem Renders.congr (h : Renders target value accesses)
    (heq : ∀ x < target.columns, ∀ y < target.rows, ∀ c < 4, value x y c = value' x y c) : Renders target value' accesses :=
  ⟨h.tiles, fun destination x hx y hy c hc => (h.value destination x hx y hy c hc).trans (heq x hx y hy c hc)⟩

theorem Multiplies.boxChannel_eq (hm : Multiplies source target across down) (h : Resizes source target) {x y : Nat}
    (hx : x < target.columns) (hy : y < target.rows) (c : Nat) :
    boxChannel pixels source target x y c = pixels ((y / down * source.columns + x / across) * 4 + c) := by
  refine boxChannel_single h hx hy ?_ ?_ c
  · rw [hm.columns]
    exact box_multiple h.columns hm.across_pos x
  · rw [hm.rows]
    exact box_multiple h.rows hm.down_pos y

theorem multiplies_of_mod (h : Resizes source target) (hcolumns : 0 < target.columns) (hrows : 0 < target.rows)
    (hmod : target.columns % source.columns = 0 ∧ target.rows % source.rows = 0) :
    Multiplies source target (target.columns / source.columns) (target.rows / source.rows) :=
  ⟨Nat.div_pos (Nat.le_of_dvd hcolumns (Nat.dvd_of_mod_eq_zero hmod.1)) h.columns,
    Nat.div_pos (Nat.le_of_dvd hrows (Nat.dvd_of_mod_eq_zero hmod.2)) h.rows,
    (Nat.mul_div_cancel' (Nat.dvd_of_mod_eq_zero hmod.1)).symm, (Nat.mul_div_cancel' (Nat.dvd_of_mod_eq_zero hmod.2)).symm⟩

theorem toNat_eq_zero_iff {n : UInt32} : n = 0 ↔ n.toNat = 0 := by
  rw [← UInt32.toNat_inj]
  rfl

theorem resampleRgba_cases (pixels : Nat → UInt8) (h : Resizes source target) :
    (target.bytes = 0 ∧ resampleRgba pixels source target = []) ∨
    (0 < target.columns ∧ 0 < target.rows ∧
      ((source = target ∧ resampleRgba pixels source target = copyAccesses pixels target) ∨
        ((target.columns % source.columns = 0 ∧ target.rows % source.rows = 0) ∧
          resampleRgba pixels source target = enlargeAccesses pixels source target) ∨
        resampleRgba pixels source target = boxAccesses pixels source target)) := by
  have hwidth : source.width ≠ 0 := fun h0 => by
    have := h.columns
    rw [TextureExtent.columns, toNat_eq_zero_iff.mp h0] at this
    omega
  have hheight : source.height ≠ 0 := fun h0 => by
    have := h.rows
    rw [TextureExtent.rows, toNat_eq_zero_iff.mp h0] at this
    omega
  unfold resampleRgba
  split
  · rename_i hempty
    refine .inl ⟨?_, rfl⟩
    rcases hempty with h0 | h0 | h0 | h0
    · rw [TextureExtent.bytes, TextureExtent.columns, toNat_eq_zero_iff.mp h0, Nat.zero_mul, Nat.zero_mul]
    · rw [TextureExtent.bytes, TextureExtent.rows, toNat_eq_zero_iff.mp h0, Nat.mul_zero, Nat.zero_mul]
    · exact absurd h0 hwidth
    · exact absurd h0 hheight
  · rename_i hfull
    rw [not_or, not_or] at hfull
    refine .inr ⟨Nat.pos_of_ne_zero fun h0 => hfull.1 (toNat_eq_zero_iff.mpr h0),
      Nat.pos_of_ne_zero fun h0 => hfull.2.1 (toNat_eq_zero_iff.mpr h0), ?_⟩
    split
    · rename_i hsame
      refine .inl ⟨?_, rfl⟩
      cases source
      cases target
      exact TextureExtent.mk.injEq .. ▸ ⟨hsame.1.symm, hsame.2.symm⟩
    · split
      · rename_i hmod
        exact .inr (.inl ⟨hmod, rfl⟩)
      · exact .inr (.inr rfl)

theorem resampleRgba_renders (pixels : Nat → UInt8) (h : Resizes source target) :
    Renders target (boxChannel pixels source target) (resampleRgba pixels source target) := by
  rcases resampleRgba_cases pixels h with ⟨hzero, heq⟩ | ⟨hcolumns, hrows, ⟨rfl, heq⟩ | ⟨hmod, heq⟩ | heq⟩
  · rw [heq]
    refine ⟨?_, fun destination x hx y hy c hc => ?_⟩
    · rw [hzero]
      exact .nil 0
    · have hle := pixel_le hx hy
      unfold TextureExtent.bytes at hzero
      omega
  · rw [heq]
    have hm : Multiplies source source 1 1 := ⟨Nat.one_pos, Nat.one_pos, (Nat.mul_one _).symm, (Nat.mul_one _).symm⟩
    refine (copyAccesses_renders h.target_bytes (Nat.mul_pos (Nat.mul_pos hcolumns hrows) (by decide))).congr
      fun x hx y hy c _ => ?_
    rw [hm.boxChannel_eq h hx hy, Nat.div_one, Nat.div_one]
  · rw [heq]
    have hm := multiplies_of_mod h hcolumns hrows hmod
    exact (enlargeAccesses_renders h hm).congr fun x hx y hy c _ => (hm.boxChannel_eq h hx hy c).symm
  · rw [heq]
    exact boxAccesses_renders h.target_bytes

theorem resampleRgba_reads (pixels : Nat → UInt8) (h : Resizes source target) :
    ∀ r ∈ readIntervals (resampleRgba pixels source target), r.2 ≤ source.bytes := by
  rcases resampleRgba_cases pixels h with ⟨-, heq⟩ | ⟨hcolumns, hrows, ⟨rfl, heq⟩ | ⟨hmod, heq⟩ | heq⟩
  · rw [heq]
    exact nofun
  · intro r hr
    rw [heq] at hr
    obtain rfl := List.mem_singleton.mp hr
    have hbytes := h.source_bytes
    unfold TextureExtent.bytes at hbytes ⊢
    dsimp only
    rw [wrap64_eq (n := source.columns * source.rows) (by omega), wrap64_eq hbytes, Nat.zero_add]
  · intro r hr
    have hm := multiplies_of_mod h hcolumns hrows hmod
    rw [heq, enlargeAccesses, readIntervals_flatMap] at hr
    obtain ⟨y, hy, hr⟩ := List.mem_flatMap.mp hr
    rw [readIntervals_append, readIntervals_writes, List.append_nil, rowCopies_eq h hm (List.mem_range.mp hy)] at hr
    simp only [readIntervals, List.mem_filterMap, List.mem_map, List.mem_flatMap, List.mem_range] at hr
    obtain ⟨_, ⟨_, ⟨x, hx, repeated, -, rfl⟩, rfl⟩, hr⟩ := hr
    cases hr
    exact pixel_le hx (List.mem_range.mp hy)
  · intro r hr
    rw [heq, boxAccesses, readIntervals_flatMap] at hr
    obtain ⟨y, hy, hr⟩ := List.mem_flatMap.mp hr
    rw [readIntervals_flatMap] at hr
    obtain ⟨x, hx, hr⟩ := List.mem_flatMap.mp hr
    have hx := List.mem_range.mp hx
    have hy := List.mem_range.mp hy
    simp only [readIntervals, List.filterMap_append, List.mem_append, List.mem_filterMap, List.mem_map, List.mem_singleton] at hr
    rcases hr with ⟨_, ⟨offset, hoffset, rfl⟩, hr⟩ | ⟨_, rfl, hr⟩
    · cases hr
      obtain ⟨sx, sy, hbox, rfl⟩ := (mem_boxOffsets h hx hy).mp hoffset
      obtain ⟨hsx, hsy⟩ := hbox.inside h hx hy
      exact pixel_le hsx hsy
    · cases hr

/-- A source pixel is in the box of one target pixel. -/
theorem boxes_partition (htarget : 0 < target.bytes) (hcolumns : target.columns ≤ source.columns)
    (hrows : target.rows ≤ source.rows) (hsx : sx < source.columns) (hsy : sy < source.rows) :
    ∃! p : Nat × Nat, (p.1 < target.columns ∧ p.2 < target.rows) ∧ InBox source target p.1 p.2 sx sy := by
  have hpos : 0 < target.columns ∧ 0 < target.rows := by
    unfold TextureExtent.bytes at htarget
    exact ⟨Nat.pos_of_ne_zero fun h0 => by simp [h0] at htarget, Nat.pos_of_ne_zero fun h0 => by simp [h0] at htarget⟩
  -- along one axis there is one box
  have haxis : ∀ {s t i : Nat}, 0 < t → t ≤ s → i < s → ∃ j < t, (boxFirst s t j ≤ i ∧ i < boxLast s t j) ∧
      ∀ k < t, (boxFirst s t k ≤ i ∧ i < boxLast s t k) → k = j := by
    intro s t i ht hle hi
    have htiles := boxes_tile ht hle
    obtain ⟨interval, hmem, hin⟩ := htiles.covers (Nat.zero_le i) hi
    obtain ⟨j, hj, rfl⟩ := List.mem_map.mp hmem
    have hj := List.mem_range.mp hj
    have hget : ∀ k < t, ((List.range t).map fun i => (boxFirst s t i, boxLast s t i))[k]? =
        some (boxFirst s t k, boxLast s t k) := by
      intro k hk
      rw [List.getElem?_map, List.getElem?_range hk]
      rfl
    exact ⟨j, hj, hin, fun k hk hin' => htiles.unique (hget k hk) (hget j hj) hin' hin⟩
  obtain ⟨x, hx, hinx, hunique⟩ := haxis hpos.1 hcolumns hsx
  obtain ⟨y, hy, hiny, hunique'⟩ := haxis hpos.2 hrows hsy
  refine ⟨(x, y), ⟨⟨hx, hy⟩, (inBox_iff hx hy).mpr ⟨hinx, hiny⟩⟩, ?_⟩
  rintro ⟨x', y'⟩ ⟨⟨hx', hy'⟩, hbox⟩
  obtain ⟨hinx', hiny'⟩ := (inBox_iff hx' hy').mp hbox
  rw [hunique x' hx' hinx', hunique' y' hy' hiny']

end

/-- A source with pixels is read within its bytes; the writes make up the target; all ways leave
    what the boxes give, which is between the bounds of each box and constant for a constant
    source; the boxes of a target that has pixels and is not larger make up the source; and an
    image whose bytes are there is not read beyond them. -/
theorem resampled_boxes (pixels : Nat → UInt8) {source target : TextureExtent} (hcolumns : 0 < source.columns)
    (hrows : 0 < source.rows) (hsource : source.bytes < 2 ^ 56) (htarget : target.bytes < 2 ^ 56) :
    (∀ r ∈ readIntervals (resampleRgba pixels source target), r.2 ≤ source.bytes) ∧
    Tiles 0 target.bytes (writeIntervals (resampleRgba pixels source target)) ∧
    (∀ destination, leaves destination (resampleRgba pixels source target) =
      leaves destination (boxAccesses pixels source target)) ∧
    (∀ destination, ∀ x < target.columns, ∀ y < target.rows, ∀ c < 4, ∀ lo hi : UInt8,
      (∀ sx sy, InBox source target x y sx sy →
        lo ≤ pixels ((sy * source.columns + sx) * 4 + c) ∧ pixels ((sy * source.columns + sx) * 4 + c) ≤ hi) →
      lo ≤ leaves destination (resampleRgba pixels source target) ((y * target.columns + x) * 4 + c) ∧
        leaves destination (resampleRgba pixels source target) ((y * target.columns + x) * 4 + c) ≤ hi) ∧
    (∀ value : Nat → UInt8, (∀ sx < source.columns, ∀ sy < source.rows, ∀ c < 4,
      pixels ((sy * source.columns + sx) * 4 + c) = value c) →
      ∀ destination, ∀ x < target.columns, ∀ y < target.rows, ∀ c < 4,
        leaves destination (resampleRgba pixels source target) ((y * target.columns + x) * 4 + c) = value c) ∧
    (0 < target.bytes → target.columns ≤ source.columns → target.rows ≤ source.rows →
      (∀ sx < source.columns, ∀ sy < source.rows,
        ∃! p : Nat × Nat, (p.1 < target.columns ∧ p.2 < target.rows) ∧ InBox source target p.1 p.2 sx sy) ∧
      (∀ x < target.columns, ∀ y < target.rows, ∀ sx sy, InBox source target x y sx sy → sx < source.columns ∧
        sy < source.rows)) ∧ (∀ image : RgbaImage, image.extent = source →
      ∀ r ∈ readIntervals (resampleImage image target), r.2 ≤ image.pixels.length) := by
  have h : Resizes source target := ⟨hcolumns, hrows, hsource, htarget⟩
  have hrenders := resampleRgba_renders pixels h
  refine ⟨resampleRgba_reads pixels h, hrenders.tiles, ?_, ?_, ?_, ?_, ?_⟩
  · exact hrenders.leaves_eq (boxAccesses_renders htarget) fun _ _ _ _ _ _ => rfl
  · intro destination x hx y hy c hc lo hi hbox
    rw [hrenders.value destination x hx y hy c hc]
    exact boxChannel_between h hx hy hbox
  · intro value hvalue destination x hx y hy c hc
    have hbetween : value c ≤ boxChannel pixels source target x y c ∧ boxChannel pixels source target x y c ≤ value c := by
      refine boxChannel_between h hx hy fun sx sy hin => ?_
      obtain ⟨hsx, hsy⟩ := hin.inside h hx hy
      rw [hvalue sx hsx sy hsy c hc]
      exact ⟨UInt8.le_refl _, UInt8.le_refl _⟩
    rw [hrenders.value destination x hx y hy c hc]
    exact UInt8.le_antisymm hbetween.2 hbetween.1
  · intro hpos hnarrow hlow
    exact ⟨fun sx hsx sy hsy => boxes_partition hpos hnarrow hlow hsx hsy, fun x hx y hy sx sy hin => hin.inside h hx hy⟩
  · rintro image rfl r hr
    unfold resampleImage at hr
    have hwrap : wrap64 (wrap64 (image.extent.columns * image.extent.rows) * 4) = image.extent.bytes := by
      unfold TextureExtent.bytes at hsource ⊢
      rw [wrap64_eq (n := image.extent.columns * image.extent.rows) (by omega), wrap64_eq hsource]
    split at hr
    · cases hr
    · rename_i hlength
      have hle := resampleRgba_reads _ h r hr
      omega

/-- Two pixels brought to one. -/
theorem resampled_boxes_halved :
    writesOf (resampleRgba (fun a => UInt8.ofNat a) ⟨2, 1⟩ ⟨1, 1⟩) = [(0, [2, 3, 4, 5])] ∧
      ∀ r ∈ readIntervals (resampleRgba (fun a => UInt8.ofNat a) ⟨2, 1⟩ ⟨1, 1⟩), r.2 ≤ TextureExtent.bytes ⟨2, 1⟩ :=
  ⟨by decide, (@resampled_boxes (fun a => UInt8.ofNat a) ⟨2, 1⟩ ⟨1, 1⟩ (by decide) (by decide) (by decide) (by decide)).1⟩

/-- A source without pixels leaves the pixel of its target unwritten, and a target without
    pixels has no box for the pixel of its source. -/
theorem empty_extents_unwritten :
    ¬Tiles 0 (TextureExtent.bytes ⟨1, 1⟩) (writeIntervals (resampleRgba (fun _ => 0) ⟨0, 0⟩ ⟨1, 1⟩)) ∧
      ¬∃ p : Nat × Nat, (p.1 < TextureExtent.columns ⟨0, 0⟩ ∧ p.2 < TextureExtent.rows ⟨0, 0⟩) ∧
      InBox ⟨1, 1⟩ ⟨0, 0⟩ p.1 p.2 0 0 := by
  constructor
  · intro h
    cases h
  · rintro ⟨p, ⟨hp, -⟩, -⟩
    exact absurd hp (Nat.not_lt_zero _)

end Mocktail.Graphics

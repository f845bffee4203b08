/-
  Mocktail.Graphics.OverlayPlacement — where the text overlay goes on the presented images
  (`BuildWorkItems` in `vulkan_text_overlay_compositor.cc`).

  The frame of the overlay has a position in a coordinate space that the images of a swapchain
  are scaled to. For each presented image that can be drawn on, the part of the frame that is
  visible in the space is the source of a blit and the scaled part, rounded outwards, its target.

  The source computes with 64 bits, signed for the clipping and unsigned for the scaling. The
  model computes with integers and stops where a result does not fit (`i64`, `u64`), so that a
  run that gives a result has not overflowed anywhere. A pointer to an image is the place of its
  swapchain and its own place in it.
-/

import Mathlib.Data.Nat.Cast.Order.Field
import Mathlib.Tactic.NormNum

namespace Mocktail.Graphics

/-! ## Numbers -/

/-- A result of type `std::int64_t`. -/
def i64 (v : Int) : Option Int := if -2 ^ 63 ≤ v ∧ v < 2 ^ 63 then some v else none

/-- A result of type `std::uint64_t`. -/
def u64 (v : Int) : Option Nat := if 0 ≤ v ∧ v < 2 ^ 64 then some v.toNat else none

/-- `std::numeric_limits<int>::max()`. -/
def kIntMax : Nat := 2 ^ 31 - 1

theorem i64_eq {v : Int} (hlow : -2 ^ 63 ≤ v) (hhigh : v < 2 ^ 63) : i64 v = some v := if_pos ⟨hlow, hhigh⟩

theorem u64_natCast {n : Nat} (h : n < 2 ^ 64) : u64 n = some n := by
  rw [u64, if_pos (by omega), Int.toNat_natCast]

theorem u64_pred {n : Nat} (hpos : 0 < n) (h : n < 2 ^ 64) : u64 ((n : Int) - 1) = some (n - 1) := by
  rw [u64, if_pos (by omega)]
  congr 1
  omega

/-! ## One axis -/

structure AxisClip where
  source0 : Int
  logical0 : Int
  visible : Int
  deriving DecidableEq, Repr

def clipAxis (position : Int32) (size coordinate : UInt32) : Option AxisClip := do
  let negated ← i64 (-position.toInt)
  let source0 := max 0 negated
  let logical0 := max 0 position.toInt
  let inFrame ← i64 (size.toNat - source0)
  let inSpace ← i64 (coordinate.toNat - logical0)
  return { source0, logical0, visible := min inFrame inSpace }

def scaleAxis (clip : AxisClip) (extent coordinate : UInt32) : Option (Nat × Nat) := do
  let low ← u64 (clip.logical0.toNat * extent.toNat)
  let logical1 ← i64 (clip.logical0 + clip.visible)
  let scaled ← u64 (logical1.toNat * extent.toNat)
  let raised ← u64 (scaled + coordinate.toNat)
  let high ← u64 (raised - 1)
  return (low / coordinate.toNat, high / coordinate.toNat)

/-! ## Work items -/

structure OverlayFrame where
  x : Int32
  y : Int32
  width : UInt32
  height : UInt32
  coordinateWidth : UInt32
  coordinateHeight : UInt32
  deriving DecidableEq, Repr

structure Rect where
  x0 : Int
  y0 : Int
  x1 : Int
  y1 : Int
  deriving DecidableEq, Repr

structure SwapchainExtent where
  width : UInt32
  height : UInt32
  deriving DecidableEq, Repr

/-- The two rectangles of a blit; the inner `none` is an image that is left out. -/
def placeOverlay (frame : OverlayFrame) (extent : SwapchainExtent) : Option (Option (Rect × Rect)) := do
  let across ← clipAxis frame.x frame.width frame.coordinateWidth
  let down ← clipAxis frame.y frame.height frame.coordinateHeight
  if across.visible ≤ 0 ∨ down.visible ≤ 0 ∨ kIntMax < across.source0 ∨ kIntMax < down.source0 ∨
      kIntMax < across.visible ∨ kIntMax < down.visible then
    return none
  let columns ← scaleAxis across extent.width frame.coordinateWidth
  let rows ← scaleAxis down extent.height frame.coordinateHeight
  if columns.2 ≤ columns.1 ∨ rows.2 ≤ rows.1 ∨ extent.width.toNat < columns.2 ∨ extent.height.toNat < rows.2 ∨
      kIntMax < columns.2 ∨ kIntMax < rows.2 then
    return none
  let x1 ← i64 (across.source0 + across.visible)
  let y1 ← i64 (down.source0 + down.visible)
  return some (⟨across.source0, down.source0, x1, y1⟩, ⟨columns.1, rows.1, columns.2, rows.2⟩)

/-- Whether an image is held, and which of its handles there are. -/
structure OverlayImage where
  heldByHost : Bool
  target : Bool
  bridge : Bool
  done : Bool
  deriving DecidableEq, Repr

structure OverlaySwapchain where
  handle : Nat
  enabled : Bool
  extent : SwapchainExtent
  images : List OverlayImage
  deriving DecidableEq, Repr

structure OverlayDevice where
  graphicsQueueFamily : Nat
  swapchains : List OverlaySwapchain
  deriving DecidableEq, Repr

/-- A pointer to an image. -/
structure ImageRef where
  swapchain : Nat
  image : Nat
  deriving DecidableEq, Repr

structure WorkItem where
  image : ImageRef
  sourceRect : Rect
  targetRect : Rect
  deriving DecidableEq, Repr

/-- A present request: null pointers, or a swapchain and an image index for each entry. -/
structure PresentInfo where
  swapchains : Option (List Nat)
  imageIndices : Option (List UInt32)
  deriving DecidableEq, Repr

def findSwapchain (device : OverlayDevice) (handle : Nat) : Option (Nat × OverlaySwapchain) := do
  let place ← device.swapchains.findIdx? (·.handle == handle)
  let swapchain ← device.swapchains[place]?
  return (place, swapchain)

def OverlayImage.usable (image : OverlayImage) : Bool := image.heldByHost && image.target && image.bridge && image.done

/-- One entry of the request; the outer `none` is an overflow. -/
def buildWorkItem (device : OverlayDevice) (frame : OverlayFrame) (items : List WorkItem) (handle : Nat) (index : UInt32) :
    Option (List WorkItem) :=
  match findSwapchain device handle with
  | none => some items
  | some (place, swapchain) =>
    if swapchain.enabled = false then some items
    else
      match swapchain.images[index.toNat]? with
      | none => some items
      | some image =>
        if image.usable = false then some items
        else if items.any (·.image == ⟨place, index.toNat⟩) then some items
        else
          match placeOverlay frame swapchain.extent with
          | none => none
          | some none => some items
          | some (some (sourceRect, targetRect)) => some (items ++ [⟨⟨place, index.toNat⟩, sourceRect, targetRect⟩])

def buildEntries (device : OverlayDevice) (frame : OverlayFrame) : List WorkItem → List (Nat × UInt32) → Option (List WorkItem)
  | items, [] => some items
  | items, (handle, index) :: entries =>
    match buildWorkItem device frame items handle index with
    | none => none
    | some items => buildEntries device frame items entries

/-- What is returned and the work items, which start empty. -/
def buildWorkItems (device : Option OverlayDevice) (queueFamily : Option Nat) (present : PresentInfo) (frame : OverlayFrame) :
    Option (Bool × List WorkItem) :=
  match device, queueFamily, present.swapchains, present.imageIndices with
  | some device, some family, some handles, some indices =>
    if family ≠ device.graphicsQueueFamily ∨ frame.coordinateWidth = 0 ∨ frame.coordinateHeight = 0 ∨ handles = [] then
      some (false, [])
    else (buildEntries device frame [] (handles.zip indices)).map fun items => (!items.isEmpty, items)
  | _, _, _, _ => some (false, [])

/-! ## Nothing overflows -/

theorem clipAxis_eq (position : Int32) (size coordinate : UInt32) :
    clipAxis position size coordinate = some ⟨max 0 (-position.toInt), max 0 position.toInt,
      min (size.toNat - max 0 (-position.toInt)) (coordinate.toNat - max 0 position.toInt)⟩ := by
  have hlow := position.le_toInt
  have hhigh := position.toInt_lt
  have hsize := size.toNat_lt
  have hcoordinate := coordinate.toNat_lt
  have hnegated : i64 (-position.toInt) = some (-position.toInt) := i64_eq (by omega) (by omega)
  have hframe : i64 (size.toNat - max 0 (-position.toInt)) = some (size.toNat - max 0 (-position.toInt)) :=
    i64_eq (by omega) (by omega)
  have hspace : i64 (coordinate.toNat - max 0 position.toInt) = some (coordinate.toNat - max 0 position.toInt) :=
    i64_eq (by omega) (by omega)
  simp only [clipAxis, hnegated, hframe, hspace, Option.bind_eq_bind, Option.bind_some, Option.pure_def]

/-- The scaled ends of what is visible, rounded outwards. -/
theorem scaleAxis_eq {clip : AxisClip} {extent coordinate : UInt32} {first last : Nat} (hfirst : clip.logical0 = first)
    (hlast : clip.logical0 + clip.visible = last) (hle : first ≤ last) (hcoordinate : last ≤ coordinate.toNat)
    (hpos : 0 < coordinate.toNat) :
    scaleAxis clip extent coordinate =
      some (first * extent.toNat / coordinate.toNat, (last * extent.toNat + coordinate.toNat - 1) / coordinate.toNat) := by
  have hwide := coordinate.toNat_lt
  have hextent := extent.toNat_lt
  have hhigh : last * extent.toNat ≤ 0xffffffff * 0xffffffff := Nat.mul_le_mul (by omega) (by omega)
  have hlow : first * extent.toNat ≤ last * extent.toNat := Nat.mul_le_mul_right _ hle
  have hlogical : i64 last = some (last : Int) := i64_eq (by omega) (by omega)
  have hscaled (n : Nat) (hn : n * extent.toNat ≤ last * extent.toNat) : u64 (n * extent.toNat) = some (n * extent.toNat) := by
    rw [← Int.natCast_mul, u64_natCast (by omega)]
  have hraised : u64 ((last * extent.toNat : Nat) + coordinate.toNat) = some (last * extent.toNat + coordinate.toNat) := by
    rw [← Int.natCast_add, u64_natCast (by omega)]
  have hless : u64 ((last * extent.toNat + coordinate.toNat : Nat) - 1) = some (last * extent.toNat + coordinate.toNat - 1) :=
    u64_pred (by omega) (by omega)
  unfold scaleAxis
  refine Option.bind_eq_some_iff.mpr ⟨first * extent.toNat, by rw [hfirst]; exact hscaled first hlow, ?_⟩
  refine Option.bind_eq_some_iff.mpr ⟨last, by rw [hlast]; exact hlogical, ?_⟩
  refine Option.bind_eq_some_iff.mpr ⟨last * extent.toNat, hscaled last (Nat.le_refl _), ?_⟩
  exact Option.bind_eq_some_iff.mpr ⟨_, hraised, Option.bind_eq_some_iff.mpr ⟨_, hless, rfl⟩⟩

/-! ## Where an item is placed -/

/-- The smallest interval with integer ends that contains another one. -/
structure Covers (first last : Int) (low high : ℚ) : Prop where
  contains : (first : ℚ) ≤ low ∧ high ≤ (last : ℚ)
  least : ∀ first' last' : Int, (first' : ℚ) ≤ low → high ≤ (last' : ℚ) → first' ≤ first ∧ last ≤ last'

theorem covers_div (n m : Nat) {d : Nat} (hd : 0 < d) :
    Covers (n / d : Nat) ((m + d - 1) / d : Nat) ((n : ℚ) / d) ((m : ℚ) / d) := by
  have hq : (0 : ℚ) < d := Nat.cast_pos.mpr hd
  have hceil : m ≤ (m + d - 1) / d * d := by
    have hmod := Nat.div_add_mod (m + d - 1) d
    have hlt := Nat.mod_lt (m + d - 1) hd
    rw [Nat.mul_comm] at hmod
    omega
  refine ⟨⟨?_, ?_⟩, fun first' last' hlow hhigh => ⟨?_, ?_⟩⟩
  · rw [Int.cast_natCast]
    exact Nat.cast_div_le
  · rw [Int.cast_natCast, div_le_iff₀ hq]
    exact_mod_cast hceil
  · rw [le_div_iff₀ hq] at hlow
    have hmul : first' * d ≤ n := by exact_mod_cast hlow
    rw [Int.natCast_div]
    exact Int.le_ediv_of_mul_le (by omega) hmul
  · rw [div_le_iff₀ hq] at hhigh
    have hmul : (m : Int) ≤ last' * d := by exact_mod_cast hhigh
    rw [Int.natCast_div, ← Int.lt_add_one_iff]
    refine Int.ediv_lt_of_lt_mul (by omega) ?_
    rw [Int.add_mul, Int.one_mul]
    omega

/-- A coordinate of the space on an image. -/
def scaledCoordinate (extent coordinate : UInt32) (v : Int) : ℚ := (v : ℚ) * extent.toNat / coordinate.toNat

structure Placed (frame : OverlayFrame) (extent : SwapchainExtent) (source target : Rect) : Prop where
  nonempty : source.x0 < source.x1 ∧ source.y0 < source.y1
  inside : (0 ≤ source.x0 ∧ source.x1 ≤ frame.width.toNat) ∧ 0 ≤ source.y0 ∧ source.y1 ≤ frame.height.toNat
  /-- The source is what of the frame is visible in the space. -/
  visible : ∀ i j : Int, ((source.x0 ≤ i ∧ i < source.x1) ∧ source.y0 ≤ j ∧ j < source.y1) ↔
    ((0 ≤ i ∧ i < frame.width.toNat) ∧ 0 ≤ j ∧ j < frame.height.toNat) ∧
      (0 ≤ frame.x.toInt + i ∧ frame.x.toInt + i < frame.coordinateWidth.toNat) ∧
        0 ≤ frame.y.toInt + j ∧ frame.y.toInt + j < frame.coordinateHeight.toNat
  columns : Covers target.x0 target.x1 (scaledCoordinate extent.width frame.coordinateWidth (frame.x.toInt + source.x0))
    (scaledCoordinate extent.width frame.coordinateWidth (frame.x.toInt + source.x1))
  rows : Covers target.y0 target.y1 (scaledCoordinate extent.height frame.coordinateHeight (frame.y.toInt + source.y0))
    (scaledCoordinate extent.height frame.coordinateHeight (frame.y.toInt + source.y1))
  target_inside : (0 ≤ target.x0 ∧ target.x0 < target.x1 ∧ target.x1 ≤ extent.width.toNat) ∧
    0 ≤ target.y0 ∧ target.y0 < target.y1 ∧ target.y1 ≤ extent.height.toNat

/-- What clipping leaves of an axis. -/
structure Clips (position : Int32) (size coordinate : UInt32) (clip : AxisClip) : Prop where
  start : position.toInt + clip.source0 = clip.logical0
  inFrame : 0 ≤ clip.source0 ∧ clip.source0 + clip.visible ≤ size.toNat
  inSpace : 0 ≤ clip.logical0 ∧ clip.logical0 + clip.visible ≤ coordinate.toNat
  visible : ∀ i : Int, clip.source0 ≤ i ∧ i < clip.source0 + clip.visible ↔
    (0 ≤ i ∧ i < size.toNat) ∧ 0 ≤ position.toInt + i ∧ position.toInt + i < coordinate.toNat

theorem clipAxis_clips (position : Int32) (size coordinate : UInt32) :
    ∃ clip, clipAxis position size coordinate = some clip ∧ Clips position size coordinate clip :=
  ⟨_, clipAxis_eq position size coordinate, by dsimp only; omega, by dsimp only; omega, by dsimp only; omega, fun i => by
    dsimp only; omega⟩

/-- The target of what clipping leaves. -/
theorem Clips.scaled {position : Int32} {size coordinate : UInt32} {clip : AxisClip} (h : Clips position size coordinate clip)
    (extent : UInt32) (hvisible : 0 < clip.visible) : ∃ target, scaleAxis clip extent coordinate = some target ∧
      Covers target.1 target.2 (scaledCoordinate extent coordinate (position.toInt + clip.source0))
        (scaledCoordinate extent coordinate (position.toInt + (clip.source0 + clip.visible))) := by
  obtain ⟨hlogical, hspace⟩ := h.inSpace
  obtain ⟨first, hfirst⟩ := Int.eq_ofNat_of_zero_le hlogical
  obtain ⟨last, hlast⟩ := Int.eq_ofNat_of_zero_le (show 0 ≤ clip.logical0 + clip.visible by omega)
  have hpos : 0 < coordinate.toNat := by omega
  refine ⟨_, scaleAxis_eq hfirst hlast (by omega) (by omega) hpos, ?_⟩
  have hcovers := covers_div (first * extent.toNat) (last * extent.toNat) hpos
  have hstart := h.start
  rw [Nat.cast_mul, Nat.cast_mul] at hcovers
  unfold scaledCoordinate
  rw [← Int.add_assoc, hstart, hlast, hfirst, Int.cast_natCast, Int.cast_natCast]
  exact hcovers

theorem placeOverlay_placed (frame : OverlayFrame) (extent : SwapchainExtent) :
    ∃ placement, placeOverlay frame extent = some placement ∧ ∀ source target, placement = some (source, target) →
      Placed frame extent source target := by
  obtain ⟨across, hacross, hx⟩ := clipAxis_clips frame.x frame.width frame.coordinateWidth
  obtain ⟨down, hdown, hy⟩ := clipAxis_clips frame.y frame.height frame.coordinateHeight
  unfold placeOverlay
  rw [hacross, hdown, Option.bind_eq_bind, Option.bind_some, Option.bind_eq_bind, Option.bind_some]
  split
  · exact ⟨none, rfl, fun _ _ heq => by cases heq⟩
  · rename_i hsizes
    rw [not_or, not_or] at hsizes
    obtain ⟨columns, hcolumns, hcoverx⟩ := hx.scaled extent.width (by omega)
    obtain ⟨rows, hrows, hcovery⟩ := hy.scaled extent.height (by omega)
    rw [hcolumns, hrows, Option.bind_some, Option.bind_some]
    split
    · exact ⟨none, rfl, fun _ _ heq => by cases heq⟩
    · rename_i htargets
      have hwidth := frame.width.toNat_lt
      have hheight := frame.height.toNat_lt
      obtain ⟨hx0, hx1⟩ := hx.inFrame
      obtain ⟨hy0, hy1⟩ := hy.inFrame
      rw [i64_eq (by omega) (by omega), i64_eq (by omega) (by omega), Option.bind_eq_bind, Option.bind_some, Option.bind_some]
      refine ⟨_, rfl, fun source target heq => ?_⟩
      obtain ⟨rfl, rfl⟩ := Prod.mk.inj (Option.some.inj heq)
      refine ⟨⟨by dsimp only; omega, by dsimp only; omega⟩, ⟨⟨hx0, hx1⟩, hy0, hy1⟩, fun i j => ?_, hcoverx, hcovery, ?_⟩
      · rw [hx.visible, hy.visible]
        exact and_and_and_comm
      · simp only [not_or, Nat.not_le, Nat.not_lt] at htargets
        obtain ⟨hcolumns, hrows, hright, hbottom, -⟩ := htargets
        exact ⟨⟨Int.natCast_nonneg _, Int.ofNat_lt.mpr hcolumns, Int.ofNat_le.mpr hright⟩,
          Int.natCast_nonneg _, Int.ofNat_lt.mpr hrows, Int.ofNat_le.mpr hbottom⟩

/-! ## All entries -/

/-- Each item is placed on an image of its swapchain, and no two are on the same. -/
structure ItemsPlaced (device : OverlayDevice) (frame : OverlayFrame) (items : List WorkItem) : Prop where
  placed : ∀ item ∈ items, ∃ swapchain, device.swapchains[item.image.swapchain]? = some swapchain ∧
    item.image.image < swapchain.images.length ∧ Placed frame swapchain.extent item.sourceRect item.targetRect
  distinct : (items.map WorkItem.image).Nodup

theorem findSwapchain_place {device : OverlayDevice} {handle place : Nat} {swapchain : OverlaySwapchain}
    (h : findSwapchain device handle = some (place, swapchain)) : device.swapchains[place]? = some swapchain := by
  obtain ⟨place', -, h⟩ := Option.bind_eq_some_iff.mp h
  obtain ⟨swapchain', hget, h⟩ := Option.bind_eq_some_iff.mp h
  cases h
  exact hget

theorem buildWorkItem_placed {device : OverlayDevice} {frame : OverlayFrame} {items : List WorkItem}
    (h : ItemsPlaced device frame items) (handle : Nat) (index : UInt32) :
    ∃ items', buildWorkItem device frame items handle index = some items' ∧ ItemsPlaced device frame items' := by
  unfold buildWorkItem
  cases hfind : findSwapchain device handle with
  | none => exact ⟨items, rfl, h⟩
  | some found =>
    obtain ⟨place, swapchain⟩ := found
    dsimp only
    split
    · exact ⟨items, rfl, h⟩
    · cases hget : swapchain.images[index.toNat]? with
      | none => exact ⟨items, rfl, h⟩
      | some image =>
        dsimp only
        split
        · exact ⟨items, rfl, h⟩
        · split
          · exact ⟨items, rfl, h⟩
          · rename_i hnew
            obtain ⟨placement, hplace, hplaced⟩ := placeOverlay_placed frame swapchain.extent
            rw [hplace]
            rcases placement with _ | ⟨source, target⟩
            · exact ⟨items, rfl, h⟩
            · refine ⟨_, rfl, fun item hitem => ?_, ?_⟩
              · rcases List.mem_append.mp hitem with hitem | hitem
                · exact h.placed item hitem
                · obtain rfl := List.mem_singleton.mp hitem
                  exact ⟨swapchain, findSwapchain_place hfind, (List.getElem?_eq_some_iff.mp hget).1, hplaced source target rfl⟩
              · rw [List.map_append, List.nodup_append]
                refine ⟨h.distinct, List.pairwise_singleton _ _, fun image himage other hother => ?_⟩
                obtain ⟨item, hitem, rfl⟩ := List.mem_map.mp himage
                obtain rfl := List.mem_singleton.mp hother
                intro heq
                exact hnew (List.any_eq_true.mpr ⟨item, hitem, by simp [heq]⟩)

theorem buildEntries_placed {device : OverlayDevice} {frame : OverlayFrame} (entries : List (Nat × UInt32)) :
    ∀ {items : List WorkItem}, ItemsPlaced device frame items →
      ∃ items', buildEntries device frame items entries = some items' ∧ ItemsPlaced device frame items' := by
  induction entries with
  | nil => exact fun h => ⟨_, rfl, h⟩
  | cons entry entries ih =>
    intro items h
    obtain ⟨items', hstep, h'⟩ := buildWorkItem_placed h entry.1 entry.2
    rw [buildEntries, hstep]
    exact ih h'

/-- For every frame, device and request: nothing overflows, and every item is on an image of its
    own, with the visible part of the frame as its source and the least target that covers it. -/
theorem overlays_placed (device : Option OverlayDevice) (queueFamily : Option Nat) (present : PresentInfo)
    (frame : OverlayFrame) :
    ∃ result items, buildWorkItems device queueFamily present frame = some (result, items) ∧
      (∀ item ∈ items, ∃ found swapchain, device = some found ∧ found.swapchains[item.image.swapchain]? = some swapchain ∧
        item.image.image < swapchain.images.length ∧ Placed frame swapchain.extent item.sourceRect item.targetRect) ∧
      (items.map WorkItem.image).Nodup ∧ (result = true ↔ items ≠ []) := by
  have hnone : ∃ result items, some (false, []) = some (result, items) ∧
      (∀ item ∈ items, ∃ found swapchain, device = some found ∧ found.swapchains[item.image.swapchain]? = some swapchain ∧
        item.image.image < swapchain.images.length ∧ Placed frame swapchain.extent item.sourceRect item.targetRect) ∧
      (items.map WorkItem.image).Nodup ∧ (result = true ↔ items ≠ []) :=
        ⟨false, [], rfl, fun _ hitem => absurd hitem List.not_mem_nil, .nil, by simp⟩
  unfold buildWorkItems
  split
  · split
    · exact hnone
    · rename_i found family handles indices _ _ _
      obtain ⟨items, hbuilt, hplaced⟩ :=
        buildEntries_placed (handles.zip indices) (⟨fun _ hitem => absurd hitem List.not_mem_nil, .nil⟩ :
          ItemsPlaced found frame [])
      rw [hbuilt]
      refine ⟨!items.isEmpty, items, rfl, fun item hitem => ?_, hplaced.distinct, by cases items <;> simp⟩
      obtain ⟨swapchain, hgiven⟩ := hplaced.placed item hitem
      exact ⟨found, swapchain, rfl, hgiven⟩
  · exact hnone

end Mocktail.Graphics

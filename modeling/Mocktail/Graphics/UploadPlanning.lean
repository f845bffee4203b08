/-
  Mocktail.Graphics.UploadPlanning — uploads to emulated ETC2 images
  (`vulkan_etc2_emulation.cc`).

  An image of a compressed format is kept decoded on the host, small colour images also scaled
  up. `planRegions` turns the regions of a copy from a buffer into uploads to a staging buffer,
  one after the other, and into regions that copy from there; `scaledAxis` places a region of a
  scaled image. On submission the compressed blocks of each upload are gathered row by row, or
  with one `memcpy` where they lie contiguously, and each layer becomes a decode job.

  Numbers of the source's types are naturals here, with the wrap of 32 or 64 bits where they
  are computed. A shift by 32 or more has no defined result there.
-/

import Mocktail.Graphics.EtcJobs
import Mocktail.Lib.Memory

namespace Mocktail.Graphics

open Mocktail.Lib

def wrap32 (n : Nat) : Nat := n % 2 ^ 32
def wrap64 (n : Nat) : Nat := n % 2 ^ 64

/-! ## Image records -/

def kSmallTextureMaxExtent : Nat := 64
def kDefaultSmallTextureUpscale : Nat := 1

/-- `std::strtol` in base 10 of a text that begins with a digit. -/
def strtol (text : List UInt8) : Nat :=
  let digits := text.takeWhile fun byte => decide (0x30 ≤ byte ∧ byte ≤ 0x39)
  min (2 ^ 63 - 1) (digits.foldl (fun value digit => value * 10 + (digit.toNat - 0x30)) 0)

/-- The scale that the environment variable asks for. -/
def smallTextureUpscale (value : Option (List UInt8)) : Nat :=
  match value with
  | none | some [] => kDefaultSmallTextureUpscale
  | some (first :: rest) =>
    if first < 0x30 ∨ 0x39 < first then kDefaultSmallTextureUpscale
    else if strtol (first :: rest) < 1 then 1
    else if 8 < strtol (first :: rest) then 8
    else strtol (first :: rest)

theorem smallTextureUpscale_range (value : Option (List UInt8)) :
    1 ≤ smallTextureUpscale value ∧ smallTextureUpscale value ≤ 8 := by
  unfold smallTextureUpscale kDefaultSmallTextureUpscale
  split
  · omega
  · omega
  · split_ifs <;> omega

def isColorFormat (format : EtcFormat) : Bool := format == .etc2Rgb8 || format == .etc2Rgb8A1 || format == .etc2Rgba8

/-- What `CreateImage` reads of a `VkImageCreateInfo`, with the format it is emulated as. -/
structure ImageCreateInfo where
  format : EtcFormat
  twoDimensional : Bool := true
  arrayLayers : Nat := 1
  depth : Nat := 1
  width : Nat
  height : Nat

def imageScale (upscale : Option (List UInt8)) (info : ImageCreateInfo) : Nat :=
  if 1 < smallTextureUpscale upscale ∧ isColorFormat info.format ∧ info.twoDimensional ∧ info.arrayLayers = 1 ∧ info.depth = 1 ∧
      info.width ≤ kSmallTextureMaxExtent ∧ info.height ≤ kSmallTextureMaxExtent then smallTextureUpscale upscale
  else 1

theorem imageScale_range (upscale : Option (List UInt8)) (info : ImageCreateInfo) :
    1 ≤ imageScale upscale info ∧ imageScale upscale info ≤ 8 := by
  have hrange := smallTextureUpscale_range upscale
  unfold imageScale
  split_ifs <;> omega

structure ImageRecord where
  format : EtcFormat
  scale : Nat
  width : Nat
  height : Nat
  scale_range : 1 ≤ scale ∧ scale ≤ 8

/-- The record that `CreateImage` keeps. -/
def createImage (upscale : Option (List UInt8)) (info : ImageCreateInfo) : ImageRecord :=
  ⟨info.format, imageScale upscale info, info.width, info.height, imageScale_range upscale info⟩

/-! ## Planning -/

def etc2UploadByteCounts (format : EtcFormat) (width height depth layerCount : Nat) : Option (Nat × Nat) :=
  if width = 0 ∨ height = 0 ∨ depth ≠ 1 ∨ layerCount = 0 then none
  else
    let blocks := (width + 3) / 4 * ((height + 3) / 4)
    some (wrap64 (blocks * etcBlockBytes format * layerCount), wrap64 (width * height * etcDecodedTexelBytes format * layerCount))

structure ScaledInterval where
  texels : Nat
  hostStart : Nat
  hostEnd : Nat
  deriving DecidableEq, Repr

def appMip (base mip : Nat) : Nat := max 1 (base >>> mip)

def hostMip (base scale mip : Nat) : Nat := max 1 (wrap32 (base * scale) >>> mip)

/-- Clip block padding before scaling to the host mip. -/
def scaledAxis (base scale mip : Nat) (offset : Int) (extent : Nat) : Option ScaledInterval :=
  if offset < 0 ∨ appMip base mip ≤ offset.toNat then none
  else
    let appEnd := min (appMip base mip) (wrap32 (offset.toNat + extent))
    let start := wrap32 (offset.toNat * scale)
    let stop := if appEnd = appMip base mip then hostMip base scale mip
      else min (hostMip base scale mip) (wrap32 (appEnd * scale))
    if stop ≤ start then none
    else some { texels := wrap32 (appEnd + 2 ^ 32 - offset.toNat), hostStart := start, hostEnd := stop }

structure Offset where
  x : Int
  y : Int
  z : Int
  deriving DecidableEq, Repr

structure Extent where
  width : Nat
  height : Nat
  depth : Nat
  deriving DecidableEq, Repr

/-- `VkBufferImageCopy`. -/
structure Region where
  bufferOffset : Nat
  bufferRowLength : Nat
  bufferImageHeight : Nat
  mipLevel : Nat
  layerCount : Nat
  imageOffset : Offset
  imageExtent : Extent
  deriving DecidableEq, Repr

structure PendingUpload where
  sourceOffset : Nat
  sourceRowStride : Nat
  sourceLayerStride : Nat
  sourceSpan : Nat
  compressed : Nat
  decoded : Nat
  targetOffset : Nat
  format : EtcFormat
  mipLevel : Nat
  width : Nat
  height : Nat
  layers : Nat
  scale : Nat
  sourceWidth : Nat
  sourceHeight : Nat
  targetWidth : Nat
  targetHeight : Nat
  fullMip : Bool
  targetBytes : Nat

/-- `none` where a region is not supported; otherwise the upload and the rewritten region. -/
def planRegion (record : ImageRecord) (total : Nat) (region : Region) : Option (PendingUpload × Region) :=
  let width := region.imageExtent.width
  let height := region.imageExtent.height
  match etc2UploadByteCounts record.format width height region.imageExtent.depth region.layerCount with
  | none => none
  | some (compressed, decoded) =>
    if 1 < record.scale ∧ region.layerCount ≠ 1 then none
    else
      let rowTexels := if region.bufferRowLength ≠ 0 then region.bufferRowLength else width
      let layerRows := if region.bufferImageHeight ≠ 0 then region.bufferImageHeight else height
      if rowTexels < width ∨ layerRows < height then none
      else
        let blockBytes := etcBlockBytes record.format
        let blockRows := (height + 3) / 4
        let packedRow := (width + 3) / 4 * blockBytes
        let sourceRowStride := wrap64 ((rowTexels + 3) / 4 * blockBytes)
        let sourceLayerStride := wrap64 (sourceRowStride * ((layerRows + 3) / 4))
        let upload : PendingUpload :=
          { sourceOffset := region.bufferOffset
            sourceRowStride
            sourceLayerStride
            sourceSpan := wrap64 ((region.layerCount - 1) * sourceLayerStride + (blockRows - 1) * sourceRowStride + packedRow)
            compressed
            decoded
            targetOffset := total
            format := record.format
            mipLevel := region.mipLevel
            width
            height
            layers := region.layerCount
            scale := record.scale
            sourceWidth := width
            sourceHeight := height
            targetWidth := width
            targetHeight := height
            fullMip := false
            targetBytes := decoded }
        let copy : Region := { region with bufferOffset := total, bufferRowLength := 0, bufferImageHeight := 0 }
        if record.scale ≤ 1 then some (upload, copy)
        else
          match scaledAxis record.width record.scale region.mipLevel region.imageOffset.x width with
          | none => none
          | some across =>
            match scaledAxis record.height record.scale region.mipLevel region.imageOffset.y height with
            | none => none
            | some down =>
              let targetWidth := across.hostEnd - across.hostStart
              let targetHeight := down.hostEnd - down.hostStart
              some
                ({ upload with
                    sourceWidth := across.texels
                    sourceHeight := down.texels
                    targetWidth
                    targetHeight
                    targetBytes := wrap64 (targetWidth * targetHeight * etcDecodedTexelBytes record.format)
                    fullMip :=
                      region.imageOffset.x = 0 ∧ region.imageOffset.y = 0 ∧ across.texels = appMip record.width region.mipLevel ∧
                        down.texels = appMip record.height region.mipLevel },
                  { copy with
                    imageOffset := { region.imageOffset with x := across.hostStart, y := down.hostStart }
                    imageExtent := { region.imageExtent with width := targetWidth, height := targetHeight } })

structure Plan where
  uploads : List PendingUpload
  rewritten : List Region
  total : Nat

def planLoop (record : ImageRecord) : List Region → Plan → Option Plan
  | [], plan => some plan
  | region :: regions, plan =>
    match planRegion record plan.total region with
    | none => none
    | some (upload, copy) =>
      planLoop record regions
        { uploads := plan.uploads ++ [upload]
          rewritten := plan.rewritten ++ [copy]
          total := wrap64 (plan.total + upload.targetBytes) }

def planRegions (record : ImageRecord) (regions : List Region) : Option Plan :=
  if regions = [] then none else planLoop record regions ⟨[], [], 0⟩

/-! ## Gathering -/

namespace PendingUpload

def compressedLayer (upload : PendingUpload) : Nat := upload.compressed / upload.layers
def decodedLayer (upload : PendingUpload) : Nat := upload.decoded / upload.layers
def blockRows (upload : PendingUpload) : Nat := (upload.height + 3) / 4
def packedRow (upload : PendingUpload) : Nat := upload.compressedLayer / upload.blockRows

/-- The copies of the rows of blocks, layer by layer, to a place of the scratch buffer. -/
def stridedCopies (upload : PendingUpload) (target : Nat) : List BlockCopy :=
  (List.range upload.layers).flatMap fun layer =>
    (List.range upload.blockRows).map fun row =>
      { target := target + layer * upload.compressedLayer + row * upload.packedRow
        start := upload.sourceOffset + layer * upload.sourceLayerStride + row * upload.sourceRowStride
        size := upload.packedRow }

def contiguousCopy (upload : PendingUpload) (target : Nat) : BlockCopy :=
  { target, start := upload.sourceOffset, size := upload.compressed }

def gatherCopies (upload : PendingUpload) (target : Nat) : List BlockCopy :=
  if upload.sourceSpan = upload.compressed then [upload.contiguousCopy target] else upload.stridedCopies target

end PendingUpload

/-- An upload with the bytes of its source buffer and where its layers are decoded to. -/
structure UploadCopy where
  upload : PendingUpload
  buffer : Nat → UInt8
  destination : Nat

/-- The gathering loop, from an offset of the scratch buffer on. -/
def gatherLoop : List UploadCopy → Nat → (Nat → UInt8) → Nat → UInt8
  | [], _, scratch => scratch
  | copy :: copies, offset, scratch =>
    gatherLoop copies (wrap64 (offset + copy.upload.compressed))
      (copyAll copy.buffer scratch (copy.upload.gatherCopies offset))

def gather (copies : List UploadCopy) (scratch : Nat → UInt8) : Nat → UInt8 := gatherLoop copies 0 scratch

/-- The decode job of a layer; the blocks are read from the scratch buffer. -/
def layerJob (scratch : Nat → UInt8) (copy : UploadCopy) (offset layer : Nat) : EtcDecodeJob where
  format := copy.upload.format
  source := some fun i => scratch (offset + layer * copy.upload.compressedLayer + i)
  sourceBytes := copy.upload.compressedLayer
  width := UInt32.ofNat copy.upload.width
  height := UInt32.ofNat copy.upload.height
  destination := some (copy.destination + layer * copy.upload.decodedLayer)
  destinationBytes := copy.upload.decodedLayer

def jobLoop (scratch : Nat → UInt8) : List UploadCopy → Nat → List EtcDecodeJob
  | [], _ => []
  | copy :: copies, offset =>
    (List.range copy.upload.layers).map (layerJob scratch copy offset) ++
      jobLoop scratch copies (wrap64 (offset + copy.upload.compressed))

/-- The jobs of a submission, which run when everything is gathered. -/
def uploadJobs (copies : List UploadCopy) (scratch : Nat → UInt8) : List EtcDecodeJob := jobLoop (gather copies scratch) copies 0

end Mocktail.Graphics

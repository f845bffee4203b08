/-
  Mocktail.Sky.Transcoder — rewriting a KTX1 file from ETC1 to BC1 in place
  (`vulkan_etc1_sky_transcoder.cc`).

  `TranscodeKtx1Etc1` checks the header, then takes the mip levels one after the other: it
  checks a level's stored size against the level's dimensions and rewrites its blocks before it
  looks at the next level. Two things follow.
  - A file that fails at a later level comes back with its earlier levels rewritten under a
    header that still says ETC1.
  - The dimensions are 32-bit, and so is the addition that rounds them up to blocks: a width or
    height of 2^32 - 3 or more counts as no blocks at all.

  `transcodeKtx1Etc1_atomic` says exactly which files are spared: a false result leaves the
  file alone, and a true one means every level was in place and nothing but its blocks and the
  format word has changed.
-/

import Mocktail.Sky.Etc1Blocks

namespace Mocktail.Sky

open Mocktail.Graphics (Block)

/-! ## BC1 blocks -/

def packRgb565 (color : Rgb) : UInt16 :=
  (color.r >>> 3).toUInt16 <<< 11 ||| (color.g >>> 2).toUInt16 <<< 5 ||| (color.b >>> 3).toUInt16

def unpackRgb565 (color : UInt16) : Rgb :=
  let r := (color >>> 11 &&& 31).toUInt8
  let g := (color >>> 5 &&& 63).toUInt8
  let b := (color &&& 31).toUInt8
  ⟨r <<< 3 ||| r >>> 2, g <<< 2 ||| g >>> 4, b <<< 3 ||| b >>> 2⟩

def colorDistance (lhs rhs : Rgb) : Nat :=
  let dr : Int := lhs.r.toNat - rhs.r.toNat
  let dg : Int := lhs.g.toNat - rhs.g.toNat
  let db : Int := lhs.b.toNat - rhs.b.toNat
  (dr * dr + dg * dg + db * db).toNat

def Rgb.least (lhs rhs : Rgb) : Rgb := ⟨min lhs.r rhs.r, min lhs.g rhs.g, min lhs.b rhs.b⟩

def Rgb.greatest (lhs rhs : Rgb) : Rgb := ⟨max lhs.r rhs.r, max lhs.g rhs.g, max lhs.b rhs.b⟩

/-- The two endpoints, the larger first and never equal: equal ones would select the mode of BC1
    with a transparent colour. -/
def endpoints (maximum minimum : Rgb) : UInt16 × UInt16 :=
  let endpoint0 := packRgb565 maximum
  let endpoint1 := packRgb565 minimum
  let swapped := if endpoint0 < endpoint1 then (endpoint1, endpoint0) else (endpoint0, endpoint1)
  if swapped.1 = swapped.2 then
    if swapped.1 < 65535 then (swapped.1 + 1, swapped.2) else (swapped.1, swapped.2 - 1)
  else swapped

/-- The colour a third of the way from `near` to `far`. -/
def third (near far : Rgb) : Rgb :=
  let channel (n f : UInt8) : UInt8 := UInt8.ofNat ((2 * n.toNat + f.toNat) / 3)
  ⟨channel near.r far.r, channel near.g far.g, channel near.b far.b⟩

def bestIndex (palette : List Rgb) (pixel : Rgb) : Nat :=
  ((List.range palette.length).foldl (fun (best : Nat × Nat) index =>
    let distance := colorDistance pixel (palette.getD index ⟨0, 0, 0⟩)
    if distance < best.1 then (distance, index) else best) (2 ^ 32 - 1, 0)).2

/-- Four bytes, low byte first (`WriteLe32`). -/
def le32 (value : Nat) : List UInt8 :=
  [UInt8.ofNat value, UInt8.ofNat (value >>> 8), UInt8.ofNat (value >>> 16), UInt8.ofNat (value >>> 24)]

def convertEtc1RgbBlockToBc1 (etc1 : Block) : Block :=
  let pixels := (List.range 16).map (decodeEtc1RgbBlock etc1)
  let first := pixels.headD ⟨0, 0, 0⟩
  let minimum := pixels.foldl Rgb.least first
  let maximum := pixels.foldl Rgb.greatest first
  let inset : Rgb := ⟨(maximum.r - minimum.r) / 16, (maximum.g - minimum.g) / 16, (maximum.b - minimum.b) / 16⟩
  let minimum : Rgb := ⟨minimum.r + inset.r, minimum.g + inset.g, minimum.b + inset.b⟩
  let maximum : Rgb := ⟨maximum.r - inset.r, maximum.g - inset.g, maximum.b - inset.b⟩
  let ends := endpoints maximum minimum
  let color0 := unpackRgb565 ends.1
  let color1 := unpackRgb565 ends.2
  let palette := [color0, color1, third color0 color1, third color1 color0]
  let indices := (List.range 16).foldl
    (fun indices i => indices ||| bestIndex palette (pixels.getD i ⟨0, 0, 0⟩) <<< (2 * i)) 0
  let bytes := [ends.1.toUInt8, (ends.1 >>> 8).toUInt8, ends.2.toUInt8, (ends.2 >>> 8).toUInt8] ++ le32 indices
  fun i => bytes.getD i 0

/-! ## The file -/

abbrev File := List UInt8

def kKtx1Identifier : List UInt8 := [0xab, 0x4b, 0x54, 0x58, 0x20, 0x31, 0x31, 0xbb, 0x0d, 0x0a, 0x1a, 0x0a]
def kKtx1LittleEndian : Nat := 0x04030201
def kGlEtc1Rgb8Oes : Nat := 0x00008d64
def kGlCompressedRgbS3tcDxt1 : Nat := 0x000083f0
def kGlRgb : Nat := 0x00001907
def kHeaderSize : Nat := 64

section
variable (file : File)

def byteOf (i : Nat) : UInt8 := file.getD i 0

def readLe32 (offset : Nat) : Nat :=
  (byteOf file offset).toNat ||| (byteOf file (offset + 1)).toNat <<< 8 ||| (byteOf file (offset + 2)).toNat <<< 16 |||
    (byteOf file (offset + 3)).toNat <<< 24

/-- The file with bytes copied to an offset; the callers keep them within it. -/
def overwrite (offset : Nat) (bytes : List UInt8) : File :=
  file.mapIdx fun i byte => if offset ≤ i ∧ i < offset + bytes.length then bytes.getD (i - offset) 0 else byte

def blockAt (offset : Nat) : Block := fun i => byteOf file (offset + i)

def width : Nat := readLe32 file 36
def height : Nat := readLe32 file 40
def mipLevels : Nat := readLe32 file 56
def keyValueBytes : Nat := readLe32 file 60

/-- The two tests of the header. -/
def headerAccepted : Bool :=
  kHeaderSize ≤ file.length && file.take 12 == kKtx1Identifier && readLe32 file 12 == kKtx1LittleEndian &&
    readLe32 file 16 == 0 && readLe32 file 20 == 1 && readLe32 file 24 == 0 && readLe32 file 28 == kGlEtc1Rgb8Oes &&
    readLe32 file 32 == kGlRgb &&
    !(width file == 0 || height file == 0 || readLe32 file 44 != 0 || readLe32 file 48 != 0 || readLe32 file 52 != 1 ||
      mipLevels file == 0 || 32 < mipLevels file || file.length - kHeaderSize < keyValueBytes file)

/-- The file after the first `count` blocks from an offset on have been converted. -/
def convertBlocks (offset : Nat) : Nat → File
  | 0 => file
  | count + 1 =>
    let file := convertBlocks offset count
    overwrite file (offset + count * 8) (List.ofFn (convertEtc1RgbBlockToBc1 (blockAt file (offset + count * 8))))

end

/-- `(size + 3) / 4` in 32 bits. -/
def blocksAcross (size : Nat) : Nat := (size + 3) % 2 ^ 32 / 4

def mipLoop : Nat → File → Nat → Nat → Nat → Bool × File
  | 0, file, _, _, _ => (true, file)
  | levels + 1, file, offset, mipWidth, mipHeight =>
    if file.length < offset ∨ file.length - offset < 4 then (false, file)
    else
      let imageSize := readLe32 file offset
      let offset := offset + 4
      let expectedSize := blocksAcross mipWidth * blocksAcross mipHeight * 8
      if imageSize ≠ expectedSize ∨ file.length - offset < imageSize then (false, file)
      else
        let file := convertBlocks file offset (imageSize / 8)
        let offset := offset + imageSize
        let padding := (4 - imageSize % 4) % 4
        if file.length - offset < padding then (false, file)
        else mipLoop levels file (offset + padding) (max 1 (mipWidth / 2)) (max 1 (mipHeight / 2))

def transcodeKtx1Etc1 (file : File) : Bool × File :=
  if headerAccepted file then
    let result := mipLoop (mipLevels file) file (kHeaderSize + keyValueBytes file) (width file) (height file)
    if result.1 then (true, overwrite result.2 28 (le32 kGlCompressedRgbS3tcDxt1)) else (false, result.2)
  else (false, file)

/-! ## Bytes and blocks of a rewritten file -/

variable {mipHeight mipWidth n place size : Nat}

section
variable {file other : File} {offset count i : Nat}

theorem file_ext (hlen : file.length = other.length) (h : ∀ i < file.length, byteOf file i = byteOf other i) :
    file = other := by
  apply List.ext_getElem hlen
  intro i hi ho
  have hb := h i hi
  rwa [byteOf, byteOf, List.getD_eq_getElem _ _ hi, List.getD_eq_getElem _ _ ho] at hb

@[simp] theorem length_overwrite (bytes : List UInt8) : (overwrite file offset bytes).length = file.length := by
  simp [overwrite]

theorem byteOf_overwrite (bytes : List UInt8) :
    byteOf (overwrite file offset bytes) i =
      if i < file.length ∧ offset ≤ i ∧ i < offset + bytes.length then bytes.getD (i - offset) 0 else byteOf file i := by
  by_cases hi : i < file.length
  · have hlen : i < (overwrite file offset bytes).length := by rwa [length_overwrite]
    rw [byteOf, List.getD_eq_getElem _ _ hlen, byteOf, List.getD_eq_getElem _ _ hi]
    simp [overwrite, hi]
  · rw [if_neg fun h => hi h.1, byteOf, byteOf, List.getD_eq_default, List.getD_eq_default]
    · omega
    · rw [length_overwrite]
      omega

theorem byteOf_overwrite_out {bytes : List UInt8} (h : i < offset ∨ offset + bytes.length ≤ i) :
    byteOf (overwrite file offset bytes) i = byteOf file i := by
  rw [byteOf_overwrite, if_neg]
  omega

@[simp] theorem length_convertBlocks : (convertBlocks file offset count).length = file.length := by
  induction count with
  | zero => rfl
  | succ count ih => simp [convertBlocks, ih]

theorem byteOf_convertBlocks_out (h : i < offset ∨ offset + count * 8 ≤ i) :
    byteOf (convertBlocks file offset count) i = byteOf file i := by
  induction count with
  | zero => rfl
  | succ count ih =>
    rw [convertBlocks, byteOf_overwrite_out, ih (by omega)]
    rw [List.length_ofFn]
    omega

theorem blockAt_congr (h : ∀ k < 8, byteOf file (place + k) = byteOf other (place + k)) :
    blockAt file place = blockAt other place := by
  funext k
  exact h k k.isLt

theorem blockAt_convertBlocks (hn : n < count) (hend : offset + count * 8 ≤ file.length) :
    blockAt (convertBlocks file offset count) (offset + n * 8) =
      convertEtc1RgbBlockToBc1 (blockAt file (offset + n * 8)) := by
  induction count with
  | zero => omega
  | succ count ih =>
    rw [convertBlocks]
    by_cases hlast : n = count
    · subst hlast
      have hsame : blockAt (convertBlocks file offset n) (offset + n * 8) = blockAt file (offset + n * 8) :=
        blockAt_congr fun k hk => byteOf_convertBlocks_out (.inr (by omega))
      rw [hsame]
      funext k
      have hk := k.isLt
      rw [blockAt, byteOf_overwrite, if_pos]
      · rw [Nat.add_sub_cancel_left, List.getD_eq_getElem _ _ (by simp), List.getElem_ofFn]
      · simp only [length_convertBlocks, List.length_ofFn]
        omega
    · rw [← ih (by omega) (by omega)]
      apply blockAt_congr
      intro k hk
      apply byteOf_overwrite_out
      omega

/-- Converting blocks that are their own conversion changes nothing. -/
theorem convertBlocks_fixed (hend : offset + count * 8 ≤ file.length)
    (h : ∀ n < count, convertEtc1RgbBlockToBc1 (blockAt file (offset + n * 8)) = blockAt file (offset + n * 8)) :
    convertBlocks file offset count = file := by
  apply file_ext length_convertBlocks
  intro i hi
  by_cases hin : offset ≤ i ∧ i < offset + count * 8
  · have hn : (i - offset) / 8 < count := by omega
    have hblock := blockAt_convertBlocks hn hend
    rw [h _ hn] at hblock
    have hbyte := congrFun hblock ⟨(i - offset) % 8, by omega⟩
    simp only [blockAt] at hbyte
    rwa [show offset + (i - offset) / 8 * 8 + (i - offset) % 8 = i by omega] at hbyte
  · exact byteOf_convertBlocks_out (by omega)

end

/-! ## The levels of a file -/

section
variable (file : File)

/-- A dimension at a mip level. -/
def mipSize (size level : Nat) : Nat := max 1 (size / 2 ^ level)

/-- `ceil(w / 4) * ceil(h / 4) * 8`. -/
def imageBytes (level : Nat) : Nat :=
  (mipSize (width file) level + 3) / 4 * ((mipSize (height file) level + 3) / 4) * 8

/-- Where a level's stored size is, if the levels before it have the size they should. -/
def sizeOffset : Nat → Nat
  | 0 => kHeaderSize + keyValueBytes file
  | level + 1 => sizeOffset level + 4 + imageBytes file level

def imageOffset (level : Nat) : Nat := sizeOffset file level + 4

/-- The level's image has exactly the bytes its dimensions ask for, and they are in the file. -/
def LevelStored (level : Nat) : Prop :=
  imageOffset file level ≤ file.length ∧ readLe32 file (sizeOffset file level) = imageBytes file level ∧
    imageOffset file level + imageBytes file level ≤ file.length

instance (level : Nat) : Decidable (LevelStored file level) := by unfold LevelStored; infer_instance

/-- Every block of the level is its own conversion. -/
def LevelFixed (level : Nat) : Prop :=
  ∀ n < imageBytes file level / 8, convertEtc1RgbBlockToBc1 (blockAt file (imageOffset file level + n * 8)) =
    blockAt file (imageOffset file level + n * 8)

/-- The file with the images of its first levels converted. -/
def convertedLevels : Nat → File
  | 0 => file
  | level + 1 => convertBlocks (convertedLevels level) (imageOffset file level) (imageBytes file level / 8)

end

section
variable {file : File} {level later i : Nat}

theorem imageBytes_div (file : File) (level : Nat) : imageBytes file level / 8 * 8 = imageBytes file level := by
  unfold imageBytes
  rw [Nat.mul_div_cancel _ (by decide)]

theorem sizeOffset_mono (file : File) {level later : Nat} (h : level < later) :
    imageOffset file level + imageBytes file level ≤ sizeOffset file later := by
  induction later with
  | zero => omega
  | succ later ih =>
    rw [sizeOffset]
    by_cases hl : level = later
    · subst hl
      exact Nat.le_refl _
    · have hprev := ih (by omega)
      omega

@[simp] theorem length_convertedLevels : (convertedLevels file level).length = file.length := by
  induction level with
  | zero => rfl
  | succ level ih => simp [convertedLevels, ih]

theorem byteOf_convertedLevels_out
    (h : ∀ l < level, ¬(imageOffset file l ≤ i ∧ i < imageOffset file l + imageBytes file l)) :
    byteOf (convertedLevels file level) i = byteOf file i := by
  induction level with
  | zero => rfl
  | succ level ih =>
    have hlast := h level (by omega)
    rw [convertedLevels, byteOf_convertBlocks_out, ih fun l hl => h l (by omega)]
    rw [imageBytes_div]
    omega

theorem byteOf_convertedLevels_later (h : sizeOffset file level ≤ i) :
    byteOf (convertedLevels file level) i = byteOf file i := by
  apply byteOf_convertedLevels_out
  intro l hl
  have hbefore := sizeOffset_mono file hl
  omega

theorem readLe32_congr {other : File} (h : ∀ k < 4, byteOf file (place + k) = byteOf other (place + k)) :
    readLe32 file place = readLe32 other place := by
  have h0 := h 0 (by decide)
  rw [Nat.add_zero] at h0
  rw [readLe32, readLe32, h0, h 1 (by decide), h 2 (by decide), h 3 (by decide)]

theorem blockAt_convertedLevels (hl : level < later) (hstored : ∀ l < later, LevelStored file l)
    (hn : n < imageBytes file level / 8) :
    blockAt (convertedLevels file later) (imageOffset file level + n * 8) =
      convertEtc1RgbBlockToBc1 (blockAt file (imageOffset file level + n * 8)) := by
  induction later with
  | zero => omega
  | succ later ih =>
    rw [convertedLevels]
    by_cases hlast : level = later
    · subst hlast
      have hend := (hstored level hl).2.2
      rw [blockAt_convertBlocks hn (by rw [imageBytes_div, length_convertedLevels]; exact hend)]
      congr 1
      apply blockAt_congr
      intro k hk
      apply byteOf_convertedLevels_later
      rw [imageOffset]
      omega
    · have hbefore := sizeOffset_mono file (show level < later by omega)
      have hdiv := imageBytes_div file level
      rw [← ih (by omega) (fun l hl => hstored l (by omega))]
      apply blockAt_congr
      intro k hk
      apply byteOf_convertBlocks_out
      have hplace : imageOffset file later = sizeOffset file later + 4 := rfl
      omega

/-- The converted levels leave the file alone exactly when they are fixed. -/
theorem convertedLevels_eq_iff (hstored : ∀ l < level, LevelStored file l) :
    convertedLevels file level = file ↔ ∀ l < level, LevelFixed file l := by
  constructor
  · intro h l hl n hn
    rw [← blockAt_convertedLevels hl hstored hn, h]
  · intro h
    induction level with
    | zero => rfl
    | succ level ih =>
      rw [convertedLevels, ih (fun l hl => hstored l (by omega)) (fun l hl => h l (by omega))]
      apply convertBlocks_fixed
      · rw [imageBytes_div]
        exact (hstored level (by omega)).2.2
      · exact h level (by omega)

end

/-! ## The level loop -/

section
variable {file : File}

theorem mipSize_succ (size level : Nat) : max 1 (mipSize size level / 2) = mipSize size (level + 1) := by
  rw [mipSize, mipSize, Nat.pow_succ, ← Nat.div_div_eq_div_mul]
  generalize size / 2 ^ level = half
  omega

theorem blocksAcross_mipSize (h : size < 2 ^ 32 - 3) (level : Nat) :
    blocksAcross (mipSize size level) = (mipSize size level + 3) / 4 := by
  have hle : size / 2 ^ level ≤ size := Nat.div_le_self ..
  have hsmall : mipSize size level + 3 < 2 ^ 32 := by
    rw [mipSize]
    omega
  rw [blocksAcross, Nat.mod_eq_of_lt hsmall]

/-- One level of the loop, with the levels before it converted. -/
theorem mipLoop_level (hw : width file < 2 ^ 32 - 3) (hh : height file < 2 ^ 32 - 3) (levels level : Nat) :
    mipLoop (levels + 1) (convertedLevels file level) (sizeOffset file level) (mipSize (width file) level)
        (mipSize (height file) level) =
      if LevelStored file level then
        mipLoop levels (convertedLevels file (level + 1)) (sizeOffset file (level + 1)) (mipSize (width file) (level + 1))
          (mipSize (height file) (level + 1))
      else (false, convertedLevels file level) := by
  have hread : readLe32 (convertedLevels file level) (sizeOffset file level) = readLe32 file (sizeOffset file level) :=
    readLe32_congr fun k _ => byteOf_convertedLevels_later (by omega)
  have hplace : imageOffset file level = sizeOffset file level + 4 := rfl
  have hbytes : (mipSize (width file) level + 3) / 4 * ((mipSize (height file) level + 3) / 4) * 8 = imageBytes file level :=
    rfl
  rw [mipLoop]
  dsimp only
  rw [length_convertedLevels, hread, blocksAcross_mipSize hw, blocksAcross_mipSize hh, hbytes, length_convertBlocks,
    length_convertedLevels, mipSize_succ, mipSize_succ]
  by_cases hstored : LevelStored file level
  · rw [if_pos (c := LevelStored file level) hstored]
    obtain ⟨hstart, hsize, hend⟩ := hstored
    have hdiv := imageBytes_div file level
    rw [hsize, if_neg (by omega), if_neg (by omega), if_neg (by omega)]
    have hpad : (4 - imageBytes file level % 4) % 4 = 0 := by omega
    rw [hpad]
    rfl
  · rw [if_neg (c := LevelStored file level) hstored]
    by_cases hstart : file.length < sizeOffset file level ∨ file.length - sizeOffset file level < 4
    · rw [if_pos hstart]
    · rw [if_neg hstart, if_pos]
      by_contra hok
      apply hstored
      unfold LevelStored
      omega

/-- The loop stops at the first level that is not in place, with the ones before it converted. -/
theorem mipLoop_levels (hw : width file < 2 ^ 32 - 3) (hh : height file < 2 ^ 32 - 3) (levels level : Nat) :
    (∃ bad, level ≤ bad ∧ bad < level + levels ∧ (∀ l, level ≤ l → l < bad → LevelStored file l) ∧ ¬LevelStored file bad ∧
      mipLoop levels (convertedLevels file level) (sizeOffset file level) (mipSize (width file) level)
        (mipSize (height file) level) = (false, convertedLevels file bad)) ∨
    ((∀ l, level ≤ l → l < level + levels → LevelStored file l) ∧
      mipLoop levels (convertedLevels file level) (sizeOffset file level) (mipSize (width file) level)
        (mipSize (height file) level) = (true, convertedLevels file (level + levels))) := by
  induction levels generalizing level with
  | zero => exact .inr ⟨fun l h0 h1 => by omega, rfl⟩
  | succ levels ih =>
    rw [mipLoop_level hw hh]
    by_cases hstored : LevelStored file level
    · rw [if_pos hstored]
      rcases ih (level + 1) with ⟨bad, hle, hlt, hbefore, hbad, hrun⟩ | ⟨hall, hrun⟩
      · refine .inl ⟨bad, by omega, by omega, ?_, hbad, hrun⟩
        intro l h0 h1
        by_cases hl : l = level
        · exact hl ▸ hstored
        · exact hbefore l (by omega) h1
      · refine .inr ⟨?_, ?_⟩
        · intro l h0 h1
          by_cases hl : l = level
          · exact hl ▸ hstored
          · exact hall l (by omega) (by omega)
        · rw [hrun, show level + 1 + levels = level + (levels + 1) by omega]
    · rw [if_neg hstored]
      exact .inl ⟨level, Nat.le_refl _, by omega, fun l h0 h1 => by omega, hstored, rfl⟩

theorem mipLoop_file (hw : width file < 2 ^ 32 - 3) (hh : height file < 2 ^ 32 - 3) (hw0 : 0 < width file)
    (hh0 : 0 < height file) :
    (∃ bad < mipLevels file, (∀ l < bad, LevelStored file l) ∧ ¬LevelStored file bad ∧
      mipLoop (mipLevels file) file (kHeaderSize + keyValueBytes file) (width file) (height file) =
        (false, convertedLevels file bad)) ∨
    ((∀ l < mipLevels file, LevelStored file l) ∧
      mipLoop (mipLevels file) file (kHeaderSize + keyValueBytes file) (width file) (height file) =
        (true, convertedLevels file (mipLevels file))) := by
  have hfirst : ∀ size, 0 < size → mipSize size 0 = size := by
    intro size h
    rw [mipSize, Nat.pow_zero, Nat.div_one]
    omega
  have h := mipLoop_levels hw hh (mipLevels file) 0
  rw [hfirst _ hw0, hfirst _ hh0, Nat.zero_add] at h
  rcases h with ⟨bad, -, hlt, hbefore, hbad, hrun⟩ | ⟨hall, hrun⟩
  · exact .inl ⟨bad, hlt, fun l hl => hbefore l (Nat.zero_le _) hl, hbad, hrun⟩
  · exact .inr ⟨fun l hl => hall l (Nat.zero_le _) hl, hrun⟩

end

/-! ## Dimensions that wrap -/

section
variable {file : File}

theorem readLe32_lt (file : File) (offset : Nat) : readLe32 file offset < 2 ^ 32 := by
  have hbyte : ∀ i shift, shift ≤ 24 → (byteOf file i).toNat <<< shift < 2 ^ 32 := by
    intro i shift hs
    have hb : (byteOf file i).toNat < 2 ^ 8 := (byteOf file i).toNat_lt
    rw [Nat.shiftLeft_eq]
    calc (byteOf file i).toNat * 2 ^ shift < 2 ^ 8 * 2 ^ shift := Nat.mul_lt_mul_of_pos_right hb (Nat.two_pow_pos _)
      _ = 2 ^ (8 + shift) := (Nat.pow_add 2 8 shift).symm
      _ ≤ 2 ^ 32 := Nat.pow_le_pow_right (by decide) (by omega)
  unfold readLe32
  have h0 := hbyte offset 0 (by decide)
  rw [Nat.shiftLeft_zero] at h0
  exact Nat.or_lt_two_pow (Nat.or_lt_two_pow (Nat.or_lt_two_pow h0 (hbyte _ 8 (by decide))) (hbyte _ 16 (by decide)))
    (hbyte _ 24 (by decide))

theorem blocksAcross_wrapped (h : 2 ^ 32 - 3 ≤ size) (hlt : size < 2 ^ 32) : blocksAcross size = 0 := by
  unfold blocksAcross
  omega

theorem blocksAcross_pos (h0 : 0 < size) (h : size < 2 ^ 32 - 3) : 0 < blocksAcross size := by
  unfold blocksAcross
  omega

/-- Half of a dimension that wraps asks for more bytes than a stored size can say. -/
theorem expectedSize_half {other : Nat} (h : 2 ^ 32 - 3 ≤ size) (hlt : size < 2 ^ 32) (ho : other < 2 ^ 32) :
    2 ^ 32 ≤ blocksAcross (max 1 (size / 2)) * blocksAcross (max 1 (other / 2)) * 8 := by
  have hblocks : blocksAcross (max 1 (size / 2)) = 2 ^ 29 := by
    unfold blocksAcross
    omega
  have hpos : 0 < blocksAcross (max 1 (other / 2)) := blocksAcross_pos (by omega) (by omega)
  rw [hblocks]
  omega

theorem mipLoop_rejects {levels offset : Nat}
    (h : 2 ^ 32 ≤ blocksAcross mipWidth * blocksAcross mipHeight * 8) :
    mipLoop (levels + 1) file offset mipWidth mipHeight = (false, file) := by
  have hsize := readLe32_lt file offset
  rw [mipLoop]
  by_cases hstart : file.length < offset ∨ file.length - offset < 4
  · rw [if_pos hstart]
  · rw [if_neg hstart]
    dsimp only
    rw [if_pos]
    omega

/-- A first level without blocks: the file stays, and only a single level is accepted. -/
theorem mipLoop_wrapped (levels offset : Nat) (hw : mipWidth < 2 ^ 32) (hh : mipHeight < 2 ^ 32)
    (h : 2 ^ 32 - 3 ≤ mipWidth ∨ 2 ^ 32 - 3 ≤ mipHeight) :
    mipLoop (levels + 1) file offset mipWidth mipHeight =
      (decide (levels = 0 ∧ offset + 4 ≤ file.length ∧ readLe32 file offset = 0), file) := by
  have hnone : blocksAcross mipWidth * blocksAcross mipHeight * 8 = 0 := by
    rcases h with h | h
    · rw [blocksAcross_wrapped h hw, Nat.zero_mul, Nat.zero_mul]
    · rw [blocksAcross_wrapped h hh, Nat.mul_zero, Nat.zero_mul]
  have hnext : 2 ^ 32 ≤ blocksAcross (max 1 (mipWidth / 2)) * blocksAcross (max 1 (mipHeight / 2)) * 8 := by
    rcases h with h | h
    · exact expectedSize_half h hw hh
    · rw [Nat.mul_comm (blocksAcross _)]
      exact expectedSize_half h hh hw
  rw [mipLoop]
  dsimp only
  rw [hnone]
  by_cases hstart : file.length < offset ∨ file.length - offset < 4
  · rw [if_pos hstart, decide_eq_false]
    omega
  · rw [if_neg hstart]
    by_cases hsize : readLe32 file offset = 0
    · rw [hsize, if_neg (by omega)]
      show (if (convertBlocks file (offset + 4) 0).length - (offset + 4 + 0) < 0 then _ else _) = _
      rw [if_neg (by omega)]
      cases levels with
      | zero =>
        rw [decide_eq_true ⟨rfl, by omega, rfl⟩]
        rfl
      | succ levels =>
        rw [mipLoop_rejects hnext, decide_eq_false (by omega)]
        rfl
    · rw [if_pos (.inl hsize), decide_eq_false]
      exact fun hall => hsize hall.2.2

end

/-! ## The whole transcoding -/

/-- What a successful transcoding promises: every level was in place, its blocks have been
    replaced by their conversions, the format word says so, and no other byte differs. -/
structure Transcoded (file out : File) : Prop where
  length : out.length = file.length
  stored : ∀ level < mipLevels file, LevelStored file level
  format : readLe32 out 28 = kGlCompressedRgbS3tcDxt1
  blocks : ∀ level < mipLevels file, ∀ n < imageBytes file level / 8,
    blockAt out (imageOffset file level + n * 8) =
      convertEtc1RgbBlockToBc1 (blockAt file (imageOffset file level + n * 8))
  rest : ∀ i, ¬(28 ≤ i ∧ i < 32) →
    (∀ level < mipLevels file, ¬(imageOffset file level ≤ i ∧ i < imageOffset file level + imageBytes file level)) →
    byteOf out i = byteOf file i

/-- A false result leaves the file alone, a true one has transcoded all of it. -/
def Atomic (file : File) : Prop :=
  ((transcodeKtx1Etc1 file).1 = false → (transcodeKtx1Etc1 file).2 = file) ∧
    ((transcodeKtx1Etc1 file).1 = true → Transcoded file (transcodeKtx1Etc1 file).2)

/-- Dimensions whose rounding up to blocks fits 32 bits. -/
def DimensionsFit (file : File) : Prop := width file < 2 ^ 32 - 3 ∧ height file < 2 ^ 32 - 3

/-- No level in need of conversion comes before one that is not in place, and dimensions that
    wrap do not meet a single level that says it has no bytes. -/
structure Spared (file : File) : Prop where
  fits : DimensionsFit file → ∀ bad < mipLevels file, (∀ level < bad, LevelStored file level) → ¬LevelStored file bad →
    ∀ level < bad, LevelFixed file level
  wraps : ¬DimensionsFit file →
    ¬(mipLevels file = 1 ∧ sizeOffset file 0 + 4 ≤ file.length ∧ readLe32 file (sizeOffset file 0) = 0)

section
variable {file : File}

theorem headerAccepted_facts (h : headerAccepted file = true) :
    kHeaderSize ≤ file.length ∧ 0 < width file ∧ 0 < height file ∧ 0 < mipLevels file := by
  simp only [headerAccepted, Bool.and_eq_true, decide_eq_true_eq, Bool.not_eq_true', Bool.or_eq_false_iff, beq_eq_false_iff_ne,
    ne_eq] at h
  omega

theorem byteOf_formatWord {level i : Nat} (hi : kHeaderSize ≤ i) :
    byteOf (overwrite (convertedLevels file level) 28 (le32 kGlCompressedRgbS3tcDxt1)) i =
      byteOf (convertedLevels file level) i :=
  byteOf_overwrite_out (.inr (by simp only [le32, List.length_cons, List.length_nil, kHeaderSize] at *; omega))

theorem sizeOffset_header (file : File) (level : Nat) : kHeaderSize ≤ sizeOffset file level := by
  induction level with
  | zero => exact Nat.le_add_right ..
  | succ level ih =>
    rw [sizeOffset]
    omega

theorem transcoded_levels (hlen : kHeaderSize ≤ file.length) (hstored : ∀ level < mipLevels file, LevelStored file level) :
    Transcoded file (overwrite (convertedLevels file (mipLevels file)) 28 (le32 kGlCompressedRgbS3tcDxt1)) := by
  have hheader := sizeOffset_header file
  refine ⟨by simp, hstored, ?_, ?_, ?_⟩
  · have hword : ∀ k < 4, byteOf (overwrite (convertedLevels file (mipLevels file)) 28 (le32 kGlCompressedRgbS3tcDxt1)) (28 + k) =
        (le32 kGlCompressedRgbS3tcDxt1).getD k 0 := by
      intro k hk
      rw [byteOf_overwrite, if_pos, Nat.add_sub_cancel_left]
      simp only [length_convertedLevels, le32, List.length_cons, List.length_nil, kHeaderSize] at *
      omega
    have h0 := hword 0 (by decide)
    rw [Nat.add_zero] at h0
    rw [readLe32, h0, hword 1 (by decide), hword 2 (by decide), hword 3 (by decide)]
    decide
  · intro level hl n hn
    rw [← blockAt_convertedLevels hl hstored hn]
    apply blockAt_congr
    intro k _
    apply byteOf_formatWord
    have hplace := hheader level
    rw [imageOffset]
    omega
  · intro i hword himages
    rw [byteOf_overwrite_out, byteOf_convertedLevels_out himages]
    simp only [le32, List.length_cons, List.length_nil]
    omega

/-- The files that pass the header and whose dimensions fit. -/
theorem atomic_fits (h : headerAccepted file = true) (hfit : DimensionsFit file) :
    Atomic file ↔ ∀ bad < mipLevels file, (∀ level < bad, LevelStored file level) → ¬LevelStored file bad →
      ∀ level < bad, LevelFixed file level := by
  obtain ⟨hlen, hw, hh, hlevels⟩ := headerAccepted_facts h
  rcases mipLoop_file hfit.1 hfit.2 hw hh with ⟨bad, hlt, hbefore, hbad, hrun⟩ | ⟨hall, hrun⟩
  · have hresult : transcodeKtx1Etc1 file = (false, convertedLevels file bad) := by
      rw [transcodeKtx1Etc1, if_pos h, hrun]
      rfl
    rw [Atomic, hresult]
    constructor
    · rintro ⟨hsame, -⟩ other - hothers hother
      -- there is only one first level that is not in place
      obtain hlt' | rfl | hlt' := Nat.lt_trichotomy other bad
      · exact absurd (hbefore other hlt') hother
      · exact (convertedLevels_eq_iff hbefore).mp (hsame rfl)
      · exact absurd (hothers bad hlt') hbad
    · intro hfixed
      refine ⟨fun _ => ?_, fun htrue => Bool.noConfusion htrue⟩
      exact (convertedLevels_eq_iff hbefore).mpr (hfixed bad hlt hbefore hbad)
  · have hresult : transcodeKtx1Etc1 file =
        (true, overwrite (convertedLevels file (mipLevels file)) 28 (le32 kGlCompressedRgbS3tcDxt1)) := by
      rw [transcodeKtx1Etc1, if_pos h, hrun]
      rfl
    rw [Atomic, hresult]
    constructor
    · intro _ bad hlt _ hbad
      exact absurd (hall bad hlt) hbad
    · intro _
      exact ⟨fun hfalse => Bool.noConfusion hfalse, fun _ => transcoded_levels hlen hall⟩

/-- The files that pass the header and whose dimensions wrap. -/
theorem atomic_wraps (h : headerAccepted file = true) (hwrap : ¬DimensionsFit file) :
    Atomic file ↔
      ¬(mipLevels file = 1 ∧ sizeOffset file 0 + 4 ≤ file.length ∧ readLe32 file (sizeOffset file 0) = 0) := by
  obtain ⟨-, -, -, hlevels⟩ := headerAccepted_facts h
  have hdims : 2 ^ 32 - 3 ≤ width file ∨ 2 ^ 32 - 3 ≤ height file := by
    unfold DimensionsFit at hwrap
    omega
  obtain ⟨levels, hcount⟩ : ∃ levels, mipLevels file = levels + 1 := ⟨mipLevels file - 1, by omega⟩
  have hrun : mipLoop (levels + 1) file (sizeOffset file 0) (width file) (height file) = _ :=
    mipLoop_wrapped levels (sizeOffset file 0) (readLe32_lt file 36) (readLe32_lt file 40) hdims
  have hone : levels = 0 ↔ mipLevels file = 1 := by omega
  simp only [hone] at hrun
  rw [← hcount] at hrun
  change mipLoop (mipLevels file) file (kHeaderSize + keyValueBytes file) (width file) (height file) = _ at hrun
  have hsize : readLe32 file (sizeOffset file 0) = 0 → ¬LevelStored file 0 := by
    intro hzero hstored
    have hbytes : 0 < imageBytes file 0 := by
      unfold imageBytes mipSize
      have hw : 0 < (max 1 (width file / 2 ^ 0) + 3) / 4 := by omega
      have hh : 0 < (max 1 (height file / 2 ^ 0) + 3) / 4 := by omega
      have hprod := Nat.mul_pos hw hh
      omega
    have hread := hstored.2.1
    omega
  by_cases hstop : mipLevels file = 1 ∧ sizeOffset file 0 + 4 ≤ file.length ∧ readLe32 file (sizeOffset file 0) = 0
  · have hresult : transcodeKtx1Etc1 file = (true, overwrite file 28 (le32 kGlCompressedRgbS3tcDxt1)) := by
      rw [decide_eq_true hstop] at hrun
      rw [transcodeKtx1Etc1, if_pos h, hrun]
      rfl
    rw [Atomic, hresult]
    constructor
    · intro hatomic
      exact absurd ((hatomic.2 rfl).stored 0 hlevels) (hsize hstop.2.2)
    · intro hnot
      exact absurd hstop hnot
  · have hresult : transcodeKtx1Etc1 file = (false, file) := by
      rw [decide_eq_false hstop] at hrun
      rw [transcodeKtx1Etc1, if_pos h, hrun]
      rfl
    rw [Atomic, hresult]
    exact ⟨fun _ => hstop, fun _ => ⟨fun _ => rfl, fun htrue => Bool.noConfusion htrue⟩⟩

end

/-- Transcoding is all or nothing exactly for the files that the header rejects and those that
    are spared. -/
theorem transcodeKtx1Etc1_atomic (file : File) : Atomic file ↔ (headerAccepted file = true → Spared file) := by
  by_cases h : headerAccepted file = true
  · by_cases hfit : DimensionsFit file
    · rw [atomic_fits h hfit]
      constructor
      · intro hfixed _
        exact ⟨fun _ => hfixed, fun hwrap => absurd hfit hwrap⟩
      · intro hspared
        exact (hspared h).fits hfit
    · rw [atomic_wraps h hfit]
      constructor
      · intro hstop _
        exact ⟨fun hfits => absurd hfits hfit, fun _ => hstop⟩
      · intro hspared
        exact (hspared h).wraps hfit
  · have hresult : transcodeKtx1Etc1 file = (false, file) := by rw [transcodeKtx1Etc1, if_neg h]
    rw [Atomic, hresult]
    exact ⟨fun _ haccepted => absurd haccepted h, fun _ => ⟨fun _ => rfl, fun htrue => Bool.noConfusion htrue⟩⟩

/-- A texture of 4 by 4 with two levels, of which the file holds the first. -/
def cutShort : File :=
  kKtx1Identifier ++ [kKtx1LittleEndian, 0, 1, 0, kGlEtc1Rgb8Oes, kGlRgb, 4, 4, 0, 0, 1, 2, 0, 8, 0, 0].flatMap le32

theorem transcodeKtx1Etc1_half_done : ¬Atomic cutShort := by
  have hchanged : (transcodeKtx1Etc1 cutShort).1 = false ∧ byteOf (transcodeKtx1Etc1 cutShort).2 68 ≠ byteOf cutShort 68 := by
    decide +kernel
  intro hatomic
  exact hchanged.2 (by rw [hatomic.1 hchanged.1])

end Mocktail.Sky

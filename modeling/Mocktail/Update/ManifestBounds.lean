/-
  Mocktail.Update.ManifestBounds — the manifest parser stays inside its input and ends.

  Each function has one lemma: for an input of at most 16 MiB all its events are allowed,
  they cost at most so much, and what it returns is in bounds. The loop over the chunks is
  left at the latest after as many steps as the input has bytes, since each step goes on by
  at least 8 (`sound_scanChunks`), so the parser never runs out of fuel. The pool is read
  once: at most a quarter as many strings as the input has bytes, each of at most its chunk.
-/

import Mathlib.Data.List.GetD
import Mocktail.Update.AndroidManifest

namespace Mocktail.Update.Manifest

open Mocktail.Lib Mocktail.Launch

abbrev Sound {α : Type} (n w : Nat) (x : Traced Event α) (Q : α → Prop) : Prop := x.Meets (Event.Ok n) Event.cost w Q

/-! ## Reads and numbers -/

variable {n : Nat} {value : Int}

theorem sound_unsigned {bits : Nat} (h : 0 ≤ value ∧ value < 2 ^ bits) :
    Sound n 1 (unsigned bits value) fun r => (r : Int) = value := by
  refine .one h (Nat.le_refl _) ?_
  rw [Int.emod_eq_of_lt h.1 h.2, Int.toNat_of_nonneg h.1]

theorem sound_sizeT (h : 0 ≤ value ∧ value < 2 ^ 64) : Sound n 1 (sizeT value) fun r => (r : Int) = value :=
  sound_unsigned h

theorem sound_signed (h : 0 ≤ value ∧ value < 2 ^ 31) : Sound n 1 (signed value) fun r => r = value :=
  .one ⟨by omega, h.2⟩ (Nat.le_refl _) rfl

variable {input : Bytes} {view : View}

theorem sound_byte {i : Nat} (hview : view.base + view.size ≤ n) (hi : i < view.size) :
    Sound n 1 (byte input view i) (· < 2 ^ 8) :=
  .one ⟨by omega, by omega, hview⟩ (Nat.le_refl _) (UInt8.toNat_lt _)

variable {offset : Nat}

theorem sound_pairAt (hn : n ≤ 2 ^ 24) (hview : view.base + view.size ≤ n) (hi : offset + 2 ≤ view.size) :
    Sound n 3 (pairAt input view offset) (· < 2 ^ 16) := by
  unfold pairAt
  refine .bind (sound_byte hview (by omega)) (by decide) fun low hlow => ?_
  refine .bind (sound_sizeT (by omega)) (by decide) fun second hsecond => ?_
  refine .bind (sound_byte hview (by omega)) (by decide) fun high hhigh => ?_
  exact .pure (by omega)

/-- A value that has been read lies in the input. -/
def Within (n offset size : Nat) (value : Option Nat) : Prop := ∀ v, value = some v → offset + size ≤ n ∧ v < 2 ^ (8 * size)

variable {attributeSize attributes cursor dataType index remaining size typedData : Nat}

theorem within_none {offset : Nat} : Within n offset size none := by
  intro v hv
  cases hv

theorem within_some {offset v : Nat} (h : offset + size ≤ n) (hv : v < 2 ^ (8 * size)) : Within n offset size (some v) := by
  intro v' hv'
  cases hv'
  exact ⟨h, hv⟩

theorem sound_readU16 (hn : input.length ≤ 2 ^ 24) :
    Sound input.length 4 (readU16 input offset) (Within input.length offset 2) := by
  unfold readU16
  refine .ite (fun _ => .pure within_none) fun hoffset => ?_
  refine .bind (sound_sizeT (by omega)) (by decide) fun left hleft => ?_
  refine .ite (fun _ => .pure within_none) fun hshort => ?_
  refine .bind (sound_pairAt hn (by simp) (by simp only; omega)) (by decide) fun value hvalue => ?_
  exact .pure (within_some (by omega) hvalue)

theorem sound_readU32 (hn : input.length ≤ 2 ^ 24) :
    Sound input.length 8 (readU32 input offset) (Within input.length offset 4) := by
  unfold readU32
  refine .ite (fun _ => .pure within_none) fun hoffset => ?_
  refine .bind (sound_sizeT (by omega)) (by decide) fun left hleft => ?_
  refine .ite (fun _ => .pure within_none) fun hshort => ?_
  refine .bind (sound_pairAt hn (by simp) (by simp only; omega)) (by decide) fun low hlow => ?_
  refine .bind (sound_sizeT (by omega)) (by decide) fun third hthird => ?_
  refine .bind (sound_pairAt hn (by simp) (by simp only; omega)) (by decide) fun high hhigh => ?_
  exact .pure (within_some (by omega) (by omega))

/-- A chunk of the input. -/
structure ChunkOk (n offset : Nat) (chunk : Chunk) : Prop where
  header_ge : 8 ≤ chunk.headerSize
  header_le : chunk.headerSize ≤ chunk.size
  fits : offset + chunk.size ≤ n

theorem sound_readChunk (hn : input.length ≤ 2 ^ 24) (ho : offset ≤ input.length) :
    Sound input.length 19 (readChunk input offset) fun r => ∀ chunk, r = some chunk → ChunkOk input.length offset chunk := by
  have hnone : ∀ chunk : Chunk, (none : Option Chunk) = some chunk → ChunkOk input.length offset chunk := fun _ h => by cases h
  unfold readChunk
  refine .bind (sound_readU16 hn) (by decide) fun type htype => ?_
  cases type with
  | none => exact .pure hnone
  | some type =>
    refine .bind (sound_sizeT (by omega)) (by decide) fun headerAt hheaderAt => ?_
    refine .bind (sound_readU16 hn) (by decide) fun headerSize hheader => ?_
    cases headerSize with
    | none => exact .pure hnone
    | some headerSize =>
      refine .bind (sound_sizeT (by omega)) (by decide) fun sizeAt hsizeAt => ?_
      refine .bind (sound_readU32 hn) (by decide) fun size hsize => ?_
      cases size with
      | none => exact .pure hnone
      | some size =>
        refine .ite (fun _ => .pure hnone) fun hsane => ?_
        refine .bind (sound_sizeT (by omega)) (by decide) fun left hleft => ?_
        refine .ite (fun _ => .pure hnone) fun hfits => .pure ?_
        intro chunk hchunk
        cases hchunk
        exact ⟨by simp only; omega, by simp only; omega, by simp only; omega⟩

/-! ## Strings -/

theorem sound_readUtf8Length (hn : n ≤ 2 ^ 24) (hview : view.base + view.size ≤ n) :
    Sound n 5 (readUtf8Length input view cursor) fun r =>
      ∀ length next, r = some (length, next) → next ≤ view.size ∧ length < 2 ^ 15 := by
  unfold readUtf8Length
  refine .ite (fun _ => .pure (fun _ _ h => by cases h)) fun hcursor => ?_
  refine .bind (sound_byte hview (by omega)) (by decide) fun first hfirst => ?_
  refine .bind (sound_sizeT (by omega)) (by decide) fun next hnext => ?_
  refine .ite (fun hsmall => .pure ?_) fun hlarge => ?_
  · intro length after h
    cases h
    exact ⟨by omega, by omega⟩
  · refine .ite (fun _ => .pure (fun _ _ h => by cases h)) fun hcursor' => ?_
    refine .bind (sound_byte hview (by omega)) (by decide) fun second hsecond => ?_
    refine .bind (sound_sizeT (by omega)) (by decide) fun after hafter => ?_
    refine .bind (sound_sizeT (by omega)) (by decide) fun length hlength => .pure ?_
    intro length' after' h
    cases h
    exact ⟨by omega, by omega⟩

theorem sound_readUtf16Length (hn : n ≤ 2 ^ 24) (hview : view.base + view.size ≤ n) :
    Sound n 11 (readUtf16Length input view cursor) fun r =>
      ∀ length next, r = some (length, next) → next ≤ view.size ∧ length < 2 ^ 31 := by
  unfold readUtf16Length
  refine .ite (fun _ => .pure (fun _ _ h => by cases h)) fun hcursor => ?_
  refine .bind (sound_sizeT (by omega)) (by decide) fun left hleft => ?_
  refine .ite (fun _ => .pure (fun _ _ h => by cases h)) fun hshort => ?_
  refine .bind (sound_pairAt hn hview (by omega)) (by decide) fun first hfirst => ?_
  refine .bind (sound_sizeT (by omega)) (by decide) fun next hnext => ?_
  refine .ite (fun hsmall => .pure ?_) fun hlarge => ?_
  · intro length after h
    cases h
    exact ⟨by omega, by omega⟩
  · refine .ite (fun _ => .pure (fun _ _ h => by cases h)) fun hcursor' => ?_
    refine .bind (sound_sizeT (by omega)) (by decide) fun left' hleft' => ?_
    refine .ite (fun _ => .pure (fun _ _ h => by cases h)) fun hshort' => ?_
    refine .bind (sound_pairAt hn hview (by omega)) (by decide) fun second hsecond => ?_
    refine .bind (sound_sizeT (by omega)) (by decide) fun after hafter => ?_
    refine .bind (sound_sizeT (by omega)) (by decide) fun length hlength => .pure ?_
    intro length' after' h
    cases h
    exact ⟨by omega, by omega⟩

theorem sound_copyBytes {count : Nat} (hview : view.base + view.size ≤ n) (hc : cursor + count ≤ view.size) :
    Sound n count (copyBytes input view count cursor) fun text => text.length = count := by
  induction count generalizing cursor with
  | zero => exact .pure rfl
  | succ count ih =>
    unfold copyBytes
    refine .bind (sound_byte hview (by omega)) (by omega) fun value _ => ?_
    refine .bind (ih (by omega)) (by omega) fun rest hrest => ?_
    exact .pure (by rw [List.length_cons, hrest])

/-- A string that has been read is at most twice as long as the input. -/
def Bounded (n : Nat) (r : Except String Text) : Prop := ∀ text, r = .ok text → text.length ≤ 2 * n

theorem bounded_error {e : String} : Bounded n (.error e) := by
  intro text h
  cases h

theorem sound_readUtf8 (hn : n ≤ 2 ^ 24) (hview : view.base + view.size ≤ n) :
    Sound n (13 + n) (readUtf8 input view) (Bounded n) := by
  unfold readUtf8
  refine .bind (sound_readUtf8Length hn hview) (by omega) fun first hfirst => ?_
  rcases first with _ | ⟨length, cursor⟩
  · exact .pure bounded_error
  · refine .bind (sound_readUtf8Length hn hview) (by omega) fun second hsecond => ?_
    rcases second with _ | ⟨byteLength, cursor⟩
    · exact .pure bounded_error
    · obtain ⟨hcursor, hlength⟩ := hsecond _ _ rfl
      refine .ite (fun _ => .pure bounded_error) fun _ => ?_
      refine .bind (sound_sizeT (by omega)) (by omega) fun left hleft => ?_
      refine .ite (fun _ => .pure bounded_error) fun hroom => ?_
      refine .bind (sound_sizeT (by omega)) (by omega) fun terminator hterminator => ?_
      refine .bind (sound_byte hview (by omega)) (by omega) fun last _ => ?_
      refine .ite (fun _ => .pure bounded_error) fun _ => ?_
      refine .bind (sound_copyBytes hview (by omega)) (by omega) fun value hvalue => .pure ?_
      intro text h
      cases h
      omega

theorem length_appendUtf8 (point : Nat) : (appendUtf8 point).length ≤ 3 := by
  unfold appendUtf8
  split
  · simp
  · split
    · simp
    · simp

theorem sound_readCharacters {character : Nat} (hn : n ≤ 2 ^ 24) (hview : view.base + view.size ≤ n)
    (hc : cursor + (character + remaining) * 2 ≤ view.size) :
    Sound n (6 * remaining) (readCharacters input view cursor remaining character) fun r =>
      ∀ text, r = .ok text → text.length ≤ 3 * remaining := by
  induction remaining generalizing character with
  | zero =>
    refine .pure ?_
    intro text h
    cases h
    exact Nat.zero_le _
  | succ remaining ih =>
    unfold readCharacters
    refine .bind (sound_sizeT (by omega)) (by omega) fun scaled hscaled => ?_
    refine .bind (sound_sizeT (by omega)) (by omega) fun position hposition => ?_
    refine .bind (sound_pairAt hn hview (by omega)) (by omega) fun point _ => ?_
    refine .ite (fun _ => .pure (fun _ h => by cases h)) fun _ => ?_
    refine .bind (sound_sizeT (by omega)) (by omega) fun next hnext => ?_
    refine .bind (ih (by omega)) (by omega) fun rest hrest => ?_
    cases rest with
    | error e => exact .pure (fun _ h => by cases h)
    | ok rest =>
      refine .pure ?_
      intro text h
      cases h
      have h3 := length_appendUtf8 point
      have hr := hrest rest rfl
      rw [List.length_append]
      omega

theorem sound_readUtf16 (hn : n ≤ 2 ^ 24) (hview : view.base + view.size ≤ n) :
    Sound n (13 + 3 * n) (readUtf16 input view) (Bounded n) := by
  unfold readUtf16
  refine .bind (sound_readUtf16Length hn hview) (by omega) fun first hfirst => ?_
  rcases first with _ | ⟨characterLength, cursor⟩
  · exact .pure bounded_error
  · obtain ⟨hcursor, hlength⟩ := hfirst _ _ rfl
    refine .bind (sound_sizeT (by omega)) (by omega) fun left hleft => ?_
    refine .ite (fun _ => .pure bounded_error) fun hroom => ?_
    refine Traced.Meets.mono (sound_readCharacters hn hview (by omega)) (by omega) ?_
    intro r hr text htext
    have hlen := hr text htext
    omega

/-! ## The string pool -/

/-- A pool header that fits its chunk. -/
structure HeaderOk (chunk : Chunk) (header : PoolHeader) : Prop where
  start_lt : header.stringsStart < chunk.size
  table_le : chunk.headerSize + header.count * 4 ≤ chunk.size

variable {chunk : Chunk}

theorem sound_readPoolHeader (hn : input.length ≤ 2 ^ 24) (hchunk : ChunkOk input.length offset chunk) :
    Sound input.length 29 (readPoolHeader input offset chunk) fun r => ∀ header, r = some header → HeaderOk chunk header := by
  have hnone : ∀ header : PoolHeader, (none : Option PoolHeader) = some header → HeaderOk chunk header := fun _ h => by cases h
  obtain ⟨hge, hle, hfits⟩ := hchunk
  unfold readPoolHeader
  refine .ite (fun _ => .pure hnone) fun _ => ?_
  refine .bind (sound_sizeT (by omega)) (by decide) fun countAt _ => ?_
  refine .bind (sound_readU32 hn) (by decide) fun count hcount => ?_
  cases count with
  | none => exact .pure hnone
  | some count =>
    refine .ite (fun _ => .pure hnone) fun hmany => ?_
    refine .bind (sound_sizeT (by omega)) (by decide) fun flagsAt _ => ?_
    refine .bind (sound_readU32 hn) (by decide) fun flags _ => ?_
    cases flags with
    | none => exact .pure hnone
    | some flags =>
      refine .bind (sound_sizeT (by omega)) (by decide) fun startAt _ => ?_
      refine .bind (sound_readU32 hn) (by decide) fun stringsStart _ => ?_
      cases stringsStart with
      | none => exact .pure hnone
      | some stringsStart =>
        refine .ite (fun _ => .pure hnone) fun hstart => ?_
        refine .bind (sound_unsigned (by omega)) (by decide) fun table htable => ?_
        refine .bind (sound_unsigned (by omega)) (by decide) fun room hroom => ?_
        refine .ite (fun _ => .pure hnone) fun hfit => .pure ?_
        intro header h
        cases h
        exact ⟨by simp only; omega, by simp only; omega⟩

theorem sound_slice {base : Nat} (hn : input.length ≤ 2 ^ 24) (hfits : base + size ≤ input.length) :
    Sound input.length 1 (slice input base size) fun storage => storage = ⟨base, size⟩ := by
  unfold slice
  refine .ite (fun _ => absurd hfits (by omega)) fun _ => ?_
  refine .bind (sound_sizeT (by omega)) (by decide) fun left hleft => ?_
  exact .ite (fun _ => absurd hfits (by omega)) fun _ => .pure rfl

/-- What a string of an input costs. -/
def stringCost (n : Nat) : Nat := 19 + 3 * n

theorem sound_readString {offset relative : Nat} {header : PoolHeader} (hn : input.length ≤ 2 ^ 24)
    (hchunk : ChunkOk input.length offset chunk) (hheader : HeaderOk chunk header)
    (hrelative : relative < chunk.size - header.stringsStart) :
    Sound input.length (stringCost input.length) (readString input offset chunk header relative) (Bounded input.length) := by
  obtain ⟨hge, hle, hfits⟩ := hchunk
  have hstart := hheader.start_lt
  unfold readString stringCost
  refine .bind (sound_sizeT (by omega)) (by omega) fun start _ => ?_
  refine .bind (sound_sizeT (by omega)) (by omega) fun base hbase => ?_
  refine .bind (sound_unsigned (by omega)) (by omega) fun room hroom => ?_
  refine .bind (sound_unsigned (by omega)) (by omega) fun size hsize => ?_
  refine .bind (sound_slice hn (by omega)) (by omega) fun storage hstorage => ?_
  subst hstorage
  have hinside : Event.Ok input.length (.view offset (offset + chunk.size) base size) := ⟨by omega, by omega, hfits⟩
  refine .bind (v := 1) (.emit hinside (Nat.le_refl _)) (by omega) fun _ _ => ?_
  refine .ite (fun _ => ?_) fun _ => ?_
  · exact Traced.Meets.mono (sound_readUtf8 hn (by simp only; omega)) (by omega) fun _ h => h
  · exact Traced.Meets.mono (sound_readUtf16 hn (by simp only; omega)) (by omega) fun _ h => h

/-- Strings of a pool. -/
def PoolOk (n : Nat) (pool : List Text) : Prop := ∀ text ∈ pool, text.length ≤ 2 * n

theorem sound_readStrings {offset : Nat} {header : PoolHeader} (hn : input.length ≤ 2 ^ 24)
    (hchunk : ChunkOk input.length offset chunk) (hheader : HeaderOk chunk header) (hindex : index + remaining = header.count) :
    Sound input.length (remaining * (stringCost input.length + 13)) (readStrings input offset chunk header remaining index)
      fun r =>
      ∀ pool, r = .ok pool → PoolOk input.length pool := by
  have herror (e : String) : ∀ pool, (.error e : Except String (List Text)) = .ok pool → PoolOk input.length pool :=
    fun _ h => by cases h
  induction remaining generalizing index with
  | zero =>
    refine .pure ?_
    intro pool h
    cases h
    exact fun _ ht => (List.not_mem_nil ht).elim
  | succ remaining ih =>
    have hge := hchunk.header_ge
    have hle := hchunk.header_le
    have hfits := hchunk.fits
    have hstart := hheader.start_lt
    have htable := hheader.table_le
    rw [Nat.succ_mul]
    unfold readStrings
    refine .bind (sound_unsigned (by omega)) (by omega) fun scaled hscaled => ?_
    refine .bind (sound_sizeT (by omega)) (by omega) fun table htable' => ?_
    refine .bind (sound_sizeT (by omega)) (by omega) fun entry hentry => ?_
    refine .bind (sound_readU32 hn) (by omega) fun relative _ => ?_
    cases relative with
    | none => exact .pure (herror _)
    | some relative =>
      refine .bind (sound_unsigned (by omega)) (by omega) fun room hroom => ?_
      refine .ite (fun _ => .pure (herror _)) fun hrelative => ?_
      refine .bind (sound_readString hn hchunk hheader (by omega)) (by omega) fun value hvalue => ?_
      cases value with
      | error e => exact .pure (herror _)
      | ok value =>
        refine .bind (sound_unsigned (by omega)) (by omega) fun next hnext => ?_
        refine .bind (ih (by omega)) (by omega) fun rest hrest => ?_
        cases rest with
        | error e => exact .pure (herror _)
        | ok rest =>
          refine .pure ?_
          intro pool h
          cases h
          intro text htext
          rcases List.mem_cons.mp htext with rfl | htext
          · exact hvalue _ rfl
          · exact hrest rest rfl text htext

/-- What the pool of an input costs. -/
def poolCost (n : Nat) : Nat := 29 + n + n * (stringCost n + 13)

theorem sound_parseStringPool (hn : input.length ≤ 2 ^ 24) (hchunk : ChunkOk input.length offset chunk) :
    Sound input.length (poolCost input.length) (parseStringPool input offset chunk) fun r =>
      ∀ pool, r = .ok pool → PoolOk input.length pool := by
  unfold parseStringPool poolCost
  refine .bind (sound_readPoolHeader hn hchunk) (by omega) fun header hheader => ?_
  cases header with
  | none => exact .pure (fun _ h => by cases h)
  | some header =>
    have hok := hheader header rfl
    have htable := hok.table_le
    have hfits := hchunk.fits
    have hmul : header.count * (stringCost input.length + 13) ≤ input.length * (stringCost input.length + 13) :=
      Nat.mul_le_mul_right _ (by omega)
    refine .bind (v := header.count) (.emit trivial (Nat.le_refl _)) (by omega) fun _ _ => ?_
    exact Traced.Meets.mono (sound_readStrings hn hchunk hok (by omega)) (by omega) fun _ h => h

variable {pool : List Text}

theorem sound_poolString (hpool : PoolOk n pool) :
    Sound n (1 + 2 * n) (poolString pool index) fun r => ∀ text, r = some text → text.length ≤ 2 * n := by
  have hnone : ∀ text : Text, (none : Option Text) = some text → text.length ≤ 2 * n := fun _ h => by cases h
  unfold poolString
  refine .ite (fun _ => .pure hnone) fun _ => .ite (fun _ => .pure hnone) fun hindex => ?_
  have hlen : (pool.getD index []).length ≤ 2 * n := by
    rw [List.getD_eq_getElem _ _ (by omega)]
    exact hpool _ (List.getElem_mem _)
  refine .bind (v := 1) (.emit (show index < pool.length by omega) (Nat.le_refl _)) (by omega) fun _ _ => ?_
  refine .bind (v := (pool.getD index []).length) (.emit trivial (Nat.le_refl _)) (by omega) fun _ _ => .pure ?_
  intro text h
  cases h
  exact hlen

/-! ## The manifest element -/

theorem sound_readWords {place : Nat} (hn : input.length ≤ 2 ^ 24) (hplace : place ≤ input.length) :
    Sound input.length 27 (readWords input place) fun r => ∀ words, r = some words → place + 20 ≤ input.length := by
  unfold readWords
  refine .bind (sound_sizeT (by omega)) (by decide) fun nameAt _ => ?_
  refine .bind (sound_readU32 hn) (by decide) fun name _ => ?_
  cases name with
  | none => exact .pure (fun _ h => by cases h)
  | some name =>
    refine .bind (sound_sizeT (by omega)) (by decide) fun rawAt _ => ?_
    refine .bind (sound_readU32 hn) (by decide) fun raw _ => ?_
    cases raw with
    | none => exact .pure (fun _ h => by cases h)
    | some raw =>
      refine .bind (sound_sizeT (by omega)) (by decide) fun typedAt htypedAt => ?_
      refine .bind (sound_readU32 hn) (by decide) fun typed htyped => ?_
      cases typed with
      | none => exact .pure (fun _ h => by cases h)
      | some typed =>
        have hin := (htyped typed rfl).1
        exact .pure (fun _ _ => by omega)

theorem sound_readValue {rawIndex : Nat} (hpool : PoolOk n pool) :
    Sound n (2 + 4 * n) (readValue pool rawIndex typedData dataType) fun r => ∀ text, r = some text → text.length ≤ 2 * n := by
  unfold readValue
  refine .bind (sound_poolString hpool) (by omega) fun value hvalue => ?_
  cases value with
  | some value => exact .pure hvalue
  | none =>
    refine .ite (fun _ => ?_) fun _ => .pure (fun _ h => by cases h)
    exact Traced.Meets.mono (sound_poolString hpool) (by omega) fun _ h => h

variable {result : AndroidManifestIdentity}

theorem sound_applyAttribute {name : Text} {value : Option Text}
    (hvalue : ∀ text, value = some text → text.length ≤ 2 * n) :
    Sound n (2 * n) (applyAttribute name value dataType typedData result) fun _ => True := by
  unfold applyAttribute
  cases value with
  | none => exact .ite (fun _ => .pure trivial) fun _ => .pure trivial
  | some text =>
    have hlen := hvalue text rfl
    have hcopy (r : AndroidManifestIdentity) :
        Sound n (2 * n) (do Traced.emit (.copy text.length); return r) fun _ => True :=
      .bind (v := text.length) (.emit trivial (Nat.le_refl _)) hlen fun _ _ => .pure trivial
    refine .ite (fun _ => hcopy _) fun _ => .ite (fun _ => hcopy _) fun _ => .ite (fun _ => hcopy _) fun _ => ?_
    exact .ite (fun _ => .pure trivial) fun _ => .pure trivial

/-- What an attribute of an input costs. -/
def attributeCost (n : Nat) : Nat := 34 + 8 * n

theorem sound_readAttribute
    (hn : input.length ≤ 2 ^ 24) (hpool : PoolOk input.length pool) (hin : attributes + index * attributeSize ≤ input.length) :
    Sound input.length (attributeCost input.length) (readAttribute input pool attributes attributeSize index result) fun _ =>
      True := by
  unfold readAttribute attributeCost
  have hcast : (index : Int) * attributeSize = ((index * attributeSize : Nat) : Int) := by push_cast; rfl
  refine .bind (sound_signed (by omega)) (by omega) fun scaled hscaled => ?_
  refine .bind (sound_sizeT (by omega)) (by omega) fun place hplace => ?_
  refine .bind (sound_readWords hn (by omega)) (by omega) fun words hwords => ?_
  rcases words with _ | ⟨nameIndex, rawIndex, typedData⟩
  · exact .pure trivial
  · have hlast := hwords _ rfl
    refine .bind (sound_poolString hpool) (by omega) fun name _ => ?_
    cases name with
    | none => exact .pure trivial
    | some name =>
      refine .bind (sound_sizeT (by omega)) (by omega) fun typeAt htypeAt => ?_
      refine .bind (sound_byte (by simp) (by simp only; omega)) (by omega) fun dataType _ => ?_
      refine .bind (sound_readValue hpool) (by omega) fun value hvalue => ?_
      refine .bind (sound_applyAttribute hvalue) (by omega) fun _ _ => .pure trivial

theorem sound_readAttributes
    (hn : input.length ≤ 2 ^ 24) (hpool : PoolOk input.length pool) (hcount : index + remaining < 2 ^ 16)
    (hin : attributes + (index + remaining) * attributeSize ≤ input.length) :
    Sound input.length (remaining * (attributeCost input.length + 1))
      (readAttributes input pool attributes attributeSize remaining index result) fun _ => True := by
  induction remaining generalizing index result with
  | zero => exact .ite (fun _ => .pure trivial) fun _ => .pure trivial
  | succ remaining ih =>
    have hmul : index * attributeSize ≤ (index + (remaining + 1)) * attributeSize := Nat.mul_le_mul_right _ (by omega)
    rw [Nat.succ_mul]
    unfold readAttributes
    refine .bind (sound_readAttribute hn hpool (by omega)) (by omega) fun result _ => ?_
    cases result with
    | none => exact .pure trivial
    | some result =>
      refine .bind (sound_unsigned (by omega)) (by omega) fun next hnext => ?_
      have hnext : next = index + 1 := by omega
      subst hnext
      have hsame : index + 1 + remaining = index + (remaining + 1) := by omega
      exact Traced.Meets.mono (ih (by omega) (by rw [hsame]; exact hin)) (by omega) fun _ h => h

/-- A start element's fields. -/
structure ElementOk (element : StartElement) : Prop where
  start_lt : element.attributeStart < 2 ^ 16
  size_lt : element.attributeSize < 2 ^ 16
  size_ge : 20 ≤ element.attributeSize
  count_lt : element.attributeCount < 2 ^ 16

theorem sound_readStartElement (hn : input.length ≤ 2 ^ 24) (ho : offset ≤ input.length) :
    Sound input.length 24 (readStartElement input offset chunk) fun r => ∀ element, r = some element → ElementOk element := by
  have hnone : ∀ element : StartElement, (none : Option StartElement) = some element → ElementOk element := fun _ h => by cases h
  unfold readStartElement
  refine .ite (fun _ => .pure hnone) fun _ => ?_
  refine .bind (sound_sizeT (by omega)) (by decide) fun tagAt _ => ?_
  refine .bind (sound_readU32 hn) (by decide) fun tag _ => ?_
  cases tag with
  | none => exact .pure hnone
  | some tag =>
    refine .bind (sound_sizeT (by omega)) (by decide) fun startAt _ => ?_
    refine .bind (sound_readU16 hn) (by decide) fun start hstart => ?_
    cases start with
    | none => exact .pure hnone
    | some start =>
      refine .bind (sound_sizeT (by omega)) (by decide) fun sizeAt _ => ?_
      refine .bind (sound_readU16 hn) (by decide) fun size hsize => ?_
      cases size with
      | none => exact .pure hnone
      | some size =>
        refine .bind (sound_sizeT (by omega)) (by decide) fun countAt _ => ?_
        refine .bind (sound_readU16 hn) (by decide) fun count hcount => ?_
        cases count with
        | none => exact .pure hnone
        | some count =>
          refine .ite (fun _ => .pure hnone) fun hge => .pure ?_
          intro element h
          cases h
          exact ⟨(hstart _ rfl).2, (hsize _ rfl).2, by simp only; omega, (hcount _ rfl).2⟩

/-- What the manifest element of an input costs. -/
def manifestCost (n : Nat) : Nat := 5 + n * (attributeCost n + 1)

theorem sound_readManifest {element : StartElement} (hn : input.length ≤ 2 ^ 24)
    (hpool : PoolOk input.length pool) (hchunk : ChunkOk input.length offset chunk) (helement : ElementOk element) :
    Sound input.length (manifestCost input.length) (readManifest input pool offset chunk element) fun _ => True := by
  obtain ⟨hstart, hsize, hsizege, hcount⟩ := helement
  have hfits := hchunk.fits
  have hproduct : element.attributeCount * element.attributeSize < 2 ^ 32 := by
    calc element.attributeCount * element.attributeSize
      _ ≤ 2 ^ 16 * element.attributeSize := Nat.mul_le_mul_right _ (by omega)
      _ < 2 ^ 16 * 2 ^ 16 := Nat.mul_lt_mul_of_pos_left hsize (by decide)
      _ = 2 ^ 32 := by decide
  have hcast : (element.attributeCount : Int) * element.attributeSize =
      ((element.attributeCount * element.attributeSize : Nat) : Int) := by push_cast; rfl
  unfold readManifest manifestCost
  refine .bind (sound_sizeT (by omega)) (by omega) fun body hbody => ?_
  refine .bind (sound_sizeT (by omega)) (by omega) fun attributes hattributes => ?_
  refine .bind (sound_sizeT (by omega)) (by omega) fun last hlast => ?_
  refine .ite (fun _ => .pure trivial) fun hinside => ?_
  refine .bind (sound_sizeT (by omega)) (by omega) fun table htable => ?_
  refine .bind (sound_sizeT (by omega)) (by omega) fun room hroom => ?_
  refine .ite (fun _ => .pure trivial) fun hroomy => ?_
  have hmany : element.attributeCount ≤ input.length := by
    have h20 : element.attributeCount * 20 ≤ element.attributeCount * element.attributeSize := Nat.mul_le_mul_left _ hsizege
    omega
  have hmul : element.attributeCount * (attributeCost input.length + 1) ≤ input.length * (attributeCost input.length + 1) :=
    Nat.mul_le_mul_right _ hmany
  refine Traced.Meets.mono (sound_readAttributes hn hpool (by omega) ?_) (by omega) fun _ h => h
  rw [Nat.zero_add]
  omega

/-! ## The chunks -/

/-- What may still be spent on the pool. -/
def poolBudget (n : Nat) : Option (List Text) → Nat
  | none => poolCost n
  | some _ => 0

/-- What may still be spent at an offset. -/
def budget (n offset : Nat) (pool : Option (List Text)) : Nat :=
  (n + 1 - offset) * (46 + 2 * n) + poolBudget n pool + manifestCost n

/-- What a chunk may cost: the manifest element is the last one that is read. -/
def chunkCost (n : Nat) (pool : Option (List Text)) : Scanned → Nat
  | .done _ => 25 + 2 * n + poolBudget n pool + manifestCost n
  | .next after => 25 + 2 * n + (poolBudget n pool - poolBudget n after)

def ScannedOk (n : Nat) (before : Option (List Text)) : Scanned → Prop
  | .done _ => True
  | .next after => poolBudget n after ≤ poolBudget n before ∧ ∀ strings, after = some strings → PoolOk n strings

theorem sound_scanChunk {pool : Option (List Text)} (hn : input.length ≤ 2 ^ 24)
    (ho : offset ≤ input.length) (hchunk : ChunkOk input.length offset chunk)
    (hpool : ∀ strings, pool = some strings → PoolOk input.length strings) :
    (scanChunk input offset chunk pool).Spends (Event.Ok input.length) Event.cost 0 (chunkCost input.length pool)
      (ScannedOk input.length pool) := by
  have hsame : ScannedOk input.length pool (.next pool) := ⟨Nat.le_refl _, hpool⟩
  unfold scanChunk
  refine .ite (fun _ => ?_) fun _ => ?_
  · cases pool with
    | some _ => exact .pure (Nat.zero_le _) trivial
    | none =>
      refine .bind (sound_parseStringPool hn hchunk) fun strings hstrings => ?_
      cases strings with
      | error e => exact .pure (by simp only [chunkCost, poolBudget]; omega) trivial
      | ok strings =>
        refine .pure (by simp only [chunkCost, poolBudget]; omega) ⟨Nat.zero_le _, ?_⟩
        intro found h
        cases h
        exact hstrings strings rfl
  · cases pool with
    | none => exact .pure (Nat.zero_le _) hsame
    | some strings =>
      refine .ite (fun _ => ?_) fun _ => .pure (Nat.zero_le _) hsame
      refine .bind (sound_readStartElement hn ho) fun element helement => ?_
      cases element with
      | none => exact .pure (by simp only [chunkCost]; omega) trivial
      | some element =>
        refine .bind (sound_poolString (hpool strings rfl)) fun tag _ => ?_
        refine .ite (fun _ => ?_) fun _ => .pure (by simp only [chunkCost]; omega) hsame
        refine .bind (sound_readManifest hn (hpool strings rfl) hchunk (helement element rfl)) fun result _ => ?_
        exact .pure (by simp only [chunkCost]; omega) trivial

/-- The loop: each step goes on by at least 8 bytes, so the fuel lasts. -/
theorem sound_scanChunks {fuel offset : Nat} {pool : Option (List Text)} (hn : input.length ≤ 2 ^ 24) (ho : offset ≤ input.length)
    (hfuel : input.length < offset + fuel) (hpool : ∀ strings, pool = some strings → PoolOk input.length strings) :
    Sound input.length (budget input.length offset pool) (scanChunks input input.length fuel offset pool) fun _ => True := by
  induction fuel generalizing offset pool with
  | zero => omega
  | succ fuel ih =>
    unfold scanChunks
    refine .ite (fun hin => ?_) fun _ => .pure trivial
    have hsplit : (input.length + 1 - offset) * (46 + 2 * input.length) =
        (input.length - offset) * (46 + 2 * input.length) + (46 + 2 * input.length) := by
      rw [← Nat.succ_mul]
      congr 1
      omega
    refine .bind (sound_readChunk hn ho) (by rw [budget, hsplit]; omega) fun chunk hchunk => ?_
    cases chunk with
    | none => exact .pure trivial
    | some chunk =>
      have hok := hchunk chunk rfl
      have hge := hok.header_ge
      have hle := hok.header_le
      have hfits := hok.fits
      refine .bind_spends (sound_scanChunk hn ho hok hpool) fun scanned hscanned => ?_
      cases scanned with
      | done result => exact ⟨by rw [budget, hsplit, chunkCost]; omega, .pure trivial⟩
      | next after =>
        obtain ⟨hpaid, hafter⟩ := hscanned
        have hrest : (input.length + 1 - (offset + chunk.size)) * (46 + 2 * input.length) ≤
            (input.length - offset) * (46 + 2 * input.length) := Nat.mul_le_mul_right _ (by omega)
        refine ⟨by rw [budget, hsplit, chunkCost]; omega, ?_⟩
        refine .bind (sound_sizeT (by omega)) (by rw [budget, hsplit, chunkCost]; omega) fun next hnext => ?_
        have hnext : next = offset + chunk.size := by omega
        subst hnext
        refine .bind (v := 1) (.emit ⟨by omega, hfits⟩ (Nat.le_refl _)) (by rw [budget, hsplit, chunkCost]; omega) fun _ _ => ?_
        refine Traced.Meets.mono (ih hfits (by omega) hafter) ?_ fun _ h => h
        rw [budget, budget, hsplit, chunkCost]
        omega

/-- What parsing an input may cost. -/
def workBound (n : Nat) : Nat := 19 + budget n 0 none

/-- For every input of at most 16 MiB all reads are inside it, no number leaves its type, the
    parser ends, and what it does is bounded by the length of the input. -/
theorem manifest_in_bounds (input : Bytes) (hsize : input.length ≤ 16 * 1024 * 1024) :
    (∀ e ∈ (parseAndroidManifest input).trace, e.Ok input.length) ∧
      ((parseAndroidManifest input).trace.map Event.cost).sum ≤ workBound input.length := by
  have hsound : Sound input.length (workBound input.length) (parseAndroidManifest input) fun _ => True := by
    unfold parseAndroidManifest workBound
    refine .bind (sound_readChunk (by omega) (Nat.zero_le _)) (by omega) fun xml hxml => ?_
    cases xml with
    | none => exact .pure trivial
    | some xml =>
      have hok := hxml xml rfl
      refine .ite (fun _ => .pure trivial) fun hwhole => ?_
      have hall : xml.size = input.length := by omega
      have hle := hok.header_le
      have hmul : (input.length + 1 - xml.headerSize) * (46 + 2 * input.length) ≤
          (input.length + 1 - 0) * (46 + 2 * input.length) := Nat.mul_le_mul_right _ (by omega)
      rw [hall]
      refine Traced.Meets.mono (sound_scanChunks (by omega) (by omega) (by omega) fun _ h => by cases h) ?_ fun _ h => h
      rw [budget, budget]
      omega
  exact ⟨hsound.allowed, hsound.cost_le⟩

/-- A manifest of the package `a` with version code 7. -/
def smallManifest : Bytes :=
  [3, 0, 8, 0, 168, 0, 0, 0, 1, 0, 28, 0, 84, 0, 0, 0, 4, 0, 0, 0, 0, 0, 0, 0, 0, 1, 0, 0, 44, 0, 0, 0,
   0, 0, 0, 0, 0, 0, 0, 0, 11, 0, 0, 0, 21, 0, 0, 0, 25, 0, 0, 0, 8, 8, 109, 97, 110, 105, 102, 101, 115, 116, 0, 7,
   7, 112, 97, 99, 107, 97, 103, 101, 0, 1, 1, 97, 0, 11, 11, 118, 101, 114, 115, 105, 111, 110, 67, 111, 100, 101, 0,
   0, 2, 1, 16, 0,
   76, 0, 0, 0, 1, 0, 0, 0, 255, 255, 255, 255, 255, 255, 255, 255, 0, 0, 0, 0, 20, 0, 20, 0, 2, 0, 0, 0, 0, 0, 0, 0,
   255, 255, 255, 255, 1, 0, 0, 0, 2, 0, 0, 0, 8, 0, 0, 3, 2, 0, 0, 0, 255, 255, 255, 255, 3, 0, 0, 0, 255, 255, 255, 255,
   8, 0, 0, 16, 7, 0, 0, 0]

theorem manifest_in_bounds_smallManifest :
    (parseAndroidManifest smallManifest).value = { packageName := ascii "a", versionCode := 7 } ∧
      ∀ e ∈ (parseAndroidManifest smallManifest).trace, e.Ok smallManifest.length :=
  ⟨by decide +kernel, (manifest_in_bounds smallManifest (by decide +kernel)).1⟩

end Mocktail.Update.Manifest

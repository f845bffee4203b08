/-
  Mocktail.Update.SigningBounds — the signing block of an APK is found inside the file.

  Each function of `Update.SigningReads` has one lemma: all its events are allowed, and what it
  returns is what the function of `Update.ApkSignature` returns for the bytes. A `Reader` that
  stands in the signing block stays there (`Reader.Ok`), and what it has not read yet is the rest
  of the bytes (`Reader.rest`). The pairs are read one after the other, each at least 12 bytes
  long, so when the loop ends they tile the block (`Tiled`).
-/

import Mocktail.Update.ContentDigest
import Mocktail.Update.ManifestBounds
import Mocktail.Update.SigningReads

namespace Mocktail.Update.Signing

open Mocktail.Lib Mocktail.Launch
open Mocktail.Update.Manifest (Event View byte sizeT copyBytes)

abbrev Safe {α : Type} (n : Nat) (x : Traced Event α) (Q : α → Prop) : Prop := x.Always (Event.Ok n) Q

/-! ## Reads -/

section
variable {n : Nat} {mapping : Bytes} {offset : Nat}

/-- A size or an offset that fits is computed exactly. -/
theorem safe_sizeT {value : Int} (m : Nat) (h : value = m ∧ m < 2 ^ 64) :
    Safe n (sizeT value) fun r => r = m :=
  (Manifest.sound_sizeT (by omega)).mono (Nat.le_refl _) (fun r hr => by omega) |>.always

theorem safe_fileByte (h : offset < mapping.length) : Safe mapping.length (fileByte mapping offset) fun r =>
    r = byteAt mapping offset := by
  refine .one ⟨by simp, by simpa using h, by simp⟩ (Nat.le_refl _) ?_
  simp [byteAt]

theorem safe_u32At (hn : mapping.length < 2 ^ 63) (h : offset + 4 ≤ mapping.length) :
    Safe mapping.length (u32At mapping offset) fun r => r = u32 mapping offset := by
  refine .seq_eq (safe_fileByte (by omega)) ?_
  refine .seq_eq (safe_sizeT (offset + 1) (by omega)) ?_
  refine .seq_eq (safe_fileByte (by omega)) ?_
  refine .seq_eq (safe_sizeT (offset + 2) (by omega)) ?_
  refine .seq_eq (safe_fileByte (by omega)) ?_
  refine .seq_eq (safe_sizeT (offset + 3) (by omega)) ?_
  refine .seq_eq (safe_fileByte (by omega)) ?_
  exact .pure rfl

theorem safe_u64At (hn : mapping.length < 2 ^ 63) (h : offset + 8 ≤ mapping.length) :
    Safe mapping.length (u64At mapping offset) fun r => r = u64 mapping offset := by
  refine .seq_eq (safe_u32At hn (by omega)) ?_
  refine .seq_eq (safe_sizeT (offset + 4) (by omega)) ?_
  refine .seq_eq (safe_u32At hn (by omega)) ?_
  exact .pure rfl

/-- The bytes of a span. -/
def bytesOf (mapping : Bytes) (span : View) : Bytes := slice mapping span.base (span.base + span.size)

theorem safe_copyBytes {span : View} (h : span.base + span.size ≤ mapping.length) (count cursor : Nat)
    (hc : cursor + count ≤ span.size) :
    Safe mapping.length (copyBytes mapping span count cursor) fun r =>
      r = slice mapping (span.base + cursor) (span.base + cursor + count) := by
  induction count generalizing cursor with
  | zero => exact .pure (by simp [slice])
  | succ count ih =>
    have hlt : span.base + cursor < mapping.length := by omega
    refine .seq_eq (a := byteAt mapping (span.base + cursor)) (.one ⟨by omega, by omega, h⟩ (Nat.le_refl _) rfl) ?_
    refine .seq_eq (ih (cursor + 1) (by omega)) ?_
    refine .pure ?_
    simp only [slice, byteAt]
    rw [show span.base + cursor + (count + 1) - (span.base + cursor) = count + 1 by omega,
      show span.base + (cursor + 1) + count - (span.base + (cursor + 1)) = count by omega, List.drop_eq_getElem_cons hlt,
      List.take_succ_cons, List.getD_eq_getElem _ _ hlt, show span.base + (cursor + 1) = span.base + cursor + 1 by omega]
    simp

theorem safe_spanBytes {span : View} (h : span.base + span.size ≤ mapping.length) :
    Safe mapping.length (spanBytes mapping span) fun r => r = bytesOf mapping span := by
  refine (safe_copyBytes h span.size 0 (by omega)).mono (Nat.le_refl _) ?_
  rintro r rfl
  rfl

end

/-! ## Slices -/

section
variable {mapping : Bytes} {a b i k : Nat}

theorem length_slice (h : b ≤ mapping.length) : (slice mapping a b).length = b - a := by
  rw [slice, List.length_take, List.length_drop]
  omega

theorem drop_slice : (slice mapping a b).drop k = slice mapping (a + k) b := by
  rw [slice, slice, List.drop_take, List.drop_drop, show b - a - k = b - (a + k) by omega]

theorem take_slice (h : a + k ≤ b) : (slice mapping a b).take k = slice mapping a (a + k) := by
  rw [slice, slice, List.take_take, show min k (b - a) = a + k - a by omega]

theorem byteAt_slice (h : a + i < b) : byteAt (slice mapping a b) i = byteAt mapping (a + i) := by
  simp only [byteAt, slice, List.getD_eq_getElem?_getD]
  rw [List.getElem?_take_of_lt (by omega), List.getElem?_drop]

theorem u32_slice (h : a + 4 ≤ b) : u32 (slice mapping a b) 0 = u32 mapping a := by
  simp only [u32]
  rw [byteAt_slice (by omega), byteAt_slice (by omega), byteAt_slice (by omega), byteAt_slice (by omega)]
  simp

end

/-! ## Reader -/

/-- A span inside the signing block. -/
structure Inside (block : Window) (span : View) : Prop where
  first_le : block.first ≤ span.base
  le_last : span.base + span.size ≤ block.last

/-- What a reader has not read yet. -/
def Reader.rest (mapping : Bytes) (r : Reader) : Bytes := slice mapping (r.span.base + r.position) (r.span.base + r.span.size)

structure Reader.Ok (block : Window) (r : Reader) : Prop where
  inside : Inside block r.span
  position_le : r.position ≤ r.span.size

section
variable {mapping : Bytes} {block : Window} {r : Reader} {span : View}

theorem Inside.reader (h : Inside block span) : Reader.Ok block ⟨span, 0⟩ := ⟨h, Nat.zero_le _⟩

theorem rest_start : (⟨span, 0⟩ : Reader).rest mapping = bytesOf mapping span := rfl

theorem length_rest (hr : r.Ok block) (hlast : block.last ≤ mapping.length) :
    (r.rest mapping).length = r.span.size - r.position := by
  have hle := hr.inside.le_last
  rw [Reader.rest, length_slice (by omega)]
  omega

theorem length_bytesOf (h : Inside block span) (hlast : block.last ≤ mapping.length) :
    (bytesOf mapping span).length = span.size := by
  have hle := h.le_last
  rw [bytesOf, length_slice (by omega)]
  omega

theorem safe_remaining (hn : mapping.length < 2 ^ 63) (hr : r.Ok block) (hlast : block.last ≤ mapping.length) :
    Safe mapping.length r.remaining fun left => left = (r.rest mapping).length := by
  have hlen := length_rest hr hlast
  have hle := hr.inside.le_last
  have hpos := hr.position_le
  exact safe_sizeT _ (by omega)

/-- A value of a reader is what the bytes say, and the reader stays in its span. -/
structure ValueRead (mapping : Bytes) (block : Window) (r : Reader) (q : Option Nat × Reader) : Prop where
  reads : Update.u32Value (r.rest mapping) = (q.1, q.2.rest mapping)
  ok : q.2.Ok block
  shorter : q.1 ≠ none → (q.2.rest mapping).length + 4 ≤ (r.rest mapping).length

theorem safe_u32Value (hn : mapping.length < 2 ^ 63) (hr : r.Ok block) (hlast : block.last ≤ mapping.length) :
    Safe mapping.length (r.u32Value mapping) (ValueRead mapping block r) := by
  have hlen := length_rest hr hlast
  have hle := hr.inside.le_last
  have hpos := hr.position_le
  refine .seq_eq (safe_remaining hn hr hlast) ?_
  refine .ite (fun hshort => .pure ⟨?_, hr, fun h => absurd rfl h⟩) fun hfour => ?_
  · rw [Update.u32Value, if_pos hshort]
  · refine .seq_eq (safe_sizeT (r.span.base + r.position) (by omega)) ?_
    refine .seq_eq (safe_u32At hn (by omega)) ?_
    refine .seq_eq (safe_sizeT (r.position + 4) (by omega)) ?_
    have hok : Reader.Ok block { r with position := r.position + 4 } := ⟨hr.inside, by simp only; omega⟩
    refine .pure ⟨?_, hok, fun _ => ?_⟩
    · rw [Update.u32Value, if_neg hfour]
      simp only [Reader.rest]
      rw [u32_slice (by omega), drop_slice, Nat.add_assoc]
    · rw [length_rest hok hlast]
      simp only
      omega

structure PrefixRead (mapping : Bytes) (block : Window) (r : Reader) (q : Option View × Reader) : Prop where
  reads : Update.lengthPrefixed (r.rest mapping) = (q.1.map (bytesOf mapping), q.2.rest mapping)
  ok : q.2.Ok block
  inside : ∀ span, q.1 = some span → Inside block span
  shorter : q.1 ≠ none → (q.2.rest mapping).length + 4 ≤ (r.rest mapping).length

theorem safe_lengthPrefixed (hn : mapping.length < 2 ^ 63) (hr : r.Ok block) (hlast : block.last ≤ mapping.length) :
    Safe mapping.length (r.lengthPrefixed mapping block) (PrefixRead mapping block r) := by
  refine .seq (safe_u32Value hn hr hlast) ?_
  rintro ⟨size, r'⟩ ⟨hreads, hok, hshorter⟩
  cases size with
  | none => exact .pure ⟨by simp [Update.lengthPrefixed, hreads], hok, nofun, fun h => absurd rfl h⟩
  | some size =>
    have hshorter := hshorter (by simp)
    have hlen := length_rest hok hlast
    have hle := hok.inside.le_last
    have hpos := hok.position_le
    have hfirst := hok.inside.first_le
    refine .seq_eq (safe_remaining hn hok hlast) ?_
    refine .ite (fun hshort => .pure ⟨?_, hok, nofun, fun h => absurd rfl h⟩) fun hfits => ?_
    · simp only [Update.lengthPrefixed, hreads]
      rw [if_pos hshort]
      rfl
    · simp only at hlen hle hpos hfits hfirst hshorter
      refine .seq_eq (safe_sizeT (r'.span.base + r'.position) (by omega)) ?_
      have hspan : Inside block ⟨r'.span.base + r'.position, size⟩ := ⟨by simp only; omega, by simp only; omega⟩
      refine .seq (P := fun s => s = ⟨r'.span.base + r'.position, size⟩)
        (.one ⟨hspan.first_le, hspan.le_last, hlast⟩ (Nat.le_refl _) rfl) ?_
      rintro value rfl
      refine .seq_eq (safe_sizeT (r'.position + size) (by omega)) ?_
      have hok' : Reader.Ok block { r' with position := r'.position + size } := ⟨hok.inside, by simp only; omega⟩
      refine .pure ⟨?_, hok', fun s hs => ?_, fun _ => ?_⟩
      · simp only [Update.lengthPrefixed, hreads]
        rw [if_neg hfits]
        simp only [Reader.rest, Option.map_some, bytesOf]
        rw [take_slice (by omega), drop_slice, Nat.add_assoc r'.span.base]
      · cases hs
        exact hspan
      · rw [length_rest hok' hlast]
        simp only
        omega

end

/-! ## The end record -/

section
variable {mapping : Bytes}

theorem byteAt_lt (mapping : Bytes) (i : Nat) : byteAt mapping i < 2 ^ 8 := UInt8.toNat_lt _

theorem safe_eocdAt (hn : mapping.length < 2 ^ 63) {position : Nat} (h : position + 22 ≤ mapping.length) :
    Safe mapping.length (eocdAt mapping position) fun r => r = Update.eocdAt mapping position := by
  refine .seq_eq (safe_u32At hn (by omega)) ?_
  refine .ite (fun hother => .pure ?_) fun hsignature => ?_
  · simp [Update.eocdAt, hother]
  · refine .seq_eq (safe_sizeT (position + 20) (by omega)) ?_
    refine .seq_eq (safe_fileByte (by omega)) ?_
    refine .seq_eq (safe_sizeT (position + 20 + 1) (by omega)) ?_
    refine .seq_eq (safe_fileByte (by omega)) ?_
    have hlow := byteAt_lt mapping (position + 20)
    have hhigh := byteAt_lt mapping (position + 20 + 1)
    refine .seq (safe_sizeT (position + 22 + u16 mapping (position + 20)) ⟨?_, ?_⟩) ?_
    · simp only [u16]
      omega
    · simp only [u16]
      omega
    · rintro last rfl
      refine .pure ?_
      simp [Update.eocdAt, Decidable.not_not.mp hsignature]

theorem safe_findEocdFrom (hn : mapping.length < 2 ^ 63) {minimum position : Nat} (h : position + 22 ≤ mapping.length)
    (hmin : minimum ≤ position) :
    Safe mapping.length (findEocdFrom mapping minimum position) fun r => r = Update.findEocdFrom mapping minimum position := by
  induction position with
  | zero =>
    refine .seq_eq (safe_eocdAt hn h) ?_
    refine .ite (fun hfound => .pure ?_) fun hfound => .ite (fun _ => .pure ?_) fun hne => absurd (Nat.le_zero.mp hmin).symm hne
    · simp [Update.findEocdFrom, hfound]
    · simp [Update.findEocdFrom, hfound]
  | succ position ih =>
    refine .seq_eq (safe_eocdAt hn h) ?_
    refine .ite (fun hfound => .pure ?_) fun hfound => .ite (fun hlast => .pure ?_) fun hmore => ?_
    · simp [Update.findEocdFrom, hfound]
    · rw [Update.findEocdFrom, if_neg hfound, if_pos hlast]
    · refine (ih (by omega) (by omega)).mono (Nat.le_refl _) ?_
      rintro r rfl
      simp [Update.findEocdFrom, hfound, hmore]

theorem safe_minimumEocd (hn : mapping.length < 2 ^ 63) :
    Safe mapping.length (minimumEocd mapping) fun r => r = mapping.length - 65557 := by
  unfold minimumEocd
  split
  · exact safe_sizeT (mapping.length - 65557) (by omega)
  · refine .pure ?_
    omega

theorem findEocd_none (h : Update.findEocdFrom mapping (mapping.length - 65557) (mapping.length - 22) = none) :
    Update.findEocd mapping = .error "APK has no valid ZIP end record" := by
  delta Update.findEocd
  rw [h]

theorem findEocd_some {eocd : Nat}
    (h : Update.findEocdFrom mapping (mapping.length - 65557) (mapping.length - 22) = some eocd) :
    Update.findEocd mapping = .ok eocd := by
  delta Update.findEocd
  rw [h]

theorem safe_findEocd (hn : mapping.length < 2 ^ 63) (h32 : 32 ≤ mapping.length) :
    Safe mapping.length (findEocd mapping) fun r => r = Update.findEocd mapping := by
  unfold findEocd
  refine .seq (safe_minimumEocd hn) fun minimum hmin => ?_
  refine .seq (safe_sizeT (mapping.length - 22) (by omega)) fun position hposition => ?_
  refine .seq (safe_findEocdFrom hn (by omega) (by omega)) fun found hfound => ?_
  have h : Update.findEocdFrom mapping (mapping.length - 65557) (mapping.length - 22) = found := by
    rw [← hmin, ← hposition]
    exact hfound.symm
  cases found with
  | none => exact .pure (findEocd_none h).symm
  | some eocd => exact .pure (findEocd_some h).symm

end

/-! ## The pairs -/

def Spans.pure (mapping : Bytes) (spans : Spans) : Schemes :=
  ⟨spans.v2.map (bytesOf mapping), spans.v3.map (bytesOf mapping), spans.v31.map (bytesOf mapping)⟩

def Spans.values (spans : Spans) : List View := spans.v2.toList ++ spans.v3.toList ++ spans.v31.toList

def Block.pure (mapping : Bytes) (block : Block) : SigningBlock :=
  ⟨block.spans.pure mapping, block.first, block.centralDirectory, block.eocd⟩

/-- The pairs from an offset on, one after the other up to the last. -/
inductive Tiled (mapping : Bytes) (last : Nat) : Nat → List View → Prop
  | nil : Tiled mapping last last []
  | cons {cursor : Nat} {pairs : List View} (size_ge : 4 ≤ u64 mapping cursor)
      (rest : Tiled mapping last (cursor + 8 + u64 mapping cursor) pairs) :
      Tiled mapping last cursor (⟨cursor, 8 + u64 mapping cursor⟩ :: pairs)

/-- The value of a pair: what follows its size and its id. -/
def valueOf (pair : View) : View := ⟨pair.base + 12, pair.size - 12⟩

section
variable {mapping : Bytes} {block : Window} {spans : Spans} {pairsEnd cursor : Nat}

theorem keepPair_pure (id : Nat) (value : View) (spans : Spans) :
    (keepPair id value spans).map (Spans.pure mapping) = Update.keepPair id (bytesOf mapping value) (spans.pure mapping) := by
  obtain ⟨v2, v3, v31⟩ := spans
  simp only [keepPair, Update.keepPair, Spans.pure]
  split
  · cases v31 <;> rfl
  · split
    · cases v3 <;> rfl
    · split
      · cases v2 <;> rfl
      · rfl

theorem keepPair_values {id : Nat} {value : View} {spans' : Spans} (h : keepPair id value spans = .ok spans') :
    ∀ s ∈ spans'.values, s ∈ spans.values ∨ s = value := by
  obtain ⟨v2, v3, v31⟩ := spans
  simp only [keepPair] at h
  split at h
  · cases v31 with
    | none => cases h; simp [Spans.values]; tauto
    | some _ => cases h
  · split at h
    · cases v3 with
      | none => cases h; simp [Spans.values]; tauto
      | some _ => cases h
    · split at h
      · cases v2 with
        | none => cases h; simp [Spans.values]; tauto
        | some _ => cases h
      · cases h
        exact fun s hs => .inl hs

/-- What one pair comes to. -/
structure PairRead (mapping : Bytes) (pairsEnd cursor : Nat) (spans : Spans) (q : Except String (Nat × Spans)) : Prop where
  reads : Update.readPair mapping pairsEnd cursor (spans.pure mapping) = q.map fun x => (x.1, x.2.pure mapping)
  next : ∀ next spans', q = .ok (next, spans') → next = cursor + 8 + u64 mapping cursor ∧ 4 ≤ u64 mapping cursor ∧ next ≤ pairsEnd
  values : ∀ next spans', q = .ok (next, spans') →
    ∀ s ∈ spans'.values, s ∈ spans.values ∨ s = valueOf ⟨cursor, 8 + u64 mapping cursor⟩

theorem safe_readPair (hn : mapping.length < 2 ^ 63) (hfirst : block.first ≤ cursor) (hcursor : cursor < pairsEnd)
    (hend : pairsEnd ≤ block.last) (hlast : block.last ≤ mapping.length) :
    Safe mapping.length (readPair mapping block pairsEnd cursor spans) (PairRead mapping pairsEnd cursor spans) := by
  refine .seq_eq (safe_sizeT (pairsEnd - cursor) (by omega)) ?_
  refine .ite (fun hshort => .pure ⟨?_, nofun, nofun⟩) fun htwelve => ?_
  · simp only [Update.readPair]
    rw [if_pos hshort]
    rfl
  · refine .seq_eq (safe_u64At hn (by omega)) ?_
    refine .seq_eq (safe_sizeT (cursor + 8) (by omega)) ?_
    refine .ite (fun hsmall => .pure ⟨?_, nofun, nofun⟩) fun hfour => ?_
    · simp only [Update.readPair]
      rw [if_neg htwelve, if_pos (.inl hsmall)]
      rfl
    · refine .seq_eq (safe_sizeT (pairsEnd - (cursor + 8)) (by omega)) ?_
      refine .ite (fun hlarge => .pure ⟨?_, nofun, nofun⟩) fun hfits => ?_
      · simp only [Update.readPair]
        rw [if_neg htwelve, if_pos (.inr hlarge)]
        rfl
      · refine .seq_eq (safe_u32At hn (by omega)) ?_
        refine .seq_eq (safe_sizeT (cursor + 12) (by omega)) ?_
        refine .seq_eq (safe_sizeT (u64 mapping cursor - 4) (by omega)) ?_
        refine .seq (P := fun s => s = ⟨cursor + 12, u64 mapping cursor - 4⟩)
          (.one ⟨by omega, by omega, hlast⟩ (Nat.le_refl _) rfl) ?_
        rintro value rfl
        have hpure : (keepPair (u32 mapping (cursor + 8)) ⟨cursor + 12, u64 mapping cursor - 4⟩ spans).map
            (Spans.pure mapping) = _ :=
          keepPair_pure _ _ _
        have hreads : Update.readPair mapping pairsEnd cursor (spans.pure mapping) =
            ((keepPair (u32 mapping (cursor + 8)) ⟨cursor + 12, u64 mapping cursor - 4⟩ spans).map (Spans.pure mapping)).map
              fun s => (cursor + 8 + u64 mapping cursor, s) := by
          rw [hpure]
          simp only [Update.readPair, bytesOf]
          rw [if_neg htwelve, if_neg (by omega), show cursor + 8 + 4 = cursor + 12 by omega,
            show cursor + 12 + (u64 mapping cursor - 4) = cursor + 8 + u64 mapping cursor by omega]
          generalize Update.keepPair _ _ _ = kept
          cases kept <;> rfl
        cases hkeep : keepPair (u32 mapping (cursor + 8)) ⟨cursor + 12, u64 mapping cursor - 4⟩ spans with
        | error e => exact .pure ⟨by rw [hreads, hkeep]; rfl, nofun, nofun⟩
        | ok spans' =>
          refine .seq_eq (safe_sizeT (cursor + 8 + u64 mapping cursor) (by omega)) ?_
          refine .pure ⟨by rw [hreads, hkeep]; rfl, fun next s hs => ?_, fun next s hs => ?_⟩
          · cases hs
            exact ⟨rfl, by omega, by omega⟩
          · cases hs
            intro v hv
            rcases keepPair_values hkeep v hv with hv | hv
            · exact .inl hv
            · exact .inr (by rw [hv, valueOf]; simp; omega)

/-- The pairs tile what they stand in, and what is kept is the value of one of them. -/
structure PairsRead (mapping : Bytes) (pairsEnd cursor : Nat) (spans : Spans) (next : Nat) (spans' : Spans) (pairs : List View) :
    Prop where
  next_eq : next = pairsEnd
  tiled : Tiled mapping pairsEnd cursor pairs
  values : ∀ s ∈ spans'.values, s ∈ spans.values ∨ ∃ pair ∈ pairs, s = valueOf pair

theorem safe_readPairs (hn : mapping.length < 2 ^ 63) (hfirst : block.first ≤ cursor) (hcursor : cursor ≤ pairsEnd)
    (hend : pairsEnd ≤ block.last) (hlast : block.last ≤ mapping.length) {fuel : Nat} (hfuel : pairsEnd ≤ cursor + fuel) :
    Safe mapping.length (readPairs mapping block pairsEnd fuel cursor spans) fun q =>
      Update.readPairs mapping pairsEnd fuel cursor (spans.pure mapping) = q.map (fun x => (x.1, x.2.pure mapping)) ∧
      ∀ next spans', q = .ok (next, spans') → ∃ pairs, PairsRead mapping pairsEnd cursor spans next spans' pairs := by
  induction fuel generalizing cursor spans with
  | zero =>
    have heq : cursor = pairsEnd := by omega
    subst heq
    unfold readPairs
    refine .ite (fun hlt => absurd hlt (Nat.lt_irrefl _)) fun _ => .pure ⟨rfl, fun next spans' h => ?_⟩
    cases h
    exact ⟨[], rfl, .nil, fun s hs => .inl hs⟩
  | succ fuel ih =>
    unfold readPairs
    refine .ite (fun hlt => ?_) fun hge => .pure ⟨?_, fun next spans' h => ?_⟩
    · refine .seq (safe_readPair hn hfirst hlt hend hlast) ?_
      rintro q ⟨hreads, hnext, hvalues⟩
      cases q with
      | error e => exact .pure ⟨by simp only [Update.readPairs, if_pos hlt, hreads]; rfl, nofun⟩
      | ok x =>
        obtain ⟨next, spans'⟩ := x
        obtain ⟨rfl, hfour, hle⟩ := hnext next spans' rfl
        refine (ih (by omega) hle (by omega)).mono (Nat.le_refl _) ?_
        rintro q ⟨hpure, hrest⟩
        refine ⟨?_, fun next' spans'' h => ?_⟩
        · rw [← hpure]
          simp only [Update.readPairs, if_pos hlt, hreads]
          rfl
        · obtain ⟨pairs, heq, htiled, hkept⟩ := hrest next' spans'' h
          refine ⟨_, heq, .cons hfour htiled, fun s hs => ?_⟩
          rcases hkept s hs with hs | ⟨pair, hpair, hs⟩
          · rcases hvalues _ _ rfl s hs with hs | hs
            · exact .inl hs
            · exact .inr ⟨_, List.mem_cons_self, hs⟩
          · exact .inr ⟨pair, List.mem_cons_of_mem _ hpair, hs⟩
    · simp only [Update.readPairs, if_neg hge]
      rfl
    · cases h
      have heq : cursor = pairsEnd := by omega
      exact ⟨[], heq, by rw [heq]; exact .nil, fun s hs => .inl hs⟩

end

/-! ## The block -/

/-- What a signing block says of the file: where it stands, and that its pairs tile it. -/
structure BlockOk (mapping : Bytes) (block : Block) : Prop where
  directory : block.first + 32 ≤ block.centralDirectory
  directory_le : block.centralDirectory ≤ block.eocd
  eocd_le : block.eocd + 22 ≤ mapping.length
  pairs : ∃ pairs, Tiled mapping (block.centralDirectory - 24) (block.first + 8) pairs ∧
    ∀ s ∈ block.spans.values, ∃ pair ∈ pairs, s = valueOf pair

section
variable {mapping : Bytes} {eocd centralDirectory first : Nat}

/-- `Update.parseSigningBlock` from where `begin` is known. -/
def pairsOf (mapping : Bytes) (eocd centralDirectory first : Nat) : Except String SigningBlock := do
  let (cursor, schemes) ← Update.readPairs mapping (centralDirectory - 24) mapping.length (first + 8) {}
  if cursor ≠ centralDirectory - 24 ∨ schemes.v2 = none ∧ schemes.v3 = none ∧ schemes.v31 = none then
    throw "APK has no supported signing scheme"
  return { schemes, first, centralDirectory, eocd }

def footerOf (mapping : Bytes) (eocd centralDirectory footerSize : Nat) : Except String SigningBlock :=
  if footerSize < 24 ∨ centralDirectory - 8 < footerSize then .error "APK signing block size is invalid"
  else if u64 mapping (centralDirectory - (footerSize + 8)) ≠ footerSize then .error "APK signing block size headers disagree"
  else pairsOf mapping eocd centralDirectory (centralDirectory - (footerSize + 8))

def directoryOf (mapping : Bytes) (eocd centralDirectory : Nat) : Except String SigningBlock :=
  if centralDirectory < 32 ∨ eocd < centralDirectory ∨
      slice mapping (centralDirectory - 16) centralDirectory ≠ kSigningMagic then
    .error "APK has no Signature Scheme v2/v3 block"
  else footerOf mapping eocd centralDirectory (u64 mapping (centralDirectory - 24))

theorem parseSigningBlock_error {e : String} (h : Update.findEocd mapping = .error e) :
    Update.parseSigningBlock mapping = .error e := by
  unfold Update.parseSigningBlock
  rw [h]
  rfl

theorem parseSigningBlock_ok (h : Update.findEocd mapping = .ok eocd) :
    Update.parseSigningBlock mapping = directoryOf mapping eocd (u32 mapping (eocd + 16)) := by
  simp only [Update.parseSigningBlock, h, directoryOf, footerOf, pairsOf, bind, Except.bind, pure, Except.pure, throw, throwThe,
    MonadExceptOf.throw]

/-- A parser's result is that of the bytes, and a block it returns is one of the file. -/
def Parsed (mapping : Bytes) (result : Except String SigningBlock) (q : Except String Block) : Prop :=
  result = q.map (Block.pure mapping) ∧ ∀ block, q = .ok block → BlockOk mapping block

theorem parsed_error {e : String} {result : Except String SigningBlock} (h : result = .error e) :
    Parsed mapping result (.error e) :=
  ⟨h, nofun⟩

theorem safe_parsePairs (hn : mapping.length < 2 ^ 63) (heocd : eocd + 22 ≤ mapping.length) (hdirectory : centralDirectory ≤ eocd)
    (hfirst : first + 32 ≤ centralDirectory) :
    Safe mapping.length (parsePairs mapping eocd centralDirectory first)
      (Parsed mapping (pairsOf mapping eocd centralDirectory first)) := by
  refine .seq_eq (safe_sizeT (first + 8) (by omega)) ?_
  refine .seq_eq (safe_sizeT (centralDirectory - 24) (by omega)) ?_
  refine .seq (safe_readPairs hn (by simp only; omega) (by omega) (by simp only; omega) (by simp only; omega) (by omega)) ?_
  rintro q ⟨hreads, hpairs⟩
  have hstart : Spans.pure mapping {} = {} := rfl
  rw [hstart] at hreads
  rw [pairsOf, hreads]
  cases q with
  | error e => exact .pure (parsed_error rfl)
  | ok x =>
    obtain ⟨cursor, spans⟩ := x
    obtain ⟨pairs, heq, htiled, hvalues⟩ := hpairs cursor spans rfl
    have hnone : ((spans.pure mapping).v2 = none ∧ (spans.pure mapping).v3 = none ∧ (spans.pure mapping).v31 = none) ↔
        (spans.v2 = none ∧ spans.v3 = none ∧ spans.v31 = none) := by
      simp [Spans.pure]
    refine .ite (fun hbad => .pure (parsed_error ?_)) fun hgood => .pure ⟨?_, fun block hblock => ?_⟩
    · simp only [Except.map, bind, Except.bind, hnone]
      rw [if_pos hbad]
      rfl
    · simp only [Except.map, bind, Except.bind, hnone]
      rw [if_neg hgood]
      rfl
    · cases hblock
      refine ⟨hfirst, hdirectory, heocd, pairs, htiled, fun s hs => ?_⟩
      rcases hvalues s hs with hs | hs
      · cases hs
      · exact hs

theorem safe_parseFooter (hn : mapping.length < 2 ^ 63) (heocd : eocd + 22 ≤ mapping.length)
    (hdirectory : centralDirectory ≤ eocd) (h32 : 32 ≤ centralDirectory) :
    Safe mapping.length (parseFooter mapping eocd centralDirectory)
      (Parsed mapping (footerOf mapping eocd centralDirectory (u64 mapping (centralDirectory - 24)))) := by
  refine .seq_eq (safe_sizeT (centralDirectory - 24) (by omega)) ?_
  refine .seq_eq (safe_u64At hn (by omega)) ?_
  refine .seq_eq (safe_sizeT (centralDirectory - 8) (by omega)) ?_
  generalize u64 mapping (centralDirectory - 24) = footerSize
  refine .ite (fun hbad => .pure (parsed_error ?_)) fun hgood => ?_
  · rw [footerOf, if_pos (by omega)]
  · refine .seq_eq (safe_sizeT (footerSize + 8) (by omega)) ?_
    refine .seq_eq (safe_sizeT (centralDirectory - (footerSize + 8)) (by omega)) ?_
    refine .seq_eq (safe_u64At hn (by omega)) ?_
    have hpure : footerOf mapping eocd centralDirectory footerSize =
        if u64 mapping (centralDirectory - (footerSize + 8)) ≠ footerSize then .error "APK signing block size headers disagree"
        else pairsOf mapping eocd centralDirectory (centralDirectory - (footerSize + 8)) := by
      rw [footerOf, if_neg (by omega)]
    rw [hpure]
    refine .ite (fun hbad => .pure (parsed_error (if_pos hbad))) fun hsame => ?_
    rw [if_neg hsame]
    exact safe_parsePairs hn heocd hdirectory (by omega)

theorem safe_parseSigningBlock (hn : mapping.length < 2 ^ 63) (h32 : 32 ≤ mapping.length) :
    Safe mapping.length (parseSigningBlock mapping) (Parsed mapping (Update.parseSigningBlock mapping)) := by
  refine .seq_eq (safe_findEocd hn h32) ?_
  cases hq : Update.findEocd mapping with
  | error e => exact .pure (parsed_error (parseSigningBlock_error hq))
  | ok eocd =>
    obtain ⟨heocd, -⟩ := findEocd_bounds h32 hq
    rw [parseSigningBlock_ok hq]
    refine .seq_eq (safe_sizeT (eocd + 16) (by omega)) ?_
    refine .seq_eq (safe_u32At hn (by omega)) ?_
    generalize u32 mapping (eocd + 16) = centralDirectory
    refine .ite (fun hbad => .pure (parsed_error ?_)) fun hgood => ?_
    · rw [directoryOf, if_pos (by rcases hbad with h | h; exacts [.inl h, .inr (.inl h)])]
    · refine .seq_eq (safe_sizeT (centralDirectory - 16) (by omega)) ?_
      have hmagic : Safe mapping.length (spanBytes mapping ⟨centralDirectory - 16, 16⟩) fun r =>
          r = bytesOf mapping ⟨centralDirectory - 16, 16⟩ := safe_spanBytes (by simp only; omega)
      refine .seq_eq hmagic ?_
      have hslice : bytesOf mapping ⟨centralDirectory - 16, 16⟩ = slice mapping (centralDirectory - 16) centralDirectory := by
        simp only [bytesOf]
        rw [show centralDirectory - 16 + 16 = centralDirectory by omega]
      rw [hslice, directoryOf]
      refine .ite (fun hbad => .pure (parsed_error ?_)) fun hsame => ?_
      · rw [if_pos (.inr (.inr hbad))]
      · rw [if_neg (by rintro (h | h | h); exacts [hgood (.inl h), hgood (.inr h), hsame h])]
        exact safe_parseFooter hn heocd (by omega) (by omega)

end

end Mocktail.Update.Signing

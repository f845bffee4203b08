/-
  Mocktail.Update.ContentDigest — what the content digest of an APK fixes.

  The digest covers three sections: the bytes before the signing block, the central directory
  and the end record, patched. They are cut into chunks and the digests of all chunks are
  hashed in one list, without the boundaries. The last chunk is the whole end record
  (`eocd_single`), the end record holds the length of the first section (`putU32_inj`), and
  so the boundaries are in the digest (`content_digest_binds`).

  A hash of fixed length is not injective on all byte strings. What is assumed is less: no
  two of the strings that are hashed for the two files collide (`hashedInputs`).
-/

import Mathlib.Data.Set.Function
import Mocktail.Update.ApkSignature

namespace Mocktail.Update

open Mocktail.Lib

/-! ## The end record -/

variable {mapping : Bytes}

theorem findEocdFrom_some {minimum position eocd : Nat} (h : findEocdFrom mapping minimum position = some eocd)
    (hmin : minimum ≤ position) : minimum ≤ eocd ∧ eocd ≤ position ∧ eocdAt mapping eocd = true := by
  induction position with
  | zero =>
    unfold findEocdFrom at h
    split at h
    · rename_i hat
      cases h
      exact ⟨hmin, Nat.le_refl _, hat⟩
    · cases h
  | succ position ih =>
    unfold findEocdFrom at h
    split at h
    · rename_i hat
      cases h
      exact ⟨hmin, Nat.le_refl _, hat⟩
    · split at h
      · cases h
      · obtain ⟨h1, h2, h3⟩ := ih h (by omega)
        exact ⟨h1, by omega, h3⟩

/-- The end record is at most 65557 bytes long. -/
theorem findEocd_bounds {eocd : Nat} (hsize : 32 ≤ mapping.length) (h : findEocd mapping = .ok eocd) :
    eocd + 22 ≤ mapping.length ∧ mapping.length ≤ eocd + 65557 := by
  unfold findEocd at h
  split at h
  · rename_i found hfound
    cases h
    obtain ⟨h1, h2, -⟩ := findEocdFrom_some hfound (by omega)
    omega
  · cases h

theorem mapFile_size {file : ApkFile} (h : mapFile file = .ok mapping) : 32 ≤ mapping.length := by
  unfold mapFile at h
  split at h
  · cases h
  · cases h
  · split at h
    · cases h
    · cases h
  · split at h
    · cases h
    · cases h
      omega

/-- What a parsed signing block says of the file. -/
structure BlockBounds (mapping : Bytes) (block : SigningBlock) : Prop where
  first_lt : block.first < block.centralDirectory
  directory_le : block.centralDirectory ≤ block.eocd
  eocd_le : block.eocd + 22 ≤ mapping.length
  length_le : mapping.length ≤ block.eocd + 65557

variable {block : SigningBlock}

theorem parseSigningBlock_bounds (hsize : 32 ≤ mapping.length)
    (h : parseSigningBlock mapping = .ok block) : BlockBounds mapping block := by
  unfold parseSigningBlock at h
  cases he : findEocd mapping with
  | error e =>
    rw [he] at h
    cases h
  | ok eocd =>
    obtain ⟨hle, hge⟩ := findEocd_bounds hsize he
    simp only [he, bind, Except.bind, pure, Except.pure, throw, throwThe, MonadExceptOf.throw] at h
    split at h
    · cases h
    · rename_i hdirectory
      split at h
      · cases h
      · rename_i hfooter
        split at h
        · cases h
        · split at h
          · cases h
          · split at h
            · cases h
            · cases h
              exact ⟨by simp only; omega, by simp only; omega, hle, hge⟩

theorem ofNat_inj {a b : Nat} (h : UInt8.ofNat a = UInt8.ofNat b) : a % 2 ^ 8 = b % 2 ^ 8 := by
  have hn := congrArg UInt8.toNat h
  rwa [UInt8.toNat_ofNat', UInt8.toNat_ofNat'] at hn

theorem putU32_inj {a b : Nat} (ha : a < 2 ^ 32) (hb : b < 2 ^ 32) (h : putU32 a = putU32 b) : a = b := by
  simp only [putU32, List.cons.injEq, and_true] at h
  obtain ⟨h0, h1, h2, h3⟩ := h
  have h0 := ofNat_inj h0
  have h1 := ofNat_inj h1
  have h2 := ofNat_inj h2
  have h3 := ofNat_inj h3
  omega

theorem length_patchedEocd (h : BlockBounds mapping block) :
    (patchedEocd mapping block).length = mapping.length - block.eocd := by
  have hle := h.eocd_le
  simp only [patchedEocd, putU32, List.length_append, List.length_take, List.length_drop, List.length_cons, List.length_nil]
  omega

theorem eocd_single (h : BlockBounds mapping block) :
    chunks kChunkBytes (patchedEocd mapping block) = [patchedEocd mapping block] := by
  have hlen := length_patchedEocd h
  have hle := h.eocd_le
  have hge := h.length_le
  refine chunks_single (fun hnil => ?_) ?_
  · rw [hnil, List.length_nil] at hlen
    omega
  · unfold kChunkBytes
    omega

/-- The patched end record gives back the rest of it and the length of the first section. -/
theorem patchedEocd_inj {mapping mapping' : Bytes} {block block' : SigningBlock} (h : BlockBounds mapping block)
    (h' : BlockBounds mapping' block') (hfirst : block.first < 2 ^ 32) (hfirst' : block'.first < 2 ^ 32)
    (heq : patchedEocd mapping block = patchedEocd mapping' block') :
    (mapping.drop block.eocd).take 16 = (mapping'.drop block'.eocd).take 16 ∧ block.first = block'.first ∧
      (mapping.drop block.eocd).drop 20 = (mapping'.drop block'.eocd).drop 20 := by
  have hle := h.eocd_le
  have hle' := h'.eocd_le
  unfold patchedEocd at heq
  simp only [List.append_assoc] at heq
  obtain ⟨htake, hrest⟩ := List.append_inj heq (by simp only [List.length_take, List.length_drop]; omega)
  obtain ⟨hput, hdrop⟩ := List.append_inj hrest rfl
  exact ⟨htake, putU32_inj hfirst hfirst' hput, hdrop⟩

/-! ## What is hashed -/

section
variable {Key Certificate : Type} {crypto : Crypto Key Certificate} {kind : DigestKind}

def contentChunks (mapping : Bytes) (block : SigningBlock) : List Bytes :=
  (sections mapping block).flatMap (chunks kChunkBytes)

/-- The strings `ComputeContentDigest` hashes. -/
def hashedInputs (crypto : Crypto Key Certificate) (kind : DigestKind) (mapping : Bytes) (block : SigningBlock) : Set Bytes :=
  { input | (∃ chunk ∈ contentChunks mapping block, input = chunkInput chunk) ∨
    ∃ hashes, digestChunks crypto kind (contentChunks mapping block) = .ok hashes ∧
      input = 0x5a :: putU32 (contentChunks mapping block).length ++ hashes }

theorem length_contentChunks (mapping : Bytes) (block : SigningBlock) :
    (contentChunks mapping block).length =
      ((sections mapping block).map fun part => (part.length + kChunkBytes - 1) / kChunkBytes).sum :=
  length_flatMap_chunks (by decide) _

theorem digestParts_some {parts : List Bytes} {hash : Bytes} (h : digestParts crypto kind parts = some hash) :
    crypto.digest kind parts.flatten = some hash ∧ hash.length = kind.size := by
  unfold digestParts at h
  split at h
  · cases h
  · rename_i found hfound
    split at h
    · rename_i hsize
      cases h
      exact ⟨hfound, hsize⟩
    · cases h

/-- The digests of the chunks, each with its chunk. -/
theorem digestChunks_ok {parts : List Bytes} {hashes : Bytes} (h : digestChunks crypto kind parts = .ok hashes) :
    ∃ digests : List Bytes, hashes = digests.flatten ∧
      List.Forall₂ (fun chunk hash => crypto.digest kind (chunkInput chunk) = some hash ∧ hash.length = kind.size)
        parts digests := by
  induction parts generalizing hashes with
  | nil =>
    cases h
    exact ⟨[], rfl, .nil⟩
  | cons chunk rest ih =>
    unfold digestChunks at h
    split at h
    · cases h
    · rename_i hash hhash
      split at h
      · cases h
      · rename_i more hmore
        cases h
        obtain ⟨digests, rfl, hall⟩ := ih hmore
        obtain ⟨hdigest, hsize⟩ := digestParts_some hhash
        refine ⟨hash :: digests, rfl, .cons ⟨?_, hsize⟩ hall⟩
        rw [← hdigest]
        simp [chunkInput]

/-- The digest of a file is the hash of its chunk count and their digests. -/
theorem computeContentDigest_ok {digest : Bytes}
    (h : computeContentDigest crypto mapping block kind = .ok digest) :
    block.first < 2 ^ 32 ∧ (contentChunks mapping block).length < 2 ^ 32 ∧
      ∃ hashes, digestChunks crypto kind (contentChunks mapping block) = .ok hashes ∧
        crypto.digest kind (0x5a :: putU32 (contentChunks mapping block).length ++ hashes) = some digest := by
  unfold computeContentDigest at h
  simp only [bind, Except.bind, pure, Except.pure, throw, throwThe, MonadExceptOf.throw] at h
  split at h
  · cases h
  · rename_i hsize
    split at h
    · cases h
    · rename_i hcount
      rw [← length_contentChunks] at hcount h
      split at h
      · cases h
      · rename_i hashes hhashes
        split at h
        · cases h
        · rename_i found hfound
          cases h
          refine ⟨by omega, by omega, hashes, hhashes, ?_⟩
          rw [← (digestParts_some hfound).1]
          simp

/-- Digests of one length, one after the other, can be told apart. -/
theorem digests_eq {parts parts' digests digests' : List Bytes} {P : Bytes → Bytes → Prop} {size : Nat}
    (h : List.Forall₂ (fun chunk hash => P chunk hash ∧ hash.length = size) parts digests)
    (h' : List.Forall₂ (fun chunk hash => P chunk hash ∧ hash.length = size) parts' digests')
    (hcount : parts.length = parts'.length) (heq : digests.flatten = digests'.flatten) : digests = digests' := by
  induction h generalizing parts' digests' with
  | nil =>
    cases h' with
    | nil => rfl
    | cons _ _ => cases hcount
  | cons hhead _ ih =>
    cases h' with
    | nil => cases hcount
    | cons hhead' htail' =>
      obtain ⟨hh, ht⟩ := List.append_inj heq (hhead.2.trans hhead'.2.symm)
      rw [hh, ih htail' (Nat.succ.inj hcount) ht]

theorem chunks_eq {parts parts' digests : List Bytes} {s : Set Bytes} (hinj : Set.InjOn (crypto.digest kind) s)
    (h : List.Forall₂ (fun chunk hash => crypto.digest kind (chunkInput chunk) = some hash ∧ hash.length = kind.size)
      parts digests)
    (h' : List.Forall₂ (fun chunk hash => crypto.digest kind (chunkInput chunk) = some hash ∧ hash.length = kind.size)
      parts' digests)
    (hs : ∀ chunk ∈ parts, chunkInput chunk ∈ s) (hs' : ∀ chunk ∈ parts', chunkInput chunk ∈ s) : parts = parts' := by
  induction h generalizing parts' with
  | nil =>
    cases h'
    rfl
  | cons hhead _ ih =>
    cases h' with
    | cons hhead' htail' =>
      have hinput := hinj (hs _ (by simp)) (hs' _ (by simp)) (hhead.1.trans hhead'.1.symm)
      have hchunk := (List.append_inj hinput rfl).2
      rw [hchunk, ih htail' (fun c hc => hs c (by simp [hc])) fun c hc => hs' c (by simp [hc])]

/-- Equal chunks of two files: the last one fixes the boundaries. -/
theorem sections_eq {mapping mapping' : Bytes} {block block' : SigningBlock} (hb : BlockBounds mapping block)
    (hb' : BlockBounds mapping' block') (hfirst : block.first < 2 ^ 32) (hfirst' : block'.first < 2 ^ 32)
    (h : contentChunks mapping block = contentChunks mapping' block') :
    mapping.take block.first = mapping'.take block'.first ∧
      slice mapping block.centralDirectory block.eocd = slice mapping' block'.centralDirectory block'.eocd ∧
      (mapping.drop block.eocd).take 16 = (mapping'.drop block'.eocd).take 16 ∧
      (mapping.drop block.eocd).drop 20 = (mapping'.drop block'.eocd).drop 20 := by
  have hpos : 0 < kChunkBytes := by decide
  simp only [contentChunks, sections, List.flatMap_cons, List.flatMap_nil, List.append_nil, eocd_single hb, eocd_single hb'] at h
  rw [← List.append_assoc, ← List.append_assoc] at h
  obtain ⟨hfront, hlast⟩ := List.append_inj' h rfl
  obtain ⟨htake, hlength, hdrop⟩ := patchedEocd_inj hb hb' hfirst hfirst' (List.singleton_inj.mp hlast)
  have hlen : (mapping.take block.first).length = (mapping'.take block'.first).length := by
    have h1 := hb.first_lt
    have h2 := hb.directory_le
    have h3 := hb.eocd_le
    have h1' := hb'.first_lt
    have h2' := hb'.directory_le
    have h3' := hb'.eocd_le
    rw [List.length_take, List.length_take]
    omega
  obtain ⟨hbefore, hdirectory⟩ := chunks_append_inj hpos hlen hfront
  exact ⟨hbefore, chunks_inj hpos hdirectory, htake, hdrop⟩

/-- Two files with the same content digest agree outside their signing blocks. -/
theorem content_digest_binds {file file' : ApkFile} {mapping mapping' : Bytes} {block block' : SigningBlock} {digest : Bytes}
    (hmap : mapFile file = .ok mapping) (hmap' : mapFile file' = .ok mapping')
    (hblock : parseSigningBlock mapping = .ok block) (hblock' : parseSigningBlock mapping' = .ok block')
    (hdigest : computeContentDigest crypto mapping block kind = .ok digest)
    (hdigest' : computeContentDigest crypto mapping' block' kind = .ok digest)
    (hinj : Set.InjOn (crypto.digest kind) (hashedInputs crypto kind mapping block ∪ hashedInputs crypto kind mapping' block')) :
    mapping.take block.first = mapping'.take block'.first ∧
      slice mapping block.centralDirectory block.eocd = slice mapping' block'.centralDirectory block'.eocd ∧
      (mapping.drop block.eocd).take 16 = (mapping'.drop block'.eocd).take 16 ∧
      (mapping.drop block.eocd).drop 20 = (mapping'.drop block'.eocd).drop 20 := by
  have hb := parseSigningBlock_bounds (mapFile_size hmap) hblock
  have hb' := parseSigningBlock_bounds (mapFile_size hmap') hblock'
  obtain ⟨hfirst, hcount, hashes, hhashes, htop⟩ := computeContentDigest_ok hdigest
  obtain ⟨hfirst', hcount', hashes', hhashes', htop'⟩ := computeContentDigest_ok hdigest'
  have hlist := hinj (.inl (.inr ⟨hashes, hhashes, rfl⟩)) (.inr (.inr ⟨hashes', hhashes', rfl⟩)) (htop.trans htop'.symm)
  simp only [List.cons_append, List.cons.injEq, true_and] at hlist
  obtain ⟨hput, hflat⟩ := List.append_inj hlist rfl
  have hlength := putU32_inj hcount hcount' hput
  obtain ⟨digests, rfl, hall⟩ := digestChunks_ok hhashes
  obtain ⟨digests', rfl, hall'⟩ := digestChunks_ok hhashes'
  have hsame := digests_eq hall hall' hlength hflat
  subst hsame
  refine sections_eq hb hb' hfirst hfirst' (chunks_eq hinj hall hall' ?_ ?_)
  · intro chunk hchunk
    exact .inl (.inl ⟨chunk, hchunk, rfl⟩)
  · intro chunk hchunk
    exact .inr (.inl ⟨chunk, hchunk, rfl⟩)

end

/-! ## A small archive -/

/-- An APK of 75 bytes whose v2 block is one byte. -/
def smallApk (scheme : UInt8) : Bytes :=
  [80, 75, 3, 4, 37, 0, 0, 0, 0, 0, 0, 0, 5, 0, 0, 0, 0, 0, 0, 0, 26, 135, 9, 113, scheme,
   37, 0, 0, 0, 0, 0, 0, 0, 65, 80, 75, 32, 83, 105, 103, 32, 66, 108, 111, 99, 107, 32, 52, 50, 80, 75, 1, 2,
   80, 75, 5, 6, 0, 0, 0, 0, 1, 0, 1, 0, 4, 0, 0, 0, 49, 0, 0, 0, 0, 0]

/-- OpenSSL as far as a table of SHA-256 digests goes. -/
def tableCrypto (table : List (Bytes × Bytes)) : Crypto Unit Unit where
  digest kind input := if kind = .sha256 then (table.find? (·.1 == input)).map (·.2) else none
  d2iPubkey _ := none
  d2iX509 _ := none
  getPubkey _ := none
  sameKey _ _ := false
  verify _ _ _ _ := .bad

/-- SHA-256 of what is hashed for `smallApk`. -/
def smallDigests : List (Bytes × Bytes) :=
  let first : Bytes := [92, 254, 192, 203, 189, 215, 91, 180, 128, 232, 248, 101, 131, 102, 177, 222, 56, 47, 53, 41,
    190, 181, 52, 59, 60, 240, 128, 69, 183, 194, 95, 238]
  let directory : Bytes := [221, 244, 82, 43, 2, 138, 217, 246, 152, 29, 186, 13, 160, 89, 182, 171, 158, 27, 190, 113,
    188, 15, 166, 85, 176, 115, 136, 206, 43, 192, 238, 88]
  let eocd : Bytes := [181, 152, 59, 48, 101, 93, 207, 43, 205, 224, 48, 246, 100, 157, 40, 141, 89, 170, 11, 248, 253, 97, 188,
    215, 103, 168, 69, 231, 115, 6, 142, 106]
  [([165, 4, 0, 0, 0, 80, 75, 3, 4], first),
   ([165, 4, 0, 0, 0, 80, 75, 1, 2], directory),
   ([165, 22, 0, 0, 0, 80, 75, 5, 6, 0, 0, 0, 0, 1, 0, 1, 0, 4, 0, 0, 0, 4, 0, 0, 0, 0, 0], eocd),
   ([90, 3, 0, 0, 0] ++ first ++ directory ++ eocd,
    [53, 180, 216, 128, 183, 65, 88, 225, 5, 37, 1, 201, 22, 127, 79, 85, 197, 92, 137, 167, 224, 246, 26, 199,
     25, 245, 138, 139, 150, 160, 166, 194])]

def smallBlock (scheme : UInt8) : SigningBlock :=
  { schemes := { v2 := some [scheme] }, first := 4, centralDirectory := 49, eocd := 53 }

/-- What is hashed for a small archive is in the table. -/
theorem hashedInputs_smallApk {scheme : UInt8} (hashes : Bytes)
    (hchunks : (contentChunks (smallApk scheme) (smallBlock scheme)).map chunkInput = (smallDigests.take 3).map (·.1))
    (hhashes : digestChunks (tableCrypto smallDigests) .sha256 (contentChunks (smallApk scheme) (smallBlock scheme)) = .ok hashes)
    (htop : 0x5a :: putU32 (contentChunks (smallApk scheme) (smallBlock scheme)).length ++ hashes ∈ smallDigests.map (·.1)) :
    hashedInputs (tableCrypto smallDigests) .sha256 (smallApk scheme) (smallBlock scheme) ⊆
      { x | x ∈ smallDigests.map (·.1) } := by
  intro input hinput
  rcases hinput with ⟨chunk, hchunk, rfl⟩ | ⟨found, hfound, rfl⟩
  · have hmem : chunkInput chunk ∈ (smallDigests.take 3).map (·.1) := by
      rw [← hchunks]
      exact List.mem_map_of_mem hchunk
    obtain ⟨entry, hentry, heq⟩ := List.mem_map.mp hmem
    exact List.mem_map.mpr ⟨entry, List.mem_of_mem_take hentry, heq⟩
  · rw [hhashes] at hfound
    cases hfound
    exact htop

/-- The digests of the three chunks. -/
def smallHashes : Bytes := ((smallDigests.take 3).map (·.2)).flatten

def smallDigest : Bytes := (smallDigests.getLast?.map (·.2)).getD []

/-- Two archives that differ in their signing block alone. -/
theorem content_digest_binds_smallApk :
    smallApk 1 ≠ smallApk 2 ∧ (smallApk 1).take 4 = (smallApk 2).take 4 := by
  have hnodup : (smallDigests.map (·.1)).Pairwise fun x y =>
      (tableCrypto smallDigests).digest .sha256 x ≠ (tableCrypto smallDigests).digest .sha256 y := by decide +kernel
  have hinj : Set.InjOn ((tableCrypto smallDigests).digest .sha256)
      (hashedInputs (tableCrypto smallDigests) .sha256 (smallApk 1) (smallBlock 1) ∪
        hashedInputs (tableCrypto smallDigests) .sha256 (smallApk 2) (smallBlock 2)) := by
    have h1 := @hashedInputs_smallApk 1 smallHashes (by decide +kernel) (by decide +kernel) (by decide +kernel)
    have h2 := @hashedInputs_smallApk 2 smallHashes (by decide +kernel) (by decide +kernel) (by decide +kernel)
    intro x hx y hy heq
    by_contra hne
    have hsymm : Std.Symm fun x y : Bytes =>
        (tableCrypto smallDigests).digest .sha256 x ≠ (tableCrypto smallDigests).digest .sha256 y := ⟨fun _ _ h => h.symm⟩
    exact hnodup.forall (Set.union_subset h1 h2 hx) (Set.union_subset h1 h2 hy) hne heq
  have hmap (scheme : UInt8) : mapFile (.regular (smallApk scheme)) = .ok (smallApk scheme) := rfl
  have hparse1 : parseSigningBlock (smallApk 1) = .ok (smallBlock 1) := by decide +kernel
  have hparse2 : parseSigningBlock (smallApk 2) = .ok (smallBlock 2) := by decide +kernel
  have hdigest1 : computeContentDigest (tableCrypto smallDigests) (smallApk 1) (smallBlock 1) .sha256 = .ok smallDigest := by
    decide +kernel
  have hdigest2 : computeContentDigest (tableCrypto smallDigests) (smallApk 2) (smallBlock 2) .sha256 = .ok smallDigest := by
    decide +kernel
  have hbinds := content_digest_binds (hmap 1) (hmap 2) hparse1 hparse2 hdigest1 hdigest2 hinj
  exact ⟨by decide +kernel, hbinds.1⟩

end Mocktail.Update

/-
  Mocktail.Update.ApkSigners — what a truthy `VerifyApkSignature` says of the file's signers.

  A result is truthy when it has no error text. Every function below `VerifyScheme` that
  returns false has set one, or `VerifyScheme` sets one for it. `VerifyScheme` itself ends
  with `return signer_count > 0`, and this false has no text: a scheme block that holds an
  empty signer sequence verifies with no signer at all (`signer_sound_iff`,
  `unsignedApk_truthy`).
-/

import Mathlib.Data.List.Forall2
import Mocktail.Update.ContentDigest

namespace Mocktail.Update

open Mocktail.Lib Mocktail.Launch

/-! ## Length-prefixed records -/

/-- A record as it stands in the file. -/
def prefixed (bytes : Bytes) : Bytes := putU32 bytes.length ++ bytes

theorem ofNat_eq {n : Nat} {b : UInt8} (h : n % 2 ^ 8 = b.toNat) : UInt8.ofNat n = b := by
  apply UInt8.toNat_inj.mp
  rw [UInt8.toNat_ofNat', h]

theorem putU32_u32 (a b c d : UInt8) (rest : Bytes) : putU32 (u32 (a :: b :: c :: d :: rest) 0) = [a, b, c, d] := by
  have ha := a.toNat_lt
  have hb := b.toNat_lt
  have hc := c.toNat_lt
  have hd := d.toNat_lt
  simp only [putU32, u32, byteAt, List.getD_cons_zero, List.getD_cons_succ, Nat.zero_add, List.cons.injEq, and_true]
  refine ⟨ofNat_eq ?_, ofNat_eq ?_, ofNat_eq ?_, ofNat_eq ?_⟩
  all_goals omega

variable {bytes rest scheme span : Bytes}

theorem u32Value_some {value : Nat} (h : u32Value span = (some value, rest)) :
    span = putU32 value ++ rest := by
  unfold u32Value at h
  split at h
  · cases h
  · rename_i hlen
    cases h
    match span with
    | a :: b :: c :: d :: rest => simp [putU32_u32]
    | [] | [_] | [_, _] | [_, _, _] => simp at hlen

theorem lengthPrefixed_some (h : lengthPrefixed span = (some bytes, rest)) :
    span = prefixed bytes ++ rest := by
  unfold lengthPrefixed at h
  split at h
  · cases h
  · rename_i size after hvalue
    split at h
    · cases h
    · rename_i hlen
      cases h
      rw [u32Value_some hvalue, prefixed, List.length_take, Nat.min_eq_left (by omega), List.append_assoc,
        List.take_append_drop]

variable {α β : Type}

theorem forall₂_mem {R : α → β → Prop} {l : List α} {m : List β} (h : List.Forall₂ R l m) {a : α} (ha : a ∈ l) :
    ∃ b ∈ m, R a b := by
  induction h with
  | nil => cases ha
  | cons hhead _ ih =>
    rcases List.mem_cons.mp ha with rfl | ha
    · exact ⟨_, by simp, hhead⟩
    · obtain ⟨b, hb, hr⟩ := ih ha
      exact ⟨b, by simp [hb], hr⟩

/-! ## Sorted fingerprints -/

theorem textBefore_irrefl (s : Text) : textBefore s s = false := by
  induction s with
  | nil => rfl
  | cons a s ih => simp [textBefore, ih]

variable {fingerprints l : List Text}

theorem mem_unique {a : Text} : a ∈ unique l ↔ a ∈ l := by
  induction l with
  | nil => rfl
  | cons b rest ih =>
    unfold unique
    split
    · rename_i hnil
      rw [hnil] at ih
      simp only [List.mem_cons, ← ih]
    · rename_i c more hcons
      rw [hcons] at ih
      split
      · rename_i heq
        subst heq
        rw [ih, List.mem_cons, ← ih]
        simp
      · rw [List.mem_cons, ih, List.mem_cons]

/-- `std::sort` and `std::unique` leave an ascending list. -/
theorem unique_ascending (h : l.Pairwise fun a b => (!textBefore b a) = true) :
    (unique l).Pairwise fun a b => textBefore a b = true := by
  induction l with
  | nil => exact .nil
  | cons a rest ih =>
    obtain ⟨hfirst, hrest⟩ := List.pairwise_cons.mp h
    have hih := ih hrest
    unfold unique
    split
    · exact List.pairwise_singleton _ _
    · rename_i b more hcons
      rw [hcons] at hih
      split
      · exact hih
      · rename_i hne
        have hab : textBefore a b = true := by
          have hb : b ∈ rest := mem_unique.mp (by rw [hcons]; simp)
          exact textBefore_total (Ne.symm hne) (by simpa using hfirst b hb)
        refine List.pairwise_cons.mpr ⟨?_, hih⟩
        intro c hc
        rcases List.mem_cons.mp hc with rfl | hc
        · exact hab
        · exact textBefore_trans hab ((List.pairwise_cons.mp hih).1 c hc)

theorem sorted_fingerprints (l : List Text) :
    (l.mergeSort fun a b => !textBefore b a).Pairwise fun a b => (!textBefore b a) = true := by
  apply List.pairwise_mergeSort
  · intro a b c hab hbc
    by_contra hca
    have hca : textBefore c a = true := by simpa using hca
    by_cases hbceq : b = c
    · subst hbceq
      simp [hca] at hab
    · have hbc' : textBefore b c = true := textBefore_total (Ne.symm hbceq) (by simpa using hbc)
      simp [textBefore_trans hbc' hca] at hab
  · intro a b
    by_cases heq : a = b
    · subst heq
      simp [textBefore_irrefl]
    · by_cases hba : textBefore b a = true
      · have hab : textBefore a b = false := by
          by_contra hab
          have hloop := textBefore_trans hba (by simpa using hab)
          rw [textBefore_irrefl] at hloop
          cases hloop
        simp [hab]
      · simp [hba]

/-! ## Signers -/

section
variable {Key Certificate : Type} {crypto : Crypto Key Certificate}

/-- The leaf certificate, whose key is the signer's. -/
structure LeafMatches (crypto : Crypto Key Certificate) (key : Key) (encoded : Bytes) (fingerprint : Text) : Prop where
  key_matches : ∃ certificate certificateKey, crypto.d2iX509 encoded = some (certificate, encoded.length) ∧
    crypto.getPubkey certificate = some certificateKey ∧ crypto.sameKey certificateKey key = true
  hashed : ∃ hash, crypto.digest .sha256 encoded = some hash ∧ fingerprint = hex hash

/-- A verified signer, and the fingerprint it has added. -/
structure SignerVerified (crypto : Crypto Key Certificate) (mapping : Bytes) (block : SigningBlock) (v3 : Bool) (signer : Bytes)
    (fingerprint : Text) (fields : SignerFields) (signed : SignedData) (selected : Selected) (key : Key) (leaf : Bytes) :
      Prop where
  fields_read : readSignerFields signer v3 = .ok fields
  signed_read : readSignedData fields.signedData v3 = .ok signed
  selected_read : selectEvidence signed.digests fields.signatures = .ok selected
  key_read : crypto.d2iPubkey fields.publicKey = some (key, fields.publicKey.length)
  signature_good : crypto.verify selected.algorithm key selected.signature fields.signedData = .good
  content_digest : computeContentDigest crypto mapping block selected.algorithm.digest = .ok selected.digest
  leaf_first : ∃ others, signed.certificates = prefixed leaf ++ others
  leaf_matches : LeafMatches crypto key leaf fingerprint

variable {fingerprint : Text} {key : Key}

theorem readCertificate_leaf {encoded : Bytes}
    (h : readCertificate crypto key true encoded = .ok fingerprint) : LeafMatches crypto key encoded fingerprint := by
  unfold readCertificate at h
  split at h
  · cases h
  · rename_i certificate size hx509
    simp only [bind, Except.bind, pure, Except.pure, throw, throwThe, MonadExceptOf.throw] at h
    split at h
    · cases h
    · rename_i hsize
      split at h
      · cases h
      · rename_i hkey
        have hkey : (crypto.getPubkey certificate).any (fun certificateKey => crypto.sameKey certificateKey key) = true := by
          simpa using hkey
        obtain ⟨certificateKey, hpub, hsame⟩ := (Option.any_eq_true _ _).mp hkey
        have hsize : size = encoded.length := by omega
        subst hsize
        split at h
        · rename_i hash hhash
          split at h
          · cases h
            exact ⟨⟨certificate, certificateKey, hx509, hpub, hsame⟩, hash, hhash, rfl⟩
          · cases h
        · cases h

variable {sequence : Bytes}

theorem readCertificates_later {fuel : Nat} {first fingerprint : Text}
    (h : readCertificates crypto key fuel (some first) sequence = .ok fingerprint) : fingerprint = first := by
  induction fuel generalizing sequence with
  | zero => cases h
  | succ fuel ih =>
    unfold readCertificates at h
    split at h
    · cases h
      rfl
    · split at h
      · cases h
      · split at h
        · cases h
        · split at h
          · cases h
          · exact ih h

theorem readCertificates_leaf {fuel : Nat}
    (h : readCertificates crypto key fuel none sequence = .ok fingerprint) :
    ∃ leaf, (∃ others, sequence = prefixed leaf ++ others) ∧ LeafMatches crypto key leaf fingerprint := by
  cases fuel with
  | zero => cases h
  | succ fuel =>
    unfold readCertificates at h
    split at h
    · cases h
    · split at h
      · cases h
      · rename_i encoded rest hprefixed
        split at h
        · cases h
        · split at h
          · cases h
          · rename_i first hfirst
            have heq : fingerprint = first := readCertificates_later h
            subst heq
            exact ⟨encoded, ⟨rest, lengthPrefixed_some hprefixed⟩, readCertificate_leaf hfirst⟩

theorem readPublicKey_ok (h : readPublicKey crypto bytes = .ok key) :
    crypto.d2iPubkey bytes = some (key, bytes.length) := by
  unfold readPublicKey at h
  split at h
  · rename_i found size hfound
    split at h
    · rename_i hsize
      cases h
      rw [hfound, hsize]
    · cases h
  · cases h

theorem verifySignedData_ok {signedData signature : Bytes} {algorithm : SignatureAlgorithm} {u : Unit}
    (h : verifySignedData crypto signedData signature algorithm key = .ok u) :
    crypto.verify algorithm key signature signedData = .good := by
  unfold verifySignedData at h
  split at h
  · cases h
  · cases h
  · cases h
  · assumption

variable {block : SigningBlock} {mapping : Bytes}

theorem checkContentDigest_ok {selected : Selected} {u : Unit}
    (h : checkContentDigest crypto mapping block selected = .ok u) :
    computeContentDigest crypto mapping block selected.algorithm.digest = .ok selected.digest := by
  obtain ⟨calculated, hcalculated, h⟩ := bind_ok h
  split at h
  · cases h
  · rename_i heq
    rw [hcalculated, Decidable.not_not.mp heq]

variable {v3 : Bool}

theorem verifySigner_ok {signer : Bytes}
    (h : verifySigner crypto mapping block signer v3 = .ok fingerprint) :
    ∃ fields signed selected key leaf, SignerVerified crypto mapping block v3 signer fingerprint fields signed selected
      key leaf := by
  obtain ⟨fields, hfields, h⟩ := bind_ok h
  obtain ⟨signed, hsigned, h⟩ := bind_ok h
  split at h
  · cases h
  · obtain ⟨selected, hselected, h⟩ := bind_ok h
    obtain ⟨key, hkey, h⟩ := bind_ok h
    obtain ⟨u, hgood, h⟩ := bind_ok h
    obtain ⟨v, hdigest, h⟩ := bind_ok h
    obtain ⟨leaf, hfirst, hleaf⟩ := readCertificates_leaf h
    exact ⟨fields, signed, selected, key, leaf, hfields, hsigned, hselected, readPublicKey_ok hkey, verifySignedData_ok hgood,
      checkContentDigest_ok hdigest, hfirst, hleaf⟩

/-- The signers that have been verified are the records of the sequence. -/
theorem verifySigners_ok {fuel count : Nat}
    (hfuel : sequence.length ≤ fuel)
    (h : verifySigners crypto mapping block v3 fuel count sequence = .ok fingerprints) :
    ∃ signers : List Bytes, sequence = signers.flatMap prefixed ∧
      List.Forall₂ (fun signer fingerprint => ∃ fields signed selected key leaf,
        SignerVerified crypto mapping block v3 signer fingerprint fields signed selected key leaf) signers fingerprints := by
  induction fuel generalizing count sequence fingerprints with
  | zero =>
    cases h
    rw [List.length_eq_zero_iff.mp (Nat.le_zero.mp hfuel)]
    exact ⟨[], rfl, .nil⟩
  | succ fuel ih =>
    unfold verifySigners at h
    split at h
    · rename_i hempty
      cases h
      rw [List.length_eq_zero_iff.mp hempty]
      exact ⟨[], rfl, .nil⟩
    · split at h
      · cases h
      · rename_i signer rest hprefixed
        split at h
        · cases h
        · split at h
          · cases h
          · rename_i fingerprint hsigner
            split at h
            · cases h
            · split at h
              · cases h
              · rename_i more hmore
                cases h
                have hseq := lengthPrefixed_some hprefixed
                have hshort : rest.length ≤ fuel := by
                  rw [hseq, List.length_append, prefixed, List.length_append] at hfuel
                  simp only [putU32, List.length_cons] at hfuel
                  omega
                obtain ⟨signers, hsigners, hall⟩ := ih hshort hmore
                refine ⟨signer :: signers, ?_, .cons (verifySigner_ok hsigner) hall⟩
                rw [hseq, hsigners, List.flatMap_cons]

/-! ## Every failure but one has a text -/

def Speaks {α : Type} (x : Except String α) : Prop := ∀ e, x = .error e → e ≠ ""

theorem Speaks.bind {x : Except String α} {f : α → Except String β} (hx : Speaks x)
    (hf : ∀ a, x = .ok a → Speaks (f a)) : Speaks (x >>= f) := by
  intro e he
  cases x with
  | error found =>
    cases he
    exact hx _ rfl
  | ok a => exact hf a rfl e he

theorem Speaks.ok {α : Type} (a : α) : Speaks (.ok a : Except String α) := by
  intro e he
  cases he

theorem Speaks.error {α : Type} {text : String} (h : text ≠ "") : Speaks (.error text : Except String α) := by
  intro e he
  cases he
  exact h

theorem Speaks.guard {α : Type} {p : Prop} [Decidable p] {text : String} {x : Except String α} (htext : text ≠ "")
    (hx : Speaks x) :
    Speaks (if p then .error text else x) := by
  split
  · exact .error htext
  · exact hx

theorem mapFile_speaks (file : ApkFile) : Speaks (mapFile file) := by
  cases file with
  | missing => exact .error (by decide)
  | irregular => exact .error (by decide)
  | unmappable bytes => exact .guard (by decide) (.error (by decide))
  | regular bytes => exact .guard (by decide) (.ok _)

theorem findEocd_speaks (mapping : Bytes) : Speaks (findEocd mapping) := by
  unfold findEocd
  split
  · exact .ok _
  · exact .error (by decide)

theorem keepPair_speaks (id : Nat) (value : Bytes) (schemes : Schemes) : Speaks (keepPair id value schemes) := by
  simp only [keepPair]
  -- Each of the three schemes is kept if the block did not give it yet.
  repeat' split
  all_goals first | exact .error (by decide) | exact .ok _

theorem readPair_speaks (mapping : Bytes) (pairsEnd cursor : Nat) (schemes : Schemes) :
    Speaks (readPair mapping pairsEnd cursor schemes) := by
  unfold readPair
  refine .guard (by decide) (.guard (by decide) ?_)
  exact .bind (keepPair_speaks _ _ _) fun _ _ => .ok _

theorem readPairs_speaks (mapping : Bytes) (pairsEnd fuel : Nat) :
    ∀ cursor schemes, Speaks (readPairs mapping pairsEnd fuel cursor schemes) := by
  induction fuel with
  | zero => exact fun _ _ => .ok _
  | succ fuel ih =>
    intro cursor schemes
    unfold readPairs
    split
    · split
      · rename_i e he
        exact .error (readPair_speaks _ _ _ _ e he)
      · exact ih _ _
    · exact .ok _

theorem parseSigningBlock_speaks (mapping : Bytes) : Speaks (parseSigningBlock mapping) := by
  unfold parseSigningBlock
  refine .bind (findEocd_speaks _) fun eocd _ => ?_
  refine .guard (by decide) (.guard (by decide) (.guard (by decide) ?_))
  refine .bind (readPairs_speaks _ _ _ _ _) fun pair _ => ?_
  exact .guard (by decide) (.ok _)

theorem verifySigners_speaks (mapping : Bytes) (block : SigningBlock) (v3 : Bool) (fuel : Nat) :
    ∀ count sequence, Speaks (verifySigners crypto mapping block v3 fuel count sequence) := by
  induction fuel with
  | zero => exact fun _ _ => .ok _
  | succ fuel ih =>
    intro count sequence
    unfold verifySigners
    split
    · exact .ok _
    · split
      · exact .error (by decide)
      · refine .guard (by decide) ?_
        split
        · rename_i e _
          refine .error ?_
          split
          · decide
          · assumption
        · refine .guard (by decide) ?_
          split
          · rename_i e he
            exact .error (ih _ _ e he)
          · exact .ok _

/-- The one failure without a text: the block holds an empty signer sequence. -/
theorem verifyScheme_silent
    (h : verifyScheme crypto mapping block scheme v3 = .error "") : scheme = [0, 0, 0, 0] := by
  unfold verifyScheme at h
  split at h
  · rename_i sequence hprefixed
    split at h
    · rename_i e he
      have := verifySigners_speaks _ _ _ _ _ _ e he
      cases h
      contradiction
    · rename_i hnone
      obtain ⟨signers, hseq, hall⟩ := verifySigners_ok (Nat.le_refl _) hnone
      cases hall
      rw [lengthPrefixed_some hprefixed, hseq]
      rfl
    · cases h
  · simp at h

/-! ## A truthy result -/

/-- A truthy result: there is a signer, every signer is verified, the list of certificates is
    not empty and ascending. -/
def SignerSound (crypto : Crypto Key Certificate) (file : ApkFile) : Prop :=
  (verifyApkSignature crypto file).truthy = true →
    ∃ mapping block signers, mapFile file = .ok mapping ∧ parseSigningBlock mapping = .ok block ∧
      (selectScheme block.schemes).1 = prefixed (signers.flatMap prefixed) ∧ signers ≠ [] ∧
      (∀ signer ∈ signers, ∃ fingerprint ∈ (verifyApkSignature crypto file).certificateSha256, ∃ fields signed selected key leaf,
        SignerVerified crypto mapping block (selectScheme block.schemes).2 signer fingerprint fields signed selected key leaf) ∧
      (verifyApkSignature crypto file).certificateSha256 ≠ [] ∧
      (verifyApkSignature crypto file).certificateSha256.Pairwise fun a b => textBefore a b = true

/-- The file has a signing block and the scheme of it that is checked is an empty sequence of signers. -/
def NoSigners (file : ApkFile) : Prop :=
  ∃ mapping block, mapFile file = .ok mapping ∧ parseSigningBlock mapping = .ok block ∧
    (selectScheme block.schemes).1 = [0, 0, 0, 0]

theorem verifyScheme_noSigners (mapping : Bytes) (block : SigningBlock) (v3 : Bool) :
    verifyScheme crypto mapping block [0, 0, 0, 0] v3 = .error "" := by
  have hempty : lengthPrefixed [0, 0, 0, 0] = (some [], []) := by decide
  simp only [verifyScheme, hempty, List.length_nil, verifySigners]

theorem verifyScheme_ok
    (h : verifyScheme crypto mapping block scheme v3 = .ok fingerprints) :
    fingerprints ≠ [] ∧ ∃ signers : List Bytes, scheme = prefixed (signers.flatMap prefixed) ∧
      List.Forall₂ (fun signer fingerprint => ∃ fields signed selected key leaf,
        SignerVerified crypto mapping block v3 signer fingerprint fields signed selected key leaf) signers fingerprints := by
  unfold verifyScheme at h
  split at h
  · rename_i sequence hprefixed
    split at h
    · cases h
    · cases h
    · rename_i found hne hfound
      cases h
      obtain ⟨signers, hseq, hall⟩ := verifySigners_ok (Nat.le_refl _) hfound
      refine ⟨fun hnil => hne (by rw [hnil]), signers, ?_, hall⟩
      rw [lengthPrefixed_some hprefixed, hseq, List.append_nil]
  · cases h

/-- A truthy result has a signer unless the scheme block is empty. -/
theorem signer_sound_iff (crypto : Crypto Key Certificate) (file : ApkFile) : SignerSound crypto file ↔ ¬NoSigners file := by
  constructor
  · intro hsound hnone
    obtain ⟨mapping, block, hmap, hparse, hscheme⟩ := hnone
    have hresult : verifyApkSignature crypto file = {} := by
      unfold verifyApkSignature
      simp only [hmap, hparse, hscheme, verifyScheme_noSigners]
    obtain ⟨-, -, -, -, -, -, -, -, hne, -⟩ := hsound (by rw [hresult]; rfl)
    rw [hresult] at hne
    exact hne rfl
  · intro hsome htruthy
    cases hmap : mapFile file with
    | error e =>
      have hspeaks := mapFile_speaks file e hmap
      simp [verifyApkSignature, hmap, ApkSignatureResult.truthy, hspeaks] at htruthy
    | ok mapping =>
      cases hparse : parseSigningBlock mapping with
      | error e =>
        have hspeaks := parseSigningBlock_speaks mapping e hparse
        simp [verifyApkSignature, hmap, hparse, ApkSignatureResult.truthy, hspeaks] at htruthy
      | ok block =>
        cases hverify : verifyScheme crypto mapping block (selectScheme block.schemes).1 (selectScheme block.schemes).2 with
        | error e =>
          have hsilent : e = "" := by
            simpa [verifyApkSignature, hmap, hparse, hverify, ApkSignatureResult.truthy] using htruthy
          subst hsilent
          exact absurd ⟨mapping, block, hmap, hparse, verifyScheme_silent hverify⟩ hsome
        | ok fingerprints =>
          obtain ⟨hne, signers, hscheme, hall⟩ := verifyScheme_ok hverify
          have hresult : (verifyApkSignature crypto file).certificateSha256 =
              unique (fingerprints.mergeSort fun a b => !textBefore b a) := by
            simp only [verifyApkSignature, hmap, hparse, hverify]
          have hmem (fingerprint : Text) :
              fingerprint ∈ (verifyApkSignature crypto file).certificateSha256 ↔ fingerprint ∈ fingerprints := by
            rw [hresult, mem_unique, List.mem_mergeSort]
          refine ⟨mapping, block, signers, rfl, hparse, hscheme, ?_, ?_, ?_, ?_⟩
          · intro hnil
            subst hnil
            cases hall
            exact hne rfl
          · intro signer hsigner
            obtain ⟨fingerprint, hfingerprint, hverified⟩ := forall₂_mem hall hsigner
            exact ⟨fingerprint, (hmem fingerprint).mpr hfingerprint, hverified⟩
          · intro hnil
            obtain ⟨fingerprint, hfingerprint⟩ := List.exists_mem_of_ne_nil _ hne
            have hin := (hmem fingerprint).mpr hfingerprint
            rw [hnil] at hin
            cases hin
          · rw [hresult]
            exact unique_ascending (sorted_fingerprints _)

end

/-- An APK whose v2 block is an empty sequence of signers. -/
def unsignedApk : Bytes :=
  [80, 75, 3, 4, 40, 0, 0, 0, 0, 0, 0, 0, 8, 0, 0, 0, 0, 0, 0, 0, 26, 135, 9, 113, 0, 0, 0, 0,
   40, 0, 0, 0, 0, 0, 0, 0, 65, 80, 75, 32, 83, 105, 103, 32, 66, 108, 111, 99, 107, 32, 52, 50, 80, 75, 1, 2,
   80, 75, 5, 6, 0, 0, 0, 0, 1, 0, 1, 0, 4, 0, 0, 0, 52, 0, 0, 0, 0, 0]

/-- It verifies, with no certificate. -/
theorem unsignedApk_truthy :
    (verifyApkSignature (tableCrypto []) (.regular unsignedApk)).truthy = true ∧
      (verifyApkSignature (tableCrypto []) (.regular unsignedApk)).certificateSha256 = [] ∧
      ¬SignerSound (tableCrypto []) (.regular unsignedApk) := by
  have htruthy : (verifyApkSignature (tableCrypto []) (.regular unsignedApk)).truthy = true := by decide +kernel
  have hnone : (verifyApkSignature (tableCrypto []) (.regular unsignedApk)).certificateSha256 = [] := by decide +kernel
  refine ⟨htruthy, hnone, ?_⟩
  intro hsound
  obtain ⟨-, -, -, -, -, -, -, -, hne, -⟩ := hsound htruthy
  exact hne hnone

end Mocktail.Update

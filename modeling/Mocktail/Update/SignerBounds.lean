/-
  Mocktail.Update.SignerBounds — the signers of an APK are read inside its signing block.

  As in `Update.SigningBounds`, one lemma per function of `Update.SigningReads`: its events are
  allowed, its result is that of `Update.ApkSignature` for the bytes, and the spans in the result
  are in the block (`Inside`). The functions of `Update.ApkSignature` that bind results are first
  brought into the form of nested matches (`readSignerFields_eq` and the like). OpenSSL sees the
  same bytes on both sides.
-/

import Mocktail.Update.ApkSigners
import Mocktail.Update.SigningBounds

namespace Mocktail.Update.Signing

open Mocktail.Lib Mocktail.Launch
open Mocktail.Update.Manifest (Event View byte sizeT copyBytes)

variable {count cursor fuel last offset : Nat}

section
variable {mapping : Bytes} {block : Window} {r : Reader} {span : View}
variable (hn : mapping.length < 2 ^ 63) (hlast : block.last ≤ mapping.length)

/-! ## Id sequences -/

def IdSpan.pure (mapping : Bytes) (x : IdSpan) : IdBytes := ⟨x.id, bytesOf mapping x.bytes⟩

include hn hlast in
theorem safe_readIdRecord (h : Inside block span) :
    Safe mapping.length (readIdRecord mapping block span) fun q =>
      Update.readIdRecord (bytesOf mapping span) = q.map (IdSpan.pure mapping) ∧ ∀ v, q = some v → Inside block v.bytes := by
  refine .seq (safe_u32Value hn h.reader hlast) ?_
  rintro ⟨id, fields⟩ ⟨hid, hok, -⟩
  rw [rest_start] at hid
  cases id with
  | none => exact .pure ⟨by simp [Update.readIdRecord, hid], nofun⟩
  | some id =>
    refine .seq (safe_lengthPrefixed hn hok hlast) ?_
    rintro ⟨value, fields'⟩ ⟨hvalue, hok', hinside, -⟩
    cases value with
    | none => exact .pure ⟨by simp [Update.readIdRecord, hid, hvalue], nofun⟩
    | some value =>
      refine .seq_eq (safe_remaining hn hok' hlast) ?_
      simp only at hvalue hid
      refine .ite (fun hleft => .pure ⟨?_, nofun⟩) fun hleft => .pure ⟨?_, fun v hv => ?_⟩
      · cases hrest : fields'.rest mapping with
        | nil => exact absurd (by rw [hrest]; rfl) hleft
        | cons b rest => simp [Update.readIdRecord, hid, hvalue, hrest]
      · have hnil : fields'.rest mapping = [] := by simpa using hleft
        simp [Update.readIdRecord, hid, hvalue, hnil, IdSpan.pure]
      · cases hv
        exact hinside value rfl

/-- The records of a sequence are those of its bytes, and they stay in the signing block. -/
def RecordsRead (mapping : Bytes) (block : Window) (result : Except String (List IdBytes)) (q : Except String (List IdSpan)) :
    Prop :=
  result = q.map (List.map (IdSpan.pure mapping)) ∧ ∀ values, q = .ok values → ∀ v ∈ values, Inside block v.bytes

theorem recordsRead_error {e : String} {result : Except String (List IdBytes)} (h : result = .error e) :
    RecordsRead mapping block result (.error e) := ⟨h, nofun⟩

include hn hlast in
theorem safe_idRecords (hr : r.Ok block)
    (hfuel : (r.rest mapping).length ≤ fuel) :
    Safe mapping.length (idRecords mapping block fuel r)
      (RecordsRead mapping block (Update.idRecords fuel (r.rest mapping))) := by
  induction fuel generalizing r with
  | zero =>
    refine .seq_eq (safe_remaining hn hr hlast) ?_
    refine .ite (fun _ => .pure ⟨rfl, fun values hv => ?_⟩) fun hne => absurd (Nat.le_zero.mp hfuel) hne
    cases hv
    exact fun v hv => absurd hv List.not_mem_nil
  | succ fuel ih =>
    unfold idRecords Update.idRecords
    refine .seq_eq (safe_remaining hn hr hlast) ?_
    by_cases hempty : (r.rest mapping).length = 0
    · rw [if_pos hempty, if_pos hempty]
      refine .pure ⟨rfl, fun values hv => ?_⟩
      cases hv
      exact fun v hv => absurd hv List.not_mem_nil
    · rw [if_neg hempty, if_neg hempty]
      refine .seq (safe_lengthPrefixed hn hr hlast) ?_
      rintro ⟨record, r'⟩ ⟨hrecord, hok, hinside, hshorter⟩
      rw [hrecord]
      cases record with
      | none => exact .pure (recordsRead_error rfl)
      | some record =>
        have hshorter := hshorter (by simp)
        refine .seq (safe_readIdRecord hn hlast (hinside record rfl)) ?_
        rintro value ⟨hvalue, hin⟩
        simp only [Option.map_some, hvalue]
        cases value with
        | none => exact .pure (recordsRead_error rfl)
        | some value =>
          refine .seq (ih hok (by simp only at hshorter; omega)) ?_
          rintro q ⟨hreads, hrest⟩
          simp only [Option.map_some, hreads]
          cases q with
          | error e => exact .pure (recordsRead_error rfl)
          | ok values =>
            refine .pure ⟨rfl, fun values' hv => ?_⟩
            cases hv
            intro v hv
            rcases List.mem_cons.mp hv with rfl | hv
            · exact hin v rfl
            · exact hrest values rfl v hv

include hn hlast in
theorem safe_parseIdSequence (h : Inside block span) :
    Safe mapping.length (parseIdSequence mapping block span)
      (RecordsRead mapping block (Update.parseIdSequence (bytesOf mapping span))) := by
  have hlen := length_bytesOf h hlast
  refine .seq (safe_idRecords hn hlast h.reader (by rw [rest_start]; omega)) ?_
  rintro q ⟨hreads, hrest⟩
  rw [rest_start, ← hlen] at hreads
  unfold Update.parseIdSequence
  rw [hreads]
  cases q with
  | error e => exact .pure (recordsRead_error rfl)
  | ok values =>
    cases values with
    | nil => exact .pure (recordsRead_error rfl)
    | cons value values => exact .pure ⟨rfl, hrest⟩

/-! ## The fields of a signer -/

include hn hlast in
theorem safe_sdkRange (hr : r.Ok block) :
    Safe mapping.length (sdkRange mapping r) fun q => Update.sdkRange (r.rest mapping) = (q.1, q.2.rest mapping) ∧
      q.2.Ok block := by
  refine .seq (safe_u32Value hn hr hlast) ?_
  rintro ⟨minimum, r'⟩ ⟨hminimum, hok, -⟩
  cases minimum with
  | none => exact .pure ⟨by simp [Update.sdkRange, hminimum], hok⟩
  | some minimum =>
    refine .seq (safe_u32Value hn hok hlast) ?_
    rintro ⟨maximum, r''⟩ ⟨hmaximum, hok', -⟩
    cases maximum with
    | none | some maximum => exact .pure ⟨by simp [Update.sdkRange, hminimum, hmaximum], hok'⟩

def FieldSpans.pure (mapping : Bytes) (x : FieldSpans) : SignerFields :=
  ⟨bytesOf mapping x.signedData, x.sdk, bytesOf mapping x.signatures, bytesOf mapping x.publicKey⟩

def FieldsRead (mapping : Bytes) (block : Window) (result : Except String SignerFields) (q : Except String FieldSpans) : Prop :=
  result = q.map (FieldSpans.pure mapping) ∧
  ∀ fields, q = .ok fields → Inside block fields.signedData ∧ Inside block fields.signatures ∧ Inside block fields.publicKey

theorem fieldsRead_error {e : String} {result : Except String SignerFields} (h : result = .error e) :
    FieldsRead mapping block result (.error e) := ⟨h, nofun⟩

include hn hlast in
theorem safe_malformedFields (hr : r.Ok block)
    {signer signedData : View} (hs : Inside block signer) (hd : Inside block signedData) :
    Safe mapping.length (malformedFields signer signedData r) (FieldsRead mapping block
      (.error (malformedText (bytesOf mapping signer).length (bytesOf mapping signedData).length (r.rest mapping).length))) := by
  refine .seq_eq (safe_remaining hn hr hlast) ?_
  rw [length_bytesOf hs hlast, length_bytesOf hd hlast]
  exact .pure (fieldsRead_error rfl)

/-- The SDK range of a v3 signer and what follows it. -/
def signerRangeOf (v3 : Bool) (rest : Bytes) : Except String (Option (Nat × Nat) × Bytes) :=
  if v3 then
    match Update.sdkRange rest with
    | (none, _) => .error "APK v3 signer SDK range is invalid"
    | (some (minimum, maximum), rest) =>
      if maximum < minimum then .error "APK v3 signer SDK range is invalid" else .ok (some (minimum, maximum), rest)
  else .ok (none, rest)

include hn hlast in
theorem safe_signerRange (hr : r.Ok block) (v3 : Bool) :
    Safe mapping.length (signerRange mapping v3 r) fun q =>
      signerRangeOf v3 (r.rest mapping) = q.map (fun x => (x.1, x.2.rest mapping)) ∧ ∀ x, q = .ok x → x.2.Ok block := by
  cases v3 with
  | false =>
    refine .pure ⟨rfl, fun x hx => ?_⟩
    cases hx
    exact hr
  | true =>
    refine .seq (safe_sdkRange hn hlast hr) ?_
    rintro ⟨range, r'⟩ ⟨hrange, hok⟩
    simp only [signerRangeOf, if_true, hrange]
    cases range with
    | none => exact .pure ⟨rfl, nofun⟩
    | some range =>
      obtain ⟨minimum, maximum⟩ := range
      refine .ite (fun hbad => .pure ⟨if_pos hbad, nofun⟩) fun hgood => .pure ⟨if_neg hgood, fun x hx => ?_⟩
      cases hx
      exact hok

theorem readSignerFields_eq (signer : Bytes) (v3 : Bool) :
    Update.readSignerFields signer v3 =
      match Update.lengthPrefixed signer with
      | (none, _) => .error "APK signer has no signed data"
      | (some signedData, rest) =>
        match signerRangeOf v3 rest with
        | .error e => .error e
        | .ok (sdk, rest) =>
          match Update.lengthPrefixed rest with
          | (none, rest) => .error (malformedText signer.length signedData.length rest.length)
          | (some signatures, rest) =>
            match Update.lengthPrefixed rest with
            | (none, rest) => .error (malformedText signer.length signedData.length rest.length)
            | (some publicKey, rest) =>
              if rest.length = 0 then .ok { signedData, sdk, signatures, publicKey }
              else .error (malformedText signer.length signedData.length rest.length) := by
  unfold Update.readSignerFields malformedText
  rcases Update.lengthPrefixed signer with ⟨_ | signedData, rest⟩
  · rfl
  · cases v3 with
    | false => rfl
    | true =>
      simp only [signerRangeOf, if_true]
      rcases Update.sdkRange rest with ⟨_ | ⟨minimum, maximum⟩, rest⟩
      · rfl
      · by_cases hbad : maximum < minimum
        · simp only [if_pos hbad]
          rfl
        · simp only [if_neg hbad]
          rfl

include hn hlast in
theorem safe_readSignerFields (h : Inside block span) (v3 : Bool) :
    Safe mapping.length (readSignerFields mapping block span v3)
      (FieldsRead mapping block (Update.readSignerFields (bytesOf mapping span) v3)) := by
  rw [readSignerFields_eq]
  refine .seq (safe_lengthPrefixed hn h.reader hlast) ?_
  rintro ⟨signedData, r₁⟩ ⟨hsigned, hok₁, hin₁, -⟩
  rw [rest_start] at hsigned
  rw [hsigned]
  cases signedData with
  | none => exact .pure (fieldsRead_error rfl)
  | some signedData =>
    have hdata := hin₁ signedData rfl
    refine .seq (safe_signerRange hn hlast hok₁ v3) ?_
    rintro q ⟨hrange, hok₂⟩
    simp only [Option.map_some, hrange]
    cases q with
    | error e => exact .pure (fieldsRead_error rfl)
    | ok x =>
      obtain ⟨sdk, r₂⟩ := x
      have hok₂ := hok₂ _ rfl
      refine .seq (safe_lengthPrefixed hn hok₂ hlast) ?_
      rintro ⟨signatures, r₃⟩ ⟨hsignatures, hok₃, hin₃, -⟩
      simp only [Except.map, hsignatures]
      cases signatures with
      | none => exact safe_malformedFields hn hlast hok₃ h hdata
      | some signatures =>
        refine .seq (safe_lengthPrefixed hn hok₃ hlast) ?_
        rintro ⟨publicKey, r₄⟩ ⟨hkey, hok₄, hin₄, -⟩
        simp only [Option.map_some, hkey]
        cases publicKey with
        | none => exact safe_malformedFields hn hlast hok₄ h hdata
        | some publicKey =>
          refine .seq_eq (safe_remaining hn hok₄ hlast) ?_
          refine .ite (fun hend => .pure ⟨if_pos hend, fun fields hf => ?_⟩) fun hmore => ?_
          · cases hf
            exact ⟨hdata, hin₃ signatures rfl, hin₄ publicKey rfl⟩
          · simp only [if_neg hmore, Option.map_some]
            exact safe_malformedFields hn hlast hok₄ h hdata

/-! ## Signed data -/

def SignedSpans.pure (mapping : Bytes) (x : SignedSpans) : SignedData :=
  ⟨bytesOf mapping x.digests, bytesOf mapping x.certificates, x.sdk⟩

def SignedRead (mapping : Bytes) (block : Window) (result : Except String SignedData) (q : Except String SignedSpans) : Prop :=
  result = q.map (SignedSpans.pure mapping) ∧
  ∀ signed, q = .ok signed → Inside block signed.digests ∧ Inside block signed.certificates

theorem signedRead_error {e : String} {result : Except String SignedData} (h : result = .error e) :
    SignedRead mapping block result (.error e) := ⟨h, nofun⟩

def signedRangeOf (v3 : Bool) (rest : Bytes) : Except String (Option (Nat × Nat) × Bytes) :=
  if v3 then
    match Update.sdkRange rest with
    | (none, _) => .error "APK v3 signed-data SDK range is malformed"
    | (some range, rest) => .ok (some range, rest)
  else .ok (none, rest)

include hn hlast in
theorem safe_signedRange (hr : r.Ok block) (v3 : Bool) :
    Safe mapping.length (signedRange mapping v3 r) fun q =>
      signedRangeOf v3 (r.rest mapping) = q.map (fun x => (x.1, x.2.rest mapping)) ∧ ∀ x, q = .ok x → x.2.Ok block := by
  cases v3 with
  | false =>
    refine .pure ⟨rfl, fun x hx => ?_⟩
    cases hx
    exact hr
  | true =>
    refine .seq (safe_sdkRange hn hlast hr) ?_
    rintro ⟨range, r'⟩ ⟨hrange, hok⟩
    simp only [signedRangeOf, if_true, hrange]
    cases range with
    | none => exact .pure ⟨rfl, nofun⟩
    | some range =>
      refine .pure ⟨rfl, fun x hx => ?_⟩
      cases hx
      exact hok

include hn hlast in
theorem safe_readReserved (hr : r.Ok block) (v3 : Bool) :
    Safe mapping.length (readReserved mapping block v3 r) fun q =>
      Update.readReserved (r.rest mapping) v3 = q.map (·.rest mapping) ∧ ∀ x, q = .ok x → x.Ok block := by
  refine .seq_eq (safe_remaining hn hr hlast) ?_
  unfold Update.readReserved
  refine .ite (fun hmore => ?_) fun hend => .pure ⟨if_neg hend, fun x hx => ?_⟩
  · rw [if_pos hmore]
    refine .seq (safe_lengthPrefixed hn hr hlast) ?_
    rintro ⟨reserved, r'⟩ ⟨hreads, hok, hin, -⟩
    rw [hreads]
    cases reserved with
    | none => exact .pure ⟨rfl, nofun⟩
    | some reserved =>
      have hlen := length_bytesOf (hin reserved rfl) hlast
      simp only [Option.map_some]
      refine .ite (fun hsome => .pure ⟨?_, nofun⟩) fun hempty => .pure ⟨?_, fun x hx => ?_⟩
      · cases hb : bytesOf mapping reserved with
        | nil => exact absurd (by rw [← hlen, hb]; rfl) hsome
        | cons b rest => rfl
      · have hnil : bytesOf mapping reserved = [] := List.length_eq_zero_iff.mp (by omega)
        rw [hnil]
        rfl
      · cases hx
        exact hok
  · cases hx
    exact hr

theorem readSignedData_eq (signedData : Bytes) (v3 : Bool) :
    Update.readSignedData signedData v3 =
      match Update.lengthPrefixed signedData with
      | (none, _) => .error "APK signed-data digest list is malformed"
      | (some digests, rest) =>
        match Update.lengthPrefixed rest with
        | (none, _) => .error "APK signed-data certificate list is malformed"
        | (some certificates, rest) =>
          match signedRangeOf v3 rest with
          | .error e => .error e
          | .ok (sdk, rest) =>
            match Update.lengthPrefixed rest with
            | (none, _) => .error "APK signed-data attributes are malformed"
            | (some _, rest) =>
              match Update.readReserved rest v3 with
              | .error e => .error e
              | .ok rest =>
                if rest.length ≠ 0 then .error (trailingText rest.length) else .ok { digests, certificates, sdk } := by
  unfold Update.readSignedData trailingText
  rcases Update.lengthPrefixed signedData with ⟨_ | digests, rest⟩
  · rfl
  · dsimp only
    rcases Update.lengthPrefixed rest with ⟨_ | certificates, rest⟩
    · rfl
    · -- What follows the SDK range, for both kinds of signer.
      have htail : ∀ (sdk : Option (Nat × Nat)) (rest : Bytes),
          (match Update.lengthPrefixed rest with
            | (none, _) => throw "APK signed-data attributes are malformed"
            | (some _, rest) => do
              let rest ← Update.readReserved rest v3
              if rest.length ≠ 0 then throw s!"APK signed-data has trailing fields: {rest.length}"
              return ⟨digests, certificates, sdk⟩ : Except String SignedData) =
          match Update.lengthPrefixed rest with
          | (none, _) => (.error "APK signed-data attributes are malformed" : Except String SignedData)
          | (some _, rest) =>
            match Update.readReserved rest v3 with
            | .error e => .error e
            | .ok rest =>
              if rest.length ≠ 0 then .error s!"APK signed-data has trailing fields: {rest.length}"
              else .ok { digests, certificates, sdk } := by
        intro sdk rest
        rcases Update.lengthPrefixed rest with ⟨_ | attributes, rest⟩
        · rfl
        · dsimp only
          cases Update.readReserved rest v3 <;> rfl
      cases v3 with
      | false => exact htail none rest
      | true =>
        simp only [signedRangeOf, if_true]
        rcases Update.sdkRange rest with ⟨_ | range, rest⟩
        · rfl
        · exact htail (some range) rest

include hn hlast in
theorem safe_readSignedData (h : Inside block span) (v3 : Bool) :
    Safe mapping.length (readSignedData mapping block span v3)
      (SignedRead mapping block (Update.readSignedData (bytesOf mapping span) v3)) := by
  rw [readSignedData_eq]
  refine .seq (safe_lengthPrefixed hn h.reader hlast) ?_
  rintro ⟨digests, r₁⟩ ⟨hdigests, hok₁, hin₁, -⟩
  rw [rest_start] at hdigests
  rw [hdigests]
  cases digests with
  | none => exact .pure (signedRead_error rfl)
  | some digests =>
    refine .seq (safe_lengthPrefixed hn hok₁ hlast) ?_
    rintro ⟨certificates, r₂⟩ ⟨hcertificates, hok₂, hin₂, -⟩
    simp only [Option.map_some, hcertificates]
    cases certificates with
    | none => exact .pure (signedRead_error rfl)
    | some certificates =>
      refine .seq (safe_signedRange hn hlast hok₂ v3) ?_
      rintro q ⟨hrange, hok₃⟩
      simp only [Option.map_some, hrange]
      cases q with
      | error e => exact .pure (signedRead_error rfl)
      | ok x =>
        obtain ⟨sdk, r₃⟩ := x
        refine .seq (safe_lengthPrefixed hn (hok₃ _ rfl) hlast) ?_
        rintro ⟨attributes, r₄⟩ ⟨hattributes, hok₄, -, -⟩
        simp only [Except.map, hattributes]
        cases attributes with
        | none => exact .pure (signedRead_error rfl)
        | some attributes =>
          refine .seq (safe_readReserved hn hlast hok₄ v3) ?_
          rintro q ⟨hreserved, hok₅⟩
          simp only [Option.map_some, hreserved]
          cases q with
          | error e => exact .pure (signedRead_error rfl)
          | ok r₅ =>
            refine .seq_eq (safe_remaining hn (hok₅ r₅ rfl) hlast) ?_
            refine .ite (fun hmore => .pure (signedRead_error (if_pos hmore))) fun hend =>
              .pure ⟨if_neg hend, fun signed hs => ?_⟩
            cases hs
            exact ⟨hin₁ digests rfl, hin₂ certificates rfl⟩

/-! ## The evidence -/

def selectedOf (mapping : Bytes) (x : SignatureAlgorithm × View × View) : Selected :=
  ⟨x.1, bytesOf mapping x.2.1, bytesOf mapping x.2.2⟩

theorem find_pure (digests : List IdSpan) (id : Nat) :
    (digests.map (IdSpan.pure mapping)).find? (·.id == id) = (digests.find? (·.id == id)).map (IdSpan.pure mapping) := by
  rw [List.find?_map]
  rfl

theorem selectAlgorithm_pure (digests signatures : List IdSpan) :
    Update.selectAlgorithm (digests.map (IdSpan.pure mapping)) (signatures.map (IdSpan.pure mapping)) =
      (selectAlgorithm digests signatures).map (selectedOf mapping) := by
  induction signatures with
  | nil => rfl
  | cons record rest ih =>
    simp only [List.map_cons, Update.selectAlgorithm, selectAlgorithm, find_pure, ih]
    have hid : (IdSpan.pure mapping record).id = record.id := rfl
    rw [hid]
    cases supportedAlgorithm record.id with
    | none => rfl
    | some algorithm =>
      dsimp only
      cases digests.find? (·.id == algorithm.id) with
      | none => rfl
      | some digest => rfl

theorem selectAlgorithm_mem {digests signatures : List IdSpan} {x : SignatureAlgorithm × View × View}
    (h : selectAlgorithm digests signatures = some x) : (∃ v ∈ signatures, v.bytes = x.2.1) ∧ ∃ v ∈ digests, v.bytes = x.2.2 := by
  induction signatures with
  | nil => cases h
  | cons record rest ih =>
    have hrest : selectAlgorithm digests rest = some x →
        (∃ v ∈ record :: rest, v.bytes = x.2.1) ∧ ∃ v ∈ digests, v.bytes = x.2.2 := by
      intro h
      obtain ⟨⟨v, hv, hx⟩, hd⟩ := ih h
      exact ⟨⟨v, List.mem_cons_of_mem _ hv, hx⟩, hd⟩
    unfold selectAlgorithm at h
    split at h
    · exact hrest h
    · split at h
      · exact hrest h
      · rename_i digest hdigest
        cases h
        exact ⟨⟨record, List.mem_cons_self, rfl⟩, digest, List.mem_of_find?_eq_some hdigest, rfl⟩

theorem ids_pure (values : List IdSpan) : (values.map (IdSpan.pure mapping)).map (·.id) = values.map (·.id) := by
  rw [List.map_map]
  rfl

theorem selectEvidence_eq (digests signatures : Bytes) :
    Update.selectEvidence digests signatures =
      match Update.parseIdSequence digests with
      | .error e => .error e
      | .ok digestRecords =>
        match Update.parseIdSequence signatures with
        | .error e => .error e
        | .ok signatureRecords =>
          if digestRecords.map (·.id) ≠ signatureRecords.map (·.id) then
            .error "APK signer digest and signature algorithms disagree"
          else
            match Update.selectAlgorithm digestRecords signatureRecords with
            | none => .error "APK signer has no supported matching signature and digest"
            | some selected => .ok selected := by
  unfold Update.selectEvidence
  cases Update.parseIdSequence digests with
  | error e => rfl
  | ok digestRecords =>
    cases Update.parseIdSequence signatures with
    | error e => rfl
    | ok signatureRecords => rfl

include hn hlast in
theorem safe_selectEvidence {digests signatures : View}
    (hd : Inside block digests) (hs : Inside block signatures) :
    Safe mapping.length (selectEvidence mapping block digests signatures) fun q =>
      Update.selectEvidence (bytesOf mapping digests) (bytesOf mapping signatures) = q.map (selectedOf mapping) ∧
      ∀ x, q = .ok x → Inside block x.2.1 ∧ Inside block x.2.2 := by
  rw [selectEvidence_eq]
  refine .seq (safe_parseIdSequence hn hlast hd) ?_
  rintro q ⟨hdigests, hin₁⟩
  rw [hdigests]
  cases q with
  | error e => exact .pure ⟨rfl, nofun⟩
  | ok digestRecords =>
    refine .seq (safe_parseIdSequence hn hlast hs) ?_
    rintro q ⟨hsignatures, hin₂⟩
    rw [hsignatures]
    cases q with
    | error e => exact .pure ⟨rfl, nofun⟩
    | ok signatureRecords =>
      simp only [Except.map, ids_pure, selectAlgorithm_pure]
      refine .ite (fun hne => .pure ⟨if_pos hne, nofun⟩) fun heq => ?_
      rw [if_neg heq]
      cases hselected : selectAlgorithm digestRecords signatureRecords with
      | none => exact .pure ⟨rfl, nofun⟩
      | some x =>
        refine .pure ⟨rfl, fun y hy => ?_⟩
        cases hy
        obtain ⟨⟨v, hv, hvx⟩, d, hd, hdx⟩ := selectAlgorithm_mem hselected
        rw [← hvx, ← hdx]
        exact ⟨hin₂ _ rfl v hv, hin₁ _ rfl d hd⟩

end

/-! ## The content digest -/

def Part.bytes (mapping : Bytes) : Part → Bytes
  | .file span => bytesOf mapping span
  | .patched bytes => bytes

/-- A section of the file lies in it; the patched end record is as long as the one in the file. -/
def Part.Fits (n : Nat) : Part → Prop
  | .file span => span.base + span.size ≤ n
  | .patched bytes => bytes.length ≤ n

section
variable {mapping : Bytes} {part : Part} {Key Certificate : Type} {crypto : Crypto Key Certificate} {kind : DigestKind}

theorem Part.Fits.size_le (h : part.Fits mapping.length) : part.size ≤ mapping.length := by
  cases part with
  | file span =>
    have h : span.base + span.size ≤ mapping.length := h
    simp only [Part.size]
    omega
  | patched bytes => exact h

theorem Part.Fits.length_bytes (h : part.Fits mapping.length) : (part.bytes mapping).length = part.size := by
  cases part with
  | file span =>
    have h : span.base + span.size ≤ mapping.length := h
    simp only [Part.bytes, Part.size, bytesOf]
    rw [length_slice h]
    omega
  | patched bytes => rfl

theorem slice_slice {a b i j : Nat} (hij : i ≤ j) (hj : a + j ≤ b) :
    slice (slice mapping a b) i j = slice mapping (a + i) (a + j) := by
  have hdrop : (slice mapping a b).drop i = slice mapping (a + i) b := drop_slice
  have htake : (slice mapping (a + i) b).take (j - i) = slice mapping (a + i) (a + i + (j - i)) := take_slice (by omega)
  rw [slice, hdrop, htake, show a + i + (j - i) = a + j by omega]

theorem safe_piece (hn : mapping.length < 2 ^ 63) (h : part.Fits mapping.length) {size : Nat}
    (hsize : offset + size ≤ part.size) :
    Safe mapping.length (part.piece mapping offset size) fun r => r = slice (part.bytes mapping) offset (offset + size) := by
  cases part with
  | file span =>
    have h : span.base + span.size ≤ mapping.length := h
    simp only [Part.size] at hsize
    refine .seq_eq (safe_sizeT (span.base + offset) (by omega)) ?_
    refine (safe_spanBytes (by simp only; omega)).mono (Nat.le_refl _) ?_
    rintro r rfl
    simp only [bytesOf, Part.bytes]
    rw [slice_slice (by omega) (by omega), Nat.add_assoc]
  | patched bytes => exact .pure rfl

theorem safe_digestPart (hn : mapping.length < 2 ^ 63) (h : part.Fits mapping.length)
    (hfuel : part.size - offset ≤ fuel) (hoffset : offset ≤ part.size + kChunkBytes) :
    Safe mapping.length (digestPart crypto mapping kind part fuel offset) fun q =>
      q = digestChunks crypto kind (chunkLoop kChunkBytes fuel ((part.bytes mapping).drop offset)) := by
  have hk : kChunkBytes = 1048576 := rfl
  have hle := h.size_le
  have hlen : ((part.bytes mapping).drop offset).length = part.size - offset := by rw [List.length_drop, h.length_bytes]
  induction fuel generalizing offset with
  | zero =>
    unfold digestPart
    exact .ite (fun hlt => absurd hlt (by omega)) fun _ => .pure rfl
  | succ fuel ih =>
    unfold digestPart
    refine .ite (fun hlt => ?_) fun hge => .pure ?_
    · refine .seq_eq (safe_sizeT (part.size - offset) (by omega)) ?_
      refine .seq_eq (safe_piece hn h (by omega)) ?_
      have hchunk : slice (part.bytes mapping) offset (offset + min kChunkBytes (part.size - offset)) =
          ((part.bytes mapping).drop offset).take kChunkBytes := by
        rw [slice, Nat.add_sub_cancel_left, ← hlen, ← List.take_eq_take_min]
      rw [hchunk]
      simp only [chunkLoop, hlen, if_neg (show ¬ part.size - offset = 0 by omega), digestChunks]
      cases digestParts crypto kind _ with
      | none => exact .pure rfl
      | some hash =>
        refine .seq_eq (safe_sizeT (offset + kChunkBytes) (by omega)) ?_
        refine .seq_eq (ih (by omega) (by omega) (by rw [List.length_drop, h.length_bytes])) ?_
        rw [List.drop_drop]
        dsimp only
        cases digestChunks crypto kind _ with
        | error e => exact .pure rfl
        | ok hashes => exact .pure rfl
    · rw [chunkLoop, if_pos (by omega)]
      rfl

theorem digestChunks_append (xs ys : List Bytes) :
    digestChunks crypto kind (xs ++ ys) =
      match digestChunks crypto kind xs with
      | .error e => .error e
      | .ok hashes =>
        match digestChunks crypto kind ys with
        | .error e => .error e
        | .ok more => .ok (hashes ++ more) := by
  induction xs with
  | nil =>
    simp only [List.nil_append, digestChunks]
    cases digestChunks crypto kind ys <;> rfl
  | cons x xs ih =>
    simp only [List.cons_append, digestChunks, ih]
    cases digestParts crypto kind _ with
    | none => rfl
    | some hash =>
      dsimp only
      cases digestChunks crypto kind xs with
      | error e => rfl
      | ok hashes =>
        dsimp only
        cases digestChunks crypto kind ys with
        | error e => rfl
        | ok more => simp

theorem safe_digestSections (hn : mapping.length < 2 ^ 63) {parts : List Part} (h : ∀ part ∈ parts, part.Fits mapping.length) :
    Safe mapping.length (digestSections crypto mapping kind parts) fun q =>
      q = digestChunks crypto kind ((parts.map (·.bytes mapping)).flatMap (chunks kChunkBytes)) := by
  induction parts with
  | nil => exact .pure rfl
  | cons part rest ih =>
    have hpart := h part List.mem_cons_self
    rw [List.map_cons, List.flatMap_cons, digestChunks_append]
    refine .seq_eq (safe_digestPart hn hpart (by omega) (by omega)) ?_
    rw [List.drop_zero, chunks, hpart.length_bytes]
    cases digestChunks crypto kind (chunkLoop kChunkBytes part.size (part.bytes mapping)) with
    | error e => exact .pure rfl
    | ok hashes =>
      refine .seq_eq (ih fun p hp => h p (List.mem_cons_of_mem _ hp)) ?_
      dsimp only
      cases digestChunks crypto kind _ with
      | error e => exact .pure rfl
      | ok more => exact .pure rfl

theorem safe_countChunks (hn : mapping.length < 2 ^ 63) {parts : List Part} (h : ∀ part ∈ parts, part.Fits mapping.length)
    (hcount : count + parts.length * 2 ^ 44 < 2 ^ 64) :
    Safe mapping.length (countChunks parts count) fun r =>
      r = count + ((parts.map (·.bytes mapping)).map fun part => (part.length + kChunkBytes - 1) / kChunkBytes).sum := by
  have hk : kChunkBytes = 1048576 := rfl
  induction parts generalizing count with
  | nil => exact .pure rfl
  | cons part rest ih =>
    have hpart := h part List.mem_cons_self
    have hle := hpart.size_le
    rw [List.length_cons] at hcount
    refine .seq_eq (safe_sizeT (part.size + kChunkBytes - 1) (by omega)) ?_
    have hrounded : (part.size + kChunkBytes - 1) / kChunkBytes < 2 ^ 44 := by
      rw [hk, Nat.div_lt_iff_lt_mul (by decide)]
      omega
    refine .seq_eq (safe_sizeT (count + (part.size + kChunkBytes - 1) / kChunkBytes) ⟨by push_cast; rfl, by omega⟩) ?_
    refine (ih (fun p hp => h p (List.mem_cons_of_mem _ hp)) (by omega)).mono (Nat.le_refl _) ?_
    rintro r rfl
    simp only [List.map_cons, List.sum_cons, hpart.length_bytes]
    omega

theorem computeContentDigest_eq (block : Block) {chunkCount : Nat}
    (hcount : chunkCount = ((sections mapping (block.pure mapping)).map fun part =>
      (part.length + kChunkBytes - 1) / kChunkBytes).sum) :
    Update.computeContentDigest crypto mapping (block.pure mapping) kind =
      if (mapping.drop block.eocd).length < 20 ∨ 0xffffffff < block.first then
        .error "APK is too large for Signature Scheme v2/v3"
      else if chunkCount = 0 ∨ 0xffffffff < chunkCount then .error "APK content chunk count is invalid"
      else
        match digestChunks crypto kind ((sections mapping (block.pure mapping)).flatMap (chunks kChunkBytes)) with
        | .error e => .error e
        | .ok hashes =>
          match digestParts crypto kind [0x5a :: putU32 chunkCount, hashes] with
          | none => .error "cannot hash APK content digest list"
          | some digest => .ok digest := by
  have heocd : (block.pure mapping).eocd = block.eocd := rfl
  have hfirst : (block.pure mapping).first = block.first := rfl
  simp only [Update.computeContentDigest, heocd, hfirst, ← hcount, bind, Except.bind, pure, Except.pure, throw, throwThe,
    MonadExceptOf.throw]
  cases digestChunks crypto kind ((sections mapping (block.pure mapping)).flatMap (chunks kChunkBytes)) <;> rfl

theorem safe_computeContentDigest (hn : mapping.length < 2 ^ 63) {block : Block} (hblock : BlockOk mapping block) :
    Safe mapping.length (computeContentDigest crypto mapping block kind) fun q =>
      q = Update.computeContentDigest crypto mapping (block.pure mapping) kind := by
  have hdirectory := hblock.directory
  have hle := hblock.directory_le
  have heocd := hblock.eocd_le
  rw [computeContentDigest_eq block rfl]
  refine .seq_eq (safe_sizeT (mapping.length - block.eocd) (by omega)) ?_
  have htail : Safe mapping.length (spanBytes mapping ⟨block.eocd, mapping.length - block.eocd⟩) fun r =>
      r = bytesOf mapping ⟨block.eocd, mapping.length - block.eocd⟩ := safe_spanBytes (by simp only; omega)
  refine .seq_eq htail ?_
  have hdrop : bytesOf mapping ⟨block.eocd, mapping.length - block.eocd⟩ = mapping.drop block.eocd := by
    simp only [bytesOf, slice]
    rw [List.take_of_length_le (by rw [List.length_drop]; omega)]
  rw [hdrop]
  refine .ite (fun hbad => .pure (if_pos hbad).symm) fun hgood => ?_
  rw [if_neg hgood]
  refine .seq_eq (safe_sizeT (block.eocd - block.centralDirectory) (by omega)) ?_
  -- The three sections.
  generalize hparts : [Part.file ⟨0, block.first⟩, Part.file ⟨block.centralDirectory, block.eocd - block.centralDirectory⟩,
    Part.patched ((mapping.drop block.eocd).take 16 ++ putU32 block.first ++ (mapping.drop block.eocd).drop 20)] = parts
  have hfits : ∀ part ∈ parts, part.Fits mapping.length := by
    rw [← hparts]
    intro part hmem
    simp only [List.mem_cons, List.not_mem_nil, or_false] at hmem
    rcases hmem with rfl | rfl | rfl
    · simp only [Part.Fits]
      omega
    · simp only [Part.Fits]
      omega
    · simp only [Part.Fits, List.length_append, List.length_take, List.length_drop, putU32, List.length_cons, List.length_nil]
      omega
  have hbytes : parts.map (·.bytes mapping) = sections mapping (block.pure mapping) := by
    rw [← hparts]
    simp [sections, Block.pure, Part.bytes, bytesOf, patchedEocd, slice]
  have hlength : parts.length = 3 := by rw [← hparts]; rfl
  refine .seq_eq (safe_countChunks hn hfits (by rw [hlength]; decide)) ?_
  rw [hbytes, Nat.zero_add]
  generalize ((sections mapping (block.pure mapping)).map fun part => (part.length + kChunkBytes - 1) / kChunkBytes).sum =
    chunkCount
  refine .ite (fun hbad => .pure (if_pos hbad).symm) fun hgood => ?_
  rw [if_neg hgood]
  have hsize : kind.size ≤ 64 := by cases kind <;> decide
  have hproduct : chunkCount * kind.size ≤ 2 ^ 32 * 64 := Nat.mul_le_mul (by omega) hsize
  refine .seq_eq (safe_sizeT (chunkCount * kind.size) ⟨by push_cast; rfl, by omega⟩) ?_
  refine .seq_eq (safe_digestSections hn hfits) ?_
  rw [hbytes]
  cases digestChunks crypto kind ((sections mapping (block.pure mapping)).flatMap (chunks kChunkBytes)) with
  | error e => exact .pure rfl
  | ok hashes =>
    dsimp only
    cases digestParts crypto kind _ with
    | none => exact .pure rfl
    | some digest => exact .pure rfl

/-! ## Signers -/

theorem safe_readCertificates (hn : mapping.length < 2 ^ 63) {block : Window} (hlast : block.last ≤ mapping.length) {r : Reader}
    (hr : r.Ok block) {key : Key} {leaf : Option Text} (hfuel : (r.rest mapping).length < fuel) :
    Safe mapping.length (readCertificates crypto mapping block key fuel leaf r) fun q =>
      q = Update.readCertificates crypto key fuel leaf (r.rest mapping) := by
  induction fuel generalizing r leaf with
  | zero => exact absurd hfuel (Nat.not_lt_zero _)
  | succ fuel ih =>
    unfold readCertificates Update.readCertificates
    refine .seq_eq (safe_remaining hn hr hlast) ?_
    by_cases hempty : (r.rest mapping).length = 0
    · rw [if_pos hempty, if_pos hempty]
      cases leaf with
      | none => exact .pure rfl
      | some fingerprint => exact .pure rfl
    · rw [if_neg hempty, if_neg hempty]
      refine .seq (safe_lengthPrefixed hn hr hlast) ?_
      rintro ⟨span, r'⟩ ⟨hreads, hok, hinside, hshorter⟩
      rw [hreads]
      cases span with
      | none => exact .pure rfl
      | some span =>
        have hin := hinside span rfl
        have hle := hin.le_last
        have hshorter := hshorter (by simp)
        simp only [Option.map_some, length_bytesOf hin hlast]
        refine .ite (fun hzero => .pure (if_pos hzero).symm) fun hsome => ?_
        rw [if_neg hsome]
        refine .seq_eq (safe_spanBytes (by omega)) ?_
        cases readCertificate crypto key leaf.isNone (bytesOf mapping span) with
        | error e => exact .pure rfl
        | ok fingerprint => exact ih hok (by simp only at hshorter ⊢; omega)

/-- `Update.verifySigner` from where the evidence has been selected. -/
def evidenceOf (crypto : Crypto Key Certificate) (mapping : Bytes) (block : SigningBlock) (fields : SignerFields)
    (signed : SignedData) (selected : Selected) : Except String Text := do
  let key ← readPublicKey crypto fields.publicKey
  verifySignedData crypto fields.signedData selected.signature selected.algorithm key
  checkContentDigest crypto mapping block selected
  Update.readCertificates crypto key (signed.certificates.length + 1) none signed.certificates

theorem verifySigner_eq {block : SigningBlock} {signer : Bytes} {v3 : Bool} :
    Update.verifySigner crypto mapping block signer v3 =
      match Update.readSignerFields signer v3 with
      | .error e => .error e
      | .ok fields =>
        match Update.readSignedData fields.signedData v3 with
        | .error e => .error e
        | .ok signed =>
          if fields.sdk ≠ signed.sdk then .error "APK signed-data has a mismatched SDK range"
          else
            match Update.selectEvidence signed.digests fields.signatures with
            | .error e => .error e
            | .ok selected => evidenceOf crypto mapping block fields signed selected := by
  unfold Update.verifySigner
  cases Update.readSignerFields signer v3 with
  | error e => rfl
  | ok fields =>
    simp only [bind, Except.bind]
    cases Update.readSignedData fields.signedData v3 with
    | error e => rfl
    | ok signed =>
      dsimp only
      split
      · rfl
      · cases Update.selectEvidence signed.digests fields.signatures with
        | error e => rfl
        | ok selected => rfl

theorem checkContentDigest_eq {block : SigningBlock} {selected : Selected} :
    checkContentDigest crypto mapping block selected =
      match Update.computeContentDigest crypto mapping block selected.algorithm.digest with
      | .error e => .error e
      | .ok calculated => if selected.digest ≠ calculated then .error "APK content digest verification failed" else .ok () := by
  unfold checkContentDigest
  cases Update.computeContentDigest crypto mapping block selected.algorithm.digest <;> rfl

theorem evidenceOf_eq {block : SigningBlock} {fields : SignerFields} {signed : SignedData} {selected : Selected} :
    evidenceOf crypto mapping block fields signed selected =
      match readPublicKey crypto fields.publicKey with
      | .error e => .error e
      | .ok key =>
        match verifySignedData crypto fields.signedData selected.signature selected.algorithm key with
        | .error e => .error e
        | .ok _ =>
          match Update.computeContentDigest crypto mapping block selected.algorithm.digest with
          | .error e => .error e
          | .ok calculated =>
            if selected.digest ≠ calculated then .error "APK content digest verification failed"
            else Update.readCertificates crypto key (signed.certificates.length + 1) none signed.certificates := by
  unfold evidenceOf
  rw [checkContentDigest_eq]
  cases readPublicKey crypto fields.publicKey with
  | error e => rfl
  | ok key =>
    simp only [bind, Except.bind]
    cases verifySignedData crypto fields.signedData selected.signature selected.algorithm key with
    | error e => rfl
    | ok _ =>
      cases Update.computeContentDigest crypto mapping block selected.algorithm.digest with
      | error e => rfl
      | ok calculated =>
        dsimp only
        by_cases hne : selected.digest ≠ calculated
        · rw [if_pos hne, if_pos hne]
        · rw [if_neg hne, if_neg hne]

theorem BlockOk.window_le {block : Block} (h : BlockOk mapping block) : block.window.last ≤ mapping.length := by
  have hle := h.directory_le
  have heocd := h.eocd_le
  simp only [Block.window]
  omega

theorem safe_checkEvidence (hn : mapping.length < 2 ^ 63) {block : Block} (hblock : BlockOk mapping block) {fields : FieldSpans}
    {signed : SignedSpans} {algorithm : SignatureAlgorithm} {signature digest : View}
    (hdata : Inside block.window fields.signedData)
    (hkey : Inside block.window fields.publicKey) (hcertificates : Inside block.window signed.certificates)
    (hsignature : Inside block.window signature) (hdigest : Inside block.window digest) :
    Safe mapping.length (checkEvidence crypto mapping block fields signed algorithm signature digest) fun q =>
      q = evidenceOf crypto mapping (block.pure mapping) (fields.pure mapping) (signed.pure mapping)
        (selectedOf mapping (algorithm, signature, digest)) := by
  have hlast := hblock.window_le
  have hbytes : ∀ span, Inside block.window span → Safe mapping.length (spanBytes mapping span) fun r =>
      r = bytesOf mapping span :=
    fun span hspan => safe_spanBytes (Nat.le_trans hspan.le_last hlast)
  have hlen := length_bytesOf hdigest hlast
  rw [evidenceOf_eq]
  simp only [FieldSpans.pure, SignedSpans.pure, selectedOf, length_bytesOf hcertificates hlast]
  refine .seq_eq (hbytes _ hkey) ?_
  cases readPublicKey crypto (bytesOf mapping fields.publicKey) with
  | error e => exact .pure rfl
  | ok key =>
    refine .seq_eq (hbytes _ hsignature) ?_
    refine .seq_eq (hbytes _ hdata) ?_
    dsimp only
    cases verifySignedData crypto (bytesOf mapping fields.signedData) (bytesOf mapping signature) algorithm key with
    | error e => exact .pure rfl
    | ok _ =>
      refine .seq_eq (safe_computeContentDigest hn hblock) ?_
      dsimp only
      cases Update.computeContentDigest crypto mapping (block.pure mapping) algorithm.digest with
      | error e => exact .pure rfl
      | ok calculated =>
        dsimp only
        refine .ite (fun hsize => .pure ?_) fun hsize => ?_
        · have hne : bytesOf mapping digest ≠ calculated := fun he => hsize (by rw [← he, hlen])
          rw [if_pos hne]
        · refine .seq_eq (hbytes _ hdigest) ?_
          refine .ite (fun hne => .pure (if_pos hne).symm) fun heq => ?_
          rw [if_neg heq]
          have hstart := length_bytesOf hcertificates hlast
          exact safe_readCertificates hn hlast hcertificates.reader (by rw [rest_start]; omega)

theorem safe_verifySigner (hn : mapping.length < 2 ^ 63) {block : Block} (hblock : BlockOk mapping block) {signer : View}
    (hsigner : Inside block.window signer) (v3 : Bool) :
    Safe mapping.length (verifySigner crypto mapping block signer v3) fun q =>
      q = Update.verifySigner crypto mapping (block.pure mapping) (bytesOf mapping signer) v3 := by
  have hlast := hblock.window_le
  rw [verifySigner_eq]
  refine .seq (safe_readSignerFields hn hlast hsigner v3) ?_
  rintro q ⟨hfields, hin⟩
  rw [hfields]
  cases q with
  | error e => exact .pure rfl
  | ok fields =>
    obtain ⟨hdata, hsignatures, hkey⟩ := hin fields rfl
    refine .seq (safe_readSignedData hn hlast hdata v3) ?_
    rintro q ⟨hsigned, hin⟩
    have hdataOf : (fields.pure mapping).signedData = bytesOf mapping fields.signedData := rfl
    simp only [Except.map, hdataOf, hsigned]
    cases q with
    | error e => exact .pure rfl
    | ok signed =>
      obtain ⟨hdigests, hcertificates⟩ := hin signed rfl
      refine .ite (fun hsdk => .pure (if_pos hsdk).symm) fun hsdk => ?_
      have hsame : ¬ (fields.pure mapping).sdk ≠ (signed.pure mapping).sdk := hsdk
      simp only [if_neg hsame]
      refine .seq (safe_selectEvidence hn hlast hdigests hsignatures) ?_
      rintro q ⟨hselected, hin⟩
      have hevidence : Update.selectEvidence (signed.pure mapping).digests (fields.pure mapping).signatures =
          q.map (selectedOf mapping) := hselected
      rw [hevidence]
      cases q with
      | error e => exact .pure rfl
      | ok x =>
        obtain ⟨algorithm, signature, digest⟩ := x
        obtain ⟨hsignature, hdigest⟩ := hin _ rfl
        exact safe_checkEvidence hn hblock hdata hkey hcertificates hsignature hdigest

/-! ## The scheme -/

theorem safe_verifySigners (hn : mapping.length < 2 ^ 63) {block : Block} (hblock : BlockOk mapping block) {r : Reader}
    (hr : r.Ok block.window) (v3 : Bool) (hfuel : (r.rest mapping).length ≤ fuel) (hcount : count ≤ 16) :
    Safe mapping.length (verifySigners crypto mapping block v3 fuel count r) fun q =>
      q = Update.verifySigners crypto mapping (block.pure mapping) v3 fuel count (r.rest mapping) := by
  have hlast := hblock.window_le
  induction fuel generalizing r count with
  | zero =>
    refine .seq_eq (safe_remaining hn hr hlast) ?_
    exact .ite (fun _ => .pure rfl) fun hne => absurd (Nat.le_zero.mp hfuel) hne
  | succ fuel ih =>
    unfold verifySigners Update.verifySigners
    refine .seq_eq (safe_remaining hn hr hlast) ?_
    by_cases hempty : (r.rest mapping).length = 0
    · rw [if_pos hempty, if_pos hempty]
      exact .pure rfl
    · rw [if_neg hempty, if_neg hempty]
      refine .seq (safe_lengthPrefixed hn hr hlast) ?_
      rintro ⟨signer, r'⟩ ⟨hreads, hok, hinside, hshorter⟩
      rw [hreads]
      cases signer with
      | none => exact .pure rfl
      | some signer =>
        have hin := hinside signer rfl
        have hshorter := hshorter (by simp)
        simp only at hshorter hok
        simp only [Option.map_some, length_bytesOf hin hlast]
        refine .ite (fun hzero => .pure (if_pos hzero).symm) fun hsome => ?_
        rw [if_neg hsome]
        refine .seq_eq (safe_verifySigner hn hblock hin v3) ?_
        cases Update.verifySigner crypto mapping (block.pure mapping) (bytesOf mapping signer) v3 with
        | error e => exact .pure rfl
        | ok fingerprint =>
          refine .seq_eq (safe_sizeT (count + 1) (by omega)) ?_
          dsimp only
          refine .ite (fun hmany => .pure (if_pos hmany).symm) fun hfew => ?_
          rw [if_neg hfew]
          refine .seq_eq (ih hok (by omega) (by omega)) ?_
          cases Update.verifySigners crypto mapping (block.pure mapping) v3 fuel (count + 1) (r'.rest mapping) with
          | error e => exact .pure rfl
          | ok fingerprints => exact .pure rfl

theorem safe_verifyScheme (hn : mapping.length < 2 ^ 63) {block : Block} (hblock : BlockOk mapping block) {scheme : View}
    (hscheme : Inside block.window scheme) (v3 : Bool) :
    Safe mapping.length (verifyScheme crypto mapping block scheme v3) fun q =>
      q = Update.verifyScheme crypto mapping (block.pure mapping) (bytesOf mapping scheme) v3 := by
  have hlast := hblock.window_le
  unfold Update.verifyScheme
  refine .seq (safe_lengthPrefixed hn hscheme.reader hlast) ?_
  rintro ⟨signers, r⟩ ⟨hreads, hok, hinside, -⟩
  rw [rest_start] at hreads
  rw [hreads]
  cases signers with
  | none => exact .pure rfl
  | some signers =>
    have hin := hinside signers rfl
    have hlen := length_bytesOf hin hlast
    refine .seq_eq (safe_remaining hn hok hlast) ?_
    refine .ite (fun hmore => .pure ?_) fun hend => ?_
    · cases hrest : r.rest mapping with
      | nil => exact absurd (by rw [hrest]; rfl) hmore
      | cons b rest => rfl
    · have hnil : r.rest mapping = [] := by simpa using hend
      simp only [Option.map_some, hnil, hlen]
      refine .seq_eq (safe_verifySigners hn hblock hin.reader v3 (by rw [rest_start]; omega) (Nat.zero_le _)) ?_
      rw [rest_start]
      cases Update.verifySigners crypto mapping (block.pure mapping) v3 signers.size 0 (bytesOf mapping signers) with
      | error e => exact .pure rfl
      | ok fingerprints =>
        cases fingerprints with
        | nil => exact .pure rfl
        | cons fingerprint more => exact .pure rfl

theorem Tiled.start_le {pairs : List View} (h : Tiled mapping last cursor pairs) : cursor ≤ last := by
  induction h with
  | nil => exact Nat.le_refl _
  | cons _ _ ih => omega

theorem Tiled.mem {pairs : List View} (h : Tiled mapping last cursor pairs) :
    ∀ pair ∈ pairs, cursor ≤ pair.base ∧ 12 ≤ pair.size ∧ pair.base + pair.size ≤ last := by
  induction h with
  | nil => exact fun pair hpair => absurd hpair List.not_mem_nil
  | cons size_ge rest ih =>
    intro pair hpair
    have hle := rest.start_le
    rcases List.mem_cons.mp hpair with rfl | hpair
    · simp only
      omega
    · obtain ⟨hbase, hsize, hend⟩ := ih pair hpair
      omega

/-- Every value that is kept stands in the signing block. -/
theorem BlockOk.inside {block : Block} (h : BlockOk mapping block) {span : View} (hspan : span ∈ block.spans.values) :
    Inside block.window span := by
  obtain ⟨pairs, htiled, hvalues⟩ := h.pairs
  obtain ⟨pair, hpair, rfl⟩ := hvalues span hspan
  obtain ⟨hbase, hsize, hend⟩ := htiled.mem pair hpair
  refine ⟨?_, ?_⟩
  · simp only [Block.window, valueOf]
    omega
  · simp only [Block.window, valueOf]
    omega

/-- In a file of at least 32 bytes, whose size an `off_t` can hold, nothing is read outside the file, no span leaves the
    signing block, no size or offset wraps and no loop runs on; a block that is found stands before the central directory,
    and its pairs tile it. -/
theorem signing_reads_in_bounds (crypto : Crypto Key Certificate) (mapping : Bytes) (h32 : 32 ≤ mapping.length)
    (hn : mapping.length < 2 ^ 63) :
    Safe mapping.length (findEocd mapping) (fun q => q = Update.findEocd mapping) ∧
    Safe mapping.length (parseSigningBlock mapping) (fun q =>
      Update.parseSigningBlock mapping = q.map (Block.pure mapping) ∧
      ∀ block, q = .ok block → BlockOk mapping block ∧ ∀ span ∈ block.spans.values, Inside block.window span) ∧
    ∀ block, (parseSigningBlock mapping).value = .ok block → ∀ span, Inside block.window span → ∀ v3 : Bool,
      Safe mapping.length (parseIdSequence mapping block.window span)
        (RecordsRead mapping block.window (Update.parseIdSequence (bytesOf mapping span))) ∧
      Safe mapping.length (verifySigner crypto mapping block span v3)
        (fun q => q = Update.verifySigner crypto mapping (block.pure mapping) (bytesOf mapping span) v3) ∧
      Safe mapping.length (verifyScheme crypto mapping block span v3)
        (fun q => q = Update.verifyScheme crypto mapping (block.pure mapping) (bytesOf mapping span) v3) := by
  have hparse := safe_parseSigningBlock hn h32
  refine ⟨safe_findEocd hn h32, hparse.mono (Nat.le_refl _) ?_, fun block hblock span hspan v3 => ?_⟩
  · rintro q ⟨hreads, hok⟩
    exact ⟨hreads, fun block hblock => ⟨hok block hblock, fun span hspan => (hok block hblock).inside hspan⟩⟩
  · have hok := hparse.post.2 block hblock
    exact ⟨safe_parseIdSequence hn hok.window_le hspan, safe_verifySigner hn hok hspan v3, safe_verifyScheme hn hok hspan v3⟩

/-- A v2 signer with one algorithm, one certificate and a public key that OpenSSL cannot read. -/
def brokenSigner : Bytes :=
  let record := prefixed (putU32 0x0103 ++ prefixed [1, 2])
  prefixed (prefixed record ++ prefixed (prefixed [8]) ++ prefixed []) ++ prefixed record ++ prefixed [7]

/-- An APK with this signer alone. -/
def signedApk : Bytes :=
  [80, 75, 3, 4, 102, 0, 0, 0, 0, 0, 0, 0, 70, 0, 0, 0, 0, 0, 0, 0] ++ putU32 kV2BlockId ++ prefixed (prefixed brokenSigner) ++
    [102, 0, 0, 0, 0, 0, 0, 0] ++ kSigningMagic ++
    [80, 75, 1, 2, 80, 75, 5, 6, 0, 0, 0, 0, 1, 0, 1, 0, 4, 0, 0, 0, 114, 0, 0, 0, 0, 0]

def signedBlock : Block := ⟨{ v2 := some ⟨24, 66⟩ }, 4, 114, 118⟩

theorem signing_reads_signedApk :
    (parseSigningBlock signedApk).value = .ok signedBlock ∧
    ((parseIdSequence signedApk signedBlock.window ⟨71, 14⟩).value = .ok [⟨0x0103, ⟨83, 2⟩⟩] ∧
      Safe signedApk.length (parseIdSequence signedApk signedBlock.window ⟨71, 14⟩)
        (RecordsRead signedApk signedBlock.window (Update.parseIdSequence (bytesOf signedApk ⟨71, 14⟩)))) ∧
    (verifySigner (tableCrypto []) signedApk signedBlock ⟨32, 58⟩ false).value = .error "APK signer public key is malformed" ∧
    Safe signedApk.length (verifyScheme (tableCrypto []) signedApk signedBlock ⟨24, 66⟩ false)
      (fun q => q = Update.verifyScheme (tableCrypto []) signedApk (signedBlock.pure signedApk)
        (bytesOf signedApk ⟨24, 66⟩) false) := by
  have hfound : (parseSigningBlock signedApk).value = .ok signedBlock := by decide +kernel
  obtain ⟨-, -, hblock⟩ := signing_reads_in_bounds (tableCrypto []) signedApk (by decide +kernel) (by decide +kernel)
  refine ⟨hfound, ⟨by decide +kernel, ?_⟩, by decide +kernel, ?_⟩
  · exact (hblock _ hfound ⟨71, 14⟩ ⟨by decide, by decide⟩ false).1
  · exact (hblock _ hfound ⟨24, 66⟩ ⟨by decide, by decide⟩ false).2.2

end

end Mocktail.Update.Signing

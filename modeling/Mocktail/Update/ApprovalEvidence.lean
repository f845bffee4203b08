/-
  Mocktail.Update.ApprovalEvidence — what the generation of an accepted approval fixes.

  The generation is over six lines whose values all have a fixed length: the build ID has 40
  digits because the receipt is refused otherwise, the others are hashes. So the lines can be
  read back. The fingerprint's lines can be read back from the end: only the payload's ID,
  which stands first, has no fixed length.

  The hash is assumed to be injective on the strings that the two approvals hash
  (`approvalStrings`), and its first 40 digits on the evidence of their generations
  (`generationStrings`).
-/

import Mocktail.Update.CandidateApproval
import Mocktail.Update.PayloadBinding

namespace Mocktail.Update

open Mocktail.Lib Mocktail.Launch

/-! ## Lines -/

theorem line_append (name : String) (value rest : Text) :
    line name value ++ rest = ascii name ++ (ascii "=" ++ (value ++ (ascii "\n" ++ rest))) := by
  simp [line]

variable {approvedAt a₁ a₁' a₂ a₂' c c' generation p p' path value : Text}

theorem line_inj {name : String} {value' rest rest' : Text} (hlen : value.length = value'.length)
    (h : line name value ++ rest = line name value' ++ rest') : value = value' ∧ rest = rest' := by
  rw [line_append, line_append] at h
  obtain ⟨-, h⟩ := List.append_inj h rfl
  obtain ⟨-, h⟩ := List.append_inj h rfl
  obtain ⟨hvalue, h⟩ := List.append_inj h hlen
  obtain ⟨-, h⟩ := List.append_inj h rfl
  exact ⟨hvalue, h⟩

theorem length_line (name : String) (value : Text) : (line name value).length = (ascii name).length + value.length + 2 := by
  simp [line, ascii]
  omega

theorem generationEvidence_inj {b f b' f' : Text}
    (hlen : [b, f, p, c, a₁, a₂].map List.length = [b', f', p', c', a₁', a₂'].map List.length)
    (h : generationEvidence b f p c a₁ a₂ = generationEvidence b' f' p' c' a₁' a₂') :
    b = b' ∧ f = f' ∧ p = p' ∧ c = c' ∧ a₁ = a₁' ∧ a₂ = a₂' := by
  simp only [List.map_cons, List.map_nil, List.cons.injEq, and_true] at hlen
  obtain ⟨hb, hf, hp, hc, h₁, h₂⟩ := hlen
  unfold generationEvidence at h
  simp only [List.append_assoc] at h
  obtain ⟨hb, h⟩ := line_inj hb h
  obtain ⟨hf, h⟩ := line_inj hf h
  obtain ⟨hp, h⟩ := line_inj hp h
  obtain ⟨hc, h⟩ := line_inj hc h
  obtain ⟨h₁, h⟩ := line_inj h₁ h
  obtain ⟨h₂, -⟩ := @line_inj _ _ _ [] [] h₂ (by simpa using h)
  exact ⟨hb, hf, hp, hc, h₁, h₂⟩

/-- The four recorded hashes have 64 digits. -/
structure FullHashes (metadata : PayloadMetadata) : Prop where
  library : metadata.librarySha256.length = 64
  baseApk : metadata.baseApkSha256.length = 64
  splitApk : metadata.splitApkSha256.length = 64
  assetTree : metadata.assetTreeSha256.length = 64

theorem lowerHex_length {size : Nat} (h : lowerHex value size = true) : value.length = size := by
  unfold lowerHex at h
  rw [Bool.and_eq_true, beq_iff_eq] at h
  exact h.1

theorem goodFields_full {metadata : PayloadMetadata} (h : goodFields metadata = true) : FullHashes metadata := by
  unfold goodFields at h
  simp only [Bool.and_eq_true] at h
  obtain ⟨⟨⟨⟨⟨-, -⟩, hlibrary⟩, hbase⟩, hsplit⟩, htree⟩ := h
  exact ⟨lowerHex_length hlibrary, lowerHex_length hbase, lowerHex_length hsplit, lowerHex_length htree⟩

variable {payload : PayloadIntegrity}

theorem inspectPreparedPayload_full {lib : JsonLibrary} {abi : GuestAbi} {directory : PayloadDirectory}
    (h : inspectPreparedPayload lib abi directory = .ok payload) : FullHashes payload.metadata := by
  obtain ⟨_, -, h⟩ := bind_ok h
  obtain ⟨_, -, h⟩ := bind_ok h
  obtain ⟨metadata, -, h⟩ := bind_ok h
  split at h
  · rename_i hgood
    cases h
    exact goodFields_full hgood
  · cases h

theorem fingerprintEvidence_inj {abi : GuestAbi} {payload payload' : PayloadIntegrity} {metadata metadata' : Text}
    (hfull : FullHashes payload.metadata) (hfull' : FullHashes payload'.metadata) (hlen : metadata.length = metadata'.length)
    (h : fingerprintEvidence abi payload metadata = fingerprintEvidence abi payload' metadata') :
    payload.payloadId = payload'.payloadId ∧ metadata = metadata' ∧
      payload.metadata.librarySha256 = payload'.metadata.librarySha256 ∧
      payload.metadata.baseApkSha256 = payload'.metadata.baseApkSha256 ∧
      payload.metadata.splitApkSha256 = payload'.metadata.splitApkSha256 ∧
      payload.metadata.assetTreeSha256 = payload'.metadata.assetTreeSha256 := by
  unfold fingerprintEvidence at h
  simp only [List.append_assoc] at h
  -- The first line is what is left when the others, of a fixed length, are taken from the end.
  obtain ⟨hid, h⟩ := List.append_inj' h (by
    simp only [List.length_append, length_line, hlen, hfull.library, hfull'.library, hfull.baseApk, hfull'.baseApk,
      hfull.splitApk, hfull'.splitApk, hfull.assetTree, hfull'.assetTree])
  have hidlen : payload.payloadId.length = payload'.payloadId.length := by
    have hlines := congrArg List.length hid
    rw [length_line, length_line] at hlines
    omega
  obtain ⟨hid, -⟩ := @line_inj _ _ _ [] [] hidlen (by simpa using hid)
  obtain ⟨hmetadata, h⟩ := line_inj hlen h
  obtain ⟨hlibrary, h⟩ := line_inj (hfull.library.trans hfull'.library.symm) h
  obtain ⟨hbase, h⟩ := line_inj (hfull.baseApk.trans hfull'.baseApk.symm) h
  obtain ⟨hsplit, h⟩ := line_inj (hfull.splitApk.trans hfull'.splitApk.symm) h
  obtain ⟨htree, -⟩ := @line_inj _ _ _ [] [] (hfull.assetTree.trans hfull'.assetTree.symm) (by simpa using h)
  exact ⟨hid, hmetadata, hlibrary, hbase, hsplit, htree⟩

/-! ## An approval on disk -/

/-- The bytes of a file. -/
def fileBytes : Option StoreFile → Option Bytes
  | some (.data bytes _ _) => some bytes
  | _ => none

/-- What a generation stands for. -/
structure Evidence where
  profile : Bytes
  compatibility : Bytes
  canary1 : Bytes
  canary2 : Bytes
  fingerprint : Text
  runtimeBuildId : Text
  deriving DecidableEq, Repr

/-- One approval set: a store, the surroundings it is read in, and the payload it is for. -/
structure ApprovalSet where
  call : Call
  root : Text
  disk : Disk
  activation : Text
  payload : PayloadIntegrity

section
variable (host : Host) (set : ApprovalSet)

def ApprovalSet.validate : Outcome CandidateApprovalResult :=
  validateCandidateApproval host set.call set.root set.disk set.activation set.payload

def ApprovalSet.fingerprint : Except Text Text :=
  payloadRuntimeFingerprint host set.call .validation (payloadPath set.root set.payload.payloadId)
    (payloadAt set.disk set.payload.payloadId) set.payload

/-- The file of the payload's metadata. -/
def ApprovalSet.metadataFile : FileState := (payloadAt set.disk set.payload.payloadId).metadata

/-- The evidence as it stands on disk, for a generation. -/
structure ApprovalSet.Holds (generation : Text) (e : Evidence) : Prop where
  profile : fileBytes (set.disk.files (.artifact hostAbiProfiles (documentName set.payload.payloadId generation))) =
    some e.profile
  compatibility :
    fileBytes (set.disk.files (.artifact compatibilityProfiles (documentName set.payload.payloadId generation))) =
      some e.compatibility
  canary1 : fileBytes (set.disk.files (.artifact approvals (attestationName set.payload.payloadId generation 1))) = some e.canary1
  canary2 : fileBytes (set.disk.files (.artifact approvals (attestationName set.payload.payloadId generation 2))) = some e.canary2
  fingerprint : set.fingerprint host = .ok e.fingerprint
  runtimeBuildId : ∃ bytes receipt,
    fileBytes (set.disk.files (.artifact approvals (documentName set.payload.payloadId generation))) = some bytes ∧
    parseObject host.lib bytes = some receipt ∧ valueText receipt "runtime_build_id" = .ok e.runtimeBuildId

theorem ApprovalSet.Holds.unique {e e' : Evidence} (h : set.Holds host generation e) (h' : set.Holds host generation e') :
    e = e' := by
  obtain ⟨bytes, receipt, hbytes, hreceipt, hbuildId⟩ := h.runtimeBuildId
  obtain ⟨bytes', receipt', hbytes', hreceipt', hbuildId'⟩ := h'.runtimeBuildId
  have hsame := Option.some.inj (hbytes.symm.trans hbytes')
  subst hsame
  have hsame := Option.some.inj (hreceipt.symm.trans hreceipt')
  subst hsame
  have h1 := Option.some.inj (h.profile.symm.trans h'.profile)
  have h2 := Option.some.inj (h.compatibility.symm.trans h'.compatibility)
  have h3 := Option.some.inj (h.canary1.symm.trans h'.canary1)
  have h4 := Option.some.inj (h.canary2.symm.trans h'.canary2)
  have h5 := Except.ok.inj (h.fingerprint.symm.trans h'.fingerprint)
  have h6 := Except.ok.inj (hbuildId.symm.trans hbuildId')
  cases e
  cases e'
  simp only at h1 h2 h3 h4 h5 h6
  rw [h1, h2, h3, h4, h5, h6]

/-- The strings that are hashed for an approval, but for the generation. -/
def approvalStrings (generation : Text) : Set Bytes :=
  { s | (∃ e, set.Holds host generation e ∧ (s = e.profile ∨ s = e.compatibility ∨ s = e.canary1 ∨ s = e.canary2)) ∨
    set.metadataFile = .regular s ∨ ∃ bytes digits, set.metadataFile = .regular bytes ∧ HexOf host.sha256 bytes digits ∧
      s = fingerprintEvidence host.abi set.payload digits }

/-- The evidence of a generation. -/
def generationStrings (generation : Text) : Set Bytes :=
  { s | ∃ e p c a₁ a₂, set.Holds host generation e ∧ HexOf host.sha256 e.profile p ∧ HexOf host.sha256 e.compatibility c ∧
    HexOf host.sha256 e.canary1 a₁ ∧ HexOf host.sha256 e.canary2 a₂ ∧
    s = generationEvidence e.runtimeBuildId e.fingerprint p c a₁ a₂ }

end

/-! ## Accepted approvals -/

variable {members : Members} {approval : CandidateApprovalResult}

section
variable {host : Host}

theorem hashText_full {text digits : Text} (h : hashText host.sha256 text 64 = .ok digits) : HexOf host.sha256 text digits := by
  unfold hashText at h
  split at h
  · rename_i found hfound
    obtain ⟨hash, hhash, hsize, rfl⟩ := finalHex_some hfound
    cases h
    refine ⟨hash, hhash, hsize, List.take_of_length_le ?_⟩
    rw [length_hex, hsize]
  · cases h

theorem readArtifact_ok {call : Call} {reader : Reader} {requireImmutable : Bool} {file : Option StoreFile} {bytes : Bytes}
    (h : readArtifact call reader path requireImmutable file = .ok bytes) : fileBytes file = some bytes := by
  unfold readArtifact at h
  dsimp only at h
  split at h
  · cases h
  · split at h
    · cases h
    · cases h
    · cases h
    · cases h
    · split at h
      · cases h
      · cases h
    · split at h
      · cases h
      · split at h
        · cases h
        · cases h
          rfl

theorem payloadRuntimeFingerprint_ok {call : Call} {reader : Reader} {fingerprint : Text} {directory : PayloadDirectory}
    (h : payloadRuntimeFingerprint host call reader path directory payload = .ok fingerprint) :
    ∃ bytes digits, directory.metadata = .regular bytes ∧ HexOf host.sha256 bytes digits ∧
      HexOf host.sha256 (fingerprintEvidence host.abi payload digits) fingerprint := by
  unfold payloadRuntimeFingerprint at h
  split at h
  · cases h
  · split at h
    · cases h
    · rename_i digits hdigits
      unfold hashMetadata at hdigits
      split at hdigits
      · cases hdigits
      · obtain ⟨bytes, hbytes, hhex⟩ := hashRegularFile_ok hdigits
        exact ⟨bytes, digits, hbytes, hhex, hashText_full h⟩

theorem parseArtifact_ok {lib : JsonLibrary} {contents : Bytes} (h : parseArtifact lib contents = .ok members) :
    parseObject lib contents = some members := by
  unfold parseArtifact at h
  split at h
  · cases h
  · rename_i found hfound
    cases h
    exact hfound

theorem lastError_ok {α β : Type} {x : Except Text α} {y : Except Text β} {a : α} {b : β} (h : lastError x y = .ok (a, b)) :
    x = .ok a ∧ y = .ok b := by
  unfold lastError at h
  split at h
  · cases h
    exact ⟨rfl, rfl⟩
  · cases h
  · cases h

/-- A step whose failure is an error of its own. -/
theorem unless_ok {α : Type} {check : Outcome Bool} {text : String} {rest : Outcome α} {a : α}
    (h : (do if ← check then fail text else rest) = .ok a) : check = .ok false ∧ rest = .ok a := by
  obtain ⟨found, hfound, h⟩ := bind_ok h
  cases found with
  | true => cases h
  | false => exact ⟨hfound, h⟩

variable {call : Call} {root : Text} {disk : Disk}

/-- An attestation of a run, as it was accepted. -/
structure AttestationOf (host : Host) (disk : Disk) (receipt : Members) (facts : ApprovalFacts) (runtime : RuntimeClaim)
    (index : Nat) (bytes : Bytes) (hash : Text) : Prop where
  file : fileBytes (disk.files (.artifact approvals (attestationName facts.payload.payloadId facts.generation (index + 1)))) =
    some bytes
  hexOf : HexOf host.sha256 bytes hash
  bound : ∃ attestation, parseObject host.lib bytes = some attestation ∧
    attestationUnbound attestation receipt facts runtime index hash = .ok false

variable {facts : ApprovalFacts} {receipt : Members}

theorem validateAttestation_ok {runtime : RuntimeClaim} {index : Nat} {hash runId : Text}
    (h : validateAttestation host call root disk receipt facts runtime index = .ok (hash, runId)) :
    ∃ bytes, AttestationOf host disk receipt facts runtime index bytes hash := by
  obtain ⟨⟨bytes, attestation⟩, hread, h⟩ := bind_ok h
  obtain ⟨digits, hdigits, h⟩ := bind_ok h
  obtain ⟨run, -, h⟩ := bind_ok h
  obtain ⟨hbound, h⟩ := unless_ok h
  cases h
  unfold readAttestation at hread
  dsimp only at hread
  split at hread
  · obtain ⟨_, -, hread⟩ := bind_ok hread
    cases hread
  · rename_i found hfound
    obtain ⟨members, hmembers, hread⟩ := bind_ok hread
    cases hread
    exact ⟨bytes, readArtifact_ok hfound, hashText_full (outcome_ok hdigits), attestation, parseArtifact_ok hmembers, hbound⟩

/-- The receipt, the attestations and the generation of accepted evidence. -/
structure EvidenceOf (host : Host) (disk : Disk) (receipt : Members) (facts : ApprovalFacts) (library : Text)
    (runtime : RuntimeClaim) (canary1 canary2 : Bytes) (hash1 hash2 : Text) : Prop where
  runtime_eq : readRuntimeClaim receipt = .ok runtime
  bound : receiptUnbound receipt facts library runtime = .ok false
  first : AttestationOf host disk receipt facts runtime 0 canary1 hash1
  second : AttestationOf host disk receipt facts runtime 1 canary2 hash2
  generation : hashText host.sha256
    (generationEvidence runtime.buildId facts.fingerprint facts.profileSha256 facts.compatibilitySha256 hash1 hash2) 40 =
      .ok facts.generation

theorem validateEvidence_ok (h : validateEvidence host call root disk receipt facts = .ok ()) :
    ∃ library runtime canary1 canary2 hash1 hash2,
      EvidenceOf host disk receipt facts library runtime canary1 canary2 hash1 hash2 := by
  obtain ⟨runtime, hruntime, h⟩ := bind_ok h
  split at h
  · cases h
  · rename_i library _
    obtain ⟨hreceipt, h⟩ := unless_ok h
    obtain ⟨⟨hash1, run1⟩, hone, h⟩ := bind_ok h
    obtain ⟨⟨hash2, run2⟩, htwo, h⟩ := bind_ok h
    dsimp only at h
    split at h
    · cases h
    · obtain ⟨computed, hcomputed, h⟩ := bind_ok h
      split at h
      · cases h
      · rename_i hsame
        have hsame : computed = facts.generation := by simpa using hsame
        obtain ⟨canary1, hfirst⟩ := validateAttestation_ok hone
        obtain ⟨canary2, hsecond⟩ := validateAttestation_ok htwo
        refine ⟨library, runtime, canary1, canary2, hash1, hash2, hruntime, hreceipt, hfirst, hsecond, ?_⟩
        rw [← hsame]
        exact outcome_ok hcomputed

theorem EvidenceOf.buildId {library : Text} {runtime : RuntimeClaim} {canary1 canary2 : Bytes}
    {hash1 hash2 : Text} (h : EvidenceOf host disk receipt facts library runtime canary1 canary2 hash1 hash2) :
    valueText receipt "runtime_build_id" = .ok runtime.buildId ∧ runtime.buildId.length = 40 := by
  constructor
  · obtain ⟨canary, -, hrest⟩ := bind_ok h.runtime_eq
    obtain ⟨sha, -, hrest⟩ := bind_ok hrest
    obtain ⟨buildId, hbuildId, hrest⟩ := bind_ok hrest
    cases hrest
    exact hbuildId
  · have hcheck := anyOf_false h.bound (.ok (!lowerHex runtime.buildId 40)) (by simp)
    simp only [Except.ok.injEq, Bool.not_eq_false'] at hcheck
    exact lowerHex_length hcheck

/-- The documents of accepted references. -/
structure DocumentsOf (disk : Disk) (payloadId generation : Text) (documents : ApprovalDocuments) : Prop where
  receipt : fileBytes (disk.files (.artifact approvals (documentName payloadId generation))) = some documents.receiptBytes
  profile : fileBytes (disk.files (.artifact hostAbiProfiles (documentName payloadId generation))) = some documents.profileBytes
  compatibility :
    fileBytes (disk.files (.artifact compatibilityProfiles (documentName payloadId generation))) =
      some documents.compatibilityBytes

theorem readDocuments_ok {payloadId : Text} {references : ApprovalReferences} {documents : ApprovalDocuments}
    (h : readDocuments call disk payloadId references = .ok documents) :
    DocumentsOf disk payloadId references.generation documents := by
  unfold readDocuments at h
  dsimp only at h
  split at h
  · cases h
  · rename_i receiptBytes profileBytes compatibilityBytes hread
    cases h
    obtain ⟨hread, hcompatibility⟩ := lastError_ok hread
    obtain ⟨hreceipt, hprofile⟩ := lastError_ok hread
    exact ⟨readArtifact_ok hreceipt, readArtifact_ok hprofile, readArtifact_ok hcompatibility⟩

/-- All that an accepted approval has checked. -/
structure Accepted (host : Host) (call : Call) (root : Text) (disk : Disk) (payload : PayloadIntegrity) (generation : Text)
    (documents : ApprovalDocuments) (receipt : Members) (facts : ApprovalFacts) : Prop where
  read : DocumentsOf disk payload.payloadId generation documents
  receipt_eq : parseObject host.lib documents.receiptBytes = some receipt
  payload_eq : facts.payload = payload
  generation_eq : facts.generation = generation
  fingerprint : payloadRuntimeFingerprint host call .validation (payloadPath root payload.payloadId)
    (payloadAt disk payload.payloadId) payload =
    .ok facts.fingerprint
  profileSha256 : HexOf host.sha256 documents.profileBytes facts.profileSha256
  compatibilitySha256 : HexOf host.sha256 documents.compatibilityBytes facts.compatibilitySha256
  evidence : ∃ library runtime canary1 canary2 hash1 hash2,
    EvidenceOf host disk receipt facts library runtime canary1 canary2 hash1 hash2

theorem validateCandidateApproval_ok {activation : Text}
    (h : validateCandidateApproval host call root disk activation payload = .ok approval) :
    ∃ documents receipt facts, Accepted host call root disk payload approval.generation documents receipt facts := by
  obtain ⟨members, -, h⟩ := bind_ok h
  obtain ⟨references, -, h⟩ := bind_ok h
  obtain ⟨documents, hdocuments, h⟩ := bind_ok h
  obtain ⟨receipt, hreceipt, h⟩ := bind_ok h
  obtain ⟨profile, -, h⟩ := bind_ok h
  obtain ⟨compatibility, -, h⟩ := bind_ok h
  obtain ⟨_, -, h⟩ := bind_ok h
  obtain ⟨facts, hfacts, h⟩ := bind_ok h
  obtain ⟨_, hevidence, h⟩ := bind_ok h
  cases h
  obtain ⟨fingerprint, hfingerprint, hfacts⟩ := bind_ok hfacts
  obtain ⟨profileSha256, hprofile, hfacts⟩ := bind_ok hfacts
  obtain ⟨compatibilitySha256, hcompatibility, hfacts⟩ := bind_ok hfacts
  cases hfacts
  exact ⟨documents, receipt, _, readDocuments_ok (outcome_ok hdocuments), parseArtifact_ok hreceipt, rfl, rfl,
    outcome_ok hfingerprint,
    hashText_full (outcome_ok hprofile), hashText_full (outcome_ok hcompatibility), validateEvidence_ok hevidence⟩

end

/-! ## Two approvals -/

section
variable {host : Host} {set set' : ApprovalSet}

/-- The evidence of an accepted set, with the hashes that its generation is made of. -/
structure Hashed (host : Host) (set : ApprovalSet) (generation : Text) (e : Evidence) (p c a₁ a₂ : Text) : Prop where
  holds : set.Holds host generation e
  profile : HexOf host.sha256 e.profile p
  compatibility : HexOf host.sha256 e.compatibility c
  canary1 : HexOf host.sha256 e.canary1 a₁
  canary2 : HexOf host.sha256 e.canary2 a₂
  buildId : e.runtimeBuildId.length = 40
  fingerprint : e.fingerprint.length = 64
  short : hashText host.sha256 (generationEvidence e.runtimeBuildId e.fingerprint p c a₁ a₂) 40 = .ok generation

theorem validate_hashed (h : set.validate host = .ok approval) :
    ∃ e p c a₁ a₂, Hashed host set approval.generation e p c a₁ a₂ := by
  obtain ⟨documents, receipt, facts, haccepted⟩ := validateCandidateApproval_ok h
  obtain ⟨library, runtime, canary1, canary2, hash1, hash2, hevidence⟩ := haccepted.evidence
  obtain ⟨hbuildId, hlength⟩ := hevidence.buildId
  obtain ⟨_, _, -, -, hfingerprint⟩ := payloadRuntimeFingerprint_ok haccepted.fingerprint
  have hfirst := hevidence.first.file
  have hsecond := hevidence.second.file
  have hgeneration := hevidence.generation
  rw [haccepted.payload_eq, haccepted.generation_eq] at hfirst hsecond
  rw [haccepted.generation_eq] at hgeneration
  refine ⟨⟨documents.profileBytes, documents.compatibilityBytes, canary1, canary2, facts.fingerprint, runtime.buildId⟩,
    facts.profileSha256,
    facts.compatibilitySha256, hash1, hash2, ⟨haccepted.read.profile, haccepted.read.compatibility, hfirst, hsecond,
      haccepted.fingerprint, documents.receiptBytes, receipt, haccepted.read.receipt, haccepted.receipt_eq, hbuildId⟩,
      haccepted.profileSha256,
    haccepted.compatibilitySha256, hevidence.first.hexOf, hevidence.second.hexOf, hlength, hfingerprint.length, hgeneration⟩

theorem Hashed.mem {e : Evidence} (h : Hashed host set generation e p c a₁ a₂) :
    generationEvidence e.runtimeBuildId e.fingerprint p c a₁ a₂ ∈ generationStrings host set generation :=
  ⟨e, p, c, a₁, a₂, h.holds, h.profile, h.compatibility, h.canary1, h.canary2, rfl⟩

/-- The same generation, hence the same evidence. -/
theorem hashed_evidence {e e' : Evidence} (h : Hashed host set generation e p c a₁ a₂)
    (h' : Hashed host set' generation e' p' c' a₁' a₂')
    (hinj : Set.InjOn host.sha256 (approvalStrings host set generation ∪ approvalStrings host set' generation))
    (hshort : Set.InjOn (fun s => hashText host.sha256 s 40)
      (generationStrings host set generation ∪ generationStrings host set' generation)) :
    e = e' := by
  have htext := hshort (.inl h.mem) (.inr h'.mem) (h.short.trans h'.short.symm)
  obtain ⟨hbuildId, hfingerprint, hp, hc, h₁, h₂⟩ := generationEvidence_inj (by
    simp only [List.map_cons, List.map_nil, h.buildId, h'.buildId, h.fingerprint, h'.fingerprint, h.profile.length,
      h'.profile.length,
      h.compatibility.length, h'.compatibility.length, h.canary1.length, h'.canary1.length, h.canary2.length,
      h'.canary2.length]) htext
  subst hp hc h₁ h₂
  have hmem {s : Bytes} (hs : s = e.profile ∨ s = e.compatibility ∨ s = e.canary1 ∨ s = e.canary2) :
      s ∈ approvalStrings host set generation ∪ approvalStrings host set' generation := .inl (.inl ⟨e, h.holds, hs⟩)
  have hmem' {s : Bytes} (hs : s = e'.profile ∨ s = e'.compatibility ∨ s = e'.canary1 ∨ s = e'.canary2) :
      s ∈ approvalStrings host set generation ∪ approvalStrings host set' generation := .inr (.inl ⟨e', h'.holds, hs⟩)
  have hprofile := HexOf.inj hinj (hmem (.inl rfl)) (hmem' (.inl rfl)) h.profile h'.profile
  have hcompatibility := HexOf.inj hinj (hmem (.inr (.inl rfl))) (hmem' (.inr (.inl rfl))) h.compatibility h'.compatibility
  have hcanary1 := HexOf.inj hinj (hmem (.inr (.inr (.inl rfl)))) (hmem' (.inr (.inr (.inl rfl)))) h.canary1 h'.canary1
  have hcanary2 := HexOf.inj hinj (hmem (.inr (.inr (.inr rfl)))) (hmem' (.inr (.inr (.inr rfl)))) h.canary2 h'.canary2
  cases e
  cases e'
  simp only at hprofile hcompatibility hcanary1 hcanary2 hbuildId hfingerprint
  rw [hprofile, hcompatibility, hcanary1, hcanary2, hbuildId, hfingerprint]

/-- An approval fixes its evidence by its generation, and the payload by its fingerprint. -/
theorem generation_binds_evidence (host : Host) (set set' : ApprovalSet) (approval approval' : CandidateApprovalResult)
    (h : set.validate host = .ok approval) (h' : set'.validate host = .ok approval')
    (hpayload : ∃ directory, inspectPreparedPayload host.lib host.abi directory = .ok set.payload)
    (hpayload' : ∃ directory, inspectPreparedPayload host.lib host.abi directory = .ok set'.payload)
    (hinj : Set.InjOn host.sha256 (approvalStrings host set approval.generation ∪ approvalStrings host set' approval'.generation))
    (hshort : Set.InjOn (fun s => hashText host.sha256 s 40)
      (generationStrings host set approval.generation ∪ generationStrings host set' approval'.generation)) :
    (approval.generation = approval'.generation →
      ∃ e, set.Holds host approval.generation e ∧ set'.Holds host approval'.generation e) ∧
    (set.fingerprint host = set'.fingerprint host →
      set.payload.payloadId = set'.payload.payloadId ∧
        (∃ bytes, set.metadataFile = .regular bytes ∧ set'.metadataFile = .regular bytes) ∧
        set.payload.metadata.librarySha256 = set'.payload.metadata.librarySha256 ∧
        set.payload.metadata.baseApkSha256 = set'.payload.metadata.baseApkSha256 ∧
        set.payload.metadata.splitApkSha256 = set'.payload.metadata.splitApkSha256 ∧
        set.payload.metadata.assetTreeSha256 = set'.payload.metadata.assetTreeSha256) := by
  obtain ⟨e, p, c, a₁, a₂, hhashed⟩ := validate_hashed h
  obtain ⟨e', p', c', a₁', a₂', hhashed'⟩ := validate_hashed h'
  constructor
  · intro hsame
    rw [← hsame] at hinj hshort hhashed' ⊢
    have heq := hashed_evidence hhashed hhashed' hinj hshort
    exact ⟨e, hhashed.holds, heq ▸ hhashed'.holds⟩
  · intro hsame
    obtain ⟨_, hpayload⟩ := hpayload
    obtain ⟨_, hpayload'⟩ := hpayload'
    have hfingerprint := hhashed.holds.fingerprint
    have hfingerprint' := hhashed'.holds.fingerprint
    rw [← hsame] at hfingerprint'
    have hdigits : e'.fingerprint = e.fingerprint := Except.ok.inj (hfingerprint'.symm.trans hfingerprint)
    obtain ⟨bytes, digits, hfile, hhex, hevidence⟩ := payloadRuntimeFingerprint_ok hfingerprint
    obtain ⟨bytes', digits', hfile', hhex', hevidence'⟩ := payloadRuntimeFingerprint_ok hhashed'.holds.fingerprint
    rw [hdigits] at hevidence'
    have htext := HexOf.inj hinj (.inl (.inr (.inr ⟨bytes, digits, hfile, hhex, rfl⟩)))
      (.inr (.inr (.inr ⟨bytes', digits', hfile', hhex', rfl⟩)))
      hevidence hevidence'
    obtain ⟨hid, hmetadata, hrest⟩ := fingerprintEvidence_inj (inspectPreparedPayload_full hpayload)
      (inspectPreparedPayload_full hpayload')
      (hhex.length.trans hhex'.length.symm) htext
    subst hmetadata
    have hbytes := HexOf.inj hinj (.inl (.inr (.inl hfile))) (.inr (.inr (.inl hfile'))) hhex hhex'
    subst hbytes
    exact ⟨hid, ⟨bytes, hfile, hfile'⟩, hrest⟩

end

/-! ## A small approval -/

def quoted (text : Text) : Text := ascii "\"" ++ text ++ ascii "\""

/-- The text of a value that holds no other. -/
def flatValue : Json → Text
  | .bool value => ascii (if value then "true" else "false")
  | .unsigned value => ascii (toString value)
  | .string value => quoted value
  | _ => []

def commas (parts : List Text) : Text := (parts.intersperse (ascii ",")).flatten

def flatText (members : Members) : Text :=
  ascii "\x7b" ++ commas (members.map fun m => quoted m.1 ++ ascii ":" ++ flatValue m.2) ++ ascii "\x7d"

/-- The text of a value of flat values. -/
def nestedValue : Json → Text
  | .object members => flatText members
  | .array items => ascii "[" ++ commas (items.map fun item => match item with
    | .object members => flatText members
    | item => flatValue item) ++ ascii "]"
  | value => flatValue value

/-- `dump()`, for a document of this depth. -/
def compactText (members : Members) : Text :=
  ascii "\x7b" ++ commas (members.map fun m => quoted m.1 ++ ascii ":" ++ nestedValue m.2) ++ ascii "\x7d"

/-- A library that reads some documents. -/
def compactLibrary (documents : List Members) : JsonLibrary where
  parse text := (documents.find? fun members => compactText members == text).map .object
  dump _ := none

theorem find_document {documents : List Members} (text : Members → Text) (hdistinct : (documents.map text).Nodup)
    (hmem : members ∈ documents) : documents.find? (fun document => text document == text members) = some members := by
  induction documents with
  | nil => exact (List.not_mem_nil hmem).elim
  | cons document documents ih =>
    rw [List.map_cons, List.nodup_cons] at hdistinct
    rcases List.mem_cons.mp hmem with rfl | hmem
    · exact List.find?_cons_of_pos (by simp)
    · have hne : text document ≠ text members := fun hsame => hdistinct.1 (hsame ▸ List.mem_map_of_mem hmem)
      rw [List.find?_cons_of_neg (by simpa using hne)]
      exact ih hdistinct.2 hmem

theorem compactLibrary_parse {documents : List Members} (hdistinct : (documents.map compactText).Nodup)
    (hmem : members ∈ documents) : (compactLibrary documents).parse (compactText members) = some (.object members) := by
  show (documents.find? _).map _ = _
  rw [find_document compactText hdistinct hmem]
  rfl

def jsonMembers : Json → Members
  | .object members => members
  | _ => []

def smallId : Text := ascii "7-" ++ smallBuildId
def smallRuntimeBuildId : Text := List.replicate 40 0x62

def evidenceDigests : List Bytes :=
  [[206, 72, 54, 197, 237, 34, 111, 157, 23, 154, 31, 150, 11, 21, 51, 7, 20, 40, 156, 248, 45, 181,
    65, 80, 110, 50, 155, 72, 52, 85, 184, 123],
   [177, 225, 98, 85, 133, 252, 63, 83, 192, 18, 96, 249, 31, 40, 252, 56, 128, 247, 79, 253, 234, 121,
    60, 96, 19, 255, 67, 205, 190, 59, 114, 111],
   [150, 194, 42, 153, 120, 163, 73, 102, 107, 43, 31, 119, 19, 195, 1, 48, 101, 12, 150, 190, 210, 248,
    71, 138, 108, 194, 210, 234, 62, 124, 140, 147],
   [179, 195, 94, 225, 147, 146, 29, 130, 72, 244, 2, 101, 133, 120, 13, 237, 164, 169, 127, 93, 52, 87,
    229, 84, 33, 129, 129, 172, 65, 108, 24, 167],
   [155, 30, 242, 180, 235, 227, 135, 186, 154, 151, 24, 136, 216, 39, 207, 64, 53, 56, 9, 129, 149, 129,
    113, 120, 116, 123, 36, 240, 49, 56, 212, 109],
   [56, 192, 22, 16, 64, 244, 214, 141, 36, 179, 87, 191, 54, 230, 37, 150, 135, 69, 50, 79, 29, 60,
    233, 18, 16, 6, 71, 34, 77, 24, 72, 1],
   [2, 184, 49, 163, 184, 243, 36, 95, 32, 179, 196, 41, 94, 10, 20, 135, 74, 242, 170, 214, 233, 122,
    115, 185, 43, 19, 194, 43, 197, 45, 138, 151]]

def evidenceDigest (i : Nat) : Text := hex (evidenceDigests[i]?.getD [])

/-- The runtime of the small approval, by its hash. -/
def smallRuntimeSha256 : Text := List.replicate 64 0x63

def smallGeneration : Text := (evidenceDigest 6).take 40

def smallProfile : Members :=
  [(ascii "elf_build_id", .string smallBuildId), (ascii "payload_id", .string smallId),
   (ascii "payload_path", .string (ascii "payloads/" ++ smallId)), (ascii "payload_sha256", .string (smallHash 0)),
   (ascii "profile", .object [(ascii "elf_build_id", .string smallBuildId)]), (ascii "reference", .object []),
   (ascii "schema_version", .unsigned 1)]

def smallCompatibility : Members :=
  [(ascii "profiles", .array [.object
     [(ascii "allow_host_abi_bridges", .bool true), (ascii "allow_host_constructor_replay", .bool true),
      (ascii "allow_legacy_binary_patches", .bool false), (ascii "default_allowed", .bool true),
      (ascii "elf_build_id", .string smallBuildId), (ascii "status", .string (ascii "experimental")),
      (ascii "version_code", .unsigned 7), (ascii "version_name", .string (ascii "1.0"))]]),
   (ascii "schema_version", .unsigned 1)]

def smallAttestation (run : Nat) : Members :=
  [(ascii "canary_tier", .string (ascii "C")), (ascii "compatibility_manifest_sha256", .string (evidenceDigest 3)),
   (ascii "payload_fingerprint", .string (evidenceDigest 1)), (ascii "payload_id", .string smallId),
   (ascii "profile_sha256", .string (evidenceDigest 2)), (ascii "readiness_log_sha256", .string (smallHash 1)),
   (ascii "run", .unsigned run), (ascii "run_id", .string (smallId ++ ascii "-" ++ ascii (toString run) ++ ascii "-9-5")),
   (ascii "runtime_build_id", .string smallRuntimeBuildId), (ascii "runtime_sha256", .string smallRuntimeSha256),
   (ascii "schema_version", .unsigned 1), (ascii "status", .string (ascii "passed"))]

def smallReceipt (approvedAt : Text) : Members :=
  [(ascii "approved_at", .string approvedAt),
   (ascii "canary_attestation_sha256", .array [.string (evidenceDigest 4), .string (evidenceDigest 5)]),
   (ascii "canary_runtime_sha256", .string smallRuntimeSha256), (ascii "canary_tier", .string (ascii "C")),
   (ascii "compatibility_manifest_sha256", .string (evidenceDigest 3)), (ascii "elf_build_id", .string smallBuildId),
   (ascii "generation", .string smallGeneration), (ascii "payload_fingerprint", .string (evidenceDigest 1)),
   (ascii "payload_id", .string smallId),
   (ascii "payload_path", .string (ascii "/s/payloads/" ++ smallId ++ ascii "/libroblox.so")),
   (ascii "payload_sha256", .string (smallHash 0)), (ascii "profile_sha256", .string (evidenceDigest 2)),
   (ascii "runtime_build_id", .string smallRuntimeBuildId), (ascii "runtime_sha256", .string smallRuntimeSha256),
   (ascii "schema_version", .unsigned 1), (ascii "status", .string (ascii "approved")), (ascii "successful_runs", .unsigned 2)]

def smallActivation : Members :=
  [(ascii "approval_path", .string (ascii "approvals/" ++ documentName smallId smallGeneration)),
   (ascii "compatibility_manifest_path", .string (ascii "compatibility_profiles/" ++ documentName smallId smallGeneration)),
   (ascii "elf_build_id", .string smallBuildId),
   (ascii "host_abi_profile_path", .string (ascii "host_abi_profiles/" ++ documentName smallId smallGeneration)),
   (ascii "payload_id", .string smallId), (ascii "payload_path", .string (ascii "payloads/" ++ smallId)),
   (ascii "payload_sha256", .string (smallHash 0)), (ascii "schema_version", .unsigned 1), (ascii "version_code", .unsigned 7),
   (ascii "version_name", .string (ascii "1.0"))]

def smallDocuments : List Members :=
  [smallActivation, smallReceipt (ascii "then"), smallReceipt (ascii "now"), smallProfile, smallCompatibility, smallAttestation 1,
   smallAttestation 2, jsonMembers (smallMetadata (ascii "then"))]

/-- SHA-256 of what is hashed for the small approval. -/
def evidenceHashes : List (Bytes × Bytes) :=
  smallSha256 ++
    [(smallMetadataText (ascii "then"), evidenceDigests[0]?.getD []),
     (fingerprintEvidence guestX8664 smallIdentity (evidenceDigest 0), evidenceDigests[1]?.getD []),
     (compactText smallProfile, evidenceDigests[2]?.getD []), (compactText smallCompatibility, evidenceDigests[3]?.getD []),
     (compactText (smallAttestation 1), evidenceDigests[4]?.getD []),
     (compactText (smallAttestation 2), evidenceDigests[5]?.getD []),
     (generationEvidence smallRuntimeBuildId (evidenceDigest 1) (evidenceDigest 2) (evidenceDigest 3) (evidenceDigest 4)
       (evidenceDigest 5), evidenceDigests[6]?.getD [])]

def smallHost : Host where
  sha256 := tableSha256 evidenceHashes
  lib := compactLibrary smallDocuments
  abi := guestX8664

/-- A file as an approval leaves it. -/
def immutable (bytes : Bytes) : StoreFile := .data bytes { foreign := false, writable := false } true

def smallArtifacts (approvedAt : Text) : List (FileKey × StoreFile) :=
  [(.artifact approvals (documentName smallId smallGeneration), immutable (compactText (smallReceipt approvedAt))),
   (.artifact hostAbiProfiles (documentName smallId smallGeneration), immutable (compactText smallProfile)),
   (.artifact compatibilityProfiles (documentName smallId smallGeneration), immutable (compactText smallCompatibility)),
   (.artifact approvals (attestationName smallId smallGeneration 1), immutable (compactText (smallAttestation 1))),
   (.artifact approvals (attestationName smallId smallGeneration 2), immutable (compactText (smallAttestation 2)))]

def smallDisk (files : List (FileKey × StoreFile)) : Disk where
  files key := (files.find? (·.1 == key)).map (·.2)
  entries
    | .payloads => ⟨[(smallId, .tree ⟨smallPayload (ascii "then"), 0, true, false⟩)], List.nodup_singleton _⟩
    | .quarantine => .empty

def smallSet (approvedAt : Text) : ApprovalSet where
  call := quietCall
  root := ascii "/s"
  disk := smallDisk (smallArtifacts approvedAt)
  activation := compactText smallActivation
  payload := smallIdentity

def smallEvidence : Evidence where
  profile := compactText smallProfile
  compatibility := compactText smallCompatibility
  canary1 := compactText (smallAttestation 1)
  canary2 := compactText (smallAttestation 2)
  fingerprint := evidenceDigest 1
  runtimeBuildId := smallRuntimeBuildId

def smallApproval : CandidateApprovalResult where
  generation := smallGeneration
  receipt := ascii "/s/approvals/" ++ documentName smallId smallGeneration
  profile := ascii "/s/host_abi_profiles/" ++ documentName smallId smallGeneration
  compatibilityManifest := ascii "/s/compatibility_profiles/" ++ documentName smallId smallGeneration

theorem smallSet_hexOf {bytes : Bytes} {i : Nat} (h : smallHost.sha256 bytes = .digest (evidenceDigests[i]?.getD []))
    (hlen : (evidenceDigests[i]?.getD []).length = 32) : HexOf smallHost.sha256 bytes (evidenceDigest i) := ⟨_, h, hlen, rfl⟩

/-- What the small approval's documents hash to, where they are and what the store says of them. -/
theorem smallSet_facts :
    (smallHost.sha256 (smallMetadataText (ascii "then")) = .digest (evidenceDigests[0]?.getD []) ∧
      smallHost.sha256 smallEvidence.profile = .digest (evidenceDigests[2]?.getD []) ∧
      smallHost.sha256 smallEvidence.compatibility = .digest (evidenceDigests[3]?.getD []) ∧
      smallHost.sha256 smallEvidence.canary1 = .digest (evidenceDigests[4]?.getD []) ∧
      smallHost.sha256 smallEvidence.canary2 = .digest (evidenceDigests[5]?.getD [])) ∧
    (∀ approvedAt ∈ [ascii "then", ascii "now"],
      (fileBytes ((smallSet approvedAt).disk.files (.artifact hostAbiProfiles (documentName smallId smallGeneration))) =
        some smallEvidence.profile ∧
        fileBytes ((smallSet approvedAt).disk.files (.artifact compatibilityProfiles (documentName smallId smallGeneration))) =
          some smallEvidence.compatibility ∧
        fileBytes ((smallSet approvedAt).disk.files (.artifact approvals (attestationName smallId smallGeneration 1))) =
          some smallEvidence.canary1 ∧
        fileBytes ((smallSet approvedAt).disk.files (.artifact approvals (attestationName smallId smallGeneration 2))) =
          some smallEvidence.canary2 ∧
        fileBytes ((smallSet approvedAt).disk.files (.artifact approvals (documentName smallId smallGeneration))) =
          some (compactText (smallReceipt approvedAt))) ∧
      (smallSet approvedAt).fingerprint smallHost = .ok smallEvidence.fingerprint ∧
      ((parseObject smallHost.lib (compactText (smallReceipt approvedAt))).map fun receipt =>
        valueText receipt "runtime_build_id") =
        some (.ok smallEvidence.runtimeBuildId) ∧
      (smallSet approvedAt).validate smallHost = .ok smallApproval) ∧
    inspectPreparedPayload smallHost.lib smallHost.abi (smallPayload (ascii "then")) = .ok smallIdentity ∧
    ((evidenceHashes.map fun entry => id (Hashing.digest entry.2)).Nodup ∧
      (evidenceHashes.map fun entry => hashText (fun _ => Hashing.digest entry.2) [] 40).Nodup) ∧
    compactText (smallReceipt (ascii "then")) ≠ compactText (smallReceipt (ascii "now")) := by
  decide +kernel

theorem smallSet_strings (h : (smallSet approvedAt).Holds smallHost smallGeneration smallEvidence) :
    approvalStrings smallHost (smallSet approvedAt) smallGeneration ⊆ { s | s ∈ evidenceHashes.map (·.1) } := by
  have hmetadata : (smallSet approvedAt).metadataFile = .regular (smallMetadataText (ascii "then")) := rfl
  intro s hs
  rcases hs with ⟨e, he, hs⟩ | hs | ⟨bytes, digits, hbytes, hhex, rfl⟩
  · rw [he.unique smallHost _ h] at hs
    rcases hs with rfl | rfl | rfl | rfl <;> simp [evidenceHashes, smallEvidence]
  · rw [hmetadata] at hs
    cases hs
    simp [evidenceHashes]
  · rw [hmetadata] at hbytes
    cases hbytes
    have hdigits := hhex.unique (smallSet_hexOf (i := 0) smallSet_facts.1.1 (by decide))
    rw [hdigits]
    simp [evidenceHashes, smallSet, smallHost]

theorem smallSet_generation (h : (smallSet approvedAt).Holds smallHost smallGeneration smallEvidence) :
    generationStrings smallHost (smallSet approvedAt) smallGeneration ⊆ { s | s ∈ evidenceHashes.map (·.1) } := by
  intro s hs
  obtain ⟨e, p, c, a₁, a₂, he, hp, hc, h₁, h₂, rfl⟩ := hs
  rw [he.unique smallHost _ h] at hp hc h₁ h₂ ⊢
  obtain ⟨-, hprofile, hcompatibility, hcanary1, hcanary2⟩ := smallSet_facts.1
  rw [hp.unique (smallSet_hexOf (i := 2) hprofile (by decide)), hc.unique (smallSet_hexOf (i := 3) hcompatibility (by decide)),
    h₁.unique (smallSet_hexOf (i := 4) hcanary1 (by decide)), h₂.unique (smallSet_hexOf (i := 5) hcanary2 (by decide))]
  simp [evidenceHashes, smallEvidence]

theorem smallSet_holds : ∀ approvedAt ∈ [ascii "then", ascii "now"],
    (smallSet approvedAt).Holds smallHost smallGeneration smallEvidence := by
  intro approvedAt hat
  obtain ⟨⟨hprofile, hcompatibility, hcanary1, hcanary2, hreceipt⟩, hfingerprint, hbuildId, -⟩ :=
    smallSet_facts.2.1 approvedAt hat
  obtain ⟨receipt, hparse, hbuildId⟩ := Option.map_eq_some_iff.mp hbuildId
  exact ⟨hprofile, hcompatibility, hcanary1, hcanary2, hfingerprint, _, receipt, hreceipt, hparse, hbuildId⟩

/-- Two receipts of one generation. -/
theorem generation_binds_evidence_smallApproval :
    compactText (smallReceipt (ascii "then")) ≠ compactText (smallReceipt (ascii "now")) ∧
      ∃ e, (smallSet (ascii "then")).Holds smallHost smallGeneration e ∧
      (smallSet (ascii "now")).Holds smallHost smallGeneration e := by
  obtain ⟨-, hsets, hpayload, ⟨hdigests, hshorts⟩, hdiffer⟩ := smallSet_facts
  have hthen := (hsets (ascii "then") (by simp)).2.2.2
  have hnow := (hsets (ascii "now") (by simp)).2.2.2
  have hholds := smallSet_holds (ascii "then") (by simp)
  have hholds' := smallSet_holds (ascii "now") (by simp)
  have hinj : Set.InjOn smallHost.sha256 (approvalStrings smallHost (smallSet (ascii "then")) smallGeneration ∪
      approvalStrings smallHost (smallSet (ascii "now")) smallGeneration) :=
    tableSha256_injOn id hdigests (Set.union_subset (smallSet_strings hholds) (smallSet_strings hholds'))
  have hshort : Set.InjOn (fun s => hashText smallHost.sha256 s 40)
      (generationStrings smallHost (smallSet (ascii "then")) smallGeneration ∪
      generationStrings smallHost (smallSet (ascii "now")) smallGeneration) :=
    tableSha256_injOn (fun hashing => hashText (fun _ => hashing) [] 40) hshorts
      (Set.union_subset (smallSet_generation hholds) (smallSet_generation hholds'))
  exact ⟨hdiffer, (generation_binds_evidence smallHost _ _ _ _ hthen hnow ⟨_, hpayload⟩ ⟨_, hpayload⟩ hinj hshort).1 rfl⟩

end Mocktail.Update

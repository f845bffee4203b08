/-
  Mocktail.Compat.ApprovedLoads — what is approved can be loaded.

  `CreateCandidateApproval` writes the artifacts that the store's validator and the loader read.
  Both accept them, unless a directory of the artifacts is a symbolic link: the artifacts are
  written through it, and the validator takes no reference that leaves the store (`Unlinked`).
-/

import Mocktail.Compat.ReceiptStrictness
import Mocktail.Update.WrittenDocuments

namespace Mocktail.Compat

open Mocktail.Lib Mocktail.Launch Mocktail.Update

/-! ## What an approval is read with -/

/-- No directory of the artifacts is a link. -/
def Unlinked (call : Call) (root : Text) (disk : Disk) : Prop :=
  ∃ resolved, call.canonical root = some resolved ∧ ∀ directory ∈ artifactDirectories, ∀ name bytes, Slashless name →
    Sealed (disk.files (.artifact directory name)) bytes →
    call.canonical (artifactPath root directory name) = some (assetPath (assetPath resolved directory) name)

/-- An activation that names the three documents of a generation. -/
def Activates (lib : JsonLibrary) (activation payloadId generation : Text) : Prop :=
  ∃ members, parseObject lib activation = some members ∧
    valueText members "approval_path" = .ok (approvals ++ ascii "/" ++ documentName payloadId generation) ∧
    valueText members "host_abi_profile_path" = .ok (hostAbiProfiles ++ ascii "/" ++ documentName payloadId generation) ∧
    valueText members "compatibility_manifest_path" =
      .ok (compatibilityProfiles ++ ascii "/" ++ documentName payloadId generation)

variable {digits fingerprint path resolved text : Text}

theorem resolves_of_unlinked {call : Call} {root directory name : Text} (hroot : call.canonical root = some resolved)
    (hname : Slashless name)
    (h : call.canonical (artifactPath root directory name) = some (assetPath (assetPath resolved directory) name)) :
    Resolves call root directory name (assetPath (assetPath resolved directory) name) := by
  have hne : assetPath resolved directory ≠ [] := by simp [assetPath, ascii]
  refine ⟨resolved, hroot, h, parentPath_assetPath hname hne, ?_⟩
  rw [fileName_assetPath hname]
  exact (fileName_assetPath hname).symm

/-! ## Hashes and IDs -/

theorem hashText_lowerHex {sha256 : Sha256} (h : hashText sha256 text 40 = .ok digits) : lowerHex digits 40 = true := by
  unfold hashText at h
  split at h
  · rename_i found hfound
    obtain ⟨hash, -, hsize, rfl⟩ := finalHex_some hfound
    cases h
    have hhex : lowerHex (hex hash) 64 = true := lowerHex_hex (by omega)
    unfold lowerHex at hhex ⊢
    rw [Bool.and_eq_true, beq_iff_eq, List.all_eq_true] at hhex ⊢
    refine ⟨?_, fun c hc => hhex.2 c (List.mem_of_mem_take hc)⟩
    rw [List.length_take, hhex.1]
    rfl
  · cases h

theorem hashRegularFile_lowerHex {sha256 : Sha256} {file : FileState} (h : hashRegularFile sha256 path file = .ok digits) :
    lowerHex digits 64 = true := by
  obtain ⟨bytes, -, hhex⟩ := hashRegularFile_ok h
  exact hhex.lowerHex

variable {directory : PayloadDirectory}

theorem inspectPreparedPayload_short {lib : JsonLibrary} {abi : GuestAbi} {payload : PayloadIntegrity}
    (h : inspectPreparedPayload lib abi directory = .ok payload) : payload.payloadId.length ≤ 61 := by
  have hidentified := inspectPreparedPayload_identified h
  obtain ⟨_, -, h⟩ := bind_eq_ok.mp h
  obtain ⟨_, -, h⟩ := bind_eq_ok.mp h
  obtain ⟨metadata, hfields, h⟩ := bind_eq_ok.mp h
  split at h
  · cases h
    have hversion := readFields_versionCode hfields
    have hlength := @length_ascii_toString metadata.versionCode 20 (by omega) (by omega)
    have hbuildId := lowerHex_length hidentified.buildId
    simp only [payloadIdOf, List.length_append]
    rw [hbuildId]
    have hdash : (ascii "-").length = 1 := by decide
    omega
  · cases h

/-! ## The run ID -/

theorem isDecimal_toString (n : Nat) : isDecimal (ascii (toString n)) = true := by
  unfold isDecimal
  rw [Bool.and_eq_true, List.all_eq_true]
  constructor
  · cases hcase : ascii (toString n) with
    | nil => exact absurd hcase (ascii_toString_ne_nil n)
    | cons c rest => rfl
  · intro c hc
    have hdigit := ascii_toString_digit n c hc
    simpa using hdigit

theorem dashless_toString (n : Nat) : ∀ c ∈ ascii (toString n), (c != 0x2d) = true := by
  intro c hc
  have hdigit := ascii_toString_digit n c hc
  rw [bne_iff_ne]
  intro hdash
  subst hdash
  have hvalue : (0x2d : UInt8).toNat = 45 := rfl
  omega

/-- The loader takes the run IDs of an approval. -/
theorem canaryRunId_valid (call : Call) (facts : CanaryFacts) (run : Nat) :
    validateCanaryRunId (canaryRunId call facts run) facts.payload.payloadId run = true := by
  have hsplit : canaryRunId call facts run = (facts.payload.payloadId ++ ascii "-" ++ ascii (toString run) ++ ascii "-") ++
      (ascii (toString call.epoch.val) ++ 0x2d :: ascii (toString call.pid)) := by
    simp [canaryRunId, ascii]
  have hdash : (0x2d : UInt8) ∈ ascii (toString call.epoch.val) ++ 0x2d :: ascii (toString call.pid) := by simp
  have htake : (ascii (toString call.epoch.val) ++ 0x2d :: ascii (toString call.pid)).takeWhile (· != 0x2d) =
      ascii (toString call.epoch.val) := by
    rw [List.takeWhile_append_of_pos (dashless_toString _), List.takeWhile_cons_of_neg (by decide), List.append_nil]
  have hdrop : ((ascii (toString call.epoch.val) ++ 0x2d :: ascii (toString call.pid)).dropWhile (· != 0x2d)).drop 1 =
      ascii (toString call.pid) := by
    rw [List.dropWhile_append_of_pos (dashless_toString _), List.dropWhile_cons_of_neg (by decide)]
    rfl
  have hsecond : (ascii (toString call.pid)).contains 0x2d = false := by
    rw [Bool.eq_false_iff]
    intro hmem
    have hne := dashless_toString call.pid _ (List.contains_iff_mem.mp hmem)
    simp at hne
  unfold validateCanaryRunId
  rw [hsplit]
  simp only [List.drop_left, List.take_left, htake, hdrop, hsecond, isDecimal_toString, beq_self_eq_true, Bool.not_false,
    Bool.and_true, Bool.and_eq_true, decide_eq_true_eq, List.contains_iff_mem]
  refine ⟨?_, hdash⟩
  simp only [List.length_append, List.length_cons]
  omega

/-! ## A created approval -/

section
variable {system : System} {host : Host} {call later : Call} {root : Text} {before after : Disk} {candidate : Candidate}
  {runtimePath : Text} {payload : PayloadIntegrity} {activation : Text} {c : Creation}

/-- A created approval, and what it is read with. -/
structure Approving (system : System) (host : Host) (call later : Call) (root : Text) (before after : Disk)
    (candidate : Candidate) (runtimePath : Text) (payload : PayloadIntegrity) (activation : Text) (c : Creation) : Prop where
  creates : Creates host call candidate (payloadPath root payload.payloadId) runtimePath
    (payloadAt before payload.payloadId) payload c
  holding : Holding before (artifacts payload.payloadId c.generation c.profile c.compatibility c.attestation1.1
    c.attestation2.1 c.receipt) after
  inspected : ∃ directory, inspectPreparedPayload host.lib host.abi directory = .ok payload
  activates : Activates host.lib activation payload.payloadId c.generation
  quiet : later.Quiet
  canonical : later.canonical = call.canonical
  limits : Limits call (assetPath (payloadPath root payload.payloadId) (ascii "libroblox.so"))
  unlinked : Unlinked call root after
  sees : SeesStore system host later root after
  writes : WritesDocuments host.lib.dump system.parse

variable (h : Approving system host call later root before after candidate runtimePath payload activation c)

include h in
theorem Approving.identified : Identified payload := by
  obtain ⟨directory, hinspected⟩ := h.inspected
  exact inspectPreparedPayload_identified hinspected

/-- The hashes of the runtime and of the payload are hashes. -/
theorem runtimeAndFingerprint_ok {runtimeSha256 : Text}
    (h : runtimeAndFingerprint host call path directory payload runtimePath = .ok (runtimeSha256, fingerprint)) :
    lowerHex runtimeSha256 64 = true ∧ payloadRuntimeFingerprint host call .candidate path directory payload =
      .ok fingerprint := by
  unfold runtimeAndFingerprint at h
  split at h
  · split at h
    · cases h
    · cases h
  · rename_i found hruntime
    split at h
    · cases h
    · rename_i print hprint
      cases h
      exact ⟨hashRegularFile_lowerHex hruntime, hprint⟩

/-- A fingerprint does not depend on who reads, if nothing fails. -/
theorem payloadRuntimeFingerprint_later (hquiet : later.Quiet)
    (h : payloadRuntimeFingerprint host call .candidate path directory payload = .ok fingerprint) :
    payloadRuntimeFingerprint host later .validation path directory payload = .ok fingerprint := by
  have hmetadata {digits : Text} (h : hashMetadata host call .candidate path directory = .ok digits) :
      hashMetadata host later .validation path directory = .ok digits := by
    unfold hashMetadata at h ⊢
    rw [hquiet]
    split at h
    · cases h
    · exact h
  unfold payloadRuntimeFingerprint at h ⊢
  split at h
  · cases h
  · rename_i hid
    rw [if_neg hid]
    split at h
    · cases h
    · rename_i digits hdigits
      rw [hmetadata hdigits]
      exact h

include h in
theorem Approving.generation : lowerHex c.generation 40 = true := by
  obtain ⟨_, -, hevidence⟩ := bind_eq_ok.mp h.creates.evidence
  obtain ⟨_, -, hevidence⟩ := bind_eq_ok.mp hevidence
  obtain ⟨_, hgeneration, hevidence⟩ := bind_eq_ok.mp hevidence
  cases hevidence
  exact hashText_lowerHex (outcome_eq_ok.mp hgeneration)

include h in
theorem Approving.measured : Measured c.facts := by
  have hpayload := h.creates.payload
  have hfull := goodFields_full h.identified.fields
  obtain ⟨hruntime, hfingerprint⟩ := runtimeAndFingerprint_ok h.creates.runtime
  obtain ⟨_, _, -, -, hfingerprint⟩ := payloadRuntimeFingerprint_ok hfingerprint
  refine ⟨?_, ?_, ?_, hfingerprint.length, (hashText_full h.creates.profileSha256).length,
    (hashText_full h.creates.compatibilitySha256).length, lowerHex_length hruntime, lowerHex_length h.creates.buildId⟩
  · obtain ⟨directory, hinspected⟩ := h.inspected
    rw [hpayload]
    exact inspectPreparedPayload_short hinspected
  · rw [hpayload]
    exact lowerHex_length h.identified.buildId
  · rw [hpayload]
    exact hfull.library

/-- An attestation as it was made. -/
structure Made (host : Host) (call : Call) (facts : CanaryFacts) (run : Nat) (attestation : Text × Text) (log : Text) : Prop where
  hex : lowerHex log 64 = true
  text : dumpDocument host.lib (attestationDocument call facts run log) = .ok attestation.1
  hash : hashText host.sha256 attestation.1 64 = .ok attestation.2

variable {attestation : Text × Text} {run : Nat}

theorem makeAttestation_made {facts : CanaryFacts} {file : FileState}
    (h : makeAttestation host call facts run path file = .ok attestation) : ∃ log, Made host call facts run attestation log := by
  obtain ⟨log, hlog, h⟩ := bind_eq_ok.mp h
  obtain ⟨text, htext, h⟩ := bind_eq_ok.mp h
  obtain ⟨hash, hhash, h⟩ := bind_eq_ok.mp h
  cases h
  exact ⟨log, hashRegularFile_lowerHex (outcome_eq_ok.mp hlog), htext, outcome_eq_ok.mp hhash⟩

include h in
theorem Approving.made :
    (∃ log, Made host call c.facts 1 c.attestation1 log) ∧ (∃ log, Made host call c.facts 2 c.attestation2 log) ∧
      hashText host.sha256 (generationEvidence c.facts.runtimeBuildId c.facts.fingerprint c.facts.profileSha256
        c.facts.compatibilitySha256
        c.attestation1.2 c.attestation2.2) 40 = .ok c.generation := by
  obtain ⟨_, hone, hevidence⟩ := bind_eq_ok.mp h.creates.evidence
  obtain ⟨_, htwo, hevidence⟩ := bind_eq_ok.mp hevidence
  obtain ⟨_, hgeneration, hevidence⟩ := bind_eq_ok.mp hevidence
  cases hevidence
  exact ⟨makeAttestation_made hone, makeAttestation_made htwo, outcome_eq_ok.mp hgeneration⟩

/-! ## Its admission -/

/-- An attestation as it is read. -/
@[irreducible] def attestationMembers (call : Call) (facts : CanaryFacts) (run : Nat) (log : Text) : Members :=
  (attestationDocument call facts run log).map fun m => (m.1, reread m.2)

@[irreducible] def receiptMembers (call : Call) (c : Creation) : Members :=
  (receiptDocument call c.facts c.generation c.library c.attestation1.2 c.attestation2.2).map fun m => (m.1, reread m.2)

theorem attestationMembers_eq (call : Call) (facts : CanaryFacts) (run : Nat) (log : Text) :
    attestationMembers call facts run log = (attestationDocument call facts run log).map fun m => (m.1, reread m.2) := by
  unfold attestationMembers
  rfl

theorem receiptMembers_eq (call : Call) (c : Creation) :
    receiptMembers call c =
      (receiptDocument call c.facts c.generation c.library c.attestation1.2 c.attestation2.2).map fun m => (m.1, reread m.2) := by
  unfold receiptMembers
  rfl

def factsOf (c : Creation) : ApprovalFacts where
  payload := c.facts.payload
  generation := c.generation
  fingerprint := c.facts.fingerprint
  profileSha256 := c.facts.profileSha256
  compatibilitySha256 := c.facts.compatibilitySha256

def runtimeOf (c : Creation) : RuntimeClaim where
  canarySha256 := c.facts.runtimeSha256
  sha256 := c.facts.runtimeSha256
  buildId := c.facts.runtimeBuildId

def admittedOf (call : Call) (c : Creation) (run : Nat) (attestation : Text × Text) (log : Text) : AdmittedAttestation where
  bytes := attestation.1
  attestation := attestationMembers call c.facts run log
  hash := attestation.2
  runId := canaryRunId call c.facts run

def admissionOf (call : Call) (c : Creation) (resolved : Text) (profile compatibility : Members) (log1 log2 : Text) :
    Admission where
  references :=
    { generation := c.generation
      receipt := assetPath (assetPath resolved approvals) (documentName c.facts.payload.payloadId c.generation)
      profile := assetPath (assetPath resolved hostAbiProfiles) (documentName c.facts.payload.payloadId c.generation)
      compatibility := assetPath (assetPath resolved compatibilityProfiles)
        (documentName c.facts.payload.payloadId c.generation) }
  documents := { receiptBytes := c.receipt, profileBytes := c.profile, compatibilityBytes := c.compatibility }
  receipt := receiptMembers call c
  profile
  compatibility
  facts := factsOf c
  runtime := runtimeOf c
  library := c.library
  first := admittedOf call c 1 c.attestation1 log1
  second := admittedOf call c 2 c.attestation2 log2

variable {log : Text}

include h in
/-- The text of an attestation, for both parsers. -/
theorem Approving.attestation_text (hrun : run < 10) (hmade : Made host call c.facts run attestation log) :
    system.parse attestation.1 = some (.object (attestationMembers call c.facts run log)) ∧
      parseObject host.lib attestation.1 = some (attestationMembers call c.facts run log) ∧
      attestation.1.length ≤ kMaximumReceiptBytes := by
  obtain ⟨hparse, hlength⟩ := dumpDocument_read h.writes (attestation_ordered run log) (attestation_values run hrun log)
    hmade.text
  rw [← attestationMembers_eq] at hparse
  have hbound := attestation_bound h.measured h.limits hrun (lowerHex_length hmade.hex)
  refine ⟨hparse, ?_, Nat.le_trans hlength hbound⟩
  unfold parseObject
  rw [h.sees.strict _ _ hparse]

include h in
theorem Approving.receipt_text :
    system.parse c.receipt = some (.object (receiptMembers call c)) ∧
      parseObject host.lib c.receipt = some (receiptMembers call c) ∧
      c.receipt.length ≤ kMaximumReceiptBytes := by
  obtain ⟨⟨_, hone⟩, ⟨_, htwo⟩, -⟩ := h.made
  obtain ⟨hparse, hlength⟩ := dumpDocument_read h.writes (receipt_ordered _ _ _ _) (receipt_values _ _ _ _) h.creates.receipt
  rw [← receiptMembers_eq] at hparse
  have hbound := receipt_bound h.measured h.limits (lowerHex_length h.generation) (h.limits.path _ h.creates.library)
    (hashText_full hone.hash).length (hashText_full htwo.hash).length
  refine ⟨hparse, ?_, Nat.le_trans hlength hbound⟩
  unfold parseObject
  rw [h.sees.strict _ _ hparse]

theorem receiptMembers_hashes (call : Call) (c : Creation) :
    findMember (receiptMembers call c) (ascii "canary_attestation_sha256") =
      some (.array [.string c.attestation1.2, .string c.attestation2.2]) := by
  have hmember : findMember (receiptDocument call c.facts c.generation c.library c.attestation1.2 c.attestation2.2)
      (ascii "canary_attestation_sha256") = some (.array [.string c.attestation1.2, .string c.attestation2.2]) :=
    receipt_field (by simp [receiptContents])
  rw [receiptMembers_eq, findMember_reread, hmember]
  rfl

include h in
theorem Approving.receipt_bound :
    ReceiptBound (receiptMembers call c) (factsOf c) c.library (runtimeOf c) := by
  have htext {name : String} {text : Text}
      (hmem : (name, .string text) ∈ receiptContents call c.facts c.generation c.library c.attestation1.2 c.attestation2.2) :
      valueText (receiptMembers call c) name = .ok text := by
    rw [receiptMembers_eq]
    exact valueText_reread (receipt_field hmem)
  have hint {name : String} {n : Nat} (hn : n < 2 ^ 31)
      (hmem : (name, .integer n) ∈ receiptContents call c.facts c.generation c.library c.attestation1.2 c.attestation2.2) :
      valueInt (receiptMembers call c) name = .ok n := by
    rw [receiptMembers_eq]
    exact valueInt_reread (receipt_field hmem) hn
  obtain ⟨hruntime, -⟩ := runtimeAndFingerprint_ok h.creates.runtime
  refine ⟨hint (n := 1) (by decide) (by simp [receiptContents]), ?_, ?_, ?_, ?_, ?_, ?_, ?_, ?_, ?_, hruntime, rfl,
    h.creates.buildId, ?_, hint (n := 2) (by decide) (by simp [receiptContents]), .string c.attestation1.2,
    .string c.attestation2.2, receiptMembers_hashes call c⟩ <;>
    exact htext (by simp [receiptContents, factsOf])

theorem recordedAttestation_receipt (call : Call) (c : Creation) :
    recordedAttestation (receiptMembers call c) 0 = some c.attestation1.2 ∧
      recordedAttestation (receiptMembers call c) 1 = some c.attestation2.2 := by
  unfold recordedAttestation
  rw [receiptMembers_hashes]
  exact ⟨rfl, rfl⟩

theorem attestationMembers_text {facts : CanaryFacts} {name : String}
    (hmem : (name, .string text) ∈ attestationContents call facts run log) :
    valueText (attestationMembers call facts run log) name = .ok text := by
  rw [attestationMembers_eq]
  exact valueText_reread (attestation_field hmem)

theorem attestation_bound_of_made {index : Nat} (hindex : index < 9)
    (hmade : Made host call c.facts (index + 1) attestation log)
    (hrecorded : recordedAttestation (receiptMembers call c) index = some attestation.2) :
    AttestationBound (attestationMembers call c.facts (index + 1) log) (receiptMembers call c) (factsOf c)
      (runtimeOf c) index attestation.2 := by
  have hschema : valueInt (attestationMembers call c.facts (index + 1) log) "schema_version" = .ok (1 : Nat) := by
    rw [attestationMembers_eq]
    exact valueInt_reread (attestation_field (by simp [attestationContents])) (by decide)
  have hrun : valueUnsigned 32 (attestationMembers call c.facts (index + 1) log) "run" = .ok (index + 1) := by
    rw [attestationMembers_eq]
    exact valueUnsigned_reread (attestation_field (by simp [attestationContents])) (by omega)
  refine ⟨hschema, ?_, ?_, hrun, ?_, ?_, ?_, ?_, ?_, ?_, ⟨log, ?_, hmade.hex⟩, hrecorded⟩ <;>
    exact attestationMembers_text (by simp [attestationContents, factsOf, runtimeOf])

include h in
theorem Approving.file {key : FileKey} {bytes : Bytes}
    (hf : (key, bytes) ∈ artifacts payload.payloadId c.generation c.profile c.compatibility c.attestation1.1
      c.attestation2.1 c.receipt) :
    Sealed (after.files key) bytes := h.holding.files (key, bytes) hf

include h in
theorem Approving.attests {index : Nat}
    (hindex : index < 9) (hmade : Made host call c.facts (index + 1) attestation log)
    (hfile : Sealed (after.files (.artifact approvals (attestationName payload.payloadId c.generation (index + 1))))
      attestation.1) (hrecorded : recordedAttestation (receiptMembers call c) index = some attestation.2) :
    Attests host later root after (receiptMembers call c) (factsOf c) (runtimeOf c) index
      (admittedOf call c (index + 1) attestation log) := by
  obtain ⟨-, hparsed, hlength⟩ := h.attestation_text (by omega) hmade
  have hrunId : valueText (attestationMembers call c.facts (index + 1) log) "run_id" =
      .ok (canaryRunId call c.facts (index + 1)) :=
    attestationMembers_text (by simp [attestationContents])
  have hsize : attestation.1.length ≤ 1024 * 1024 := Nat.le_trans hlength (by decide)
  rw [← h.creates.payload] at hfile
  exact ⟨readArtifact_of_sealed h.quiet hfile hsize, hparsed, hmade.hash, hrunId,
    attestationUnbound_eq_false.mpr (attestation_bound_of_made hindex hmade hrecorded)⟩

theorem canaryRunId_ne (call : Call) (facts : CanaryFacts) : canaryRunId call facts 1 ≠ canaryRunId call facts 2 := by
  intro hsame
  unfold canaryRunId at hsame
  simp only [List.append_assoc] at hsame
  have hrest := List.append_cancel_left (List.append_cancel_left hsame)
  have hdigit := List.append_inj_left hrest (by decide)
  revert hdigit
  decide

include h in
theorem Approving.slashless :
    Slashless (documentName payload.payloadId c.generation) := slashless_documentName h.identified.slashless h.generation

include h in
theorem Approving.references (hroot : call.canonical root = some resolved)
    (hunlinked : ∀ directory ∈ artifactDirectories, ∀ name bytes, Slashless name →
      Sealed (after.files (.artifact directory name)) bytes →
      call.canonical (artifactPath root directory name) = some (assetPath (assetPath resolved directory) name))
    {profile compatibility : Members} {log1 log2 : Text} :
    ∃ members, parseObject host.lib activation = some members ∧
      readReferences later root members payload.payloadId =
        .ok (admissionOf call c resolved profile compatibility log1 log2).references := by
  obtain ⟨members, hmembers, happroval, hprofile, hcompatibility⟩ := h.activates
  have hresolves {directory : Text} {bytes : Bytes} (hdirectory : directory ∈ artifactDirectories)
      (hfile : Sealed (after.files (.artifact directory (documentName payload.payloadId c.generation))) bytes) :
      Resolves later root directory (documentName payload.payloadId c.generation)
        (assetPath (assetPath resolved directory) (documentName payload.payloadId c.generation)) := by
    refine resolves_of_unlinked ?_ h.slashless ?_
    · rw [h.canonical]
      exact hroot
    · rw [h.canonical]
      exact hunlinked directory hdirectory _ bytes h.slashless hfile
  refine ⟨members, hmembers, readReferences_eq_ok.mpr ?_⟩
  unfold admissionOf
  rw [h.creates.payload]
  exact ⟨happroval, hprofile, hcompatibility, h.generation,
    hresolves (by simp [artifactDirectories]) (h.file (show (_, c.receipt) ∈ _ by simp [artifacts])),
    hresolves (by simp [artifactDirectories]) (h.file (show (_, c.profile) ∈ _ by simp [artifacts])),
    hresolves (by simp [artifactDirectories]) (h.file (show (_, c.compatibility) ∈ _ by simp [artifacts]))⟩

include h in
theorem Approving.documents {references : ApprovalReferences} (hgeneration : references.generation = c.generation) :
    readDocuments later after payload.payloadId references =
      .ok { receiptBytes := c.receipt, profileBytes := c.profile, compatibilityBytes := c.compatibility } := by
  obtain ⟨-, -, hreceipt⟩ := h.receipt_text
  obtain ⟨hprofile, hcompatibility, -⟩ := readCandidate_bytes h.creates.read
  have hread {directory path : Text} {bytes : Bytes} (hsize : bytes.length ≤ 1024 * 1024)
      (hmem : (FileKey.artifact directory (documentName payload.payloadId c.generation), bytes) ∈
        artifacts payload.payloadId c.generation c.profile c.compatibility c.attestation1.1 c.attestation2.1 c.receipt) :
      readArtifact later .validation path true
        (after.files (.artifact directory (documentName payload.payloadId references.generation))) =
        .ok bytes := by
    rw [hgeneration]
    exact readArtifact_of_sealed h.quiet (h.file hmem) hsize
  unfold readDocuments
  dsimp only
  rw [hread (Nat.le_trans hreceipt (by decide)) (by simp [artifacts]), hread (readArtifact_size hprofile) (by simp [artifacts]),
    hread (readArtifact_size hcompatibility) (by simp [artifacts])]
  rfl

include h in
/-- The store's validator accepts what was created. -/
theorem Approving.admits :
    ∃ a, Admits host later root after activation payload a ∧ a.references.generation = c.generation := by
  obtain ⟨resolved, hroot, hunlinked⟩ := h.unlinked
  obtain ⟨⟨log1, hone⟩, ⟨log2, htwo⟩, hgeneration⟩ := h.made
  obtain ⟨-, -, profile, compatibility, hprofile, hcompatibility, hbinding⟩ := readCandidate_bytes h.creates.read
  obtain ⟨-, hfingerprint⟩ := runtimeAndFingerprint_ok h.creates.runtime
  obtain ⟨-, hreceipt, -⟩ := h.receipt_text
  obtain ⟨hrecorded1, hrecorded2⟩ := recordedAttestation_receipt call c
  have hpayload : payloadAt after payload.payloadId = payloadAt before payload.payloadId := by
    unfold payloadAt
    rw [h.holding.entries]
  have hfacts : approvalFacts host later root after payload c.generation
      { receiptBytes := c.receipt, profileBytes := c.profile, compatibilityBytes := c.compatibility } = .ok (factsOf c) := by
    refine approvalFacts_eq_ok.mpr ⟨h.creates.payload, rfl, ?_, h.creates.profileSha256, h.creates.compatibilitySha256⟩
    rw [hpayload]
    exact payloadRuntimeFingerprint_later h.quiet hfingerprint
  have hruntime : readRuntimeClaim (receiptMembers call c) = .ok (runtimeOf c) := by
    rw [readRuntimeClaim_eq_ok, receiptMembers_eq]
    exact ⟨valueText_reread (receipt_field (by simp [receiptContents, runtimeOf])),
      valueText_reread (receipt_field (by simp [receiptContents, runtimeOf])),
      valueText_reread (receipt_field (by simp [receiptContents, runtimeOf]))⟩
  have hfirst := h.attests (show 0 < 9 by omega) hone (h.file (by simp [artifacts])) hrecorded1
  have hsecond := h.attests (show 1 < 9 by omega) htwo (h.file (by simp [artifacts])) hrecorded2
  refine ⟨admissionOf call c resolved profile compatibility log1 log2,
    ⟨h.references hroot hunlinked, h.documents rfl, hreceipt, hprofile,
    hcompatibility, hbinding, hfacts, hruntime, ?_, receiptUnbound_eq_false.mpr h.receipt_bound, hfirst, hsecond, ?_,
    hgeneration⟩, rfl⟩
  · rw [h.canonical]
    exact h.creates.library
  · have hne : canaryRunId call c.facts 1 ≠ [] := by simp [canaryRunId, ascii]
    exact fun hsame => hsame.elim hne (canaryRunId_ne call c.facts)

theorem readRequiredSize_reread {members : Members} {name : String} {maximum n : Nat} (hn : n ≤ maximum)
    (h : findMember members (ascii name) = some (.integer n) ∨ findMember members (ascii name) = some (.unsigned n)) :
    readRequiredSize (members.map fun m => (m.1, reread m.2)) name maximum = some n := by
  have hread : readSize maximum (.unsigned n) = some n := if_neg (by omega)
  unfold readRequiredSize
  rw [findMember_reread]
  rcases h with h | h
  · rw [h]
    exact hread
  · rw [h]
    exact hread

include h in
theorem Approving.attestation_strict (hrun : run ∈ [1, 2]) (hmade : Made host call c.facts run attestation log)
    (hfile : Sealed (after.files (.artifact approvals (attestationName payload.payloadId c.generation run))) attestation.1) :
    StrictDocument system (after.files (.artifact approvals (attestationName payload.payloadId c.generation run)))
      (ExactAttestation payload.payloadId run) := by
  have hle : run ≤ 2 := by
    simp only [List.mem_cons, List.not_mem_nil, or_false] at hrun
    omega
  obtain ⟨hparse, -, hlength⟩ := h.attestation_text (by omega) hmade
  refine ⟨attestation.1, _, hfile.bytes, hlength, hparse, ?_, ?_, canaryRunId call c.facts run, ?_, ?_⟩
  · rw [attestationMembers_eq]
    exact readRequiredSize_reread (by omega) (.inl (attestation_field (by simp [attestationContents])))
  · rw [attestationMembers_eq]
    exact readRequiredSize_reread hle (.inr (attestation_field (by simp [attestationContents])))
  · refine readRequiredString_of_value (attestationMembers_text (by simp [attestationContents])) ?_
    simp [canaryRunId, ascii]
  · rw [← h.creates.payload]
    exact canaryRunId_valid call c.facts run

include h in
theorem Approving.loadable : Loadable system after payload.payloadId c.generation := by
  obtain ⟨⟨log1, hone⟩, ⟨log2, htwo⟩, -⟩ := h.made
  obtain ⟨hparse, -, hlength⟩ := h.receipt_text
  have hfile : Sealed (after.files (.artifact approvals (documentName payload.payloadId c.generation))) c.receipt :=
    h.file (by simp [artifacts])
  constructor
  · refine ⟨c.receipt, _, hfile.bytes, hlength, hparse, ?_, ?_⟩
    · rw [receiptMembers_eq]
      exact readRequiredSize_reread (by omega) (.inl (receipt_field (by simp [receiptContents])))
    · rw [receiptMembers_eq]
      exact readRequiredSize_reread (by omega) (.inl (receipt_field (by simp [receiptContents])))
  · intro run hrun
    have hcases := hrun
    simp only [List.mem_cons, List.not_mem_nil, or_false] at hcases
    rcases hcases with rfl | rfl
    · exact h.attestation_strict hrun hone (h.file (by simp [artifacts]))
    · exact h.attestation_strict hrun htwo (h.file (by simp [artifacts]))

end

/-- What `CreateCandidateApproval` approves, the store's validator accepts and the loader loads. -/
theorem approved_loads (system : System) (host : Host) (call later : Call) (root : Text) (disk : Disk)
    (candidate : Candidate) (runtimePath : Text)
    (payload : PayloadIntegrity) (activation : Text) (result : CandidateApprovalResult) (log : List StoreEffect)
    (hcreate : createCandidateApproval host call root candidate (payloadPath root payload.payloadId) runtimePath
      (payloadAt disk payload.payloadId) payload disk = (.ok result, log)) (hsucceeded : result.succeeded = true)
    (hpayload : ∃ directory, inspectPreparedPayload host.lib host.abi directory = .ok payload)
    (hactivation : Activates host.lib activation payload.payloadId result.generation) (hquiet : later.Quiet)
    (hcanonical : later.canonical = call.canonical)
    (hlimits : Limits call (assetPath (payloadPath root payload.payloadId) (ascii "libroblox.so")))
    (hunlinked : Unlinked call root (log.foldl Disk.act disk))
    (hsees : SeesStore system host later root (log.foldl Disk.act disk)) (hwrites : WritesDocuments host.lib.dump system.parse) :
    ∃ approval, validateCandidateApproval host later root (log.foldl Disk.act disk) activation payload = .ok approval ∧
      approval.generation = result.generation ∧ validateReceipt system (loadRequest system root payload approval) = .ok () := by
  have hhead : payload.payloadId.head? ≠ some 0x2e := by
    obtain ⟨directory, hinspected⟩ := hpayload
    have hidentified := inspectPreparedPayload_identified hinspected
    exact hidentified.head_ne
  have hgives := createCandidateApproval_gives hhead disk rfl result (congrArg Prod.fst hcreate) hsucceeded
  rw [hcreate] at hgives
  obtain ⟨c, hcreates, hgeneration, hholding⟩ := hgives
  rw [← hgeneration] at hactivation
  have happroving : Approving system host call later root disk (log.foldl Disk.act disk) candidate runtimePath payload
      activation c :=
    ⟨hcreates, hholding, hpayload, hactivation, hquiet, hcanonical, hlimits, hunlinked, hsees, hwrites⟩
  obtain ⟨a, hadmits, hsame⟩ := happroving.admits
  have hagreement : Agreement system host later root (log.foldl Disk.act disk) activation payload a :=
    ⟨hsees, happroving.identified, hadmits⟩
  refine ⟨a.result, validateCandidateApproval_eq_ok.mpr ⟨a, hadmits, rfl⟩, hsame.trans hgeneration, hagreement.loads_iff.mpr ?_⟩
  rw [hsame]
  exact happroving.loadable

/-! ## A small approval, created -/

def createdDigests : List Bytes :=
  [[186, 23, 71, 148, 24, 45, 17, 66, 67, 245, 116, 25, 211, 163, 168, 221, 218, 225, 82, 41, 214, 44,
    63, 74, 79, 61, 141, 2, 68, 166, 83, 250],
   [84, 199, 210, 99, 120, 159, 108, 127, 217, 146, 104, 246, 222, 16, 117, 207, 155, 26, 89, 32, 168, 29,
    117, 77, 248, 239, 68, 220, 238, 142, 87, 64],
   [31, 185, 213, 129, 255, 0, 124, 59, 35, 118, 6, 148, 84, 178, 40, 219, 24, 127, 45, 183, 175, 115,
    208, 79, 174, 241, 143, 120, 222, 172, 130, 155]]

def createdDigest (i : Nat) : Text := hex (createdDigests[i]?.getD [])

def createdGeneration : Text := (createdDigest 2).take 40

/-- The runtime and the logs of the canaries are files of one byte. -/
def createdFacts : CanaryFacts where
  payload := smallIdentity
  fingerprint := evidenceDigest 1
  profileSha256 := evidenceDigest 2
  compatibilitySha256 := evidenceDigest 3
  runtimeSha256 := smallHash 0
  runtimeBuildId := smallRuntimeBuildId

def creatingCall : Call :=
  { quietCall with
    canonical := rooted
    runtime := .regular [1]
    runtimeBuildId := .ok smallRuntimeBuildId
    utcTimestamp := ascii "2026-01-01T00:00:00Z" }

def createdDocuments : List Members :=
  [attestationDocument creatingCall createdFacts 1 (smallHash 1), attestationDocument creatingCall createdFacts 2 (smallHash 2),
   receiptDocument creatingCall createdFacts createdGeneration (ascii "/s/payloads/" ++ smallId ++ ascii "/libroblox.so")
     (createdDigest 0)
     (createdDigest 1)]

def createdActivation : Members :=
  [(ascii "approval_path", .string (approvals ++ ascii "/" ++ documentName smallId createdGeneration)),
   (ascii "compatibility_manifest_path", .string (compatibilityProfiles ++ ascii "/" ++ documentName smallId createdGeneration)),
   (ascii "host_abi_profile_path", .string (hostAbiProfiles ++ ascii "/" ++ documentName smallId createdGeneration))]

def creatingHost : Host where
  sha256 := tableSha256 (evidenceHashes ++
    [(prettyText (attestationDocument creatingCall createdFacts 1 (smallHash 1)) ++ [0x0a], createdDigests[0]?.getD []),
     (prettyText (attestationDocument creatingCall createdFacts 2 (smallHash 2)) ++ [0x0a], createdDigests[1]?.getD []),
     (generationEvidence smallRuntimeBuildId (evidenceDigest 1) (evidenceDigest 2) (evidenceDigest 3) (createdDigest 0)
       (createdDigest 1), createdDigests[2]?.getD [])])
  lib := prettyLibrary [createdActivation, smallProfile, smallCompatibility, jsonMembers (smallMetadata (ascii "then"))]
    createdDocuments
  abi := guestX8664

def smallCandidate : Candidate where
  profilePath := ascii "/c/profile.json"
  profile := some (.data (compactText smallProfile) newFile true)
  compatibilityPath := ascii "/c/compatibility.json"
  compatibility := some (.data (compactText smallCompatibility) newFile true)
  log1Path := ascii "/c/1.log"
  log1 := .regular [2]
  log2Path := ascii "/c/2.log"
  log2 := .regular [3]

def creatingRun (call : Call) : Outcome CandidateApprovalResult × List StoreEffect :=
  createCandidateApproval creatingHost call (ascii "/s") smallCandidate (payloadPath (ascii "/s") smallIdentity.payloadId)
    (ascii "/r/mocktail")
    (payloadAt (smallDisk []) smallIdentity.payloadId) smallIdentity (smallDisk [])

def createdApproval : CandidateApprovalResult where
  generation := createdGeneration
  receipt := ascii "/s/approvals/" ++ documentName smallId createdGeneration
  profile := ascii "/s/host_abi_profiles/" ++ documentName smallId createdGeneration
  compatibilityManifest := ascii "/s/compatibility_profiles/" ++ documentName smallId createdGeneration

def createdDisk (call : Call) : Disk := (creatingRun call).2.foldl Disk.act (smallDisk [])

/-- `approvals` is a link to a directory outside the store. -/
def linked (path : Text) : Option Text :=
  if (ascii "/s/approvals/").isPrefixOf path then some (ascii "/elsewhere/" ++ path.drop (ascii "/s/approvals/").length)
    else rooted path

def linkedCall : Call := { creatingCall with canonical := linked }

/-- What the two creations return, what the store reads before them, and what its validator says after the second. -/
theorem creatingHost_facts :
    (((parseObject creatingHost.lib (compactText createdActivation)).map fun members =>
        (valueText members "approval_path", valueText members "host_abi_profile_path",
          valueText members "compatibility_manifest_path")) =
      some (.ok (approvals ++ ascii "/" ++ documentName smallId createdGeneration),
        .ok (hostAbiProfiles ++ ascii "/" ++ documentName smallId createdGeneration),
        .ok (compatibilityProfiles ++ ascii "/" ++ documentName smallId createdGeneration)) ∧
      inspectPreparedPayload creatingHost.lib creatingHost.abi (smallPayload (ascii "then")) = .ok smallIdentity) ∧
    ((createdDocuments.map fun members => prettyText members ++ [0x0a]).Nodup ∧
      ∀ members ∈ createdDocuments, (prettyText members).length ≤ documentBound members) ∧
    createdApproval.succeeded = true ∧
    (creatingRun creatingCall).1 = .ok createdApproval ∧ (creatingRun linkedCall).1 = .ok createdApproval ∧
    validateCandidateApproval creatingHost { quietCall with canonical := linked } (ascii "/s") (createdDisk linkedCall)
      (compactText createdActivation) smallIdentity = .error (.error (ascii "approval reference cannot be resolved safely")) := by
  decide +kernel

theorem createdActivation_activates : Activates creatingHost.lib (compactText createdActivation) smallId createdGeneration := by
  obtain ⟨members, hmembers, hvalues⟩ := Option.map_eq_some_iff.mp creatingHost_facts.1.1
  injection hvalues with happroval hvalues
  injection hvalues with hprofile hcompatibility
  exact ⟨members, hmembers, happroval, hprofile, hcompatibility⟩

theorem rooted_unlinked {call : Call} (hcall : call.canonical = rooted) (disk : Disk) : Unlinked call (ascii "/s") disk := by
  refine ⟨ascii "/s", by rw [hcall]; decide, ?_⟩
  intro directory _ name _ _ _
  have hpath : artifactPath (ascii "/s") directory name = assetPath (assetPath (ascii "/s") directory) name := by
    simp [artifactPath, assetPath]
  rw [hcall, hpath]
  exact if_pos rfl

/-- An approval from its creation to its load. -/
theorem approved_loads_small :
    ∃ approval, validateCandidateApproval creatingHost rootedCall (ascii "/s") (createdDisk creatingCall)
      (compactText createdActivation) smallIdentity =
        .ok approval ∧ approval.generation = createdGeneration ∧
      validateReceipt (storeSystem creatingHost (ascii "/s") (createdDisk creatingCall))
        (loadRequest (storeSystem creatingHost (ascii "/s") (createdDisk creatingCall)) (ascii "/s") smallIdentity approval) =
          .ok () := by
  obtain ⟨⟨-, hinspects⟩, ⟨hdistinct, hbound⟩, hsucceeded, hcreate, -⟩ := creatingHost_facts
  have hlimits : Limits creatingCall (assetPath (payloadPath (ascii "/s") smallIdentity.payloadId) (ascii "libroblox.so")) := by
    refine ⟨?_, by decide, by decide⟩
    intro found hfound
    have hrooted : rooted (assetPath (payloadPath (ascii "/s") smallIdentity.payloadId) (ascii "libroblox.so")) =
        some found := hfound
    rw [(rooted_eq hrooted).1]
    decide
  have hwrites : WritesDocuments creatingHost.lib.dump creatingHost.lib.parse := prettyLibrary_writes hdistinct hbound
  exact approved_loads (storeSystem creatingHost (ascii "/s") (createdDisk creatingCall)) creatingHost creatingCall
    rootedCall (ascii "/s")
    (smallDisk []) smallCandidate (ascii "/r/mocktail") smallIdentity (compactText createdActivation) createdApproval
      (creatingRun creatingCall).2
    (Prod.ext hcreate rfl) hsucceeded ⟨_, hinspects⟩ createdActivation_activates (fun _ => rfl) rfl hlimits
    (rooted_unlinked rfl _) (storeSystem_sees _ _ _ _ rfl) hwrites

/-- What was approved through a link, the store's validator refuses. -/
theorem linked_approval_refused :
    (creatingRun linkedCall).1 = .ok createdApproval ∧ createdApproval.succeeded = true ∧
      inspectPreparedPayload creatingHost.lib creatingHost.abi (smallPayload (ascii "then")) = .ok smallIdentity ∧
      Activates creatingHost.lib (compactText createdActivation) smallId createdGeneration ∧
      validateCandidateApproval creatingHost { quietCall with canonical := linked } (ascii "/s") (createdDisk linkedCall)
        (compactText createdActivation) smallIdentity =
          .error (.error (ascii "approval reference cannot be resolved safely")) := by
  obtain ⟨⟨-, hinspects⟩, -, hsucceeded, -, hcreate, hrefused⟩ := creatingHost_facts
  exact ⟨hcreate, hsucceeded, hinspects, createdActivation_activates, hrefused⟩

end Mocktail.Compat

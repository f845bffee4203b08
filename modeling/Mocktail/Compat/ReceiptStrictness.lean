/-
  Mocktail.Compat.ReceiptStrictness — approvals of the store that the loader refuses.

  The store and the loader read the same receipt and attestations. The store lets a number be
  cast, a document have comments and 1 MiB, and a run ID be any text; the loader does not. That
  is the whole difference: an approval that the store accepts is loaded if and only if the
  three documents are `Loadable`.
-/

import Mocktail.Compat.ApprovalReceipt
import Mocktail.Update.ApprovalAdmission

namespace Mocktail.Compat

open Mocktail.Lib Mocktail.Launch Mocktail.Update

/-! ## What the loader finds of a store -/

def artifactDirectories : List Text := [approvals, hostAbiProfiles, compatibilityProfiles]

/-- A file of the store as the loader finds it. -/
def Shows (node : Node) (bytes : Bytes) (access : Access) : Prop :=
  ∃ permissions, node = .regular permissions bytes.length (.bytes bytes) ∧
    (access.foreign = false → permissions.owned = true ∧ permissions.othersWrite = false) ∧
    permissions.ownerWrites = access.writable

structure SeesStore (system : System) (host : Host) (call : Call) (root : Text) (disk : Disk) : Prop where
  sha256 : system.sha256 = host.sha256
  canonical : system.canonical = call.canonical
  /-- What is read without comments is read with them. -/
  strict : ∀ text json, system.parse text = some json → host.lib.parse text = some json
  absolute : ∀ path found, call.canonical path = some found → found.head? = some 0x2f
  /-- A directory that a path resolves into is no link, and its files are the store's. -/
  node : ∀ path found resolved directory name bytes access synced, call.canonical root = some resolved →
    call.canonical path = some found →
    directory ∈ artifactDirectories → parentPath found = assetPath resolved directory → Slashless name →
    disk.files (.artifact directory name) = some (.data bytes access synced) →
    Shows (system.node (assetPath (assetPath resolved directory) name)) bytes access
  /-- A regular file in a directory that a path resolves into resolves to itself. -/
  beside : ∀ path found name permissions size contents, call.canonical path = some found → Slashless name →
    system.node (assetPath (parentPath found) name) = .regular permissions size contents →
    call.canonical (assetPath (parentPath found) name) = some (assetPath (parentPath found) name)

variable {bytes : Bytes} {members : Members} {path : Text}

section
variable {system : System} {host : Host} {call : Call} {root : Text} {disk : Disk}

/-- A reference as the loader finds it. -/
theorem SeesStore.reference (hsees : SeesStore system host call root disk) {directory name found : Text}
    (hdirectory : directory ∈ artifactDirectories) (hname : Slashless name) (hresolves : Resolves call root directory name found)
    (hfile : Sealed (disk.files (.artifact directory name)) bytes) :
    Shows (system.node found) bytes { foreign := false, writable := false } ∧ fileName found = name ∧ ∃ resolved,
      call.canonical root = some resolved ∧ parentPath found = assetPath resolved directory := by
  obtain ⟨resolved, hroot, hfound, hparent, hfile_name⟩ := hresolves
  have hfileName : fileName (directory ++ ascii "/" ++ name) = name := fileName_assetPath hname
  rw [hfileName] at hfile_name
  obtain ⟨synced, hfile⟩ := hfile
  have hshows := hsees.node _ _ _ _ _ _ _ _ hroot hfound hdirectory hparent hname hfile
  have hdirectory_ne : 1 ≤ directory.length := by
    simp only [artifactDirectories, List.mem_cons, List.not_mem_nil, or_false] at hdirectory
    rcases hdirectory with rfl | rfl | rfl <;> decide
  have hlong : 2 ≤ (assetPath resolved directory).length := by
    simp only [assetPath, ascii, List.length_append, List.length_map]
    simp
    omega
  have hpath := path_eq hparent hlong
  rw [hfile_name] at hpath
  rw [← hpath] at hshows
  exact ⟨hshows, hfile_name, resolved, hroot, hparent⟩

/-! ## Reading a sealed file -/

theorem readSmallRegularFile_sealed {maximum : Nat}
    (h : Shows (system.node path) bytes { foreign := false, writable := false }) :
    readSmallRegularFile system path maximum true =
      if maximum < bytes.length then .error (ascii "file exceeds the accepted size limit: " ++ path) else .ok bytes := by
  obtain ⟨permissions, hnode, hforeign, hwritable⟩ := h
  obtain ⟨howned, hothers⟩ := hforeign rfl
  simp only at hwritable
  simp [readSmallRegularFile, hnode, howned, hothers, hwritable]

theorem parseJsonFile_sealed {bytes bytes' : Bytes} {maximum : Nat}
    (h : Shows (system.node path) bytes { foreign := false, writable := false }) :
    parseJsonFile system path maximum true = .ok (bytes', members) ↔
      bytes' = bytes ∧ bytes.length ≤ maximum ∧ system.parse bytes = some (.object members) := by
  unfold parseJsonFile
  rw [readSmallRegularFile_sealed h]
  by_cases hsize : maximum < bytes.length
  · rw [if_pos hsize]
    constructor
    · intro hread
      cases hread
    · intro hread
      omega
  · rw [if_neg hsize]
    dsimp only
    split
    · rename_i found hparse
      simp only [Except.ok.injEq, Prod.mk.injEq, hparse, Option.some.injEq, Json.object.injEq]
      constructor
      · intro hread
        exact ⟨hread.1.symm, by omega, hread.2⟩
      · intro hread
        exact ⟨hread.1.symm, hread.2.2⟩
    · rename_i hparse
      constructor
      · intro hread
        cases hread
      · intro hread
        exact absurd hread.2.2 (hparse members)

theorem SeesStore.parse (hsees : SeesStore system host call root disk) {members found : Members}
    (h : system.parse bytes = some (.object members)) (hfound : parseObject host.lib bytes = some found) : members = found := by
  unfold parseObject at hfound
  rw [hsees.strict _ _ h] at hfound
  cases hfound
  rfl

variable {digits : Text}

theorem SeesStore.sha256Hex (hsees : SeesStore system host call root disk) (h : HexOf host.sha256 bytes digits) :
    computeSha256Hex system bytes 0 = digits := by
  obtain ⟨hash, hhash, -, rfl⟩ := h
  simp [computeSha256Hex, hsees.sha256, hhash]

theorem SeesStore.sha256Short (hsees : SeesStore system host call root disk)
    (h : hashText host.sha256 bytes 40 = .ok digits) : computeSha256Hex system bytes 40 = digits := by
  unfold hashText at h
  split at h
  · rename_i found hfound
    obtain ⟨hash, hhash, -, rfl⟩ := finalHex_some hfound
    cases h
    simp [computeSha256Hex, hsees.sha256, hhash]
  · cases h

theorem SeesStore.fileSha256 (hsees : SeesStore system host call root disk) {access : Access}
    (hshows : Shows (system.node path) bytes access) (h : HexOf host.sha256 bytes digits) :
    computeFileSha256 system path = some digits := by
  obtain ⟨hash, hhash, -, rfl⟩ := h
  obtain ⟨permissions, hnode, -⟩ := hshows
  simp [computeFileSha256, hnode, hsees.sha256, hhash]

end

/-! ## Fields -/

theorem readRequiredString_of_value {name : String} {text : Text} (h : valueText members name = .ok text) (hne : text ≠ []) :
    readRequiredString members name = some text := by
  unfold valueText valueOr at h
  unfold readRequiredString
  cases hmember : findMember members (ascii name) with
  | none =>
    rw [hmember] at h
    cases h
    exact absurd rfl hne
  | some value =>
    rw [hmember] at h
    cases value with
    | string found =>
      cases h
      rfl
    | _ => cases h

theorem valueText_of_required {name : String} {text : Text} (h : readRequiredString members name = some text) :
    valueText members name = .ok text := by
  unfold readRequiredString at h
  unfold valueText valueOr
  split at h
  · rename_i found hfound
    cases h
    rw [hfound]
  · cases h

theorem lowerHex_ne {value : Text} {size : Nat} (h : lowerHex value size = true) (hsize : 0 < size) : value ≠ [] := by
  intro hnil
  have hlength := lowerHex_length h
  rw [hnil] at hlength
  exact absurd hlength (by simp; omega)

/-! ## What the loader asks for beyond the store -/

/-- What the loader knows of an approval of the store. -/
def loadRequest (system : System) (root : Text) (payload : PayloadIntegrity) (approval : CandidateApprovalResult) :
    ReceiptRequest where
  receiptPath := approval.receipt
  canonicalPayloadPath := (system.canonical (assetPath (payloadPath root payload.payloadId) (ascii "libroblox.so"))).getD []
  payloadSha256 := payload.metadata.librarySha256
  profileSha256 := (computeFileSha256 system approval.profile).getD []
  payloadId := payload.payloadId
  buildId := payload.metadata.buildId
  compatibilityManifestPath := approval.compatibilityManifest

/-- A document without comments of at most 64 KiB. -/
def StrictDocument (system : System) (file : Option StoreFile) (good : Members → Prop) : Prop :=
  ∃ bytes members, fileBytes file = some bytes ∧ bytes.length ≤ kMaximumReceiptBytes ∧
    system.parse bytes = some (.object members) ∧ good members

def ExactReceipt (receipt : Members) : Prop :=
  readRequiredSize receipt "schema_version" 1 = some 1 ∧ readRequiredSize receipt "successful_runs" 2 = some 2

def ExactAttestation (payloadId : Text) (run : Nat) (attestation : Members) : Prop :=
  readRequiredSize attestation "schema_version" 1 = some 1 ∧ readRequiredSize attestation "run" 2 = some run ∧
    ∃ runId, readRequiredString attestation "run_id" = some runId ∧ validateCanaryRunId runId payloadId run = true

structure Loadable (system : System) (disk : Disk) (payloadId generation : Text) : Prop where
  receipt : StrictDocument system (disk.files (.artifact approvals (documentName payloadId generation))) ExactReceipt
  attestation : ∀ run ∈ [1, 2],
    StrictDocument system (disk.files (.artifact approvals (attestationName payloadId generation run)))
      (ExactAttestation payloadId run)

/-! ## An admitted approval at load time -/

/-- What the loader reads from an admitted receipt. -/
def receiptFieldsOf (a : Admission) : ReceiptFields where
  generation := a.facts.generation
  runtimeBuildId := a.runtime.buildId
  runtimeSha256 := a.runtime.canarySha256
  manifestSha256 := a.facts.compatibilitySha256
  payloadFingerprint := a.facts.fingerprint

def attestationFactsOf (a : Admission) : AttestationFacts where
  payloadId := a.facts.payload.payloadId
  payloadFingerprint := a.facts.fingerprint
  profileSha256 := a.facts.profileSha256
  compatibilityManifestSha256 := a.facts.compatibilitySha256
  runtimeSha256 := a.runtime.canarySha256
  runtimeBuildId := a.runtime.buildId

section
variable {system : System} {host : Host} {call : Call} {root : Text} {disk : Disk} {activation : Text}
  {payload : PayloadIntegrity} {a : Admission}

/-- The texts an admitted approval is compared by are never empty. -/
structure Filled (a : Admission) : Prop where
  payloadId : a.facts.payload.payloadId ≠ []
  generation : lowerHex a.facts.generation 40 = true
  library : a.library ≠ []
  buildId : a.facts.payload.metadata.buildId ≠ []
  librarySha256 : a.facts.payload.metadata.librarySha256 ≠ []
  fingerprint : lowerHex a.facts.fingerprint 64 = true
  profileSha256 : a.facts.profileSha256 ≠ []
  compatibilitySha256 : a.facts.compatibilitySha256 ≠ []

theorem receiptFields_admitted (hfilled : Filled a) (hbound : ReceiptBound a.receipt a.facts a.library a.runtime)
    (hruntime : readRuntimeClaim a.receipt = .ok a.runtime) {request : ReceiptRequest}
    (hlibrary : request.canonicalPayloadPath = a.library)
    (hpayload : request.payloadSha256 = a.facts.payload.metadata.librarySha256)
    (hprofile : request.profileSha256 = a.facts.profileSha256)
    (hid : request.payloadId = a.facts.payload.payloadId) (hbuildId : request.buildId = a.facts.payload.metadata.buildId)
    {fields : ReceiptFields} : receiptFields a.receipt request = some fields ↔ ExactReceipt a.receipt ∧
      fields = receiptFieldsOf a := by
  obtain ⟨hcanary, hsha, hruntimeId⟩ := readRuntimeClaim_eq_ok.mp hruntime
  have hcanaryNe := lowerHex_ne hbound.canaryRuntime (by decide)
  have hgeneration := readRequiredString_of_value hbound.generation (lowerHex_ne hfilled.generation (by decide))
  have hruntimeBuildId := readRequiredString_of_value hruntimeId (lowerHex_ne hbound.runtimeBuildId (by decide))
  have hcanarySha := readRequiredString_of_value hcanary hcanaryNe
  have hruntimeSha := readRequiredString_of_value hsha (hbound.sameRuntime ▸ hcanaryNe)
  have hmanifest := readRequiredString_of_value hbound.compatibilitySha256 hfilled.compatibilitySha256
  have hfingerprint := readRequiredString_of_value hbound.fingerprint (lowerHex_ne hfilled.fingerprint (by decide))
  have hstatus := readRequiredString_of_value hbound.status (by decide)
  have htier := readRequiredString_of_value hbound.tier (by decide)
  have hpayloadId := readRequiredString_of_value hbound.payloadId hfilled.payloadId
  have helf := readRequiredString_of_value hbound.buildId hfilled.buildId
  have hpath := readRequiredString_of_value hbound.path hfilled.library
  have hlibrarySha := readRequiredString_of_value hbound.librarySha256 hfilled.librarySha256
  have hprofileSha := readRequiredString_of_value hbound.profileSha256 hfilled.profileSha256
  unfold receiptFields
  rw [hgeneration, hruntimeBuildId, hcanarySha, hmanifest, hfingerprint]
  simp only [Option.bind_eq_bind, Option.bind_some, hstatus, htier, hpayloadId, helf, hpath, hlibrarySha, hprofileSha,
    hruntimeSha, hlibrary,
    hpayload, hprofile, hid, hbuildId, hfilled.generation, hfilled.fingerprint, hbound.canaryRuntime, hbound.runtimeBuildId,
    hbound.sameRuntime, true_and, and_true]
  by_cases hexact : ExactReceipt a.receipt
  · have hif : readRequiredSize a.receipt "schema_version" 1 = some 1 ∧
        readRequiredSize a.receipt "successful_runs" 2 = some 2 := hexact
    rw [if_pos hif]
    simp only [Option.some.injEq, hexact, true_and]
    exact eq_comm
  · have hif : ¬ (readRequiredSize a.receipt "schema_version" 1 = some 1 ∧
        readRequiredSize a.receipt "successful_runs" 2 = some 2) := hexact
    rw [if_neg hif]
    simp [hexact]

variable {index : Nat}

theorem attestedRun_admitted (hfilled : Filled a) (hreceipt : ReceiptBound a.receipt a.facts a.library a.runtime)
    {attestation : Members} {hash : Text} (hbound : AttestationBound attestation a.receipt a.facts a.runtime index hash)
    {runId : Text} :
    attestedRun attestation (index + 1) (attestationFactsOf a) = some runId ↔
      readRequiredSize attestation "schema_version" 1 = some 1 ∧ readRequiredSize attestation "run" 2 = some (index + 1) ∧
        readRequiredString attestation "run_id" = some runId ∧
        validateCanaryRunId runId a.facts.payload.payloadId (index + 1) = true := by
  have hstatus := readRequiredString_of_value hbound.status (by decide)
  have htier := readRequiredString_of_value hbound.tier (by decide)
  have hpayloadId := readRequiredString_of_value hbound.payloadId hfilled.payloadId
  have hfingerprint := readRequiredString_of_value hbound.fingerprint (lowerHex_ne hfilled.fingerprint (by decide))
  have hprofile := readRequiredString_of_value hbound.profileSha256 hfilled.profileSha256
  have hmanifest := readRequiredString_of_value hbound.compatibilitySha256 hfilled.compatibilitySha256
  have hruntime := readRequiredString_of_value hbound.runtimeSha256 (lowerHex_ne hreceipt.canaryRuntime (by decide))
  have hbuildId := readRequiredString_of_value hbound.runtimeBuildId (lowerHex_ne hreceipt.runtimeBuildId (by decide))
  obtain ⟨digits, hdigits, hhex⟩ := hbound.log
  have hlog := readRequiredString_of_value hdigits (lowerHex_ne hhex (by decide))
  unfold attestedRun attestationFactsOf
  cases hrun : readRequiredString attestation "run_id" with
  | none => simp
  | some found =>
    simp only [Option.bind_eq_bind, Option.bind_some, hstatus, htier, hpayloadId, hfingerprint, hprofile, hmanifest,
      hruntime, hbuildId, hlog, Option.any_some, hhex, true_and, and_true, Option.ite_none_right_eq_some, Option.some.injEq]
    constructor
    · intro h
      obtain ⟨⟨hschema, hnumber, hvalid⟩, rfl⟩ := h
      exact ⟨hschema, hnumber, rfl, hvalid⟩
    · intro h
      obtain ⟨hschema, hnumber, rfl, hvalid⟩ := h
      exact ⟨⟨hschema, hnumber, hvalid⟩, rfl⟩

/-- All that the two readers agree on. -/
structure Agreement (system : System) (host : Host) (call : Call) (root : Text) (disk : Disk) (activation : Text)
    (payload : PayloadIntegrity) (a : Admission) : Prop where
  sees : SeesStore system host call root disk
  identified : Identified payload
  admits : Admits host call root disk activation payload a

variable (h : Agreement system host call root disk activation payload a)
include h

theorem Agreement.payload_eq : a.facts.payload = payload :=
  (approvalFacts_eq_ok.mp h.admits.facts).1

theorem Agreement.generation_eq : a.facts.generation = a.references.generation :=
  (approvalFacts_eq_ok.mp h.admits.facts).2.1

theorem Agreement.references : ∃ members, References call root members payload.payloadId a.references := by
  obtain ⟨members, -, hreferences⟩ := h.admits.references
  exact ⟨members, readReferences_eq_ok.mp hreferences⟩

theorem Agreement.generation : lowerHex a.references.generation 40 = true := by
  obtain ⟨_, hreferences⟩ := h.references
  exact hreferences.generation

theorem Agreement.filled : Filled a := by
  obtain ⟨hpayload, hgeneration, hfingerprint, hprofile, hcompatibility⟩ := approvalFacts_eq_ok.mp h.admits.facts
  obtain ⟨_, _, -, -, hfingerprint⟩ := payloadRuntimeFingerprint_ok hfingerprint
  have hfull := goodFields_full h.identified.fields
  refine ⟨?_, ?_, ?_, ?_, ?_, hfingerprint.lowerHex, ?_, ?_⟩
  · rw [hpayload]
    exact h.identified.payloadId_ne
  · rw [hgeneration]
    exact h.generation
  · intro hnil
    have habsolute := h.sees.absolute _ _ h.admits.library
    rw [hnil] at habsolute
    cases habsolute
  · rw [hpayload]
    exact lowerHex_ne h.identified.buildId (by decide)
  · rw [hpayload]
    intro hnil
    have hlength := hfull.library
    rw [hnil] at hlength
    cases hlength
  · exact lowerHex_ne (hashText_full hprofile).lowerHex (by decide)
  · exact lowerHex_ne (hashText_full hcompatibility).lowerHex (by decide)

omit h in
/-- The three documents as they stand in the store. -/
theorem readDocuments_sealed {payloadId : Text} {references : ApprovalReferences} {documents : ApprovalDocuments}
    (h : readDocuments call disk payloadId references = .ok documents) :
    Sealed (disk.files (.artifact approvals (documentName payloadId references.generation))) documents.receiptBytes ∧
      Sealed (disk.files (.artifact hostAbiProfiles (documentName payloadId references.generation))) documents.profileBytes ∧
      Sealed (disk.files (.artifact compatibilityProfiles (documentName payloadId references.generation)))
        documents.compatibilityBytes := by
  unfold readDocuments at h
  dsimp only at h
  split at h
  · cases h
  · rename_i receiptBytes profileBytes compatibilityBytes hread
    cases h
    obtain ⟨hread, hcompatibility⟩ := lastError_ok hread
    obtain ⟨hreceipt, hprofile⟩ := lastError_ok hread
    exact ⟨(readArtifact_sealed hreceipt).1, (readArtifact_sealed hprofile).1, (readArtifact_sealed hcompatibility).1⟩

theorem Agreement.slashless : Slashless (documentName payload.payloadId a.references.generation) :=
  slashless_documentName h.identified.slashless h.generation

theorem Agreement.receipt :
    Shows (system.node a.references.receipt) a.documents.receiptBytes { foreign := false, writable := false } ∧
      fileName a.references.receipt = documentName payload.payloadId a.references.generation ∧ ∃ resolved,
        call.canonical root = some resolved ∧ parentPath a.references.receipt = assetPath resolved approvals := by
  obtain ⟨_, hreferences⟩ := h.references
  exact h.sees.reference (by simp [artifactDirectories]) h.slashless hreferences.receiptPath
    (readDocuments_sealed h.admits.documents).1

theorem Agreement.profileSha256 :
    computeFileSha256 system a.references.profile = some a.facts.profileSha256 := by
  obtain ⟨_, hreferences⟩ := h.references
  obtain ⟨hshows, -⟩ := h.sees.reference (by simp [artifactDirectories]) h.slashless hreferences.profilePath
    (readDocuments_sealed h.admits.documents).2.1
  exact h.sees.fileSha256 hshows (hashText_full (approvalFacts_eq_ok.mp h.admits.facts).2.2.2.1)

theorem Agreement.manifestSha256 :
    computeFileSha256 system a.references.compatibility = some a.facts.compatibilitySha256 := by
  obtain ⟨_, hreferences⟩ := h.references
  obtain ⟨hshows, -⟩ := h.sees.reference (by simp [artifactDirectories]) h.slashless hreferences.compatibilityPath
    (readDocuments_sealed h.admits.documents).2.2
  exact h.sees.fileSha256 hshows (hashText_full (approvalFacts_eq_ok.mp h.admits.facts).2.2.2.2)

theorem Agreement.receiptFields {fields : ReceiptFields} :
    receiptFields a.receipt (loadRequest system root payload a.result) = some fields ↔ ExactReceipt a.receipt ∧
      fields = receiptFieldsOf a := by
  refine receiptFields_admitted h.filled (receiptUnbound_eq_false.mp h.admits.bound) h.admits.runtime ?_ ?_ ?_ ?_ ?_
  · simp [loadRequest, h.sees.canonical, h.admits.library]
  · simp [loadRequest, h.payload_eq]
  · simp [loadRequest, Admission.result, h.profileSha256]
  · simp [loadRequest, h.payload_eq]
  · simp [loadRequest, h.payload_eq]

variable {found : AdmittedAttestation}

/-- An attestation stands where the loader looks for it. -/
theorem Agreement.adjacent (hattests : Attests host call root disk a.receipt a.facts a.runtime index found) :
    ∃ path, adjacentAttestation system a.references.receipt payload.payloadId a.facts.generation (index + 1) = .ok path ∧
      Shows (system.node path) found.bytes { foreign := false, writable := false } := by
  obtain ⟨members, hreferences⟩ := h.references
  obtain ⟨-, -, resolved, hroot, hparent⟩ := h.receipt
  obtain ⟨_, -, hfound, -⟩ := hreferences.receiptPath
  have hname : Slashless (attestationName payload.payloadId a.facts.generation (index + 1)) :=
    slashless_attestationName h.identified.slashless (h.generation_eq ▸ h.generation) _
  obtain ⟨⟨synced, hfile⟩, -⟩ := readArtifact_sealed hattests.read
  rw [h.payload_eq] at hfile
  have hshows := h.sees.node _ _ _ _ _ _ _ _ hroot hfound (by simp [artifactDirectories]) hparent hname hfile
  rw [← hparent] at hshows
  have hshows' := hshows
  obtain ⟨permissions, hnode, -⟩ := hshows'
  have hself := h.sees.beside _ _ _ _ _ _ hfound hname hnode
  have habsolute := h.sees.absolute _ _ hself
  have hparent_ne : parentPath a.references.receipt ≠ [] := by
    rw [hparent]
    simp [assetPath, ascii]
  refine ⟨_, ?_, hshows⟩
  have hcanonical : canonicalRegularPath system
      (assetPath (parentPath a.references.receipt) (attestationName payload.payloadId a.facts.generation (index + 1))) =
      .ok (assetPath (parentPath a.references.receipt) (attestationName payload.payloadId a.facts.generation (index + 1))) := by
    unfold canonicalRegularPath
    rw [if_neg (by simpa using habsolute), hnode, h.sees.canonical, hself]
    dsimp only
    rw [hnode]
  unfold adjacentAttestation
  dsimp only
  rw [hcanonical]
  exact if_pos ⟨parentPath_assetPath hname hparent_ne, fileName_assetPath hname⟩

theorem Agreement.evidence (hattests : Attests host call root disk a.receipt a.facts a.runtime index found)
    {evidence : CanaryEvidence} :
    adjacentEvidence system (loadRequest system root payload a.result) (receiptFieldsOf a) (index + 1) = .ok evidence ↔
      found.bytes.length ≤ kMaximumReceiptBytes ∧ system.parse found.bytes = some (.object found.attestation) ∧
        readRequiredSize found.attestation "schema_version" 1 = some 1 ∧
        readRequiredSize found.attestation "run" 2 = some (index + 1) ∧
        readRequiredString found.attestation "run_id" = some evidence.runId ∧
        validateCanaryRunId evidence.runId payload.payloadId (index + 1) = true ∧ evidence.sha256 = found.hash := by
  obtain ⟨path, hpath, hshows⟩ := h.adjacent hattests
  have hfacts : (AttestationFacts.mk (loadRequest system root payload a.result).payloadId (receiptFieldsOf a).payloadFingerprint
      (loadRequest system root payload a.result).profileSha256 (receiptFieldsOf a).manifestSha256
        (receiptFieldsOf a).runtimeSha256
      (receiptFieldsOf a).runtimeBuildId) = attestationFactsOf a := by
    simp [loadRequest, receiptFieldsOf, attestationFactsOf, Admission.result, h.profileSha256, h.payload_eq]
  have hhex := hashText_full hattests.hash
  have hdigest : computeSha256Hex system found.bytes 0 = found.hash := h.sees.sha256Hex hhex
  have hdigest_ne : found.hash ≠ [] := lowerHex_ne hhex.lowerHex (by decide)
  have hrun (runId : Text) : attestedRun found.attestation (index + 1) (attestationFactsOf a) = some runId ↔ _ :=
    attestedRun_admitted h.filled (receiptUnbound_eq_false.mp h.admits.bound) (attestationUnbound_eq_false.mp hattests.bound)
  rw [h.payload_eq] at hrun
  unfold adjacentEvidence
  rw [hfacts]
  have hadjacent : adjacentAttestation system (loadRequest system root payload a.result).receiptPath
      (loadRequest system root payload a.result).payloadId (receiptFieldsOf a).generation (index + 1) = .ok path := hpath
  rw [bind_of_ok _ hadjacent]
  unfold validateCanaryAttestation
  rw [bind_eq_ok]
  constructor
  · intro hok
    obtain ⟨⟨bytes, members⟩, hparse, hok⟩ := hok
    obtain ⟨rfl, hsize, hparse⟩ := (parseJsonFile_sealed hshows).mp hparse
    have hsame := h.sees.parse hparse hattests.parsed
    subst hsame
    dsimp only at hok
    split at hok
    · cases hok
    · rename_i runId hattested
      rw [hdigest, if_neg hdigest_ne] at hok
      cases hok
      obtain ⟨hschema, hnumber, hid, hvalid⟩ := (hrun runId).mp hattested
      exact ⟨hsize, hparse, hschema, hnumber, hid, hvalid, rfl⟩
  · intro hok
    obtain ⟨hsize, hparse, hschema, hnumber, hid, hvalid, hsha⟩ := hok
    refine ⟨(found.bytes, found.attestation), (parseJsonFile_sealed hshows).mpr ⟨rfl, hsize, hparse⟩, ?_⟩
    dsimp only
    rw [(hrun _).mpr ⟨hschema, hnumber, hid, hvalid⟩]
    dsimp only
    rw [hdigest, if_neg hdigest_ne, ← hsha]

omit h in
theorem boundHashes_recorded {receipt : Members} {first second : CanaryEvidence}
    (htwo : ∃ hash1 hash2, findMember receipt (ascii "canary_attestation_sha256") = some (.array [hash1, hash2]))
    (h1 : recordedAttestation receipt 0 = some first.sha256) (h2 : recordedAttestation receipt 1 = some second.sha256) :
    boundHashes receipt first second = .ok () := by
  obtain ⟨hash1, hash2, hmember⟩ := htwo
  unfold recordedAttestation at h1 h2
  rw [hmember] at h1 h2
  simp only [List.getElem?_cons_zero, List.getElem?_cons_succ] at h1 h2
  unfold boundHashes
  rw [hmember]
  cases hash1 with
  | string text1 =>
    cases hash2 with
    | string text2 =>
      cases h1
      cases h2
      simp [boundHashes.sameText]
    | _ => cases h2
  | _ => cases h1

omit h in
theorem strictDocument_iff {file : Option StoreFile} {good : Members → Prop}
    (hsees : SeesStore system host call root disk) (hfile : Sealed file bytes)
    (hparsed : parseObject host.lib bytes = some members) :
    StrictDocument system file good ↔ bytes.length ≤ kMaximumReceiptBytes ∧ system.parse bytes = some (.object members) ∧
      good members := by
  constructor
  · intro h
    obtain ⟨found, document, hfound, hsize, hparse, hgood⟩ := h
    have hsame := Option.some.inj (hfound.symm.trans hfile.bytes)
    subst hsame
    have hsame := hsees.parse hparse hparsed
    subst hsame
    exact ⟨hsize, hparse, hgood⟩
  · intro h
    exact ⟨bytes, members, hfile.bytes, h⟩

theorem Agreement.evidence_eq (hattests : Attests host call root disk a.receipt a.facts a.runtime index found)
    {evidence : CanaryEvidence}
    (hok : adjacentEvidence system (loadRequest system root payload a.result) (receiptFieldsOf a) (index + 1) = .ok evidence) :
    evidence = ⟨found.hash, found.runId⟩ := by
  obtain ⟨-, -, -, -, hid, -, hsha⟩ := (h.evidence hattests).mp hok
  have hrun : evidence.runId = found.runId := Except.ok.inj ((valueText_of_required hid).symm.trans hattests.runId)
  rw [← hsha, ← hrun]

/-- One attestation of an admitted approval, at load time. -/
theorem Agreement.attestation (hattests : Attests host call root disk a.receipt a.facts a.runtime index found) :
    StrictDocument system
      (disk.files (.artifact approvals (attestationName payload.payloadId a.references.generation (index + 1))))
        (ExactAttestation payload.payloadId (index + 1)) ↔
      ∃ evidence, adjacentEvidence system (loadRequest system root payload a.result) (receiptFieldsOf a) (index + 1) =
        .ok evidence := by
  have hfile := (readArtifact_sealed hattests.read).1
  rw [h.payload_eq, h.generation_eq] at hfile
  rw [strictDocument_iff h.sees hfile hattests.parsed]
  constructor
  · intro hstrict
    obtain ⟨hsize, hparse, hschema, hnumber, runId, hid, hvalid⟩ := hstrict
    exact ⟨⟨found.hash, runId⟩, (h.evidence hattests).mpr ⟨hsize, hparse, hschema, hnumber, hid, hvalid, rfl⟩⟩
  · intro hstrict
    obtain ⟨evidence, hevidence⟩ := hstrict
    obtain ⟨hsize, hparse, hschema, hnumber, hid, hvalid, -⟩ := (h.evidence hattests).mp hevidence
    exact ⟨hsize, hparse, hschema, hnumber, evidence.runId, hid, hvalid⟩

theorem Agreement.loads_iff :
    validateReceipt system (loadRequest system root payload a.result) = .ok () ↔
      Loadable system disk payload.payloadId a.references.generation := by
  obtain ⟨hshows, hname, -⟩ := h.receipt
  have hstrict :
      StrictDocument system (disk.files (.artifact approvals (documentName payload.payloadId a.references.generation)))
        ExactReceipt ↔ _ :=
    strictDocument_iff h.sees (readDocuments_sealed h.admits.documents).1 h.admits.receipt
  have hname' : fileName (loadRequest system root payload a.result).receiptPath =
      documentName (loadRequest system root payload a.result).payloadId (receiptFieldsOf a).generation := by
    rw [receiptFieldsOf, h.generation_eq]
    exact hname
  have hmanifest : computeFileSha256 system (loadRequest system root payload a.result).compatibilityManifestPath =
      some (receiptFieldsOf a).manifestSha256 := h.manifestSha256
  unfold validateReceipt
  rw [bind_eq_ok]
  constructor
  · intro hok
    obtain ⟨⟨bytes, members⟩, hparse, hok⟩ := hok
    obtain ⟨rfl, hsize, hparse⟩ := (parseJsonFile_sealed hshows).mp hparse
    have hsame := h.sees.parse hparse h.admits.receipt
    subst hsame
    dsimp only at hok
    split at hok
    · cases hok
    · rename_i fields hfields
      obtain ⟨hexact, rfl⟩ := h.receiptFields.mp hfields
      rw [if_neg (by simpa using hname'), hmanifest] at hok
      dsimp only at hok
      rw [if_neg (by simp)] at hok
      obtain ⟨first, hone, hok⟩ := bind_eq_ok.mp hok
      obtain ⟨second, htwo, -⟩ := bind_eq_ok.mp hok
      refine ⟨hstrict.mpr ⟨hsize, hparse, hexact⟩, ?_⟩
      intro run hrun
      simp only [List.mem_cons, List.not_mem_nil, or_false] at hrun
      rcases hrun with rfl | rfl
      · exact (h.attestation h.admits.first).mpr ⟨first, hone⟩
      · exact (h.attestation h.admits.second).mpr ⟨second, htwo⟩
  · intro hload
    obtain ⟨hsize, hparse, hexact⟩ := hstrict.mp hload.receipt
    obtain ⟨first, hone⟩ := (h.attestation h.admits.first).mp (hload.attestation 1 (by simp))
    obtain ⟨second, htwo⟩ := (h.attestation h.admits.second).mp (hload.attestation 2 (by simp))
    have hfirst := h.evidence_eq h.admits.first hone
    have hsecond := h.evidence_eq h.admits.second htwo
    have hbound := receiptUnbound_eq_false.mp h.admits.bound
    have hruns : first.runId ≠ second.runId := by
      rw [hfirst, hsecond]
      exact fun hsame => h.admits.distinct (.inr hsame)
    have hhashes : boundHashes a.receipt first second = .ok () := by
      refine boundHashes_recorded hbound.hashes ?_ ?_
      · rw [hfirst]
        exact (attestationUnbound_eq_false.mp h.admits.first.bound).recorded
      · rw [hsecond]
        exact (attestationUnbound_eq_false.mp h.admits.second.bound).recorded
    have hgeneration : (receiptFieldsOf a).generation =
        computeSha256Hex system (generationEvidence (receiptFieldsOf a).runtimeBuildId
        (receiptFieldsOf a).payloadFingerprint (loadRequest system root payload a.result).profileSha256
          (receiptFieldsOf a).manifestSha256
        first.sha256 second.sha256) 40 := by
      have hprofile : (loadRequest system root payload a.result).profileSha256 = a.facts.profileSha256 := by
        simp [loadRequest, Admission.result, h.profileSha256]
      rw [hfirst, hsecond, hprofile]
      exact (h.sees.sha256Short h.admits.generation).symm
    refine ⟨(a.documents.receiptBytes, a.receipt), (parseJsonFile_sealed hshows).mpr ⟨rfl, hsize, hparse⟩, ?_⟩
    dsimp only
    rw [h.receiptFields.mpr ⟨hexact, rfl⟩]
    dsimp only
    rw [if_neg (by simpa using hname'), hmanifest]
    dsimp only
    rw [if_neg (by simp), bind_of_ok _ hone, bind_of_ok _ htwo, if_neg hruns, bind_of_ok _ hhashes,
      if_neg (by simpa using hgeneration)]

end

/-- An approval that the store accepts is loaded if and only if its documents are exact. -/
theorem admitted_approval_loads_iff (system : System) (host : Host) (call : Call) (root : Text) (disk : Disk) (activation : Text)
    (payload : PayloadIntegrity) (approval : CandidateApprovalResult) (hsees : SeesStore system host call root disk)
    (hpayload : ∃ directory, inspectPreparedPayload host.lib host.abi directory = .ok payload)
    (h : validateCandidateApproval host call root disk activation payload = .ok approval) :
    validateReceipt system (loadRequest system root payload approval) = .ok () ↔
      Loadable system disk payload.payloadId approval.generation := by
  obtain ⟨directory, hpayload⟩ := hpayload
  obtain ⟨a, hadmits, rfl⟩ := validateCandidateApproval_eq_ok.mp h
  have hagreement : Agreement system host call root disk activation payload a :=
    ⟨hsees, inspectPreparedPayload_identified hpayload, hadmits⟩
  exact hagreement.loads_iff

/-! ## A small store at load time -/

/-- Paths without links. -/
def rooted (path : Text) : Option Text := if path.head? = some 0x2f then some path else none

/-- The system that a store stands in. -/
def storeSystem (host : Host) (root : Text) (disk : Disk) : System where
  node path :=
    match artifactDirectories.find? fun directory => assetPath root directory == parentPath path with
    | none => .missing
    | some directory =>
      match disk.files (.artifact directory (fileName path)) with
      | some (.data bytes access _) =>
        .regular { owned := !access.foreign, othersWrite := access.foreign, ownerWrites := access.writable } bytes.length
          (.bytes bytes)
      | _ => .missing
  canonical := rooted
  sha256 := host.sha256
  parse := host.lib.parse
  strerror := ascii "No such file or directory"

theorem rooted_eq {path found : Text} (h : rooted path = some found) : found = path ∧ path.head? = some 0x2f := by
  unfold rooted at h
  split at h
  · rename_i hhead
    cases h
    exact ⟨rfl, hhead⟩
  · cases h

theorem head_parentPath (name : Text) (h : path.head? = some 0x2f) : (assetPath (parentPath path) name).head? = some 0x2f := by
  have hfront : (path.reverse.dropWhile (· != 0x2f)).reverse <+: path := by
    rw [← List.reverse_suffix, List.reverse_reverse]
    exact List.dropWhile_suffix _
  have hparent : parentPath path <+: path := by
    unfold parentPath
    split
    · exact List.nil_prefix
    · rename_i c hc
      exact hc ▸ hfront
    · exact List.IsPrefix.trans ( List.dropLast_prefix _) hfront
  cases hcase : parentPath path with
  | nil => rfl
  | cons c rest =>
    rw [hcase] at hparent
    obtain ⟨rest', rfl⟩ := hparent
    exact h

theorem artifactDirectories_find {root directory : Text} (h : directory ∈ artifactDirectories) :
    artifactDirectories.find? (fun d => assetPath root d == assetPath root directory) = some directory := by
  have hsame : (fun d => assetPath root d == assetPath root directory) = fun d => d == directory := by
    funext d
    rw [Bool.eq_iff_iff, beq_iff_eq, beq_iff_eq]
    exact ⟨List.append_cancel_left, congrArg _⟩
  rw [hsame]
  clear hsame
  revert h directory
  decide

theorem storeSystem_sees (host : Host) (call : Call) (root : Text) (disk : Disk) (hcall : call.canonical = rooted) :
    SeesStore (storeSystem host root disk) host call root disk where
  sha256 := rfl
  canonical := hcall.symm
  strict _ _ h := h
  absolute path found h := by
    rw [hcall] at h
    obtain ⟨rfl, hhead⟩ := rooted_eq h
    exact hhead
  node path found resolved directory name bytes access synced hroot _ hdirectory _ hname hfile := by
    rw [hcall] at hroot
    obtain ⟨rfl, hhead⟩ := rooted_eq hroot
    have hne : assetPath resolved directory ≠ [] := by simp [assetPath, ascii]
    refine ⟨{ owned := !access.foreign, othersWrite := access.foreign, ownerWrites := access.writable }, ?_, ?_, rfl⟩
    · simp only [storeSystem, parentPath_assetPath hname hne, fileName_assetPath hname, artifactDirectories_find hdirectory,
        hfile]
    · intro hforeign
      simp [hforeign]
  beside path found name permissions size contents hfound hname _ := by
    rw [hcall] at hfound ⊢
    obtain ⟨rfl, hhead⟩ := rooted_eq hfound
    exact if_pos (head_parentPath name hhead)

/-- A call in which no path has a link. -/
def rootedCall : Call := { quietCall with canonical := rooted }

def loadDisk : Disk := smallDisk (smallArtifacts (ascii "then"))

def loadSystem : System := storeSystem smallHost (ascii "/s") loadDisk

/-- A receipt of 2 ^ 32 + 2 runs. -/
def wrappedReceipt : Members :=
  (smallReceipt (ascii "then")).map fun m => if m.1 = ascii "successful_runs" then (m.1, .unsigned 4294967298) else m

def wrappedHost : Host := { smallHost with lib := compactLibrary (wrappedReceipt :: smallDocuments) }

def wrappedDisk : Disk :=
  smallDisk ((.artifact approvals (documentName smallId smallGeneration),
    immutable (compactText wrappedReceipt)) :: smallArtifacts (ascii "then"))

/-- What the loader and the store say of the small approval's documents, with the one receipt and with the other. -/
theorem loadSystem_facts :
    (smallDocuments.map compactText).Nodup ∧
    (fileBytes (loadDisk.files (.artifact approvals (documentName smallId smallGeneration))) =
      some (compactText (smallReceipt (ascii "then"))) ∧
      (compactText (smallReceipt (ascii "then"))).length ≤ kMaximumReceiptBytes ∧
      readRequiredSize (smallReceipt (ascii "then")) "schema_version" 1 = some 1 ∧
      readRequiredSize (smallReceipt (ascii "then")) "successful_runs" 2 = some 2) ∧
    (∀ run ∈ [1, 2],
      fileBytes (loadDisk.files (.artifact approvals (attestationName smallId smallGeneration run))) =
        some (compactText (smallAttestation run)) ∧
      (compactText (smallAttestation run)).length ≤ kMaximumReceiptBytes ∧
      readRequiredSize (smallAttestation run) "schema_version" 1 = some 1 ∧
      readRequiredSize (smallAttestation run) "run" 2 = some run ∧
      readRequiredString (smallAttestation run) "run_id" = some (smallId ++ ascii "-" ++ ascii (toString run) ++ ascii "-9-5") ∧
      validateCanaryRunId (smallId ++ ascii "-" ++ ascii (toString run) ++ ascii "-9-5") smallId run = true) ∧
    validateCandidateApproval smallHost rootedCall (ascii "/s") loadDisk (compactText smallActivation) smallIdentity =
      .ok smallApproval ∧
    inspectPreparedPayload wrappedHost.lib wrappedHost.abi (smallPayload (ascii "then")) = .ok smallIdentity ∧
    validateCandidateApproval wrappedHost rootedCall (ascii "/s") wrappedDisk (compactText smallActivation) smallIdentity =
      .ok smallApproval ∧
    validateReceipt (storeSystem wrappedHost (ascii "/s") wrappedDisk)
      (loadRequest (storeSystem wrappedHost (ascii "/s") wrappedDisk) (ascii "/s") smallIdentity smallApproval) =
      .error (ascii "approval receipt does not authorize the exact ABI profile and payload") := by
  decide +kernel

theorem loadSystem_parse (h : members ∈ smallDocuments) : loadSystem.parse (compactText members) = some (.object members) :=
  compactLibrary_parse loadSystem_facts.1 h

theorem loadSystem_receipt :
    StrictDocument loadSystem (loadDisk.files (.artifact approvals (documentName smallId smallGeneration))) ExactReceipt := by
  obtain ⟨hbytes, hsize, hschema, hruns⟩ := loadSystem_facts.2.1
  exact ⟨_, _, hbytes, hsize, loadSystem_parse (by simp [smallDocuments]), hschema, hruns⟩

theorem loadSystem_attestation {run : Nat} (h : run ∈ [1, 2]) :
    StrictDocument loadSystem (loadDisk.files (.artifact approvals (attestationName smallId smallGeneration run)))
      (ExactAttestation smallId run) := by
  have hmem : smallAttestation run ∈ smallDocuments := by
    simp only [List.mem_cons, List.not_mem_nil, or_false] at h
    rcases h with rfl | rfl <;> simp [smallDocuments]
  obtain ⟨hbytes, hsize, hschema, hnumber, hid, hvalid⟩ := loadSystem_facts.2.2.1 run h
  exact ⟨_, _, hbytes, hsize, loadSystem_parse hmem, hschema, hnumber, _, hid, hvalid⟩

/-- An approval of the store that is loaded. -/
theorem admitted_approval_loads_small :
    validateReceipt loadSystem (loadRequest loadSystem (ascii "/s") smallIdentity smallApproval) = .ok () := by
  have hpayload := smallSet_facts.2.2.1
  have hvalid := loadSystem_facts.2.2.2.1
  exact (admitted_approval_loads_iff loadSystem smallHost rootedCall (ascii "/s") loadDisk _ smallIdentity smallApproval
    (storeSystem_sees _ _ _ _ rfl) ⟨_, hpayload⟩ hvalid).mpr ⟨loadSystem_receipt, fun _ hrun => loadSystem_attestation hrun⟩

/-- The store casts the number of runs to 2; the loader does not. -/
theorem wrapped_runs_refused :
    SeesStore (storeSystem wrappedHost (ascii "/s") wrappedDisk) wrappedHost rootedCall (ascii "/s") wrappedDisk ∧
      inspectPreparedPayload wrappedHost.lib wrappedHost.abi (smallPayload (ascii "then")) = .ok smallIdentity ∧
      validateCandidateApproval wrappedHost rootedCall (ascii "/s") wrappedDisk (compactText smallActivation) smallIdentity =
        .ok smallApproval ∧
      validateReceipt (storeSystem wrappedHost (ascii "/s") wrappedDisk)
        (loadRequest (storeSystem wrappedHost (ascii "/s") wrappedDisk) (ascii "/s") smallIdentity smallApproval) =
        .error (ascii "approval receipt does not authorize the exact ABI profile and payload") :=
  ⟨storeSystem_sees _ _ _ _ rfl, loadSystem_facts.2.2.2.2⟩

end Mocktail.Compat

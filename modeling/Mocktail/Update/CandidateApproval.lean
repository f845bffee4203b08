/-
  Mocktail.Update.CandidateApproval — approvals of payloads that are on probation
  (src/update/candidate_approval.cc).

  An approval is a set of artifacts in the store: a receipt, the host-ABI profile, the
  compatibility manifest and two canary attestations. Their names carry the payload's ID and
  the generation, which is 40 digits of a hash over all of them.

  `CreateCandidateApproval` has one way out with neither an error nor a generation: a runtime
  whose build ID was read and is not 40 lower-case digits.
-/

import Mocktail.Update.StoreFiles

namespace Mocktail.Update

open Mocktail.Lib Mocktail.Launch

structure CandidateApprovalResult where
  generation : Text := []
  profile : Text := []
  compatibilityManifest : Text := []
  receipt : Text := []
  error : Option Text := none
  deriving DecidableEq, Repr

/-- `operator bool`. -/
def CandidateApprovalResult.succeeded (result : CandidateApprovalResult) : Bool := result.error.isNone && result.generation != []

/-! ## Reading artifacts -/

/-- `ReadRegular` of candidate_approval.cc. -/
def readArtifact (call : Call) (reader : Reader) (path : Text) (requireImmutable : Bool) (file : Option StoreFile) :
    Except Text Bytes :=
  let improper (size : Nat) (access : Access) : Bool :=
    call.fails (.statFile reader path) || access.foreign || decide (1024 * 1024 < size) || (requireImmutable && access.writable)
  if call.fails (.openFile reader path) then .error (ascii "cannot open approval artifact: " ++ path)
  else
    match file with
    | none | some .unopenable => .error (ascii "cannot open approval artifact: " ++ path)
    | some .directory | some .special => .error (ascii "approval artifact ownership or permissions are invalid")
    | some (.unreadable size access) =>
      if improper size access then .error (ascii "approval artifact ownership or permissions are invalid")
      else .error (ascii "cannot read approval artifact")
    | some (.data bytes access _) =>
      if improper bytes.length access then .error (ascii "approval artifact ownership or permissions are invalid")
      else if call.fails (.readFile reader path) then .error (ascii "cannot read approval artifact")
      else .ok bytes

/-- `ParseJson`. -/
def parseArtifact (lib : JsonLibrary) (contents : Bytes) : Outcome Members :=
  match parseObject lib contents with
  | none => fail "approval artifact is not a JSON object"
  | some members => .ok members

/-- Files read one after the other into one error: the last error stays. -/
def lastError {α β : Type} (x : Except Text α) (y : Except Text β) : Except Text (α × β) :=
  match x, y with
  | .ok a, .ok b => .ok (a, b)
  | _, .error e => .error e
  | .error e, .ok _ => .error e

def approvals : Text := ascii "approvals"
def hostAbiProfiles : Text := ascii "host_abi_profiles"
def compatibilityProfiles : Text := ascii "compatibility_profiles"

def payloadPath (root id : Text) : Text := assetPath root (ascii "payloads/" ++ id)

/-- `ID-GENERATION`, what the names of all artifacts begin with. -/
def stem (payloadId generation : Text) : Text := payloadId ++ ascii "-" ++ generation

def documentName (payloadId generation : Text) : Text := stem payloadId generation ++ ascii ".json"

def attestationName (payloadId generation : Text) (run : Nat) : Text :=
  stem payloadId generation ++ ascii ".canary-" ++ ascii (toString run) ++ ascii ".json"

def artifactPath (root directory name : Text) : Text := assetPath root (directory ++ ascii "/" ++ name)

/-! ## References -/

/-- `ExtractGeneration`. -/
def extractGeneration (relative directory payloadId suffix : Text) : Option Text :=
  let front := directory ++ ascii "/" ++ payloadId ++ ascii "-"
  let generation := (relative.drop front.length).take 40
  if relative.length = front.length + 40 + suffix.length ∧ relative.take front.length = front ∧
      relative.drop (relative.length - suffix.length) = suffix ∧ lowerHex generation 40 then some generation
  else none

/-- `path::filename`. -/
def fileName (path : Text) : Text := (path.reverse.takeWhile (· != 0x2f)).reverse

/-- `path::parent_path` of an absolute path. -/
def parentPath (path : Text) : Text :=
  match (path.reverse.dropWhile (· != 0x2f)).reverse with
  | [] => []
  | [c] => [c]
  | front => front.dropLast

/-- `ValidateRelativeApprovalPath`; the path it resolves to. -/
def validateRelativeApprovalPath (call : Call) (root path directory payloadId generation : Text) : Except Text Text :=
  if path.head? = some 0x2f ∨ path ≠ directory ++ ascii "/" ++ documentName payloadId generation then
    .error (ascii "approval reference is outside its generated directory")
  else
    match call.canonical root with
    | none => .error (ascii "approval store root cannot be resolved safely")
    | some canonicalRoot =>
      match call.canonical (assetPath root path) with
      | none => .error (ascii "approval reference cannot be resolved safely")
      | some canonical =>
        if parentPath canonical ≠ assetPath canonicalRoot directory ∨ fileName canonical ≠ fileName path then
          .error (ascii "approval reference cannot be resolved safely")
        else .ok canonical

/-! ## What an approval says -/

def memberObject (members : Members) (name : String) : Option Members :=
  match findMember members (ascii name) with
  | some (.object inner) => some inner
  | _ => none

/-- The profile names the payload's bytes, and the manifest is one list of one entry. -/
def profileUnbound (profile compatibility : Members) (payload : PayloadIntegrity) : Outcome Bool :=
  anyOf
    [otherSchema profile, differs profile "payload_id" payload.payloadId,
     differs profile "payload_path" (ascii "payloads/" ++ payload.payloadId),
     differs profile "elf_build_id" payload.metadata.buildId, differs profile "payload_sha256" payload.metadata.librarySha256,
     (match memberObject profile "profile" with
      | none => .ok true
      | some inner => differs inner "elf_build_id" payload.metadata.buildId),
     .ok (memberObject profile "reference").isNone, otherSchema compatibility,
     .ok (match findMember compatibility (ascii "profiles") with
      | some (.array [_]) => false
      | _ => true)]

/-- The one entry is probation metadata of the payload. -/
def entryUnbound (payload : PayloadIntegrity) : Json → Outcome Bool
  | .object entry =>
    anyOf
      [differs entry "version_name" payload.metadata.versionName,
       (valueUnsigned 64 entry "version_code").map (· ≠ payload.metadata.versionCode),
       differs entry "elf_build_id" payload.metadata.buildId, differs entry "status" (ascii "experimental"),
       (valueBool entry "default_allowed" false).map (!·), valueBool entry "allow_legacy_binary_patches" true,
       (valueBool entry "allow_host_abi_bridges" false).map (!·),
       (valueBool entry "allow_host_constructor_replay" false).map (!·)]
  | _ => .ok true

def validateProfileBinding (profile compatibility : Members) (payload : PayloadIntegrity) : Outcome Unit := do
  if ← profileUnbound profile compatibility payload then fail "derived approval profile is not bound to exact payload bytes"
  else
    match findMember compatibility (ascii "profiles") with
    | some (.array (entry :: _)) =>
      if ← entryUnbound payload entry then fail "candidate compatibility manifest is not exact probation metadata" else return ()
    | _ => fail "derived approval profile is not bound to exact payload bytes"

/-- One line of evidence. -/
def line (name : String) (value : Text) : Text := ascii name ++ ascii "=" ++ value ++ ascii "\n"

def fingerprintEvidence (abi : GuestAbi) (payload : PayloadIntegrity) (metadata : Text) : Text :=
  line "payload_id" payload.payloadId ++ line "metadata" metadata ++ line "libroblox" payload.metadata.librarySha256 ++
    line "base_apk" payload.metadata.baseApkSha256 ++ line (abi.abi ++ "_split") payload.metadata.splitApkSha256 ++
    line "assets" payload.metadata.assetTreeSha256

def generationEvidence (runtimeBuildId fingerprint profile compatibility canary1 canary2 : Text) : Text :=
  line "runtime_build_id" runtimeBuildId ++ line "payload" fingerprint ++ line "profile" profile ++
    line "compatibility" compatibility ++
    line "canary_1" canary1 ++ line "canary_2" canary2

section
variable (host : Host) (call : Call)

/-- The tree of a payload as it stands in the store. `payloads/` itself is what no ID names. -/
def payloadAt (disk : Disk) (id : Text) : PayloadDirectory :=
  let absent : PayloadDirectory :=
    { realDirectory := decide (id = []), library := .missing, baseApk := .missing, splitApk := .missing, metadata := .missing,
      assets := ⟨false, [], false, List.nodup_nil, fun _ h => (List.not_mem_nil h).elim⟩, realContent := false }
  match (disk.entries .payloads).at id with
  | some (.tree tree) => tree.payload
  | _ => absent

/-- The hash of a payload's metadata file. -/
def hashMetadata (reader : Reader) (path : Text) (directory : PayloadDirectory) : Except Text Text :=
  match call.faults (.hashMetadata reader) with
  | some fault => .error fault.detail
  | none => hashRegularFile host.sha256 (assetPath path (ascii "roblox_payload.json")) directory.metadata

def payloadRuntimeFingerprint (reader : Reader) (path : Text) (directory : PayloadDirectory) (payload : PayloadIntegrity) :
    Except Text Text :=
  if payload.payloadId = [] then .error (ascii "cannot fingerprint an invalid payload")
  else
    match hashMetadata host call reader path directory with
    | .error e => .error e
    | .ok metadata => hashText host.sha256 (fingerprintEvidence host.abi payload metadata) 64

/-- What the documents of one approval are checked against. -/
structure ApprovalFacts where
  payload : PayloadIntegrity
  generation : Text
  fingerprint : Text
  profileSha256 : Text
  compatibilitySha256 : Text

/-- The runtime a receipt names. -/
structure RuntimeClaim where
  canarySha256 : Text
  sha256 : Text
  buildId : Text
  deriving DecidableEq, Repr

def readRuntimeClaim (receipt : Members) : Outcome RuntimeClaim := do
  let canarySha256 ← valueText receipt "canary_runtime_sha256"
  let sha256 ← valueText receipt "runtime_sha256"
  let buildId ← valueText receipt "runtime_build_id"
  return { canarySha256, sha256, buildId }

def receiptUnbound (receipt : Members) (facts : ApprovalFacts) (canonicalLibrary : Text) (runtime : RuntimeClaim) :
    Outcome Bool :=
  anyOf
    [otherSchema receipt, differs receipt "status" (ascii "approved"), differs receipt "payload_id" facts.payload.payloadId,
     differs receipt "generation" facts.generation, differs receipt "payload_path" canonicalLibrary,
     differs receipt "elf_build_id" facts.payload.metadata.buildId,
     differs receipt "payload_sha256" facts.payload.metadata.librarySha256,
     differs receipt "payload_fingerprint" facts.fingerprint, differs receipt "profile_sha256" facts.profileSha256,
     differs receipt "compatibility_manifest_sha256" facts.compatibilitySha256, .ok (!lowerHex runtime.canarySha256 64),
     .ok (decide (runtime.sha256 ≠ runtime.canarySha256)), .ok (!lowerHex runtime.buildId 40),
     differs receipt "canary_tier" (ascii "C"), (valueInt receipt "successful_runs").map (· ≠ 2),
     .ok (match findMember receipt (ascii "canary_attestation_sha256") with
      | some (.array [_, _]) => false
      | _ => true)]

/-- The hash a receipt records for a run, if it is a text. -/
def recordedAttestation (receipt : Members) (index : Nat) : Option Text :=
  match findMember receipt (ascii "canary_attestation_sha256") with
  | some (.array hashes) =>
    match hashes[index]? with
    | some (.string hash) => some hash
    | _ => none
  | _ => none

def attestationUnbound (attestation receipt : Members) (facts : ApprovalFacts) (runtime : RuntimeClaim) (index : Nat)
    (hash : Text) :
    Outcome Bool :=
  anyOf
    [otherSchema attestation, differs attestation "status" (ascii "passed"), differs attestation "canary_tier" (ascii "C"),
     (valueUnsigned 32 attestation "run").map (· ≠ index + 1), differs attestation "payload_id" facts.payload.payloadId,
     differs attestation "payload_fingerprint" facts.fingerprint, differs attestation "profile_sha256" facts.profileSha256,
     differs attestation "compatibility_manifest_sha256" facts.compatibilitySha256,
     differs attestation "runtime_sha256" runtime.canarySha256, differs attestation "runtime_build_id" runtime.buildId,
     (valueText attestation "readiness_log_sha256").map (!lowerHex · 64),
     .ok (decide (recordedAttestation receipt index ≠ some hash))]

variable (root : Text) (disk : Disk)

/-- An attestation of a run. What cannot be read is parsed as nothing, and that is the error. -/
def readAttestation (payloadId generation : Text) (index : Nat) : Outcome (Bytes × Members) := do
  let name := attestationName payloadId generation (index + 1)
  match readArtifact call .validation (artifactPath root approvals name) true (disk.files (.artifact approvals name)) with
  | .error e => do
    let _ ← parseArtifact host.lib []
    .error (.error e)
  | .ok bytes => do
    let attestation ← parseArtifact host.lib bytes
    return (bytes, attestation)

/-- One run of the loop over the two attestations: its hash and its run ID. -/
def validateAttestation (receipt : Members) (facts : ApprovalFacts) (runtime : RuntimeClaim) (index : Nat) :
    Outcome (Text × Text) := do
  let (bytes, attestation) ← readAttestation host call root disk facts.payload.payloadId facts.generation index
  let hash ← outcome (hashText host.sha256 bytes 64)
  let runId ← valueText attestation "run_id"
  if ← attestationUnbound attestation receipt facts runtime index hash then
    fail "canary attestation does not match approval evidence"
  else return (hash, runId)

/-- The artifacts that the activation's references lead to. -/
structure ApprovalReferences where
  generation : Text
  receipt : Text
  profile : Text
  compatibility : Text
  deriving DecidableEq, Repr

def readReferences (activation : Members) (payloadId : Text) : Outcome ApprovalReferences := do
  let approvalRef ← valueText activation "approval_path"
  let profileRef ← valueText activation "host_abi_profile_path"
  let compatibilityRef ← valueText activation "compatibility_manifest_path"
  match extractGeneration approvalRef approvals payloadId (ascii ".json") with
  | none => fail "approved payload manifest has invalid approval references"
  | some generation =>
    if profileRef ≠ hostAbiProfiles ++ ascii "/" ++ documentName payloadId generation ∨
        compatibilityRef ≠ compatibilityProfiles ++ ascii "/" ++ documentName payloadId generation then
      fail "approved payload manifest has invalid approval references"
    else do
      let receipt ← outcome (validateRelativeApprovalPath call root approvalRef approvals payloadId generation)
      let profile ← outcome (validateRelativeApprovalPath call root profileRef hostAbiProfiles payloadId generation)
      let compatibility ← outcome (validateRelativeApprovalPath call root compatibilityRef compatibilityProfiles
        payloadId generation)
      return { generation, receipt, profile, compatibility }

/-- The three documents of an approval. A reference resolves to the file of its name in its directory. -/
structure ApprovalDocuments where
  receiptBytes : Bytes
  profileBytes : Bytes
  compatibilityBytes : Bytes

def readDocuments (payloadId : Text) (references : ApprovalReferences) : Except Text ApprovalDocuments :=
  let name := documentName payloadId references.generation
  let read (directory path : Text) := readArtifact call .validation path true (disk.files (.artifact directory name))
  match lastError (lastError (read approvals references.receipt) (read hostAbiProfiles references.profile))
    (read compatibilityProfiles references.compatibility) with
  | .error e => .error e
  | .ok ((receiptBytes, profileBytes), compatibilityBytes) => .ok { receiptBytes, profileBytes, compatibilityBytes }

/-- The hashes that the documents are checked against. -/
def approvalFacts (payload : PayloadIntegrity) (generation : Text) (documents : ApprovalDocuments) : Outcome ApprovalFacts := do
  let path := payloadPath root payload.payloadId
  let fingerprint ← outcome (payloadRuntimeFingerprint host call .validation path (payloadAt disk payload.payloadId) payload)
  let profileSha256 ← outcome (hashText host.sha256 documents.profileBytes 64)
  let compatibilitySha256 ← outcome (hashText host.sha256 documents.compatibilityBytes 64)
  return { payload, generation, fingerprint, profileSha256, compatibilitySha256 }

/-- The receipt, the two attestations and the generation against each other. -/
def validateEvidence (receipt : Members) (facts : ApprovalFacts) : Outcome Unit := do
  let runtime ← readRuntimeClaim receipt
  match call.canonical (assetPath (payloadPath root facts.payload.payloadId) (ascii "libroblox.so")) with
  | none => fail "cannot canonicalize approved payload library"
  | some canonicalLibrary =>
    if ← receiptUnbound receipt facts canonicalLibrary runtime then
      fail "approval receipt does not authorize exact payload evidence"
    else do
      let (hash1, run1) ← validateAttestation host call root disk receipt facts runtime 0
      let (hash2, run2) ← validateAttestation host call root disk receipt facts runtime 1
      if run1 = [] ∨ run1 = run2 then fail "approval canaries do not have distinct run identities"
      else do
        let computed ← outcome (hashText host.sha256
          (generationEvidence runtime.buildId facts.fingerprint facts.profileSha256 facts.compatibilitySha256 hash1 hash2) 40)
        if computed ≠ facts.generation then fail "approval evidence generation does not match" else return ()

def validateCandidateApproval (activationJson : Text) (payload : PayloadIntegrity) : Outcome CandidateApprovalResult := do
  let activation ← parseArtifact host.lib activationJson
  let references ← readReferences call root activation payload.payloadId
  let documents ← outcome (readDocuments call disk payload.payloadId references)
  let receipt ← parseArtifact host.lib documents.receiptBytes
  let profile ← parseArtifact host.lib documents.profileBytes
  let compatibility ← parseArtifact host.lib documents.compatibilityBytes
  validateProfileBinding profile compatibility payload
  let facts ← approvalFacts host call root disk payload references.generation documents
  validateEvidence host call root disk receipt facts
  return { generation := references.generation, profile := references.profile, compatibilityManifest := references.compatibility,
           receipt := references.receipt }

end

/-! ## Creating an approval -/

/-- Go on with what a part gives, or return what there is with its error. -/
def orReturn {α ρ : Type} (withError : Text → ρ) (part : StoreM α) (rest : α → StoreM ρ) : StoreM ρ := do
  match ← Program.caught part with
  | .ok a => rest a
  | .error (.error text) => pure (withError text)
  | .error .abort => Program.done (.error .abort)

/-- `WriteExclusive` with mode 0444. -/
def writeExclusive (call : Call) (root directory name : Text) (contents : Text) : StoreM Unit := do
  let path := artifactPath root directory name
  let key := FileKey.artifact directory name
  if call.fails (.createDirectory path) then failing (ascii "cannot create approval artifact directory")
  else do
    let disk ← Program.now
    match disk.files key with
    | some file =>
      match readArtifact call .existing path true (some file) with
      | .ok existing => if existing = contents then pure () else failing (ascii "immutable approval generation collision")
      | .error _ => failing (ascii "immutable approval generation collision")
    | none => do
      let temporary := FileKey.artifact directory
        (ascii ".approval-" ++ ascii (toString call.pid) ++ ascii "-" ++ ascii (toString (call.steady path)))
      if call.fails (.createArtifact path) || (disk.files temporary).isSome then failing (ascii "cannot create approval artifact")
      else do
        Program.emit (.file temporary (some (.data [] newFile false)))
        match call.faults (.writeArtifact path) with
        | some fault => do
          Program.emit (.file temporary (some (.data (contents.take fault.progress) newFile false)))
          discard call (.removeArtifact path) temporary
          failing (ascii "cannot write approval artifact")
        | none => do
          Program.emit (.file temporary (some (.data contents newFile false)))
          if call.fails (.sealArtifact path) then do
            discard call (.removeArtifact path) temporary
            failing (ascii "cannot make approval artifact immutable")
          else do
            Program.emit (.file temporary (some (.data contents { foreign := false, writable := false } true)))
            if call.fails (.publishArtifact path) then do
              discard call (.removeArtifact path) temporary
              failing (ascii "cannot publish approval artifact")
            else Program.emit (.rename temporary key)

/-- A candidate, in files outside the store. -/
structure Candidate where
  profilePath : Text
  profile : Option StoreFile
  compatibilityPath : Text
  compatibility : Option StoreFile
  log1Path : Text
  log1 : FileState
  log2Path : Text
  log2 : FileState

/-- An object in the order of its keys. -/
def makeObject (fields : List (String × Json)) : Members :=
  fields.foldl (fun members field => insertMember (ascii field.1) field.2 members) []

/-- `dump(2)` and a newline. -/
def dumpDocument (lib : JsonLibrary) (members : Members) : Outcome Text :=
  match lib.dump (.object members) with
  | none => .error .abort
  | some text => .ok (text ++ [0x0a])

section
variable (host : Host) (call : Call) (root : Text)

/-- The documents of a candidate, which name the payload. -/
def readCandidate (candidate : Candidate) (payload : PayloadIntegrity) : Outcome (Bytes × Bytes) := do
  let (profileBytes, compatibilityBytes) ← outcome (lastError
    (readArtifact call .candidate candidate.profilePath false candidate.profile)
    (readArtifact call .candidate candidate.compatibilityPath false candidate.compatibility))
  let profile ← parseArtifact host.lib profileBytes
  let compatibility ← parseArtifact host.lib compatibilityBytes
  validateProfileBinding profile compatibility payload
  return (profileBytes, compatibilityBytes)

/-- The hashes of the runtime and of the payload. An error of the metadata's hash replaces one of the runtime's. -/
def runtimeAndFingerprint (path : Text) (directory : PayloadDirectory) (payload : PayloadIntegrity) (runtimePath : Text) :
    Except Text (Text × Text) :=
  match hashRegularFile host.sha256 runtimePath call.runtime with
  | .error e =>
    match hashMetadata host call .candidate path directory with
    | .error e' => .error e'
    | .ok _ => .error e
  | .ok runtimeSha256 =>
    match payloadRuntimeFingerprint host call .candidate path directory payload with
    | .error e => .error e
    | .ok fingerprint => .ok (runtimeSha256, fingerprint)

/-- What an attestation and a receipt are made of. -/
structure CanaryFacts where
  payload : PayloadIntegrity
  fingerprint : Text
  profileSha256 : Text
  compatibilitySha256 : Text
  runtimeSha256 : Text
  runtimeBuildId : Text

def attestationDocument (facts : CanaryFacts) (run : Nat) (logSha256 : Text) : Members :=
  let runId := facts.payload.payloadId ++ ascii "-" ++ ascii (toString run) ++ ascii "-" ++
    ascii (toString call.epoch.val) ++ ascii "-" ++ ascii (toString call.pid)
  makeObject
    [("schema_version", .integer 1), ("status", .string (ascii "passed")), ("canary_tier", .string (ascii "C")),
     ("run", .unsigned run), ("run_id", .string runId), ("payload_id", .string facts.payload.payloadId),
     ("payload_fingerprint", .string facts.fingerprint),
     ("profile_sha256", .string facts.profileSha256), ("compatibility_manifest_sha256", .string facts.compatibilitySha256),
     ("runtime_sha256", .string facts.runtimeSha256), ("runtime_build_id", .string facts.runtimeBuildId),
     ("readiness_log_sha256", .string logSha256)]

/-- The text of an attestation and its hash. -/
def makeAttestation (facts : CanaryFacts) (run : Nat) (logPath : Text) (log : FileState) : Outcome (Text × Text) := do
  let logSha256 ← outcome (hashRegularFile host.sha256 logPath log)
  let text ← dumpDocument host.lib (attestationDocument call facts run logSha256)
  let hash ← outcome (hashText host.sha256 text 64)
  return (text, hash)

def receiptDocument (facts : CanaryFacts) (generation canonicalLibrary hash1 hash2 : Text) : Members :=
  makeObject
    [("schema_version", .integer 1), ("status", .string (ascii "approved")), ("payload_id", .string facts.payload.payloadId),
     ("generation", .string generation), ("payload_path", .string canonicalLibrary),
     ("elf_build_id", .string facts.payload.metadata.buildId), ("payload_sha256", .string facts.payload.metadata.librarySha256),
     ("payload_fingerprint", .string facts.fingerprint), ("profile_sha256", .string facts.profileSha256),
     ("compatibility_manifest_sha256", .string facts.compatibilitySha256), ("canary_runtime_sha256", .string facts.runtimeSha256),
     ("runtime_sha256", .string facts.runtimeSha256), ("runtime_build_id", .string facts.runtimeBuildId),
     ("canary_tier", .string (ascii "C")), ("successful_runs", .integer 2),
     ("canary_attestation_sha256", .array [.string hash1, .string hash2]), ("approved_at", .string call.utcTimestamp)]

/-- `CopyImmutable`: the file is read once more. -/
def copyImmutable (path : Text) (file : Option StoreFile) (directory name : Text) : StoreM Unit := do
  let contents ← Program.done (outcome (readArtifact call .copy path false file))
  writeExclusive call root directory name contents

/-- The receipt of an approval whose other artifacts are written. -/
def writeReceipt (facts : CanaryFacts) (payloadDirectory generation hash1 hash2 : Text) : StoreM Unit :=
  match call.canonical (assetPath payloadDirectory (ascii "libroblox.so")) with
  | none => failing (ascii "cannot canonicalize approved payload library")
  | some canonicalLibrary => do
    let text ← Program.done (dumpDocument host.lib (receiptDocument call facts generation canonicalLibrary hash1 hash2))
    writeExclusive call root approvals (documentName facts.payload.payloadId generation) text

/-- All artifacts of an approval, one after the other. -/
def writeApproval (candidate : Candidate) (facts : CanaryFacts) (payloadDirectory generation : Text)
    (attestation1 attestation2 : Text × Text) :
    StoreM Unit := do
  let name := documentName facts.payload.payloadId generation
  copyImmutable call root candidate.profilePath candidate.profile hostAbiProfiles name
  copyImmutable call root candidate.compatibilityPath candidate.compatibility compatibilityProfiles name
  writeExclusive call root approvals (attestationName facts.payload.payloadId generation 1) attestation1.1
  writeExclusive call root approvals (attestationName facts.payload.payloadId generation 2) attestation2.1
  writeReceipt host call root facts payloadDirectory generation attestation1.2 attestation2.2

/-- The texts of the two attestations with their hashes, and the generation of all evidence. -/
def makeEvidence (candidate : Candidate) (facts : CanaryFacts) : Outcome ((Text × Text) × (Text × Text) × Text) := do
  let attestation1 ← makeAttestation host call facts 1 candidate.log1Path candidate.log1
  let attestation2 ← makeAttestation host call facts 2 candidate.log2Path candidate.log2
  let generation ← outcome (hashText host.sha256
    (generationEvidence facts.runtimeBuildId facts.fingerprint facts.profileSha256 facts.compatibilitySha256
      attestation1.2 attestation2.2) 40)
  return (attestation1, attestation2, generation)

def createCandidateApproval (candidate : Candidate) (payloadDirectory runtimePath : Text) (directory : PayloadDirectory)
    (payload : PayloadIntegrity) : StoreM CandidateApprovalResult :=
  if payload.payloadId = [] ∨ fileName payloadDirectory ≠ payload.payloadId then
    pure { error := some (ascii "candidate approval requires a preverified exact payload") }
  else if candidate.log1Path = [] ∨ candidate.log2Path = [] ∨ candidate.log1Path = candidate.log2Path then
    pure { error := some (ascii "candidate approval requires two distinct canary logs") }
  else
    orReturn (fun text => { error := some text }) (Program.done do
      let (profileBytes, compatibilityBytes) ← readCandidate host call candidate payload
      let profileSha256 ← outcome (hashText host.sha256 profileBytes 64)
      let compatibilitySha256 ← outcome (hashText host.sha256 compatibilityBytes 64)
      let (runtimeSha256, fingerprint) ← outcome (runtimeAndFingerprint host call payloadDirectory directory payload runtimePath)
      return (profileSha256, compatibilitySha256, runtimeSha256, fingerprint))
        fun (profileSha256, compatibilitySha256, runtimeSha256, fingerprint) =>
    match call.runtimeBuildId with
    | .error e => pure { error := some e }
    | .ok runtimeBuildId =>
      -- A build ID that was read has no error to report.
      if lowerHex runtimeBuildId 40 = false then pure {}
      else
        let facts : CanaryFacts := { payload, fingerprint, profileSha256, compatibilitySha256, runtimeSha256, runtimeBuildId }
        orReturn (fun text => { error := some text }) (Program.done (makeEvidence host call candidate facts))
          fun (attestation1, attestation2, generation) =>
        let name := documentName payload.payloadId generation
        let result : CandidateApprovalResult :=
          { generation, profile := artifactPath root hostAbiProfiles name,
            compatibilityManifest := artifactPath root compatibilityProfiles name, receipt := artifactPath root approvals name }
        orReturn (fun text => { result with error := some text })
          (writeApproval host call root candidate facts payloadDirectory generation attestation1 attestation2) fun _ =>
            pure result

end

end Mocktail.Update

/-
  Mocktail.Compat.ApprovalReceipt — the approval receipt at load time
  (src/compat/host_abi_profile_loader.cc).

  The loader reads the receipt of an approval and its two canary attestations anew, with a
  parser that knows no comments, a limit of 64 KiB, integers that must be integers and run IDs
  of one form. What the file system finds at a path is a parameter, as are SHA-256 and the
  parser.
-/

import Mocktail.Update.CandidateApproval

namespace Mocktail.Compat

open Mocktail.Lib Mocktail.Launch Mocktail.Update

def kMaximumReceiptBytes : Nat := 64 * 1024

structure Permissions where
  /-- Owned by the current user. -/
  owned : Bool
  othersWrite : Bool
  ownerWrites : Bool
  deriving DecidableEq, Repr

inductive Contents where
  | unopenable
  | unreadable
  | bytes (bytes : Bytes)
  deriving DecidableEq, Repr

/-- What `lstat` and reading find at a path. -/
inductive Node where
  | missing
  | link
  | irregular
  | regular (permissions : Permissions) (size : Nat) (contents : Contents)
  deriving DecidableEq, Repr

structure System where
  node : Text → Node
  /-- `std::filesystem::canonical`. -/
  canonical : Text → Option Text
  sha256 : Sha256
  /-- `Json::parse` without comments. -/
  parse : Text → Option Json
  /-- The system's message for a path that is not there. -/
  strerror : Text

section
variable (system : System)

def readSmallRegularFile (path : Text) (maximumBytes : Nat) (requireImmutable : Bool) : Except Text Bytes :=
  match system.node path with
  | .missing => .error (ascii "lstat(" ++ path ++ ascii "): " ++ system.strerror)
  | .link | .irregular => .error (ascii "not a regular non-symlink file: " ++ path)
  | .regular permissions size contents =>
    if permissions.owned = false then .error (ascii "file is not owned by the current user: " ++ path)
    else if permissions.othersWrite then .error (ascii "file is group- or world-writable: " ++ path)
    else if requireImmutable ∧ permissions.ownerWrites then .error (ascii "approval evidence is owner-writable: " ++ path)
    else if maximumBytes < size then .error (ascii "file exceeds the accepted size limit: " ++ path)
    else
      match contents with
      | .unopenable => .error (ascii "cannot open file: " ++ path)
      | .unreadable => .error (ascii "cannot read file: " ++ path)
      | .bytes bytes => .ok bytes

def canonicalRegularPath (path : Text) : Except Text Text :=
  if path.head? ≠ some 0x2f then .error (ascii "path must be absolute: " ++ path)
  else
    match system.node path with
    | .missing => .error (ascii "lstat(" ++ path ++ ascii "): " ++ system.strerror)
    | .link => .error (ascii "symlink paths are not accepted: " ++ path)
    | _ =>
      match system.canonical path with
      | none => .error (ascii "cannot canonicalize " ++ path ++ ascii ": " ++ system.strerror)
      | some canonical =>
        match system.node canonical with
        | .regular .. => .ok canonical
        | _ => .error (ascii "canonical path is not a regular file: " ++ canonical)

def parseJsonFile (path : Text) (maximumBytes : Nat) (requireImmutable : Bool) : Except Text (Bytes × Members) :=
  match readSmallRegularFile system path maximumBytes requireImmutable with
  | .error text => .error text
  | .ok bytes =>
    match system.parse bytes with
    | some (.object members) => .ok (bytes, members)
    | _ => .error (ascii "invalid JSON object: " ++ path)

/-- All digits for a limit of 0; empty where the digest fails. -/
def computeSha256Hex (bytes : Bytes) (maxChars : Nat) : Text :=
  match system.sha256 bytes with
  | .digest hash => if maxChars = 0 then hex hash else (hex hash).take maxChars
  | _ => []

def computeFileSha256 (path : Text) : Option Text :=
  match system.node path with
  | .regular _ _ (.bytes bytes) =>
    match system.sha256 bytes with
    | .digest hash => some (hex hash)
    | _ => none
  | _ => none

end

/-! ## Fields -/

def readRequiredString (members : Members) (name : String) : Option Text :=
  match findMember members (ascii name) with
  | some (.string text) => some text
  | _ => none

def readSize (maximum : Nat) : Json → Option Nat
  | .unsigned value => if maximum < value then none else some value
  | .integer value => if value < 0 ∨ (maximum : Int) < value then none else some value.toNat
  | _ => none

def readRequiredSize (members : Members) (name : String) (maximum : Nat) : Option Nat :=
  (findMember members (ascii name)).bind (readSize maximum)

def isDecimal (value : Text) : Bool := !value.isEmpty && value.all fun c => 0x30 ≤ c.toNat && c.toNat ≤ 0x39

/-- `PAYLOAD-RUN-NUMBER-NUMBER`. -/
def validateCanaryRunId (runId payloadId : Text) (run : Nat) : Bool :=
  let front := payloadId ++ ascii "-" ++ ascii (toString run) ++ ascii "-"
  let suffix := runId.drop front.length
  let second := (suffix.dropWhile (· != 0x2d)).drop 1
  decide (front.length < runId.length) && runId.take front.length == front && suffix.contains 0x2d && !second.contains 0x2d &&
    isDecimal (suffix.takeWhile (· != 0x2d)) && isDecimal second

/-! ## Attestations and the receipt -/

/-- What an attestation has to agree with. -/
structure AttestationFacts where
  payloadId : Text
  payloadFingerprint : Text
  profileSha256 : Text
  compatibilityManifestSha256 : Text
  runtimeSha256 : Text
  runtimeBuildId : Text

/-- The run ID of an attestation that agrees. -/
def attestedRun (attestation : Members) (expectedRun : Nat) (facts : AttestationFacts) : Option Text := do
  let runId ← readRequiredString attestation "run_id"
  if readRequiredSize attestation "schema_version" 1 = some 1 ∧ readRequiredString attestation "status" = some (ascii "passed") ∧
      readRequiredString attestation "canary_tier" = some (ascii "C") ∧ readRequiredSize attestation "run" 2 = some expectedRun ∧
      validateCanaryRunId runId facts.payloadId expectedRun = true ∧
      readRequiredString attestation "payload_id" = some facts.payloadId ∧
      readRequiredString attestation "payload_fingerprint" = some facts.payloadFingerprint ∧
      readRequiredString attestation "profile_sha256" = some facts.profileSha256 ∧
      readRequiredString attestation "compatibility_manifest_sha256" = some facts.compatibilityManifestSha256 ∧
      readRequiredString attestation "runtime_sha256" = some facts.runtimeSha256 ∧
      readRequiredString attestation "runtime_build_id" = some facts.runtimeBuildId ∧
      (readRequiredString attestation "readiness_log_sha256").any (lowerHex · 64) = true then some runId
  else none

/-- Its hash and its run ID. -/
structure CanaryEvidence where
  sha256 : Text
  runId : Text
  deriving DecidableEq, Repr

def validateCanaryAttestation (system : System) (path : Text) (expectedRun : Nat) (facts : AttestationFacts) :
    Except Text CanaryEvidence := do
  let (bytes, attestation) ← parseJsonFile system path kMaximumReceiptBytes true
  match attestedRun attestation expectedRun facts with
  | none => .error (ascii "canary attestation does not match the exact approval evidence")
  | some runId =>
    if computeSha256Hex system bytes 0 = [] then .error (ascii "cannot compute canary attestation SHA-256")
    else .ok { sha256 := computeSha256Hex system bytes 0, runId }

/-- What the loader knows when it asks for the receipt. -/
structure ReceiptRequest where
  receiptPath : Text
  canonicalPayloadPath : Text
  payloadSha256 : Text
  profileSha256 : Text
  payloadId : Text
  buildId : Text
  compatibilityManifestPath : Text

/-- What the later checks need of a receipt. -/
structure ReceiptFields where
  generation : Text
  runtimeBuildId : Text
  runtimeSha256 : Text
  manifestSha256 : Text
  payloadFingerprint : Text

/-- The fields of a receipt that authorizes the profile and the payload. -/
def receiptFields (receipt : Members) (request : ReceiptRequest) : Option ReceiptFields := do
  let generation ← readRequiredString receipt "generation"
  let runtimeBuildId ← readRequiredString receipt "runtime_build_id"
  let runtimeSha256 ← readRequiredString receipt "canary_runtime_sha256"
  let manifestSha256 ← readRequiredString receipt "compatibility_manifest_sha256"
  let payloadFingerprint ← readRequiredString receipt "payload_fingerprint"
  if readRequiredSize receipt "schema_version" 1 = some 1 ∧ readRequiredString receipt "status" = some (ascii "approved") ∧
      readRequiredString receipt "payload_id" = some request.payloadId ∧ lowerHex generation 40 = true ∧
      readRequiredSize receipt "successful_runs" 2 = some 2 ∧ readRequiredString receipt "canary_tier" = some (ascii "C") ∧
      readRequiredString receipt "elf_build_id" = some request.buildId ∧
      readRequiredString receipt "payload_path" = some request.canonicalPayloadPath ∧
      readRequiredString receipt "payload_sha256" = some request.payloadSha256 ∧
      readRequiredString receipt "profile_sha256" = some request.profileSha256 ∧ lowerHex runtimeBuildId 40 = true ∧
      lowerHex runtimeSha256 64 = true ∧ readRequiredString receipt "runtime_sha256" = some runtimeSha256 ∧
      lowerHex payloadFingerprint 64 = true then
        some { generation, runtimeBuildId, runtimeSha256, manifestSha256, payloadFingerprint }
  else none

section
variable (system : System)

/-- The attestation that stands beside the receipt. -/
def adjacentAttestation (receiptPath payloadId generation : Text) (run : Nat) : Except Text Text :=
  let name := attestationName payloadId generation run
  match canonicalRegularPath system (assetPath (parentPath receiptPath) name) with
  | .ok canonical =>
    if parentPath canonical = parentPath receiptPath ∧ fileName canonical = name then .ok canonical
    else .error (ascii "approval receipt is missing an adjacent canary attestation")
  | .error _ => .error (ascii "approval receipt is missing an adjacent canary attestation")

/-- One run of the loop over the attestations. -/
def adjacentEvidence (request : ReceiptRequest) (fields : ReceiptFields) (run : Nat) : Except Text CanaryEvidence := do
  let path ← adjacentAttestation system request.receiptPath request.payloadId fields.generation run
  validateCanaryAttestation system path run
    { payloadId := request.payloadId, payloadFingerprint := fields.payloadFingerprint, profileSha256 := request.profileSha256,
      compatibilityManifestSha256 := fields.manifestSha256, runtimeSha256 := fields.runtimeSha256,
      runtimeBuildId := fields.runtimeBuildId }

/-- The hashes that a receipt binds. -/
def boundHashes (receipt : Members) (first second : CanaryEvidence) : Except Text Unit :=
  match findMember receipt (ascii "canary_attestation_sha256") with
  | some (.array [hash1, hash2]) =>
    if sameText hash1 first.sha256 ∧ sameText hash2 second.sha256 then .ok ()
    else .error (ascii "approval receipt canary attestation hash does not match")
  | _ => .error (ascii "approval receipt must bind exactly two canary attestations")
where
  sameText (value : Json) (text : Text) : Bool :=
    match value with
    | .string found => found == text
    | _ => false

def validateReceipt (request : ReceiptRequest) : Except Text Unit := do
  let (_, receipt) ← parseJsonFile system request.receiptPath kMaximumReceiptBytes true
  match receiptFields receipt request with
  | none => .error (ascii "approval receipt does not authorize the exact ABI profile and payload")
  | some fields =>
    if fileName request.receiptPath ≠ documentName request.payloadId fields.generation then
      .error (ascii "approval receipt filename does not match its evidence generation")
    else
      match computeFileSha256 system request.compatibilityManifestPath with
      | none => .error (ascii "cannot hash compatibility manifest for approval receipt")
      | some manifestSha256 =>
        if fields.manifestSha256 ≠ manifestSha256 then .error (ascii "approval receipt belongs to different compatibility bytes")
        else do
          let first ← adjacentEvidence system request fields 1
          let second ← adjacentEvidence system request fields 2
          if first.runId = second.runId then .error (ascii "approval receipt canary attestations reuse one run ID")
          else do
            boundHashes receipt first second
            let evidence := generationEvidence fields.runtimeBuildId fields.payloadFingerprint request.profileSha256
              manifestSha256
              first.sha256 second.sha256
            if fields.generation ≠ computeSha256Hex system evidence 40 then
              .error (ascii "approval receipt evidence generation does not match")
            else .ok ()

end

end Mocktail.Compat

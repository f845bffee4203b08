/-
  Mocktail.Update.ApprovalAdmission — an accepted approval, step by step.

  `ValidateCandidateApproval` accepts if and only if each of its steps gives what the next one
  takes. `Admission` is what the steps give, `Admits` says that they give it.
-/

import Mocktail.Update.ApprovalEvidence

namespace Mocktail.Update

open Mocktail.Lib Mocktail.Launch

/-! ## Steps -/

variable {α : Type}

theorem unless_eq_ok {check : Outcome Bool} {text : String} {rest : Outcome α} {a : α} :
    (do if ← check then fail text else rest) = .ok a ↔ check = .ok false ∧ rest = .ok a := by
  constructor
  · exact unless_ok
  · intro h
    rw [bind_of_ok _ h.1]
    exact h.2

theorem ite_fail_eq_ok {c : Prop} [Decidable c] {text : String} {rest : Outcome α} {a : α} :
    (if c then fail text else rest) = .ok a ↔ ¬ c ∧ rest = .ok a := by
  by_cases h : c
  · simp [h, fail]
  · simp [h]

variable {lib : JsonLibrary} {members : Members}

theorem parseArtifact_eq_ok {contents : Bytes} :
    parseArtifact lib contents = .ok members ↔ parseObject lib contents = some members := by
  constructor
  · exact parseArtifact_ok
  · intro h
    unfold parseArtifact
    rw [h]

theorem anyOf_eq_false {checks : List (Outcome Bool)} : anyOf checks = .ok false ↔ ∀ check ∈ checks, check = .ok false := by
  constructor
  · exact anyOf_false
  · intro h
    induction checks with
    | nil => rfl
    | cons check checks ih =>
      have hcheck := h check List.mem_cons_self
      subst hcheck
      exact ih fun c hc => h c (List.mem_cons_of_mem _ hc)

theorem differs_eq_false {name : String} {expected : Text} :
    differs members name expected = .ok false ↔ valueText members name = .ok expected := by
  constructor
  · exact differs_false
  · intro h
    unfold differs
    rw [h]
    simp [Except.map]

theorem map_eq_ok {α β : Type} {x : Outcome α} {f : α → β} {b : β} : x.map f = .ok b ↔ ∃ a, x = .ok a ∧ f a = b := by
  cases x with
  | error stop => simp [Except.map]
  | ok a => simp [Except.map]

/-! ## Names and paths -/

/-- A name in a directory. -/
def Slashless (name : Text) : Prop := 0x2f ∉ name

instance (name : Text) : Decidable (Slashless name) := inferInstanceAs (Decidable (0x2f ∉ name))

theorem Slashless.append {a b : Text} (ha : Slashless a) (hb : Slashless b) : Slashless (a ++ b) := by
  intro h
  rcases List.mem_append.mp h with h | h
  · exact ha h
  · exact hb h

theorem slashless_toString (n : Nat) : Slashless (ascii (toString n)) := by
  intro h
  have hdigit := ascii_toString_digit n _ h
  have hslash : (0x2f : UInt8).toNat = 47 := rfl
  omega

variable {index size : Nat}

theorem slashless_lowerHex {value : Text} (h : lowerHex value size = true) : Slashless value := by
  intro hmem
  unfold lowerHex at h
  rw [Bool.and_eq_true, List.all_eq_true] at h
  have hslash := h.2 _ hmem
  revert hslash
  decide

variable {directory front generation hash name payloadId : Text}

theorem takeWhile_slash (h : Slashless name) :
    (name.reverse ++ 0x2f :: front).takeWhile (· != 0x2f) = name.reverse := by
  rw [List.takeWhile_append_of_pos, List.takeWhile_cons_of_neg (by decide), List.append_nil]
  intro c hc
  simp only [bne_iff_ne, ne_eq]
  intro hslash
  exact h (hslash ▸ List.mem_reverse.mp hc)

theorem dropWhile_slash (h : Slashless name) :
    (name.reverse ++ 0x2f :: front).dropWhile (· != 0x2f) = 0x2f :: front := by
  rw [List.dropWhile_append_of_pos, List.dropWhile_cons_of_neg (by decide)]
  intro c hc
  simp only [bne_iff_ne, ne_eq]
  intro hslash
  exact h (hslash ▸ List.mem_reverse.mp hc)

theorem reverse_assetPath (front name : Text) : (assetPath front name).reverse = name.reverse ++ 0x2f :: front.reverse := by
  simp [assetPath, ascii]

theorem fileName_assetPath (h : Slashless name) : fileName (assetPath front name) = name := by
  rw [fileName, reverse_assetPath, takeWhile_slash h, List.reverse_reverse]

theorem parentPath_assetPath (h : Slashless name) (hfront : front ≠ []) : parentPath (assetPath front name) = front := by
  rw [parentPath, reverse_assetPath, dropWhile_slash h, List.reverse_cons, List.reverse_reverse]
  cases front with
  | nil => exact absurd rfl hfront
  | cons c front =>
    cases front with
    | nil => rfl
    | cons d front =>
      show (c :: d :: front ++ [0x2f]).dropLast = c :: d :: front
      exact List.dropLast_concat

/-- A path is its parent and its name, unless the parent is the root. -/
theorem path_eq {path : Text} (hparent : parentPath path = front) (hlong : 2 ≤ front.length) :
    path = assetPath front (fileName path) := by
  have hsplit := List.takeWhile_append_dropWhile (p := (· != 0x2f)) (l := path.reverse)
  have hpath : path = (path.reverse.dropWhile (· != 0x2f)).reverse ++ fileName path := by
    rw [fileName, ← List.reverse_append, hsplit, List.reverse_reverse]
  unfold parentPath at hparent
  split at hparent
  · subst hparent
    simp at hlong
  · subst hparent
    simp at hlong
  · rename_i hne _
    cases hdrop : path.reverse.dropWhile (· != 0x2f) with
    | nil => exact absurd (by rw [hdrop]; rfl) hne
    | cons c rest =>
      have hslash : c = 0x2f := by
        have hhead := List.head?_dropWhile_not (· != 0x2f) path.reverse
        rw [hdrop] at hhead
        simpa using hhead
      rw [hdrop, hslash, List.reverse_cons] at hparent hpath
      rw [List.dropLast_concat] at hparent
      rw [hparent] at hpath
      simpa [assetPath, ascii] using hpath

theorem slashless_documentName (hid : Slashless payloadId) (hgeneration : lowerHex generation 40 = true) :
    Slashless (documentName payloadId generation) :=
  ((hid.append (by decide)).append (slashless_lowerHex hgeneration)).append (by decide)

theorem slashless_attestationName (hid : Slashless payloadId) (hgeneration : lowerHex generation 40 = true)
    (run : Nat) : Slashless (attestationName payloadId generation run) :=
  (((((hid.append (by decide)).append (slashless_lowerHex hgeneration)).append (by decide)).append
    (slashless_toString run)).append (by decide))

/-! ## Verified payloads -/

/-- What an inspected payload is known by. -/
structure Identified (payload : PayloadIntegrity) : Prop where
  fields : goodFields payload.metadata = true
  payloadId : payload.payloadId = payloadIdOf payload.metadata.versionCode payload.metadata.buildId

variable {payload : PayloadIntegrity}

theorem inspectPreparedPayload_identified {abi : GuestAbi} {directory : PayloadDirectory}
    (h : inspectPreparedPayload lib abi directory = .ok payload) : Identified payload := by
  obtain ⟨_, -, h⟩ := bind_eq_ok.mp h
  obtain ⟨_, -, h⟩ := bind_eq_ok.mp h
  obtain ⟨metadata, -, h⟩ := bind_eq_ok.mp h
  split at h
  · rename_i hgood
    cases h
    exact ⟨hgood, rfl⟩
  · cases h

theorem Identified.buildId (h : Identified payload) : lowerHex payload.metadata.buildId 40 = true := by
  have hfields := h.fields
  unfold goodFields at hfields
  simp only [Bool.and_eq_true] at hfields
  exact hfields.1.1.1.1.2

theorem Identified.slashless (h : Identified payload) : Slashless payload.payloadId := by
  rw [h.payloadId]
  exact ((slashless_toString _).append (by decide)).append (slashless_lowerHex h.buildId)

theorem Identified.payloadId_ne (h : Identified payload) : payload.payloadId ≠ [] := by
  rw [h.payloadId]
  simp [payloadIdOf, ascii]

theorem Identified.head_ne (h : Identified payload) : payload.payloadId.head? ≠ some 0x2e := by
  rw [h.payloadId]
  unfold payloadIdOf
  have hdigit := ascii_toString_digit payload.metadata.versionCode
  intro hhead
  cases hcase : ascii (toString payload.metadata.versionCode) with
  | nil =>
    rw [hcase] at hhead
    revert hhead
    simp [ascii]
  | cons c rest =>
    rw [hcase] at hhead hdigit
    have hc : c = 0x2e := by simpa using hhead
    have hvalue : (0x2e : UInt8).toNat = 46 := rfl
    have hbound := hdigit c List.mem_cons_self
    rw [hc, hvalue] at hbound
    omega

theorem readFields_versionCode {abi : GuestAbi} {contents : Bytes} {metadata : PayloadMetadata}
    (h : readFields lib abi contents = .ok metadata) : metadata.versionCode < 2 ^ 64 := by
  unfold readFields at h
  split at h
  · cases h
  · obtain ⟨-, h⟩ := unless_eq_ok.mp h
    split at h
    · obtain ⟨_, -, h⟩ := bind_eq_ok.mp h
      obtain ⟨_, -, h⟩ := bind_eq_ok.mp h
      obtain ⟨_, -, h⟩ := bind_eq_ok.mp h
      obtain ⟨_, -, h⟩ := bind_eq_ok.mp h
      obtain ⟨_, -, h⟩ := bind_eq_ok.mp h
      obtain ⟨_, -, h⟩ := bind_eq_ok.mp h
      split at h
      · obtain ⟨_, -, h⟩ := bind_eq_ok.mp h
        cases h
        exact Nat.mod_lt _ (by decide)
      · cases h
    · cases h

/-! ## References -/

theorem extractGeneration_eq_some {relative suffix : Text} :
    extractGeneration relative directory payloadId suffix = some generation ↔
      relative = directory ++ ascii "/" ++ payloadId ++ ascii "-" ++ generation ++ suffix ∧ lowerHex generation 40 = true := by
  unfold extractGeneration
  dsimp only
  constructor
  · intro h
    split at h
    · rename_i hcheck
      obtain ⟨hlength, hfront, hsuffix, hhex⟩ := hcheck
      cases h
      refine ⟨?_, hhex⟩
      -- The front, the 40 digits and the rest, each by its length.
      have hrest : relative.drop (relative.length - suffix.length) =
          (relative.drop (directory ++ ascii "/" ++ payloadId ++ ascii "-").length).drop 40 := by
        rw [List.drop_drop]
        congr 1
        omega
      calc relative = relative.take (directory ++ ascii "/" ++ payloadId ++ ascii "-").length ++
            ((relative.drop (directory ++ ascii "/" ++ payloadId ++ ascii "-").length).take 40 ++
              (relative.drop (directory ++ ascii "/" ++ payloadId ++ ascii "-").length).drop 40) := by
            rw [List.take_append_drop, List.take_append_drop]
        _ = _ := by rw [hfront, ← hrest, hsuffix, ← List.append_assoc]
    · cases h
  · intro h
    obtain ⟨rfl, hhex⟩ := h
    have hsize := lowerHex_length hhex
    rw [List.append_assoc _ generation, List.drop_left, List.take_left' hsize, List.take_left]
    refine if_pos ⟨?_, rfl, ?_, hhex⟩
    · simp only [List.length_append, hsize]
      omega
    · rw [← List.append_assoc]
      refine List.drop_left' ?_
      simp only [List.length_append]
      omega

/-- A reference that resolves to the file of its name in its directory of the store. -/
def Resolves (call : Call) (root directory name found : Text) : Prop :=
  ∃ resolved, call.canonical root = some resolved ∧
    call.canonical (assetPath root (directory ++ ascii "/" ++ name)) = some found ∧
    parentPath found = assetPath resolved directory ∧ fileName found = fileName (directory ++ ascii "/" ++ name)

theorem validateRelativeApprovalPath_eq_ok {call : Call} {root found : Text}
    (hrelative : directory.head? ≠ some 0x2f) (hdirectory : directory ≠ []) :
    validateRelativeApprovalPath call root (directory ++ ascii "/" ++ documentName payloadId generation) directory
      payloadId generation = .ok found ↔
      Resolves call root directory (documentName payloadId generation) found := by
  have hhead : (directory ++ ascii "/" ++ documentName payloadId generation).head? ≠ some 0x2f := by
    cases directory with
    | nil => exact absurd rfl hdirectory
    | cons c rest => simpa using hrelative
  unfold validateRelativeApprovalPath Resolves
  rw [if_neg (by simpa using hhead)]
  cases call.canonical root with
  | none => simp
  | some resolved =>
    cases call.canonical (assetPath root (directory ++ ascii "/" ++ documentName payloadId generation)) with
    | none => simp
    | some canonical =>
      dsimp only
      by_cases hbad : parentPath canonical ≠ assetPath resolved directory ∨
          fileName canonical ≠ fileName (directory ++ ascii "/" ++ documentName payloadId generation)
      · rw [if_pos hbad]
        constructor
        · intro h
          cases h
        · intro h
          obtain ⟨_, hroot, hfound, hparent, hname⟩ := h
          cases hroot
          cases hfound
          rcases hbad with hbad | hbad
          · exact absurd hparent hbad
          · exact absurd hname hbad
      · rw [if_neg hbad]
        rw [not_or, Decidable.not_not, Decidable.not_not] at hbad
        constructor
        · intro h
          cases h
          exact ⟨resolved, rfl, rfl, hbad⟩
        · intro h
          obtain ⟨_, _, hfound, -⟩ := h
          cases hfound
          rfl

/-- The three references of an activation, and where they lead. -/
structure References (call : Call) (root : Text) (activation : Members) (payloadId : Text) (references : ApprovalReferences) :
    Prop where
  approval : valueText activation "approval_path" = .ok (approvals ++ ascii "/" ++ documentName payloadId references.generation)
  profile : valueText activation "host_abi_profile_path" =
    .ok (hostAbiProfiles ++ ascii "/" ++ documentName payloadId references.generation)
  compatibility : valueText activation "compatibility_manifest_path" =
    .ok (compatibilityProfiles ++ ascii "/" ++ documentName payloadId references.generation)
  generation : lowerHex references.generation 40 = true
  receiptPath : Resolves call root approvals (documentName payloadId references.generation) references.receipt
  profilePath : Resolves call root hostAbiProfiles (documentName payloadId references.generation) references.profile
  compatibilityPath : Resolves call root compatibilityProfiles (documentName payloadId references.generation)
    references.compatibility

theorem documentName_eq (directory payloadId generation : Text) :
    directory ++ ascii "/" ++ payloadId ++ ascii "-" ++ generation ++ ascii ".json" =
      directory ++ ascii "/" ++ documentName payloadId generation := by
  simp [documentName, stem]

theorem readReferences_eq_ok {call : Call} {root : Text} {activation : Members} {references : ApprovalReferences} :
    readReferences call root activation payloadId = .ok references ↔ References call root activation payloadId references := by
  unfold readReferences
  constructor
  · intro h
    obtain ⟨approvalRef, happroval, h⟩ := bind_eq_ok.mp h
    obtain ⟨profileRef, hprofile, h⟩ := bind_eq_ok.mp h
    obtain ⟨compatibilityRef, hcompatibility, h⟩ := bind_eq_ok.mp h
    split at h
    · cases h
    · rename_i generation hgeneration
      obtain ⟨hnames, h⟩ := ite_fail_eq_ok.mp h
      rw [not_or, Decidable.not_not, Decidable.not_not] at hnames
      obtain ⟨rfl, rfl⟩ := hnames
      obtain ⟨hrelative, hhex⟩ := extractGeneration_eq_some.mp hgeneration
      rw [documentName_eq] at hrelative
      subst hrelative
      obtain ⟨receipt, hreceiptPath, h⟩ := bind_eq_ok.mp h
      obtain ⟨profile, hprofilePath, h⟩ := bind_eq_ok.mp h
      obtain ⟨compatibility, hcompatibilityPath, h⟩ := bind_eq_ok.mp h
      cases h
      exact ⟨happroval, hprofile, hcompatibility, hhex,
        (validateRelativeApprovalPath_eq_ok (by decide) (by decide)).mp (outcome_eq_ok.mp hreceiptPath),
        (validateRelativeApprovalPath_eq_ok (by decide) (by decide)).mp (outcome_eq_ok.mp hprofilePath),
        (validateRelativeApprovalPath_eq_ok (by decide) (by decide)).mp (outcome_eq_ok.mp hcompatibilityPath)⟩
  · intro h
    rw [bind_of_ok _ h.approval, bind_of_ok _ h.profile, bind_of_ok _ h.compatibility]
    have hgeneration : extractGeneration (approvals ++ ascii "/" ++ documentName payloadId references.generation)
        approvals payloadId
        (ascii ".json") = some references.generation := extractGeneration_eq_some.mpr ⟨(documentName_eq _ _ _).symm, h.generation⟩
    rw [hgeneration]
    dsimp only
    refine ite_fail_eq_ok.mpr ⟨by simp, ?_⟩
    rw [bind_of_ok _ (outcome_eq_ok.mpr ((validateRelativeApprovalPath_eq_ok (by decide) (by decide)).mpr h.receiptPath)),
      bind_of_ok _ (outcome_eq_ok.mpr ((validateRelativeApprovalPath_eq_ok (by decide) (by decide)).mpr h.profilePath)),
      bind_of_ok _ (outcome_eq_ok.mpr ((validateRelativeApprovalPath_eq_ok (by decide) (by decide)).mpr h.compatibilityPath))]
    rfl

/-! ## Sealed files -/

/-- A regular file of the user's that nobody may write. -/
def Sealed (file : Option StoreFile) (bytes : Bytes) : Prop :=
  ∃ synced, file = some (.data bytes { foreign := false, writable := false } synced)

variable {file : Option StoreFile}

theorem Sealed.bytes {bytes : Bytes} (h : Sealed file bytes) : fileBytes file = some bytes := by
  obtain ⟨synced, rfl⟩ := h
  rfl

theorem lowerHex_hex {bytes : Bytes} (h : 2 * bytes.length = size) : lowerHex (hex bytes) size = true := by
  have hdigit : ∀ n < 16, isLowerHexDigit (hexDigitOf n) = true := by decide
  unfold lowerHex
  rw [Bool.and_eq_true, beq_iff_eq, List.all_eq_true, length_hex]
  refine ⟨h, ?_⟩
  intro c hc
  obtain ⟨b, -, hc⟩ := List.mem_flatMap.mp hc
  have hbound := b.toNat_lt
  simp only [List.mem_cons, List.not_mem_nil, or_false] at hc
  rcases hc with rfl | rfl
  · exact hdigit _ (by omega)
  · exact hdigit _ (by omega)

theorem HexOf.lowerHex {sha256 : Sha256} {bytes : Bytes} {digits : Text} (h : HexOf sha256 bytes digits) :
    lowerHex digits 64 = true := by
  obtain ⟨hash, -, hsize, rfl⟩ := h
  exact lowerHex_hex (by omega)

variable {reader : Reader} {path : Text}

theorem readArtifact_sealed {call : Call} {bytes : Bytes}
    (h : readArtifact call reader path true file = .ok bytes) : Sealed file bytes ∧ bytes.length ≤ 1024 * 1024 := by
  have hbytes := readArtifact_ok h
  unfold readArtifact at h
  dsimp only at h
  split at h
  · cases h
  · cases file with
    | none => cases hbytes
    | some file =>
      cases file with
      | unopenable => cases hbytes
      | directory => cases hbytes
      | special => cases hbytes
      | unreadable size access => cases hbytes
      | data found access synced =>
        cases hbytes
        dsimp only at h
        split at h
        · cases h
        · rename_i hproper
          simp only [Bool.true_and, Bool.or_eq_true, decide_eq_true_eq, not_or, Bool.not_eq_true, Nat.not_lt] at hproper
          obtain ⟨⟨⟨-, hforeign⟩, hsize⟩, hwritable⟩ := hproper
          obtain ⟨foreign, writable⟩ := access
          simp only at hforeign hwritable
          subst hforeign hwritable
          exact ⟨⟨synced, rfl⟩, hsize⟩

theorem readArtifact_size {call : Call} {requireImmutable : Bool} {bytes : Bytes}
    (h : readArtifact call reader path requireImmutable file = .ok bytes) : bytes.length ≤ 1024 * 1024 := by
  have hbytes := readArtifact_ok h
  unfold readArtifact at h
  dsimp only at h
  split at h
  · cases h
  · split at h
    · cases hbytes
    · cases hbytes
    · cases hbytes
    · cases hbytes
    · cases hbytes
    · cases hbytes
      split at h
      · cases h
      · rename_i hproper
        simp only [Bool.or_eq_true, decide_eq_true_eq, not_or, Nat.not_lt] at hproper
        exact hproper.1.2

/-- A call in which no step fails. -/
def Call.Quiet (call : Call) : Prop := ∀ site, call.faults site = none

theorem Call.Quiet.fails {call : Call} (h : call.Quiet) (site : Site) : call.fails site = false := by
  unfold Call.fails
  rw [h site]
  rfl

theorem readArtifact_of_sealed {call : Call} {requireImmutable : Bool} {bytes : Bytes}
    (hquiet : call.Quiet) (h : Sealed file bytes) (hsize : bytes.length ≤ 1024 * 1024) :
    readArtifact call reader path requireImmutable file = .ok bytes := by
  obtain ⟨synced, rfl⟩ := h
  have hsize : ¬ 1024 * 1024 < bytes.length := by omega
  simp [readArtifact, hquiet.fails, hsize]

/-! ## What is compared -/

theorem otherSchema_eq_false : otherSchema members = .ok false ↔ valueInt members "schema_version" = .ok 1 := by
  unfold otherSchema
  rw [map_eq_ok]
  constructor
  · intro h
    obtain ⟨found, hfound, hsame⟩ := h
    have hsame : found = 1 := by simpa using hsame
    rw [hfound, hsame]
  · intro h
    exact ⟨1, h, rfl⟩

/-- The fields of an accepted receipt. -/
structure ReceiptBound (receipt : Members) (facts : ApprovalFacts) (library : Text) (runtime : RuntimeClaim) : Prop where
  schema : valueInt receipt "schema_version" = .ok 1
  status : valueText receipt "status" = .ok (ascii "approved")
  payloadId : valueText receipt "payload_id" = .ok facts.payload.payloadId
  generation : valueText receipt "generation" = .ok facts.generation
  path : valueText receipt "payload_path" = .ok library
  buildId : valueText receipt "elf_build_id" = .ok facts.payload.metadata.buildId
  librarySha256 : valueText receipt "payload_sha256" = .ok facts.payload.metadata.librarySha256
  fingerprint : valueText receipt "payload_fingerprint" = .ok facts.fingerprint
  profileSha256 : valueText receipt "profile_sha256" = .ok facts.profileSha256
  compatibilitySha256 : valueText receipt "compatibility_manifest_sha256" = .ok facts.compatibilitySha256
  canaryRuntime : lowerHex runtime.canarySha256 64 = true
  sameRuntime : runtime.sha256 = runtime.canarySha256
  runtimeBuildId : lowerHex runtime.buildId 40 = true
  tier : valueText receipt "canary_tier" = .ok (ascii "C")
  runs : valueInt receipt "successful_runs" = .ok 2
  hashes : ∃ hash1 hash2, findMember receipt (ascii "canary_attestation_sha256") = some (.array [hash1, hash2])

theorem twoHashes_eq_false {member : Option Json} :
    (match member with
      | some (.array [_, _]) => false
      | _ => true) = false ↔ ∃ hash1 hash2, member = some (.array [hash1, hash2]) := by
  constructor
  · intro h
    split at h
    · exact ⟨_, _, rfl⟩
    · cases h
  · intro h
    obtain ⟨hash1, hash2, rfl⟩ := h
    rfl

variable {facts : ApprovalFacts} {runtime : RuntimeClaim} {receipt : Members}

theorem receiptUnbound_eq_false {library : Text} :
    receiptUnbound receipt facts library runtime = .ok false ↔ ReceiptBound receipt facts library runtime := by
  unfold receiptUnbound
  simp only [anyOf_eq_false, List.forall_mem_cons, otherSchema_eq_false, differs_eq_false, Except.ok.injEq, Bool.not_eq_false',
    decide_eq_false_iff_not, ne_eq, Decidable.not_not, map_eq_ok, exists_eq_right, List.not_mem_nil, false_implies,
    implies_true, and_true]
  constructor
  · intro h
    obtain ⟨h1, h2, h3, h4, h5, h6, h7, h8, h9, h10, h11, h12, h13, h14, h15, h16⟩ := h
    exact ⟨h1, h2, h3, h4, h5, h6, h7, h8, h9, h10, h11, h12, h13, h14, h15, twoHashes_eq_false.mp h16⟩
  · intro h
    exact ⟨h.schema, h.status, h.payloadId, h.generation, h.path, h.buildId, h.librarySha256, h.fingerprint, h.profileSha256,
      h.compatibilitySha256, h.canaryRuntime, h.sameRuntime, h.runtimeBuildId, h.tier, h.runs, twoHashes_eq_false.mpr h.hashes⟩

/-- The fields of an accepted attestation. -/
structure AttestationBound (attestation receipt : Members) (facts : ApprovalFacts) (runtime : RuntimeClaim) (index : Nat)
    (hash : Text) : Prop where
  schema : valueInt attestation "schema_version" = .ok 1
  status : valueText attestation "status" = .ok (ascii "passed")
  tier : valueText attestation "canary_tier" = .ok (ascii "C")
  run : valueUnsigned 32 attestation "run" = .ok (index + 1)
  payloadId : valueText attestation "payload_id" = .ok facts.payload.payloadId
  fingerprint : valueText attestation "payload_fingerprint" = .ok facts.fingerprint
  profileSha256 : valueText attestation "profile_sha256" = .ok facts.profileSha256
  compatibilitySha256 : valueText attestation "compatibility_manifest_sha256" = .ok facts.compatibilitySha256
  runtimeSha256 : valueText attestation "runtime_sha256" = .ok runtime.canarySha256
  runtimeBuildId : valueText attestation "runtime_build_id" = .ok runtime.buildId
  log : ∃ digits, valueText attestation "readiness_log_sha256" = .ok digits ∧ lowerHex digits 64 = true
  recorded : recordedAttestation receipt index = some hash

theorem attestationUnbound_eq_false {attestation receipt : Members} :
    attestationUnbound attestation receipt facts runtime index hash = .ok false ↔
      AttestationBound attestation receipt facts runtime index hash := by
  unfold attestationUnbound
  simp only [anyOf_eq_false, List.forall_mem_cons, otherSchema_eq_false, differs_eq_false, Except.ok.injEq, Bool.not_eq_false',
    decide_eq_false_iff_not, ne_eq, Decidable.not_not, map_eq_ok, exists_eq_right, List.not_mem_nil, false_implies,
    implies_true, and_true]
  constructor
  · intro h
    obtain ⟨h1, h2, h3, h4, h5, h6, h7, h8, h9, h10, h11, h12⟩ := h
    exact ⟨h1, h2, h3, h4, h5, h6, h7, h8, h9, h10, h11, h12⟩
  · intro h
    exact ⟨h.schema, h.status, h.tier, h.run, h.payloadId, h.fingerprint, h.profileSha256, h.compatibilitySha256, h.runtimeSha256,
      h.runtimeBuildId, h.log, h.recorded⟩

theorem readRuntimeClaim_eq_ok :
    readRuntimeClaim receipt = .ok runtime ↔ valueText receipt "canary_runtime_sha256" = .ok runtime.canarySha256 ∧
      valueText receipt "runtime_sha256" = .ok runtime.sha256 ∧ valueText receipt "runtime_build_id" = .ok runtime.buildId := by
  unfold readRuntimeClaim
  constructor
  · intro h
    obtain ⟨canary, hcanary, h⟩ := bind_eq_ok.mp h
    obtain ⟨sha, hsha, h⟩ := bind_eq_ok.mp h
    obtain ⟨buildId, hbuildId, h⟩ := bind_eq_ok.mp h
    cases h
    exact ⟨hcanary, hsha, hbuildId⟩
  · intro h
    rw [bind_of_ok _ h.1, bind_of_ok _ h.2.1, bind_of_ok _ h.2.2]
    rfl

/-! ## What the steps give -/

structure AdmittedAttestation where
  bytes : Bytes
  attestation : Members
  hash : Text
  runId : Text

structure Admission where
  references : ApprovalReferences
  documents : ApprovalDocuments
  receipt : Members
  profile : Members
  compatibility : Members
  facts : ApprovalFacts
  runtime : RuntimeClaim
  library : Text
  first : AdmittedAttestation
  second : AdmittedAttestation

def Admission.result (a : Admission) : CandidateApprovalResult where
  generation := a.references.generation
  profile := a.references.profile
  compatibilityManifest := a.references.compatibility
  receipt := a.references.receipt

/-- The evidence of the generation. -/
def Admission.evidence (a : Admission) : Text :=
  generationEvidence a.runtime.buildId a.facts.fingerprint a.facts.profileSha256 a.facts.compatibilitySha256 a.first.hash
    a.second.hash

section
variable (host : Host) (call : Call) (root : Text) (disk : Disk)

structure Attests (receipt : Members) (facts : ApprovalFacts) (runtime : RuntimeClaim) (index : Nat)
    (a : AdmittedAttestation) : Prop where
  read : readArtifact call .validation (artifactPath root approvals
    (attestationName facts.payload.payloadId facts.generation (index + 1))) true
    (disk.files (.artifact approvals (attestationName facts.payload.payloadId facts.generation (index + 1)))) = .ok a.bytes
  parsed : parseObject host.lib a.bytes = some a.attestation
  hash : hashText host.sha256 a.bytes 64 = .ok a.hash
  runId : valueText a.attestation "run_id" = .ok a.runId
  bound : attestationUnbound a.attestation receipt facts runtime index a.hash = .ok false

structure Admits (activation : Text) (payload : PayloadIntegrity) (a : Admission) : Prop where
  references : ∃ members, parseObject host.lib activation = some members ∧
    readReferences call root members payload.payloadId = .ok a.references
  documents : readDocuments call disk payload.payloadId a.references = .ok a.documents
  receipt : parseObject host.lib a.documents.receiptBytes = some a.receipt
  profile : parseObject host.lib a.documents.profileBytes = some a.profile
  compatibility : parseObject host.lib a.documents.compatibilityBytes = some a.compatibility
  binding : validateProfileBinding a.profile a.compatibility payload = .ok ()
  facts : approvalFacts host call root disk payload a.references.generation a.documents = .ok a.facts
  runtime : readRuntimeClaim a.receipt = .ok a.runtime
  library : call.canonical (assetPath (payloadPath root payload.payloadId) (ascii "libroblox.so")) = some a.library
  bound : receiptUnbound a.receipt a.facts a.library a.runtime = .ok false
  first : Attests host call root disk a.receipt a.facts a.runtime 0 a.first
  second : Attests host call root disk a.receipt a.facts a.runtime 1 a.second
  distinct : ¬ (a.first.runId = [] ∨ a.first.runId = a.second.runId)
  generation : hashText host.sha256 a.evidence 40 = .ok a.facts.generation

end

section
variable {host : Host} {call : Call} {root : Text} {disk : Disk}

theorem validateAttestation_eq_ok {runId : Text} :
    validateAttestation host call root disk receipt facts runtime index = .ok (hash, runId) ↔
      ∃ a, Attests host call root disk receipt facts runtime index a ∧ a.hash = hash ∧ a.runId = runId := by
  unfold validateAttestation
  constructor
  · intro h
    obtain ⟨⟨bytes, attestation⟩, hread, h⟩ := bind_eq_ok.mp h
    obtain ⟨digits, hdigits, h⟩ := bind_eq_ok.mp h
    obtain ⟨run, hrun, h⟩ := bind_eq_ok.mp h
    obtain ⟨hbound, h⟩ := unless_eq_ok.mp h
    cases h
    unfold readAttestation at hread
    dsimp only at hread
    split at hread
    · obtain ⟨_, -, hread⟩ := bind_eq_ok.mp hread
      cases hread
    · rename_i found hfound
      obtain ⟨members, hmembers, hread⟩ := bind_eq_ok.mp hread
      cases hread
      exact ⟨⟨bytes, attestation, hash, runId⟩,
        ⟨hfound, parseArtifact_eq_ok.mp hmembers, outcome_eq_ok.mp hdigits, hrun, hbound⟩, rfl, rfl⟩
  · intro h
    obtain ⟨a, ha, rfl, rfl⟩ := h
    have hread : readAttestation host call root disk facts.payload.payloadId facts.generation index =
        .ok (a.bytes, a.attestation) := by
      unfold readAttestation
      dsimp only
      rw [ha.read]
      exact bind_of_ok _ (parseArtifact_eq_ok.mpr ha.parsed)
    rw [bind_of_ok _ hread]
    dsimp only
    rw [bind_of_ok _ (outcome_eq_ok.mpr ha.hash), bind_of_ok _ ha.runId]
    exact unless_eq_ok.mpr ⟨ha.bound, rfl⟩

theorem approvalFacts_eq_ok {documents : ApprovalDocuments} :
    approvalFacts host call root disk payload generation documents = .ok facts ↔
      facts.payload = payload ∧ facts.generation = generation ∧
        payloadRuntimeFingerprint host call .validation (payloadPath root payload.payloadId)
          (payloadAt disk payload.payloadId) payload =
          .ok facts.fingerprint ∧
        hashText host.sha256 documents.profileBytes 64 = .ok facts.profileSha256 ∧
        hashText host.sha256 documents.compatibilityBytes 64 = .ok facts.compatibilitySha256 := by
  unfold approvalFacts
  constructor
  · intro h
    obtain ⟨fingerprint, hfingerprint, h⟩ := bind_eq_ok.mp h
    obtain ⟨profileSha256, hprofile, h⟩ := bind_eq_ok.mp h
    obtain ⟨compatibilitySha256, hcompatibility, h⟩ := bind_eq_ok.mp h
    cases h
    exact ⟨rfl, rfl, outcome_eq_ok.mp hfingerprint, outcome_eq_ok.mp hprofile, outcome_eq_ok.mp hcompatibility⟩
  · intro h
    obtain ⟨rfl, rfl, hfingerprint, hprofile, hcompatibility⟩ := h
    dsimp only
    rw [bind_of_ok _ (outcome_eq_ok.mpr hfingerprint), bind_of_ok _ (outcome_eq_ok.mpr hprofile),
      bind_of_ok _ (outcome_eq_ok.mpr hcompatibility)]
    rfl

theorem validateEvidence_eq_ok :
    validateEvidence host call root disk receipt facts = .ok () ↔
      ∃ runtime library first second, readRuntimeClaim receipt = .ok runtime ∧
        call.canonical (assetPath (payloadPath root facts.payload.payloadId) (ascii "libroblox.so")) = some library ∧
        receiptUnbound receipt facts library runtime = .ok false ∧ Attests host call root disk receipt facts runtime 0 first ∧
        Attests host call root disk receipt facts runtime 1 second ∧ ¬ (first.runId = [] ∨ first.runId = second.runId) ∧
        hashText host.sha256 (generationEvidence runtime.buildId facts.fingerprint facts.profileSha256 facts.compatibilitySha256
          first.hash second.hash) 40 = .ok facts.generation := by
  unfold validateEvidence
  constructor
  · intro h
    obtain ⟨runtime, hruntime, h⟩ := bind_eq_ok.mp h
    split at h
    · cases h
    · rename_i library hlibrary
      obtain ⟨hreceipt, h⟩ := unless_eq_ok.mp h
      obtain ⟨⟨hash1, run1⟩, hone, h⟩ := bind_eq_ok.mp h
      obtain ⟨⟨hash2, run2⟩, htwo, h⟩ := bind_eq_ok.mp h
      obtain ⟨first, hfirst, rfl, rfl⟩ := validateAttestation_eq_ok.mp hone
      obtain ⟨second, hsecond, rfl, rfl⟩ := validateAttestation_eq_ok.mp htwo
      obtain ⟨hdistinct, h⟩ := ite_fail_eq_ok.mp h
      obtain ⟨computed, hcomputed, h⟩ := bind_eq_ok.mp h
      obtain ⟨hsame, -⟩ := ite_fail_eq_ok.mp h
      have hsame : computed = facts.generation := by simpa using hsame
      subst hsame
      exact ⟨runtime, library, first, second, hruntime, hlibrary, hreceipt, hfirst, hsecond, hdistinct,
        outcome_eq_ok.mp hcomputed⟩
  · intro h
    obtain ⟨runtime, library, first, second, hruntime, hlibrary, hreceipt, hfirst, hsecond, hdistinct, hgeneration⟩ := h
    rw [bind_of_ok _ hruntime]
    dsimp only
    rw [hlibrary]
    refine unless_eq_ok.mpr ⟨hreceipt, ?_⟩
    rw [bind_of_ok _ (validateAttestation_eq_ok.mpr ⟨first, hfirst, rfl, rfl⟩),
      bind_of_ok _ (validateAttestation_eq_ok.mpr ⟨second, hsecond, rfl, rfl⟩)]
    refine ite_fail_eq_ok.mpr ⟨hdistinct, ?_⟩
    rw [bind_of_ok _ (outcome_eq_ok.mpr hgeneration)]
    exact ite_fail_eq_ok.mpr ⟨fun hne => hne rfl, rfl⟩

theorem validateCandidateApproval_eq_ok {activation : Text} {approval : CandidateApprovalResult} :
    validateCandidateApproval host call root disk activation payload = .ok approval ↔
      ∃ a, Admits host call root disk activation payload a ∧ a.result = approval := by
  unfold validateCandidateApproval
  constructor
  · intro h
    obtain ⟨members, hmembers, h⟩ := bind_eq_ok.mp h
    obtain ⟨references, hreferences, h⟩ := bind_eq_ok.mp h
    obtain ⟨documents, hdocuments, h⟩ := bind_eq_ok.mp h
    obtain ⟨receipt, hreceipt, h⟩ := bind_eq_ok.mp h
    obtain ⟨profile, hprofile, h⟩ := bind_eq_ok.mp h
    obtain ⟨compatibility, hcompatibility, h⟩ := bind_eq_ok.mp h
    obtain ⟨_, hbinding, h⟩ := bind_eq_ok.mp h
    obtain ⟨facts, hfacts, h⟩ := bind_eq_ok.mp h
    obtain ⟨_, hevidence, h⟩ := bind_eq_ok.mp h
    cases h
    obtain ⟨runtime, library, first, second, hruntime, hlibrary, hbound, hfirst, hsecond, hdistinct, hgeneration⟩ :=
      validateEvidence_eq_ok.mp hevidence
    rw [(approvalFacts_eq_ok.mp hfacts).1] at hlibrary
    exact ⟨⟨references, documents, receipt, profile, compatibility, facts, runtime, library, first, second⟩,
      ⟨⟨members, parseArtifact_eq_ok.mp hmembers, hreferences⟩, outcome_eq_ok.mp hdocuments, parseArtifact_eq_ok.mp hreceipt,
        parseArtifact_eq_ok.mp hprofile, parseArtifact_eq_ok.mp hcompatibility, hbinding, hfacts, hruntime, hlibrary,
        hbound, hfirst, hsecond, hdistinct, hgeneration⟩, rfl⟩
  · intro h
    obtain ⟨a, ha, rfl⟩ := h
    obtain ⟨members, hmembers, hreferences⟩ := ha.references
    have hlibrary := ha.library
    rw [← (approvalFacts_eq_ok.mp ha.facts).1] at hlibrary
    rw [bind_of_ok _ (parseArtifact_eq_ok.mpr hmembers), bind_of_ok _ hreferences, bind_of_ok _ (outcome_eq_ok.mpr ha.documents),
      bind_of_ok _ (parseArtifact_eq_ok.mpr ha.receipt), bind_of_ok _ (parseArtifact_eq_ok.mpr ha.profile),
      bind_of_ok _ (parseArtifact_eq_ok.mpr ha.compatibility), bind_of_ok _ ha.binding, bind_of_ok _ ha.facts,
      bind_of_ok _ (validateEvidence_eq_ok.mpr ⟨a.runtime, a.library, a.first, a.second, ha.runtime, hlibrary, ha.bound,
        ha.first, ha.second, ha.distinct, ha.generation⟩)]
    rfl

end

end Mocktail.Update

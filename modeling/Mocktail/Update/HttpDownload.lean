/-
  Mocktail.Update.HttpDownload — downloads that resume (src/update/http_download.cc).

  A download keeps what it has got in a partial file and the strong ETag it came with in a
  side file. `downloadFile` is a program over the two and the destination. What libcurl and the
  file system do is given for each pass of the redirect loop (`Surroundings`): the header lines
  and the chunks of the body that the callbacks get, how the transfer ends, and which calls
  fail. Removals succeed. A body is handed over only after a header block has ended, as libcurl
  does it. The side file is replaced by a rename, so it always is one that was written whole;
  an ETag that nlohmann::json refuses to print throws, which is an interruption.

  `exchange` marks that a request is sent: its URL, the offset it asks for, and the ETag a
  resumed one is conditional on.
-/

import Mocktail.Lib.Interrupts
import Mocktail.Launch.Percent
import Mocktail.Update.PayloadIntegrity

namespace Mocktail.Update

open Mocktail.Lib Mocktail.Launch

structure HttpTransferRequest where
  url : Text
  headers : List Text := []
  allowedHosts : List Text := []
  maximumBytes : Nat
  maximumAttempts : Int := 3
  maximumRedirects : Int := 5

structure HttpDownloadResult where
  bytesWritten : Nat := 0
  sha256 : Text := []
  finalUrl : Text := []
  error : Text := []
  deriving DecidableEq, Repr

/-- `operator bool`. -/
def HttpDownloadResult.succeeded (result : HttpDownloadResult) : Bool := result.error.isEmpty

/-! ## URLs -/

/-- What libcurl finds in a URL. -/
structure UrlParts where
  scheme : Option Text
  host : Option Text
  port : Option Text
  user : Option Text

abbrev UrlParser := Text → Option UrlParts

def hostMatches (host allowed : Text) : Bool :=
  host == allowed ||
    (host.length > allowed.length && host.getD (host.length - allowed.length - 1) 0 == 0x2e &&
      host.drop (host.length - allowed.length) == allowed)

def dropDots (host : Text) : Text := (host.reverse.dropWhile (· == 0x2e)).reverse

def isTrustedHttpsUrl (urls : UrlParser) (url : Text) (allowedHosts : List Text) : Except Text Unit :=
  match urls url with
  | none => .error (ascii "URL is malformed")
  | some ⟨some scheme, some host, port, user⟩ =>
    if asciiLower scheme ≠ ascii "https" ∨ port.any (· ≠ ascii "443") ∨ user.any (· ≠ []) then
      .error (ascii "URL must be credential-free HTTPS on port 443")
    else if allowedHosts.any fun allowed => hostMatches (dropDots (asciiLower host)) (asciiLower allowed) then .ok ()
    else .error (ascii "URL host is not trusted")
  | some _ => .error (ascii "URL must be credential-free HTTPS on port 443")

def urlHost (urls : UrlParser) (url : Text) : Text := ((urls url).bind UrlParts.host |>.map asciiLower).getD []

def statusFailure (urls : UrlParser) (action : String) (url : Text) (statusCode : Int) : Text :=
  (if (urlHost urls url).isEmpty then ascii "HTTPS " ++ ascii action else urlHost urls url ++ ascii " " ++ ascii action) ++
    ascii " returned status " ++ ascii (toString statusCode)

/-! ## Transfers -/

inductive CurlCode where
  | ok | couldntConnect | couldntResolveHost | couldntResolveProxy | operationTimedout | partialFile
  | recvError | sendError | gotNothing | sslConnectError | rangeError | writeError
  | other (code : Nat)
  deriving DecidableEq, Repr

def retryableTransport : CurlCode → Bool
  | .couldntConnect | .couldntResolveHost | .couldntResolveProxy | .operationTimedout | .partialFile
  | .recvError | .sendError | .gotNothing | .sslConnectError => true
  | _ => false

def redirectStatus (status : Int) : Bool := status == 301 || status == 302 || status == 303 || status == 307 || status == 308

def retryableStatus (status : Int) : Bool := status == 408 || status == 425 || status == 429 || status ≥ 500

/-- An error that libcurl words: it always has some words. -/
abbrev CurlError := { text : Text // text ≠ [] }

/-- What one transfer hands to the callbacks, and how it ends if they take all of it. -/
structure Answer where
  lines : List Text
  chunks : List Bytes
  code : CurlCode
  failure : CurlError := ⟨ascii "Unknown error", by decide⟩
  redirectUrl : Text := []
  /-- What the server has at the URL; the client sees the chunks only. -/
  representation : Bytes
  deriving DecidableEq

structure SideFile where
  url : Text
  etag : Text
  deriving DecidableEq, Repr

inductive SideWrite where
  | written
  | refused
  /-- The rename is done, the directory cannot be synced. -/
  | unsynced
  deriving DecidableEq, Repr

structure Surroundings where
  answer : Answer
  openError : Option Text := none
  seekError : Option Text := none
  handle : Bool := true
  headersBuilt : Bool := true
  configured : Bool := true
  digestReady : Bool := true
  sideWrite : SideWrite := .written
  /-- How many bytes can be written before a write fails. -/
  room : Option Nat := none
  digestUpdates : Bool := true
  synced : Bool := true
  /-- Whether the partial file can be read again for its digest. -/
  rereads : Bool := true

/-! ## The disk -/

structure DownloadDisk where
  part : Option Bytes
  side : Option SideFile
  destination : Option Bytes
  deriving DecidableEq, Repr

inductive DownloadEffect where
  | removePart
  | removeSide
  | truncatePart
  | append (byte : UInt8)
  | writeSide (file : SideFile)
  | exchange (url : Text) (offset : Nat) (etag : Text) (answer : Answer)
  | publish
  deriving DecidableEq

def DownloadDisk.act (disk : DownloadDisk) : DownloadEffect → DownloadDisk
  | .removePart => { disk with part := none }
  | .removeSide => { disk with side := none }
  | .truncatePart => { disk with part := some [] }
  | .append byte => { disk with part := disk.part.map (· ++ [byte]) }
  | .writeSide file => { disk with side := some file }
  | .exchange .. => disk
  | .publish => { disk with part := none, destination := disk.part }

abbrev DownloadM := Program DownloadDisk.act Empty

/-- How much `dump` prints for a byte of a string. -/
def printedLength (byte : UInt8) : Nat :=
  if byte = 0x22 ∨ byte = 0x5c then 2
  else if 0x20 ≤ byte.toNat then 1
  else if byte = 0x08 ∨ byte = 0x09 ∨ byte = 0x0a ∨ byte = 0x0c ∨ byte = 0x0d then 2
  else 6

/-- The size of the side file: two members on lines of their own. -/
def SideFile.size (file : SideFile) : Nat :=
  (ascii "\x7b\n  \"etag\": \"\",\n  \"url\": \"\"\n\x7d\n").length + (file.etag.map printedLength).sum +
    (file.url.map printedLength).sum

def readStateFile (side : Option SideFile) : Option SideFile := side.filter fun file => file.size ≤ 65536

/-! ## The header callback -/

/-- What the lines of a header block say. -/
structure HeaderBlock where
  status : Int := 0
  etag : Text := []
  encoding : Text := []
  range : Text := []
  complete : Bool := false
  deriving DecidableEq, Repr

structure DownloadHeaders extends HeaderBlock where
  expectedEtag : Text := []
  url : Text := []
  offset : Nat := 0
  maximum : Nat := 0
  total : Nat := 0
  restart : Bool := false
  failed : Bool := false
  deriving DecidableEq, Repr

def strongEtag (value : Text) : Bool :=
  value.length ≥ 2 && value.head? == some 0x22 && value.getLast? == some 0x22 &&
    value.all fun character => !(character.toNat < 0x21 || character == 0x7f)

def decimalDigit (byte : UInt8) : Bool := 0x30 ≤ byte.toNat && byte.toNat ≤ 0x39

def digitsValue (digits : Text) : Nat := digits.foldl (fun value digit => value * 10 + (digit.toNat - 0x30)) 0

/-- `std::from_chars` for a `std::size_t`: the value and what follows it. -/
def fromChars (text : Text) : Option (Nat × Text) :=
  let digits := text.takeWhile decimalDigit
  if digits.isEmpty ∨ 2 ^ 64 ≤ digitsValue digits then none else some (digitsValue digits, text.dropWhile decimalDigit)

/-- `std::from_chars` for a `long`: 0 where there is no number in range. -/
def statusFrom (text : Text) : Int :=
  match text with
  | 0x2d :: rest =>
    match fromChars rest with
    | some (value, _) => if value ≤ 2 ^ 63 then -value else 0
    | none => 0
  | _ =>
    match fromChars text with
    | some (value, _) => if value < 2 ^ 63 then value else 0
    | none => 0

def skipByte (byte : UInt8) : Text → Option Text
  | first :: rest => if first = byte then some rest else none
  | [] => none

/-- The numbers of a `Content-Range` and what follows them. -/
def rangeValues (range : Text) : Option ((Nat × Nat × Nat) × Text) :=
  if range.take 6 ≠ ascii "bytes " then none
  else do
    let (first, rest) ← fromChars (range.drop 6)
    let rest ← skipByte 0x2d rest
    let (last, rest) ← fromChars rest
    let rest ← skipByte 0x2f rest
    let (total, rest) ← fromChars rest
    pure ((first, last, total), rest)

def readRange (headers : DownloadHeaders) : DownloadHeaders × Bool :=
  match rangeValues headers.range with
  | none => (headers, false)
  | some ((first, last, total), rest) =>
    ({ headers with total },
      rest.isEmpty && first == headers.offset && last ≥ first && last < total && last == total - 1 &&
        total ≤ headers.maximum)

def statusLine (line : Text) : Bool := line.take 5 == ascii "HTTP/"

def blankLine (line : Text) : Bool := line == [0x0d, 0x0a] || line == [0x0a]

/-- A status line starts a block anew. -/
def HeaderBlock.start (line : Text) : HeaderBlock :=
  { status := match line.dropWhile (· != 0x20) with
      | _ :: rest => statusFrom rest
      | [] => 0 }

def trimmed (value : Text) : Text :=
  ((value.dropWhile fun b => b == 0x20 || b == 0x09).reverse.dropWhile fun b => b == 0x0d || b == 0x0a || b == 0x20).reverse

def HeaderBlock.field (block : HeaderBlock) (line : Text) : HeaderBlock :=
  match line.dropWhile (· != 0x3a) with
  | [] => block
  | _ :: rest =>
    let key := asciiLower (line.takeWhile (· != 0x3a))
    let value := trimmed rest
    if key = ascii "etag" then { block with etag := value }
    else if key = ascii "content-encoding" then { block with encoding := asciiLower value }
    else if key = ascii "content-range" then { block with range := value }
    else block

/-- A line of a block; lines after its end are trailers. -/
def HeaderBlock.read (block : HeaderBlock) (line : Text) : HeaderBlock :=
  if statusLine line then .start line
  else if blankLine line then { block with complete := true }
  else if block.complete then block
  else block.field line

/-- The range of a partial answer; other answers need none. -/
def checkRange (headers : DownloadHeaders) : DownloadHeaders × Bool :=
  if headers.status = 206 then readRange headers else (headers, true)

def otherEtag (headers : DownloadHeaders) : Prop :=
  headers.status = 206 ∧ headers.expectedEtag ≠ [] ∧ headers.etag ≠ [] ∧ headers.expectedEtag ≠ headers.etag

instance (headers : DownloadHeaders) : Decidable (otherEtag headers) := inferInstanceAs (Decidable (_ ∧ _))

/-- The ETag of a download from the start is written down before its body. -/
def recordEtag (write : SideWrite) (headers : DownloadHeaders) : DownloadHeaders × List DownloadEffect × Bool :=
  if headers.offset = 0 ∧ strongEtag headers.etag = true then
    match write with
    | .written => (headers, [.writeSide ⟨headers.url, headers.etag⟩], true)
    | .refused => ({ headers with failed := true }, [], false)
    | .unsynced => ({ headers with failed := true }, [.writeSide ⟨headers.url, headers.etag⟩], false)
  else (headers, [], true)

/-- The end of a block: the headers, what is written and whether the callback goes on. -/
def endBlock (write : SideWrite) (headers : DownloadHeaders) : DownloadHeaders × List DownloadEffect × Bool :=
  if 0 < headers.offset ∧ (headers.status = 200 ∨ headers.status = 416) then ({ headers with restart := true }, [], false)
  else if headers.status ≠ 200 ∧ headers.status ≠ 206 then (headers, [], true)
  else if headers.encoding ≠ [] ∧ headers.encoding ≠ ascii "identity" then ({ headers with restart := true }, [], false)
  else if (checkRange headers).2 = false ∨ otherEtag headers then
    ({ (checkRange headers).1 with restart := true }, [], false)
  else recordEtag write (checkRange headers).1

def readDownloadHeaders (write : SideWrite) (headers : DownloadHeaders) (line : Text) :
    DownloadHeaders × List DownloadEffect × Bool :=
  let headers := { headers with toHeaderBlock := headers.toHeaderBlock.read line }
  if statusLine line = false ∧ blankLine line = true then endBlock write headers else (headers, [], true)

/-- The lines one after the other, as long as the callback takes them. -/
def readLines (write : SideWrite) : DownloadHeaders → List Text → DownloadHeaders × List DownloadEffect × Bool
  | headers, [] => (headers, [], true)
  | headers, line :: lines =>
    match readDownloadHeaders write headers line with
    | (headers, effects, false) => (headers, effects, false)
    | (headers, effects, true) =>
      let rest := readLines write headers lines
      (rest.1, effects ++ rest.2.1, rest.2.2)

/-! ## The write callback -/

structure FileWriter where
  written : Nat
  room : Option Nat
  /-- What has gone into the digest. -/
  hashed : Bytes := []
  exceeded : Bool := false
  writeFailed : Bool := false
  hashFailed : Bool := false
  deriving DecidableEq, Repr

section
variable (status : Int) (maximum : Nat) (hashing digestUpdates : Bool)

/-- The writer, what reaches the file and whether the callback takes the chunk. -/
def writeFileBytes (writer : FileWriter) (chunk : Bytes) : FileWriter × Bytes × Bool :=
  if status ≠ 200 ∧ status ≠ 206 then (writer, [], true)
  else if maximum < chunk.length ∨ maximum - chunk.length < writer.written then
    ({ writer with exceeded := true }, [], false)
  else
    match writer.room with
    | some room =>
      if room < chunk.length then ({ writer with writeFailed := true }, chunk.take room, false)
      else if hashing ∧ digestUpdates = false then ({ writer with hashFailed := true }, chunk, false)
      else
        ({ writer with
            written := writer.written + chunk.length
            room := some (room - chunk.length)
            hashed := if hashing then writer.hashed ++ chunk else writer.hashed }, chunk, true)
    | none =>
      if hashing ∧ digestUpdates = false then ({ writer with hashFailed := true }, chunk, false)
      else
        ({ writer with
            written := writer.written + chunk.length
            hashed := if hashing then writer.hashed ++ chunk else writer.hashed }, chunk, true)

def writeChunks : FileWriter → List Bytes → FileWriter × Bytes × Bool
  | writer, [] => (writer, [], true)
  | writer, chunk :: chunks =>
    match writeFileBytes status maximum hashing digestUpdates writer chunk with
    | (writer, bytes, false) => (writer, bytes, false)
    | (writer, bytes, true) =>
      let rest := writeChunks writer chunks
      (rest.1, bytes ++ rest.2.1, rest.2.2)

end

/-! ## One pass -/

/-- How a pass of the redirect loop ends. -/
inductive PassEnd where
  | ended (result : HttpDownloadResult) (retryable : Bool)
  | redirected (next : Text)

def abandon (result : HttpDownloadResult) : DownloadM PassEnd := do
  Program.emit .removePart
  pure (.ended result false)

/-- The partial file is opened with O_TRUNC unless it is resumed. -/
def openPart (existing : Nat) : DownloadM Unit := if existing = 0 then Program.emit .truncatePart else pure ()

structure Performed where
  response : DownloadHeaders
  writer : FileWriter
  code : CurlCode

section
variable (urls : UrlParser) (sha256 : Sha256) (destination : Text) (request : HttpTransferRequest) (existing : Nat) (etag : Text)

/-- `curl_easy_perform` with the callbacks. -/
def perform (env : Surroundings) : Performed × List DownloadEffect :=
  let read := readLines env.sideWrite
    { expectedEtag := etag, url := request.url, offset := existing, maximum := request.maximumBytes } env.answer.lines
  let writer : FileWriter := { written := existing, room := env.room }
  if read.2.2 = false then (⟨read.1, writer, .writeError⟩, read.2.1)
  else if read.1.complete = false then (⟨read.1, writer, env.answer.code⟩, read.2.1)
  else
    let wrote := writeChunks read.1.status request.maximumBytes (existing == 0) env.digestUpdates writer env.answer.chunks
    (⟨read.1, wrote.1, if wrote.2.2 then env.answer.code else .writeError⟩, read.2.1 ++ wrote.2.1.map .append)

/-- The text and whether another attempt may help, for a transfer that failed. -/
def transferFailure (env : Surroundings) (done : Performed) : Text × Bool :=
  if done.writer.hashFailed then (ascii "cannot compute SHA-256 digest during download", false)
  else if done.writer.exceeded then (ascii "HTTPS download exceeds its size limit", false)
  else if done.writer.writeFailed ∨ done.response.failed ∨ env.synced = false then (ascii "cannot persist HTTPS download", false)
  else (env.answer.failure.val, retryableTransport done.code)

/-- An error, with the partial file kept for another attempt or not. -/
def giveUp (result : HttpDownloadResult) (retryable : Bool) : DownloadM PassEnd :=
  if retryable then pure (.ended result true) else abandon result

def redirectTo (env : Surroundings) (last : Bool) : Except Text Text :=
  if env.answer.redirectUrl.isEmpty ∨ last then .error (ascii "invalid HTTPS redirect")
  else
    match isTrustedHttpsUrl urls env.answer.redirectUrl request.allowedHosts with
    | .ok () => .ok env.answer.redirectUrl
    | .error text => .error (if text.isEmpty then ascii "invalid HTTPS redirect" else text)

/-- The digest of the whole file: taken on the way, or of the file where the start is older. -/
def finish (env : Surroundings) (current : Text) (done : Performed) : DownloadM PassEnd := do
  let disk ← Program.now
  let digest : Except Text Text :=
    if existing = 0 then
      match finalHex (sha256 done.writer.hashed) with
      | some digits => .ok digits
      | none => .error []
    else
      hashRegularFile sha256 (destination ++ ascii ".part")
        (match disk.part with
        | some bytes => if env.rereads then .regular bytes else .unreadable
        | none => .missing)
  match digest with
  | .ok digits => pure (.ended { bytesWritten := done.writer.written, sha256 := digits, finalUrl := current } false)
  | .error text =>
    abandon
      { bytesWritten := done.writer.written
        error := if text.isEmpty then ascii "cannot finalize SHA-256 digest of downloaded file" else text }

/-- What follows a transfer; `last` is the last redirect there may be. -/
def conclude (env : Surroundings) (current : Text) (last : Bool) (done : Performed) : DownloadM PassEnd :=
  let status := done.response.status
  if env.synced ∧ retryableStatus status then
    pure (.ended { error := statusFailure urls "download" current status } true)
  else if redirectStatus status then
    match redirectTo urls request env last with
    | .ok next => pure (.redirected next)
    | .error text => abandon { error := text }
  else if done.response.restart ∨ (0 < existing ∧ done.code = .rangeError) then do
    Program.emit .removePart
    Program.emit .removeSide
    pure (.ended { error := ascii "HTTPS download must restart with a complete archive" } true)
  else if done.code ≠ .ok ∨ done.writer.writeFailed ∨ done.writer.hashFailed ∨ done.response.failed ∨ env.synced = false then
    giveUp { error := (transferFailure env done).1 } (transferFailure env done).2
  else if (status ≠ 200 ∧ status ≠ 206) ∨ done.writer.written = 0 then
    giveUp { error := statusFailure urls "download" current status } (retryableStatus status)
  else if status = 206 ∧ done.writer.written ≠ done.response.total then
    pure (.ended { error := ascii "HTTPS download has an incomplete content range" } true)
  else finish sha256 destination existing env current done

def connect (env : Surroundings) (current : Text) (last : Bool) : DownloadM PassEnd :=
  let unbuilt := (!request.headers.isEmpty || 0 < existing) && !env.headersBuilt
  if env.handle = false ∨ unbuilt then
    abandon { error := if unbuilt then ascii "cannot allocate HTTP request headers" else ascii "curl_easy_init failed" }
  else if env.configured = false then abandon { error := ascii "cannot configure HTTPS download" }
  else if existing = 0 ∧ env.digestReady = false then abandon { error := ascii "cannot initialize sha256 digest" }
  else do
    Program.emit (.exchange current existing etag env.answer)
    Program.emitAll (perform request existing etag env).2
    conclude urls sha256 destination request existing env current last (perform request existing etag env).1

def pass (env : Surroundings) (current : Text) (last : Bool) : DownloadM PassEnd :=
  match env.openError with
  | some text => pure (.ended { error := ascii "cannot create temporary download: " ++ text } false)
  | none => do
    openPart existing
    match if existing = 0 then none else env.seekError with
    | some text => abandon { error := ascii "cannot resume temporary download: " ++ text }
    | none => connect urls sha256 destination request existing etag env current last

/-- The redirect loop: how many passes are left, and which one this is. -/
def passes (envs : Nat → Surroundings) : Nat → Nat → Text → DownloadM (HttpDownloadResult × Bool)
  | 0, _, _ => do
    Program.emit .removePart
    pure ({ error := ascii "too many HTTPS redirects" }, false)
  | left + 1, redirect, current => do
    match ← pass urls sha256 destination request existing etag (envs redirect) current (left == 0) with
    | .ended result retryable => pure (result, retryable)
    | .redirected next => passes envs left (redirect + 1) next

end

/-! ## Attempts -/

/-- The ETag the side file has for the URL. -/
def sideEtag (url : Text) (side : Option SideFile) : Text :=
  match readStateFile side with
  | some file => if file.url = url then file.etag else []
  | none => []

/-- What there is to resume from: the size of the partial file and its ETag. -/
def resumable (request : HttpTransferRequest) (disk : DownloadDisk) : Option (Nat × Text) :=
  match disk.part with
  | none => none
  | some bytes =>
    if request.maximumBytes < bytes.length ∨ strongEtag (sideEtag request.url disk.side) = false then none
    else some (bytes.length, sideEtag request.url disk.side)

section
variable (urls : UrlParser) (sha256 : Sha256) (destination : Text) (request : HttpTransferRequest)

def downloadFileAttempt (envs : Nat → Surroundings) : DownloadM (HttpDownloadResult × Bool) := do
  let left := (request.maximumRedirects + 1).toNat
  let disk ← Program.now
  match resumable request disk with
  | none => do
    Program.emit .removePart
    Program.emit .removeSide
    passes urls sha256 destination request 0 [] envs left 0 request.url
  | some (existing, etag) => passes urls sha256 destination request existing etag envs left 0 request.url

/-- What follows an attempt; `again` is the next one, if there is one. -/
def settle (renames : Bool) (result : HttpDownloadResult) (retryable : Bool) (again : DownloadM HttpDownloadResult) :
    DownloadM HttpDownloadResult :=
  if result.succeeded then
    if renames then do
      Program.emit .publish
      Program.emit .removeSide
      pure result
    else pure { result with error := ascii "cannot publish completed download" }
  else if retryable = false then do
    Program.emit .removePart
    Program.emit .removeSide
    pure result
  else again

/-- The attempts: how many may follow this one. -/
def attempts (envs : Nat → Nat → Surroundings) (renames : Bool) : Nat → Nat → DownloadM HttpDownloadResult
  | 0, attempt => do
    let (result, retryable) ← downloadFileAttempt urls sha256 destination request (envs attempt)
    settle renames result retryable (pure result)
  | more + 1, attempt => do
    let (result, retryable) ← downloadFileAttempt urls sha256 destination request (envs attempt)
    settle renames result retryable (attempts envs renames more (attempt + 1))

end

/-- One call: its request and what surrounds it. -/
structure DownloadCall where
  request : HttpTransferRequest
  destination : Text
  curlError : Option CurlError := none
  directoryCreated : Bool := true
  locked : Bool := true
  renames : Bool := true
  envs : Nat → Nat → Surroundings

def downloadFile (urls : UrlParser) (sha256 : Sha256) (call : DownloadCall) : DownloadM HttpDownloadResult :=
  if call.request.maximumBytes = 0 then pure { error := ascii "HTTP byte limit is zero" }
  else
    match isTrustedHttpsUrl urls call.request.url call.request.allowedHosts with
    | .error text => pure { error := if text.isEmpty then ascii "HTTP byte limit is zero" else text }
    | .ok () =>
      match call.curlError with
      | some text => pure { error := text.val }
      | none =>
        if call.directoryCreated = false then pure { error := ascii "cannot create download directory" }
        else if call.locked = false then pure { error := ascii "cannot lock HTTPS download" }
        else
          attempts urls sha256 call.destination call.request call.envs call.renames
            ((if 0 < call.request.maximumAttempts then call.request.maximumAttempts else 1).toNat - 1) 0

end Mocktail.Update

/-
  Mocktail.Update.ZipArchive — listing and extracting an archive (src/update/zip_archive.cc).

  minizip is a parameter: a `Pass` is what one opening of the archive reports, entry by entry,
  and two passes over one archive need not agree. The kernel is the tree of `Mocktail.Lib.FileTree`
  with the failures a `Host` gives: a directory or a file that cannot be created, writes that
  are short, interrupted or fail, a file that cannot be removed.

  A path is its components; the destination's are those of its absolute path. The texts of
  errors are byte strings, since they quote names of the archive.
-/

import Mocktail.Lib.FileTree
import Mocktail.Launch.Json

namespace Mocktail.Update.Zip

open Mocktail.Lib Mocktail.Launch

/-! ## Paths -/

def kBackslash : UInt8 := 0x5c

/-- The loop of `IsSafeArchivePath` over what is left of the path. -/
def safeComponents : Nat → Text → Bool
  | 0, _ => true
  | fuel + 1, rest =>
    if rest = [] then true
    else
      let component := rest.takeWhile (· ≠ slash)
      let after := rest.dropWhile (· ≠ slash)
      if component = [] ∨ component = dot ∨ component = dotDot then after = [] ∧ component = []
      else
        match after with
        | [] => true
        | _ :: more => safeComponents fuel more

def isSafeArchivePath (path : Text) : Bool :=
  if path = [] ∨ path.head? = some slash ∨ 0 ∈ path ∨ kBackslash ∈ path then false
  else safeComponents path.length path

/-- `destination / relative`, as the kernel reads it: an absolute path stands alone, and the text
    ends at a NUL. -/
def join (destination : List Name) (relative : Text) : List Name :=
  let text := relative.takeWhile (· ≠ 0)
  if text.head? = some slash then components text else destination ++ components text

/-! ## minizip -/

structure EntryInfo where
  name : Text
  uncompressedSize : Nat
  externalFa : Nat
  deriving DecidableEq, Repr

inductive OpenStatus where
  | irregular | unopened | opened
  deriving DecidableEq, Repr

/-- `unzGoToFirstFile`. -/
inductive FirstStatus where
  | ok | endOfList | failed
  deriving DecidableEq, Repr

/-- `unzReadCurrentFile`; no bytes is the end of the entry. -/
inductive ReadOutcome where
  | bytes (content : Bytes)
  | failed
  deriving DecidableEq, Repr

/-- What one opening of the archive reports. -/
structure Pass where
  status : OpenStatus
  entryCount : Option Nat
  first : FirstStatus
  info : Nat → Option EntryInfo
  nameRead : Nat → Bool
  next : Nat → Bool
  openCurrent : Nat → Bool
  reads : Nat → List ReadOutcome
  closeCurrent : Nat → Bool

structure ZipEntry where
  name : Text
  uncompressedSize : Nat
  directory : Bool
  symbolicLink : Bool
  deriving DecidableEq, Repr

def openArchive (archivePath : Text) (pass : Pass) : Except Text Unit :=
  match pass.status with
  | .irregular => .error (ascii "ZIP archive is not a regular file: " ++ archivePath)
  | .unopened => .error (ascii "cannot open ZIP archive: " ++ archivePath)
  | .opened => .ok ()

/-- `S_IFLNK` in the Unix mode. -/
def isLinkMode (externalFa : Nat) : Bool := externalFa / 2 ^ 16 % 2 ^ 16 / 2 ^ 12 == 0xa

def currentInfo (pass : Pass) (index : Nat) : Except Text ZipEntry :=
  match pass.info index with
  | none => .error (ascii "cannot read ZIP entry metadata")
  | some info =>
    if info.name.length = 0 ∨ 64 * 1024 < info.name.length then .error (ascii "cannot read ZIP entry metadata")
    else if pass.nameRead index = false then .error (ascii "cannot read ZIP entry name")
    else
      .ok {
        name := info.name
        uncompressedSize := info.uncompressedSize
        directory := info.name.getLast? == some slash
        symbolicLink := isLinkMode info.externalFa }

/-- `First`: false without a text at the end of the list. -/
def firstEntry (pass : Pass) : Except Text Unit :=
  match pass.first with
  | .ok => .ok ()
  | .endOfList => .error []
  | .failed => .error (ascii "cannot enumerate ZIP archive")

/-! ## Listing -/

structure ZipListResult where
  entries : List ZipEntry := []
  error : Text := []
  deriving DecidableEq, Repr

/-- The entries from one on, how many are left and which it is. -/
def listEntries (pass : Pass) : Nat → Nat → List ZipEntry → ZipListResult
  | 0, _, entries => { entries }
  | remaining + 1, index, entries =>
    match currentInfo pass index with
    | .error error => { entries, error }
    | .ok entry =>
      if isSafeArchivePath entry.name = false ∨ entry.symbolicLink = true then
        { entries, error := ascii "ZIP archive contains an unsafe entry: " ++ entry.name }
      else if remaining ≠ 0 ∧ pass.next index = false then
        { entries := entries ++ [entry], error := ascii "ZIP archive ended before its declared entry count" }
      else listEntries pass remaining (index + 1) (entries ++ [entry])

def listZipEntries (archivePath : Text) (maximumEntries : Nat) (pass : Pass) : ZipListResult :=
  match openArchive archivePath pass with
  | .error error => { error }
  | .ok _ =>
    match pass.entryCount with
    | none => { error := ascii "ZIP archive has an invalid or excessive entry count" }
    | some count =>
      if maximumEntries < count then { error := ascii "ZIP archive has an invalid or excessive entry count" }
      else if count = 0 then {}
      else
        match firstEntry pass with
        | .error error => { error }
        | .ok _ => listEntries pass count 0 []

/-! ## The kernel -/

/-- `write`. -/
inductive WriteOutcome where
  | wrote (count : Nat)
  | interrupted
  | failed (reason : Text)
  deriving DecidableEq, Repr

/-- The failures of the kernel, for the entry at an index. -/
structure Host where
  /-- The steps one path resolution may take. -/
  limit : Nat
  /-- `mkdir` of the path of so many components fails. -/
  mkdirRefused : Nat → Nat → Bool
  openRefused : Nat → Bool
  /-- The first writes; those after them succeed. -/
  writes : Nat → List WriteOutcome
  removeRefused : Nat → Bool

variable (host : Host)

/-- `mkdir(base/name)`: false if it fails. -/
def mkdir (index : Nat) (base : List Name) (name : Name) (w : World) : Bool × World :=
  match walk w.tree host.limit [] base with
  | none => (false, w)
  | some parent =>
    if name = [] ∨ name = dot ∨ name = dotDot then (false, w)
    else
      match w.tree (parent ++ [name]) with
      | some _ => (false, w)
      | none => if host.mkdirRefused index (base.length + 1) then (false, w) else (true, w.act (.mkdir (parent ++ [name])))

/-- `create_directories`: what is missing of the path, from the top. -/
def createDirectories (index : Nat) (base : List Name) : List Name → World → Bool × World
  | [], w => (true, w)
  | name :: names, w =>
    match walk w.tree host.limit [] (base ++ [name]) with
    | some _ => createDirectories index (base ++ [name]) names w
    | none =>
      match mkdir host index base name w with
      | (false, w) => (false, w)
      | (true, w) => createDirectories index (base ++ [name]) names w

/-- `open` with `O_CREAT`, `O_EXCL` and `O_NOFOLLOW`: the path of the new file. -/
def createFile (index : Nat) (output : List Name) (w : World) : Option (Path × World) :=
  match output.getLast?, walk w.tree host.limit [] output.dropLast with
  | some name, some parent =>
    if name = [] ∨ name = dot ∨ name = dotDot then none
    else
      match w.tree (parent ++ [name]) with
      | some _ => none
      | none => if host.openRefused index then none else some (parent ++ [name], w.act (.create (parent ++ [name])))
  | _, _ => none

/-- The loop that writes one buffer: an error if a write failed, and the outcomes that are left. -/
def writeBuffer (path : Path) : List WriteOutcome → Bytes → World → Option Text × List WriteOutcome × World
  | [], bytes, w => if bytes = [] then (none, [], w) else (none, [], w.act (.append path bytes))
  | outcome :: rest, bytes, w =>
    if bytes = [] then (none, outcome :: rest, w)
    else
      match outcome with
      | .wrote count => writeBuffer path rest (bytes.drop count) (w.act (.append path (bytes.take count)))
      | .interrupted => writeBuffer path rest bytes w
      | .failed reason => (some (ascii "cannot write decompressed ZIP entry: " ++ reason), rest, w)

/-- The loop over the reads: how much has been written. -/
def writeReads (path : Path) (maximum : Nat) :
    List ReadOutcome → List WriteOutcome → Nat → World → Except Text Nat × World
  | [], _, written, w => (.ok written, w)
  | .failed :: _, _, _, w => (.error (ascii "cannot decompress ZIP entry"), w)
  | .bytes chunk :: reads, outcomes, written, w =>
    if chunk = [] then (.ok written, w)
    else if maximum < chunk.length ∨ maximum - chunk.length < written then
      (.error (ascii "decompressed ZIP data exceeds its size limit"), w)
    else
      match writeBuffer path outcomes chunk w with
      | (some error, _, w) => (.error error, w)
      | (none, outcomes, w) => writeReads path maximum reads outcomes (written + chunk.length) w

def writeCurrent (pass : Pass) (index : Nat) (path : Path) (maximum : Nat) (w : World) : Except Text Nat × World :=
  if pass.openCurrent index = false then (.error (ascii "cannot open compressed ZIP entry"), w)
  else
    match writeReads path maximum (pass.reads index) (host.writes index) 0 w with
    | (.error error, w) => (.error error, w)
    | (.ok written, w) =>
      if pass.closeCurrent index = false then (.error (ascii "ZIP entry failed its CRC check"), w) else (.ok written, w)

/-! ## Extracting -/

def removeFile (index : Nat) (path : Path) (w : World) : World :=
  if host.removeRefused index then w else w.act (.remove path)

/-- The branch for a file: `open`, `WriteCurrent`, and `remove` if it is not as long as declared. -/
def extractFile (pass : Pass) (index : Nat) (entry : ZipEntry) (output : List Name) (w : World) : Except Text Unit × World :=
  match createDirectories host index [] output.dropLast w with
  | (false, w) => (.error (ascii "cannot create extracted ZIP directory"), w)
  | (true, w) =>
    match createFile host index output w with
    | none => (.error (ascii "cannot create extracted ZIP entry"), w)
    | some (path, w) =>
      match writeCurrent host pass index path entry.uncompressedSize w with
      | (.error error, w) => (.error error, removeFile host index path w)
      | (.ok written, w) =>
        if written ≠ entry.uncompressedSize then
          (.error (ascii "extracted ZIP entry is truncated"), removeFile host index path w)
        else (.ok (), w)

/-- An entry that has the prefix: how much it adds to `total` and to `files`. -/
def extractEntry (pass : Pass) (index : Nat) (entry : ZipEntry) (relative : Text) (destination : List Name)
    (maximumTotalBytes total : Nat) (w : World) : Except Text (Nat × Nat) × World :=
  if isSafeArchivePath relative = false ∨ entry.symbolicLink = true ∨ maximumTotalBytes < entry.uncompressedSize ∨
      maximumTotalBytes - entry.uncompressedSize < total then
    (.error (ascii "ZIP prefix contains an unsafe or oversized entry"), w)
  else if entry.directory then
    match createDirectories host index [] (join destination relative) w with
    | (false, w) => (.error (ascii "cannot create extracted ZIP directory"), w)
    | (true, w) => (.ok (0, 0), w)
  else
    match extractFile host pass index entry (join destination relative) w with
    | (.error error, w) => (.error error, w)
    | (.ok _, w) => (.ok (entry.uncompressedSize, 1), w)

/-- What the loop does with an entry. -/
def visitEntry (pass : Pass) (index : Nat) (entry : ZipEntry) (archivePrefix : Text) (destination : List Name)
    (maximumTotalBytes total : Nat) (w : World) : Except Text (Nat × Nat) × World :=
  match currentInfo pass index with
  | .error error => (.error error, w)
  | .ok current =>
    if current ≠ entry then (.error (ascii "ZIP archive changed during extraction"), w)
    else if entry.name.take archivePrefix.length ≠ archivePrefix then (.ok (0, 0), w)
    else
      let relative := entry.name.drop archivePrefix.length
      if relative = [] then (.ok (0, 0), w)
      else extractEntry host pass index entry relative destination maximumTotalBytes total w

/-- The loop over the listed entries, with `total` and `files`. -/
def extractEntries (pass : Pass) (archivePrefix : Text) (destination : List Name) (maximumTotalBytes : Nat) :
    List ZipEntry → Nat → Nat → Nat → World → Except Text Nat × World
  | [], _, _, files, w => (.ok files, w)
  | entry :: rest, index, total, files, w =>
    match visitEntry host pass index entry archivePrefix destination maximumTotalBytes total w with
    | (.error error, w) => (.error error, w)
    | (.ok (size, count), w) =>
      if rest ≠ [] ∧ pass.next index = false then (.error (ascii "ZIP archive ended during extraction"), w)
      else extractEntries pass archivePrefix destination maximumTotalBytes rest (index + 1) (total + size) (files + count) w

/-- How many files have been extracted. -/
def extractZipPrefix (archivePath : Text) (listing pass : Pass) (archivePrefix : Text) (destination : List Name)
    (maximumTotalBytes : Nat) (w : World) : Except Text Nat × World :=
  let listed := listZipEntries archivePath 100000 listing
  if listed.error ≠ [] then (.error listed.error, w)
  else
    match openArchive archivePath pass with
    | .error error => (.error error, w)
    | .ok _ =>
      match (if listed.entries = [] then .ok () else firstEntry pass) with
      | .error error => (.error error, w)
      | .ok _ => extractEntries host pass archivePrefix destination maximumTotalBytes listed.entries 0 0 0 w

end Mocktail.Update.Zip

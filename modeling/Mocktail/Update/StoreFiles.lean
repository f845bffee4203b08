/-
  Mocktail.Update.StoreFiles — the payload store on disk (src/update/payload_store.cc).

  The store is the two manifests, their temporary files, the approval artifacts and the trees
  under `payloads` and `quarantine`. A call acts on it by `StoreEffect`s, each one step of the
  file system; `verified` and `passed` change nothing and note that a payload was verified and
  that a text was given to `WriteAtomic`. Every step may fail: `Call.faults` says where, under
  the name of the step (`Site`).

  After a crash (`StoreEffect.crash`) a file whose data was not synced holds any bytes or is
  gone. The files of payload trees are never synced, so every tree may hold anything.
-/

import Mocktail.Lib.Keyed
import Mocktail.Lib.Program
import Mocktail.Update.CompatibilityCatalog

namespace Mocktail.Update

open Mocktail.Lib Mocktail.Launch

/-! ## Files and trees -/

inductive Manifest where
  | current | previousGood
  deriving DecidableEq, Repr

inductive FileKey where
  | manifest (m : Manifest)
  /-- `.manifest-PID-N`. -/
  | temporary (pid generation : Nat)
  | artifact (directory name : Text)
  deriving DecidableEq, Repr

def Manifest.file : Manifest → String
  | .current => "current.json"
  | .previousGood => "previous_good.json"

structure Access where
  /-- Another user's, or writable for others. -/
  foreign : Bool
  /-- Writable for its owner. -/
  writable : Bool
  deriving DecidableEq, Repr

inductive StoreFile where
  | unopenable
  | directory
  /-- Neither a regular file nor a directory. -/
  | special
  | unreadable (size : Nat) (access : Access)
  | data (bytes : Bytes) (access : Access) (synced : Bool)
  deriving DecidableEq, Repr

/-- A payload's directory, with all that is in it. -/
structure PayloadTree where
  payload : PayloadDirectory
  /-- The bytes of its regular files. -/
  size : Nat
  /-- No links and no special files. -/
  plain : Bool
  /-- Its root can be written by its owner. -/
  writable : Bool

inductive Entry where
  | tree (tree : PayloadTree)
  | other

inductive Area where
  | payloads | quarantine
  deriving DecidableEq, Repr

/-- The entries of a directory, in the order they are listed. -/
structure Directory where
  entries : List (Text × Entry)
  distinct : (entries.map (·.1)).Nodup

structure Disk where
  files : FileKey → Option StoreFile
  entries : Area → Directory

def Directory.empty : Directory := ⟨[], List.nodup_nil⟩

def Directory.at (directory : Directory) (name : Text) : Option Entry := (directory.entries.find? (·.1 == name)).map (·.2)

def setEntry (name : Text) (state : Option Entry) (entries : List (Text × Entry)) : List (Text × Entry) :=
  entries.filter (·.1 != name) ++ state.toList.map fun entry => (name, entry)

theorem setEntry_distinct {name : Text} {state : Option Entry} {entries : List (Text × Entry)} (h : (entries.map (·.1)).Nodup) :
    ((setEntry name state entries).map (·.1)).Nodup := by
  have hrest : ((entries.filter (·.1 != name)).map (·.1)).Nodup := h.sublist (List.filter_sublist.map _)
  cases state with
  | none => simpa [setEntry] using hrest
  | some entry =>
    rw [setEntry, List.map_append]
    refine List.nodup_append.mpr ⟨hrest, by simp, ?_⟩
    intro a ha b hb
    obtain ⟨e, he, rfl⟩ := List.mem_map.mp ha
    have hne := (List.mem_filter.mp he).2
    simp only [Option.toList_some, List.map_cons, List.map_nil, List.mem_singleton] at hb
    subst hb
    simpa using hne

def Directory.set (directory : Directory) (name : Text) (state : Option Entry) : Directory :=
  ⟨setEntry name state directory.entries, setEntry_distinct directory.distinct⟩

def Disk.setFile (disk : Disk) (key : FileKey) (state : Option StoreFile) : Disk :=
  { disk with files := fun k => if k = key then state else disk.files k }

def Disk.set (disk : Disk) (area : Area) (name : Text) (state : Option Entry) : Disk :=
  { disk with entries := fun a => if a = area then (disk.entries a).set name state else disk.entries a }

inductive StoreEffect where
  | file (key : FileKey) (state : Option StoreFile)
  | rename (source target : FileKey)
  | entry (area : Area) (name : Text) (state : Option Entry)
  | move (source : Text) (area : Area) (target : Text)
  | verified (id : Text)
  | passed (m : Manifest) (text : Text)
  | crash (files : FileKey → Option Bytes) (trees : Area → Text → PayloadTree)

/-- An unsynced file after a crash. -/
def crashedFile (after : Option Bytes) : Option StoreFile → Option StoreFile
  | some (.data _ access false) => after.map fun bytes => .data bytes access false
  | file => file

def crashedEntry (after : PayloadTree) : Entry → Entry
  | .tree _ => .tree after
  | .other => .other

def Directory.crashed (directory : Directory) (after : Text → PayloadTree) : Directory where
  entries := directory.entries.map fun e => (e.1, crashedEntry (after e.1) e.2)
  distinct := by
    rw [List.map_map]
    exact directory.distinct

def Disk.act (disk : Disk) : StoreEffect → Disk
  | .file key state => disk.setFile key state
  | .rename source target => (disk.setFile target (disk.files source)).setFile source none
  | .entry area name state => disk.set area name state
  | .move source area target => (disk.set area target ((disk.entries .payloads).at source)).set .payloads source none
  | .verified _ => disk
  | .passed _ _ => disk
  | .crash files trees =>
    { files := fun key => crashedFile (files key) (disk.files key)
      entries := fun area => (disk.entries area).crashed (trees area) }

abbrev StoreM := Program Disk.act Stop

/-! ## One call -/

/-- Who reads a file. -/
inductive Reader where
  | manifest | candidate | copy | existing | validation
  deriving DecidableEq, Repr

/-- The steps of the file system that can fail. -/
inductive Site where
  | createStore | lock
  | openFile (reader : Reader) (path : Text)
  | statFile (reader : Reader) (path : Text)
  | readFile (reader : Reader) (path : Text)
  | createTemporary (m : Manifest)
  | writeTemporary (m : Manifest)
  | syncTemporary (m : Manifest)
  | publish (m : Manifest)
  | removeTemporary (m : Manifest)
  | createDirectory (path : Text)
  | createArtifact (path : Text)
  | writeArtifact (path : Text)
  | sealArtifact (path : Text)
  | publishArtifact (path : Text)
  | removeArtifact (path : Text)
  | inspect | verify (name : Text) | hashLibrary | hashMetadata (reader : Reader)
  | createQuarantine | inspectCollision | unlockCollision | moveCollision
  | clearStaging | createStaging | copyTree | sealStaging | discardStaging | publishStaging
  | listPayloads | listQuarantine
  | removeTree (area : Area) (name : Text)
  deriving DecidableEq, Repr

structure Fault where
  /-- The system's message. -/
  detail : Text
  /-- The bytes of a write before it failed. -/
  progress : Nat
  deriving DecidableEq, Repr

/-- What surrounds one call. -/
structure Call where
  faults : Site → Option Fault
  pid : Nat
  /-- The texts this process has given to `WriteAtomic` before. -/
  generation : Nat
  /-- `system_clock`, in seconds. -/
  epoch : Fin (2 ^ 63)
  /-- `steady_clock`, when an artifact is created. -/
  steady : Text → Nat
  /-- `std::filesystem::canonical`. -/
  canonical : Text → Option Text
  /-- The compatibility manifest of the installation. -/
  catalog : FileState
  runtime : FileState
  /-- `ReadElfBuildId` of the runtime. -/
  runtimeBuildId : Except Text Text
  /-- The moment of an approval, as text. -/
  utcTimestamp : Text
  /-- The trees a tree passes through while it is copied or removed. -/
  between : Area → Text → List PayloadTree

/-- A call in which every step succeeds. -/
def quietCall : Call where
  faults _ := none
  pid := 5
  generation := 0
  epoch := 9
  steady _ := 0
  canonical := some
  catalog := .missing
  runtime := .missing
  runtimeBuildId := .ok []
  utcTimestamp := []
  between _ _ := []

def Call.fails (call : Call) (site : Site) : Bool := (call.faults site).isSome

/-- The parameters of the program. -/
structure Host where
  sha256 : Sha256
  lib : JsonLibrary
  abi : GuestAbi

structure PayloadStore where
  root : Text
  compatibilityManifest : Text
  runtimeBinary : Text

/-- A part of a call that reads. -/
def reads {α : Type} (x : Disk → Outcome α) : StoreM α := do
  let disk ← Program.now
  Program.done (x disk)

def failing {α : Type} (text : Text) : StoreM α := Program.done (.error (.error text))

/-- `StoreLock`. -/
def storeLock (call : Call) : Outcome Unit :=
  if call.fails .createStore then fail "cannot create payload store"
  else if call.fails .lock then fail "cannot lock payload store"
  else .ok ()

/-! ## Manifests -/

/-- `isdigit`. -/
def isDigit (c : UInt8) : Bool := 0x30 ≤ c.toNat && c.toNat ≤ 0x39

/-- `ValidPayloadId`: digits, a dash and 40 digits of a build ID. -/
def validPayloadId (value : Text) : Bool :=
  let version := value.takeWhile (· != 0x2d)
  let buildId := (value.dropWhile (· != 0x2d)).drop 1
  value.contains 0x2d && version != [] && version.all isDigit && lowerHex buildId 40

/-- `ReadRegular` of a file whose state is known. -/
def readRegular (call : Call) (path : Text) (maximum : Nat) (missingOk : Bool) (file : Option StoreFile) : Except Text Bytes :=
  if call.fails (.openFile .manifest path) then .error (ascii "cannot open payload-store file: " ++ path)
  else
    match file with
    | none => if missingOk then .ok [] else .error (ascii "cannot open payload-store file: " ++ path)
    | some .unopenable => .error (ascii "cannot open payload-store file: " ++ path)
    | some .directory | some .special => .error (ascii "payload-store file is not a bounded regular file")
    | some (.unreadable size _) =>
      if call.fails (.statFile .manifest path) || maximum < size then
        .error (ascii "payload-store file is not a bounded regular file")
      else .error (ascii "cannot read payload-store file")
    | some (.data bytes _ _) =>
      if call.fails (.statFile .manifest path) || maximum < bytes.length then
        .error (ascii "payload-store file is not a bounded regular file")
      else if call.fails (.readFile .manifest path) then .error (ascii "cannot read payload-store file")
      else .ok bytes

structure ManifestIdentity where
  payloadId : Text
  contents : Text
  deriving DecidableEq, Repr

/-- The identity a manifest's text names. -/
def parseManifest (lib : JsonLibrary) (contents : Text) : Outcome ManifestIdentity := do
  match parseObject lib contents with
  | none => fail "active payload manifest is invalid"
  | some document =>
    if ← otherSchema document then fail "active payload manifest is invalid"
    else
      match findMember document (ascii "payload_id") with
      | some (.string payloadId) =>
        if validPayloadId payloadId = false then fail "active payload manifest identity is invalid"
        else if ← differs document "payload_path" (ascii "payloads/" ++ payloadId) then
          fail "active payload manifest identity is invalid"
        else return { payloadId, contents }
      | _ => fail "active payload manifest is invalid"

/-- `ReadManifest`: an empty text is no error and names nothing. -/
def readManifest (lib : JsonLibrary) (call : Call) (root : Text) (m : Manifest) (missingOk : Bool) (disk : Disk) :
    Outcome ManifestIdentity := do
  let contents ← outcome (readRegular call (assetPath root (ascii m.file)) (1024 * 1024) missingOk (disk.files (.manifest m)))
  if contents = [] then return { payloadId := [], contents := [] } else parseManifest lib contents

def newFile : Access := { foreign := false, writable := true }

/-- `remove` of a temporary file, whose failure is ignored. -/
def discard (call : Call) (site : Site) (key : FileKey) : StoreM Unit :=
  if call.fails site then pure () else Program.emit (.file key none)

end Mocktail.Update

/-
  Mocktail.Update.PayloadIntegrity — hashes of a prepared payload (src/update/payload_integrity.cc).

  SHA-256 and the JSON library are parameters. A directory is what reading it comes to: each
  file is missing, no regular file, unreadable or its bytes. The names of one asset tree are
  distinct and hold no NUL, as the names of every directory.

  `hashAssetTree` hashes the files one after the other in the order of their paths; the
  source's workers are in `Mocktail.Update.AssetWorkers`.
-/

import Mathlib.Data.List.Nodup
import Mocktail.Update.ApkSignature
import Mocktail.Update.Documents

namespace Mocktail.Update

open Mocktail.Lib Mocktail.Launch

/-! ## Hashes -/

/-- What an EVP digest comes to. -/
inductive Hashing where
  | noContext | noUpdate | noFinal
  | digest (hash : Bytes)
  deriving DecidableEq, Repr

abbrev Sha256 := Bytes → Hashing

inductive FileState where
  | missing | irregular | unreadable
  | regular (bytes : Bytes)
  deriving DecidableEq, Repr

/-- `FinalHex`: empty for a digest that is not 32 bytes long. -/
def finalHex : Hashing → Option Text
  | .digest hash => if hash.length = 32 then some (hex hash) else none
  | _ => none

section
variable (sha256 : Sha256)

def hashText (text : Bytes) (maxHexChars : Nat) : Except Text Text :=
  match finalHex (sha256 text) with
  | some digits => .ok (digits.take maxHexChars)
  | none => .error (ascii "cannot compute SHA-256 text digest")

def hashRegularFile (path : Text) : FileState → Except Text Text
  | .missing => .error (ascii "cannot open regular file for hashing: " ++ path)
  | .irregular => .error (ascii "hash input is not a regular file: " ++ path)
  | .unreadable => .error (ascii "cannot hash regular file: " ++ path)
  | .regular bytes =>
    match sha256 bytes with
    | .noContext => .error (ascii "cannot initialise the file digest")
    | .noUpdate => .error (ascii "cannot hash regular file: " ++ path)
    | hashing =>
      match finalHex hashing with
      | some digits => .ok digits
      | none => .error (ascii "cannot finalise the hash of " ++ path)

/-! ## The asset tree -/

inductive AssetKind where
  | directory | link | other
  | regular (file : FileState)
  deriving DecidableEq, Repr

/-- An asset directory, in the order of its iterator. -/
structure AssetTree where
  realDirectory : Bool
  entries : List (Text × AssetKind)
  /-- The iterator ends with an error. -/
  broken : Bool
  distinct : (entries.map (·.1)).Nodup
  noNul : ∀ entry ∈ entries, 0 ∉ entry.1

/-- The regular files of a tree, or the first entry that is refused. -/
def regularFiles : List (Text × AssetKind) → Except Text (List (Text × FileState))
  | [] => .ok []
  | (path, kind) :: rest =>
    match kind with
    | .link => .error (ascii "asset tree contains a symbolic link")
    | .other => .error (ascii "asset tree contains a non-regular entry")
    | .directory => regularFiles rest
    | .regular file =>
      match regularFiles rest with
      | .error e => .error e
      | .ok files => .ok ((path, file) :: files)

/-- The files, sorted by their paths. -/
def listAssets (tree : AssetTree) : Except Text (List (Text × FileState)) :=
  if tree.realDirectory = false then .error (ascii "asset root is not a real directory")
  else
    match regularFiles tree.entries with
    | .error e => .error e
    | .ok files =>
      if tree.broken then .error (ascii "cannot enumerate asset tree")
      else .ok (files.mergeSort fun a b => !textBefore b.1 a.1)

def assetPath (root path : Text) : Text := root ++ ascii "/" ++ path

/-- What one file adds to the tree's digest. -/
def assetRecord (digest path : Text) : Bytes := digest ++ ascii "  " ++ path ++ [0]

/-- The fold over the digests. -/
def foldDigests (records : List (Text × Text)) : Except Text (Text × Nat) :=
  match sha256 (records.flatMap fun r => assetRecord r.1 r.2) with
  | .noContext => .error (ascii "cannot initialise asset tree digest")
  | .noUpdate => .error (ascii "cannot update asset tree digest")
  | hashing =>
    match finalHex hashing with
    | some digits => .ok (digits, records.length)
    | none => .error (ascii "cannot finalise asset tree digest")

/-- The digests of the files, one after the other. -/
def hashFiles (root : Text) : List (Text × FileState) → Except Text (List (Text × Text))
  | [] => .ok []
  | (path, file) :: rest =>
    match hashRegularFile sha256 (assetPath root path) file with
    | .error e => .error e
    | .ok digest =>
      match hashFiles root rest with
      | .error e => .error e
      | .ok records => .ok ((digest, path) :: records)

def hashAssetTree (root : Text) (tree : AssetTree) : Except Text (Text × Nat) :=
  match listAssets tree with
  | .error e => .error e
  | .ok files =>
    match hashFiles sha256 root files with
    | .error e => .error e
    | .ok records => foldDigests sha256 records

/-! ## The payload -/

/-- The constants of the guest's ABI. -/
structure GuestAbi where
  abi : String
  splitApkFile : String
  splitApkHashKey : String

def guestAarch64 : GuestAbi := ⟨"arm64-v8a", "split_config.arm64_v8a.apk", "arm64_v8a_split_apk"⟩
def guestX8664 : GuestAbi := ⟨"x86_64", "split_config.x86_64.apk", "x86_64_split_apk"⟩

structure PayloadDirectory where
  realDirectory : Bool
  library : FileState
  baseApk : FileState
  splitApk : FileState
  metadata : FileState
  assets : AssetTree
  /-- `assets/content`. -/
  realContent : Bool

structure PayloadMetadata where
  packageName : Text
  versionName : Text
  versionCode : Nat
  buildId : Text
  librarySha256 : Text
  baseApkSha256 : Text
  splitApkSha256 : Text
  assetFileCount : Nat
  assetTreeSha256 : Text
  deriving DecidableEq, Repr

structure PayloadIntegrity where
  metadata : PayloadMetadata
  payloadId : Text
  deriving DecidableEq, Repr

def isLowerHexDigit (c : UInt8) : Bool := (0x30 ≤ c.toNat && c.toNat ≤ 0x39) || (0x61 ≤ c.toNat && c.toNat ≤ 0x66)

def lowerHex (value : Text) (size : Nat) : Bool := value.length == size && value.all isLowerHexDigit

def FileState.isRegular : FileState → Bool
  | .missing | .irregular => false
  | .unreadable | .regular _ => true

/-- `ReadMetadata`. -/
def readMetadata : FileState → Except Text Bytes
  | .missing => .error (ascii "payload metadata is unavailable")
  | .irregular => .error (ascii "payload metadata is not a bounded regular file")
  | .unreadable => .error (ascii "cannot read payload metadata")
  | .regular bytes =>
    if 1024 * 1024 < bytes.length then .error (ascii "payload metadata is not a bounded regular file") else .ok bytes

variable (lib : JsonLibrary) (abi : GuestAbi)

/-- The fields of `roblox_payload.json`. -/
def readFields (contents : Bytes) : Outcome PayloadMetadata := do
  match parseObject lib contents with
  | none => fail "payload metadata schema is invalid"
  | some document =>
    if ← otherSchema document then fail "payload metadata schema is invalid"
    else
      match findMember document (ascii "version_code"), findMember document (ascii "sha256"),
        findMember document (ascii "assets") with
      | some (.unsigned versionCode), some (.object hashes), some (.object assets) => do
        let packageName ← valueText document "package"
        let versionName ← valueText document "version_name"
        let buildId ← valueText document "elf_build_id"
        let librarySha256 ← valueText hashes "libroblox"
        let baseApkSha256 ← valueText hashes "base_apk"
        let splitApkSha256 ← valueText hashes abi.splitApkHashKey
        match findMember assets (ascii "file_count") with
        | some (.unsigned assetFileCount) => do
          let assetTreeSha256 ← valueText assets "sha256_tree"
          return {
            packageName, versionName, versionCode := versionCode % 2 ^ 64, buildId, librarySha256, baseApkSha256,
            splitApkSha256, assetFileCount, assetTreeSha256 }
        | _ => fail "payload metadata asset count is invalid"
      | _, _, _ => fail "payload metadata schema is invalid"

/-- The fields are an identity and hashes. -/
def goodFields (metadata : PayloadMetadata) : Bool :=
  metadata.packageName == ascii "com.roblox.client" && metadata.versionName != [] && metadata.versionCode != 0 &&
    lowerHex metadata.buildId 40 && lowerHex metadata.librarySha256 64 && lowerHex metadata.baseApkSha256 64 &&
    lowerHex metadata.splitApkSha256 64 && lowerHex metadata.assetTreeSha256 64

def payloadIdOf (versionCode : Nat) (buildId : Text) : Text := ascii (toString versionCode) ++ ascii "-" ++ buildId

/-- The entries a payload must have, in the order they are checked. -/
def checkLayout (directory : PayloadDirectory) : Except Text Unit :=
  if directory.realDirectory = false then .error (ascii "payload root is not a real directory")
  else if directory.library.isRegular = false then .error (ascii "payload is missing regular file: libroblox.so")
  else if directory.baseApk.isRegular = false then .error (ascii "payload is missing regular file: sober_apk/base.apk")
  else if directory.splitApk.isRegular = false then
    .error (ascii "payload is missing regular file: sober_apk/" ++ ascii abi.splitApkFile)
  else if directory.metadata.isRegular = false then .error (ascii "payload is missing regular file: roblox_payload.json")
  else if directory.assets.realDirectory = false then .error (ascii "payload is missing real directory: assets")
  else if directory.realContent = false then .error (ascii "payload is missing real directory: assets/content")
  else .ok ()

def inspectPreparedPayload (directory : PayloadDirectory) : Outcome PayloadIntegrity := do
  outcome (checkLayout abi directory)
  let contents ← outcome (readMetadata directory.metadata)
  let metadata ← readFields lib abi contents
  if goodFields metadata then
    return { metadata, payloadId := payloadIdOf metadata.versionCode metadata.buildId }
  else fail "payload metadata identity or hashes are invalid"

/-- One of the three files against its recorded hash. -/
def checkFile (path relative : Text) (file : FileState) (expected : Text) : Except Text Unit :=
  match hashRegularFile sha256 (assetPath path relative) file with
  | .error e => .error e
  | .ok actual => if actual ≠ expected then .error (ascii "payload hash mismatch: " ++ relative) else .ok ()

def checkAssets (path : Text) (tree : AssetTree) (metadata : PayloadMetadata) : Except Text Unit :=
  match hashAssetTree sha256 (assetPath path (ascii "assets")) tree with
  | .error e => .error e
  | .ok (digest, count) =>
    if count ≠ metadata.assetFileCount ∨ digest ≠ metadata.assetTreeSha256 then
      .error (ascii "payload asset tree does not match metadata")
    else .ok ()

def verifyPreparedPayload (path : Text) (directory : PayloadDirectory) : Outcome PayloadIntegrity := do
  let result ← inspectPreparedPayload lib abi directory
  outcome (checkFile sha256 path (ascii "libroblox.so") directory.library result.metadata.librarySha256)
  outcome (checkFile sha256 path (ascii "sober_apk/base.apk") directory.baseApk result.metadata.baseApkSha256)
  outcome (checkFile sha256 path (ascii "sober_apk/" ++ ascii abi.splitApkFile) directory.splitApk result.metadata.splitApkSha256)
  outcome (checkAssets sha256 path directory.assets result.metadata)
  return result

end

end Mocktail.Update

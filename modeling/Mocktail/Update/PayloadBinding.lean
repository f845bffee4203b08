/-
  Mocktail.Update.PayloadBinding — what the hashes recorded for a payload fix.

  A file's digest fixes its bytes. The tree's digest is over one record for each file, in the
  order of the paths: 64 digits, two blanks, the path and a NUL. No path holds a NUL, so the
  records can be told apart (`records_inj`), and with them the paths and the bytes of all
  assets.

  SHA-256 is assumed to be injective on the strings that the two verifications hash
  (`hashedBy`), not on all strings.
-/

import Mocktail.Lib.Keyed
import Mocktail.Update.ApkSigners
import Mocktail.Update.AssetWorkers

namespace Mocktail.Update

open Mocktail.Lib Mocktail.Launch

/-! ## Digits -/

/-- A digit of `hex`. -/
def hexDigitOf (n : Nat) : UInt8 := if n < 10 then UInt8.ofNat (0x30 + n) else UInt8.ofNat (0x57 + n)

theorem hex_cons (b : UInt8) (bytes : Bytes) :
    hex (b :: bytes) = hexDigitOf (b.toNat / 16) :: hexDigitOf (b.toNat % 16) :: hex bytes := rfl

theorem length_hex (bytes : Bytes) : (hex bytes).length = 2 * bytes.length := by
  induction bytes with
  | nil => rfl
  | cons b bytes ih =>
    rw [hex_cons, List.length_cons, List.length_cons, List.length_cons, ih]
    omega

theorem hexDigitOf_inj {a b : Nat} (ha : a < 16) (hb : b < 16) (h : hexDigitOf a = hexDigitOf b) : a = b := by
  have hn := congrArg UInt8.toNat h
  unfold hexDigitOf at hn
  split at hn
  · split at hn
    · rw [UInt8.toNat_ofNat', UInt8.toNat_ofNat'] at hn
      omega
    · rw [UInt8.toNat_ofNat', UInt8.toNat_ofNat'] at hn
      omega
  · split at hn
    · rw [UInt8.toNat_ofNat', UInt8.toNat_ofNat'] at hn
      omega
    · rw [UInt8.toNat_ofNat', UInt8.toNat_ofNat'] at hn
      omega

theorem hex_inj {a b : Bytes} (h : hex a = hex b) : a = b := by
  induction a generalizing b with
  | nil =>
    cases b with
    | nil => rfl
    | cons y b => cases h
  | cons x a ih =>
    cases b with
    | nil => cases h
    | cons y b =>
      rw [hex_cons, hex_cons, List.cons.injEq, List.cons.injEq] at h
      obtain ⟨hhigh, hlow, hrest⟩ := h
      have hx := x.toNat_lt
      have hy := y.toNat_lt
      have h1 := hexDigitOf_inj (by omega) (by omega) hhigh
      have h2 := hexDigitOf_inj (by omega) (by omega) hlow
      rw [ih hrest, UInt8.toNat_inj.mp (show x.toNat = y.toNat by omega)]

variable {digits : Text}

theorem finalHex_some {hashing : Hashing} (h : finalHex hashing = some digits) :
    ∃ hash, hashing = .digest hash ∧ hash.length = 32 ∧ digits = hex hash := by
  unfold finalHex at h
  split at h
  · rename_i hash
    split at h
    · rename_i hsize
      cases h
      exact ⟨hash, rfl, hsize, rfl⟩
    · cases h
  · cases h

variable {files : List (Text × FileState)} {records : List (Text × Text)} {s : Set Bytes}

section
variable {sha256 : Sha256}

/-- `digits` are those of the hash of `bytes`. -/
def HexOf (sha256 : Sha256) (bytes : Bytes) (digits : Text) : Prop :=
  ∃ hash, sha256 bytes = .digest hash ∧ hash.length = 32 ∧ digits = hex hash

theorem HexOf.length {bytes : Bytes} (h : HexOf sha256 bytes digits) : digits.length = 64 := by
  obtain ⟨hash, -, hsize, rfl⟩ := h
  rw [length_hex, hsize]

theorem HexOf.inj (hinj : Set.InjOn sha256 s) {a b : Bytes} (ha : a ∈ s) (hb : b ∈ s)
    (h : HexOf sha256 a digits) (h' : HexOf sha256 b digits) : a = b := by
  obtain ⟨hash, hhash, -, heq⟩ := h
  obtain ⟨hash', hhash', -, heq'⟩ := h'
  have hsame : hash = hash' := hex_inj (heq.symm.trans heq')
  subst hsame
  exact hinj ha hb (hhash.trans hhash'.symm)

theorem HexOf.unique {bytes : Bytes} {digits digits' : Text} (h : HexOf sha256 bytes digits) (h' : HexOf sha256 bytes digits') :
    digits = digits' := by
  obtain ⟨hash, hhash, -, rfl⟩ := h
  obtain ⟨hash', hhash', -, rfl⟩ := h'
  rw [Hashing.digest.inj (hhash.symm.trans hhash')]

theorem hashRegularFile_ok {path digits : Text} {file : FileState} (h : hashRegularFile sha256 path file = .ok digits) :
    ∃ bytes, file = .regular bytes ∧ HexOf sha256 bytes digits := by
  cases file with
  | regular bytes =>
    refine ⟨bytes, rfl, ?_⟩
    unfold hashRegularFile at h
    dsimp only at h
    split at h
    · cases h
    · cases h
    · split at h
      · rename_i found hfound
        cases h
        exact finalHex_some hfound
      · cases h
  | missing => cases h
  | irregular => cases h
  | unreadable => cases h

/-! ## The records of a tree -/

/-- The file of a record. -/
def RecordOf (sha256 : Sha256) (file : Text × FileState) (record : Text × Text) : Prop :=
  record.2 = file.1 ∧ ∃ bytes, file.2 = .regular bytes ∧ HexOf sha256 bytes record.1

theorem hashFiles_ok {root : Text}
    (h : hashFiles sha256 root files = .ok records) : List.Forall₂ (RecordOf sha256) files records := by
  induction files generalizing records with
  | nil =>
    cases h
    exact .nil
  | cons file files ih =>
    obtain ⟨path, state⟩ := file
    unfold hashFiles at h
    split at h
    · cases h
    · rename_i digest hdigest
      split at h
      · cases h
      · rename_i rest hrest
        cases h
        exact .cons ⟨rfl, hashRegularFile_ok hdigest⟩ (ih hrest)

theorem foldDigests_ok {count : Nat}
    (h : foldDigests sha256 records = .ok (digits, count)) :
    HexOf sha256 (records.flatMap fun r => assetRecord r.1 r.2) digits ∧ count = records.length := by
  unfold foldDigests at h
  split at h
  · cases h
  · cases h
  · split at h
    · rename_i found hfound
      cases h
      exact ⟨finalHex_some hfound, rfl⟩
    · cases h

theorem assetRecord_append (digest path : Text) (rest : Bytes) :
    assetRecord digest path ++ rest = digest ++ (ascii "  " ++ (path ++ 0 :: rest)) := by simp [assetRecord]

/-- The first NUL is where a path without one ends. -/
theorem nul_inj {path path' rest rest' : Bytes} (h : 0 ∉ path) (h' : 0 ∉ path') (heq : path ++ 0 :: rest = path' ++ 0 :: rest') :
    path = path' ∧ rest = rest' := by
  induction path generalizing path' with
  | nil =>
    cases path' with
    | nil => exact ⟨rfl, (List.cons.inj heq).2⟩
    | cons c path' => exact absurd (by rw [(List.cons.inj heq).1]; simp) h'
  | cons c path ih =>
    cases path' with
    | nil => exact absurd (by rw [(List.cons.inj heq).1]; simp) h
    | cons c' path' =>
      obtain ⟨hc, hrest⟩ := List.cons.inj heq
      obtain ⟨hpath, hmore⟩ := ih (fun hm => h (by simp [hm])) (fun hm => h' (by simp [hm])) hrest
      exact ⟨by rw [hc, hpath], hmore⟩

/-- Records of 64 digits and paths without NUL can be told apart. -/
theorem records_inj {records records' : List (Text × Text)} (h : ∀ r ∈ records, r.1.length = 64 ∧ 0 ∉ r.2)
    (h' : ∀ r ∈ records', r.1.length = 64 ∧ 0 ∉ r.2)
    (heq : records.flatMap (fun r => assetRecord r.1 r.2) = records'.flatMap fun r => assetRecord r.1 r.2) :
    records = records' := by
  have hne (r : Text × Text) (rest : Bytes) : assetRecord r.1 r.2 ++ rest ≠ [] := by simp [assetRecord]
  induction records generalizing records' with
  | nil =>
    cases records' with
    | nil => rfl
    | cons r records' => exact absurd heq.symm (hne r _)
  | cons r records ih =>
    cases records' with
    | nil => exact absurd heq (hne r _)
    | cons r' records' =>
      obtain ⟨hlen, hzero⟩ := h r (by simp)
      obtain ⟨hlen', hzero'⟩ := h' r' (by simp)
      rw [List.flatMap_cons, List.flatMap_cons, assetRecord_append, assetRecord_append] at heq
      obtain ⟨hdigest, hrest⟩ := List.append_inj heq (by rw [hlen, hlen'])
      obtain ⟨-, hrest⟩ := List.append_inj hrest rfl
      obtain ⟨hpath, hrest⟩ := nul_inj hzero hzero' hrest
      have hmore := ih (fun r hr => h r (by simp [hr])) (fun r hr => h' r (by simp [hr])) hrest
      rw [Prod.ext hdigest hpath, hmore]

theorem files_eq {files files' : List (Text × FileState)}
    (hinj : Set.InjOn sha256 s) (h : List.Forall₂ (RecordOf sha256) files records)
    (h' : List.Forall₂ (RecordOf sha256) files' records) (hs : ∀ path bytes, (path, FileState.regular bytes) ∈ files → bytes ∈ s)
    (hs' : ∀ path bytes, (path, FileState.regular bytes) ∈ files' → bytes ∈ s) : files = files' := by
  induction h generalizing files' with
  | nil =>
    cases h'
    rfl
  | cons hhead _ ih =>
    rename_i file record _ _ _
    cases h' with
    | cons hhead' htail' =>
      rename_i file' _
      obtain ⟨path, state⟩ := file
      obtain ⟨path', state'⟩ := file'
      obtain ⟨hpath, bytes, hbytes, hhex⟩ := hhead
      obtain ⟨hpath', bytes', hbytes', hhex'⟩ := hhead'
      simp only at hpath hpath' hbytes hbytes'
      subst hbytes hbytes'
      have hsame := HexOf.inj hinj (hs path bytes (by simp)) (hs' path' bytes' (by simp)) hhex hhex'
      have hrest := ih htail' (fun p b hb => hs p b (by simp [hb])) fun p b hb => hs' p b (by simp [hb])
      rw [hsame, hrest, ← hpath, ← hpath']

end

/-! ## The asset tree as a map -/

/-- The bytes of an asset. -/
def assetBytes (tree : AssetTree) (path : Text) : Option Bytes :=
  match tree.entries.find? (·.1 == path) with
  | some (_, .regular (.regular bytes)) => some bytes
  | _ => none

theorem assetBytes_iff (tree : AssetTree) (path : Text) (bytes : Bytes) :
    assetBytes tree path = some bytes ↔ (path, AssetKind.regular (.regular bytes)) ∈ tree.entries := by
  unfold assetBytes
  constructor
  · intro h
    split at h
    · rename_i found bytes' hfound
      cases h
      have hpath : found = path := by simpa using List.find?_some hfound
      rw [← hpath]
      exact List.mem_of_find?_eq_some hfound
    · cases h
  · intro h
    have hfind : tree.entries.find? (·.1 == path) = some (path, AssetKind.regular (.regular bytes)) :=
      (find_some_iff (by simp) tree.distinct).mpr ⟨h, rfl⟩
    rw [hfind]

theorem regularFiles_mem {entries : List (Text × AssetKind)} (h : regularFiles entries = .ok files)
    (path : Text) (file : FileState) : (path, file) ∈ files ↔ (path, AssetKind.regular file) ∈ entries := by
  induction entries generalizing files with
  | nil =>
    cases h
    simp
  | cons entry entries ih =>
    obtain ⟨name, kind⟩ := entry
    unfold regularFiles at h
    cases kind with
    | link => cases h
    | other => cases h
    | directory =>
      rw [ih h]
      simp
    | regular state =>
      dsimp only at h
      split at h
      · cases h
      · rename_i rest hrest
        cases h
        simp [ih hrest]

variable {tree : AssetTree}

theorem listAssets_mem (h : listAssets tree = .ok files) (path : Text)
    (file : FileState) : (path, file) ∈ files ↔ (path, AssetKind.regular file) ∈ tree.entries := by
  unfold listAssets at h
  split at h
  · cases h
  · split at h
    · cases h
    · rename_i found hfound
      split at h
      · cases h
      · cases h
        rw [List.mem_mergeSort, regularFiles_mem hfound]

/-! ## Two payloads -/

section
variable {sha256 : Sha256} {lib : JsonLibrary} {abi : GuestAbi}

theorem checkFile_ok {path relative expected : Text} {file : FileState} {u : Unit}
    (h : checkFile sha256 path relative file expected = .ok u) : ∃ bytes, file = .regular bytes ∧
      HexOf sha256 bytes expected := by
  unfold checkFile at h
  split at h
  · cases h
  · rename_i actual hactual
    split at h
    · cases h
    · rename_i hsame
      have hsame : actual = expected := by simpa using hsame
      rw [← hsame]
      exact hashRegularFile_ok hactual

/-- The stream of an asset tree and the files it stands for. -/
structure TreeStream (sha256 : Sha256) (tree : AssetTree) (files : List (Text × FileState)) (records : List (Text × Text)) :
    Prop where
  files_eq : listAssets tree = .ok files
  records_of : List.Forall₂ (RecordOf sha256) files records

theorem checkAssets_ok {path : Text} {metadata : PayloadMetadata} {u : Unit}
    (h : checkAssets sha256 path tree metadata = .ok u) :
    ∃ files records, TreeStream sha256 tree files records ∧
      HexOf sha256 (records.flatMap fun r => assetRecord r.1 r.2) metadata.assetTreeSha256 := by
  unfold checkAssets at h
  split at h
  · cases h
  · rename_i digest count htree
    split at h
    · cases h
    · rename_i hsame
      rw [not_or, Decidable.not_not, Decidable.not_not] at hsame
      unfold hashAssetTree at htree
      split at htree
      · cases htree
      · rename_i files hfiles
        split at htree
        · cases htree
        · rename_i records hrecords
          refine ⟨files, records, ⟨hfiles, hashFiles_ok hrecords⟩, ?_⟩
          rw [← hsame.2]
          exact (foldDigests_ok htree).1

/-- What an accepted payload's metadata says of its bytes. -/
structure Recorded (sha256 : Sha256) (directory : PayloadDirectory) (metadata : PayloadMetadata) : Prop where
  library : ∃ bytes, directory.library = .regular bytes ∧ HexOf sha256 bytes metadata.librarySha256
  baseApk : ∃ bytes, directory.baseApk = .regular bytes ∧ HexOf sha256 bytes metadata.baseApkSha256
  splitApk : ∃ bytes, directory.splitApk = .regular bytes ∧ HexOf sha256 bytes metadata.splitApkSha256
  assets : ∃ files records, TreeStream sha256 directory.assets files records ∧
    HexOf sha256 (records.flatMap fun r => assetRecord r.1 r.2) metadata.assetTreeSha256

theorem verifyPreparedPayload_ok {path : Text} {directory : PayloadDirectory} {payload : PayloadIntegrity}
    (h : verifyPreparedPayload sha256 lib abi path directory = .ok payload) :
    inspectPreparedPayload lib abi directory = .ok payload ∧ Recorded sha256 directory payload.metadata := by
  obtain ⟨result, hinspect, h⟩ := bind_ok h
  obtain ⟨_, hlibrary, h⟩ := bind_ok h
  obtain ⟨_, hbase, h⟩ := bind_ok h
  obtain ⟨_, hsplit, h⟩ := bind_ok h
  obtain ⟨_, hassets, h⟩ := bind_ok h
  cases h
  exact ⟨hinspect, checkFile_ok (outcome_ok hlibrary), checkFile_ok (outcome_ok hbase), checkFile_ok (outcome_ok hsplit),
    checkAssets_ok (outcome_ok hassets)⟩

/-- The strings that are hashed to verify a payload. -/
def hashedBy (sha256 : Sha256) (directory : PayloadDirectory) : Set Bytes :=
  { input | directory.library = .regular input ∨ directory.baseApk = .regular input ∨ directory.splitApk = .regular input ∨
    (∃ path, (path, AssetKind.regular (.regular input)) ∈ directory.assets.entries) ∨
    ∃ files records, TreeStream sha256 directory.assets files records ∧ input = records.flatMap fun r => assetRecord r.1 r.2 }

structure SameHashes (metadata metadata' : PayloadMetadata) : Prop where
  library : metadata.librarySha256 = metadata'.librarySha256
  baseApk : metadata.baseApkSha256 = metadata'.baseApkSha256
  splitApk : metadata.splitApkSha256 = metadata'.splitApkSha256
  assetFileCount : metadata.assetFileCount = metadata'.assetFileCount
  assetTree : metadata.assetTreeSha256 = metadata'.assetTreeSha256

theorem file_eq (hinj : Set.InjOn sha256 s) {file file' : FileState}
    (h : ∃ bytes, file = .regular bytes ∧ HexOf sha256 bytes digits)
    (h' : ∃ bytes, file' = .regular bytes ∧ HexOf sha256 bytes digits)
    (hs : ∀ bytes, file = .regular bytes → bytes ∈ s) (hs' : ∀ bytes, file' = .regular bytes → bytes ∈ s) : file = file' := by
  obtain ⟨bytes, hbytes, hhex⟩ := h
  obtain ⟨bytes', hbytes', hhex'⟩ := h'
  rw [hbytes, hbytes', HexOf.inj hinj (hs bytes hbytes) (hs' bytes' hbytes') hhex hhex']

theorem TreeStream.records_ok
    (h : TreeStream sha256 tree files records) : ∀ r ∈ records, r.1.length = 64 ∧ 0 ∉ r.2 := by
  intro r hr
  obtain ⟨file, hfile, hpath, bytes, hbytes, hhex⟩ := forall₂_mem h.records_of.flip hr
  refine ⟨hhex.length, ?_⟩
  rw [hpath]
  have hentry := (listAssets_mem h.files_eq file.1 file.2).mp hfile
  exact tree.noNul _ hentry

theorem assets_eq {tree tree' : AssetTree} {files files' : List (Text × FileState)} (h : listAssets tree = .ok files)
    (h' : listAssets tree' = .ok files') (heq : files = files') (path : Text) : assetBytes tree path = assetBytes tree' path := by
  apply Option.ext
  intro bytes
  rw [assetBytes_iff, assetBytes_iff, ← listAssets_mem h, ← listAssets_mem h', heq]

/-- Two accepted payloads with the same recorded hashes. -/
theorem recorded_binds {directory directory' : PayloadDirectory} {metadata metadata' : PayloadMetadata}
    (h : Recorded sha256 directory metadata) (h' : Recorded sha256 directory' metadata') (hsame : SameHashes metadata metadata')
    (hinj : Set.InjOn sha256 (hashedBy sha256 directory ∪ hashedBy sha256 directory')) :
    directory.library = directory'.library ∧ directory.baseApk = directory'.baseApk ∧ directory.splitApk = directory'.splitApk ∧
      ∀ path, assetBytes directory.assets path = assetBytes directory'.assets path := by
  refine ⟨?_, ?_, ?_, ?_⟩
  · refine file_eq hinj h.library (hsame.library ▸ h'.library) ?_ ?_
    · exact fun _ hb => .inl (.inl hb)
    · exact fun _ hb => .inr (.inl hb)
  · refine file_eq hinj h.baseApk (hsame.baseApk ▸ h'.baseApk) ?_ ?_
    · exact fun _ hb => .inl (.inr (.inl hb))
    · exact fun _ hb => .inr (.inr (.inl hb))
  · refine file_eq hinj h.splitApk (hsame.splitApk ▸ h'.splitApk) ?_ ?_
    · exact fun _ hb => .inl (.inr (.inr (.inl hb)))
    · exact fun _ hb => .inr (.inr (.inr (.inl hb)))
  · obtain ⟨files, records, hstream, hhex⟩ := h.assets
    obtain ⟨files', records', hstream', hhex'⟩ := h'.assets
    rw [← hsame.assetTree] at hhex'
    have hbytes := HexOf.inj hinj (.inl (.inr (.inr (.inr (.inr ⟨files, records, hstream, rfl⟩)))))
      (.inr (.inr (.inr (.inr (.inr ⟨files', records', hstream', rfl⟩))))) hhex hhex'
    have hrecords := records_inj hstream.records_ok hstream'.records_ok hbytes
    subst hrecords
    refine assets_eq hstream.files_eq hstream'.files_eq (files_eq hinj hstream.records_of hstream'.records_of ?_ ?_)
    · intro path bytes hmem
      exact .inl (.inr (.inr (.inr (.inl ⟨path, (listAssets_mem hstream.files_eq path _).mp hmem⟩))))
    · intro path bytes hmem
      exact .inr (.inr (.inr (.inr (.inl ⟨path, (listAssets_mem hstream'.files_eq path _).mp hmem⟩))))

end

/-- The threads of `HashAssetTree` for a list of files. -/
def assetPool (sha256 : Sha256) (root : Text) (files : List (Text × FileState)) (hardware : Nat)
    (schedule : List (Fin (workerCount hardware files.length))) : Pool (workerCount hardware files.length) :=
  poolAfter (readAt sha256 root files) files.length (workerCount hardware files.length) schedule

theorem workerCount_pos {hardware : Nat} (h : files.length < 2 ^ 32) :
    0 < workerCount hardware files.length ∨ files = [] := by
  unfold workerCount
  rw [Nat.mod_eq_of_lt h]
  cases files with
  | nil => exact .inr rfl
  | cons file files =>
    left
    rw [List.length_cons]
    split
    · omega
    · omega

/-- An accepted payload's recorded hashes fix the bytes of its files and its assets; and the
    digest of the assets does not depend on how their threads are interleaved. -/
theorem payload_binds_bytes (sha256 : Sha256) (lib : JsonLibrary) (abi : GuestAbi) :
    (∀ path path' directory directory' payload payload', verifyPreparedPayload sha256 lib abi path directory = .ok payload →
      verifyPreparedPayload sha256 lib abi path' directory' = .ok payload' → SameHashes payload.metadata payload'.metadata →
      Set.InjOn sha256 (hashedBy sha256 directory ∪ hashedBy sha256 directory') →
      directory.library = directory'.library ∧ directory.baseApk = directory'.baseApk ∧ directory.splitApk = directory'.splitApk ∧
        ∀ asset, assetBytes directory.assets asset = assetBytes directory'.assets asset) ∧
    ∀ root tree files hardware, listAssets tree = .ok files → files.length < 2 ^ 32 →
      (∀ schedule, (assetPool sha256 root files hardware schedule).Done →
        (poolResult sha256 files (assetPool sha256 root files hardware schedule)).toOption =
        (hashAssetTree sha256 root tree).toOption) ∧
      ∀ schedule, (workerMachine (readAt sha256 root files) files.length _).Guarded (fun pool _ i => pool.workers i ≠ .finished)
        (Pool.start (workerCount hardware files.length)) schedule →
          schedule.length ≤ 4 * files.length + workerCount hardware files.length := by
  constructor
  · intro path path' directory directory' payload payload' h h' hsame hinj
    exact recorded_binds (verifyPreparedPayload_ok h).2 (verifyPreparedPayload_ok h').2 hsame hinj
  · intro root tree files hardware hfiles hcount
    refine ⟨?_, fun schedule hlive => turns_bounded hlive⟩
    intro schedule hdone
    have hagree := workers_agree (workerCount_pos hcount) hdone
    have htree : hashAssetTree sha256 root tree = (hashFiles sha256 root files >>= foldDigests sha256) := by
      unfold hashAssetTree
      rw [hfiles]
      dsimp only
      cases hashFiles sha256 root files with
      | error e => rfl
      | ok records => rfl
    rw [htree]
    exact hagree

/-! ## A small payload -/

/-- SHA-256 of the strings that are hashed for the small payload. -/
def smallSha256 : List (Bytes × Bytes) :=
  [([1], [75, 245, 18, 47, 52, 69, 84, 197, 59, 222, 46, 187, 140, 210, 183, 227, 209, 96, 10, 214, 49, 195,
    133, 165, 215, 204, 226, 60, 119, 133, 69, 154]),
   ([2], [219, 193, 180, 201, 0, 255, 228, 141, 87, 91, 93, 165, 198, 56, 4, 1, 37, 246, 93, 176, 254, 62,
    36, 73, 75, 118, 234, 152, 100, 87, 217, 134]),
   ([3], [8, 79, 237, 8, 185, 120, 175, 77, 125, 25, 106, 116, 70, 168, 107, 88, 0, 158, 99, 107, 97, 29,
    177, 98, 17, 182, 90, 154, 173, 255, 41, 197]),
   ([], [227, 176, 196, 66, 152, 252, 28, 20, 154, 251, 244, 200, 153, 111, 185, 36, 39, 174, 65, 228, 100, 155,
    147, 76, 164, 149, 153, 27, 120, 82, 184, 85])]

/-- SHA-256 as far as a table goes. -/
def tableSha256 (table : List (Bytes × Bytes)) : Sha256 := fun input =>
  match table.find? (·.1 == input) with
  | some entry => .digest entry.2
  | none => .noContext

def smallHash (i : Nat) : Text := hex ((smallSha256[i]?.map (·.2)).getD [])

def smallBuildId : Text := List.replicate 40 0x61

/-- `roblox_payload.json` for an asset tree, with a moment of preparation, which nothing reads. -/
def metadataText (count : Nat) (tree prepared : Text) : Text :=
  ascii "\x7b\"assets\":\x7b\"file_count\":" ++ ascii (toString count) ++ ascii ",\"sha256_tree\":\"" ++ tree ++
    ascii "\"\x7d,\"elf_build_id\":\"" ++ smallBuildId ++ ascii "\",\"package\":\"com.roblox.client\",\"prepared_at\":\"" ++
      prepared ++
    ascii "\",\"schema_version\":1,\"sha256\":\x7b\"base_apk\":\"" ++ smallHash 1 ++ ascii "\",\"libroblox\":\"" ++ smallHash 0 ++
    ascii "\",\"x86_64_split_apk\":\"" ++ smallHash 2 ++ ascii "\"\x7d,\"version_code\":7,\"version_name\":\"1.0\"\x7d"

def metadataDocument (count : Nat) (tree prepared : Text) : Json :=
  .object
    [(ascii "assets", .object [(ascii "file_count", .unsigned count), (ascii "sha256_tree", .string tree)]),
     (ascii "elf_build_id", .string smallBuildId), (ascii "package", .string (ascii "com.roblox.client")),
     (ascii "prepared_at", .string prepared), (ascii "schema_version", .unsigned 1),
     (ascii "sha256", .object [(ascii "base_apk", .string (smallHash 1)), (ascii "libroblox", .string (smallHash 0)),
       (ascii "x86_64_split_apk", .string (smallHash 2))]),
     (ascii "version_code", .unsigned 7), (ascii "version_name", .string (ascii "1.0"))]

/-- A library as far as the documents of one tree go. -/
def metadataLibrary (count : Nat) (tree : Text) : JsonLibrary where
  parse text :=
    if text = metadataText count tree (ascii "then") then some (metadataDocument count tree (ascii "then"))
    else if text = metadataText count tree (ascii "now") then some (metadataDocument count tree (ascii "now"))
    else none
  dump _ := none

def payloadWith (assets : AssetTree) (count : Nat) (tree prepared : Text) : PayloadDirectory where
  realDirectory := true
  library := .regular [1]
  baseApk := .regular [2]
  splitApk := .regular [3]
  metadata := .regular (metadataText count tree prepared)
  assets := assets
  realContent := true

def identityWith (count : Nat) (tree : Text) : PayloadIntegrity where
  metadata :=
    { packageName := ascii "com.roblox.client", versionName := ascii "1.0", versionCode := 7, buildId := smallBuildId,
      librarySha256 := smallHash 0, baseApkSha256 := smallHash 1, splitApkSha256 := smallHash 2, assetFileCount := count,
      assetTreeSha256 := tree }
  payloadId := ascii "7-" ++ smallBuildId

/-! The small payload has no assets. -/

def smallMetadataText (prepared : Text) : Text := metadataText 0 (smallHash 3) prepared

def smallMetadata (prepared : Text) : Json := metadataDocument 0 (smallHash 3) prepared

def smallLibrary : JsonLibrary := metadataLibrary 0 (smallHash 3)

def smallPayload (prepared : Text) : PayloadDirectory :=
  payloadWith
    { realDirectory := true, entries := [(ascii "content", .directory)], broken := false, distinct := by decide,
      noNul := by decide }
    0 (smallHash 3) prepared

def smallIdentity : PayloadIntegrity := identityWith 0 (smallHash 3)

theorem tableSha256_mem {table : List (Bytes × Bytes)} {input : Bytes} (h : input ∈ table.map (·.1)) :
    ∃ entry ∈ table, entry.1 = input ∧ tableSha256 table input = .digest entry.2 := by
  obtain ⟨first, hfirst, rfl⟩ := List.mem_map.mp h
  cases hfind : table.find? (·.1 == first.1) with
  | none =>
    have hnone := List.find?_eq_none.mp hfind first hfirst
    simp at hnone
  | some entry =>
    refine ⟨entry, List.mem_of_find?_eq_some hfind, by simpa using List.find?_some hfind, ?_⟩
    unfold tableSha256
    rw [hfind]

/-- What tells the digests of a table apart tells its strings apart. -/
theorem tableSha256_injOn {β : Type} {table : List (Bytes × Bytes)} (g : Hashing → β)
    (h : (table.map fun entry => g (.digest entry.2)).Nodup) (hs : s ⊆ { input | input ∈ table.map (·.1) }) :
    Set.InjOn (fun input => g (tableSha256 table input)) s := by
  intro x hx y hy heq
  obtain ⟨first, hfirst, rfl, hdigest⟩ := tableSha256_mem (hs hx)
  obtain ⟨second, hsecond, rfl, hdigest'⟩ := tableSha256_mem (hs hy)
  simp only [hdigest, hdigest'] at heq
  rw [List.inj_on_of_nodup_map h hfirst hsecond heq]

/-! ## A payload with two assets -/

def assetDigests : List Bytes :=
  [[229, 45, 156, 80, 140, 80, 35, 71, 52, 77, 140, 7, 173, 145, 203, 214, 6, 138, 252, 117, 255, 98, 146, 240, 98, 160, 156, 163,
    129, 200, 158, 113],
   [231, 123, 154, 154, 233, 227, 11, 13, 189, 182, 245, 16, 162, 100, 239, 157, 231, 129, 80, 29, 123, 107, 146, 174,
    137, 235, 5, 156, 90, 183, 67, 219],
   [89, 111, 239, 114, 16, 191, 255, 180, 255, 133, 49, 181, 205, 168, 49, 241, 109, 43, 189, 251, 215, 46, 29, 221,
    107, 237, 229, 137, 22, 5, 141, 124]]

def assetDigest (i : Nat) : Text := hex (assetDigests[i]?.getD [])

/-- What is hashed for the tree: the digest and the path of each file. -/
def assetStream : Bytes := assetRecord (assetDigest 0) (ascii "content/a") ++ assetRecord (assetDigest 1) (ascii "content/b")

def assetTable : List (Bytes × Bytes) := smallSha256 ++ ([[4], [5], assetStream] : List Bytes).zip assetDigests

def assetSha256 : Sha256 := tableSha256 assetTable

def assetLibrary : JsonLibrary := metadataLibrary 2 (assetDigest 2)

def assetIdentity : PayloadIntegrity := identityWith 2 (assetDigest 2)

def assetFiles : List (Text × FileState) := [(ascii "content/a", .regular [4]), (ascii "content/b", .regular [5])]

def assetEntries : List (Text × AssetKind) :=
  (ascii "content", .directory) :: assetFiles.map fun file => (file.1, .regular file.2)

/-- The tree, in one order of its iterator or in the other. -/
def assetTree (backwards : Bool) : AssetTree where
  realDirectory := true
  entries := if backwards then assetEntries.reverse else assetEntries
  broken := false
  distinct := by cases backwards <;> decide
  noNul := by cases backwards <;> decide

def assetPayload (backwards : Bool) (prepared : Text) : PayloadDirectory :=
  payloadWith (assetTree backwards) 2 (assetDigest 2) prepared

theorem listAssets_assetTree (backwards : Bool) : listAssets (assetTree backwards) = .ok assetFiles := by
  have hbefore : textBefore (ascii "content/a") (ascii "content/b") = true ∧
      textBefore (ascii "content/b") (ascii "content/a") = false := by decide
  cases backwards with
  | false =>
    change Except.ok (List.mergeSort [(ascii "content/a", FileState.regular [4]), (ascii "content/b", .regular [5])] _) = _
    simp [List.mergeSort, hbefore, assetFiles]
  | true =>
    change Except.ok (List.mergeSort [(ascii "content/b", FileState.regular [5]), (ascii "content/a", .regular [4])] _) = _
    simp [List.mergeSort, hbefore, assetFiles]

theorem RecordOf.unique {sha256 : Sha256} {file : Text × FileState} {record record' : Text × Text}
    (h : RecordOf sha256 file record) (h' : RecordOf sha256 file record') : record = record' := by
  obtain ⟨hpath, bytes, hfile, hhex⟩ := h
  obtain ⟨hpath', bytes', hfile', hhex'⟩ := h'
  obtain rfl : bytes = bytes' := FileState.regular.inj (hfile.symm.trans hfile')
  exact Prod.ext (hhex.unique hhex') (hpath.trans hpath'.symm)

theorem hashedBy_assetPayload (backwards : Bool) (prepared : Text) : hashedBy assetSha256 (assetPayload backwards prepared) ⊆
    { input | input ∈ assetTable.map (·.1) } := by
  intro input hinput
  rcases hinput with h | h | h | ⟨path, h⟩ | ⟨files, records, hstream, rfl⟩
  · cases h
    simp [assetTable, smallSha256]
  · cases h
    simp [assetTable, smallSha256]
  · cases h
    simp [assetTable, smallSha256]
  · have hfile : (path, FileState.regular input) ∈ assetFiles := (listAssets_mem (listAssets_assetTree backwards) path _).mpr h
    simp only [assetFiles, List.mem_cons, Prod.mk.injEq, FileState.regular.injEq, List.not_mem_nil, or_false] at hfile
    rcases hfile with ⟨-, rfl⟩ | ⟨-, rfl⟩ <;> simp [assetTable, assetDigests]
  · obtain rfl : assetFiles = files := Except.ok.inj ((listAssets_assetTree backwards).symm.trans hstream.files_eq)
    have hrecords : List.Forall₂ (RecordOf assetSha256) assetFiles
        [(assetDigest 0, ascii "content/a"), (assetDigest 1, ascii "content/b")] :=
      hashFiles_ok (show hashFiles assetSha256 [] assetFiles = _ by decide +kernel)
    have hunique : Relator.RightUnique (RecordOf assetSha256) := fun _ _ _ => RecordOf.unique
    rw [hunique.forall₂ hstream.records_of hrecords]
    simp [assetTable, assetDigests, assetStream]

theorem verify_assetPayload (backwards : Bool) {prepared : Text}
    (hinspect : inspectPreparedPayload assetLibrary guestX8664 (assetPayload backwards prepared) = .ok assetIdentity) :
    verifyPreparedPayload assetSha256 assetLibrary guestX8664 [] (assetPayload backwards prepared) = .ok assetIdentity := by
  have hassets : checkAssets assetSha256 [] (assetPayload backwards prepared).assets assetIdentity.metadata = .ok () := by
    change checkAssets assetSha256 [] (assetTree backwards) assetIdentity.metadata = .ok ()
    unfold checkAssets hashAssetTree
    rw [listAssets_assetTree]
    decide +kernel
  have hfiles : checkFile assetSha256 [] (ascii "libroblox.so") (.regular [1]) (smallHash 0) = .ok () ∧
      checkFile assetSha256 [] (ascii "sober_apk/base.apk") (.regular [2]) (smallHash 1) = .ok () ∧
      checkFile assetSha256 [] (ascii "sober_apk/" ++ ascii guestX8664.splitApkFile) (.regular [3]) (smallHash 2) = .ok () := by
    decide +kernel
  unfold verifyPreparedPayload
  rw [hinspect]
  change (do
    outcome (checkFile assetSha256 [] (ascii "libroblox.so") (.regular [1]) (smallHash 0))
    outcome (checkFile assetSha256 [] (ascii "sober_apk/base.apk") (.regular [2]) (smallHash 1))
    outcome (checkFile assetSha256 [] (ascii "sober_apk/" ++ ascii guestX8664.splitApkFile) (.regular [3]) (smallHash 2))
    outcome (checkAssets assetSha256 [] (assetPayload backwards prepared).assets assetIdentity.metadata)
    return assetIdentity) = _
  rw [hfiles.1, hfiles.2.1, hfiles.2.2, hassets]
  rfl

/-- Two threads, one behind the other. -/
def assetSchedule : List (Fin (workerCount 2 assetFiles.length)) := ([0, 1, 1, 0, 1, 1, 0, 1, 0, 0] : List (Fin 2))

/-- Two preparations of one payload, whose assets are listed in two orders; and two threads that
    hash the assets. -/
theorem payload_binds_bytes_assetPayload :
    (∀ asset, assetBytes (assetPayload false (ascii "then")).assets asset =
      assetBytes (assetPayload true (ascii "now")).assets asset) ∧
      (poolResult assetSha256 assetFiles (assetPool assetSha256 [] assetFiles 2 assetSchedule)).toOption =
        (hashAssetTree assetSha256 [] (assetTree true)).toOption ∧
      assetSchedule.length ≤ 4 * assetFiles.length + workerCount 2 assetFiles.length := by
  have hfacts : (assetTable.map fun entry => id (Hashing.digest entry.2)).Nodup ∧
      inspectPreparedPayload assetLibrary guestX8664 (assetPayload false (ascii "then")) = .ok assetIdentity ∧
      inspectPreparedPayload assetLibrary guestX8664 (assetPayload true (ascii "now")) = .ok assetIdentity := by decide +kernel
  obtain ⟨hdigests, hthen, hnow⟩ := hfacts
  have hinj : Set.InjOn assetSha256 (hashedBy assetSha256 (assetPayload false (ascii "then")) ∪
      hashedBy assetSha256 (assetPayload true (ascii "now"))) :=
    tableSha256_injOn id hdigests (Set.union_subset (hashedBy_assetPayload _ _) (hashedBy_assetPayload _ _))
  have hbinds := payload_binds_bytes assetSha256 assetLibrary guestX8664
  have hthreads := hbinds.2 [] (assetTree true) assetFiles 2 (listAssets_assetTree true) (by decide)
  refine ⟨?_, hthreads.1 _ ?_, hthreads.2 _ (by decide +kernel)⟩
  · exact (hbinds.1 [] [] _ _ _ _ (verify_assetPayload false hthen) (verify_assetPayload true hnow)
      ⟨rfl, rfl, rfl, rfl, rfl⟩ hinj).2.2.2
  · unfold Pool.Done
    decide +kernel

end Mocktail.Update

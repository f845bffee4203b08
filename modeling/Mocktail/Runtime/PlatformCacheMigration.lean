/-
  Mocktail.Runtime.PlatformCacheMigration — dropping cached hydration data when the device profile
  changes (`platform_cache_migration.cc`).

  A run compares the revision a fingerprint file names with the one it is given. Where they differ
  it takes three members out of the storage file, and then writes the fingerprint. Both files are
  replaced by a temporary file and a rename, and each step on the file system may fail; what has
  been renamed stays although a later step (syncing the directory) fails the run.

  One `go` is one step on the file system, with whether it succeeds; `crash` ends the process
  anywhere. The two files are given: how their paths come from the environment is left out, and so
  is what becomes of temporary files.

  Proved (`migration_consistent`), over any steps of any runs: a fingerprint that names a revision
  it did not name at first stands beside a storage file without the three members; the storage
  file's other members are never touched; a run that returns without error leaves its revision
  in the fingerprint, and further runs with it write nothing.
-/

import Mocktail.Update.Documents

namespace Mocktail.Runtime.PlatformCache

open Mocktail.Lib Mocktail.Launch Mocktail.Update

/-! ## Documents -/

def kMaximumJsonBytes : Nat := 16 * 1024 * 1024
def kFingerprintSchemaVersion : Int := 1

def kHydrationKeys : List Text :=
  [ascii "PlayerHydrationBlob", ascii "PlayerHydrationSignature", ascii "AppConfiguration"]

/-- `is_number_integer`, and the number before it is cast. -/
def integerOf : Json → Option Int
  | .unsigned value => some value
  | .integer value => some value
  | _ => none

def fingerprintRevision (fingerprint : Members) : Text :=
  match (findMember fingerprint (ascii "schema_version")).bind integerOf, findMember fingerprint (ascii "profile_revision") with
  | some schema, some (.string revision) => if castSigned 32 schema = kFingerprintSchemaVersion then revision else []
  | _, _ => []

def updatedFingerprint (revision : Text) : Members :=
  [(ascii "profile_revision", .string revision), (ascii "schema_version", .integer kFingerprintSchemaVersion)]

/-- `erase(name)`, with the number of members it has removed added up. -/
def eraseMember (erased : Members × Nat) (name : Text) : Members × Nat :=
  (erased.1.filter (·.1 ≠ name), erased.2 + if (findMember erased.1 name).isSome then 1 else 0)

def eraseHydration (storage : Members) : Members × Nat := kHydrationKeys.foldl eraseMember (storage, 0)

/-! ## The files -/

inductive Entry where
  | missing | symlink | irregular
  | regular (bytes : Text)
  deriving DecidableEq, Repr

inductive File where
  | storage | fingerprint
  deriving DecidableEq, Repr

structure Disk where
  storage : Entry
  fingerprint : Entry
  deriving DecidableEq, Repr

def Disk.entry (d : Disk) : File → Entry
  | .storage => d.storage
  | .fingerprint => d.fingerprint

def Disk.replace (d : Disk) (bytes : Text) : File → Disk
  | .storage => { d with storage := .regular bytes }
  | .fingerprint => { d with fingerprint := .regular bytes }

/-- How far a step takes a function on the files. -/
inductive Progress (α β : Type) where
  | next (stage : α)
  | done (value : β)
  | failed (text : Text)
  | aborted

inductive ReadStage where
  | opening | checking | reading
  deriving DecidableEq, Repr

inductive WriteStage where
  | directory | target | temporary | contents
  | rename (bytes : Text)
  | openDirectory | syncDirectory
  deriving DecidableEq, Repr

/-- A step that fails with a text. -/
def orFail {α β : Type} (ok : Bool) (text : String) (p : Progress α β) : Progress α β := if ok then p else .failed (ascii text)

section
variable (lib : JsonLibrary)

/-- `ReadJson`; a file that is not there is `none`. -/
def readJson (entry : Entry) (ok : Bool) : ReadStage → Progress ReadStage (Option Members)
  | .opening => orFail (ok && entry ≠ .symlink) "cannot safely open platform cache metadata"
      (if entry = .missing then .done none else .next .checking)
  | .checking =>
    match entry with
    | .regular bytes => orFail (ok && bytes.length ≤ kMaximumJsonBytes)
        "platform cache metadata is not a bounded regular file" (.next .reading)
    | _ => .failed (ascii "platform cache metadata is not a bounded regular file")
  | .reading =>
    match entry with
    | .regular bytes => orFail ok "cannot read platform cache metadata"
        (match parseObject lib bytes with
        | some members => .done (some members)
        | none => .failed (ascii "platform cache metadata is not a JSON object"))
    | _ => .failed (ascii "cannot read platform cache metadata")

/-- `AtomicWriteJson` but for what its rename does to the file. -/
def atomicWriteJson (entry : Entry) (document : Members) (ok : Bool) : WriteStage → Progress WriteStage Unit
  | .directory => orFail ok "cannot create platform cache metadata directory" (.next .target)
  | .target => orFail ok "cannot inspect platform cache metadata target"
      (if entry = .symlink then .failed (ascii "platform cache metadata target is a symlink") else .next .temporary)
  | .temporary => orFail ok "cannot create temporary platform cache metadata" (.next .contents)
  | .contents =>
    match lib.dump (.object document) with
    | none => .aborted
    | some bytes => orFail ok "cannot atomically store platform cache metadata" (.next (.rename bytes))
  | .rename _ => orFail ok "cannot atomically store platform cache metadata" (.next .openDirectory)
  | .openDirectory => orFail ok "cannot open platform cache metadata directory for sync" (.next .syncDirectory)
  | .syncDirectory => orFail ok "cannot sync platform cache metadata directory" (.done ())

def renamed (d : Disk) (file : File) (ok : Bool) : WriteStage → Disk
  | .rename bytes => if ok then d.replace bytes file else d
  | _ => d

/-! ## Runs -/

/-- `PlatformCacheMigrationResult`; the empty text is no error. -/
structure Result where
  previousRevision : Text
  transitioned : Bool
  appStorageFound : Bool
  appStorageUpdated : Bool
  error : Text
  deriving DecidableEq, Repr

def Result.initial : Result := ⟨[], false, false, false, []⟩

/-- Where the process is in `MigratePlatformProfileCaches`. -/
inductive Point where
  | idle
  | dataRoot (revision : Text)
  | openLock (revision : Text)
  | holdLock (revision : Text)
  | read (revision : Text) (result : Result) (file : File) (stage : ReadStage)
  | write (revision : Text) (result : Result) (file : File) (document : Members) (stage : WriteStage)
  | returned (revision : Text) (result : Result)

structure State where
  disk : Disk
  point : Point

def returnError (revision : Text) (result : Result) (text : Text) : Point := .returned revision { result with error := text }

def checked (revision : Text) (ok : Bool) (text : String) (next : Point) : Point :=
  if ok then next else returnError revision .initial (ascii text)

def writeFingerprint (revision : Text) (result : Result) : Point :=
  .write revision result .fingerprint (updatedFingerprint revision) .directory

def fingerprintRead (revision : Text) (result : Result) (fingerprint : Option Members) : Point :=
  let result := { result with previousRevision := (fingerprint.map fingerprintRevision).getD [] }
  if result.previousRevision = revision then .returned revision result
  else .read revision { result with transitioned := true } .storage .opening

def storageRead (revision : Text) (result : Result) : Option Members → Point
  | none => writeFingerprint revision result
  | some members =>
    let result := { result with appStorageFound := true }
    if (eraseHydration members).2 ≠ 0 then .write revision result .storage (eraseHydration members).1 .directory
    else writeFingerprint revision result

def fileRead (revision : Text) (result : Result) : File → Option Members → Point
  | .fingerprint => fingerprintRead revision result
  | .storage => storageRead revision result

def fileWritten (revision : Text) (result : Result) : File → Point
  | .storage => writeFingerprint revision { result with appStorageUpdated := true }
  | .fingerprint => .returned revision result

inductive Act where
  | start (revision : Text)
  | go (ok : Bool)
  | crash

def begin (revision : Text) : Point :=
  checked revision (revision ≠ [] && revision.length ≤ 64) "platform profile revision is invalid" (.dataRoot revision)

def go (s : State) (ok : Bool) : State :=
  match s.point with
  | .idle | .returned _ _ => s
  | .dataRoot r => { s with point := checked r ok "cannot create Mocktail Android data root" (.openLock r) }
  | .openLock r => { s with point := checked r ok "cannot open platform cache migration lock" (.holdLock r) }
  | .holdLock r =>
    { s with
      point := checked r ok "another process owns the platform cache migration lock" (.read r .initial .fingerprint .opening) }
  | .read r result file stage =>
    { s with
      point := match readJson lib (s.disk.entry file) ok stage with
        | .next stage => .read r result file stage
        | .done members => fileRead r result file members
        | .failed text => returnError r result text
        | .aborted => .idle }
  | .write r result file document stage =>
    { disk := renamed s.disk file ok stage
      point := match atomicWriteJson lib (s.disk.entry file) document ok stage with
        | .next stage => .write r result file document stage
        | .done _ => fileWritten r result file
        | .failed text => returnError r result text
        | .aborted => .idle }

/-- Runs follow one another: a run starts when none is under way. -/
def step (s : State) : Act → State
  | .start revision =>
    match s.point with
    | .idle | .returned _ _ => { s with point := begin revision }
    | _ => s
  | .go ok => go lib s ok
  | .crash => { s with point := .idle }

def run (s : State) (acts : List Act) : State := acts.foldl (step lib) s

/-! ## What the files say -/

def Names (entry : Entry) (revision : Text) : Prop :=
  ∃ bytes members, entry = .regular bytes ∧ parseObject lib bytes = some members ∧ fingerprintRevision members = revision ∧
    revision ≠ []

def HydrationAbsent (entry : Entry) : Prop :=
  entry = .missing ∨ ∃ bytes members, entry = .regular bytes ∧ parseObject lib bytes = some members ∧
    ∀ key ∈ kHydrationKeys, findMember members key = none

/-- A file that is as it was, or an object with the same other members. -/
def OthersKept (before after : Entry) : Prop :=
  after = before ∨ ∃ bytes members bytes' members', before = .regular bytes ∧ parseObject lib bytes = some members ∧
    after = .regular bytes' ∧ parseObject lib bytes' = some members' ∧
    ∀ key ∉ kHydrationKeys, findMember members' key = findMember members key

/-- What the parser gives: finite doubles, UTF-8, ordered objects, and no non-negative `number_integer` (a `-0`, which is
    written as `0`, is taken for that). -/
inductive Parsed : Json → Prop where
  | null : Parsed .null
  | bool (value : Bool) : Parsed (.bool value)
  | unsigned {value : Nat} (h : value < 2 ^ 64) : Parsed (.unsigned value)
  | integer {value : Int} (h : -2 ^ 63 ≤ value ∧ value < 0) : Parsed (.integer value)
  | float {bits : UInt64} (h : bits.toNat / 2 ^ 52 % 2 ^ 11 < 2047) : Parsed (.float bits)
  | string {value : Text} (h : Utf8.WellFormed value) : Parsed (.string value)
  | array {items : List Json} (h : ∀ item ∈ items, Parsed item) : Parsed (.array items)
  | object {members : Members} (order : Ordered members) (keys : ∀ m ∈ members, Utf8.WellFormed m.1)
      (values : ∀ m ∈ members, Parsed m.2) : Parsed (.object members)

/-- Dumping and parsing are inverse on parsed documents. -/
structure Inverse : Prop where
  parsed : ∀ text document, lib.parse text = some document → Parsed document
  parse_dump : ∀ document text, Parsed document → lib.dump document = some text → lib.parse text = some document

end

/-! ## Erasing members -/

theorem findMember_filter (members : Members) (name key : Text) :
    findMember (members.filter (·.1 ≠ name)) key = if key = name then none else findMember members key := by
  induction members with
  | nil => simp
  | cons m rest ih =>
    obtain ⟨k, value⟩ := m
    by_cases hk : k = name
    · rw [List.filter_cons_of_neg (by simp [hk]), ih, findMember_cons, hk]
      by_cases h : key = name <;> simp [h]
    · rw [List.filter_cons_of_pos (by simp [hk]), findMember_cons, findMember_cons, ih]
      by_cases h : key = k
      · rw [if_pos h, if_pos h, if_neg (h ▸ hk)]
      · rw [if_neg h, if_neg h]

theorem eraseMember_foldl (keys : List Text) (start : Members × Nat) :
    let left := keys.foldl eraseMember start
    left.1.Sublist start.1 ∧ (∀ key, findMember left.1 key = if key ∈ keys then none else findMember start.1 key) ∧
      start.2 ≤ left.2 ∧ (left.2 = start.2 → ∀ key ∈ keys, findMember start.1 key = none) := by
  induction keys generalizing start with
  | nil => exact ⟨List.Sublist.refl _, fun _ => rfl, Nat.le_refl _, fun _ _ h => (List.not_mem_nil h).elim⟩
  | cons name keys ih =>
    obtain ⟨hsub, hfind, hle, hnone⟩ := ih (eraseMember start name)
    intro left
    have hstep : (eraseMember start name).2 = start.2 + if (findMember start.1 name).isSome then 1 else 0 := rfl
    refine ⟨hsub.trans List.filter_sublist, ?_, Nat.le_trans (Nat.le_add_right _ _) hle, ?_⟩
    · intro key
      rw [show findMember left.1 key = _ from hfind key]
      simp only [eraseMember, findMember_filter, List.mem_cons]
      by_cases h : key = name <;> by_cases hk : key ∈ keys <;> simp [h, hk]
    · intro heq key hkey
      -- Nothing was counted, so this member was not there either.
      have heq : (keys.foldl eraseMember (eraseMember start name)).2 = start.2 := heq
      have hfirst : findMember start.1 name = none := by
        cases hm : findMember start.1 name with
        | none => rfl
        | some value =>
          simp only [hm, Option.isSome_some, if_true] at hstep
          omega
      rcases List.mem_cons.mp hkey with rfl | hkey
      · exact hfirst
      · have hrest := hnone (by omega) key hkey
        rw [eraseMember, findMember_filter] at hrest
        split at hrest
        · rename_i h
          rw [h, hfirst]
        · exact hrest

theorem findMember_eraseHydration (members : Members) (key : Text) :
    findMember (eraseHydration members).1 key = if key ∈ kHydrationKeys then none else findMember members key :=
  (eraseMember_foldl kHydrationKeys (members, 0)).2.1 key

variable {members : Members}

theorem eraseHydration_none (h : (eraseHydration members).2 = 0) :
    ∀ key ∈ kHydrationKeys, findMember members key = none :=
  (eraseMember_foldl kHydrationKeys (members, 0)).2.2.2 h

theorem parsed_eraseHydration (h : Parsed (.object members)) : Parsed (.object (eraseHydration members).1) := by
  have hsub : (eraseHydration members).1.Sublist members := (eraseMember_foldl kHydrationKeys (members, 0)).1
  cases h with
  | object order keys values =>
    exact .object (order.sublist hsub) (fun m hm => keys m (hsub.subset hm)) fun m hm => values m (hsub.subset hm)

/-! ## One step on a file -/

section
variable {lib : JsonLibrary}

theorem parseObject_iff {bytes : Text} :
    parseObject lib bytes = some members ↔ lib.parse bytes = some (.object members) := by
  rw [parseObject]
  split
  · rename_i heq
    simp [heq]
  · rename_i heq
    simp only [reduceCtorEq, false_iff]
    exact heq members

theorem ascii_ne_nil {text : String} (h : text ≠ "") : ascii text ≠ [] := by
  simpa [ascii] using h

/-- What a step of `ReadJson` comes to. -/
theorem readJson_cases (entry : Entry) (ok : Bool) (stage : ReadStage) :
    (∃ text, readJson lib entry ok stage = .failed text ∧ text ≠ []) ∨
    (∃ next, readJson lib entry ok stage = .next next) ∨
    (readJson lib entry ok stage = .done none ∧ entry = .missing) ∨
    (∃ bytes members, readJson lib entry ok stage = .done (some members) ∧ entry = .regular bytes ∧
      parseObject lib bytes = some members) := by
  cases stage with
  | opening =>
    rw [readJson, orFail]
    split
    · split
      · rename_i h
        exact .inr (.inr (.inl ⟨rfl, h⟩))
      · exact .inr (.inl ⟨_, rfl⟩)
    · exact .inl ⟨_, rfl, ascii_ne_nil (by decide)⟩
  | checking =>
    simp only [readJson]
    split
    · rw [orFail]
      split
      · exact .inr (.inl ⟨_, rfl⟩)
      · exact .inl ⟨_, rfl, ascii_ne_nil (by decide)⟩
    · exact .inl ⟨_, rfl, ascii_ne_nil (by decide)⟩
  | reading =>
    simp only [readJson]
    split
    · rename_i bytes
      rw [orFail]
      split
      · split
        · rename_i members h
          exact .inr (.inr (.inr ⟨bytes, members, rfl, rfl, h⟩))
        · exact .inl ⟨_, rfl, ascii_ne_nil (by decide)⟩
      · exact .inl ⟨_, rfl, ascii_ne_nil (by decide)⟩
    · exact .inl ⟨_, rfl, ascii_ne_nil (by decide)⟩

/-- The file has been replaced. -/
def WriteStage.after : WriteStage → Bool
  | .openDirectory | .syncDirectory => true
  | _ => false

/-- What a step of `AtomicWriteJson` comes to. -/
theorem atomicWriteJson_cases (d : Disk) (file : File) (entry : Entry) (document : Members) (ok : Bool) (stage : WriteStage) :
    (renamed d file ok stage = d ∧
      ((∃ text, atomicWriteJson lib entry document ok stage = .failed text ∧ text ≠ []) ∨
        atomicWriteJson lib entry document ok stage = .aborted ∨
        (∃ next, atomicWriteJson lib entry document ok stage = .next next ∧ next.after = stage.after ∧
          ∀ bytes, next = .rename bytes → lib.dump (.object document) = some bytes) ∨
        (atomicWriteJson lib entry document ok stage = .done () ∧ stage.after = true))) ∨
    (∃ bytes, stage = .rename bytes ∧ renamed d file ok stage = d.replace bytes file ∧
      atomicWriteJson lib entry document ok stage = .next .openDirectory) := by
  have hfail (text : String) (h : text ≠ "") (p : Progress WriteStage Unit) :
      orFail false text p = .failed (ascii text) ∧ ascii text ≠ [] := ⟨rfl, ascii_ne_nil h⟩
  cases stage with
  | contents =>
    refine .inl ⟨rfl, ?_⟩
    rw [atomicWriteJson]
    cases hdump : lib.dump (.object document) with
    | none => exact .inr (.inl rfl)
    | some bytes =>
      cases ok with
      | false => exact .inl ⟨_, hfail _ (by decide) _⟩
      | true =>
        refine .inr (.inr (.inl ⟨_, rfl, rfl, ?_⟩))
        intro other hother
        cases hother
        rfl
  | rename bytes =>
    cases ok with
    | false => exact .inl ⟨rfl, .inl ⟨_, hfail _ (by decide) _⟩⟩
    | true => exact .inr ⟨bytes, rfl, rfl, rfl⟩
  | target =>
    refine .inl ⟨rfl, ?_⟩
    rw [atomicWriteJson]
    cases ok with
    | false => exact .inl ⟨_, hfail _ (by decide) _⟩
    | true =>
      rw [orFail, if_pos rfl]
      split
      · exact .inl ⟨_, rfl, ascii_ne_nil (by decide)⟩
      · exact .inr (.inr (.inl ⟨_, rfl, rfl, nofun⟩))
  | syncDirectory =>
    refine .inl ⟨rfl, ?_⟩
    cases ok with
    | false => exact .inl ⟨_, hfail _ (by decide) _⟩
    | true => exact .inr (.inr (.inr ⟨rfl, rfl⟩))
  | directory | temporary | openDirectory =>
    refine .inl ⟨rfl, ?_⟩
    cases ok with
    | false => exact .inl ⟨_, hfail _ (by decide) _⟩
    | true => exact .inr (.inr (.inl ⟨_, rfl, rfl, nofun⟩))

/-! ## Invariants -/

variable (lib) in
/-- What holds of the two files at a point of a run. -/
def PointOk (d : Disk) : Point → Prop
  | .idle => True
  | .dataRoot r | .openLock r | .holdLock r | .read r _ _ _ => r ≠ []
  | .write r _ file document stage =>
    r ≠ [] ∧ (∀ bytes, stage = .rename bytes → lib.dump (.object document) = some bytes) ∧
    match file with
    | .storage =>
      if stage.after then HydrationAbsent lib d.storage
      else ∃ bytes members, d.storage = .regular bytes ∧ parseObject lib bytes = some members ∧
        document = (eraseHydration members).1
    | .fingerprint =>
      document = updatedFingerprint r ∧ HydrationAbsent lib d.storage ∧ (stage.after = true → Names lib d.fingerprint r)
  | .returned r result => result.error = [] → Names lib d.fingerprint r

variable (lib) in
structure Inv (start : Disk) (s : State) : Prop where
  named : ∀ r, Names lib s.disk.fingerprint r → Names lib start.fingerprint r ∨ HydrationAbsent lib s.disk.storage
  kept : OthersKept lib start.storage s.disk.storage
  point : PointOk lib s.disk s.point

variable {start : Disk} {s : State} {r : Text} {result : Result}

theorem Inv.at_point {point : Point} (h : Inv lib start s) (hpoint : PointOk lib s.disk point) :
    Inv lib start { s with point := point } := ⟨h.named, h.kept, hpoint⟩

variable {d : Disk}

theorem pointOk_returnError {text : Text} (h : text ≠ []) : PointOk lib d (returnError r result text) :=
  fun herror => absurd herror h

theorem pointOk_checked {ok : Bool} {text : String} {next : Point} (htext : text ≠ "")
    (h : ok = true → PointOk lib d next) : PointOk lib d (checked r ok text next) := by
  rw [checked]
  split
  · rename_i hok
    exact h hok
  · exact pointOk_returnError (ascii_ne_nil htext)

theorem pointOk_writeFingerprint (hr : r ≠ []) (h : HydrationAbsent lib d.storage) :
    PointOk lib d (writeFingerprint r result) :=
  ⟨hr, nofun, rfl, h, nofun⟩

theorem pointOk_fingerprintRead {found : Option Members} (hr : r ≠ [])
    (h : ∀ members, found = some members → ∃ bytes, d.fingerprint = .regular bytes ∧ parseObject lib bytes = some members) :
    PointOk lib d (fingerprintRead r result found) := by
  rw [fingerprintRead]
  split
  · rename_i heq
    intro _
    cases found with
    | none => exact absurd heq.symm hr
    | some members =>
      obtain ⟨bytes, hbytes, hparse⟩ := h members rfl
      exact ⟨bytes, members, hbytes, hparse, heq, hr⟩
  · exact hr

theorem pointOk_storageRead {found : Option Members} (hr : r ≠ []) (hmissing : found = none → d.storage = .missing)
    (h : ∀ members, found = some members → ∃ bytes, d.storage = .regular bytes ∧ parseObject lib bytes = some members) :
    PointOk lib d (storageRead r result found) := by
  cases found with
  | none => exact pointOk_writeFingerprint hr (.inl (hmissing rfl))
  | some members =>
    obtain ⟨bytes, hbytes, hparse⟩ := h members rfl
    simp only [storageRead]
    split
    · exact ⟨hr, nofun, bytes, members, hbytes, hparse, rfl⟩
    · rename_i hnone
      exact pointOk_writeFingerprint hr (.inr ⟨bytes, members, hbytes, hparse, eraseHydration_none (not_not.mp hnone)⟩)

/-! ## The renames -/

/-- The storage file that is put in place has lost the three members and nothing else. -/
theorem storage_replaced (hlib : Inverse lib) {bytes dumped : Text}
    (hparse : parseObject lib bytes = some members) (hdump : lib.dump (.object (eraseHydration members).1) = some dumped) :
    HydrationAbsent lib (.regular dumped) ∧ OthersKept lib (.regular bytes) (.regular dumped) := by
  have hdumped : parseObject lib dumped = some (eraseHydration members).1 :=
    parseObject_iff.mpr (hlib.parse_dump _ _ (parsed_eraseHydration (hlib.parsed _ _ (parseObject_iff.mp hparse))) hdump)
  refine ⟨.inr ⟨dumped, _, rfl, hdumped, ?_⟩, .inr ⟨bytes, members, dumped, _, rfl, hparse, rfl, hdumped, ?_⟩⟩
  · intro key hkey
    rw [findMember_eraseHydration, if_pos hkey]
  · intro key hkey
    rw [findMember_eraseHydration, if_neg hkey]

theorem OthersKept.trans {a b c : Entry} (h1 : OthersKept lib a b) (h2 : OthersKept lib b c) : OthersKept lib a c := by
  rcases h1 with rfl | ⟨x, m, y, n, rfl, hx, rfl, hy, hmn⟩
  · exact h2
  · rcases h2 with rfl | ⟨y', n', z, k, hyy, hy', rfl, hz, hnk⟩
    · exact .inr ⟨x, m, y, n, rfl, hx, rfl, hy, hmn⟩
    · cases hyy
      obtain rfl : n = n' := by simpa [hy] using hy'
      exact .inr ⟨x, m, z, k, rfl, hx, rfl, hz, fun key hkey => (hnk key hkey).trans (hmn key hkey)⟩

theorem fingerprint_replaced (hround : lib.RoundTrips) (hr : r ≠ []) {dumped : Text}
    (hdump : lib.dump (.object (updatedFingerprint r)) = some dumped) : Names lib (.regular dumped) r := by
  have hutf8 : Utf8.WellFormed r := hround.dump_utf8 _ _ hdump (ascii "profile_revision") r List.mem_cons_self
  have hordered : Ordered (updatedFingerprint r) := by
    simp only [Ordered, updatedFingerprint, List.pairwise_cons, List.mem_singleton, forall_eq]
    exact ⟨by decide, by simp⟩
  have hplain : ∀ m ∈ updatedFingerprint r, Plain m.2 := by
    intro m hm
    simp only [updatedFingerprint, List.mem_cons, List.not_mem_nil, or_false] at hm
    rcases hm with rfl | rfl
    · exact hutf8
    · exact ⟨by decide, by decide⟩
  refine ⟨dumped, _, rfl, parseObject_iff.mpr (hround.parse_dump _ _ hordered hplain hdump), ?_, hr⟩
  have hkeys : ascii "schema_version" ≠ ascii "profile_revision" := by decide
  simp only [updatedFingerprint, List.map_cons, List.map_nil, reread, fingerprintRevision, findMember_cons, if_neg hkeys, if_true,
    Option.bind_some, integerOf]
  rfl

/-! ## Steps and runs -/

theorem go_inv (hlib : Inverse lib) (hround : lib.RoundTrips) (h : Inv lib start s) (ok : Bool) :
    Inv lib start (go lib s ok) := by
  obtain ⟨d, point⟩ := s
  have hpoint := h.point
  cases point with
  | idle => exact h
  | returned r result => exact h
  | dataRoot r | openLock r | holdLock r => exact h.at_point (pointOk_checked (by decide) fun _ => hpoint)
  | read r result file stage =>
    apply h.at_point
    rcases @readJson_cases lib (d.entry file) ok stage with
      ⟨text, heq, htext⟩ | ⟨next, heq⟩ | ⟨heq, hmissing⟩ | ⟨bytes, members, heq, hentry, hparse⟩ <;> simp only [heq]
    · exact pointOk_returnError htext
    · exact hpoint
    · cases file with
      | storage => exact @pointOk_storageRead lib r result d none hpoint (fun _ => hmissing) nofun
      | fingerprint => exact @pointOk_fingerprintRead lib r result d none hpoint nofun
    · cases file with
      | storage =>
        refine @pointOk_storageRead lib r result d (some members) hpoint nofun ?_
        rintro _ ⟨⟩
        exact ⟨bytes, hentry, hparse⟩
      | fingerprint =>
        refine pointOk_fingerprintRead hpoint ?_
        rintro _ ⟨⟩
        exact ⟨bytes, hentry, hparse⟩
  | write r result file document stage =>
    obtain ⟨hr, hdump, hfile⟩ := hpoint
    simp only [go]
    rcases @atomicWriteJson_cases lib d file (d.entry file) document ok stage with
      ⟨hsame, hcases⟩ | ⟨bytes, rfl, hreplace, heq⟩
    · rw [hsame]
      apply h.at_point
      rcases hcases with ⟨text, heq, htext⟩ | heq | ⟨next, heq, hafter, hnext⟩ | ⟨heq, hafter⟩ <;> simp only [heq]
      · exact pointOk_returnError htext
      · trivial
      · refine ⟨hr, hnext, ?_⟩
        rw [hafter]
        exact hfile
      · cases file with
        | storage =>
          simp only [hafter, if_true] at hfile
          exact pointOk_writeFingerprint hr hfile
        | fingerprint => exact fun _ => hfile.2.2 hafter
    · -- The rename: the one step that changes a file.
      rw [hreplace, heq]
      have hbytes := hdump bytes rfl
      cases file with
      | storage =>
        obtain ⟨old, members, hold, hparse, rfl⟩ := hfile
        obtain ⟨habsent, hkept⟩ := storage_replaced hlib hparse hbytes
        refine ⟨fun _ _ => .inr habsent, h.kept.trans ?_, hr, nofun, habsent⟩
        rw [show d.storage = _ from hold]
        exact hkept
      | fingerprint =>
        obtain ⟨rfl, habsent, -⟩ := hfile
        have hnames := fingerprint_replaced hround hr hbytes
        exact ⟨fun _ _ => .inr habsent, h.kept, hr, nofun, rfl, habsent, fun _ => hnames⟩

theorem step_inv (hlib : Inverse lib) (hround : lib.RoundTrips) (h : Inv lib start s) (act : Act) :
    Inv lib start (step lib s act) := by
  cases act with
  | go ok => exact go_inv hlib hround h ok
  | crash => exact h.at_point trivial
  | start revision =>
    have hbegin : PointOk lib s.disk (begin revision) := by
      refine pointOk_checked (by decide) fun hok => ?_
      rw [Bool.and_eq_true, decide_eq_true_eq] at hok
      exact hok.1
    rw [step]
    split
    · exact h.at_point hbegin
    · exact h.at_point hbegin
    · exact h

theorem run_inv (hlib : Inverse lib) (hround : lib.RoundTrips) (h : Inv lib start s) (acts : List Act) :
    Inv lib start (run lib s acts) := by
  induction acts generalizing s with
  | nil => exact h
  | cons act acts ih => exact ih (step_inv hlib hround h act)

/-! ## Further runs -/

/-- The points a run gets to whose revision is in the fingerprint. -/
def Quiet (r : Text) : Point → Prop
  | .idle | .returned _ _ => True
  | .dataRoot revision | .openLock revision | .holdLock revision | .read revision _ .fingerprint _ => revision = r
  | _ => False

theorem step_quiet (hnames : Names lib s.disk.fingerprint r) (h : Quiet r s.point) {act : Act}
    (hact : ∀ revision, act = .start revision → revision = r) :
    (step lib s act).disk = s.disk ∧ Quiet r (step lib s act).point := by
  obtain ⟨d, point⟩ := s
  have hchecked {ok : Bool} {revision : Text} {text : String} {next : Point} (h : Quiet r next) :
      Quiet r (checked revision ok text next) := by
    rw [checked]
    split
    · exact h
    · trivial
  cases act with
  | crash => exact ⟨rfl, trivial⟩
  | start revision =>
    have hbegin : Quiet r (begin revision) := hchecked (hact revision rfl)
    simp only [step]
    split
    · exact ⟨rfl, hbegin⟩
    · exact ⟨rfl, hbegin⟩
    · exact ⟨rfl, h⟩
  | go ok =>
    cases point with
    | idle | returned _ _ => exact ⟨rfl, trivial⟩
    | dataRoot _ | openLock _ | holdLock _ => exact ⟨rfl, hchecked h⟩
    | write _ _ _ _ _ => exact h.elim
    | read revision result file stage =>
      cases file with
      | storage => exact h.elim
      | fingerprint =>
        obtain rfl : revision = r := h
        refine ⟨rfl, ?_⟩
        obtain ⟨bytes, members, hentry, hparse, hrevision, hr⟩ := hnames
        have hentry : d.entry .fingerprint = .regular bytes := hentry
        rcases @readJson_cases lib (d.entry .fingerprint) ok stage with
          ⟨text, heq, -⟩ | ⟨next, heq⟩ | ⟨heq, hmissing⟩ | ⟨bytes', members', heq, hentry', hparse'⟩ <;>
          simp only [step, go, heq]
        · trivial
        · rfl
        · rw [hentry] at hmissing
          cases hmissing
        · obtain rfl : bytes = bytes' := by simpa [hentry] using hentry'
          obtain rfl : members = members' := by simpa [hparse] using hparse'
          simp only [fileRead, fingerprintRead, Option.map_some, Option.getD_some, hrevision, if_true]
          trivial

theorem run_quiet (hnames : Names lib s.disk.fingerprint r) (h : Quiet r s.point) {acts : List Act}
    (hacts : ∀ act ∈ acts, ∀ revision, act = .start revision → revision = r) : (run lib s acts).disk = s.disk := by
  induction acts generalizing s with
  | nil => rfl
  | cons act acts ih =>
    obtain ⟨hdisk, hquiet⟩ := step_quiet hnames h (hacts act List.mem_cons_self)
    have hrest := ih (by rwa [hdisk]) hquiet fun other hother => hacts other (List.mem_cons_of_mem _ hother)
    exact hrest.trans hdisk

end

theorem migration_consistent (lib : JsonLibrary) (hlib : Inverse lib) (hround : lib.RoundTrips) (start : Disk) (acts : List Act) :
    let s := run lib ⟨start, .idle⟩ acts
    (∀ r, Names lib s.disk.fingerprint r → ¬Names lib start.fingerprint r → HydrationAbsent lib s.disk.storage) ∧
    OthersKept lib start.storage s.disk.storage ∧
    ∀ r result, s.point = .returned r result → result.error = [] →
      Names lib s.disk.fingerprint r ∧
        ∀ later : List Act, (∀ act ∈ later, ∀ revision, act = .start revision → revision = r) →
          (run lib s later).disk = s.disk := by
  intro s
  have hstart : Inv lib start ⟨start, .idle⟩ := ⟨fun _ h => .inl h, .inl rfl, trivial⟩
  have hinv : Inv lib start s := run_inv hlib hround hstart acts
  refine ⟨fun r hnow hbefore => (hinv.named r hnow).resolve_left hbefore, hinv.kept, ?_⟩
  intro r result hreturned herror
  have hpoint := hinv.point
  rw [hreturned] at hpoint
  have hnames : Names lib s.disk.fingerprint r := hpoint herror
  refine ⟨hnames, fun later hlater => run_quiet hnames ?_ hlater⟩
  rw [hreturned]
  trivial

def cachedMembers : Members := [(ascii "AppConfiguration", .unsigned 1), (ascii "a", .unsigned 2)]
def clearedMembers : Members := [(ascii "a", .unsigned 2)]

def cachedText : Text := ascii "\x7b\"AppConfiguration\":1,\"a\":2\x7d"
def clearedText : Text := ascii "\x7b\"a\":2\x7d"
def fingerprintText : Text := ascii "\x7b\"profile_revision\":\"t1\",\"schema_version\":1\x7d"

def namedMembers : Members := [(ascii "profile_revision", .string (ascii "t1")), (ascii "schema_version", .unsigned 1)]

/-- A library that knows three documents. -/
def cacheLibrary : JsonLibrary where
  parse text :=
    if text = cachedText then some (.object cachedMembers)
    else if text = clearedText then some (.object clearedMembers)
    else if text = fingerprintText then some (.object namedMembers)
    else none
  dump
    | .object members =>
      if sameMembers members clearedMembers then some clearedText
      else if sameMembers members (updatedFingerprint (ascii "t1")) || sameMembers members namedMembers then some fingerprintText
      else none
    | _ => none

theorem cacheLibrary_dump {text : Text} (h : cacheLibrary.dump (.object members) = some text) :
    (members = clearedMembers ∧ text = clearedText) ∨
      ((members = updatedFingerprint (ascii "t1") ∨ members = namedMembers) ∧ text = fingerprintText) := by
  simp only [cacheLibrary] at h
  split at h
  · rename_i hs
    exact .inl ⟨eq_of_sameMembers hs, (Option.some.inj h).symm⟩
  · split at h
    · rename_i hs
      rw [Bool.or_eq_true] at hs
      exact .inr ⟨hs.imp eq_of_sameMembers eq_of_sameMembers, (Option.some.inj h).symm⟩
    · cases h

/-- Ordered members with ASCII keys whose values are small numbers and ASCII strings. -/
def flat (members : Members) : Bool :=
  decide (members.Pairwise fun a b => textBefore a.1 b.1 = true) && members.all fun m => m.1.all (·.toNat < 0x80) &&
    match m.2 with
    | .unsigned value => value < 2 ^ 64
    | .string value => value.all (·.toNat < 0x80)
    | _ => false

theorem parsed_of_flat (h : flat members = true) : Parsed (.object members) := by
  simp only [flat, Bool.and_eq_true, decide_eq_true_eq, List.all_eq_true] at h
  refine .object h.1 (fun m hm => Utf8.wellFormed_ascii (h.2 m hm).1) fun m hm => ?_
  have hvalue := (h.2 m hm).2
  split at hvalue
  · rename_i heq
    rw [heq]
    exact .unsigned (of_decide_eq_true hvalue)
  · rename_i heq
    rw [heq]
    exact .string (Utf8.wellFormed_ascii (by simpa using hvalue))
  · cases hvalue

theorem cacheLibrary_inverse : Inverse cacheLibrary := by
  constructor
  · intro text document h
    simp only [cacheLibrary] at h
    split at h
    · cases h
      exact parsed_of_flat (by decide +kernel)
    · split at h
      · cases h
        exact parsed_of_flat (by decide +kernel)
      · split at h
        · cases h
          exact parsed_of_flat (by decide +kernel)
        · cases h
  · intro document text hparsed hdump
    cases document with
    | object members =>
      rcases cacheLibrary_dump hdump with ⟨rfl, rfl⟩ | ⟨rfl | rfl, rfl⟩
      · rfl
      · cases hparsed with
        | object _ _ values =>
          cases values _ (List.mem_cons_of_mem _ List.mem_cons_self) with
          | integer h => exact absurd h.2 (by decide)
      · rfl
    | null | bool | unsigned | integer | float | string | array => cases hdump

theorem cacheLibrary_roundTrips : cacheLibrary.RoundTrips := by
  constructor
  · intro members text hdump key value hmem
    have hascii : Utf8.WellFormed (ascii "t1") := Utf8.wellFormed_ascii (by decide +kernel)
    rcases cacheLibrary_dump hdump with ⟨rfl, -⟩ | ⟨rfl | rfl, -⟩
    · simp [clearedMembers] at hmem
    · simp only [updatedFingerprint, List.mem_cons, Prod.mk.injEq, Json.string.injEq, reduceCtorEq, and_false, or_false,
        List.not_mem_nil] at hmem
      rwa [hmem.2]
    · simp only [namedMembers, List.mem_cons, Prod.mk.injEq, Json.string.injEq, reduceCtorEq, and_false, or_false,
        List.not_mem_nil] at hmem
      rwa [hmem.2]
  · intro members text _ _ hdump
    rcases cacheLibrary_dump hdump with ⟨rfl, rfl⟩ | ⟨rfl | rfl, rfl⟩ <;> rfl

/-- From a missing fingerprint, with every step succeeding. -/
theorem migration_consistent_first :
    Names cacheLibrary (run cacheLibrary ⟨⟨.regular cachedText, .missing⟩, .idle⟩
      (.start (ascii "t1") :: List.replicate 21 (.go true))).disk.fingerprint (ascii "t1") :=
  ((migration_consistent cacheLibrary cacheLibrary_inverse cacheLibrary_roundTrips ⟨.regular cachedText, .missing⟩
    (.start (ascii "t1") :: List.replicate 21 (.go true))).2.2 (ascii "t1") ⟨[], true, true, true, []⟩ rfl rfl).1

end Mocktail.Runtime.PlatformCache

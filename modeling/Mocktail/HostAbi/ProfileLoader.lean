/-
  Mocktail.HostAbi.ProfileLoader — reading an external host ABI profile
  (`ParseProfile` of src/compat/host_abi_profile_loader.cc, with the consistency predicates of
  src/compat/host_abi_profile.cc).

  The document is read field by field and what was read is then checked; each refusal has its
  own text. Lists stand for the fixed arrays with their counts: six bridges, and at most 26
  ranges. What is parsed but not kept (the constructor indices) is checked only.
-/

import Mathlib.Data.List.Sort
import Mocktail.Compat.ApprovalReceipt

namespace Mocktail.HostAbi.Loader

open Mocktail.Lib Mocktail.Launch Mocktail.Update Mocktail.Compat

def kMaximumInitArrayEntries : Nat := 1024 * 1024
def kMaximumSeedAllocationBytes : Nat := 16 * 1024 * 1024
def kMaximumArenaTableSlots : Nat := 16 * 1024 * 1024
def kMaxConstructorRunRanges : Nat := 26

/-- `kGuestElfMachine`. -/
inductive GuestMachine where
  | aarch64
  | x8664
  deriving DecidableEq, Repr

/-! ## Profiles -/

inductive HostBridgeKind where
  | allocate
  | reallocate
  | alignedAllocate
  | free
  | usableSize
  deriving DecidableEq, Repr

inductive HostAllocatorStrategy where
  | hostBridges
  | nativeMimalloc
  deriving DecidableEq, Repr

structure HostBridgeEntry where
  rva : Nat
  kind : HostBridgeKind
  label : Text
  deriving DecidableEq, Repr

structure ConstructorRange where
  first : Nat
  endExclusive : Nat
  deriving DecidableEq, Repr

def ConstructorRange.isValidFor (range : ConstructorRange) (constructorCount : Nat) : Bool :=
  range.first < range.endExclusive && range.endExclusive ≤ constructorCount

structure HostDataSeedProfile where
  allocatorObjectSlot : Nat
  emptyStringSlot : Nat
  jniSingletonSlot : Nat
  jniSingletonBytes : Nat
  arenaInitializer : Nat
  allocatorThreadInitializer : Nat
  arenaGuardSlot : Nat
  arenaTableSlot : Nat
  arenaTableSlotCount : Nat
  deriving DecidableEq, Repr

structure NativePreJniBootstrapProfile where
  registryInitializer : Nat
  registrySlot : Nat
  deriving DecidableEq, Repr

def NativePreJniBootstrapProfile.isValid (bootstrap : NativePreJniBootstrapProfile) : Bool :=
  bootstrap.registryInitializer != 0 && bootstrap.registrySlot != 0

structure NativeAllocatorProfile where
  allocate : Nat
  deallocate : Nat
  deriving DecidableEq, Repr

def NativeAllocatorProfile.isValid (allocator : NativeAllocatorProfile) : Bool :=
  allocator.allocate != 0 && allocator.deallocate != 0

structure HostAbiProfile where
  elfBuildId : Text
  bridgeEntries : List HostBridgeEntry
  dataSeeds : HostDataSeedProfile
  nativeAllocator : NativeAllocatorProfile
  initArrayOffset : Nat
  initArrayCount : Nat
  constructorRunRanges : List ConstructorRange
  nativeMimallocConstructorRunRanges : List ConstructorRange
  nativeMimallocThreadInitializerAfterConstructor : Nat
  nativePreJniBootstrap : NativePreJniBootstrapProfile
  defaultAllocatorStrategy : HostAllocatorStrategy
  hostAllocatorBridgesSupported : Bool
  deriving DecidableEq, Repr

/-- The loop of the two range predicates; `previousEnd` is none at the first range. -/
def rangesFollow (count : Nat) : Option Nat → List ConstructorRange → Bool
  | _, [] => true
  | previousEnd, range :: rest =>
    range.isValidFor count && !(previousEnd.any fun previous => range.first < previous) &&
      rangesFollow count (some range.endExclusive) rest

def hasValidRanges (count : Nat) (ranges : List ConstructorRange) : Bool :=
  ranges.length != 0 && ranges.length ≤ kMaxConstructorRunRanges && rangesFollow count none ranges

section
variable (profile : HostAbiProfile)

def HostAbiProfile.hasValidConstructorRanges : Bool := hasValidRanges profile.initArrayCount profile.constructorRunRanges

def HostAbiProfile.hasValidNativeMimallocConstructorRanges : Bool :=
  hasValidRanges profile.initArrayCount profile.nativeMimallocConstructorRunRanges

def HostAbiProfile.allowsNativeMimallocConstructor (index : Nat) : Bool :=
  profile.hasValidNativeMimallocConstructorRanges &&
    profile.nativeMimallocConstructorRunRanges.any fun range => range.first ≤ index && index < range.endExclusive

def HostAbiProfile.shouldInitializeNativeMimallocThreadAfterConstructor (index : Nat) : Bool :=
  profile.hasValidNativeMimallocConstructorRanges &&
    profile.nativeMimallocThreadInitializerAfterConstructor < profile.initArrayCount &&
    profile.allowsNativeMimallocConstructor profile.nativeMimallocThreadInitializerAfterConstructor &&
    index == profile.nativeMimallocThreadInitializerAfterConstructor

def HostAbiProfile.hasValidNativePreJniBootstrap : Bool := profile.nativePreJniBootstrap.isValid

end

/-! ## Fields -/

/-- `std::from_chars` in base 16, of a whole text: digits only, and a value of 64 bits. -/
def fromHexChars (digits : Text) : Option Nat :=
  if digits = [] then none
  else
    match digits.mapM hexDigitValue with
    | none => none
    | some values =>
      let value := values.foldl (fun n digit => n * 16 + digit) 0
      if value < 2 ^ 64 then some value else none

def readHexValue (members : Members) (name : String) (maximum : Nat) : Option Nat :=
  match findMember members (ascii name) with
  | some (.string (0x30 :: 0x78 :: digits)) =>
    match fromHexChars digits with
    | some value => if value = 0 ∨ maximum < value then none else some value
    | none => none
  | _ => none

def readRva (members : Members) (name : String) : Option Nat := readHexValue members name (2 ^ 64 - 1)

/-- Only the letters A to F are changed. -/
def lowercase (value : Text) : Text :=
  value.map fun c => if 0x41 ≤ c.toNat ∧ c.toNat ≤ 0x46 then UInt8.ofNat (c.toNat + 0x20) else c

def isValidBuildId (buildId : Text) : Bool :=
  8 ≤ buildId.length && buildId.length ≤ 128 && buildId.length % 2 == 0 && buildId.all fun c => (hexDigitValue c).isSome

def parseBridgeKind (kind : Text) : Option HostBridgeKind :=
  if kind = ascii "allocate" then some .allocate
  else if kind = ascii "reallocate" then some .reallocate
  else if kind = ascii "aligned_allocate" then some .alignedAllocate
  else if kind = ascii "free" then some .free
  else if kind = ascii "usable_size" then some .usableSize
  else none

def expectedKindForLabel (label : Text) : Option HostBridgeKind :=
  if label = ascii "small-allocate" ∨ label = ascii "allocate" then some .allocate
  else if label = ascii "usable-size" then some .usableSize
  else if label = ascii "reallocate" then some .reallocate
  else if label = ascii "aligned-allocate-direct" then some .alignedAllocate
  else if label = ascii "free" then some .free
  else none

def isSafeLabel (label : Text) : Bool :=
  label != [] && label.length ≤ 64 && label.all fun c =>
    (0x61 ≤ c.toNat && c.toNat ≤ 0x7a) || (0x41 ≤ c.toNat && c.toNat ≤ 0x5a) || (0x30 ≤ c.toNat && c.toNat ≤ 0x39) ||
      c == 0x2d || c == 0x5f

def parseRange (initCount : Nat) : Json → Option ConstructorRange
  | .object item => do
    let first ← readRequiredSize item "begin" initCount
    let endExclusive ← readRequiredSize item "end_exclusive" initCount
    some { first, endExclusive }
  | _ => none

def parseRanges (members : Members) (name : String) (initCount : Nat) : Option (List ConstructorRange) :=
  match findMember members (ascii name) with
  | some (.array encoded) =>
    if encoded.length = 0 ∨ kMaxConstructorRunRanges < encoded.length then none else encoded.mapM (parseRange initCount)
  | _ => none

/-! ## The document -/

def refuse {α : Type} (text : String) : Except Text α := .error (ascii text)

/-- A group of fields that share a text. -/
def orRefuse {α : Type} (text : String) : Option α → Except Text α
  | some value => .ok value
  | none => refuse text

structure ProfileDocument where
  root : Members
  reference : Members
  derivation : Members
  profile : Members

def parseSchema : Json → Except Text ProfileDocument
  | .object root =>
    match findMember root (ascii "schema_version"), findMember root (ascii "reference"),
      findMember root (ascii "derivation_anchors"), findMember root (ascii "profile") with
    | some schema, some (.object reference), some (.object derivation), some (.object profile) =>
      if readSize 1 schema ≠ some 1 ∨ reference = [] ∨ derivation = [] then
        refuse "unsupported external host ABI profile schema"
      else .ok { root, reference, derivation, profile }
    | _, _, _, _ => refuse "unsupported external host ABI profile schema"
  | _ => refuse "unsupported external host ABI profile schema"

def parseBuildId (document : ProfileDocument) : Except Text Text :=
  match readRequiredString document.root "elf_build_id", readRequiredString document.profile "elf_build_id" with
  | some buildId, some nested =>
    if !isValidBuildId buildId ∨ buildId ≠ lowercase buildId ∨ nested ≠ buildId then
      refuse "external host ABI profile has an invalid exact Build ID"
    else .ok buildId
  | _, _ => refuse "external host ABI profile has an invalid exact Build ID"

/-- The build ID and the payload's hash of the reference. -/
def parseReference (reference : Members) : Except Text (Text × Text) :=
  match readRequiredString reference "elf_build_id", readRequiredString reference "payload_sha256" with
  | some buildId, some sha256 =>
    if !isValidBuildId buildId ∨ buildId ≠ lowercase buildId ∨ !lowerHex sha256 64 then
      refuse "external host ABI profile has invalid reference identity"
    else .ok (buildId, sha256)
  | _, _ => refuse "external host ABI profile has invalid reference identity"

/-- The code addresses of the derivation, before those of the constructors. -/
def parseAnchors (derivation : Members) : Except Text (List Nat) :=
  if readRequiredSize derivation "signature_version" 1 ≠ some 1 then
    refuse "external host ABI profile has unsupported derivation anchors"
  else
    orRefuse "external host ABI profile is missing a derivation anchor"
      (["allocator_object_initializer_rva", "empty_string_initializer_rva", "jni_singleton_initializer_rva"].mapM
        (readRva derivation))

def parseBridgesSupported (profile : Members) : Except Text Bool :=
  match findMember profile (ascii "host_allocator_bridges_supported") with
  | none => .ok true
  | some (.bool supported) => .ok supported
  | some _ => refuse "host allocator bridge support must be boolean"

/-- Whether the indices are there, and the four of them: 2 to 5 where they are not. -/
def parseConstructorIndices (derivation : Members) (bridgesSupported : Bool) : Except Text (Bool × List Nat) :=
  match findMember derivation (ascii "constructor_indices") with
  | none =>
    if bridgesSupported then .ok (false, [2, 3, 4, 5]) else refuse "external host ABI profile has invalid constructor indices"
  | some (.object indices) =>
    if indices.length ≠ 4 then refuse "external host ABI profile has invalid constructor indices"
    else
      (orRefuse "external host ABI profile has invalid constructor indices"
        (["2", "3", "4", "5"].mapM fun role => readRequiredSize indices role (kMaximumInitArrayEntries - 1))).map
        fun found => (true, found)
  | some _ => refuse "external host ABI profile has invalid constructor indices"

def parseConstructorRvas (derivation : Members) : Except Text (List Nat) :=
  match findMember derivation (ascii "constructor_rvas") with
  | some (.object anchors) =>
    orRefuse "external host ABI profile is missing a constructor anchor" (["2", "3", "4", "5"].mapM (readRva anchors))
  | _ => refuse "external host ABI profile has invalid constructor anchors"

/-! ## Bridges -/

/-- The table so far, and the addresses of the bridges labelled allocate and free. -/
structure BridgeTable where
  entries : List HostBridgeEntry
  primaryAllocateRva : Nat
  freeRva : Nat

/-- One pass of the loop over the bridge entries. -/
def addBridge (table : BridgeTable) : Json → Except Text BridgeTable
  | .object entry =>
    match readRva entry "rva", readRequiredString entry "kind", readRequiredString entry "label" with
    | some rva, some kindName, some label =>
      if !isSafeLabel label then refuse "external host ABI profile has an invalid bridge entry"
      else
        match parseBridgeKind kindName, expectedKindForLabel label with
        | some kind, some expected =>
          if kind ≠ expected ∨ rva ∈ table.entries.map (·.rva) ∨ label ∈ table.entries.map (·.label) then
            refuse "external host ABI profile has an unknown or duplicate bridge"
          else
            .ok { entries := table.entries ++ [{ rva, kind, label }],
                  primaryAllocateRva := if label = ascii "allocate" then rva else table.primaryAllocateRva,
                  freeRva := if label = ascii "free" then rva else table.freeRva }
        | _, _ => refuse "external host ABI profile has an unknown or duplicate bridge"
    | _, _, _ => refuse "external host ABI profile has an invalid bridge entry"
  | _ => refuse "external host ABI profile has an invalid bridge entry"

def allKinds : List HostBridgeKind := [.allocate, .reallocate, .alignedAllocate, .free, .usableSize]

def parseBridges (profile : Members) : Except Text BridgeTable :=
  match findMember profile (ascii "bridge_entries") with
  | some (.array entries) =>
    if entries.length ≠ 6 then refuse "external host ABI profile has an invalid bridge table"
    else do
      let table ← entries.foldlM addBridge { entries := [], primaryAllocateRva := 0, freeRva := 0 }
      if allKinds.all fun kind => table.entries.any (·.kind == kind) then .ok table
      else refuse "external host ABI profile is missing a required bridge kind"
  | _ => refuse "external host ABI profile has an invalid bridge table"

/-! ## Seeds and bootstrap -/

def readDataSeeds (profile : Members) : Option HostDataSeedProfile :=
  match findMember profile (ascii "data_seeds") with
  | some (.object seeds) => do
    let allocatorObjectSlot ← readRva seeds "allocator_object_slot"
    let emptyStringSlot ← readRva seeds "empty_string_slot"
    let jniSingletonSlot ← readRva seeds "jni_singleton_slot"
    let jniSingletonBytes ← readRequiredSize seeds "jni_singleton_bytes" kMaximumSeedAllocationBytes
    let arenaInitializer ← readRva seeds "arena_initializer"
    let allocatorThreadInitializer ← readRva seeds "allocator_thread_initializer"
    let arenaGuardSlot ← readRva seeds "arena_guard_slot"
    let arenaTableSlot ← readRva seeds "arena_table_slot"
    let arenaTableSlotCount ← readRequiredSize seeds "arena_table_slot_count" kMaximumArenaTableSlots
    some { allocatorObjectSlot, emptyStringSlot, jniSingletonSlot, jniSingletonBytes, arenaInitializer,
           allocatorThreadInitializer, arenaGuardSlot, arenaTableSlot, arenaTableSlotCount }
  | _ => none

def parseDataSeeds (profile : Members) : Except Text HostDataSeedProfile := do
  let seeds ← orRefuse "external host ABI profile has invalid data seeds" (readDataSeeds profile)
  if seeds.jniSingletonBytes ≠ 0x400 ∨ seeds.arenaTableSlotCount ≠ 0x400000 then
    refuse "external host ABI profile changed fixed seed allocation sizes"
  else .ok seeds

/-- What is read with the native allocator. -/
structure NativeFields where
  allocator : NativeAllocatorProfile
  bootstrap : NativePreJniBootstrapProfile
  initArrayOffset : Nat
  initArrayCount : Nat
  constructorRunRanges : List ConstructorRange
  nativeMimallocConstructorRunRanges : List ConstructorRange
  checkpoint : Nat

def readNativeFields (profile : Members) : Option NativeFields :=
  match findMember profile (ascii "native_allocator"), findMember profile (ascii "native_pre_jni_bootstrap") with
  | some (.object allocator), some (.object bootstrap) => do
    let allocate ← readRva allocator "allocate"
    let deallocate ← readRva allocator "deallocate"
    let registryInitializer ← readRva bootstrap "registry_initializer"
    let registrySlot ← readRva bootstrap "registry_slot"
    let initArrayOffset ← readRva profile "init_array_offset"
    let initArrayCount ← readRequiredSize profile "init_array_count" kMaximumInitArrayEntries
    if initArrayCount = 0 then none
    else do
      let constructorRunRanges ← parseRanges profile "constructor_run_ranges" initArrayCount
      let nativeMimallocConstructorRunRanges ← parseRanges profile "native_mimalloc_constructor_run_ranges" initArrayCount
      let checkpoint ← readRequiredSize profile "native_mimalloc_thread_initializer_after_constructor" (initArrayCount - 1)
      some { allocator := { allocate, deallocate }, bootstrap := { registryInitializer, registrySlot }, initArrayOffset,
             initArrayCount, constructorRunRanges, nativeMimallocConstructorRunRanges, checkpoint }
  | _, _ => none

/-! ## Checks of the whole profile -/

/-- The addresses of the words that the runtime writes. -/
def HostAbiProfile.writableSlots (profile : HostAbiProfile) : List Nat :=
  [profile.dataSeeds.allocatorObjectSlot, profile.dataSeeds.emptyStringSlot, profile.dataSeeds.jniSingletonSlot,
    profile.dataSeeds.arenaGuardSlot, profile.dataSeeds.arenaTableSlot, profile.nativePreJniBootstrap.registrySlot]

def kPointerBytes : Nat := 8

/-- `std::adjacent_find` finds two equal neighbours. -/
def adjacentEqual : List Nat → Bool
  | a :: b :: rest => a == b || adjacentEqual (b :: rest)
  | _ => false

def checkSlots (slots : List Nat) : Except Text Unit :=
  if slots.any fun rva => rva % kPointerBytes != 0 then
    refuse "external host ABI profile contains an unaligned writable slot"
  else if adjacentEqual (slots.insertionSort (· ≤ ·)) then refuse "external host ABI profile aliases writable state slots"
  else .ok ()

def checkConstructorPolicy (profile : HostAbiProfile) : Except Text Unit :=
  if !profile.nativeAllocator.isValid || !profile.hasValidConstructorRanges ||
      !profile.hasValidNativeMimallocConstructorRanges || !profile.hasValidNativePreJniBootstrap ||
      !profile.shouldInitializeNativeMimallocThreadAfterConstructor profile.nativeMimallocThreadInitializerAfterConstructor then
    refuse "external host ABI profile has inconsistent constructor policy"
  else .ok ()

/-- With host bridges: the checkpoint alone and everything from three constructors on, or all from the
    checkpoint on for native mimalloc. -/
def checkBridgedPolicy (machine : GuestMachine) (profile : HostAbiProfile) (indices : Bool × List Nat) : Except Text Unit :=
  let checkpoint := profile.nativeMimallocThreadInitializerAfterConstructor
  if profile.hostAllocatorBridgesSupported ∧
      (profile.initArrayCount ≤ checkpoint + 3 ∨
        profile.constructorRunRanges ≠ [⟨checkpoint, checkpoint + 1⟩, ⟨checkpoint + 3, profile.initArrayCount⟩] ∨
        profile.nativeMimallocConstructorRunRanges ≠ [⟨checkpoint, profile.initArrayCount⟩] ∨
        (machine = .x8664 ∧ checkpoint ≠ 2) ∨
        (indices.1 ∧ indices.2 ≠ [checkpoint, checkpoint + 1, checkpoint + 2, checkpoint + 3])) then
    refuse "external host ABI profile changed the verified constructor policy"
  else .ok ()

/-- Without: every constructor from the third on. -/
def checkNativeOnlyPolicy (profile : HostAbiProfile) (indices : Bool × List Nat) : Except Text Unit :=
  let sorted := indices.2.insertionSort (· ≤ ·)
  if !profile.hostAllocatorBridgesSupported ∧
      (sorted.headD 0 < 2 ∨ profile.initArrayCount ≤ sorted.getLastD 0 ∨ adjacentEqual sorted ∨
        profile.nativeMimallocThreadInitializerAfterConstructor ≠ indices.2.headD 0 ∨
        profile.nativeMimallocConstructorRunRanges ≠ [⟨2, profile.initArrayCount⟩] ∨
        profile.constructorRunRanges ≠ [⟨2, profile.initArrayCount⟩]) then
    refuse "external native-only profile has inconsistent constructor roles"
  else .ok ()

structure OwnedHostAbiProfile where
  profile : HostAbiProfile
  referenceBuildId : Text
  referencePayloadSha256 : Text
  derivationCodeRvas : List Nat
  deriving DecidableEq, Repr

def parseProfile (machine : GuestMachine) (root : Json) : Except Text OwnedHostAbiProfile := do
  let document ← parseSchema root
  let buildId ← parseBuildId document
  let (referenceBuildId, referencePayloadSha256) ← parseReference document.reference
  let anchors ← parseAnchors document.derivation
  let bridgesSupported ← parseBridgesSupported document.profile
  let indices ← parseConstructorIndices document.derivation bridgesSupported
  let constructorRvas ← parseConstructorRvas document.derivation
  let table ← parseBridges document.profile
  let seeds ← parseDataSeeds document.profile
  let native ← orRefuse "external host ABI profile has invalid native bootstrap fields" (readNativeFields document.profile)
  let profile : HostAbiProfile :=
    { elfBuildId := buildId, bridgeEntries := table.entries, dataSeeds := seeds, nativeAllocator := native.allocator,
      initArrayOffset := native.initArrayOffset, initArrayCount := native.initArrayCount,
      constructorRunRanges := native.constructorRunRanges,
      nativeMimallocConstructorRunRanges := native.nativeMimallocConstructorRunRanges,
      nativeMimallocThreadInitializerAfterConstructor := native.checkpoint, nativePreJniBootstrap := native.bootstrap,
      defaultAllocatorStrategy := .nativeMimalloc, hostAllocatorBridgesSupported := bridgesSupported }
  if native.allocator.allocate ≠ table.primaryAllocateRva ∨ native.allocator.deallocate ≠ table.freeRva then
    refuse "external host ABI profile native allocator disagrees with bridges"
  else do
    checkSlots profile.writableSlots
    if readRequiredString document.profile "default_allocator_strategy" ≠ some (ascii "native_mimalloc") then
      refuse "external host ABI profile must retain native mimalloc"
    else do
      checkConstructorPolicy profile
      checkBridgedPolicy machine profile indices
      checkNativeOnlyPolicy profile indices
      .ok { profile, referenceBuildId, referencePayloadSha256, derivationCodeRvas := anchors ++ constructorRvas }

end Mocktail.HostAbi.Loader

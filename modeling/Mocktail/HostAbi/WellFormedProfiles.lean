/-
  Mocktail.HostAbi.WellFormedProfiles — what an accepted host ABI profile is.

  `ParseProfile` checks in three ways: while it reads a list (bridges), with predicates over
  what it has read (ranges, checkpoint), and by sorting (slots). `WellFormed` says what all of
  it comes to, in both allocator modes.

  Proved:
  - `parseProfile_wellFormed`: every accepted document gives a well-formed profile.
-/

import Mocktail.HostAbi.ProfileLoader

namespace Mocktail.HostAbi.Loader

open Mocktail.Lib Mocktail.Launch Mocktail.Update Mocktail.Compat

/-! ## Well-formed profiles -/

def ConstructorRange.Contains (range : ConstructorRange) (index : Nat) : Prop :=
  range.first ≤ index ∧ index < range.endExclusive

/-- Ranges of constructors that can be run one after the other. -/
structure WellFormedRanges (count : Nat) (ranges : List ConstructorRange) : Prop where
  some_range : ranges ≠ []
  nonempty : ∀ range ∈ ranges, ∃ index, range.Contains index
  within : ∀ range ∈ ranges, ∀ index, range.Contains index → index < count
  ascending : ranges.Pairwise fun a b => a.first < b.first ∧ a.endExclusive < b.endExclusive
  disjoint : ranges.Pairwise fun a b => ∀ index, ¬(a.Contains index ∧ b.Contains index)

structure WellFormedBridges (bridges : List HostBridgeEntry) (allocator : NativeAllocatorProfile) : Prop where
  six : bridges.length = 6
  rvas : (bridges.map (·.rva)).Nodup
  labels : (bridges.map (·.label)).Nodup
  kinds : ∀ kind, ∃ entry ∈ bridges, entry.kind = kind
  demanded : ∀ entry ∈ bridges, expectedKindForLabel entry.label = some entry.kind
  allocate : ∃ entry ∈ bridges, entry.label = ascii "allocate" ∧ entry.kind = .allocate ∧ entry.rva = allocator.allocate
  deallocate : ∃ entry ∈ bridges, entry.label = ascii "free" ∧ entry.kind = .free ∧ entry.rva = allocator.deallocate

/-- The bytes of the pointer at an address. -/
def InCell (rva byte : Nat) : Prop := rva ≤ byte ∧ byte < rva + kPointerBytes

structure WellFormedSlots (slots : List Nat) : Prop where
  six : slots.length = 6
  aligned : ∀ rva ∈ slots, kPointerBytes ∣ rva
  /-- No cell wraps. -/
  addressable : ∀ rva ∈ slots, rva + kPointerBytes ≤ 2 ^ 64
  disjoint : slots.Pairwise fun a b => ∀ byte, ¬(InCell a byte ∧ InCell b byte)

structure WellFormed (profile : HostAbiProfile) : Prop where
  constructors : WellFormedRanges profile.initArrayCount profile.constructorRunRanges
  nativeConstructors : WellFormedRanges profile.initArrayCount profile.nativeMimallocConstructorRunRanges
  checkpoint : ∃ range ∈ profile.nativeMimallocConstructorRunRanges,
    range.Contains profile.nativeMimallocThreadInitializerAfterConstructor
  bridges : WellFormedBridges profile.bridgeEntries profile.nativeAllocator
  slots : WellFormedSlots profile.writableSlots

/-! ## Ranges -/

theorem isValidFor_iff (range : ConstructorRange) (count : Nat) :
    range.isValidFor count = true ↔ range.first < range.endExclusive ∧ range.endExclusive ≤ count := by
  simp [ConstructorRange.isValidFor]

/-- The loop keeps each range valid and after the end of the one before it. -/
theorem rangesFollow_ok {count : Nat} {ranges : List ConstructorRange} {previousEnd : Option Nat}
    (h : rangesFollow count previousEnd ranges = true) :
    (∀ range ∈ ranges, range.first < range.endExclusive ∧ range.endExclusive ≤ count) ∧
      (∀ previous ∈ previousEnd, ∀ range ∈ ranges, previous ≤ range.first) ∧
      ranges.Pairwise fun a b => a.endExclusive ≤ b.first := by
  induction ranges generalizing previousEnd with
  | nil => simp
  | cons range rest ih =>
    simp only [rangesFollow, Bool.and_eq_true, Bool.not_eq_true', isValidFor_iff] at h
    obtain ⟨⟨hvalid, hprevious⟩, hrest⟩ := h
    obtain ⟨hall, hafter, hpairs⟩ := ih hrest
    have hnext : ∀ next ∈ rest, range.endExclusive ≤ next.first := hafter _ rfl
    have hfirst : ∀ previous ∈ previousEnd, previous ≤ range.first := by
      intro previous hp
      obtain rfl : previousEnd = some previous := hp
      simpa using hprevious
    refine ⟨?_, ?_, ?_⟩
    · intro r hr
      rcases List.mem_cons.mp hr with rfl | hr
      · exact hvalid
      · exact hall r hr
    · intro previous hp r hr
      rcases List.mem_cons.mp hr with rfl | hr
      · exact hfirst previous hp
      · have h1 := hfirst previous hp
        have h2 := hnext r hr
        omega
    · exact List.pairwise_cons.mpr ⟨hnext, hpairs⟩

theorem hasValidRanges_wellFormed {count : Nat} {ranges : List ConstructorRange}
    (h : hasValidRanges count ranges = true) : WellFormedRanges count ranges := by
  simp only [hasValidRanges, Bool.and_eq_true, bne_iff_ne, ne_eq, decide_eq_true_eq] at h
  obtain ⟨⟨hlength, -⟩, hfollow⟩ := h
  obtain ⟨hvalid, -, hpairs⟩ := rangesFollow_ok hfollow
  refine ⟨?_, ?_, ?_, ?_, ?_⟩
  · rintro rfl
    exact hlength rfl
  · intro range hr
    exact ⟨range.first, le_rfl, (hvalid range hr).1⟩
  · intro range hr index hindex
    have hle := (hvalid range hr).2
    have hlt := hindex.2
    omega
  · apply hpairs.imp_of_mem
    intro a b ha hb hab
    have hva := (hvalid a ha).1
    have hvb := (hvalid b hb).1
    omega
  · apply hpairs.imp
    intro a b hab index hboth
    have hin := hboth.1.2
    have hin' := hboth.2.1
    omega

/-! ## Bridges -/

@[simp] theorem refuse_ne_ok {α : Type} (text : String) (a : α) : refuse text ≠ (.ok a : Except Text α) := by
  simp [refuse]

theorem orRefuse_ok {α : Type} {text : String} {x : Option α} {a : α} (h : orRefuse text x = .ok a) : x = some a := by
  cases x with
  | none => exact absurd h (refuse_ne_ok text a)
  | some b => exact congrArg some (Except.ok.inj h)

theorem readRva_ok {members : Members} {name : String} {rva : Nat} (h : readRva members name = some rva) :
    rva ≠ 0 ∧ rva < 2 ^ 64 := by
  unfold readRva readHexValue at h
  split at h
  · split at h
    · split at h
      · cases h
      · rename_i value _ hrange
        obtain rfl : value = rva := Option.some.inj h
        omega
    · cases h
  · cases h

/-- What the loop over the bridges keeps. An address is still zero, or that of its bridge. -/
structure TableHolds (table : BridgeTable) : Prop where
  rvas : (table.entries.map (·.rva)).Nodup
  labels : (table.entries.map (·.label)).Nodup
  demanded : ∀ entry ∈ table.entries, expectedKindForLabel entry.label = some entry.kind
  allocate : table.primaryAllocateRva = 0 ∨
    ∃ entry ∈ table.entries, entry.label = ascii "allocate" ∧ entry.rva = table.primaryAllocateRva
  free : table.freeRva = 0 ∨ ∃ entry ∈ table.entries, entry.label = ascii "free" ∧ entry.rva = table.freeRva

variable {table table' : BridgeTable}

/-- A bridge that is accepted is new, of the kind that its label demands, and goes to the end. -/
theorem addBridge_ok {encoded : Json} (h : addBridge table encoded = .ok table') :
    ∃ entry : HostBridgeEntry,
      expectedKindForLabel entry.label = some entry.kind ∧
      entry.rva ∉ table.entries.map (·.rva) ∧ entry.label ∉ table.entries.map (·.label) ∧
      table' =
        { entries := table.entries ++ [entry],
          primaryAllocateRva := if entry.label = ascii "allocate" then entry.rva else table.primaryAllocateRva,
          freeRva := if entry.label = ascii "free" then entry.rva else table.freeRva } := by
  unfold addBridge at h
  split at h
  · split at h
    · split at h
      · cases h
      · split at h
        · rename_i rva kindName label _ _ _ _ _ _ kind expected _ hexpected
          split at h
          · cases h
          · rename_i hnew
            simp only [ne_eq, not_or, not_not] at hnew
            obtain ⟨rfl, hrva, hlabel⟩ := hnew
            exact ⟨⟨rva, kind, label⟩, hexpected, hrva, hlabel, (Except.ok.inj h).symm⟩
        · cases h
    · cases h
  · cases h

theorem addBridge_holds {encoded : Json} (hinv : TableHolds table)
    (h : addBridge table encoded = .ok table') :
    TableHolds table' ∧ table'.entries.length = table.entries.length + 1 := by
  obtain ⟨entry, hkind, hrva, hlabel, rfl⟩ := addBridge_ok h
  -- the address of a label is set by the bridge that has it, and kept by the others
  have hkept : ∀ (label : Text) (rva : Nat),
      (rva = 0 ∨ ∃ e ∈ table.entries, e.label = label ∧ e.rva = rva) →
      (if entry.label = label then entry.rva else rva) = 0 ∨
        ∃ e ∈ table.entries ++ [entry], e.label = label ∧ e.rva = if entry.label = label then entry.rva else rva := by
    intro label rva hbefore
    by_cases hl : entry.label = label
    · rw [if_pos hl]
      exact Or.inr ⟨entry, by simp, hl, rfl⟩
    · rw [if_neg hl]
      rcases hbefore with hzero | ⟨e, he, hel, her⟩
      · exact Or.inl hzero
      · exact Or.inr ⟨e, List.mem_append_left _ he, hel, her⟩
  refine ⟨⟨?_, ?_, ?_, hkept _ _ hinv.allocate, hkept _ _ hinv.free⟩, by simp⟩
  · rw [List.map_append]
    exact hinv.rvas.append (List.nodup_singleton _) (by simpa using hrva)
  · rw [List.map_append]
    exact hinv.labels.append (List.nodup_singleton _) (by simpa using hlabel)
  · intro e he
    rcases List.mem_append.mp he with he | he
    · exact hinv.demanded e he
    · obtain rfl := List.mem_singleton.mp he
      exact hkind

theorem addBridges_hold {encoded : List Json} (hinv : TableHolds table)
    (h : encoded.foldlM addBridge table = .ok table') :
    TableHolds table' ∧ table'.entries.length = table.entries.length + encoded.length := by
  induction encoded generalizing table with
  | nil =>
    obtain rfl : table = table' := Except.ok.inj h
    exact ⟨hinv, rfl⟩
  | cons first rest ih =>
    rw [List.foldlM_cons] at h
    obtain ⟨next, hfirst, hrest⟩ := bind_ok h
    obtain ⟨hnext, hlength⟩ := addBridge_holds hinv hfirst
    obtain ⟨hlast, hlength'⟩ := ih hnext hrest
    refine ⟨hlast, ?_⟩
    rw [List.length_cons]
    omega

variable {profile : Members}

theorem parseBridges_ok {table : BridgeTable} (h : parseBridges profile = .ok table) :
    TableHolds table ∧ table.entries.length = 6 ∧ ∀ kind, ∃ entry ∈ table.entries, entry.kind = kind := by
  unfold parseBridges at h
  split at h
  · rename_i encoded _
    split at h
    · cases h
    · rename_i hsix
      obtain ⟨found, hfold, hlast⟩ := bind_ok h
      split at hlast
      · rename_i hkinds
        obtain rfl : found = table := Except.ok.inj hlast
        have hempty : TableHolds { entries := [], primaryAllocateRva := 0, freeRva := 0 } :=
          ⟨List.nodup_nil, List.nodup_nil, by simp, Or.inl rfl, Or.inl rfl⟩
        obtain ⟨hinv, hlength⟩ := addBridges_hold hempty hfold
        refine ⟨hinv, by simp at hlength hsix; omega, ?_⟩
        intro kind
        have hkind := List.all_eq_true.mp hkinds kind (by cases kind <;> simp [allKinds])
        obtain ⟨entry, hentry, heq⟩ := List.any_eq_true.mp hkind
        exact ⟨entry, hentry, eq_of_beq heq⟩
      · cases hlast
  · cases h

/-! ## Slots -/

/-- Sorted numbers with no equal neighbours are all different. -/
theorem nodup_of_sorted {l : List Nat} (hsorted : l.Pairwise (· ≤ ·)) (h : adjacentEqual l = false) : l.Nodup := by
  induction l with
  | nil => exact List.nodup_nil
  | cons a rest ih =>
    obtain ⟨hle, hrest⟩ := List.pairwise_cons.mp hsorted
    cases rest with
    | nil => exact List.nodup_singleton a
    | cons b rest =>
      simp only [adjacentEqual, Bool.or_eq_false_iff, beq_eq_false_iff_ne] at h
      obtain ⟨hab, h⟩ := h
      refine List.nodup_cons.mpr ⟨?_, ih hrest h⟩
      intro hin
      have hlt := hle b (List.mem_cons_self ..)
      rcases List.mem_cons.mp hin with rfl | hin
      · exact hab rfl
      · have hba := (List.pairwise_cons.mp hrest).1 a hin
        omega

theorem checkSlots_ok {slots : List Nat} (h : checkSlots slots = .ok ()) :
    (∀ rva ∈ slots, kPointerBytes ∣ rva) ∧ slots.Nodup := by
  unfold checkSlots at h
  split at h
  · cases h
  · rename_i haligned
    split at h
    · cases h
    · rename_i hadjacent
      constructor
      · intro rva hr
        by_contra hne
        apply haligned
        rw [List.any_eq_true]
        exact ⟨rva, hr, by simpa [bne_iff_ne, Nat.dvd_iff_mod_eq_zero] using hne⟩
      · have hsorted := nodup_of_sorted (List.pairwise_insertionSort (· ≤ ·) slots) ((Bool.not_eq_true _).mp hadjacent)
        exact (List.perm_insertionSort (· ≤ ·) slots).nodup_iff.mp hsorted

theorem wellFormedSlots_of {slots : List Nat} (hsix : slots.length = 6) (hlt : ∀ rva ∈ slots, rva < 2 ^ 64)
    (h : checkSlots slots = .ok ()) : WellFormedSlots slots := by
  obtain ⟨haligned, hnodup⟩ := checkSlots_ok h
  refine ⟨hsix, haligned, ?_, ?_⟩
  · intro rva hr
    have hdvd := haligned rva hr
    have hr' := hlt rva hr
    unfold kPointerBytes at hdvd ⊢
    omega
  · apply hnodup.imp_of_mem
    intro a b ha hb hne byte hboth
    have hda := haligned a ha
    have hdb := haligned b hb
    unfold InCell kPointerBytes at *
    omega

theorem readDataSeeds_ok {seeds : HostDataSeedProfile} (h : readDataSeeds profile = some seeds) :
    seeds.allocatorObjectSlot < 2 ^ 64 ∧ seeds.emptyStringSlot < 2 ^ 64 ∧ seeds.jniSingletonSlot < 2 ^ 64 ∧
      seeds.arenaGuardSlot < 2 ^ 64 ∧ seeds.arenaTableSlot < 2 ^ 64 := by
  unfold readDataSeeds at h
  split at h
  · simp only [Option.bind_eq_bind, Option.bind_eq_some_iff, Option.some.injEq] at h
    obtain ⟨a, ha, b, hb, c, hc, _, _, _, _, _, _, d, hd, e, he, _, _, rfl⟩ := h
    exact ⟨(readRva_ok ha).2, (readRva_ok hb).2, (readRva_ok hc).2, (readRva_ok hd).2, (readRva_ok he).2⟩
  · cases h

theorem parseDataSeeds_ok {seeds : HostDataSeedProfile} (h : parseDataSeeds profile = .ok seeds) :
    readDataSeeds profile = some seeds := by
  obtain ⟨found, hread, hlast⟩ := bind_ok h
  split at hlast
  · cases hlast
  · obtain rfl : found = seeds := Except.ok.inj hlast
    exact orRefuse_ok hread

theorem readNativeFields_ok {native : NativeFields} (h : readNativeFields profile = some native) :
    native.allocator.allocate ≠ 0 ∧ native.allocator.deallocate ≠ 0 ∧ native.bootstrap.registrySlot < 2 ^ 64 := by
  unfold readNativeFields at h
  split at h
  · simp only [Option.bind_eq_bind, Option.bind_eq_some_iff] at h
    obtain ⟨a, ha, b, hb, _, _, c, hc, _, _, count, _, h⟩ := h
    split at h
    · cases h
    · simp only [Option.bind_eq_some_iff, Option.some.injEq] at h
      obtain ⟨_, _, _, _, _, _, rfl⟩ := h
      exact ⟨(readRva_ok ha).1, (readRva_ok hb).1, (readRva_ok hc).2⟩
  · cases h

/-! ## Accepted documents -/

theorem checkConstructorPolicy_ok {profile : HostAbiProfile} (h : checkConstructorPolicy profile = .ok ()) :
    profile.hasValidConstructorRanges = true ∧ profile.hasValidNativeMimallocConstructorRanges = true ∧
      profile.shouldInitializeNativeMimallocThreadAfterConstructor
        profile.nativeMimallocThreadInitializerAfterConstructor = true := by
  unfold checkConstructorPolicy at h
  split at h
  · cases h
  · rename_i hchecks
    simp only [Bool.or_eq_true, Bool.not_eq_true', not_or, Bool.not_eq_false] at hchecks
    exact ⟨hchecks.1.1.1.2, hchecks.1.1.2, hchecks.2⟩

theorem checkpoint_contained {profile : HostAbiProfile}
    (h : profile.shouldInitializeNativeMimallocThreadAfterConstructor
      profile.nativeMimallocThreadInitializerAfterConstructor = true) :
    ∃ range ∈ profile.nativeMimallocConstructorRunRanges,
      range.Contains profile.nativeMimallocThreadInitializerAfterConstructor := by
  simp only [HostAbiProfile.shouldInitializeNativeMimallocThreadAfterConstructor,
    HostAbiProfile.allowsNativeMimallocConstructor, Bool.and_eq_true, List.any_eq_true, decide_eq_true_eq] at h
  obtain ⟨range, hr, hfirst, hlast⟩ := h.1.2.2
  exact ⟨range, hr, hfirst, hlast⟩

theorem expectedKind_allocate : expectedKindForLabel (ascii "allocate") = some .allocate := by decide +kernel

theorem expectedKind_free : expectedKindForLabel (ascii "free") = some .free := by decide +kernel

theorem wellFormedBridges_of {table : BridgeTable} {allocator : NativeAllocatorProfile} (hinv : TableHolds table)
    (hsix : table.entries.length = 6) (hkinds : ∀ kind, ∃ entry ∈ table.entries, entry.kind = kind)
    (hallocate : allocator.allocate = table.primaryAllocateRva) (hdeallocate : allocator.deallocate = table.freeRva)
    (hne : allocator.allocate ≠ 0) (hne' : allocator.deallocate ≠ 0) :
    WellFormedBridges table.entries allocator := by
  refine ⟨hsix, hinv.rvas, hinv.labels, hkinds, hinv.demanded, ?_, ?_⟩
  · rcases hinv.allocate with hzero | ⟨entry, hentry, hlabel, hrva⟩
    · omega
    · have hkind := hinv.demanded entry hentry
      rw [hlabel, expectedKind_allocate] at hkind
      exact ⟨entry, hentry, hlabel, (Option.some.inj hkind).symm, by omega⟩
  · rcases hinv.free with hzero | ⟨entry, hentry, hlabel, hrva⟩
    · omega
    · have hkind := hinv.demanded entry hentry
      rw [hlabel, expectedKind_free] at hkind
      exact ⟨entry, hentry, hlabel, (Option.some.inj hkind).symm, by omega⟩

/-- Every document that is accepted, for either guest and in either allocator mode, gives a
    well-formed profile. -/
theorem parseProfile_wellFormed (machine : GuestMachine) (root : Json) (owned : OwnedHostAbiProfile)
    (h : parseProfile machine root = .ok owned) : WellFormed owned.profile := by
  unfold parseProfile at h
  obtain ⟨document, -, h⟩ := bind_ok h
  obtain ⟨buildId, -, h⟩ := bind_ok h
  obtain ⟨reference, -, h⟩ := bind_ok h
  obtain ⟨anchors, -, h⟩ := bind_ok h
  obtain ⟨supported, -, h⟩ := bind_ok h
  obtain ⟨indices, -, h⟩ := bind_ok h
  obtain ⟨constructorRvas, -, h⟩ := bind_ok h
  obtain ⟨table, hbridges, h⟩ := bind_ok h
  obtain ⟨seeds, hseeds, h⟩ := bind_ok h
  obtain ⟨native, hnative, h⟩ := bind_ok h
  dsimp only at h
  split at h
  · cases h
  · rename_i hagree
    obtain ⟨⟨⟩, hslots, h⟩ := bind_ok h
    split at h
    · cases h
    · obtain ⟨⟨⟩, hpolicy, h⟩ := bind_ok h
      obtain ⟨-, -, h⟩ := bind_ok h
      obtain ⟨-, -, h⟩ := bind_ok h
      obtain rfl := Except.ok.inj h
      obtain ⟨hinv, hsix, hkinds⟩ := parseBridges_ok hbridges
      obtain ⟨hallocate, hdeallocate, hregistry⟩ := readNativeFields_ok (orRefuse_ok hnative)
      obtain ⟨h1, h2, h3, h4, h5⟩ := readDataSeeds_ok (parseDataSeeds_ok hseeds)
      obtain ⟨hranges, hnativeRanges, hcheckpoint⟩ := checkConstructorPolicy_ok hpolicy
      simp only [ne_eq, not_or, not_not] at hagree
      refine ⟨hasValidRanges_wellFormed hranges, hasValidRanges_wellFormed hnativeRanges, checkpoint_contained hcheckpoint,
        wellFormedBridges_of hinv hsix hkinds hagree.1 hagree.2 hallocate hdeallocate, ?_⟩
      apply wellFormedSlots_of rfl _ hslots
      intro rva hr
      simp only [HostAbiProfile.writableSlots, List.mem_cons, List.not_mem_nil, or_false] at hr
      rcases hr with rfl | rfl | rfl | rfl | rfl | rfl
      · exact h1
      · exact h2
      · exact h3
      · exact h4
      · exact h5
      · exact hregistry

/-! ## A document -/

/-- An address of two digits. -/
def address (name : String) (rva : Nat) : Text × Json :=
  (ascii name, .string [0x30, 0x78, hexDigit (rva / 16), hexDigit (rva % 16)])

def sizeMember (name : String) (value : Nat) : Text × Json := (ascii name, .unsigned value)

def rangeItem (first endExclusive : Nat) : Json := .object [sizeMember "begin" first, sizeMember "end_exclusive" endExclusive]

def bridgeItem (rva : Nat) (kind label : String) : Json :=
  .object [(ascii "kind", .string (ascii kind)), (ascii "label", .string (ascii label)), address "rva" rva]

def sampleBuildId : Text × Json := (ascii "elf_build_id", .string [0x36, 0x33, 0x63, 0x35, 0x31, 0x30, 0x39, 0x36])

/-- A profile that keeps the host's bridges, of an image with ten constructors. -/
def sampleProfile : Members :=
  [(ascii "bridge_entries", .array
      [bridgeItem 0x11 "allocate" "small-allocate", bridgeItem 0x12 "usable_size" "usable-size",
        bridgeItem 0x13 "reallocate" "reallocate", bridgeItem 0x14 "allocate" "allocate",
        bridgeItem 0x15 "aligned_allocate" "aligned-allocate-direct", bridgeItem 0x16 "free" "free"]),
    (ascii "constructor_run_ranges", .array [rangeItem 2 3, rangeItem 5 10]),
    (ascii "data_seeds", .object
      [address "allocator_object_slot" 0x90, address "allocator_thread_initializer" 0x17, address "arena_guard_slot" 0x70,
        address "arena_initializer" 0x18, address "arena_table_slot" 0x78, sizeMember "arena_table_slot_count" 4194304,
        address "empty_string_slot" 0x80, sizeMember "jni_singleton_bytes" 1024, address "jni_singleton_slot" 0x88]),
    (ascii "default_allocator_strategy", .string (ascii "native_mimalloc")), sampleBuildId, sizeMember "init_array_count" 10,
    address "init_array_offset" 0x60,
    (ascii "native_allocator", .object [address "allocate" 0x14, address "deallocate" 0x16]),
    (ascii "native_mimalloc_constructor_run_ranges", .array [rangeItem 2 10]),
    sizeMember "native_mimalloc_thread_initializer_after_constructor" 2,
    (ascii "native_pre_jni_bootstrap", .object [address "registry_initializer" 0x19, address "registry_slot" 0x98])]

def sampleDocument : Json :=
  .object
    [(ascii "derivation_anchors", .object
        [address "allocator_object_initializer_rva" 0x20,
          (ascii "constructor_rvas", .object [address "2" 0x21, address "3" 0x22, address "4" 0x23, address "5" 0x24]),
          address "empty_string_initializer_rva" 0x25, address "jni_singleton_initializer_rva" 0x26,
          sizeMember "signature_version" 1]),
      sampleBuildId, (ascii "profile", .object sampleProfile),
      (ascii "reference", .object [sampleBuildId, (ascii "payload_sha256", .string (List.replicate 64 0x61))]),
      sizeMember "schema_version" 1]

theorem parseProfile_wellFormed_sample :
    ∃ owned, parseProfile .x8664 sampleDocument = .ok owned ∧ owned.profile.initArrayCount = 10 ∧
      WellFormed owned.profile := by
  have haccepted : (parseProfile .x8664 sampleDocument).map (fun owned => owned.profile.initArrayCount) = .ok 10 := by
    decide +kernel
  cases h : parseProfile .x8664 sampleDocument with
  | error text =>
    rw [h] at haccepted
    cases haccepted
  | ok owned =>
    rw [h] at haccepted
    exact ⟨owned, rfl, Except.ok.inj haccepted, parseProfile_wellFormed .x8664 sampleDocument owned h⟩

end Mocktail.HostAbi.Loader

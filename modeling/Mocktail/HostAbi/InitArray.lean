/-
  Mocktail.HostAbi.InitArray — the constructors of an ELF image (`host_abi_deriver.cc`).

  The entries of `.init_array` are not in the file: each comes from a relative relocation of
  `.rela.dyn`. `InitArray` goes through the relocations, takes those whose offset lies in the
  section, and fills the entry that the distance from the section's address, divided by 8,
  names. It requires such an offset to be a multiple of 8, by itself; that the section's address
  is one, nothing requires.

  The headers are what libelf reads off the file, so `openImage` takes them as they are; build
  ID, digest and PT_GNU_RELRO are left out. `initArray_entries`: the array is read entry by
  entry exactly when the section's address is a multiple of 8.
-/

import Mathlib.Data.List.GetD
import Mocktail.HostAbi.Aps2

namespace Mocktail.HostAbi

open Mocktail.Lib

def kAndroidRelaSection : UInt32 := 0x60000002
def kRelativeRelocation : Nat := 8
def kMaximumInitArrayEntries : Nat := 64 * 1024

def checkedRange (offset size limit : UInt64) : Bool := offset ≤ limit && size ≤ limit - offset

structure Segment where
  offset : UInt64
  address : UInt64
  fileSize : UInt64
  memorySize : UInt64
  flags : UInt32

def Segment.containsMemory (segment : Segment) (rva size : UInt64) : Bool :=
  segment.address ≤ rva && checkedRange (rva - segment.address) size segment.memorySize

def Segment.containsFile (segment : Segment) (rva size : UInt64) : Bool :=
  segment.address ≤ rva && checkedRange (rva - segment.address) size segment.fileSize

structure Section where
  name : String
  type : UInt32
  flags : UInt64
  address : UInt64
  offset : UInt64
  size : UInt64
  entrySize : UInt64

structure ElfImage where
  bytes : List UInt8
  segments : List Segment
  sections : List Section

/-! ## Sections and segments -/

def PF_X : UInt32 := 1
def PF_W : UInt32 := 2
def PF_R : UInt32 := 4
def SHF_WRITE : UInt64 := 1
def SHF_ALLOC : UInt64 := 2
def SHF_EXECINSTR : UInt64 := 4
def SHT_PROGBITS : UInt32 := 1
def SHT_STRTAB : UInt32 := 3
def SHT_NOTE : UInt32 := 7
def SHT_NOBITS : UInt32 := 8
def SHT_DYNSYM : UInt32 := 11
def SHT_INIT_ARRAY : UInt32 := 14

section
variable (image : ElfImage)

def findSection (name : String) : Option Section := image.sections.find? (·.name = name)

/-- A section beyond the file has no bytes; its error is overwritten by what reads them. -/
def sectionBytes (s : Section) : List UInt8 :=
  if checkedRange s.offset s.size (UInt64.ofNat image.bytes.length) then
    (image.bytes.drop s.offset.toNat).take s.size.toNat
  else []

/-- The segment, if it is the only one. -/
def segmentForMemory (rva size : UInt64) : Option Segment :=
  match image.segments.filter (·.containsMemory rva size) with
  | [segment] => some segment
  | _ => none

def requireCode (rva size : UInt64) : Bool :=
  match segmentForMemory image rva size with
  | none => false
  | some segment =>
    segment.containsFile rva size && segment.flags &&& (PF_R ||| PF_X) == PF_R ||| PF_X && segment.flags &&& PF_W == 0

def requireWritable (rva size : UInt64) : Bool :=
  match segmentForMemory image rva size with
  | none => false
  | some segment => segment.flags &&& (PF_R ||| PF_W) == PF_R ||| PF_W && segment.flags &&& PF_X == 0

/-- `.text` is code, read-only. -/
def textLayout (s : Section) : Bool :=
  s.type == SHT_PROGBITS && s.flags &&& (SHF_ALLOC ||| SHF_EXECINSTR) == SHF_ALLOC ||| SHF_EXECINSTR &&
    s.flags &&& SHF_WRITE == 0

def initLayout (s : Section) : Bool :=
  s.type == SHT_INIT_ARRAY && s.flags &&& (SHF_ALLOC ||| SHF_WRITE) == SHF_ALLOC ||| SHF_WRITE &&
    s.flags &&& SHF_EXECINSTR == 0 && s.size != 0 && s.size % 8 == 0 && s.size.toNat / 8 ≤ kMaximumInitArrayEntries &&
    (s.entrySize == 0 || s.entrySize == 8)

def validateSections : Except String Unit :=
  match findSection image ".text", findSection image ".init_array" with
  | some text, some init =>
    let typed (name : String) (type : UInt32) : Bool := (findSection image name).any (·.type == type)
    if textLayout text && initLayout init && typed ".rela.dyn" kAndroidRelaSection && typed ".dynsym" SHT_DYNSYM &&
        typed ".dynstr" SHT_STRTAB && typed ".note.gnu.build-id" SHT_NOTE && typed ".comment" SHT_PROGBITS then
      if !requireCode image text.address text.size then .error "RVA is not in a read/execute ELF segment"
      else if !requireWritable image init.address init.size then
        .error "RVA is not in a non-executable read/write ELF segment"
      else .ok ()
    else .error "ELF required section layout is unsupported"
  | _, _ => .error "ELF required section layout is unsupported"

end

def checkSections (fileSize : UInt64) : List Section → List String → Except String Unit
  | [], _ => .ok ()
  | s :: rest, seen =>
    if s.type ≠ SHT_NOBITS ∧ checkedRange s.offset s.size fileSize = false then .error "ELF section exceeds file bounds"
    else if s.name ≠ "" ∧ s.name ∈ seen then .error ("ELF contains duplicate section " ++ s.name)
    else checkSections fileSize rest (s.name :: seen)

/-- The part of `ElfImage::Open` that looks at PT_LOAD segments and sections. -/
def openImage (bytes : List UInt8) (segments : List Segment) (sections : List Section) : Except String ElfImage :=
  let fileSize := UInt64.ofNat bytes.length
  if segments.any fun s => s.memorySize < s.fileSize || !checkedRange s.offset s.fileSize fileSize then
    .error "ELF PT_LOAD exceeds file bounds"
  else if segments.isEmpty then .error "ELF has no PT_LOAD segments"
  else
    match checkSections fileSize sections [] with
    | .error e => .error e
    | .ok _ =>
      let image : ElfImage := { bytes, segments, sections }
      (validateSections image).map fun _ => image

/-! ## InitArray -/

def isRelative (r : Relocation) : Bool := r.info &&& 0xffffffff == kRelativeRelocation && r.info >>> 32 == 0

def selectEntries (image : ElfImage) (init : Section) : List Relocation → List (Option Nat) → Except String (List (Option Nat))
  | [], selected => .ok selected
  | r :: rest, selected =>
    if r.offset < init.address.toNat ∨ (init.address + init.size).toNat ≤ r.offset then selectEntries image init rest selected
    else if r.offset % 8 ≠ 0 ∨ isRelative r = false then .error ".init_array contains a non-relative relocation"
    else
      let index := (r.offset - init.address.toNat) / 8
      if (selected.getD index none).isSome then .error ".init_array relocation is duplicated"
      else if !requireCode image (UInt64.ofNat r.addend) 1 then .error "RVA is not in a read/execute ELF segment"
      else selectEntries image init rest (selected.set index (some r.addend))

def collect : List (Option Nat) → Except String (List Nat)
  | [] => .ok []
  | none :: _ => .error ".init_array is not fully covered by APS2 relocations"
  | some entry :: rest => (collect rest).map (entry :: ·)

def initArray (image : ElfImage) : Except String (List Nat) :=
  match findSection image ".init_array", findSection image ".rela.dyn" with
  | some init, some rela =>
    match (decodeAps2 (sectionBytes image rela)).1 with
    | .error e => .error e
    | .ok decoded =>
      match selectEntries image init decoded (List.replicate (init.size.toNat / 8) none) with
      | .error e => .error e
      | .ok selected => collect selected
  | _, _ => .error "ELF init-array metadata is unavailable"

/-! ## Entry by entry -/

/-- The relocations in the 8 bytes of an entry. -/
def inEntry (init : Section) (i : Nat) (r : Relocation) : Bool :=
  init.address.toNat + 8 * i ≤ r.offset && r.offset < init.address.toNat + 8 * i + 8

/-- One relocation to each entry, which is at the entry's address and gives its value. -/
structure EntryByEntry (init : Section) (relocations : List Relocation) (result : List Nat) : Prop where
  length : result.length = init.size.toNat / 8
  entries : ∀ i < result.length, ∃ r, relocations.filter (inEntry init i) = [r] ∧ isRelative r = true ∧
    r.offset = init.address.toNat + 8 * i ∧ result[i]? = some r.addend

section
variable {image : ElfImage} {init : Section} {relocations : List Relocation} {selected final : List (Option Nat)}

theorem collect_ok {result : List Nat} (h : collect selected = .ok result) : selected = result.map some := by
  induction selected generalizing result with
  | nil =>
    obtain rfl : [] = result := Except.ok.inj h
    rfl
  | cons entry rest ih =>
    cases entry with
    | none => exact absurd h (by simp [collect])
    | some value =>
      rw [collect] at h
      match hrest : collect rest with
      | .error e => exact absurd h (by simp [hrest, Except.map])
      | .ok tail =>
        obtain rfl : value :: tail = result := by simpa [hrest, Except.map] using h
        rw [ih hrest]
        rfl

/-- The section does not reach past the address space. -/
def Fits (init : Section) : Prop := init.address.toNat + init.size.toNat < 2 ^ 64

theorem end_of_fits (h : Fits init) : (init.address + init.size).toNat = init.address.toNat + init.size.toNat := by
  rw [UInt64.toNat_add]
  exact Nat.mod_eq_of_lt h

/-- What is taken out of an entry's relocations. -/
def Filled (init : Section) (relocations : List Relocation) (before after : Option (Option Nat)) (i : Nat) : Prop :=
  (relocations.filter (inEntry init i) = [] ∧ after = before) ∨
    ∃ r, relocations.filter (inEntry init i) = [r] ∧ before = some none ∧ after = some (some r.addend) ∧ r.offset % 8 = 0 ∧
      isRelative r = true

theorem selectEntries_filled (hfit : Fits init) (hsize : init.size.toNat % 8 = 0)
    (hlen : selected.length = init.size.toNat / 8) (h : selectEntries image init relocations selected = .ok final) :
    final.length = init.size.toNat / 8 ∧
      ∀ i < init.size.toNat / 8, Filled init relocations selected[i]? final[i]? i := by
  induction relocations generalizing selected with
  | nil =>
    obtain rfl : selected = final := Except.ok.inj h
    exact ⟨hlen, fun i hi => .inl ⟨rfl, rfl⟩⟩
  | cons r rest ih =>
    rw [selectEntries, end_of_fits hfit] at h
    by_cases hout : r.offset < init.address.toNat ∨ init.address.toNat + init.size.toNat ≤ r.offset
    · rw [if_pos hout] at h
      obtain ⟨hfinal, hfilled⟩ := ih hlen h
      refine ⟨hfinal, fun i hi => ?_⟩
      have hnot : inEntry init i r = false := by
        rw [inEntry, Bool.and_eq_false_iff, decide_eq_false_iff_not, decide_eq_false_iff_not]
        omega
      unfold Filled
      rw [List.filter_cons_of_neg (by rw [hnot]; decide)]
      exact hfilled i hi
    · rw [if_neg hout] at h
      by_cases hbad : r.offset % 8 ≠ 0 ∨ isRelative r = false
      · rw [if_pos hbad] at h
        exact absurd h (by simp)
      · rw [if_neg hbad] at h
        dsimp only at h
        generalize hindex : (r.offset - init.address.toNat) / 8 = index at h
        have hlt : index < init.size.toNat / 8 := by omega
        have hslot : selected[index]? = some none ∧
            selectEntries image init rest (selected.set index (some r.addend)) = .ok final := by
          have hin : index < selected.length := by omega
          have hget : selected.getD index none = selected.get ⟨index, hin⟩ := List.getD_eq_getElem _ _ hin
          have hsome : selected[index]? = some (selected.get ⟨index, hin⟩) := List.getElem?_eq_getElem hin
          rw [hget] at h
          rw [hsome]
          cases hentry : selected.get ⟨index, hin⟩ with
          | some value =>
            rw [hentry] at h
            exact absurd h (by simp)
          | none =>
            rw [hentry] at h
            by_cases hcode : requireCode image (UInt64.ofNat r.addend) 1 = true
            · exact ⟨rfl, by simpa [hcode] using h⟩
            · exact absurd h (by simp [hcode])
        obtain ⟨hfree, h⟩ := hslot
        obtain ⟨hfinal, hfilled⟩ := ih (by rw [List.length_set, hlen]) h
        refine ⟨hfinal, fun i hi => ?_⟩
        by_cases hi' : i = index
        · -- its entry was free, and no later relocation may come to it
          subst hi'
          have hin : inEntry init i r = true := by
            rw [inEntry, Bool.and_eq_true, decide_eq_true_eq, decide_eq_true_eq]
            omega
          have hset : (selected.set i (some r.addend))[i]? = some (some r.addend) :=
            List.getElem?_set_self (by omega)
          rcases hfilled i hi with ⟨hnone, hafter⟩ | ⟨other, _, hbefore, _⟩
          · refine .inr ⟨r, ?_, hfree, ?_, by omega, by simpa using fun hf => hbad (.inr hf)⟩
            · rw [List.filter_cons_of_pos hin, hnone]
            · rw [hafter, hset]
          · rw [hset] at hbefore
            exact absurd hbefore (by simp)
        · have hnot : inEntry init i r = false := by
            rw [inEntry, Bool.and_eq_false_iff, decide_eq_false_iff_not, decide_eq_false_iff_not]
            omega
          have hset : (selected.set index (some r.addend))[i]? = selected[i]? :=
            List.getElem?_set_ne (Ne.symm hi')
          have hrest := hfilled i hi
          rw [hset] at hrest
          unfold Filled
          rw [List.filter_cons_of_neg (by rw [hnot]; decide)]
          exact hrest

/-- A section that wraps around takes no relocation. -/
theorem selectEntries_wrapped (hfit : ¬Fits init) (h : selectEntries image init relocations selected = .ok final) :
    final = selected := by
  have hend : (init.address + init.size).toNat ≤ init.address.toNat := by
    have ha := init.address.toNat_lt
    have hs := init.size.toNat_lt
    unfold Fits at hfit
    rw [UInt64.toNat_add]
    omega
  induction relocations with
  | nil => exact (Except.ok.inj h).symm
  | cons r rest ih =>
    rw [selectEntries, if_pos (by omega)] at h
    exact ih h

theorem openImage_init {bytes : List UInt8} {segments : List Segment} {sections : List Section}
    (hopen : openImage bytes segments sections = .ok image) (hinit : findSection image ".init_array" = some init) :
    init.size.toNat % 8 = 0 ∧ 0 < init.size.toNat / 8 := by
  have hvalid : validateSections image = .ok () := by
    unfold openImage at hopen
    dsimp only at hopen
    split at hopen
    · exact absurd hopen (by simp)
    · split at hopen
      · exact absurd hopen (by simp)
      · split at hopen
        · exact absurd hopen (by simp)
        · match hv : validateSections ⟨bytes, segments, sections⟩ with
          | .error e => exact absurd hopen (by simp [hv, Except.map])
          | .ok _ =>
            obtain rfl : ⟨bytes, segments, sections⟩ = image := by simpa [hv, Except.map] using hopen
            exact hv
  have hlayout : initLayout init = true := by
    unfold validateSections at hvalid
    rw [hinit] at hvalid
    split at hvalid
    · next text init' htext hinit' =>
      obtain rfl : init = init' := Option.some.inj hinit'
      dsimp only at hvalid
      split at hvalid
      · next hall =>
        simp only [Bool.and_eq_true] at hall
        exact hall.1.1.1.1.1.2
      · exact absurd hvalid (by simp)
    · exact absurd hvalid (by simp)
  unfold initLayout at hlayout
  simp only [Bool.and_eq_true, bne_iff_ne, beq_iff_eq] at hlayout
  obtain ⟨⟨⟨⟨-, hne⟩, hmod⟩, -⟩, -⟩ := hlayout
  have hmod' : init.size.toNat % 8 = 0 := congrArg UInt64.toNat hmod
  have hpos : init.size.toNat ≠ 0 := fun h0 => hne (UInt64.toNat.inj h0)
  exact ⟨hmod', by omega⟩

end

theorem initArray_entries {bytes : List UInt8} {segments : List Segment} {sections : List Section} {image : ElfImage}
    {init rela : Section} {relocations : List Relocation} {result : List Nat}
    (hopen : openImage bytes segments sections = .ok image) (hinit : findSection image ".init_array" = some init)
    (hrela : findSection image ".rela.dyn" = some rela)
    (hdecoded : (decodeAps2 (sectionBytes image rela)).1 = .ok relocations) (h : initArray image = .ok result) :
    EntryByEntry init relocations result ↔ init.address.toNat % 8 = 0 := by
  obtain ⟨hmod, hcount⟩ := openImage_init hopen hinit
  obtain ⟨selected, hselect, hcollect⟩ : ∃ selected,
      selectEntries image init relocations (List.replicate (init.size.toNat / 8) none) = .ok selected ∧
        collect selected = .ok result := by
    simp only [initArray, hinit, hrela, hdecoded] at h
    split at h
    · exact absurd h (by simp)
    · next selected hselect => exact ⟨selected, hselect, h⟩
  obtain rfl := collect_ok hcollect
  have hfit : Fits init := by
    by_contra hfit
    have hnone := selectEntries_wrapped hfit hselect
    have hfirst := congrArg (·[0]?) hnone
    rw [List.getElem?_map, List.getElem?_replicate_of_lt hcount] at hfirst
    cases hr : result[0]? <;> simp [hr] at hfirst
  obtain ⟨hlen, hfilled⟩ := selectEntries_filled hfit hmod (List.length_replicate ..) hselect
  rw [List.length_map] at hlen
  have hentries : ∀ i < init.size.toNat / 8, ∃ r, relocations.filter (inEntry init i) = [r] ∧ isRelative r = true ∧
      r.offset % 8 = 0 ∧ result[i]? = some r.addend := by
    intro i hi
    have hvalue : (result.map some)[i]? = some (some (result.get ⟨i, by omega⟩)) := by
      rw [List.getElem?_map, List.getElem?_eq_getElem (by omega)]
      rfl
    rcases hfilled i hi with ⟨-, hsame⟩ | ⟨r, hone, -, hafter, haligned, hrelative⟩
    · rw [hvalue, List.getElem?_replicate_of_lt hi] at hsame
      exact absurd hsame (by simp)
    · refine ⟨r, hone, hrelative, haligned, ?_⟩
      rw [List.getElem?_map] at hafter
      cases hr : result[i]? with
      | none => simp [hr] at hafter
      | some value => simpa [hr] using hafter
  have hplace : ∀ i r, relocations.filter (inEntry init i) = [r] →
      init.address.toNat + 8 * i ≤ r.offset ∧ r.offset < init.address.toNat + 8 * i + 8 := by
    intro i r hone
    have hmem : r ∈ relocations.filter (inEntry init i) := by rw [hone]; exact List.mem_singleton_self r
    have hin := (List.mem_filter.mp hmem).2
    rwa [inEntry, Bool.and_eq_true, decide_eq_true_eq, decide_eq_true_eq] at hin
  constructor
  · intro hall
    obtain ⟨r, hone, -, haddress, -⟩ := hall.entries 0 (by omega)
    obtain ⟨r', hone', -, haligned, -⟩ := hentries 0 hcount
    obtain rfl : r = r' := by simpa using hone.symm.trans hone'
    omega
  · intro haddress
    refine ⟨hlen, fun i hi => ?_⟩
    obtain ⟨r, hone, hrelative, haligned, hvalue⟩ := hentries i (by omega)
    have hbounds := hplace i r hone
    exact ⟨r, hone, hrelative, by omega, hvalue⟩

/-! ## An image with two constructors -/

/-- Three relocations: of the words at 40 and 48 to the functions at 0 and 8, and of another word. -/
def smallRelocations : List Relocation := [⟨40, 8, 0⟩, ⟨48, 8, 8⟩, ⟨56, 8, 8⟩]

def smallStream : List UInt8 := [3, 32, 3, 11, 8, 8, 0, 8, 0]

/-- The start of an ELF header: 64 bits, little endian, a shared object for x86-64. -/
def elfHeader : List UInt8 :=
  [0x7f, 0x45, 0x4c, 0x46, 2, 1, 1, 0] ++ List.replicate 8 0 ++ [3, 0, 0x3e, 0, 1, 0, 0, 0] ++ List.replicate 40 0

/-- `sub rsp, 0x28; ret` and `sub rsp, 0x48; ret`. -/
def smallText : List UInt8 := [0x48, 0x81, 0xec, 0x28, 0, 0, 0, 0xc3, 0x48, 0x81, 0xec, 0x48, 0, 0, 0, 0xc3]

def initSection (address : UInt64) : Section := ⟨".init_array", SHT_INIT_ARRAY, SHF_ALLOC ||| SHF_WRITE, address, 104, 16, 8⟩

def relaSection : Section := ⟨".rela.dyn", kAndroidRelaSection, SHF_ALLOC, 0, 80, 13, 0⟩

def smallBytes : List UInt8 := elfHeader ++ smallText ++ magic ++ smallStream ++ List.replicate 35 0

/-- Code at 0, from the bytes at 64 on, and data at 32, from the bytes at 96 on. -/
def smallImage (address : UInt64) : ElfImage where
  bytes := smallBytes
  segments := [⟨64, 0, 16, 16, PF_R ||| PF_X⟩, ⟨96, 32, 32, 32, PF_R ||| PF_W⟩]
  sections :=
    [⟨".text", SHT_PROGBITS, SHF_ALLOC ||| SHF_EXECINSTR, 0, 64, 16, 0⟩, initSection address, relaSection,
      ⟨".dynsym", SHT_DYNSYM, SHF_ALLOC, 0, 64, 0, 24⟩, ⟨".dynstr", SHT_STRTAB, SHF_ALLOC, 0, 64, 0, 0⟩,
      ⟨".note.gnu.build-id", SHT_NOTE, SHF_ALLOC, 0, 64, 0, 0⟩, ⟨".comment", SHT_PROGBITS, 0, 0, 64, 0, 0⟩]

theorem smallStream_decoded : (decodeAps2 (magic ++ smallStream)).1 = .ok smallRelocations := by
  have hfits : AllRepresentable ⟨32, 0, 0⟩ [⟨11, smallRelocations⟩] := by
    refine ⟨⟨by simp [smallRelocations], ?_, ?_, ?_, ?_⟩, trivial⟩
    · exact fun _ => ⟨8, by simp [smallRelocations]⟩
    · exact fun _ => ⟨8, by simp [smallRelocations]⟩
    · exact fun hmode => absurd hmode (by decide)
    · exact fun _ hmode => absurd (show addendMode 11 = kGroupHasAddend by decide) hmode
  have hbytes : SlebAll (streamValues 32 [⟨11, smallRelocations⟩]) smallStream := by
    have hsmall : ∀ byte ∈ smallStream, byte.toNat < 64 := by decide +kernel
    exact slebAll_bytes hsmall
  have hvalues : ∀ r ∈ relocations [⟨11, smallRelocations⟩], r.Small := by
    simp [relocations, smallRelocations, Relocation.Small]
  exact decodeAps2_encoded (by decide) hfits hvalues (by decide) hbytes

section
variable {address : UInt64}

theorem smallImage_init : findSection (smallImage address) ".init_array" = some (initSection address) := rfl

theorem smallImage_rela : findSection (smallImage address) ".rela.dyn" = some relaSection := rfl

theorem initArray_small (hselect : selectEntries (smallImage address) (initSection address) smallRelocations [none, none] =
      .ok [some 0, some 8]) : initArray (smallImage address) = .ok [0, 8] := by
  have hbytes : sectionBytes (smallImage address) relaSection = magic ++ smallStream := by
    change (if checkedRange 80 13 (UInt64.ofNat smallBytes.length) then (smallBytes.drop 80).take 13 else []) = _
    decide +kernel
  have hentries : List.replicate ((initSection address).size.toNat / 8) (none : Option Nat) = [none, none] := by
    change List.replicate ((16 : UInt64).toNat / 8) (none : Option Nat) = _
    decide
  simp only [initArray, smallImage_init, smallImage_rela, hbytes, smallStream_decoded, hentries, hselect]
  rfl

end

set_option maxRecDepth 2000 in
theorem initArray_entries_at_40 : EntryByEntry (initSection 40) smallRelocations [0, 8] := by
  have hopen : openImage (smallImage 40).bytes (smallImage 40).segments (smallImage 40).sections = .ok (smallImage 40) := by rfl
  exact (initArray_entries hopen smallImage_init smallImage_rela smallStream_decoded (initArray_small rfl)).mpr (by decide)

set_option maxRecDepth 2000 in
/-- The same with the section at 36: its entries are filled from their middles. -/
theorem initArray_misaligned :
    openImage (smallImage 36).bytes (smallImage 36).segments (smallImage 36).sections = .ok (smallImage 36) ∧
      initArray (smallImage 36) = .ok [0, 8] ∧ ¬EntryByEntry (initSection 36) smallRelocations [0, 8] := by
  refine ⟨by rfl, initArray_small rfl, fun hall => ?_⟩
  obtain ⟨r, hone, -, haddress, -⟩ := hall.entries 0 (by decide)
  have hfirst : smallRelocations.filter (inEntry (initSection 36) 0) = [⟨40, 8, 0⟩] := by decide
  obtain rfl : ⟨40, 8, 0⟩ = r := List.singleton_inj.mp (hfirst.symm.trans hone)
  exact absurd haddress (by decide)

end Mocktail.HostAbi

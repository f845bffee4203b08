/-
  Mocktail.HostAbi.SignatureSearch — finding a reference function in a candidate
  (`host_abi_deriver.cc`).

  The signature of a function is its first instructions in the reference image, with the bytes
  of immediates and displacements masked out. The longest run of bytes that are not masked is
  the anchor: the candidate's `.text` is searched for it, and at each occurrence the whole
  signature is compared. What matches byte for byte is decoded again and compared operand by
  operand.

  Capstone is a function here that gives any instructions for any bytes (`Disasm`); what
  `Decode` checks of them is modelled. `findSignature_exact`: no offset is missed or found
  twice, whatever the mask, and a single match is the only one in the whole section.
-/

import Mocktail.HostAbi.InitArray

namespace Mocktail.HostAbi

/-! ## Instructions -/

inductive OperandType where
  | register | immediate | memory
  deriving DecidableEq, Repr

structure Operand where
  type : OperandType
  registerName : String := ""
  segmentName : String := ""
  baseName : String := ""
  indexName : String := ""
  scale : Int := 0
  value : Int := 0
  size : UInt8 := 0
  ripRelative : Bool := false
  deriving DecidableEq, Repr

structure Instruction where
  address : UInt64
  size : UInt16
  mnemonic : String
  operands : List Operand
  immediateOffset : UInt8 := 0
  immediateSize : UInt8 := 0
  displacementOffset : UInt8 := 0
  displacementSize : UInt8 := 0
  controlFlow : Bool := false
  returns : Bool := false
  deriving DecidableEq, Repr

/-- An instruction as Capstone gives it. An operand is none if it is of no type that is read. -/
structure CsInsn where
  address : UInt64
  size : UInt16
  mnemonic : String
  hasDetail : Bool
  operands : List (Option Operand)
  immediateOffset : UInt8
  immediateSize : UInt8
  displacementOffset : UInt8
  displacementSize : UInt8
  controlFlow : Bool
  returns : Bool

/-- `cs_disasm`: at most so many instructions of the bytes, the first at the address. -/
abbrev Disasm := List UInt8 → UInt64 → Nat → List CsInsn

section
variable (image : ElfImage)

def fileSize : UInt64 := UInt64.ofNat image.bytes.length

def offsetForRva (rva size : UInt64) : Except String UInt64 :=
  match image.segments.filter (·.containsFile rva size) with
  | [] => .error "RVA has no file mapping"
  | [segment] => .ok (segment.offset + rva - segment.address)
  | _ => .error "RVA has no unique file mapping"

/-- `ElfImage::Bytes`. -/
def bytesOf (offset size : UInt64) : Except String (List UInt8) :=
  if checkedRange offset size (fileSize image) then .ok ((image.bytes.drop offset.toNat).take size.toNat)
  else .error "ELF byte range exceeds file bounds"

end

/-- The instructions as they are kept, if each begins where the one before it ends. -/
def readInstructions : List CsInsn → UInt64 → Except String (List Instruction × UInt64)
  | [], expected => .ok ([], expected)
  | source :: rest, expected =>
    if source.address ≠ expected ∨ source.size = 0 ∨ source.hasDetail = false then
      .error "instruction signature is not contiguous"
    else
      match source.operands.mapM id with
      | none => .error "signature contains an unsupported x86 operand"
      | some operands =>
        match readInstructions rest (expected + source.size.toUInt64) with
        | .error e => .error e
        | .ok (instructions, last) =>
          .ok ({ address := source.address, size := source.size, mnemonic := source.mnemonic, operands
                 immediateOffset := source.immediateOffset, immediateSize := source.immediateSize
                 displacementOffset := source.displacementOffset, displacementSize := source.displacementSize
                 controlFlow := source.controlFlow, returns := source.returns } :: instructions, last)

/-- `Disassembler::Decode`. -/
def decode (disasm : Disasm) (image : ElfImage) (rva : UInt64) (count maximumBytes : Nat) : Except String (List Instruction) :=
  if count = 0 ∨ 256 < count then .error "signature instruction count is invalid"
  else if !requireCode image rva 1 then .error "RVA is not in a read/execute ELF segment"
  else
    match offsetForRva image rva 1 with
    | .error e => .error e
    | .ok offset =>
      let available := min maximumBytes (fileSize image - offset).toNat
      match bytesOf image offset (UInt64.ofNat available) with
      | .error e => .error e
      | .ok bytes =>
        let decoded := disasm bytes rva count
        if decoded.length ≠ count then .error "cannot decode normalized instruction signature"
        else
          match readInstructions decoded rva with
          | .error e => .error e
          | .ok (instructions, last) =>
            if !requireCode image rva (last - rva) then .error "RVA is not in a read/execute ELF segment"
            else .ok instructions

/-! ## Semantics -/

structure SignatureSpec where
  name : String
  referenceRva : UInt64
  instructionCount : Nat
  registrySizeMayChange : Bool := false
  minimumAnchorBytes : Nat := 6
  registrySizeIndices : Nat × Nat := (8, 12)

structure SignatureMatch where
  rva : UInt64
  reference : List Instruction
  candidate : List Instruction
  deriving DecidableEq, Repr

def sameSemanticOperand (left right : Operand) (controlFlow wildcardSize : Bool) : Bool :=
  if left.type ≠ right.type ∨ left.size ≠ right.size then false
  else
    match left.type with
    | .register => left.registerName == right.registerName
    | .immediate => controlFlow || wildcardSize || left.value == right.value
    | .memory =>
      left.segmentName == right.segmentName && left.baseName == right.baseName && left.indexName == right.indexName &&
        left.scale == right.scale && left.ripRelative == right.ripRelative && (left.ripRelative || left.value == right.value)

/-- The comparison of instructions from an index on. -/
def sameInstructions (spec : SignatureSpec) : Nat → List Instruction → List Instruction → Except String Unit
  | index, left :: lefts, right :: rights =>
    let wildcard := spec.registrySizeMayChange && (index == spec.registrySizeIndices.1 || index == spec.registrySizeIndices.2)
    if left.mnemonic ≠ right.mnemonic ∨ left.operands.length ≠ right.operands.length then
      .error ("normalized instruction semantics changed at index " ++ toString index)
    else if (left.operands.zip right.operands).all fun pair => sameSemanticOperand pair.1 pair.2 left.controlFlow wildcard then
      sameInstructions spec (index + 1) lefts rights
    else .error ("normalized instruction operand changed at index " ++ toString index)
  | _, _, _ => .ok ()

/-- The size a registry initializer names at an index. -/
def registrySize (candidate : List Instruction) (index : Nat) : Except String Int :=
  match candidate[index]? with
  | none => .error "registry initializer size index is outside its signature"
  | some instruction =>
    match instruction.operands with
    | [_, operand] =>
      if operand.type = .immediate then .ok operand.value else .error "registry initializer size operands changed"
    | _ => .error "registry initializer size operands changed"

def validateSemantics (spec : SignatureSpec) (reference candidate : List Instruction) : Except String Unit := do
  if reference.length ≠ candidate.length then .error "normalized signature instruction count changed"
  else
    sameInstructions spec 0 reference candidate
    if spec.registrySizeMayChange then
      let first ← registrySize candidate spec.registrySizeIndices.1
      let second ← registrySize candidate spec.registrySizeIndices.2
      if first ≠ second ∨ first < 0x100 ∨ 0x1000 < first ∨ first % 8 ≠ 0 then
        .error "registry initializer object size is inconsistent"
      else .ok ()
    else .ok ()

/-! ## The signature -/

/-- Bytes to look for, and which of them count. -/
structure Signature where
  encoded : List UInt8
  mask : List Bool
  sameLength : mask.length = encoded.length

def clearBits (mask : List Bool) (start : Nat) : Nat → List Bool
  | 0 => mask
  | count + 1 => (clearBits mask start count).set (start + count) false

theorem length_clearBits (mask : List Bool) (start count : Nat) : (clearBits mask start count).length = mask.length := by
  induction count with
  | zero => rfl
  | succ count ih => rw [clearBits, List.length_set, ih]

def maskRange (instruction : Instruction) (base : Nat) (mask : List Bool) (range : UInt8 × UInt8) : Except String (List Bool) :=
  if range.2 = 0 then .ok mask
  else if range.1 = 0 ∨ instruction.size.toNat < range.1.toNat + range.2.toNat then
    .error "Capstone returned an invalid operand encoding range"
  else .ok (clearBits mask (base + range.1.toNat) range.2.toNat)

def maskInstructions (rva : UInt64) : List Instruction → List Bool → Except String (List Bool)
  | [], mask => .ok mask
  | instruction :: rest, mask =>
    let base := (instruction.address - rva).toNat
    match maskRange instruction base mask (instruction.immediateOffset, instruction.immediateSize) with
    | .error e => .error e
    | .ok mask =>
      match maskRange instruction base mask (instruction.displacementOffset, instruction.displacementSize) with
      | .error e => .error e
      | .ok mask => maskInstructions rva rest mask

theorem length_maskRange {instruction : Instruction} {base : Nat} {mask mask' : List Bool} {range : UInt8 × UInt8}
    (h : maskRange instruction base mask range = .ok mask') : mask'.length = mask.length := by
  unfold maskRange at h
  split at h
  · rw [← Except.ok.inj h]
  · split at h
    · exact absurd h (by simp)
    · rw [← Except.ok.inj h, length_clearBits]

theorem length_maskInstructions {rva : UInt64} {instructions : List Instruction} {mask mask' : List Bool}
    (h : maskInstructions rva instructions mask = .ok mask') : mask'.length = mask.length := by
  induction instructions generalizing mask with
  | nil => rw [← Except.ok.inj h]
  | cons instruction rest ih =>
    rw [maskInstructions] at h
    split at h
    · exact absurd h (by simp)
    · next first hfirst =>
      split at h
      · exact absurd h (by simp)
      · next second hsecond => rw [ih h, length_maskRange hsecond, length_maskRange hfirst]

/-- The reference's instructions and their signature. -/
def signatureOf (disasm : Disasm) (reference : ElfImage) (spec : SignatureSpec) :
    Except String (List Instruction × Signature) :=
  match decode disasm reference spec.referenceRva spec.instructionCount 4096 with
  | .error e => .error e
  | .ok instructions =>
    let size := (instructions.getLast?.map fun last => last.address + last.size.toUInt64 - spec.referenceRva).getD 0
    match offsetForRva reference spec.referenceRva size with
    | .error e => .error e
    | .ok offset =>
      match bytesOf reference offset size with
      | .error e => .error e
      | .ok encoded =>
        match h : maskInstructions spec.referenceRva instructions (List.replicate encoded.length true) with
        | .error e => .error e
        | .ok mask => .ok (instructions, ⟨encoded, mask, by rw [length_maskInstructions h, List.length_replicate]⟩)

/-! ## The anchor -/

structure Runs where
  anchorOffset : Nat := 0
  anchorSize : Nat := 0
  runStart : Nat := 0
  running : Bool := false

def Runs.next (runs : Runs) (mask : List Bool) (index : Nat) : Runs :=
  let enabled := mask.getD index false
  if enabled && !runs.running then { runs with runStart := index, running := true }
  else if !enabled && runs.running then
    let closed := { runs with running := false }
    if runs.anchorSize < index - runs.runStart then
      { closed with anchorOffset := runs.runStart, anchorSize := index - runs.runStart }
    else closed
  else runs

/-- After so many turns of the loop over the mask. -/
def runsUpTo (mask : List Bool) : Nat → Runs
  | 0 => {}
  | index + 1 => (runsUpTo mask index).next mask index

/-- The first of the longest runs: where it starts, and how long it is. -/
def anchorOf (mask : List Bool) : Nat × Nat :=
  let runs := runsUpTo mask (mask.length + 1)
  (runs.anchorOffset, runs.anchorSize)

/-! ## The search -/

/-- `std::search` from a position on. -/
def searchFrom (text : List UInt8) (start : Nat) (needle : List UInt8) : Option Nat :=
  (List.range (text.length + 1)).find? fun p => start ≤ p && needle.isPrefixOf (text.drop p)

/-- The signature's bytes are those of the text at an offset, where they count. -/
def Signature.same (sig : Signature) (text : List UInt8) (offset : Nat) : Bool :=
  (List.range sig.encoded.length).all fun i => !sig.mask.getD i false || text.getD (offset + i) 0 == sig.encoded.getD i 0

def Signature.matchesAt (sig : Signature) (text : List UInt8) (offset : Nat) : Bool :=
  offset ≤ text.length && sig.encoded.length ≤ text.length - offset && sig.same text offset

theorem searchFrom_bounds {text needle : List UInt8} {start p : Nat} (h : searchFrom text start needle = some p) :
    start ≤ p ∧ p ≤ text.length ∧ needle <+: text.drop p := by
  have hin := List.mem_of_find?_eq_some h
  have hp := List.find?_some h
  simp only [Bool.and_eq_true, decide_eq_true_eq, List.isPrefixOf_iff_prefix] at hp
  exact ⟨hp.1, Nat.lt_succ_iff.mp (List.mem_range.mp hin), hp.2⟩

/-- The loop over the anchor's occurrences: the offsets where the whole signature matches. -/
def anchorLoop (sig : Signature) (text : List UInt8) (start : Nat) : List Nat :=
  if text.length ≤ start then []
  else
    let anchor := anchorOf sig.mask
    match h : searchFrom text start ((sig.encoded.drop anchor.1).take anchor.2) with
    | none => []
    | some found =>
      have := searchFrom_bounds h
      let rest := anchorLoop sig text (found + 1)
      if anchor.1 ≤ found ∧ sig.matchesAt text (found - anchor.1) = true then (found - anchor.1) :: rest else rest
termination_by text.length + 1 - start

def byteMatches (sig : Signature) (text : List UInt8) : List Nat := anchorLoop sig text 0

/-! ## FindSignatureMatches -/

/-- A byte match, decoded and compared. -/
def semanticAt (disasm : Disasm) (candidate : ElfImage) (spec : SignatureSpec) (text : Section) (reference : List Instruction)
    (offset : Nat) : Except String SignatureMatch :=
  let rva := text.address + UInt64.ofNat offset
  match decode disasm candidate rva spec.instructionCount 4096 with
  | .error e => .error e
  | .ok instructions =>
    match validateSemantics spec reference instructions with
    | .error e => .error e
    | .ok _ => .ok ⟨rva, reference, instructions⟩

/-- The first error that says something. -/
def firstError : List (Except String SignatureMatch) → String
  | [] => ""
  | .error e :: rest => if e = "" then firstError rest else e
  | .ok _ :: rest => firstError rest

def candidateText (candidate : ElfImage) : Except String (Section × List UInt8) :=
  match findSection candidate ".text" with
  | none => .error "candidate has no .text section"
  | some text => (bytesOf candidate text.offset text.size).map fun bytes => (text, bytes)

def findSignatureMatches (disasm : Disasm) (reference candidate : ElfImage) (spec : SignatureSpec)
    (allowMultipleCandidates : Bool) : Except String (List SignatureMatch) :=
  match signatureOf disasm reference spec with
  | .error e => .error e
  | .ok (instructions, sig) =>
    if (anchorOf sig.mask).2 < spec.minimumAnchorBytes then .error "normalized signature has no selective fixed anchor"
    else
      match candidateText candidate with
      | .error e => .error e
      | .ok (text, bytes) =>
        if byteMatches sig bytes = [] then .error ("signature " ++ spec.name ++ " matched 0 candidate locations")
        else
          let attempts := (byteMatches sig bytes).map (semanticAt disasm candidate spec text instructions)
          let semantic := attempts.filterMap Except.toOption
          if semantic = [] ∧ (byteMatches sig bytes).length = 1 ∧ firstError attempts ≠ "" then .error (firstError attempts)
          else if allowMultipleCandidates = false ∧ semantic.length ≠ 1 then
            .error ("signature " ++ spec.name ++ " matched " ++ toString semantic.length ++ " semantic candidate locations")
          else .ok semantic

def findSignatureMatch (disasm : Disasm) (reference candidate : ElfImage) (spec : SignatureSpec) : Except String SignatureMatch :=
  match findSignatureMatches disasm reference candidate spec false with
  | .error e => .error e
  | .ok [found] => .ok found
  | .ok found => .error ("signature " ++ spec.name ++ " matched " ++ toString found.length ++ " candidate locations")

/-! ## The anchor is not masked -/

theorem runs_unmasked (mask : List Bool) (count : Nat) :
    (∀ i, (runsUpTo mask count).anchorOffset ≤ i → i < (runsUpTo mask count).anchorOffset + (runsUpTo mask count).anchorSize →
        mask.getD i false = true) ∧
      ((runsUpTo mask count).running = true → ∀ i, (runsUpTo mask count).runStart ≤ i → i < count →
        mask.getD i false = true) := by
  induction count with
  | zero => exact ⟨fun i _ h => absurd h (Nat.not_lt_zero i), fun h => Bool.noConfusion h⟩
  | succ index ih =>
    obtain ⟨hanchor, hrun⟩ := ih
    rw [runsUpTo]
    generalize runsUpTo mask index = runs at hanchor hrun ⊢
    unfold Runs.next
    dsimp only
    cases henabled : mask.getD index false with
    | true =>
      cases hrunning : runs.running with
      | true =>
        refine ⟨hanchor, fun _ i h0 h1 => ?_⟩
        by_cases hi : i = index
        · rw [hi, henabled]
        · exact hrun hrunning i h0 (by omega)
      | false =>
        refine ⟨hanchor, fun _ i h0 h1 => ?_⟩
        obtain rfl : i = index := by
          have h0' : index ≤ i := h0
          omega
        exact henabled
    | false =>
      cases hrunning : runs.running with
      | true =>
        by_cases hlonger : runs.anchorSize < index - runs.runStart
        · rw [if_neg (by simp), if_pos (by simp), if_pos hlonger]
          refine ⟨fun i h0 h1 => hrun hrunning i h0 ?_, fun h => Bool.noConfusion h⟩
          have h1' : i < runs.runStart + (index - runs.runStart) := h1
          omega
        · rw [if_neg (by simp), if_pos (by simp), if_neg hlonger]
          exact ⟨hanchor, fun h => Bool.noConfusion h⟩
      | false =>
        rw [if_neg (by simp), if_neg (by simp)]
        exact ⟨hanchor, fun h => absurd (hrunning.symm.trans h) (by decide)⟩

theorem anchorOf_unmasked (mask : List Bool) {i : Nat} (h0 : (anchorOf mask).1 ≤ i)
    (h1 : i < (anchorOf mask).1 + (anchorOf mask).2) : mask.getD i false = true :=
  (runs_unmasked mask (mask.length + 1)).1 i h0 h1

/-- An anchor with something in it ends within the mask. -/
theorem anchorOf_end {mask : List Bool} (h : 0 < (anchorOf mask).2) : (anchorOf mask).1 + (anchorOf mask).2 ≤ mask.length := by
  have hlast : mask.getD ((anchorOf mask).1 + (anchorOf mask).2 - 1) false = true :=
    anchorOf_unmasked mask (by omega) (by omega)
  by_contra hout
  rw [List.getD_eq_default _ _ (by omega)] at hlast
  exact Bool.noConfusion hlast

section
variable {sig : Signature} {text : List UInt8} {offset start : Nat}

theorem matchesAt_iff : sig.matchesAt text offset = true ↔
    offset + sig.encoded.length ≤ text.length ∧
      ∀ i < sig.encoded.length, sig.mask.getD i false = true → text.getD (offset + i) 0 = sig.encoded.getD i 0 := by
  simp only [Signature.matchesAt, Signature.same, Bool.and_eq_true, decide_eq_true_eq, List.all_eq_true, List.mem_range,
    Bool.or_eq_true, Bool.not_eq_true', beq_iff_eq]
  constructor
  · rintro ⟨⟨h0, h1⟩, hall⟩
    refine ⟨by omega, fun i hi hmask => (hall i hi).resolve_left ?_⟩
    rw [hmask]
    decide
  · rintro ⟨hlen, hall⟩
    refine ⟨⟨by omega, by omega⟩, fun i hi => ?_⟩
    cases hmask : sig.mask.getD i false with
    | true => exact .inr (hall i hi hmask)
    | false => exact .inl rfl

/-- Where the whole signature is, its anchor is. -/
theorem anchor_at (hsize : 0 < (anchorOf sig.mask).2) (h : sig.matchesAt text offset = true) :
    (sig.encoded.drop (anchorOf sig.mask).1).take (anchorOf sig.mask).2 <+: text.drop (offset + (anchorOf sig.mask).1) := by
  obtain ⟨hlen, hsame⟩ := matchesAt_iff.mp h
  have hend := anchorOf_end hsize
  rw [sig.sameLength] at hend
  rw [List.prefix_iff_getElem?]
  intro i hi
  rw [List.length_take, List.length_drop] at hi
  have hunmasked : sig.mask.getD ((anchorOf sig.mask).1 + i) false = true :=
    anchorOf_unmasked sig.mask (by omega) (by omega)
  have hbyte := hsame ((anchorOf sig.mask).1 + i) (by omega) hunmasked
  rw [List.getD_eq_getElem _ _ (by omega), List.getD_eq_getElem _ _ (by omega)] at hbyte
  rw [List.getElem_take, List.getElem_drop, List.getElem?_drop, ← hbyte, List.getElem?_eq_getElem (by omega)]
  congr 2
  omega

/-! ## Every offset, once -/

theorem anchorLoop_done (h : text.length ≤ start) : anchorLoop sig text start = [] := by
  rw [anchorLoop, if_pos h]

theorem anchorLoop_none (h : start < text.length)
    (hsearch : searchFrom text start ((sig.encoded.drop (anchorOf sig.mask).1).take (anchorOf sig.mask).2) = none) :
    anchorLoop sig text start = [] := by
  rw [anchorLoop, if_neg (by omega)]
  dsimp only
  split
  · rfl
  · next found hfound => exact absurd (hsearch.symm.trans hfound) (by simp)

theorem anchorLoop_some {found : Nat} (h : start < text.length)
    (hsearch : searchFrom text start ((sig.encoded.drop (anchorOf sig.mask).1).take (anchorOf sig.mask).2) = some found) :
    anchorLoop sig text start =
      if (anchorOf sig.mask).1 ≤ found ∧ sig.matchesAt text (found - (anchorOf sig.mask).1) = true then
        (found - (anchorOf sig.mask).1) :: anchorLoop sig text (found + 1)
      else anchorLoop sig text (found + 1) := by
  rw [anchorLoop, if_neg (by omega)]
  dsimp only
  split
  · next hnone => exact absurd (hsearch.symm.trans hnone) (by simp)
  · next found' hfound =>
    obtain rfl : found = found' := Option.some.inj (hsearch.symm.trans hfound)
    rfl

theorem searchFrom_first {needle : List UInt8} {p : Nat} (hle : start ≤ p) (hp : p ≤ text.length) (hat : needle <+: text.drop p) :
    ∃ found ≤ p, searchFrom text start needle = some found := by
  have hpred : (start ≤ p && needle.isPrefixOf (text.drop p)) = true := by
    rw [Bool.and_eq_true, decide_eq_true_eq, List.isPrefixOf_iff_prefix]
    exact ⟨hle, hat⟩
  cases hsearch : searchFrom text start needle with
  | none =>
    have hnot := List.find?_eq_none.mp hsearch p (List.mem_range.mpr (by omega))
    exact absurd hpred hnot
  | some found =>
    refine ⟨found, ?_, rfl⟩
    by_contra hlt
    have hbefore := (List.find?_range_eq_some.mp hsearch).2.2 p (by omega)
    rw [hpred] at hbefore
    exact absurd hbefore (by decide)

theorem mem_anchorLoop (hsize : 0 < (anchorOf sig.mask).2) (o : Nat) :
    o ∈ anchorLoop sig text start ↔ start ≤ o + (anchorOf sig.mask).1 ∧ sig.matchesAt text o = true := by
  induction hleft : text.length + 1 - start using Nat.strong_induction_on generalizing start with
  | _ left ih =>
    have hend := anchorOf_end hsize
    rw [sig.sameLength] at hend
    by_cases hdone : text.length ≤ start
    · rw [anchorLoop_done hdone]
      refine ⟨fun h => absurd h (by simp), fun ⟨hle, hmatch⟩ => ?_⟩
      have hlen := (matchesAt_iff.mp hmatch).1
      omega
    · have hoccurs : ∀ o, sig.matchesAt text o = true → start ≤ o + (anchorOf sig.mask).1 →
          ∃ found ≤ o + (anchorOf sig.mask).1,
            searchFrom text start ((sig.encoded.drop (anchorOf sig.mask).1).take (anchorOf sig.mask).2) = some found := by
        intro o hmatch hle
        have hlen := (matchesAt_iff.mp hmatch).1
        exact searchFrom_first hle (by omega) (anchor_at hsize hmatch)
      cases hsearch : searchFrom text start ((sig.encoded.drop (anchorOf sig.mask).1).take (anchorOf sig.mask).2) with
      | none =>
        rw [anchorLoop_none (by omega) hsearch]
        refine ⟨fun h => absurd h (by simp), fun ⟨hle, hmatch⟩ => ?_⟩
        obtain ⟨found, -, hfound⟩ := hoccurs o hmatch hle
        exact absurd (hsearch.symm.trans hfound) (by simp)
      | some found =>
        obtain ⟨hstart, hfound, -⟩ := searchFrom_bounds hsearch
        have hrest := ih (text.length + 1 - (found + 1)) (by omega) rfl
        have hlater : sig.matchesAt text o = true → start ≤ o + (anchorOf sig.mask).1 → found ≤ o + (anchorOf sig.mask).1 := by
          intro hmatch hle
          obtain ⟨found', hfirst, hfound'⟩ := hoccurs o hmatch hle
          obtain rfl : found = found' := Option.some.inj (hsearch.symm.trans hfound')
          exact hfirst
        rw [anchorLoop_some (by omega) hsearch]
        by_cases hhere : (anchorOf sig.mask).1 ≤ found ∧ sig.matchesAt text (found - (anchorOf sig.mask).1) = true
        · rw [if_pos hhere, List.mem_cons, hrest]
          constructor
          · rintro (rfl | ⟨hle, hmatch⟩)
            · exact ⟨by omega, hhere.2⟩
            · exact ⟨by omega, hmatch⟩
          · rintro ⟨hle, hmatch⟩
            have hge := hlater hmatch hle
            by_cases heq : o = found - (anchorOf sig.mask).1
            · exact .inl heq
            · exact .inr ⟨by omega, hmatch⟩
        · rw [if_neg hhere, hrest]
          constructor
          · exact fun ⟨hle, hmatch⟩ => ⟨by omega, hmatch⟩
          · rintro ⟨hle, hmatch⟩
            have hge := hlater hmatch hle
            refine ⟨?_, hmatch⟩
            by_contra hsame
            obtain rfl : found = o + (anchorOf sig.mask).1 := by omega
            rw [Nat.add_sub_cancel] at hhere
            exact hhere ⟨by omega, hmatch⟩

theorem anchorLoop_sorted (hsize : 0 < (anchorOf sig.mask).2) (start : Nat) :
    (anchorLoop sig text start).Pairwise (· < ·) := by
  induction hleft : text.length + 1 - start using Nat.strong_induction_on generalizing start with
  | _ left ih =>
    by_cases hdone : text.length ≤ start
    · rw [anchorLoop_done hdone]
      exact List.Pairwise.nil
    · cases hsearch : searchFrom text start ((sig.encoded.drop (anchorOf sig.mask).1).take (anchorOf sig.mask).2) with
      | none =>
        rw [anchorLoop_none (by omega) hsearch]
        exact List.Pairwise.nil
      | some found =>
        obtain ⟨hstart, hfound, -⟩ := searchFrom_bounds hsearch
        have hrest := ih (text.length + 1 - (found + 1)) (by omega) (found + 1) rfl
        rw [anchorLoop_some (by omega) hsearch]
        split
        · refine List.pairwise_cons.mpr ⟨fun later hlater => ?_, hrest⟩
          have hafter := ((mem_anchorLoop hsize later).mp hlater).1
          omega
        · exact hrest

end

/-! ## What is returned -/

theorem filterMap_eq_singleton {α β : Type} {f : α → Option β} {l : List α} {b : β} (h : l.filterMap f = [b]) :
    ∃ a ∈ l, f a = some b ∧ ∀ other ∈ l, (f other).isSome = true → other = a := by
  induction l with
  | nil => exact absurd h (by simp)
  | cons first rest ih =>
    cases hf : f first with
    | none =>
      rw [List.filterMap_cons_none hf] at h
      obtain ⟨a, hin, ha, honly⟩ := ih h
      refine ⟨a, List.mem_cons_of_mem _ hin, ha, fun other hother hsome => ?_⟩
      rcases List.mem_cons.mp hother with rfl | hother
      · rw [hf] at hsome
        exact absurd hsome (by simp)
      · exact honly other hother hsome
    | some c =>
      rw [List.filterMap_cons_some hf] at h
      obtain ⟨rfl, hnone⟩ := List.cons.inj h
      refine ⟨first, List.mem_cons_self .., hf, fun other hother hsome => ?_⟩
      rcases List.mem_cons.mp hother with rfl | hother
      · rfl
      · rw [List.filterMap_eq_nil_iff.mp hnone other hother] at hsome
        exact absurd hsome (by simp)

section
variable {disasm : Disasm} {reference candidate : ElfImage} {spec : SignatureSpec}

theorem findSignatureMatches_ok {allow : Bool} {result : List SignatureMatch}
    (h : findSignatureMatches disasm reference candidate spec allow = .ok result) :
    ∃ instructions sig text bytes, signatureOf disasm reference spec = .ok (instructions, sig) ∧
      candidateText candidate = .ok (text, bytes) ∧ spec.minimumAnchorBytes ≤ (anchorOf sig.mask).2 ∧
      result = (byteMatches sig bytes).filterMap fun offset =>
        (semanticAt disasm candidate spec text instructions offset).toOption := by
  unfold findSignatureMatches at h
  match hsig : signatureOf disasm reference spec with
  | .error e =>
    rw [hsig] at h
    exact absurd h (by simp)
  | .ok (instructions, sig) =>
    rw [hsig] at h
    dsimp only at h
    by_cases hanchor : (anchorOf sig.mask).2 < spec.minimumAnchorBytes
    · rw [if_pos hanchor] at h
      exact absurd h (by simp)
    · rw [if_neg hanchor] at h
      match htext : candidateText candidate with
      | .error e =>
        rw [htext] at h
        exact absurd h (by simp)
      | .ok (text, bytes) =>
        rw [htext] at h
        dsimp only at h
        refine ⟨instructions, sig, text, bytes, rfl, rfl, by omega, ?_⟩
        split at h
        · exact absurd h (by simp)
        · split at h
          · exact absurd h (by simp)
          · split at h
            · exact absurd h (by simp)
            · rw [← Except.ok.inj h, List.filterMap_map]
              rfl

theorem toOption_eq_some {ε α : Type} {x : Except ε α} {a : α} (h : x.toOption = some a) : x = .ok a := by
  cases x with
  | ok b => rw [Option.some.inj h]
  | error e => exact absurd h (by simp [Except.toOption])

theorem findSignatureMatch_ok (hmin : 1 ≤ spec.minimumAnchorBytes) {found : SignatureMatch}
    (h : findSignatureMatch disasm reference candidate spec = .ok found) :
    ∃ instructions sig text bytes offset, signatureOf disasm reference spec = .ok (instructions, sig) ∧
      candidateText candidate = .ok (text, bytes) ∧ sig.matchesAt bytes offset = true ∧
      semanticAt disasm candidate spec text instructions offset = .ok found ∧
      ∀ other, sig.matchesAt bytes other = true →
        (∃ m, semanticAt disasm candidate spec text instructions other = .ok m) → other = offset := by
  have hsingle : findSignatureMatches disasm reference candidate spec false = .ok [found] := by
    unfold findSignatureMatch at h
    match hall : findSignatureMatches disasm reference candidate spec false with
    | .error e => exact absurd h (by simp [hall])
    | .ok [] => exact absurd h (by simp [hall])
    | .ok [one] =>
      rw [hall] at h
      rw [Except.ok.inj h]
    | .ok (_ :: _ :: _) => exact absurd h (by simp [hall])
  obtain ⟨instructions, sig, text, bytes, hsig, htext, hanchor, hresult⟩ := findSignatureMatches_ok hsingle
  obtain ⟨offset, hin, hsemantic, honly⟩ := filterMap_eq_singleton hresult.symm
  have hmem : ∀ o, o ∈ byteMatches sig bytes ↔ sig.matchesAt bytes o = true := by
    intro o
    rw [byteMatches, mem_anchorLoop (by omega) o]
    exact and_iff_right (Nat.zero_le _)
  refine ⟨instructions, sig, text, bytes, offset, hsig, htext, (hmem offset).mp hin, toOption_eq_some hsemantic, ?_⟩
  rintro other hmatch ⟨m, hother⟩
  exact honly other ((hmem other).mpr hmatch) (by rw [hother]; rfl)

end

/-- The byte matches are all the offsets at which the signature is, in order; what is returned
    are those of them that decode to the same instructions; and a single match is the only one. -/
theorem findSignature_exact (disasm : Disasm) (reference candidate : ElfImage) (spec : SignatureSpec)
    (hmin : 1 ≤ spec.minimumAnchorBytes) :
    (∀ (sig : Signature) (text : List UInt8), spec.minimumAnchorBytes ≤ (anchorOf sig.mask).2 →
      (byteMatches sig text).Pairwise (· < ·) ∧ ∀ offset, offset ∈ byteMatches sig text ↔
        offset + sig.encoded.length ≤ text.length ∧
          ∀ i < sig.encoded.length, sig.mask.getD i false = true → text.getD (offset + i) 0 = sig.encoded.getD i 0) ∧
    (∀ (allow : Bool) (result : List SignatureMatch), findSignatureMatches disasm reference candidate spec allow = .ok result →
      ∃ instructions sig text bytes, signatureOf disasm reference spec = .ok (instructions, sig) ∧
        candidateText candidate = .ok (text, bytes) ∧ spec.minimumAnchorBytes ≤ (anchorOf sig.mask).2 ∧
        result = (byteMatches sig bytes).filterMap fun offset =>
          (semanticAt disasm candidate spec text instructions offset).toOption) ∧
    (∀ found : SignatureMatch, findSignatureMatch disasm reference candidate spec = .ok found →
      ∃ instructions sig text bytes offset, signatureOf disasm reference spec = .ok (instructions, sig) ∧
        candidateText candidate = .ok (text, bytes) ∧ sig.matchesAt bytes offset = true ∧
        semanticAt disasm candidate spec text instructions offset = .ok found ∧
        ∀ other, sig.matchesAt bytes other = true →
          (∃ m, semanticAt disasm candidate spec text instructions other = .ok m) → other = offset) := by
  refine ⟨fun sig text hanchor => ⟨anchorLoop_sorted (by omega) 0, fun offset => ?_⟩,
    fun allow result h => findSignatureMatches_ok h, fun found h => findSignatureMatch_ok hmin h⟩
  rw [byteMatches, mem_anchorLoop (by omega) offset, matchesAt_iff]
  exact and_iff_right (Nat.zero_le _)

/-! ## A signature with a masked operand -/

/-- As far as `sub rsp, imm32` goes. -/
def subDisasm : Disasm := fun bytes rva _ =>
  match bytes with
  | 0x48 :: 0x81 :: 0xec :: b0 :: b1 :: b2 :: b3 :: _ =>
    [⟨rva, 7, "sub", true, [some { type := .register, registerName := "rsp", size := 8 },
      some { type := .immediate, value := b0.toNat + 256 * b1.toNat + 65536 * b2.toNat + 16777216 * b3.toNat, size := 8 }],
      3, 4, 0, 0, false, false⟩]
  | _ => []

def subSpec : SignatureSpec := { name := "sub", referenceRva := 0, instructionCount := 1, minimumAnchorBytes := 3 }

def subInstruction : Instruction :=
  { address := 0, size := 7, mnemonic := "sub"
    operands := [{ type := .register, registerName := "rsp", size := 8 }, { type := .immediate, value := 0x28, size := 8 }]
    immediateOffset := 3, immediateSize := 4 }

def subSignature : Signature := ⟨[0x48, 0x81, 0xec, 0x28, 0, 0, 0], [true, true, true, false, false, false, false], rfl⟩

def textSection : Section := ⟨".text", SHT_PROGBITS, SHF_ALLOC ||| SHF_EXECINSTR, 0, 64, 16, 0⟩

set_option maxRecDepth 4000 in
/-- The bytes that count are found twice; the second time it is another number. -/
theorem sub_found : byteMatches subSignature smallText = [0, 8] ∧
    findSignatureMatch subDisasm (smallImage 40) (smallImage 40) subSpec = .ok ⟨0, [subInstruction], [subInstruction]⟩ := by
  have hsig : signatureOf subDisasm (smallImage 40) subSpec = .ok ([subInstruction], subSignature) := by rfl
  have htext : candidateText (smallImage 40) = .ok (textSection, smallText) := by rfl
  have hmatches : byteMatches subSignature smallText = [0, 8] := by
    have hanchor : (subSignature.encoded.drop (anchorOf subSignature.mask).1).take (anchorOf subSignature.mask).2 =
        [0x48, 0x81, 0xec] := by decide
    have hfirst : searchFrom smallText 0 [0x48, 0x81, 0xec] = some 0 := by decide
    have hsecond : searchFrom smallText 1 [0x48, 0x81, 0xec] = some 8 := by decide
    have hrest : searchFrom smallText 9 [0x48, 0x81, 0xec] = none := by decide
    rw [← hanchor] at hfirst hsecond hrest
    rw [byteMatches, anchorLoop_some (by decide) hfirst, if_pos (by decide), anchorLoop_some (by decide) hsecond,
      if_pos (by decide), anchorLoop_none (by decide) hrest]
    rfl
  have hsemantic : semanticAt subDisasm (smallImage 40) subSpec textSection [subInstruction] 0 =
      .ok ⟨0, [subInstruction], [subInstruction]⟩ := by rfl
  have hother : semanticAt subDisasm (smallImage 40) subSpec textSection [subInstruction] 8 =
      .error "normalized instruction operand changed at index 0" := by rfl
  have hanchor : ¬(anchorOf subSignature.mask).2 < subSpec.minimumAnchorBytes := by decide
  refine ⟨hmatches, ?_⟩
  simp [findSignatureMatch, findSignatureMatches, hsig, htext, hmatches, hsemantic, hother, hanchor, List.filterMap_cons,
    Except.toOption]

theorem findSignature_exact_sub :
    byteMatches subSignature smallText = [0, 8] ∧ ∃ instructions sig text bytes offset,
      signatureOf subDisasm (smallImage 40) subSpec = .ok (instructions, sig) ∧
      candidateText (smallImage 40) = .ok (text, bytes) ∧ sig.matchesAt bytes offset = true ∧
      semanticAt subDisasm (smallImage 40) subSpec text instructions offset = .ok ⟨0, [subInstruction], [subInstruction]⟩ ∧
      ∀ other, sig.matchesAt bytes other = true →
        (∃ m, semanticAt subDisasm (smallImage 40) subSpec text instructions other = .ok m) → other = offset :=
  ⟨sub_found.1, (findSignature_exact subDisasm (smallImage 40) (smallImage 40) subSpec (by decide)).2.2 _ sub_found.2⟩

end Mocktail.HostAbi

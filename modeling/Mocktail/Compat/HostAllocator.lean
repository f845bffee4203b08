/-
  Mocktail.Compat.HostAllocator — the allocator that the guest's modules share with the host
  (`host_allocator_bridge.cc`).

  A user block lies in a larger raw block of the host, behind a header and a front padding and
  before a back padding, at an address that is aligned as it was asked for. The header is found
  through a table from user blocks, and says where the raw block starts and how large the user
  block is. A block is released through the table, so a pointer that is none of ours is left
  alone.

  The memory is a function from addresses. What the host's `calloc` answers is a part of each
  call: null, or the start of a block. `raws` are its live blocks, `handed` are the blocks it
  gave out and `freed` those given back, in order; the program keeps none of the three. All
  sizes are of 64 bits.

  Where the raw block lies in the address space, the user block is aligned and lies in it
  behind a whole header (`placed_of_rawSize`).
-/

import Mocktail.Lib.BitFields
import Mocktail.Lib.Memory

namespace Mocktail.Compat.HostAllocator

open Mocktail.Lib

def kAllocationMagic : Nat := 0x4d4f434b5441494c
def kFrontPadding : Nat := 0x80
def kBackPadding : Nat := 0x200
def kMaximumAllocation : Nat := 2 ^ 30
/-- `sizeof(Allocation)`: four words. -/
def kHeaderBytes : Nat := 32
/-- `alignof(Allocation)`. -/
def kHeaderAlignment : Nat := 8

structure Heap where
  memory : Nat → UInt8
  /-- `g_allocations`: a user block and its header. -/
  allocations : List (Nat × Nat)
  /-- The live blocks of `calloc`: start and size. -/
  raws : List (Nat × Nat)
  /-- The blocks `calloc` gave out. -/
  handed : List Nat
  /-- The blocks given to `free`. -/
  freed : List Nat

/-- Word `i` of a header. -/
def Heap.word (heap : Heap) (header i : Nat) : Nat := leValue (cellsAt heap.memory (header + 8 * i) 8)

def Heap.storeWord (heap : Heap) (header i value : Nat) : Heap :=
  { heap with memory := storeCells heap.memory (header + 8 * i) (leBytes 8 value) }

/-! ## The host -/

/-- `calloc` with a block as its answer. -/
def Heap.calloc (heap : Heap) (raw size : Nat) : Heap :=
  { heap with
    memory := storeCells heap.memory raw (List.replicate size 0)
    raws := (raw, size) :: heap.raws
    handed := heap.handed ++ [raw] }

/-- `free`; null is no block. -/
def Heap.free (heap : Heap) (raw : Nat) : Heap :=
  if raw = 0 then heap
  else { heap with raws := heap.raws.filter fun block => block.1 != raw, freed := heap.freed ++ [raw] }

/-! ## The bridge -/

def isPowerOfTwo (value : Nat) : Bool := value != 0 && value &&& (value - 1) == 0

def findAllocation (heap : Heap) (pointer : Nat) : Option Nat := heap.allocations.lookup pointer

/-- The alignment that is used. -/
def usedAlignment (alignment : Nat) : Nat := max (if isPowerOfTwo alignment then alignment else 16) kHeaderAlignment

def usedSize (size : Nat) : Nat := if size = 0 then 1 else size

def overhead (alignment : Nat) : Nat := (kHeaderBytes + kFrontPadding + kBackPadding + alignment - 1) % 2 ^ 64

/-- What `calloc` is asked for; `none` where it is not called. -/
def rawSize (size alignment : Nat) : Option Nat :=
  if kMaximumAllocation < size then none
  else if 2 ^ 64 - 1 - overhead (usedAlignment alignment) < usedSize size then none
  else some (usedSize size + overhead (usedAlignment alignment))

/-- The address of the user block in a raw block. -/
def userOf (raw alignment : Nat) : Nat :=
  let first := (raw + kHeaderBytes + kFrontPadding) % 2 ^ 64
  (first + alignment - 1) % 2 ^ 64 &&& (2 ^ 64 - 1 - (alignment - 1))

def headerOf (user : Nat) : Nat := user - kFrontPadding - kHeaderBytes

/-- `raw` is what `calloc` answers; 0 is null. -/
def hostAlignedAllocate (heap : Heap) (size alignment raw : Nat) : Nat × Heap :=
  match rawSize size alignment with
  | none => (0, heap)
  | some total =>
    if raw = 0 then (0, heap)
    else
      let user := userOf raw (usedAlignment alignment)
      let header := headerOf user
      let heap := heap.calloc raw total
      let heap := (((heap.storeWord header 0 kAllocationMagic).storeWord header 1 raw).storeWord header 2
        (usedSize size)).storeWord
        header 3 (usedSize size)
      (user, { heap with allocations := (user, header) :: heap.allocations.filter fun entry => entry.1 != user })

def hostAllocate (heap : Heap) (size raw : Nat) : Nat × Heap := hostAlignedAllocate heap size 16 raw

/-- Whether a header is one of ours. -/
def intact (heap : Heap) (header : Nat) : Bool := header != 0 && heap.word header 0 == kAllocationMagic

def hostFree (heap : Heap) (pointer : Nat) : Heap :=
  if pointer = 0 then heap
  else
    match findAllocation heap pointer with
    | none => heap
    | some header =>
      let raw := if intact heap header then heap.word header 1 else 0
      let heap := if intact heap header then heap.storeWord header 0 0 else heap
      Heap.free { heap with allocations := heap.allocations.filter fun entry => entry.1 != pointer } raw

def hostUsableSize (heap : Heap) (pointer : Nat) : Nat :=
  match findAllocation heap pointer with
  | none => 0
  | some header => if intact heap header then heap.word header 3 else 0

def hostReallocate (heap : Heap) (pointer size raw : Nat) : Nat × Heap :=
  if pointer = 0 then hostAllocate heap size raw
  else if size = 0 then (0, hostFree heap pointer)
  else
    let copySize :=
      match findAllocation heap pointer with
      | none => 0
      | some header => if intact heap header then min size (heap.word header 3) else 0
    match hostAllocate heap size raw with
    | (replacement, heap) =>
      if replacement = 0 then (0, heap)
      else if copySize ≠ 0 then
        let copied := { heap with memory := copyBlock heap.memory heap.memory ⟨replacement, pointer, copySize⟩ }
        (replacement, hostFree copied pointer)
      else (replacement, heap)

/-! ## Where a user block lies -/

theorem isPowerOfTwo_iff (value : Nat) : isPowerOfTwo value = true ↔ value.isPowerOfTwo := by
  rw [← Nat.ne_zero_and_sub_one_eq_zero_iff_isPowerOfTwo]
  simp [isPowerOfTwo]

theorem usedSize_eq (size : Nat) : usedSize size = max size 1 := by
  unfold usedSize
  split <;> omega

theorem max_two_pow (j k : Nat) : max (2 ^ j) (2 ^ k) = 2 ^ max j k := by
  rcases Nat.le_total j k with h | h
  · rw [Nat.max_eq_right h, Nat.max_eq_right (Nat.pow_le_pow_right (by decide) h)]
  · rw [Nat.max_eq_left h, Nat.max_eq_left (Nat.pow_le_pow_right (by decide) h)]

/-- The alignment that is used is a power of two, and as strict as the one asked for. -/
theorem usedAlignment_pow {alignment : Nat} (h : alignment < 2 ^ 64) :
    ∃ k, k ≤ 63 ∧ usedAlignment alignment = 2 ^ k ∧ (alignment.isPowerOfTwo → alignment ∣ 2 ^ k) ∧
      (¬ alignment.isPowerOfTwo → 16 ∣ 2 ^ k) := by
  unfold usedAlignment
  by_cases hp : alignment.isPowerOfTwo
  · rw [if_pos ((isPowerOfTwo_iff alignment).mpr hp)]
    obtain ⟨j, rfl⟩ := hp
    have hj : j < 64 := (Nat.pow_lt_pow_iff_right (by decide)).mp h
    refine ⟨max j 3, by omega, max_two_pow j 3, fun _ => Nat.pow_dvd_pow 2 (Nat.le_max_left j 3), fun hn => absurd ⟨j, rfl⟩ hn⟩
  · rw [if_neg fun ht => hp ((isPowerOfTwo_iff alignment).mp ht)]
    exact ⟨4, by decide, rfl, fun ht => absurd ht hp, fun _ => by decide⟩

theorem overhead_pow {k : Nat} (hk : k ≤ 63) : overhead (2 ^ k) = 671 + 2 ^ k := by
  have hle : 2 ^ k ≤ 2 ^ 63 := Nat.pow_le_pow_right (by decide) hk
  have hpos := Nat.two_pow_pos k
  unfold overhead kHeaderBytes kFrontPadding kBackPadding
  omega

theorem userOf_pow {raw k : Nat} (hk : k ≤ 63) (h : raw + 160 + 2 ^ k ≤ 2 ^ 64) :
    2 ^ k ∣ userOf raw (2 ^ k) ∧ raw + 160 ≤ userOf raw (2 ^ k) ∧ userOf raw (2 ^ k) < raw + 160 + 2 ^ k := by
  have hpos := Nat.two_pow_pos k
  have hsum : ((raw + kHeaderBytes + kFrontPadding) % 2 ^ 64 + 2 ^ k - 1) % 2 ^ 64 = raw + 160 + 2 ^ k - 1 := by
    unfold kHeaderBytes kFrontPadding
    omega
  have hlt : raw + 160 + 2 ^ k - 1 < 2 ^ 64 := by omega
  have huser : userOf raw (2 ^ k) = (raw + 160 + 2 ^ k - 1) / 2 ^ k * 2 ^ k := by
    unfold userOf
    simp only [hsum]
    exact and_high_mask hlt (by omega)
  have hdiv := Nat.div_add_mod (raw + 160 + 2 ^ k - 1) (2 ^ k)
  have hmod := Nat.mod_lt (raw + 160 + 2 ^ k - 1) hpos
  rw [Nat.mul_comm] at hdiv
  refine ⟨huser ▸ Nat.dvd_mul_left _ _, ?_, ?_⟩ <;> omega

/-- What a client knows of a block: what it asked for, and what `calloc` answered. -/
structure Block where
  user : Nat
  requested : Nat
  alignment : Nat
  raw : Nat
  total : Nat

namespace Block

def header (b : Block) : Nat := headerOf b.user

def size (b : Block) : Nat := usedSize b.requested

/-- The header, the user block and the raw block: start and size. -/
def headerPart (b : Block) : Nat × Nat := (b.header, kHeaderBytes)

def userPart (b : Block) : Nat × Nat := (b.user, b.size)

def rawPart (b : Block) : Nat × Nat := (b.raw, b.total)

structure Placed (b : Block) : Prop where
  raw : b.raw ≠ 0
  first : b.raw + 160 ≤ b.user
  last : b.user + b.size ≤ b.raw + b.total
  space : b.raw + b.total ≤ 2 ^ 64
  powerOfTwo : b.alignment.isPowerOfTwo → b.alignment ∣ b.user
  otherwise : ¬ b.alignment.isPowerOfTwo → 16 ∣ b.user

variable {b : Block}

theorem size_pos (b : Block) : 0 < b.size := by
  rw [size, usedSize_eq]
  omega

theorem Placed.header (h : b.Placed) : b.header + 160 = b.user := by
  have hf := h.first
  unfold Block.header headerOf kFrontPadding kHeaderBytes
  omega

end Block

/-- A block that `calloc` answers has room for the user block behind its header. -/
theorem placed_of_rawSize {size alignment raw total : Nat} (ha : alignment < 2 ^ 64)
    (ht : rawSize size alignment = some total) (hr : raw ≠ 0)
    (hspace : raw + total ≤ 2 ^ 64) : Block.Placed ⟨userOf raw (usedAlignment alignment), size, alignment, raw, total⟩ := by
  obtain ⟨k, hk, hused, hpow, hother⟩ := usedAlignment_pow ha
  have hover := overhead_pow hk
  have htotal : total = usedSize size + overhead (2 ^ k) := by
    rw [rawSize, hused] at ht
    split at ht
    · cases ht
    · split at ht
      · cases ht
      · exact (Option.some.inj ht).symm
  have hroom : raw + 160 + 2 ^ k ≤ 2 ^ 64 := by omega
  obtain ⟨hdvd, hlow, hhigh⟩ := userOf_pow hk hroom
  rw [hused]
  refine ⟨hr, hlow, ?_, hspace, fun hp => (hpow hp).trans hdvd, fun hn => (hother hn).trans hdvd⟩
  show userOf raw (2 ^ k) + usedSize size ≤ raw + total
  omega

end Mocktail.Compat.HostAllocator

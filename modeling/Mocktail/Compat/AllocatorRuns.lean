/-
  Mocktail.Compat.AllocatorRuns — every run of the shared allocator.

  A client calls the allocator in any order and writes into the blocks it has; `live` are
  these, as its own record of the answers says. `Sound` is the invariant: the table and the
  host's live blocks are those of the record, the raw blocks are apart, and each user block
  lies behind a header that still says what was stored in it. A call keeps it, since it
  changes memory only in a fresh raw block, in the user block it copies to and in the header
  of the block it releases (`Sound.allocate`, `Sound.store`, `Sound.free`).

  So in every state that is reached the user blocks are where they should be and apart,
  `usable_size` is what was asked for, a block moves with its contents, and the host gets
  each of its blocks back once, when the user block in it is released (`allocator_sound`).
-/

import Mathlib.Data.List.Perm.Basic
import Mocktail.Compat.HostAllocator

namespace Mocktail.Compat.HostAllocator

open Mocktail.Lib

/-! ## Clients -/

structure World where
  heap : Heap
  live : List Block

/-- `raw` is what `calloc` answers, if it is called. -/
inductive Call where
  | allocate (size raw : Nat)
  | alignedAllocate (size alignment raw : Nat)
  | reallocate (pointer size raw : Nat)
  | free (pointer : Nat)
  | usableSize (pointer : Nat)
  | write (address : Nat) (bytes : List UInt8)

/-- The block that an answer is; null is none. -/
def obtained (answer size alignment raw : Nat) : List Block :=
  if answer = 0 then [] else [⟨answer, size, alignment, raw, (rawSize size alignment).getD 0⟩]

def without (pointer : Nat) (live : List Block) : List Block := live.filter fun b => b.user != pointer

/-- A call of the client, and its record of the blocks. -/
def World.step (world : World) : Call → World
  | .allocate size raw =>
    let answer := hostAllocate world.heap size raw
    ⟨answer.2, obtained answer.1 size 16 raw ++ world.live⟩
  | .alignedAllocate size alignment raw =>
    let answer := hostAlignedAllocate world.heap size alignment raw
    ⟨answer.2, obtained answer.1 size alignment raw ++ world.live⟩
  | .reallocate pointer size raw =>
    let answer := hostReallocate world.heap pointer size raw
    -- a block that moved, or was resized to nothing, is not the client's any more
    let kept := if size = 0 ∨ answer.1 ≠ 0 then without pointer world.live else world.live
    ⟨answer.2, obtained answer.1 size 16 raw ++ kept⟩
  | .free pointer => ⟨hostFree world.heap pointer, without pointer world.live⟩
  | .usableSize _ => world
  | .write address bytes => { world with heap := { world.heap with memory := storeCells world.heap.memory address bytes } }

/-- `calloc` answers null or a block that lies in the address space and apart from its live
    blocks. The alignment is of 64 bits. -/
def Answers (heap : Heap) (size alignment raw : Nat) : Prop :=
  alignment < 2 ^ 64 ∧
    ∀ total, rawSize size alignment = some total → raw ≠ 0 → raw + total ≤ 2 ^ 64 ∧ ∀ block ∈ heap.raws, Apart (raw, total) block

/-- What is promised of a call: by the host of `calloc`, by the client of its writes. -/
def World.Allows (world : World) : Call → Prop
  | .allocate size raw => Answers world.heap size 16 raw
  | .alignedAllocate size alignment raw => Answers world.heap size alignment raw
  | .reallocate _ size raw => Answers world.heap size 16 raw
  | .free _ => True
  | .usableSize _ => True
  | .write address bytes => ∃ b ∈ world.live, CoveredBy (address, bytes.length) b.userPart

/-- The states of the runs that begin with no block. -/
inductive Reached : World → Prop
  | start (memory : Nat → UInt8) : Reached ⟨⟨memory, [], [], [], []⟩, []⟩
  | step {world : World} {call : Call} (h : Reached world) (hcall : world.Allows call) : Reached (world.step call)

/-! ## Headers -/

variable {a alignment header i pointer raw size value : Nat}

theorem Heap.word_congr {heap heap' : Heap}
    (h : ∀ a, header + 8 * i ≤ a → a < header + 8 * i + 8 → heap'.memory a = heap.memory a) :
    heap'.word header i = heap.word header i := by
  unfold Heap.word
  rw [cellsAt_congr fun j hj => h _ (by omega) (by omega)]

theorem Heap.word_storeWord (heap : Heap) (header i : Nat) (hv : value < 2 ^ 64) :
    (heap.storeWord header i value).word header i = value := by
  have hcells := cellsAt_storeCells heap.memory (header + 8 * i) (leBytes 8 value)
  rw [length_leBytes] at hcells
  show leValue (cellsAt (storeCells heap.memory (header + 8 * i) (leBytes 8 value)) (header + 8 * i) 8) = value
  rw [hcells, leValue_leBytes]
  exact Nat.mod_eq_of_lt hv

theorem Heap.storeWord_outside (heap : Heap) (h : a < header + 8 * i ∨ header + 8 * i + 8 ≤ a) :
    (heap.storeWord header i value).memory a = heap.memory a :=
  storeCells_outside (by rwa [length_leBytes])

@[simp] theorem Heap.storeWord_allocations (heap : Heap) (header i value : Nat) :
    (heap.storeWord header i value).allocations = heap.allocations := rfl

@[simp] theorem Heap.storeWord_raws (heap : Heap) (header i value : Nat) : (heap.storeWord header i value).raws = heap.raws := rfl

@[simp] theorem Heap.storeWord_handed (heap : Heap) (header i value : Nat) :
    (heap.storeWord header i value).handed = heap.handed := rfl

@[simp] theorem Heap.storeWord_freed (heap : Heap) (header i value : Nat) :
    (heap.storeWord header i value).freed = heap.freed := rfl

theorem Heap.word_storeWord_ne (heap : Heap) (header value : Nat) {j : Nat} (h : i ≠ j) :
    (heap.storeWord header i value).word header j = heap.word header j :=
  Heap.word_congr fun a hlow hhigh => heap.storeWord_outside (by omega)

/-- The header says what was stored in it. -/
structure Block.Marked (b : Block) (heap : Heap) : Prop where
  magic : heap.word b.header 0 = kAllocationMagic
  raw : heap.word b.header 1 = b.raw
  size : heap.word b.header 3 = b.size

variable {heap heap' : Heap} {live : List Block} {b c : Block}

theorem Block.Marked.congr (h : b.Marked heap) (hm : ∀ a, b.header ≤ a → a < b.header + 32 → heap'.memory a = heap.memory a) :
    b.Marked heap' :=
  ⟨(Heap.word_congr fun a hl hh => hm a (by omega) (by omega)).trans h.magic,
    (Heap.word_congr fun a hl hh => hm a (by omega) (by omega)).trans h.raw,
    (Heap.word_congr fun a hl hh => hm a (by omega) (by omega)).trans h.size⟩

namespace Block

theorem Placed.headerPart_covered (h : b.Placed) : CoveredBy b.headerPart b.rawPart := by
  have hh := h.header
  have hf := h.first
  have hl := h.last
  unfold CoveredBy headerPart rawPart kHeaderBytes
  dsimp only
  omega

theorem Placed.userPart_covered (h : b.Placed) : CoveredBy b.userPart b.rawPart := by
  have hf := h.first
  have hl := h.last
  unfold CoveredBy userPart rawPart
  dsimp only
  omega

theorem Placed.own (h : b.Placed) : Apart b.userPart b.headerPart := by
  have hh := h.header
  unfold Apart userPart headerPart kHeaderBytes
  dsimp only
  omega

theorem Placed.user_ne_zero (h : b.Placed) : b.user ≠ 0 := by
  have hf := h.first
  omega

/-- Blocks whose raw blocks are apart have user blocks at two addresses. -/
theorem Placed.user_ne (hb : b.Placed) (hc : c.Placed) (h : Apart b.rawPart c.rawPart) : b.user ≠ c.user ∧ b.raw ≠ c.raw := by
  have hapart := h.covered hb.userPart_covered hc.userPart_covered
  have hb' := b.size_pos
  have hc' := c.size_pos
  have hf := hb.first
  have hl := hb.last
  have hf' := hc.first
  have hl' := hc.last
  unfold Apart userPart rawPart at *
  dsimp only at *
  omega

end Block

/-! ## The invariant -/

structure Sound (heap : Heap) (live : List Block) : Prop where
  table : heap.allocations = live.map fun b => (b.user, b.header)
  raws : heap.raws = live.map Block.rawPart
  placed : ∀ b ∈ live, b.Placed
  marked : ∀ b ∈ live, b.Marked heap
  apart : live.Pairwise fun b c => Apart b.rawPart c.rawPart
  handed : heap.handed.Perm (heap.freed ++ live.map Block.raw)

theorem lookup_user (live : List Block) (pointer : Nat) :
    (live.map fun b => (b.user, b.header)).lookup pointer = if pointer ∈ live.map Block.user then some (headerOf pointer)
      else none := by
  induction live with
  | nil => rfl
  | cons b live ih =>
    rw [List.map_cons, List.lookup_cons, ih]
    by_cases h : pointer = b.user
    · subst h
      simp [Block.header]
    · rw [beq_eq_false_iff_ne.mpr h]
      simp [h]

variable {pre post : List Block}

namespace Sound

theorem find_live (h : Sound heap live) (hb : b ∈ live) : findAllocation heap b.user = some b.header := by
  rw [findAllocation, h.table, lookup_user, if_pos (List.mem_map_of_mem hb)]
  rfl

theorem find_none (h : Sound heap live) (hn : ∀ b ∈ live, b.user ≠ pointer) : findAllocation heap pointer = none := by
  rw [findAllocation, h.table, lookup_user, if_neg]
  intro hmem
  obtain ⟨b, hb, rfl⟩ := List.mem_map.mp hmem
  exact hn b hb rfl

theorem intact (h : Sound heap live) (hb : b ∈ live) : HostAllocator.intact heap b.header = true := by
  have hf := (h.placed b hb).first
  have hh := (h.placed b hb).header
  have hr := (h.placed b hb).raw
  rw [HostAllocator.intact, (h.marked b hb).magic, bne_iff_ne.mpr (by omega : b.header ≠ 0)]
  rfl

theorem usable (h : Sound heap live) (hb : b ∈ live) : hostUsableSize heap b.user = b.size := by
  rw [hostUsableSize, h.find_live hb]
  dsimp only
  rw [if_pos (h.intact hb), (h.marked b hb).size]

theorem apart_of_ne (h : Sound heap live) (hb : b ∈ live) (hc : c ∈ live) (hne : b ≠ c) : Apart b.rawPart c.rawPart := by
  have : Std.Symm fun b c : Block => Apart b.rawPart c.rawPart := ⟨fun _ _ => Apart.symm⟩
  exact h.apart.forall hb hc hne

theorem user_header (h : Sound heap live) (hb : b ∈ live) (hc : c ∈ live) : Apart b.userPart c.headerPart := by
  by_cases he : b = c
  · exact he ▸ (h.placed b hb).own
  · exact (h.apart_of_ne hb hc he).covered (h.placed b hb).userPart_covered (h.placed c hc).headerPart_covered

theorem others (h : Sound heap (pre ++ b :: post)) : ∀ c ∈ pre ++ post, Apart c.rawPart b.rawPart := by
  intro c hc
  obtain ⟨-, htail, hcross⟩ := List.pairwise_append.mp h.apart
  rcases List.mem_append.mp hc with hc | hc
  · exact hcross c hc b List.mem_cons_self
  · exact ((List.pairwise_cons.mp htail).1 c hc).symm

theorem mem_others (hc : c ∈ pre ++ post) : c ∈ pre ++ b :: post :=
  (List.Sublist.append_left (List.sublist_cons_self b post) pre).mem hc

theorem others_ne (h : Sound heap (pre ++ b :: post)) : ∀ c ∈ pre ++ post, c.user ≠ b.user ∧ c.raw ≠ b.raw :=
  fun c hc => (h.placed c (mem_others hc)).user_ne (h.placed b (by simp)) (h.others c hc)

end Sound

theorem filter_split {α : Type} {key : α → Nat} {pre post : List α} {x : α} (h : ∀ y ∈ pre ++ post, key y ≠ key x) :
    (pre ++ x :: post).filter (fun y => key y != key x) = pre ++ post := by
  have hkeep : ∀ l : List α, (∀ y ∈ l, y ∈ pre ++ post) → l.filter (fun y => key y != key x) = l := by
    intro l hl
    exact List.filter_eq_self.mpr fun y hy => bne_iff_ne.mpr (h y (hl y hy))
  rw [List.filter_append, List.filter_cons_of_neg (by simp), hkeep pre fun y hy => List.mem_append_left _ hy,
    hkeep post fun y hy => List.mem_append_right _ hy]

theorem Sound.without_user (h : Sound heap (pre ++ b :: post)) : without b.user (pre ++ b :: post) = pre ++ post :=
  @filter_split _ Block.user _ _ _ fun c hc => (h.others_ne c hc).1

theorem without_none (hn : ∀ b ∈ live, b.user ≠ pointer) : without pointer live = live :=
  List.filter_eq_self.mpr fun b hb => bne_iff_ne.mpr (hn b hb)

/-! ## Release -/

/-- The heap after the release of a live block. -/
def released (heap : Heap) (b : Block) (rest : List Block) : Heap where
  memory := storeCells heap.memory (b.header + 8 * 0) (leBytes 8 0)
  allocations := rest.map fun c => (c.user, c.header)
  raws := rest.map Block.rawPart
  handed := heap.handed
  freed := heap.freed ++ [b.raw]

theorem Sound.hostFree_live (h : Sound heap (pre ++ b :: post)) : hostFree heap b.user = released heap b (pre ++ post) := by
  have hb : b ∈ pre ++ b :: post := by simp
  have hplaced := h.placed b hb
  have htable : heap.allocations.filter (fun entry => entry.1 != b.user) = (pre ++ post).map fun c => (c.user, c.header) := by
    rw [h.table, List.filter_map, ← h.without_user]
    rfl
  have hraws : heap.raws.filter (fun block => block.1 != b.raw) = (pre ++ post).map Block.rawPart := by
    rw [h.raws, List.filter_map]
    exact congrArg _ (filter_split fun c hc => (h.others_ne c hc).2)
  unfold hostFree
  rw [if_neg hplaced.user_ne_zero, h.find_live hb]
  dsimp only
  rw [if_pos (h.intact hb), if_pos (h.intact hb), (h.marked b hb).raw, Heap.free, if_neg hplaced.raw,
    Heap.storeWord_allocations, Heap.storeWord_raws, htable, hraws]
  unfold Heap.storeWord released
  dsimp only

theorem Sound.hostFree_none (h : Sound heap live) (hn : ∀ b ∈ live, b.user ≠ pointer) : hostFree heap pointer = heap := by
  unfold hostFree
  split
  · rfl
  · rw [h.find_none hn]

/-- A release changes no byte outside the header. -/
theorem released_memory (heap : Heap) (b : Block) (rest : List Block) (ha : a < b.header ∨ b.header + 32 ≤ a) :
    (released heap b rest).memory a = heap.memory a := by
  unfold released
  dsimp only
  apply storeCells_outside
  rw [length_leBytes]
  omega

theorem Sound.released (h : Sound heap (pre ++ b :: post)) : Sound (released heap b (pre ++ post)) (pre ++ post) where
  table := rfl
  raws := rfl
  placed := fun c hc => h.placed c (mem_others hc)
  marked := by
    intro c hc
    refine (h.marked c (mem_others hc)).congr fun a hlow hhigh => released_memory heap b _ ?_
    have hapart := (h.others c hc).covered (h.placed c (mem_others hc)).headerPart_covered
      (h.placed b (by simp)).headerPart_covered
    unfold Apart Block.headerPart kHeaderBytes at hapart
    dsimp only at hapart
    omega
  apart := h.apart.sublist (List.Sublist.append_left (List.sublist_cons_self b post) pre)
  handed := by
    have hmiddle : ((pre ++ b :: post).map Block.raw).Perm (b.raw :: (pre ++ post).map Block.raw) :=
      List.perm_middle.map Block.raw
    unfold HostAllocator.released
    dsimp only
    rw [List.append_assoc]
    exact h.handed.trans (hmiddle.append_left heap.freed)

theorem Sound.free (h : Sound heap live) (pointer : Nat) : Sound (hostFree heap pointer) (without pointer live) := by
  by_cases hlive : ∃ b ∈ live, b.user = pointer
  · obtain ⟨b, hb, rfl⟩ := hlive
    obtain ⟨pre, post, rfl⟩ := List.append_of_mem hb
    rw [h.hostFree_live, h.without_user]
    exact h.released
  · have hn : ∀ b ∈ live, b.user ≠ pointer := fun b hb he => hlive ⟨b, hb, he⟩
    rw [h.hostFree_none hn, without_none hn]
    exact h

/-! ## Writes -/

/-- What is stored in a user block touches no header. -/
theorem Sound.store (h : Sound heap live) (hb : b ∈ live) {memory : Nat → UInt8}
    (hm : ∀ a, a < b.user ∨ b.user + b.size ≤ a → memory a = heap.memory a) :
    Sound { heap with memory := memory } live where
  table := h.table
  raws := h.raws
  placed := h.placed
  marked := by
    intro c hc
    refine (h.marked c hc).congr fun a hlow hhigh => hm a ?_
    have hapart := h.user_header hb hc
    unfold Apart Block.userPart Block.headerPart kHeaderBytes at hapart
    dsimp only at hapart
    omega
  apart := h.apart
  handed := h.handed

/-! ## Allocation -/

/-- A header stored in memory. -/
def headed (heap : Heap) (b : Block) : Heap :=
  (((heap.storeWord b.header 0 kAllocationMagic).storeWord b.header 1 b.raw).storeWord b.header 2 b.size).storeWord
    b.header 3 b.size

theorem marked_headed (h : b.Placed) (heap : Heap) : b.Marked (headed heap b) := by
  have hf := h.first
  have hl := h.last
  have hspace := h.space
  have hpos := b.size_pos
  unfold headed
  constructor
  · rw [Heap.word_storeWord_ne _ _ _ (by decide), Heap.word_storeWord_ne _ _ _ (by decide),
      Heap.word_storeWord_ne _ _ _ (by decide), Heap.word_storeWord _ _ _ (by decide)]
  · rw [Heap.word_storeWord_ne _ _ _ (by decide), Heap.word_storeWord_ne _ _ _ (by decide), Heap.word_storeWord _ _ _ (by omega)]
  · rw [Heap.word_storeWord _ _ _ (by omega)]

theorem headed_memory (heap : Heap) (b : Block) (ha : a < b.header ∨ b.header + 32 ≤ a) :
    (headed heap b).memory a = heap.memory a := by
  unfold headed
  rw [Heap.storeWord_outside _ (by omega), Heap.storeWord_outside _ (by omega), Heap.storeWord_outside _ (by omega),
    Heap.storeWord_outside _ (by omega)]

/-- The heap with a new block. -/
structure Block.Added (b : Block) (heap heap' : Heap) : Prop where
  memory : ∀ a, a < b.raw ∨ b.raw + b.total ≤ a → heap'.memory a = heap.memory a
  marked : b.Marked heap'
  table : heap'.allocations = (b.user, b.header) :: heap.allocations.filter fun entry => entry.1 != b.user
  raws : heap'.raws = b.rawPart :: heap.raws
  handed : heap'.handed = heap.handed ++ [b.raw]
  freed : heap'.freed = heap.freed

@[simp] theorem headed_raws (heap : Heap) (b : Block) : (headed heap b).raws = heap.raws := by simp [headed]

@[simp] theorem headed_handed (heap : Heap) (b : Block) : (headed heap b).handed = heap.handed := by simp [headed]

@[simp] theorem headed_freed (heap : Heap) (b : Block) : (headed heap b).freed = heap.freed := by simp [headed]

/-- The heap an allocation leaves. -/
def grown (heap : Heap) (b : Block) : Heap :=
  { headed (heap.calloc b.raw b.total) b with
    allocations := (b.user, b.header) :: heap.allocations.filter fun entry => entry.1 != b.user }

theorem hostAlignedAllocate_eq (heap : Heap) (ht : rawSize b.requested b.alignment = some b.total) (hr : b.raw ≠ 0)
    (hu : userOf b.raw (usedAlignment b.alignment) = b.user) :
    hostAlignedAllocate heap b.requested b.alignment b.raw = (b.user, grown heap b) := by
  unfold hostAlignedAllocate
  rw [ht]
  dsimp only
  rw [if_neg hr, hu]
  unfold grown headed Block.header Block.size Heap.calloc
  simp only [Heap.storeWord_allocations]

theorem added_grown (h : b.Placed) (heap : Heap) : b.Added heap (grown heap b) := by
  unfold grown
  refine ⟨?_, ?_, ?_, ?_, ?_, ?_⟩ <;> dsimp only
  · intro a ha
    have hf := h.first
    have hl := h.last
    have hh := h.header
    rw [headed_memory _ _ (by omega)]
    exact storeCells_outside (by rwa [List.length_replicate])
  · refine (marked_headed h (heap.calloc b.raw b.total)).congr fun _ _ _ => ?_
    dsimp only
  · rw [headed_raws]
    rfl
  · rw [headed_handed]
    rfl
  · rw [headed_freed]
    rfl

/-- An aligned allocation: null and nothing changed, or a new block where it should be. -/
theorem hostAlignedAllocate_cases (hanswer : Answers heap size alignment raw) :
    hostAlignedAllocate heap size alignment raw = (0, heap) ∨
      ∃ b heap', hostAlignedAllocate heap size alignment raw = (b.user, heap') ∧ obtained b.user size alignment raw = [b] ∧
        b.requested = size ∧
        b.Placed ∧ (∀ block ∈ heap.raws, Apart b.rawPart block) ∧ b.Added heap heap' := by
  obtain ⟨ha, hfresh⟩ := hanswer
  by_cases hr : raw = 0
  · left
    unfold hostAlignedAllocate
    cases rawSize size alignment with
    | none => rfl
    | some total =>
      dsimp only
      rw [if_pos hr]
  · cases ht : rawSize size alignment with
    | none =>
      left
      unfold hostAlignedAllocate
      rw [ht]
    | some total =>
      right
      obtain ⟨hspace, hapart⟩ := hfresh total ht hr
      have hplaced := placed_of_rawSize ha ht hr hspace
      have heq := @hostAlignedAllocate_eq ⟨userOf raw (usedAlignment alignment), size, alignment, raw, total⟩ heap ht hr rfl
      refine ⟨_, _, heq, ?_, rfl, hplaced, hapart, added_grown hplaced heap⟩
      rw [obtained, if_neg hplaced.user_ne_zero, ht]
      rfl

theorem Sound.added (h : Sound heap live) (hp : b.Placed) (hb : ∀ block ∈ heap.raws, Apart b.rawPart block)
    (ha : b.Added heap heap') :
    Sound heap' (b :: live) := by
  have hapart : ∀ c ∈ live, Apart b.rawPart c.rawPart := by
    intro c hc
    exact hb _ (h.raws ▸ List.mem_map_of_mem hc)
  have hother : ∀ c ∈ live, c.user ≠ b.user := fun c hc => (hp.user_ne (h.placed c hc) (hapart c hc)).1.symm
  refine ⟨?_, ?_, List.forall_mem_cons.mpr ⟨hp, h.placed⟩, List.forall_mem_cons.mpr ⟨ha.marked, ?_⟩,
    List.pairwise_cons.mpr ⟨hapart, h.apart⟩, ?_⟩
  · rw [ha.table, List.filter_eq_self.mpr, h.table]
    · rfl
    · rw [h.table]
      intro entry he
      obtain ⟨c, hc, rfl⟩ := List.mem_map.mp he
      exact bne_iff_ne.mpr (hother c hc)
  · rw [ha.raws, h.raws]
    rfl
  · intro c hc
    refine (h.marked c hc).congr fun a hlow hhigh => ha.memory a ?_
    have hcover := (h.placed c hc).headerPart_covered
    have hdisjoint := hapart c hc
    unfold Apart CoveredBy Block.headerPart Block.rawPart kHeaderBytes at *
    dsimp only at *
    omega
  · rw [ha.handed, ha.freed, List.map_cons]
    have hmiddle : (heap.freed ++ b.raw :: live.map Block.raw).Perm (b.raw :: (heap.freed ++ live.map Block.raw)) :=
      List.perm_middle
    exact (List.perm_append_singleton b.raw heap.handed).trans ((h.handed.cons b.raw).trans hmiddle.symm)

theorem Sound.allocate (h : Sound heap live) (hanswer : Answers heap size alignment raw) :
    Sound (hostAlignedAllocate heap size alignment raw).2
      (obtained (hostAlignedAllocate heap size alignment raw).1 size alignment raw ++ live) := by
  rcases hostAlignedAllocate_cases hanswer with he | ⟨b, heap', he, hob, -, hp, hapart, hadded⟩
  · rw [he]
    exact h
  · rw [he]
    show Sound heap' (obtained b.user size alignment raw ++ live)
    rw [hob]
    exact h.added hp hapart hadded

/-! ## Reallocation -/

/-- The heap with the contents of a block copied to a new one. -/
def copied (heap : Heap) (b new : Block) : Heap :=
  { heap with memory := copyBlock heap.memory heap.memory ⟨new.user, b.user, min new.requested b.size⟩ }

theorem hostReallocate_none (hp : pointer ≠ 0) (hs : size ≠ 0) (hn : findAllocation heap pointer = none) :
    hostReallocate heap pointer size raw = hostAllocate heap size raw := by
  unfold hostReallocate
  rw [if_neg hp, if_neg hs, hn]
  rcases hostAllocate heap size raw with ⟨replacement, after⟩
  dsimp only
  by_cases hr : replacement = 0
  · rw [if_pos hr, hr]
  · rw [if_neg hr, if_neg (by simp)]

/-- A live block is left alone, or copied and released. -/
theorem Sound.hostReallocate_cases (h : Sound heap live) (hb : b ∈ live) (hs : size ≠ 0) (hanswer : Answers heap size 16 raw) :
    hostReallocate heap b.user size raw = (0, heap) ∨
      ∃ new heap', hostReallocate heap b.user size raw = (new.user, hostFree (copied heap' b new) b.user) ∧
        obtained new.user size 16 raw = [new] ∧
        new.requested = size ∧ new.Placed ∧ (∀ block ∈ heap.raws, Apart new.rawPart block) ∧ new.Added heap heap' := by
  have hcopy : min size b.size ≠ 0 := by
    have hpos := b.size_pos
    omega
  unfold hostReallocate
  rw [if_neg (h.placed b hb).user_ne_zero, if_neg hs, h.find_live hb]
  dsimp only
  rw [if_pos (h.intact hb), (h.marked b hb).size]
  rcases hostAlignedAllocate_cases hanswer with he | ⟨new, heap', he, hob, hreq, hp, hapart, hadded⟩
  · left
    rw [hostAllocate, he]
    rfl
  · right
    refine ⟨new, heap', ?_, hob, hreq, hp, hapart, hadded⟩
    rw [hostAllocate, he]
    dsimp only
    rw [if_neg hp.user_ne_zero, if_pos hcopy, copied, hreq]

section Moved

variable {new : Block}

theorem Sound.copied (h : Sound heap' (new :: live)) (b : Block) (hs : new.requested ≠ 0) :
    Sound (copied heap' b new) (new :: live) := by
  refine h.store List.mem_cons_self fun a ha => copyBlock_outside ?_
  have hsize : new.size = new.requested := by
    rw [Block.size, usedSize, if_neg hs]
  dsimp only
  omega

theorem without_cons (hne : new.user ≠ b.user) : without b.user (new :: live) = new :: without b.user live :=
  List.filter_cons_of_pos (bne_iff_ne.mpr hne)

/-- What was in the old block is in the new one. -/
theorem copied_memory (hb : b.Placed) (hapart : Apart new.rawPart b.rawPart) (hadded : new.Added heap heap')
    (hi : i < min new.requested b.size) : (copied heap' b new).memory (new.user + i) = heap.memory (b.user + i) := by
  have hcover := hb.userPart_covered
  unfold copied
  dsimp only
  rw [copyBlock_inside (by exact hi)]
  dsimp only
  apply hadded.memory
  unfold Apart CoveredBy Block.userPart Block.rawPart at *
  dsimp only at *
  omega

end Moved

theorem Sound.reallocate (h : Sound heap live) (hanswer : Answers heap size 16 raw) :
    Sound (hostReallocate heap pointer size raw).2 (obtained (hostReallocate heap pointer size raw).1 size 16 raw ++
      if size = 0 ∨ (hostReallocate heap pointer size raw).1 ≠ 0 then without pointer live else live) := by
  by_cases hlive : ∃ b ∈ live, b.user = pointer
  · obtain ⟨b, hb, rfl⟩ := hlive
    by_cases hs : size = 0
    · rw [if_pos (.inl hs), hostReallocate, if_neg (h.placed b hb).user_ne_zero, if_pos hs]
      exact h.free b.user
    · rcases h.hostReallocate_cases hb hs hanswer with he | ⟨new, heap', he, hob, hreq, hp, hapart, hadded⟩
      · rw [he, if_neg (by simp [hs])]
        exact h
      · have hne : new.user ≠ b.user := (hp.user_ne (h.placed b hb) (hapart _ (h.raws ▸ List.mem_map_of_mem hb))).1
        rw [he, if_pos (.inr hp.user_ne_zero)]
        dsimp only
        rw [hob, List.singleton_append, ← without_cons hne]
        exact ((h.added hp hapart hadded).copied b (hreq ▸ hs)).free b.user
  · have hn : ∀ b ∈ live, b.user ≠ pointer := fun b hb he => hlive ⟨b, hb, he⟩
    rw [without_none hn, ite_self]
    by_cases hp : pointer = 0
    · rw [hostReallocate, if_pos hp]
      exact h.allocate hanswer
    · by_cases hs : size = 0
      · rw [hostReallocate, if_neg hp, if_pos hs, h.hostFree_none hn]
        exact h
      · rw [hostReallocate_none hp hs (h.find_none hn)]
        exact h.allocate hanswer

/-! ## Runs -/

theorem Sound.step {world : World} {call : Call} (h : Sound world.heap world.live) (hcall : world.Allows call) :
    Sound (world.step call).heap (world.step call).live := by
  cases call with
  | allocate size raw => exact h.allocate hcall
  | alignedAllocate size alignment raw => exact h.allocate hcall
  | reallocate pointer size raw => exact h.reallocate hcall
  | free pointer => exact h.free pointer
  | usableSize pointer => exact h
  | write address bytes =>
    obtain ⟨b, hb, hcover⟩ := hcall
    refine h.store hb fun a ha => storeCells_outside ?_
    unfold CoveredBy Block.userPart at hcover
    dsimp only at hcover
    omega

theorem Reached.sound {world : World} (h : Reached world) : Sound world.heap world.live := by
  induction h with
  | start memory => exact ⟨rfl, rfl, List.forall_mem_nil _, List.forall_mem_nil _, List.Pairwise.nil, List.Perm.refl []⟩
  | step _ hcall ih => exact ih.step hcall

/-- The user block is in the table no more, and its raw block went back to the host. -/
def Released (before after : Heap) (b : Block) : Prop :=
  findAllocation after b.user = none ∧ after.freed = before.freed ++ [b.raw]

theorem Sound.hostFree_released (h : Sound heap live) (hb : b ∈ live) : Released heap (hostFree heap b.user) b := by
  obtain ⟨pre, post, rfl⟩ := List.append_of_mem hb
  have hafter := h.free b.user
  refine ⟨hafter.find_none ?_, ?_⟩
  · rw [h.without_user]
    exact fun c hc => (h.others_ne c hc).1
  · rw [h.hostFree_live, HostAllocator.released]

/-- A byte of another user block outlives a release. -/
theorem Sound.hostFree_memory (h : Sound heap live) (hb : b ∈ live) (hc : c ∈ live) (hi : i < c.size) :
    (hostFree heap b.user).memory (c.user + i) = heap.memory (c.user + i) := by
  have hapart := h.user_header hc hb
  obtain ⟨pre, post, rfl⟩ := List.append_of_mem hb
  rw [h.hostFree_live]
  apply released_memory
  unfold Apart Block.userPart Block.headerPart kHeaderBytes at hapart
  dsimp only at hapart
  omega

/-- A live block resized to something. -/
structure Resized (before : Heap) (b : Block) (size : Nat) (answer : Nat × Heap) : Prop where
  kept : ∀ i < min (hostUsableSize before b.user) size, answer.1 ≠ 0 → answer.2.memory (answer.1 + i) = before.memory (b.user + i)
  released : answer.1 ≠ 0 ↔ Released before answer.2 b
  refused : answer.1 = 0 → answer.2 = before

theorem Sound.resized (h : Sound heap live) (hb : b ∈ live) (hs : size ≠ 0) (hanswer : Answers heap size 16 raw) :
    Resized heap b size (hostReallocate heap b.user size raw) := by
  rcases h.hostReallocate_cases hb hs hanswer with he | ⟨new, heap', he, -, hreq, hp, hapart, hadded⟩
  · rw [he]
    refine ⟨fun i _ hne => absurd rfl hne, ⟨fun hne => absurd rfl hne, fun hr => ?_⟩, fun _ => rfl⟩
    have hlength := congrArg List.length hr.2
    simp at hlength
  · have hdisjoint := hapart _ (h.raws ▸ List.mem_map_of_mem hb)
    have hsound := (h.added hp hapart hadded).copied b (hreq ▸ hs)
    have hmem : b ∈ new :: live := List.mem_cons_of_mem _ hb
    have hsize : new.size = size := by
      rw [Block.size, usedSize, if_neg (hreq ▸ hs), hreq]
    rw [he]
    refine ⟨fun i hi _ => ?_, ⟨fun _ => ?_, fun _ => hp.user_ne_zero⟩, fun hz => absurd hz hp.user_ne_zero⟩
    · rw [h.usable hb] at hi
      have hcopied := copied_memory (h.placed b hb) hdisjoint hadded (show i < min new.requested b.size by omega)
      rw [← hcopied]
      exact hsound.hostFree_memory hmem List.mem_cons_self (by omega)
    · obtain ⟨htable, hfreed⟩ := hsound.hostFree_released hmem
      exact ⟨htable, hfreed.trans (by rw [show (HostAllocator.copied heap' b new).freed = heap'.freed from rfl, hadded.freed])⟩

/-- What the allocator promises in a state. -/
structure Guarantees (world : World) : Prop where
  aligned : ∀ b ∈ world.live, (b.alignment.isPowerOfTwo → b.alignment ∣ b.user) ∧ (¬ b.alignment.isPowerOfTwo → 16 ∣ b.user)
  /-- The raw block is one of the host's, the header is where the table has it, and both it
      and the user block lie in the raw block. -/
  contained : ∀ b ∈ world.live, b.rawPart ∈ world.heap.raws ∧ findAllocation world.heap b.user = some b.header ∧
    CoveredBy b.headerPart b.rawPart ∧ CoveredBy b.userPart b.rawPart
  headers : ∀ b ∈ world.live, ∀ c ∈ world.live, Apart b.userPart c.headerPart
  users : world.live.Pairwise fun b c => Apart b.userPart c.userPart
  usable : ∀ b ∈ world.live, b.size = max b.requested 1 ∧ hostUsableSize world.heap b.user = max b.requested 1
  resized : ∀ b ∈ world.live, ∀ size raw, size ≠ 0 → world.Allows (.reallocate b.user size raw) →
    Resized world.heap b size (hostReallocate world.heap b.user size raw)
  resizedToZero : ∀ b ∈ world.live, ∀ raw,
    (hostReallocate world.heap b.user 0 raw).1 = 0 ∧ Released world.heap (hostReallocate world.heap b.user 0 raw).2 b
  released : ∀ b ∈ world.live, Released world.heap (hostFree world.heap b.user) b
  /-- Each block that the host gave out is a live one's or was given back, and not twice. -/
  once : world.heap.handed.Perm (world.heap.freed ++ world.live.map Block.raw) ∧ (world.live.map Block.raw).Nodup
  ignored : ∀ pointer, (∀ b ∈ world.live, b.user ≠ pointer) → hostFree world.heap pointer = world.heap ∧
    hostUsableSize world.heap pointer = 0

/-- Every run of a client that writes only in its blocks, with a `calloc` that answers fresh
    blocks. -/
theorem allocator_sound {world : World} (h : Reached world) : Guarantees world := by
  have hs := h.sound
  refine ⟨?_, ?_, ?_, ?_, ?_, ?_, ?_, ?_, ⟨hs.handed, ?_⟩, ?_⟩
  · exact fun b hb => ⟨(hs.placed b hb).powerOfTwo, (hs.placed b hb).otherwise⟩
  · intro b hb
    refine ⟨?_, hs.find_live hb, (hs.placed b hb).headerPart_covered, (hs.placed b hb).userPart_covered⟩
    rw [hs.raws]
    exact List.mem_map_of_mem hb
  · exact fun b hb c hc => hs.user_header hb hc
  · refine hs.apart.imp_of_mem fun {b c} hb hc hapart => ?_
    exact hapart.covered (hs.placed b hb).userPart_covered (hs.placed c hc).userPart_covered
  · exact fun b hb => ⟨usedSize_eq b.requested, (hs.usable hb).trans (usedSize_eq b.requested)⟩
  · exact fun b hb size raw hne hanswer => hs.resized hb hne hanswer
  · intro b hb raw
    rw [hostReallocate, if_neg (hs.placed b hb).user_ne_zero, if_pos rfl]
    exact ⟨rfl, hs.hostFree_released hb⟩
  · exact fun b hb => hs.hostFree_released hb
  · refine List.pairwise_map.mpr (hs.apart.imp_of_mem fun {b c} hb hc hapart => ?_)
    exact ((hs.placed b hb).user_ne (hs.placed c hc) hapart).2
  · intro pointer hn
    refine ⟨hs.hostFree_none hn, ?_⟩
    rw [hostUsableSize, hs.find_none hn]

theorem allocator_sound_moved :
    let world := ((World.mk ⟨fun _ => 7, [], [], [], []⟩ []).step (.alignedAllocate 5 64 4096)).step (.reallocate 4288 3 8192)
    world.live.map Block.user = [8352] ∧ world.heap.freed = [4096] ∧ Guarantees world := by
  refine ⟨by decide +kernel, by decide +kernel, allocator_sound (.step (.step (.start _) ⟨by decide, ?_⟩) ⟨by decide, ?_⟩)⟩
  · rintro total ht -
    obtain rfl : 740 = total := Option.some.inj (Eq.trans (by decide +kernel) ht)
    exact ⟨by decide, List.forall_mem_nil _⟩
  · rintro total ht -
    obtain rfl : 690 = total := Option.some.inj (Eq.trans (by decide +kernel) ht)
    have hraws : ((World.mk ⟨fun _ => 7, [], [], [], []⟩ []).step (.alignedAllocate 5 64 4096)).heap.raws =
        [(4096, 740)] := by decide +kernel
    refine ⟨by decide, ?_⟩
    rw [hraws, List.forall_mem_singleton]
    exact .inr (by decide)

end Mocktail.Compat.HostAllocator

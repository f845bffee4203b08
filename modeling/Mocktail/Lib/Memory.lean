/-
  Mocktail.Lib.Memory — a memory of cells, and blocks copied into it and stored in it.

  A memory is a function from addresses. `copyBlock` is `memcpy` from a second memory,
  `copyAll` a list of such calls. Where the targets of the calls are disjoint, each holds its
  own block in the end (`copyAll_at`), and what none of them covers is as it was
  (`copyAll_outside`). `cellsAt` reads a block and `storeCells` stores one that is given as a
  list; `storeBlocks` stores several (`storeBlocks_ascending`, `storeBlocks_outside`). Numbers
  are in a memory of bytes low byte first (`leBytes`, `leValue`). A segment is a start and a
  size; those `CoveredBy` segments that are `Apart` are apart.
-/

import Mathlib.Algebra.Ring.Nat
import Mathlib.Data.List.Pairwise

namespace Mocktail.Lib

variable {β : Type}

/-! ## Copied blocks -/

/-- `memcpy(target, from, size)`. -/
structure BlockCopy where
  target : Nat
  start : Nat
  size : Nat
  deriving DecidableEq, Repr

def copyBlock (source memory : Nat → β) (copy : BlockCopy) : Nat → β := fun a =>
  if copy.target ≤ a ∧ a < copy.target + copy.size then source (copy.start + (a - copy.target)) else memory a

def copyAll (source memory : Nat → β) (copies : List BlockCopy) : Nat → β := copies.foldl (copyBlock source) memory

variable {source memory : Nat → β} {copy : BlockCopy} {copies : List BlockCopy} {a : Nat} {i n target : Nat}

theorem copyBlock_inside (hi : i < copy.size) : copyBlock source memory copy (copy.target + i) = source (copy.start + i) := by
  unfold copyBlock
  rw [if_pos (by omega), Nat.add_sub_cancel_left]

theorem copyBlock_outside (h : a < copy.target ∨ copy.target + copy.size ≤ a) : copyBlock source memory copy a = memory a :=
  if_neg (by omega)

theorem copyAll_append (more : List BlockCopy) :
    copyAll source memory (copies ++ more) = copyAll source (copyAll source memory copies) more := by
  simp [copyAll]

theorem copyAll_outside (h : ∀ copy ∈ copies, a < copy.target ∨ copy.target + copy.size ≤ a) :
    copyAll source memory copies a = memory a := by
  induction copies generalizing memory with
  | nil => rfl
  | cons copy copies ih =>
    show copyAll source (copyBlock source memory copy) copies a = memory a
    rw [ih fun other ho => h other (List.mem_cons_of_mem _ ho), copyBlock_outside (h copy List.mem_cons_self)]

/-- What the last call that covers an address has copied there. -/
theorem copyAll_at {pre post : List BlockCopy} (hi : i < copy.size)
    (hpost : ∀ other ∈ post, copy.target + i < other.target ∨ other.target + other.size ≤ copy.target + i) :
    copyAll source memory (pre ++ copy :: post) (copy.target + i) = source (copy.start + i) := by
  rw [copyAll_append]
  show copyAll source (copyBlock source (copyAll source memory pre) copy) post (copy.target + i) = _
  rw [copyAll_outside hpost, copyBlock_inside hi]

theorem copyAll_ascending (hd : copies.Pairwise fun c d => c.target + c.size ≤ d.target) (hc : copy ∈ copies)
    (hi : i < copy.size) : copyAll source memory copies (copy.target + i) = source (copy.start + i) := by
  obtain ⟨pre, post, rfl⟩ := List.append_of_mem hc
  refine copyAll_at hi fun other ho => .inl ?_
  have hle := (List.pairwise_cons.mp (List.pairwise_append.mp hd).2.1).1 other ho
  omega

/-! ## Stored blocks -/

/-- The `n` cells from `a` on. -/
def cellsAt (memory : Nat → β) (a n : Nat) : List β := (List.range n).map fun i => memory (a + i)

def storeCells (memory : Nat → β) (target : Nat) (cells : List β) : Nat → β := fun a =>
  if target ≤ a then (cells[a - target]?).getD (memory a) else memory a

def storeBlocks (memory : Nat → β) (writes : List (Nat × List β)) : Nat → β :=
  writes.foldl (fun memory write => storeCells memory write.1 write.2) memory

@[simp] theorem length_cellsAt (memory : Nat → β) (a n : Nat) : (cellsAt memory a n).length = n := by simp [cellsAt]

theorem getElem?_cellsAt (memory : Nat → β) (a : Nat) (hi : i < n) : (cellsAt memory a n)[i]? = some (memory (a + i)) := by
  simp [cellsAt, hi]

theorem cellsAt_congr {memory' : Nat → β} (h : ∀ i < n, memory (a + i) = memory' (a + i)) :
    cellsAt memory a n = cellsAt memory' a n :=
  List.map_congr_left fun i hi => h i (List.mem_range.mp hi)

theorem cellsAt_add (memory : Nat → β) (a m n : Nat) :
    cellsAt memory a (m + n) = cellsAt memory a m ++ cellsAt memory (a + m) n := by
  simp [cellsAt, List.range_add, Function.comp_def, Nat.add_assoc]

theorem drop_cellsAt (memory : Nat → β) (a n k : Nat) : (cellsAt memory a n).drop k = cellsAt memory (a + k) (n - k) := by
  refine List.ext_getElem? fun i => ?_
  rw [List.getElem?_drop]
  by_cases hi : k + i < n
  · rw [getElem?_cellsAt _ _ hi, getElem?_cellsAt _ _ (by omega), Nat.add_assoc]
  · rw [List.getElem?_eq_none (by simpa using hi), List.getElem?_eq_none (by rw [length_cellsAt]; omega)]

theorem take_cellsAt (memory : Nat → β) (a : Nat) {k : Nat} (hk : k ≤ n) : (cellsAt memory a n).take k = cellsAt memory a k := by
  obtain ⟨rest, rfl⟩ := Nat.exists_eq_add_of_le hk
  rw [cellsAt_add, List.take_left' (length_cellsAt _ _ _)]

theorem storeCells_inside {cells : List β} (hi : i < cells.length) :
    cells[i]? = some (storeCells memory target cells (target + i)) := by
  rw [storeCells, if_pos (Nat.le_add_right _ _), Nat.add_sub_cancel_left, List.getElem?_eq_getElem hi, Option.getD_some]

theorem storeCells_outside {cells : List β} (h : a < target ∨ target + cells.length ≤ a) :
    storeCells memory target cells a = memory a := by
  unfold storeCells
  split
  · rw [List.getElem?_eq_none (by omega), Option.getD_none]
  · rfl

theorem cellsAt_storeCells (memory : Nat → β) (target : Nat) (cells : List β) :
    cellsAt (storeCells memory target cells) target cells.length = cells := by
  refine List.ext_getElem? fun i => ?_
  by_cases hi : i < cells.length
  · rw [getElem?_cellsAt _ _ hi, ← storeCells_inside hi]
  · rw [List.getElem?_eq_none (by simpa using hi), List.getElem?_eq_none (by simpa using hi)]

variable {writes : List (Nat × List β)}

theorem storeBlocks_append (more : List (Nat × List β)) :
    storeBlocks memory (writes ++ more) = storeBlocks (storeBlocks memory writes) more := by
  simp [storeBlocks]

theorem storeBlocks_outside (h : ∀ write ∈ writes, a < write.1 ∨ write.1 + write.2.length ≤ a) :
    storeBlocks memory writes a = memory a := by
  induction writes generalizing memory with
  | nil => rfl
  | cons write writes ih =>
    show storeBlocks (storeCells memory write.1 write.2) writes a = memory a
    rw [ih fun other ho => h other (List.mem_cons_of_mem _ ho), storeCells_outside (h write List.mem_cons_self)]

/-- Blocks with ascending targets: each is there in the end. -/
theorem storeBlocks_ascending (hd : writes.Pairwise fun v w => v.1 + v.2.length ≤ w.1) {write : Nat × List β}
    (hw : write ∈ writes) (hi : i < write.2.length) : write.2[i]? = some (storeBlocks memory writes (write.1 + i)) := by
  obtain ⟨pre, post, rfl⟩ := List.append_of_mem hw
  have hafter := (List.pairwise_cons.mp (List.pairwise_append.mp hd).2.1).1
  rw [storeBlocks_append]
  show _ = some (storeBlocks (storeCells (storeBlocks memory pre) write.1 write.2) post (write.1 + i))
  rw [storeBlocks_outside fun other ho => .inl (by have := hafter other ho; omega), ← storeCells_inside hi]

/-! ## Segments -/

/-- Segments, each a start and a size, that share no cell. -/
def Apart (s t : Nat × Nat) : Prop := s.1 + s.2 ≤ t.1 ∨ t.1 + t.2 ≤ s.1

def CoveredBy (s t : Nat × Nat) : Prop := t.1 ≤ s.1 ∧ s.1 + s.2 ≤ t.1 + t.2

theorem Apart.symm {s t : Nat × Nat} (h : Apart s t) : Apart t s := Or.symm h

theorem Apart.covered {s t s' t' : Nat × Nat} (h : Apart s t) (hs : CoveredBy s' s) (ht : CoveredBy t' t) : Apart s' t' := by
  unfold Apart CoveredBy at *
  omega

/-! ## Numbers -/

/-- The number of these bytes, low byte first. -/
def leValue : List UInt8 → Nat
  | [] => 0
  | byte :: bytes => byte.toNat + 256 * leValue bytes

/-- The low bytes of a number. -/
def leBytes : Nat → Nat → List UInt8
  | 0, _ => []
  | count + 1, n => UInt8.ofNat (n % 256) :: leBytes count (n / 256)

@[simp] theorem length_leBytes (count n : Nat) : (leBytes count n).length = count := by
  induction count generalizing n with
  | zero => rfl
  | succ count ih => rw [leBytes, List.length_cons, ih]

theorem leValue_leBytes (count n : Nat) : leValue (leBytes count n) = n % 256 ^ count := by
  induction count generalizing n with
  | zero => rw [Nat.pow_zero, Nat.mod_one, leBytes, leValue]
  | succ count ih =>
    rw [leBytes, leValue, ih, UInt8.toNat_ofNat', Nat.mod_eq_of_lt (Nat.mod_lt n (by decide)), Nat.pow_succ,
      Nat.mul_comm (256 ^ count), Nat.mod_mul]

end Mocktail.Lib

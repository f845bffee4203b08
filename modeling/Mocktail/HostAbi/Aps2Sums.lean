/-
  Mocktail.HostAbi.Aps2Sums — the additions of the APS2 decoder (`host_abi_deriver.cc`).

  The running offset and addend are 64-bit integers, the deltas are any 64-bit values of the
  file, and a relocation is tested for negative values only after they have been added. Since
  every value is known not to be negative before something is added to it, no addition can fall
  below the range; any can go above it.

  `Op` is what a stream asks for, read off without doing it, and `Bounded` adds it up with
  integers of no width. `decodeAps2_sums`: the decoder's additions all stay within 64 bits
  exactly when those sums stay below 2^63, up to the first relocation that has a negative value.
-/

import Mocktail.HostAbi.Aps2

namespace Mocktail.HostAbi

open Mocktail.Lib

/-! ## What a stream asks for -/

inductive Op where
  | offset (delta : Int)
  | info (value : Int)
  | addend (delta : Int)
  | reset
  | entry
  deriving DecidableEq, Repr

/-- The operations in some bytes, as far as they can be read, and what is left after them. -/
abbrev Reads (α : Type) := List UInt8 → List Op × Option (α × List UInt8)

def Reads.andThen {α β : Type} (x : Reads α) (f : α → Reads β) : Reads β := fun bytes =>
  match x bytes with
  | (ops, none) => (ops, none)
  | (ops, some (a, rest)) => (ops ++ (f a rest).1, (f a rest).2)

def readValue : Reads Int := fun bytes =>
  match pop bytes with
  | .ok (value, rest) => ([], some (value, rest))
  | .error _ => ([], none)

def asks (op : Op) : Reads Unit := fun bytes => ([op], some ((), bytes))

def asksNothing : Reads Unit := fun bytes => ([], some ((), bytes))

def entryReads (flags : Nat) (offsetDelta : Int) : Reads Unit :=
  (if hasFlag flags kGroupedByOffsetDelta then asks (.offset offsetDelta)
    else readValue.andThen fun v => asks (.offset v)).andThen fun _ =>
  (if hasFlag flags kGroupedByInfo then asksNothing else readValue.andThen fun v => asks (.info v)).andThen fun _ =>
  (if addendMode flags = kGroupHasAddend then readValue.andThen fun v => asks (.addend v) else asksNothing).andThen
    fun _ => asks .entry

def entriesReads (flags : Nat) (offsetDelta : Int) : Nat → Reads Unit
  | 0 => asksNothing
  | count + 1 => (entryReads flags offsetDelta).andThen fun _ => entriesReads flags offsetDelta count

def groupReads (size flags : Nat) : Reads Unit :=
  (if hasFlag flags kGroupedByOffsetDelta then readValue else fun bytes => ([], some (0, bytes))).andThen fun offsetDelta =>
  (if hasFlag flags kGroupedByInfo then readValue.andThen fun v => asks (.info v) else asksNothing).andThen fun _ =>
  (if addendMode flags = kGroupHasAddend ||| kGroupedByAddend then readValue.andThen fun v => asks (.addend v)
    else if addendMode flags ≠ kGroupHasAddend then asks .reset else asksNothing).andThen fun _ =>
  entriesReads flags offsetDelta size

def groupHeaderReads (remaining : Nat) : Reads (Nat × Nat) :=
  readValue.andThen fun size => readValue.andThen fun flags => fun bytes =>
    if size ≤ 0 ∨ remaining < size.toNat ∨ flags < 0 ∨ 15 < flags then ([], none)
    else ([], some ((size.toNat, flags.toNat), bytes))

/-- `fuel` bounds the groups; there are no more of them than relocations to go. -/
def groupsReads : Nat → Nat → Reads Unit
  | 0, _ => asksNothing
  | fuel + 1, remaining =>
    if remaining = 0 then asksNothing
    else (groupHeaderReads remaining).andThen fun header =>
      (groupReads header.1 header.2).andThen fun _ => groupsReads fuel (remaining - header.1)

/-- The operations of a whole stream, after its header. -/
def streamOps (count : Nat) (bytes : List UInt8) : List Op := (groupsReads count count bytes).1

/-- The sums stay below 2^63, up to the first entry that is rejected. -/
def Bounded (offset info addend : Int) : List Op → Prop
  | [] => True
  | .offset delta :: rest => offset + delta < 2 ^ 63 ∧ Bounded (offset + delta) info addend rest
  | .info value :: rest => Bounded offset value addend rest
  | .addend delta :: rest => addend + delta < 2 ^ 63 ∧ Bounded offset info (addend + delta) rest
  | .reset :: rest => Bounded offset info 0 rest
  | .entry :: rest => 0 ≤ offset → 0 ≤ info → 0 ≤ addend → Bounded offset info addend rest

/-! ## Doing it -/

/-- A decoder after some operations, and whether all of them went through. -/
def exec (s : Decoder) : List Op → Decoder × Bool
  | [] => (s, true)
  | .offset delta :: rest =>
    exec { s with offset := wrap64 (s.offset + delta), sums := s.sums ++ [s.offset + delta] } rest
  | .info value :: rest => exec { s with info := value } rest
  | .addend delta :: rest =>
    exec { s with addend := wrap64 (s.addend + delta), sums := s.sums ++ [s.addend + delta] } rest
  | .reset :: rest => exec { s with addend := 0 } rest
  | .entry :: rest =>
    if s.offset < 0 ∨ s.info < 0 ∨ s.addend < 0 then (s, false)
    else exec { s with result := s.result ++ [⟨s.offset.toNat, s.info.toNat, s.addend.toNat⟩] } rest

theorem exec_append (s : Decoder) (ops more : List Op) :
    exec s (ops ++ more) = if (exec s ops).2 then exec (exec s ops).1 more else exec s ops := by
  induction ops generalizing s with
  | nil => rfl
  | cons op rest ih =>
    cases op with
    | entry =>
      rw [List.cons_append, exec, exec]
      by_cases h : s.offset < 0 ∨ s.info < 0 ∨ s.addend < 0
      · simp [h]
      · rw [if_neg h, if_neg h, ih]
    | offset _ | info _ | addend _ | reset => rw [List.cons_append, exec, exec, ih]

theorem exec_bytes (s : Decoder) (ops : List Op) (bytes : List UInt8) :
    exec { s with bytes } ops = ({ (exec s ops).1 with bytes }, (exec s ops).2) := by
  induction ops generalizing s with
  | nil => rfl
  | cons op rest ih =>
    cases op with
    | entry =>
      rw [exec, exec]
      by_cases h : s.offset < 0 ∨ s.info < 0 ∨ s.addend < 0
      · simp [h]
      · simp only [if_neg h]
        exact ih { s with result := s.result ++ [⟨s.offset.toNat, s.info.toNat, s.addend.toNat⟩] }
    | offset delta => exact ih { s with offset := wrap64 (s.offset + delta), sums := s.sums ++ [s.offset + delta] }
    | info value => exact ih { s with info := value }
    | addend delta => exact ih { s with addend := wrap64 (s.addend + delta), sums := s.sums ++ [s.addend + delta] }
    | reset => exact ih { s with addend := 0 }

/-- A part of the decoder does what a part of the stream asks for: it makes the same additions,
    and gets through if the operations do and could all be read. -/
def Follows {α : Type} (x : Decode α) (y : Reads α) : Prop :=
  ∀ s, (x s).2.sums = (exec s (y s.bytes).1).1.sums ∧
    match (exec s (y s.bytes).1).2, (y s.bytes).2 with
    | true, some (a, rest) => x s = (.ok a, { (exec s (y s.bytes).1).1 with bytes := rest })
    | _, _ => ∃ e, (x s).1 = .error e

section
variable {α β : Type} {x : Decode α} {y : Reads α}

/-- The second part only has to follow what the first can come to. -/
theorem follows_andThen_of {f : α → Decode β} {g : α → Reads β} (hx : Follows x y)
    (hf : ∀ a s s', x s = (.ok a, s') → Follows (f a) (g a)) : Follows (x.andThen f) (y.andThen g) := by
  intro s
  obtain ⟨hsums, hend⟩ := hx s
  match hread : y s.bytes with
  | (ops, none) =>
    have hg : y.andThen g s.bytes = (ops, none) := by simp only [Reads.andThen, hread]
    rw [hread] at hsums hend
    rw [hg]
    obtain ⟨e, he⟩ : ∃ e, (x s).1 = .error e := by
      dsimp only at hend
      split at hend
      · next hsome => exact absurd hsome (by simp)
      · exact hend
    have hrun : x.andThen f s = (.error e, (x s).2) := Decode.andThen_of_error (by rw [← he])
    rw [hrun]
    refine ⟨hsums, ?_⟩
    split
    · next hsome => exact absurd hsome (by simp)
    · exact ⟨e, rfl⟩
  | (ops, some (a, rest)) =>
    have hg : y.andThen g s.bytes = (ops ++ (g a rest).1, (g a rest).2) := by simp only [Reads.andThen, hread]
    rw [hread] at hsums hend
    rw [hg]
    dsimp only at hsums hend ⊢
    rw [exec_append]
    by_cases hok : (exec s ops).2 = true
    · rw [if_pos hok]
      rw [hok] at hend
      have hrun : x.andThen f s = f a { (exec s ops).1 with bytes := rest } := Decode.andThen_of_ok hend
      rw [hrun]
      have hfollows := hf a s _ hend
      generalize (exec s ops).1 = reached
      have hnext := hfollows { reached with bytes := rest }
      dsimp only at hnext
      rw [exec_bytes reached (g a rest).1 rest] at hnext
      exact hnext
    · rw [if_neg hok]
      have hstop : (exec s ops).2 = false := Bool.eq_false_of_not_eq_true hok
      rw [hstop] at hend ⊢
      obtain ⟨e, he⟩ := hend
      have hrun : x.andThen f s = (.error e, (x s).2) := Decode.andThen_of_error (by rw [← he])
      rw [hrun]
      exact ⟨hsums, e, rfl⟩

theorem follows_andThen {f : α → Decode β} {g : α → Reads β} (hx : Follows x y) (hf : ∀ a, Follows (f a) (g a)) :
    Follows (x.andThen f) (y.andThen g) :=
  follows_andThen_of hx fun a _ _ _ => hf a

theorem follows_ite {p : Prop} [Decidable p] {x' : Decode α} {y' : Reads α} (h : Follows x y) (h' : Follows x' y') :
    Follows (if p then x else x') (if p then y else y') := by
  by_cases hp : p
  · rwa [if_pos hp, if_pos hp]
  · rwa [if_neg hp, if_neg hp]

theorem follows_popValue : Follows popValue readValue := by
  intro s
  unfold popValue readValue
  match pop s.bytes with
  | .ok (v, rest) => exact ⟨rfl, rfl⟩
  | .error e => exact ⟨rfl, e, rfl⟩

theorem follows_addOffset (delta : Int) : Follows (addOffset delta) (asks (.offset delta)) := fun _ => ⟨rfl, rfl⟩
theorem follows_addAddend (delta : Int) : Follows (addAddend delta) (asks (.addend delta)) := fun _ => ⟨rfl, rfl⟩
theorem follows_setInfo (value : Int) : Follows (setInfo value) (asks (.info value)) := fun _ => ⟨rfl, rfl⟩
theorem follows_resetAddend : Follows resetAddend (asks .reset) := fun _ => ⟨rfl, rfl⟩
theorem follows_skip : Follows skip asksNothing := fun _ => ⟨rfl, rfl⟩

theorem follows_push : Follows push (asks .entry) := by
  intro s
  unfold push asks
  dsimp only
  rw [exec]
  by_cases h : s.offset < 0 ∨ s.info < 0 ∨ s.addend < 0
  · rw [if_pos h, if_pos h]
    exact ⟨rfl, _, rfl⟩
  · rw [if_neg h, if_neg h]
    exact ⟨rfl, rfl⟩

end

theorem follows_entry (flags : Nat) (delta : Int) : Follows (entry flags delta) (entryReads flags delta) :=
  follows_andThen (follows_ite (follows_addOffset delta) (follows_andThen follows_popValue follows_addOffset)) fun _ =>
    follows_andThen (follows_ite follows_skip (follows_andThen follows_popValue follows_setInfo)) fun _ =>
      follows_andThen (follows_ite (follows_andThen follows_popValue follows_addAddend) follows_skip) fun _ => follows_push

theorem follows_entries (flags : Nat) (delta : Int) (count : Nat) :
    Follows (entries flags delta count) (entriesReads flags delta count) := by
  induction count with
  | zero => exact follows_skip
  | succ count ih => exact follows_andThen (follows_entry flags delta) fun _ => ih

theorem follows_group (size flags : Nat) : Follows (group size flags) (groupReads size flags) := by
  have hzero : Follows (fun s => (.ok (0 : Int), s)) (fun bytes => ([], some ((0 : Int), bytes))) := fun _ => ⟨rfl, rfl⟩
  have haddend := follows_ite (p := addendMode flags = kGroupHasAddend ||| kGroupedByAddend)
    (follows_andThen follows_popValue follows_addAddend)
    (follows_ite (p := addendMode flags ≠ kGroupHasAddend) follows_resetAddend follows_skip)
  exact follows_andThen (follows_ite follows_popValue hzero) fun delta =>
    follows_andThen (follows_ite (follows_andThen follows_popValue follows_setInfo) follows_skip) fun _ =>
      follows_andThen haddend fun _ => follows_entries flags delta size

theorem follows_groupHeader (remaining : Nat) : Follows (groupHeader remaining) (groupHeaderReads remaining) := by
  refine follows_andThen follows_popValue fun size => follows_andThen follows_popValue fun flags => ?_
  intro s
  dsimp only
  by_cases h : size ≤ 0 ∨ remaining < size.toNat ∨ flags < 0 ∨ 15 < flags
  · rw [if_pos h, if_pos h]
    exact ⟨rfl, _, rfl⟩
  · rw [if_neg h, if_neg h]
    exact ⟨rfl, rfl⟩

theorem follows_groups (fuel remaining : Nat) (h : remaining ≤ fuel) :
    Follows (groups remaining) (groupsReads fuel remaining) := by
  have hnone : groups 0 = skip := funext groups_zero
  induction fuel generalizing remaining with
  | zero =>
    obtain rfl : remaining = 0 := by omega
    rw [hnone]
    exact follows_skip
  | succ fuel ih =>
    rw [groupsReads]
    by_cases hzero : remaining = 0
    · subst hzero
      rw [hnone, if_pos rfl]
      exact follows_skip
    · rw [if_neg hzero, funext (groups_pos hzero)]
      apply follows_andThen_of (follows_groupHeader remaining)
      rintro ⟨size, flags⟩ s s' hheader
      obtain ⟨hpos, -⟩ := groupHeader_size hheader
      exact follows_andThen (follows_group size flags) fun _ => ih (remaining - size) (by omega)

/-! ## No sum falls below the range -/

theorem toInt64_range {n : Nat} (h : n < 2 ^ 64) : -2 ^ 63 ≤ toInt64 n ∧ toInt64 n < 2 ^ 63 := by
  unfold toInt64
  split <;> omega

variable {bytes encoded rest : List UInt8}

theorem popLoop_range {value shift : Nat} {v : Int} (hvalue : value < 2 ^ 64)
    (h : popLoop bytes value shift = .ok (v, rest)) : -2 ^ 63 ≤ v ∧ v < 2 ^ 63 := by
  induction bytes generalizing value shift with
  | nil => exact absurd h (by simp [popLoop])
  | cons byte tail ih =>
    have hword : ∀ n : Nat, n % 2 ^ 64 < 2 ^ 64 := fun n => Nat.mod_lt _ (by decide)
    have hnext := Nat.or_lt_two_pow hvalue (hword ((byte.toNat &&& 0x7f) <<< shift))
    rw [popLoop] at h
    by_cases hlong : 70 ≤ shift
    · rw [if_pos hlong] at h
      exact absurd h (by simp)
    · rw [if_neg hlong] at h
      dsimp only at h
      generalize value ||| (byte.toNat &&& 0x7f) <<< shift % 2 ^ 64 = next at h hnext
      by_cases hmore : byte.toNat &&& 0x80 ≠ 0
      · rw [if_pos hmore] at h
        exact ih hnext h
      · rw [if_neg hmore] at h
        by_cases hfill : shift + 7 < 64 ∧ byte.toNat &&& 0x40 ≠ 0
        · rw [if_pos hfill] at h
          obtain ⟨rfl, -⟩ := Prod.mk.inj (Except.ok.inj h)
          exact toInt64_range (Nat.or_lt_two_pow hnext (hword _))
        · rw [if_neg hfill] at h
          obtain ⟨rfl, -⟩ := Prod.mk.inj (Except.ok.inj h)
          exact toInt64_range hnext

/-- Every sum so far is at least -2^63. -/
def Low (s : Decoder) : Prop := ∀ sum ∈ s.sums, -2 ^ 63 ≤ sum

/-- From a state with `P` and low sums, the sums stay low and a success leaves `Q`. -/
def Lows {α : Type} (P : Decoder → Prop) (x : Decode α) (Q : α → Decoder → Prop) : Prop :=
  ∀ s, P s → Low s → Low (x s).2 ∧ ∀ a s', x s = (.ok a, s') → Q a s'

section
variable {α β : Type} {P : Decoder → Prop} {x : Decode α} {Q : α → Decoder → Prop}

theorem lows_andThen {f : α → Decode β} {R : β → Decoder → Prop} (hx : Lows P x Q) (hf : ∀ a, Lows (Q a) (f a) R) :
    Lows P (x.andThen f) R := by
  intro s hp hlow
  obtain ⟨hlow₁, hq⟩ := hx s hp hlow
  match hrun : x s with
  | (.ok a, s') =>
    rw [hrun] at hlow₁
    rw [Decode.andThen_of_ok hrun]
    exact hf a s' (hq a s' hrun) hlow₁
  | (.error e, s') =>
    rw [hrun] at hlow₁
    rw [Decode.andThen_of_error hrun]
    exact ⟨hlow₁, fun b s'' h => absurd (congrArg Prod.fst h) (by simp)⟩

theorem lows_ite {p : Prop} [Decidable p] {y : Decode α} (hx : p → Lows P x Q) (hy : ¬p → Lows P y Q) :
    Lows P (if p then x else y) Q := by
  by_cases h : p
  · rw [if_pos h]
    exact hx h
  · rw [if_neg h]
    exact hy h

end

/-- The values that something may be added to. -/
structure Ready (addend : Bool) (s : Decoder) : Prop where
  offset : 0 ≤ s.offset
  addend : addend = true → 0 ≤ s.addend

def Is64 (v : Int) : Prop := -2 ^ 63 ≤ v ∧ v < 2 ^ 63

/-- Reading a value changes nothing that a condition speaks of but the bytes. -/
theorem lows_popValue {P : Decoder → Prop} (hP : ∀ s bytes, P s → P { s with bytes }) :
    Lows P popValue fun v s => P s ∧ Is64 v := by
  intro s hp hlow
  unfold popValue
  match hpop : pop s.bytes with
  | .ok (v, rest) =>
    refine ⟨hlow, ?_⟩
    rintro a s' h
    obtain ⟨ha, rfl⟩ := Prod.mk.inj h
    obtain rfl := Except.ok.inj ha
    exact ⟨hP s rest hp, popLoop_range (Nat.two_pow_pos _) hpop⟩
  | .error e => exact ⟨hlow, fun a s' h => absurd (congrArg Prod.fst h) (by simp)⟩

variable {delta : Int}

theorem lows_addOffset {a : Bool} (h64 : Is64 delta) :
    Lows (Ready a) (addOffset delta) fun _ s => a = true → 0 ≤ s.addend := by
  intro s hready hlow
  refine ⟨?_, ?_⟩
  · intro sum hsum
    rcases List.mem_append.mp hsum with hsum | hsum
    · exact hlow sum hsum
    · obtain rfl : sum = s.offset + delta := by simpa using hsum
      have hoffset := hready.offset
      have hdelta := h64.1
      omega
  · intro _ s' h
    obtain rfl := (Prod.mk.inj h).2
    exact hready.addend

theorem lows_addAddend {P : Decoder → Prop} (hP : ∀ s, P s → 0 ≤ s.addend) (h64 : Is64 delta)
    {Q : Decoder → Prop} (hQ : ∀ s value sums, P s → Q { s with addend := value, sums }) :
    Lows P (addAddend delta) fun _ => Q := by
  intro s hp hlow
  refine ⟨?_, ?_⟩
  · intro sum hsum
    rcases List.mem_append.mp hsum with hsum | hsum
    · exact hlow sum hsum
    · obtain rfl : sum = s.addend + delta := by simpa using hsum
      have haddend := hP s hp
      have hdelta := h64.1
      omega
  · intro _ s' h
    obtain rfl := (Prod.mk.inj h).2
    exact hQ s _ _ hp

theorem lows_set {P : Decoder → Prop} {Q : Decoder → Prop} {f : Decoder → Decoder} (hsums : ∀ s, (f s).sums = s.sums)
    (hf : ∀ s, P s → Q (f s)) : Lows P (fun s => (.ok (), f s) : Decode Unit) fun _ => Q := by
  intro s hp hlow
  refine ⟨?_, ?_⟩
  · intro sum hsum
    rw [hsums] at hsum
    exact hlow sum hsum
  · intro _ s' h
    obtain rfl := (Prod.mk.inj h).2
    exact hf s hp

theorem lows_push : Lows (fun _ => True) push fun _ => Ready true := by
  intro s _ hlow
  unfold push
  by_cases h : s.offset < 0 ∨ s.info < 0 ∨ s.addend < 0
  · rw [if_pos h]
    exact ⟨hlow, fun _ s' h => absurd (congrArg Prod.fst h) (by simp)⟩
  · rw [if_neg h]
    refine ⟨hlow, ?_⟩
    intro _ s' hrun
    obtain rfl := (Prod.mk.inj hrun).2
    exact ⟨by show 0 ≤ s.offset; omega, fun _ => by show 0 ≤ s.addend; omega⟩

theorem lows_read {P Q : Decoder → Prop} {f : Int → Decode Unit} (hP : ∀ s bytes, P s → P { s with bytes })
    (hf : ∀ v, Is64 v → Lows P (f v) fun _ => Q) : Lows P (popValue.andThen f) fun _ => Q :=
  lows_andThen (lows_popValue hP) fun v s hp hlow => hf v hp.2 s hp.1 hlow

theorem ready_bytes {a : Bool} (s : Decoder) (bytes : List UInt8) (h : Ready a s) : Ready a { s with bytes } :=
  ⟨h.offset, h.addend⟩

theorem lows_entry {flags : Nat} (h64 : Is64 delta) :
    Lows (Ready (addendMode flags = kGroupHasAddend)) (entry flags delta) fun _ => Ready true := by
  let mode : Bool := addendMode flags = kGroupHasAddend
  let Kept : Decoder → Prop := fun s => mode = true → 0 ≤ s.addend
  have hoffset : Lows (Ready mode)
      (if hasFlag flags kGroupedByOffsetDelta then addOffset delta else popValue.andThen addOffset) fun _ => Kept :=
    lows_ite (fun _ => lows_addOffset h64) fun _ => lows_read ready_bytes fun v hv => lows_addOffset hv
  have hinfo : Lows Kept (if hasFlag flags kGroupedByInfo then skip else popValue.andThen setInfo) fun _ => Kept :=
    lows_ite (fun _ => lows_set (fun _ => rfl) fun _ h => h) fun _ =>
      lows_read (fun _ _ h => h) fun _ _ => lows_set (fun _ => rfl) fun _ h => h
  have haddend : Lows Kept (if addendMode flags = kGroupHasAddend then popValue.andThen addAddend else skip)
      fun _ _ => True :=
    lows_ite
      (fun hmode => lows_read (fun _ _ h => h) fun v hv =>
        lows_addAddend (fun s hs => hs (decide_eq_true hmode)) hv fun _ _ _ _ => trivial)
      fun _ => lows_set (fun _ => rfl) fun _ _ => trivial
  exact lows_andThen hoffset fun _ => lows_andThen hinfo fun _ => lows_andThen haddend fun _ => lows_push

theorem lows_entries {flags : Nat} (h64 : Is64 delta) (count : Nat) :
    Lows (Ready (addendMode flags = kGroupHasAddend)) (entries flags delta (count + 1)) fun _ => Ready true := by
  induction count with
  | zero => exact lows_andThen (lows_entry h64) fun _ => lows_set (fun _ => rfl) fun _ h => h
  | succ count ih =>
    refine lows_andThen (lows_entry h64) fun _ s hready hlow => ?_
    exact ih s ⟨hready.offset, fun _ => hready.addend rfl⟩ hlow

theorem lows_group {size : Nat} (hsize : 0 < size) (flags : Nat) :
    Lows (Ready true) (group size flags) fun _ => Ready true := by
  obtain ⟨count, rfl⟩ : ∃ count, size = count + 1 := ⟨size - 1, by omega⟩
  let mode : Bool := addendMode flags = kGroupHasAddend
  have hdelta : Lows (Ready true) (if hasFlag flags kGroupedByOffsetDelta then popValue else fun s => (.ok 0, s))
      fun v s => Ready true s ∧ Is64 v := by
    refine lows_ite (fun _ => lows_popValue ready_bytes) fun _ s hready hlow => ⟨hlow, ?_⟩
    intro a s' h
    obtain ⟨ha, rfl⟩ := Prod.mk.inj h
    obtain rfl := Except.ok.inj ha
    exact ⟨hready, by unfold Is64; omega⟩
  have hinfo : Lows (Ready true) (if hasFlag flags kGroupedByInfo then popValue.andThen setInfo else skip)
      fun _ => Ready true :=
    lows_ite (fun _ => lows_read ready_bytes fun _ _ => lows_set (fun _ => rfl) fun _ h => ⟨h.offset, h.addend⟩) fun _ =>
      lows_set (fun _ => rfl) fun _ h => h
  have haddend : Lows (Ready true)
      (if addendMode flags = kGroupHasAddend ||| kGroupedByAddend then popValue.andThen addAddend
        else if addendMode flags ≠ kGroupHasAddend then resetAddend else skip) fun _ => Ready mode := by
    refine lows_ite (fun hboth => lows_read ready_bytes fun v hv => ?_) fun _ => ?_
    · -- nothing more is added to the addend before the next test
      have hmode : mode = false := decide_eq_false (by rw [hboth]; decide)
      refine lows_addAddend (fun s hs => hs.addend rfl) hv fun s value sums hs => ⟨hs.offset, ?_⟩
      exact fun htrue => absurd (hmode.symm.trans htrue) (by decide)
    · refine lows_ite (fun _ => lows_set (fun _ => rfl) ?_) fun _ => lows_set (fun _ => rfl) ?_
      · exact fun s hs => ⟨hs.offset, fun _ => Int.le_refl 0⟩
      · exact fun s hs => ⟨hs.offset, fun _ => hs.addend rfl⟩
  refine lows_andThen hdelta fun delta s hs hlow => ?_
  exact lows_andThen hinfo (fun _ => lows_andThen haddend fun _ => lows_entries hs.2 count) s hs.1 hlow

theorem lows_groupHeader (remaining : Nat) :
    Lows (Ready true) (groupHeader remaining) fun header s => Ready true s ∧ 0 < header.1 ∧ header.1 ≤ remaining := by
  have hkept : Lows (Ready true) (groupHeader remaining) fun _ => Ready true := by
    refine lows_andThen (lows_popValue ready_bytes) fun size => ?_
    refine lows_andThen (lows_popValue fun s bytes h => ⟨ready_bytes s bytes h.1, h.2⟩) fun flags s hs hlow => ?_
    by_cases h : size ≤ 0 ∨ remaining < size.toNat ∨ flags < 0 ∨ 15 < flags
    · rw [if_pos h]
      exact ⟨hlow, fun a s' h => absurd (congrArg Prod.fst h) (by simp)⟩
    · rw [if_neg h]
      refine ⟨hlow, ?_⟩
      intro a s' hrun
      obtain rfl := (Prod.mk.inj hrun).2
      exact hs.1.1
  intro s hready hlow
  obtain ⟨hlow', hpost⟩ := hkept s hready hlow
  exact ⟨hlow', fun header s' hrun => ⟨hpost header s' hrun, groupHeader_size hrun⟩⟩

theorem lows_groups (remaining : Nat) : Lows (Ready true) (groups remaining) fun _ => Ready true := by
  induction remaining using Nat.strong_induction_on with
  | _ remaining ih =>
    by_cases hzero : remaining = 0
    · subst hzero
      rw [show groups 0 = skip from funext groups_zero]
      exact lows_set (fun _ => rfl) fun _ h => h
    · rw [funext (groups_pos hzero)]
      refine lows_andThen (lows_groupHeader remaining) fun header s hs hlow => ?_
      obtain ⟨hready, hpos, hle⟩ := hs
      exact lows_andThen (lows_group hpos header.2) (fun _ => ih (remaining - header.1) (by omega)) s hready hlow

/-! ## The sums and their bound -/

theorem mem_exec_sums {s : Decoder} {ops : List Op} {sum : Int} (h : sum ∈ s.sums) : sum ∈ (exec s ops).1.sums := by
  induction ops generalizing s with
  | nil => exact h
  | cons op rest ih =>
    cases op with
    | entry =>
      rw [exec]
      split
      · exact h
      · exact ih h
    | offset delta => exact ih (List.mem_append_left _ h)
    | addend delta => exact ih (List.mem_append_left _ h)
    | info value => exact ih h
    | reset => exact ih h

theorem wrap64_of_is64 {v : Int} (h : Is64 v) : wrap64 v = v := by
  obtain ⟨h0, h1⟩ := h
  unfold wrap64 toInt64
  split <;> omega

theorem exec_bounded {s : Decoder} {ops : List Op} (hlow : Low (exec s ops).1) (hnow : ∀ sum ∈ s.sums, sum < 2 ^ 63) :
    (∀ sum ∈ (exec s ops).1.sums, sum < 2 ^ 63) ↔ Bounded s.offset s.info s.addend ops := by
  induction ops generalizing s with
  | nil => exact ⟨fun _ => trivial, fun _ => hnow⟩
  | cons op rest ih =>
    -- an addition that is in range is exact; one that is not is listed
    have hadd : ∀ (s' : Decoder) (sum : Int), s'.sums = s.sums ++ [sum] → Low (exec s' rest).1 →
        (sum < 2 ^ 63 → wrap64 sum = sum ∧ ∀ other ∈ s'.sums, other < 2 ^ 63) ∧
          (¬sum < 2 ^ 63 → ¬∀ other ∈ (exec s' rest).1.sums, other < 2 ^ 63) := by
      intro s' sum hsums hlow'
      have hmem : sum ∈ s'.sums := by rw [hsums]; simp
      refine ⟨fun hlt => ⟨wrap64_of_is64 ⟨hlow' sum (mem_exec_sums hmem), hlt⟩, ?_⟩, fun hge hall =>
        hge (hall sum (mem_exec_sums hmem))⟩
      intro other hother
      rw [hsums] at hother
      rcases List.mem_append.mp hother with hother | hother
      · exact hnow other hother
      · obtain rfl : other = sum := by simpa using hother
        exact hlt
    cases op with
    | offset delta =>
      obtain ⟨hin, hout⟩ := hadd _ _ rfl hlow
      rw [exec, Bounded]
      by_cases hlt : s.offset + delta < 2 ^ 63
      · obtain ⟨hwrap, hnow'⟩ := hin hlt
        rw [ih hlow hnow', hwrap, and_iff_right hlt]
      · exact ⟨fun hall => absurd hall (hout hlt), fun h => absurd h.1 hlt⟩
    | addend delta =>
      obtain ⟨hin, hout⟩ := hadd _ _ rfl hlow
      rw [exec, Bounded]
      by_cases hlt : s.addend + delta < 2 ^ 63
      · obtain ⟨hwrap, hnow'⟩ := hin hlt
        rw [ih hlow hnow', hwrap, and_iff_right hlt]
      · exact ⟨fun hall => absurd hall (hout hlt), fun h => absurd h.1 hlt⟩
    | info value => exact ih hlow hnow
    | reset => exact ih hlow hnow
    | entry =>
      rw [exec] at hlow ⊢
      rw [Bounded]
      by_cases hneg : s.offset < 0 ∨ s.info < 0 ∨ s.addend < 0
      · rw [if_pos hneg]
        exact ⟨fun _ h0 h1 h2 => by omega, fun _ => hnow⟩
      · rw [if_neg hneg] at hlow ⊢
        rw [ih hlow hnow]
        exact ⟨fun h _ _ _ => h, fun h => h (by omega) (by omega) (by omega)⟩

/-- Where the header is good, the stream's sums stay below 2^63. -/
def StaysBelow (encoded : List UInt8) : Prop :=
  encoded.take 4 = magic → ∀ count first rest, relocationHeader (encoded.drop 4) = .ok (count, first, rest) →
    Bounded first 0 0 (streamOps count rest)

variable {count : Nat} {first : Int}

theorem relocationHeader_first
    (h : relocationHeader bytes = .ok (count, first, rest)) : 0 ≤ first := by
  unfold relocationHeader at h
  split at h
  · exact absurd h (by simp)
  · split at h
    · exact absurd h (by simp)
    · split at h
      · exact absurd h (by simp)
      · obtain ⟨-, rfl, -⟩ : _ ∧ _ ∧ _ := by simpa using h
        omega

theorem decodeAps2_state (hmagic : encoded.take 4 = magic)
    (h : relocationHeader (encoded.drop 4) = .ok (count, first, rest)) :
    (decodeAps2 encoded).2 = (groups count { bytes := rest, offset := first }).2 := by
  unfold decodeAps2
  dsimp only
  rw [if_neg (not_not_intro hmagic), h]
  dsimp only
  match groups count { bytes := rest, offset := first } with
  | (.error e, s) => rfl
  | (.ok _, s) =>
    dsimp only
    split <;> rfl

/-- The additions made are those that the stream asks for. -/
theorem decodeAps2_exec (hmagic : encoded.take 4 = magic)
    (h : relocationHeader (encoded.drop 4) = .ok (count, first, rest)) :
    (decodeAps2 encoded).2.sums = (exec { bytes := rest, offset := first } (streamOps count rest)).1.sums := by
  rw [decodeAps2_state hmagic h]
  exact (follows_groups count count (Nat.le_refl _) { bytes := rest, offset := first }).1

theorem decodeAps2_nothing
    (h : ¬(encoded.take 4 = magic ∧ ∃ header, relocationHeader (encoded.drop 4) = .ok header)) :
    (decodeAps2 encoded).2.sums = [] := by
  unfold decodeAps2
  dsimp only
  by_cases hmagic : encoded.take 4 = magic
  · rw [if_neg (not_not_intro hmagic)]
    match hheader : relocationHeader (encoded.drop 4) with
    | .error e => rfl
    | .ok header => exact absurd ⟨hmagic, header, hheader⟩ h
  · rw [if_pos hmagic]

theorem decodeAps2_sums (encoded : List UInt8) :
    (∀ sum ∈ (decodeAps2 encoded).2.sums, -2 ^ 63 ≤ sum ∧ sum < 2 ^ 63) ↔ StaysBelow encoded := by
  by_cases hheader : encoded.take 4 = magic ∧ ∃ header, relocationHeader (encoded.drop 4) = .ok header
  · obtain ⟨hmagic, ⟨count, first, rest⟩, hheader⟩ := hheader
    have hready : Ready true { bytes := rest, offset := first } := ⟨relocationHeader_first hheader, fun _ => Int.le_refl 0⟩
    have hlow : Low (decodeAps2 encoded).2 := by
      rw [decodeAps2_state hmagic hheader]
      exact (lows_groups count _ hready (by simp [Low])).1
    have hexec := decodeAps2_exec hmagic hheader
    have hlow' : Low (exec { bytes := rest, offset := first } (streamOps count rest)).1 := by
      unfold Low
      rw [← hexec]
      exact hlow
    have hiff := exec_bounded hlow' (by simp)
    rw [← hexec] at hiff
    constructor
    · intro h _ count' first' rest' hheader'
      obtain ⟨rfl, rfl, rfl⟩ : count = count' ∧ first = first' ∧ rest = rest' := by
        simpa using hheader.symm.trans hheader'
      exact hiff.mp fun sum hsum => (h sum hsum).2
    · intro h sum hsum
      exact ⟨hlow sum hsum, hiff.mpr (h hmagic count first rest hheader) sum hsum⟩
  · rw [decodeAps2_nothing hheader]
    constructor
    · intro _ hmagic count first rest hgood
      exact absurd ⟨hmagic, _, hgood⟩ hheader
    · intro _ sum hsum
      exact absurd hsum (by simp)

/-- One relocation: first offset 2^63 - 1, and an offset delta of one. -/
def overTheTop : List UInt8 :=
  magic ++ [0x01, 0xff, 0xff, 0xff, 0xff, 0xff, 0xff, 0xff, 0xff, 0xff, 0x00, 0x01, 0x02, 0x01, 0x08]

theorem decodeAps2_overflows : ¬∀ sum ∈ (decodeAps2 overTheTop).2.sums, -2 ^ 63 ≤ sum ∧ sum < 2 ^ 63 := by
  have hheader : relocationHeader (overTheTop.drop 4) = .ok (1, 2 ^ 63 - 1, [0x01, 0x02, 0x01, 0x08]) := by rfl
  have hops : streamOps 1 [0x01, 0x02, 0x01, 0x08] = [.reset, .offset 1, .info 8, .entry] := by decide
  have hsum : (2 ^ 63 : Int) ∈ (decodeAps2 overTheTop).2.sums := by
    rw [decodeAps2_exec rfl hheader, hops]
    decide
  intro h
  exact absurd (h _ hsum).2 (by decide)

end Mocktail.HostAbi

/-
  Mocktail.HostAbi.Aps2 — Android's packed relocations (`host_abi_deriver.cc`).

  `.rela.dyn` is "APS2" and a row of SLEB128 values: the number of relocations, a first offset,
  and groups. A group says how many entries it has and, by its flags, which of offset delta,
  info and addend delta it gives once for all of them. The decoder keeps a running offset, info
  and addend across groups; a group without addends sets the addend back to zero.

  Its local variables are a record here, with what the reader has left. `sums` is no variable of
  the source: it lists the exact results of the additions made to the offset and the addend,
  each of which a 64-bit integer then has to hold.

  `decodeAps2_decodes`: what was encoded, in any grouping with any flags that can say it, is
  what is decoded, and what is decoded at all has the announced number of entries and leaves
  nothing unread.
-/

import Mocktail.Lib.Sleb

namespace Mocktail.HostAbi

open Mocktail.Lib

def kMaximumRelocations : Nat := 4 * 1024 * 1024
def kGroupedByInfo : Nat := 1
def kGroupedByOffsetDelta : Nat := 2
def kGroupedByAddend : Nat := 4
def kGroupHasAddend : Nat := 8

/-- A 64-bit word as a signed integer. -/
def toInt64 (value : Nat) : Int := if value < 2 ^ 63 then value else (value : Int) - 2 ^ 64

/-- The 64-bit integer that is left of a sum. -/
def wrap64 (value : Int) : Int := toInt64 (value % 2 ^ 64).toNat

/-! ## SlebReader -/

def popLoop : List UInt8 → Nat → Nat → Except String (Int × List UInt8)
  | [], _, _ => .error "invalid or truncated APS2 SLEB128 value"
  | byte :: rest, value, shift =>
    if 70 ≤ shift then .error "invalid or truncated APS2 SLEB128 value"
    else
      let value := value ||| (byte.toNat &&& 0x7f) <<< shift % 2 ^ 64
      let shift := shift + 7
      if byte.toNat &&& 0x80 ≠ 0 then popLoop rest value shift
      else if shift < 64 ∧ byte.toNat &&& 0x40 ≠ 0 then .ok (toInt64 (value ||| (2 ^ 64 - 1) <<< shift % 2 ^ 64), rest)
      else .ok (toInt64 value, rest)

/-- `SlebReader::Pop`: the value and the bytes after it. -/
def pop (bytes : List UInt8) : Except String (Int × List UInt8) := popLoop bytes 0 0

/-! ## DecodeAps2 -/

structure Relocation where
  offset : Nat
  info : Nat
  addend : Nat
  deriving DecidableEq, Repr

structure Decoder where
  bytes : List UInt8
  offset : Int
  info : Int := 0
  addend : Int := 0
  result : List Relocation := []
  sums : List Int := []

/-- The decoder's variables survive a failure, so that they can be looked at. -/
abbrev Decode (α : Type) := Decoder → Except String α × Decoder

def Decode.andThen {α β : Type} (x : Decode α) (f : α → Decode β) : Decode β := fun s =>
  match x s with
  | (.ok a, s') => f a s'
  | (.error e, s') => (.error e, s')

variable {α β : Type} {f : α → Decode β}

theorem Decode.andThen_of_ok {x : Decode α} {s s' : Decoder} {a : α} (h : x s = (.ok a, s')) :
    x.andThen f s = f a s' := by
  simp only [Decode.andThen, h]

theorem Decode.andThen_of_error {x : Decode α} {s s' : Decoder} {e : String}
    (h : x s = (.error e, s')) : x.andThen f s = (.error e, s') := by
  simp only [Decode.andThen, h]

theorem Decode.andThen_inv {x : Decode α} {s s'' : Decoder} {b : β}
    (h : x.andThen f s = (.ok b, s'')) : ∃ a s', x s = (.ok a, s') ∧ f a s' = (.ok b, s'') := by
  match hx : x s with
  | (.ok a, s') => exact ⟨a, s', rfl, by rwa [Decode.andThen_of_ok hx] at h⟩
  | (.error e, s') =>
    rw [Decode.andThen_of_error hx] at h
    exact absurd (congrArg Prod.fst h) (by simp)

def popValue : Decode Int := fun s =>
  match pop s.bytes with
  | .ok (value, rest) => (.ok value, { s with bytes := rest })
  | .error e => (.error e, s)

def addOffset (delta : Int) : Decode Unit := fun s =>
  (.ok (), { s with offset := wrap64 (s.offset + delta), sums := s.sums ++ [s.offset + delta] })

def addAddend (delta : Int) : Decode Unit := fun s =>
  (.ok (), { s with addend := wrap64 (s.addend + delta), sums := s.sums ++ [s.addend + delta] })

def setInfo (value : Int) : Decode Unit := fun s => (.ok (), { s with info := value })

def resetAddend : Decode Unit := fun s => (.ok (), { s with addend := 0 })

def skip : Decode Unit := fun s => (.ok (), s)

def push : Decode Unit := fun s =>
  if s.offset < 0 ∨ s.info < 0 ∨ s.addend < 0 then (.error "APS2 relocation exceeds unsigned bounds", s)
  else (.ok (), { s with result := s.result ++ [⟨s.offset.toNat, s.info.toNat, s.addend.toNat⟩] })

def hasFlag (flags flag : Nat) : Bool := flags &&& flag ≠ 0

/-- One turn of the loop over a group's entries. -/
def entry (flags : Nat) (offsetDelta : Int) : Decode Unit :=
  (if hasFlag flags kGroupedByOffsetDelta then addOffset offsetDelta else popValue.andThen addOffset).andThen fun _ =>
  (if hasFlag flags kGroupedByInfo then skip else popValue.andThen setInfo).andThen fun _ =>
  (if flags &&& (kGroupHasAddend ||| kGroupedByAddend) = kGroupHasAddend then popValue.andThen addAddend else skip).andThen
    fun _ => push

def entries (flags : Nat) (offsetDelta : Int) : Nat → Decode Unit
  | 0 => skip
  | count + 1 => (entry flags offsetDelta).andThen fun _ => entries flags offsetDelta count

/-- A group after its size and flags have been checked. -/
def group (size flags : Nat) : Decode Unit :=
  (if hasFlag flags kGroupedByOffsetDelta then popValue else fun s => (.ok 0, s)).andThen fun offsetDelta =>
  (if hasFlag flags kGroupedByInfo then popValue.andThen setInfo else skip).andThen fun _ =>
  let addendMode := flags &&& (kGroupHasAddend ||| kGroupedByAddend)
  (if addendMode = kGroupHasAddend ||| kGroupedByAddend then popValue.andThen addAddend
    else if addendMode ≠ kGroupHasAddend then resetAddend else skip).andThen fun _ =>
  entries flags offsetDelta size

/-- A group's size and flags, with `remaining` relocations to go; `flags & ~0x0f` is tested on
    the 64-bit value. -/
def groupHeader (remaining : Nat) : Decode (Nat × Nat) :=
  popValue.andThen fun size => popValue.andThen fun flags => fun s =>
    if size ≤ 0 ∨ remaining < size.toNat ∨ flags < 0 ∨ 15 < flags then (.error "APS2 relocation group is invalid", s)
    else (.ok (size.toNat, flags.toNat), s)

variable {a i k n remaining size value : Nat}

theorem groupHeader_size {flags : Nat} {s s' : Decoder}
    (h : groupHeader remaining s = (.ok (size, flags), s')) : 0 < size ∧ size ≤ remaining := by
  obtain ⟨first, s₁, -, h⟩ := Decode.andThen_inv h
  obtain ⟨second, s₂, -, h⟩ := Decode.andThen_inv h
  by_cases hbad : first ≤ 0 ∨ remaining < first.toNat ∨ second < 0 ∨ 15 < second
  · rw [if_pos hbad] at h
    exact absurd (congrArg Prod.fst h) (by simp)
  · rw [if_neg hbad] at h
    obtain ⟨⟨rfl, -⟩, -⟩ : (first.toNat = size ∧ second.toNat = flags) ∧ s₂ = s' := by simpa using h
    omega

/-- The loop over the groups: `remaining` is `count - result.size()`. -/
def groups (remaining : Nat) : Decode Unit := fun s =>
  if remaining = 0 then (.ok (), s)
  else
    match hheader : groupHeader remaining s with
    | (.error e, s') => (.error e, s')
    | (.ok (size, flags), s') =>
      match group size flags s' with
      | (.error e, s'') => (.error e, s'')
      | (.ok _, s'') =>
        have := groupHeader_size hheader
        groups (remaining - size) s''
termination_by remaining

/-- The relocation header: how many there are, and the first offset. -/
def relocationHeader (bytes : List UInt8) : Except String (Nat × Int × List UInt8) :=
  match pop bytes with
  | .error e => .error e
  | .ok (count, rest) =>
    match pop rest with
    | .error e => .error e
    | .ok (first, rest) =>
      if count < 0 ∨ kMaximumRelocations < count.toNat ∨ first < 0 then .error "APS2 relocation header is invalid"
      else .ok (count.toNat, first, rest)

def magic : List UInt8 := [0x41, 0x50, 0x53, 0x32]

/-- The relocations, and the decoder as it was at the end. -/
def decodeAps2 (encoded : List UInt8) : Except String (List Relocation) × Decoder :=
  let unread : Decoder := { bytes := encoded, offset := 0 }
  if encoded.take 4 ≠ magic then (.error ".rela.dyn does not use APS2 encoding", unread)
  else
    match relocationHeader (encoded.drop 4) with
    | .error e => (.error e, unread)
    | .ok (count, first, rest) =>
      match groups count { bytes := rest, offset := first } with
      | (.error e, s) => (.error e, s)
      | (.ok _, s) => if s.bytes ≠ [] then (.error "APS2 relocation stream contains trailing bytes", s) else (.ok s.result, s)

/-! ## Reading back an SLEB128 value -/

theorem or_shiftLeft (b : Nat) (h : a < 2 ^ i) : a ||| b <<< i = a + b * 2 ^ i := by
  rw [Nat.or_comm, ← Nat.shiftLeft_add_eq_or_of_lt h, Nat.shiftLeft_eq, Nat.add_comm]

theorem byte_bits (byte : UInt8) :
    byte.toNat &&& 0x7f = byte.toNat % 128 ∧ (byte.toNat &&& 0x80 ≠ 0 ↔ 128 ≤ byte.toNat) ∧
      (byte.toNat &&& 0x40 ≠ 0 ↔ 64 ≤ byte.toNat % 128) := by
  have hall : ∀ b : Fin 256, b.val &&& 0x7f = b.val % 128 ∧ (b.val &&& 0x80 ≠ 0 ↔ 128 ≤ b.val) ∧
      (b.val &&& 0x40 ≠ 0 ↔ 64 ≤ b.val % 128) := by
    decide +kernel
  exact hall ⟨byte.toNat, byte.toNat_lt⟩

theorem signFill (hk : k ≤ 8) : (2 ^ 64 - 1) <<< (7 * k + 7) % 2 ^ 64 = (2 ^ (57 - 7 * k) - 1) <<< (7 * k + 7) := by
  have hall : ∀ k : Fin 9, (2 ^ 64 - 1) <<< (7 * k.val + 7) % 2 ^ 64 = (2 ^ (57 - 7 * k.val) - 1) <<< (7 * k.val + 7) := by
    decide
  exact hall ⟨k, by omega⟩

theorem popLoop_last {byte : UInt8} (rest : List UInt8) (hk : k ≤ 9) (hbyte : byte.toNat < 128)
    (hvalue : value < 2 ^ (7 * k)) :
    popLoop (byte :: rest) value (7 * k) =
      if 7 * k + 7 < 64 ∧ 64 ≤ byte.toNat then
        .ok (toInt64 (value + byte.toNat * 2 ^ (7 * k) + (2 ^ 64 - 2 ^ (7 * k + 7))), rest)
      else .ok (toInt64 (value ||| byte.toNat <<< (7 * k) % 2 ^ 64), rest) := by
  obtain ⟨hlow, hmore, hsign⟩ := byte_bits byte
  rw [popLoop, if_neg (by omega)]
  dsimp only
  rw [if_neg (by rw [hmore]; omega), hlow, Nat.mod_eq_of_lt hbyte]
  rw [Nat.mod_eq_of_lt hbyte] at hsign
  simp only [hsign]
  by_cases hfill : 7 * k + 7 < 64 ∧ 64 ≤ byte.toNat
  · rw [if_pos hfill, if_pos hfill]
    have hk8 : k ≤ 8 := by omega
    have hpow : 2 ^ (7 * k + 7) = 128 * 2 ^ (7 * k) := by rw [Nat.pow_add, Nat.mul_comm]
    have hfits : 2 ^ (7 * k) ≤ 2 ^ 56 := Nat.pow_le_pow_right (by decide) (by omega)
    have hle : byte.toNat * 2 ^ (7 * k) ≤ 127 * 2 ^ (7 * k) := Nat.mul_le_mul_right _ (by omega)
    have hword : byte.toNat <<< (7 * k) < 2 ^ 64 := by
      rw [Nat.shiftLeft_eq]
      omega
    have hones : (2 ^ (57 - 7 * k) - 1) * 2 ^ (7 * k + 7) = 2 ^ 64 - 2 ^ (7 * k + 7) := by
      rw [Nat.sub_mul, ← Nat.pow_add, Nat.one_mul, show 57 - 7 * k + (7 * k + 7) = 64 by omega]
    rw [Nat.mod_eq_of_lt hword, or_shiftLeft _ hvalue, signFill hk8, or_shiftLeft _ (by omega), hones]
  · rw [if_neg hfill, if_neg hfill]

variable {bytes : List UInt8}

/-- Every encoding of a 64-bit value in at most ten bytes, whatever comes after it. -/
theorem popLoop_sleb {v : Int} (h : Sleb bytes v) (rest : List UInt8)
    (hlen : k + bytes.length ≤ 10) (hvalue : value < 2 ^ (7 * k)) (h0 : -2 ^ 63 ≤ (value : Int) + 2 ^ (7 * k) * v)
    (h1 : (value : Int) + 2 ^ (7 * k) * v < 2 ^ 63) :
    popLoop (bytes ++ rest) value (7 * k) = .ok (value + 2 ^ (7 * k) * v, rest) := by
  induction h generalizing k value with
  | @positive byte hbyte =>
    rw [List.singleton_append, popLoop_last rest (by rw [List.length_singleton] at hlen; omega) (by omega) hvalue,
      if_neg (by omega)]
    have hcast : ((2 : Int) ^ (7 * k)) * byte.toNat = ((byte.toNat * 2 ^ (7 * k) : Nat) : Int) := by
      push_cast
      ring
    rw [hcast] at h1 ⊢
    have hword : byte.toNat <<< (7 * k) < 2 ^ 64 := by
      rw [Nat.shiftLeft_eq]
      omega
    rw [Nat.mod_eq_of_lt hword, or_shiftLeft _ hvalue, toInt64, if_pos (by omega)]
    push_cast
    rfl
  | @negative byte hsign hbyte =>
    rw [List.singleton_append, popLoop_last rest (by rw [List.length_singleton] at hlen; omega) (by omega) hvalue]
    by_cases hk : k ≤ 8
    · have hpow : 2 ^ (7 * k + 7) = 128 * 2 ^ (7 * k) := by rw [Nat.pow_add, Nat.mul_comm]
      have hfits : 2 ^ (7 * k) ≤ 2 ^ 56 := Nat.pow_le_pow_right (by decide) (by omega)
      have hle : byte.toNat * 2 ^ (7 * k) ≤ 127 * 2 ^ (7 * k) := Nat.mul_le_mul_right _ (by omega)
      have hge : 64 * 2 ^ (7 * k) ≤ byte.toNat * 2 ^ (7 * k) := Nat.mul_le_mul_right _ hsign
      have hcast : ((2 : Int) ^ (7 * k)) * (byte.toNat - 128) =
          ((byte.toNat * 2 ^ (7 * k) : Nat) : Int) - ((128 * 2 ^ (7 * k) : Nat) : Int) := by
        push_cast
        ring
      rw [if_pos ⟨by omega, hsign⟩, hcast, hpow, toInt64, if_neg (by omega)]
      congr 2
      omega
    · -- the tenth byte has room for the sign bit alone
      obtain rfl : k = 9 := by simp only [List.length_singleton] at hlen; omega
      have hlast : byte.toNat = 127 := by omega
      have hbit : 127 <<< (7 * 9) % 2 ^ 64 = 1 <<< (7 * 9) := by decide
      have hresult : ((value + 1 * 2 ^ (7 * 9) : Nat) : Int) - 2 ^ 64 = value + 2 ^ (7 * 9) * (((127 : Nat) : Int) - 128) := by
        omega
      rw [if_neg (by omega), hlast, hbit, or_shiftLeft _ hvalue, toInt64, if_neg (by omega), hresult]
  | @more byte tail v hmore hrest ih =>
    have htail := sleb_length_pos hrest
    rw [List.length_cons] at hlen
    obtain ⟨hlow, hcont, -⟩ := byte_bits byte
    have hbyte : byte.toNat < 256 := byte.toNat_lt
    have hfits : 2 ^ (7 * k) ≤ 2 ^ 56 := Nat.pow_le_pow_right (by decide) (by omega)
    have hle : (byte.toNat - 128) * 2 ^ (7 * k) ≤ 127 * 2 ^ (7 * k) := Nat.mul_le_mul_right _ (by omega)
    have hpow : 2 ^ (7 * (k + 1)) = 128 * 2 ^ (7 * k) := by rw [Nat.mul_add, Nat.pow_add, Nat.mul_comm]
    have hword : (byte.toNat - 128) <<< (7 * k) < 2 ^ 64 := by
      rw [Nat.shiftLeft_eq]
      omega
    have hsum : (value : Int) + 2 ^ (7 * k) * ((byte.toNat : Int) - 128 + 128 * v) =
        ((value + (byte.toNat - 128) * 2 ^ (7 * k) : Nat) : Int) + 2 ^ (7 * (k + 1)) * v := by
      push_cast [Nat.cast_sub hmore]
      ring
    rw [hsum] at h0 h1 ⊢
    rw [List.cons_append, popLoop, if_neg (by omega)]
    dsimp only
    rw [if_pos (hcont.mpr hmore), hlow, show byte.toNat % 128 = byte.toNat - 128 by omega, Nat.mod_eq_of_lt hword,
      or_shiftLeft _ hvalue]
    exact ih (by omega) (by omega) h0 h1

theorem pop_minimal {v : Int} (h : SlebMinimal bytes v) (rest : List UInt8) (h0 : -2 ^ 63 ≤ v)
    (h1 : v < 2 ^ 63) : pop (bytes ++ rest) = .ok (v, rest) := by
  have hlen := slebMinimal_length h h0 h1
  have hread := popLoop_sleb h.1 rest (show 0 + bytes.length ≤ 10 by omega) (show 0 < 2 ^ (7 * 0) by decide)
  simp only [Nat.cast_zero, Nat.mul_zero, pow_zero, one_mul, zero_add] at hread
  exact hread h0 h1

/-! ## What can be encoded -/

/-- Entries that are encoded together, and the flags of their group. -/
structure Group where
  flags : Fin 16
  entries : List Relocation

def addendMode (flags : Nat) : Nat := flags &&& (kGroupHasAddend ||| kGroupedByAddend)

/-- The flags can say the entries, which come after `prev`. -/
structure Representable (prev : Relocation) (g : Group) : Prop where
  nonempty : g.entries ≠ []
  offsets : hasFlag g.flags kGroupedByOffsetDelta = true →
    ∃ delta : Int, List.IsChain (fun a b : Relocation => (b.offset : Int) = a.offset + delta) (prev :: g.entries)
  infos : hasFlag g.flags kGroupedByInfo = true → ∃ info, ∀ r ∈ g.entries, r.info = info
  addends : addendMode g.flags = kGroupHasAddend ||| kGroupedByAddend → ∃ addend, ∀ r ∈ g.entries, r.addend = addend
  noAddends : addendMode g.flags ≠ kGroupHasAddend ||| kGroupedByAddend → addendMode g.flags ≠ kGroupHasAddend →
    ∀ r ∈ g.entries, r.addend = 0

def AllRepresentable : Relocation → List Group → Prop
  | _, [] => True
  | prev, g :: rest => Representable prev g ∧ AllRepresentable (g.entries.getLastD prev) rest

section
variable (flags : Nat)

/-- The values an entry has of its own. -/
def entryValues (prev r : Relocation) : List Int :=
  (if hasFlag flags kGroupedByOffsetDelta then [] else [(r.offset : Int) - prev.offset]) ++
    ((if hasFlag flags kGroupedByInfo then [] else [(r.info : Int)]) ++
      (if addendMode flags = kGroupHasAddend then [(r.addend : Int) - prev.addend] else []))

def entriesValues : Relocation → List Relocation → List Int
  | _, [] => []
  | prev, r :: rest => entryValues flags prev r ++ entriesValues r rest

/-- The values its group gives for all entries, of which `r` is the first. -/
def sharedValues (prev r : Relocation) : List Int :=
  (if hasFlag flags kGroupedByOffsetDelta then [(r.offset : Int) - prev.offset] else []) ++
    ((if hasFlag flags kGroupedByInfo then [(r.info : Int)] else []) ++
      (if addendMode flags = kGroupHasAddend ||| kGroupedByAddend then [(r.addend : Int) - prev.addend] else []))

end

def groupsValues : Relocation → List Group → List Int
  | _, [] => []
  | prev, g :: rest =>
    [(g.entries.length : Int), (g.flags.val : Int)] ++ (sharedValues g.flags prev (g.entries.headD prev) ++
      (entriesValues g.flags prev g.entries ++ groupsValues (g.entries.getLastD prev) rest))

/-- All relocations of the groups. -/
def relocations (gs : List Group) : List Relocation := gs.flatMap Group.entries

/-- The values of the whole stream. -/
def streamValues (first : Nat) (gs : List Group) : List Int :=
  [((relocations gs).length : Int), (first : Int)] ++ groupsValues ⟨first, 0, 0⟩ gs

def Relocation.Small (r : Relocation) : Prop := r.offset < 2 ^ 63 ∧ r.info < 2 ^ 63 ∧ r.addend < 2 ^ 63

/-! ## Decoding what was encoded -/

section
variable {s : Decoder} {vs : List Int} {v : Int} {flags : Nat} {prev r : Relocation} {delta : Int}

theorem popValue_all (h : SlebAll (v :: vs) s.bytes) (h0 : -2 ^ 63 ≤ v) (h1 : v < 2 ^ 63) :
    ∃ rest, SlebAll vs rest ∧ popValue s = (.ok v, { s with bytes := rest }) := by
  obtain ⟨bytes, rest, hmin, hrest, hbytes⟩ : ∃ bytes rest, SlebMinimal bytes v ∧ SlebAll vs rest ∧ s.bytes = bytes ++ rest := by
    generalize hb : s.bytes = all at h
    cases h with
    | cons hmin hrest => exact ⟨_, _, hmin, hrest, rfl⟩
  refine ⟨rest, hrest, ?_⟩
  simp only [popValue, hbytes, pop_minimal hmin rest h0 h1]

theorem wrap64_small (h : n < 2 ^ 63) : wrap64 n = n := by
  unfold wrap64 toInt64
  rw [if_pos] <;> omega

/-- The parts of a decoder's state that decide what comes next, after the relocation `prev`
    with the values `vs` still to read. -/
structure At (s : Decoder) (offset info addend : Nat) (result : List Relocation) (vs : List Int) : Prop where
  offset : s.offset = offset
  info : s.info = info
  addend : s.addend = addend
  result : s.result = result
  bytes : SlebAll vs s.bytes

variable {offset info addend : Nat} {result : List Relocation}

theorem addOffset_at (h : At s prev.offset info addend result vs) (hr : r.offset < 2 ^ 63) :
    ∃ s', addOffset ((r.offset : Int) - prev.offset) s = (.ok (), s') ∧ At s' r.offset info addend result vs := by
  refine ⟨_, rfl, ⟨?_, h.info, h.addend, h.result, h.bytes⟩⟩
  show wrap64 (s.offset + _) = _
  rw [h.offset, show (prev.offset : Int) + (r.offset - prev.offset) = r.offset by omega, wrap64_small hr]

theorem addAddend_at (h : At s offset info prev.addend result vs) (hr : r.addend < 2 ^ 63) :
    ∃ s', addAddend ((r.addend : Int) - prev.addend) s = (.ok (), s') ∧ At s' offset info r.addend result vs := by
  refine ⟨_, rfl, ⟨h.offset, h.info, ?_, h.result, h.bytes⟩⟩
  show wrap64 (s.addend + _) = _
  rw [h.addend, show (prev.addend : Int) + (r.addend - prev.addend) = r.addend by omega, wrap64_small hr]

/-- A value that is read, and then what is done with it. -/
theorem popValue_andThen_at {f : Int → Decode Unit} {offset' info' addend' : Nat}
    (h : At s offset info addend result (v :: vs)) (h0 : -2 ^ 63 ≤ v) (h1 : v < 2 ^ 63)
    (hf : ∀ s₁, At s₁ offset info addend result vs → ∃ s', f v s₁ = (.ok (), s') ∧ At s' offset' info' addend' result vs) :
    ∃ s', popValue.andThen f s = (.ok (), s') ∧ At s' offset' info' addend' result vs := by
  obtain ⟨rest, hrest, hpop⟩ := popValue_all h.bytes h0 h1
  rw [Decode.andThen_of_ok hpop]
  exact hf _ ⟨h.offset, h.info, h.addend, h.result, hrest⟩

theorem skip_at (h : At s offset info addend result vs) : ∃ s', skip s = (.ok (), s') ∧ At s' offset info addend result vs :=
  ⟨s, rfl, h⟩

theorem entry_at (h : At s prev.offset i a result (entryValues flags prev r ++ vs)) (hprev : prev.Small)
    (hr : r.Small) (hoffset : hasFlag flags kGroupedByOffsetDelta = true → delta = (r.offset : Int) - prev.offset)
    (hinfo : hasFlag flags kGroupedByInfo = true → i = r.info)
    (haddend : a = if addendMode flags = kGroupHasAddend then prev.addend else r.addend) :
    ∃ s', entry flags delta s = (.ok (), s') ∧ At s' r.offset r.info r.addend (result ++ [r]) vs := by
  obtain ⟨hr0, hr1, hr2⟩ := hr
  obtain ⟨hp0, hp1, hp2⟩ := hprev
  unfold entryValues at h
  rw [List.append_assoc, List.append_assoc] at h
  -- the offset
  obtain ⟨s₁, hrun₁, h₁⟩ : ∃ s₁,
      (if hasFlag flags kGroupedByOffsetDelta then addOffset delta else popValue.andThen addOffset) s = (.ok (), s₁) ∧
        At s₁ r.offset i a result
          ((if hasFlag flags kGroupedByInfo then [] else [(r.info : Int)]) ++
            ((if addendMode flags = kGroupHasAddend then [(r.addend : Int) - prev.addend] else []) ++ vs)) := by
    by_cases hflag : hasFlag flags kGroupedByOffsetDelta = true
    · rw [if_pos hflag, List.nil_append] at h
      rw [if_pos hflag, hoffset hflag]
      exact addOffset_at h hr0
    · rw [if_neg hflag, List.singleton_append] at h
      rw [if_neg hflag]
      exact popValue_andThen_at h (by omega) (by omega) fun s' h' => addOffset_at h' hr0
  -- the info
  obtain ⟨s₂, hrun₂, h₂⟩ : ∃ s₂,
      (if hasFlag flags kGroupedByInfo then skip else popValue.andThen setInfo) s₁ = (.ok (), s₂) ∧
        At s₂ r.offset r.info a result
          ((if addendMode flags = kGroupHasAddend then [(r.addend : Int) - prev.addend] else []) ++ vs) := by
    by_cases hflag : hasFlag flags kGroupedByInfo = true
    · rw [if_pos hflag, List.nil_append, hinfo hflag] at h₁
      rw [if_pos hflag]
      exact skip_at h₁
    · rw [if_neg hflag, List.singleton_append] at h₁
      rw [if_neg hflag]
      exact popValue_andThen_at h₁ (by omega) (by omega) fun s' h' =>
        ⟨_, rfl, ⟨h'.offset, rfl, h'.addend, h'.result, h'.bytes⟩⟩
  -- the addend
  obtain ⟨s₃, hrun₃, h₃⟩ : ∃ s₃,
      (if addendMode flags = kGroupHasAddend then popValue.andThen addAddend else skip) s₂ = (.ok (), s₃) ∧
        At s₃ r.offset r.info r.addend result vs := by
    by_cases hmode : addendMode flags = kGroupHasAddend
    · rw [if_pos hmode] at h₂ haddend
      rw [if_pos hmode]
      rw [haddend, List.singleton_append] at h₂
      exact popValue_andThen_at h₂ (by omega) (by omega) fun s' h' => addAddend_at h' hr2
    · rw [if_neg hmode] at h₂ haddend
      rw [if_neg hmode]
      rw [haddend, List.nil_append] at h₂
      exact skip_at h₂
  refine ⟨{ s₃ with result := result ++ [r] }, ?_, ⟨h₃.offset, h₃.info, h₃.addend, rfl, h₃.bytes⟩⟩
  have hpush : push s₃ = (.ok (), { s₃ with result := result ++ [r] }) := by
    unfold push
    rw [if_neg (by rw [h₃.offset, h₃.info, h₃.addend]; omega), h₃.result]
    simp [h₃.offset, h₃.info, h₃.addend]
  rw [entry, Decode.andThen_of_ok hrun₁, Decode.andThen_of_ok hrun₂]
  show Decode.andThen (if addendMode flags = kGroupHasAddend then popValue.andThen addAddend else skip) _ s₂ = _
  rw [Decode.andThen_of_ok hrun₃, hpush]

/-- The shared values of a group fit all the entries in it. -/
structure Shares (flags : Nat) (delta : Int) (i a : Nat) (prev : Relocation) (rs : List Relocation) : Prop where
  offsets : hasFlag flags kGroupedByOffsetDelta = true →
    List.IsChain (fun x y : Relocation => (y.offset : Int) = x.offset + delta) (prev :: rs)
  infos : hasFlag flags kGroupedByInfo = true → ∀ r ∈ rs, r.info = i
  addends : addendMode flags ≠ kGroupHasAddend → ∀ r ∈ rs, r.addend = a

theorem entries_at {rs : List Relocation} {g : Nat} {b : Nat}
    (h : At s prev.offset b g result (entriesValues flags prev rs ++ vs)) (hprev : prev.Small) (hrs : ∀ r ∈ rs, r.Small)
    (hshares : Shares flags delta i a prev rs) (hinfo : hasFlag flags kGroupedByInfo = true → b = i)
    (haddend : g = if addendMode flags = kGroupHasAddend then prev.addend else a) :
    ∃ s', entries flags delta rs.length s = (.ok (), s') ∧
      ∃ i', At s' (rs.getLastD prev).offset i'
        (if addendMode flags = kGroupHasAddend then (rs.getLastD prev).addend else a) (result ++ rs) vs := by
  induction rs generalizing s prev b g result with
  | nil =>
    refine ⟨s, rfl, b, ?_⟩
    rw [haddend] at h
    simpa [entriesValues] using h
  | cons r rest ih =>
    have hr := hrs r (List.mem_cons_self ..)
    rw [entriesValues, List.append_assoc] at h
    have hshared : a = r.addend ∨ addendMode flags = kGroupHasAddend := by
      by_cases hmode : addendMode flags = kGroupHasAddend
      · exact .inr hmode
      · exact .inl (hshares.addends hmode r (List.mem_cons_self ..)).symm
    have hstep : hasFlag flags kGroupedByOffsetDelta = true → delta = (r.offset : Int) - prev.offset := by
      intro hflag
      have hnext := (List.isChain_cons_cons.mp (hshares.offsets hflag)).1
      omega
    have hown : hasFlag flags kGroupedByInfo = true → b = r.info := by
      intro hflag
      rw [hinfo hflag, hshares.infos hflag r (List.mem_cons_self ..)]
    obtain ⟨s₁, hrun, h₁⟩ := entry_at h hprev hr hstep hown (by rw [haddend]; rcases hshared with hs | hs <;> simp [hs])
    have hrest : Shares flags delta i a r rest := by
      refine ⟨fun hflag => (List.isChain_cons_cons.mp (hshares.offsets hflag)).2, ?_, ?_⟩
      · exact fun hflag r' hr' => hshares.infos hflag r' (List.mem_cons_of_mem _ hr')
      · exact fun hmode r' hr' => hshares.addends hmode r' (List.mem_cons_of_mem _ hr')
    obtain ⟨s', hrun', i', h'⟩ := ih h₁ hr (fun r' hr' => hrs r' (List.mem_cons_of_mem _ hr')) hrest
      (fun hflag => hshares.infos hflag r (List.mem_cons_self ..))
      (by rcases hshared with hs | hs <;> simp [hs])
    refine ⟨s', ?_, i', ?_⟩
    · rw [List.length_cons, entries, Decode.andThen_of_ok hrun, hrun']
    · rwa [List.getLastD_cons, List.append_cons]

theorem shares_of_representable {g : Group} (h : Representable prev g) :
    Shares g.flags ((g.entries.headD prev).offset - prev.offset) (g.entries.headD prev).info
      (if addendMode g.flags = kGroupHasAddend ||| kGroupedByAddend then (g.entries.headD prev).addend else 0) prev
        g.entries := by
  obtain ⟨first, rest, hentries⟩ := List.exists_cons_of_ne_nil h.nonempty
  have hfirst : first ∈ g.entries := by rw [hentries]; exact List.mem_cons_self ..
  have hhead : g.entries.headD prev = first := by rw [hentries]; rfl
  rw [hhead]
  refine ⟨?_, ?_, ?_⟩
  · intro hflag
    obtain ⟨delta, hchain⟩ := h.offsets hflag
    have hstep : (first.offset : Int) = prev.offset + delta := by
      rw [hentries] at hchain
      exact (List.isChain_cons_cons.mp hchain).1
    rwa [show (first.offset : Int) - prev.offset = delta by omega]
  · intro hflag r hr
    obtain ⟨info, hall⟩ := h.infos hflag
    rw [hall r hr, hall first hfirst]
  · intro hmode r hr
    by_cases hshared : addendMode g.flags = kGroupHasAddend ||| kGroupedByAddend
    · obtain ⟨addend, hall⟩ := h.addends hshared
      rw [if_pos hshared, hall r hr, hall first hfirst]
    · rw [if_neg hshared]
      exact h.noAddends hshared hmode r hr

theorem getLastD_mem {α : Type} {l : List α} (h : l ≠ []) (d : α) : l.getLastD d ∈ l := by
  rw [List.getLastD_eq_getLast?, List.getLast?_eq_some_getLast h]
  exact List.getLast_mem h

theorem group_at {g : Group} {b : Nat} (hg : Representable prev g) (hprev : prev.Small) (hrs : ∀ r ∈ g.entries, r.Small)
    (h : At s prev.offset b prev.addend result
      (sharedValues g.flags prev (g.entries.headD prev) ++ (entriesValues g.flags prev g.entries ++ vs))) :
    ∃ s', group g.entries.length g.flags s = (.ok (), s') ∧
      ∃ i', At s' (g.entries.getLastD prev).offset i' (g.entries.getLastD prev).addend (result ++ g.entries) vs := by
  have hshares := shares_of_representable hg
  have hhead : g.entries.headD prev ∈ g.entries := by
    obtain ⟨first, rest, hentries⟩ := List.exists_cons_of_ne_nil hg.nonempty
    rw [hentries]
    exact List.mem_cons_self ..
  obtain ⟨hf0, hf1, hf2⟩ := hrs _ hhead
  obtain ⟨hp0, hp1, hp2⟩ := hprev
  generalize g.entries.headD prev = first at *
  unfold sharedValues at h
  rw [List.append_assoc, List.append_assoc] at h
  -- the offset delta
  obtain ⟨delta, hdelta, s₁, hrun₁, h₁⟩ : ∃ delta,
      (hasFlag g.flags kGroupedByOffsetDelta = true → delta = (first.offset : Int) - prev.offset) ∧ ∃ s₁,
      (if hasFlag g.flags kGroupedByOffsetDelta then popValue else fun s => (.ok 0, s)) s = (.ok delta, s₁) ∧
        At s₁ prev.offset b prev.addend result
          ((if hasFlag g.flags kGroupedByInfo then [(first.info : Int)] else []) ++
            ((if addendMode g.flags = kGroupHasAddend ||| kGroupedByAddend then [(first.addend : Int) - prev.addend] else []) ++
              (entriesValues g.flags prev g.entries ++ vs))) := by
    by_cases hflag : hasFlag g.flags kGroupedByOffsetDelta = true
    · rw [if_pos hflag, List.singleton_append] at h
      obtain ⟨rest, hrest, hpop⟩ := popValue_all h.bytes (by omega) (by omega)
      rw [if_pos hflag]
      exact ⟨_, fun _ => rfl, _, hpop, ⟨h.offset, h.info, h.addend, h.result, hrest⟩⟩
    · rw [if_neg hflag, List.nil_append] at h
      rw [if_neg hflag]
      exact ⟨0, fun hset => absurd hset hflag, s, rfl, h⟩
  -- the info
  obtain ⟨i, hi, s₂, hrun₂, h₂⟩ : ∃ i, (hasFlag g.flags kGroupedByInfo = true → i = first.info) ∧ ∃ s₂,
      (if hasFlag g.flags kGroupedByInfo then popValue.andThen setInfo else skip) s₁ = (.ok (), s₂) ∧
        At s₂ prev.offset i prev.addend result
          ((if addendMode g.flags = kGroupHasAddend ||| kGroupedByAddend then [(first.addend : Int) - prev.addend] else []) ++
            (entriesValues g.flags prev g.entries ++ vs)) := by
    by_cases hflag : hasFlag g.flags kGroupedByInfo = true
    · rw [if_pos hflag, List.singleton_append] at h₁
      rw [if_pos hflag]
      refine ⟨first.info, fun _ => rfl, ?_⟩
      exact popValue_andThen_at h₁ (by omega) (by omega) fun s' h' =>
        ⟨_, rfl, ⟨h'.offset, rfl, h'.addend, h'.result, h'.bytes⟩⟩
    · rw [if_neg hflag, List.nil_append] at h₁
      rw [if_neg hflag]
      exact ⟨b, fun hset => absurd hset hflag, skip_at h₁⟩
  -- the addend
  generalize ha : (if addendMode g.flags = kGroupHasAddend ||| kGroupedByAddend then first.addend else 0) = a at hshares
  obtain ⟨s₃, hrun₃, h₃⟩ : ∃ s₃,
      (if addendMode g.flags = kGroupHasAddend ||| kGroupedByAddend then popValue.andThen addAddend
        else if addendMode g.flags ≠ kGroupHasAddend then resetAddend else skip) s₂ = (.ok (), s₃) ∧
        At s₃ prev.offset i (if addendMode g.flags = kGroupHasAddend then prev.addend else a) result
          (entriesValues g.flags prev g.entries ++ vs) := by
    by_cases hboth : addendMode g.flags = kGroupHasAddend ||| kGroupedByAddend
    · have hmode : addendMode g.flags ≠ kGroupHasAddend := by rw [hboth]; decide
      rw [if_pos hboth] at h₂ ha
      rw [if_pos hboth, if_neg hmode, ← ha]
      rw [List.singleton_append] at h₂
      exact popValue_andThen_at h₂ (by omega) (by omega) fun s' h' => addAddend_at h' hf2
    · rw [if_neg hboth] at h₂ ha
      rw [if_neg hboth]
      rw [List.nil_append] at h₂
      by_cases hmode : addendMode g.flags = kGroupHasAddend
      · rw [if_neg (not_not_intro hmode), if_pos hmode]
        exact skip_at h₂
      · rw [if_pos hmode, if_neg hmode, ← ha]
        exact ⟨_, rfl, ⟨h₂.offset, h₂.info, rfl, h₂.result, h₂.bytes⟩⟩
  have hshares' : Shares g.flags delta first.info a prev g.entries :=
    ⟨fun hflag => by rw [hdelta hflag]; exact hshares.offsets hflag, hshares.infos, hshares.addends⟩
  obtain ⟨s', hrun', i', h'⟩ := entries_at h₃ ⟨hp0, hp1, hp2⟩ hrs hshares' hi rfl
  refine ⟨s', ?_, i', ?_⟩
  · rw [group, Decode.andThen_of_ok hrun₁, Decode.andThen_of_ok hrun₂]
    show Decode.andThen (if addendMode g.flags = kGroupHasAddend ||| kGroupedByAddend then popValue.andThen addAddend
      else if addendMode g.flags ≠ kGroupHasAddend then resetAddend else skip) _ s₂ = _
    rw [Decode.andThen_of_ok hrun₃, hrun']
  · by_cases hmode : addendMode g.flags = kGroupHasAddend
    · rwa [if_pos hmode] at h'
    · rw [if_neg hmode] at h'
      rwa [hshares.addends hmode _ (getLastD_mem hg.nonempty prev)]

end

/-! ## The groups -/

theorem groups_zero (s : Decoder) : groups 0 s = (.ok (), s) := by
  rw [groups, if_pos rfl]

theorem groups_pos (h : remaining ≠ 0) (s : Decoder) :
    groups remaining s =
      (groupHeader remaining).andThen
      (fun header => (group header.1 header.2).andThen fun _ => groups (remaining - header.1)) s := by
  rw [groups, if_neg h]
  unfold Decode.andThen
  split
  · next e s' hheader => simp only [hheader]
  · next size flags s' hheader =>
    simp only [hheader]
    split
    · next e s'' hgroup => simp only [hgroup]
    · next s'' hgroup => simp only [hgroup]

section
variable {s : Decoder} {prev : Relocation} {result : List Relocation} {b : Nat}

theorem groupHeader_at (remaining : Nat) {vs : List Int} {flags : Fin 16} {offset info addend : Nat}
    (h : At s offset info addend result ((size : Int) :: (flags.val : Int) :: vs)) (hsize : 0 < size) (hle : size ≤ remaining)
    (hmax : size < 2 ^ 63) :
    ∃ s', groupHeader remaining s = (.ok (size, flags.val), s') ∧ At s' offset info addend result vs := by
  have hflags := flags.isLt
  obtain ⟨rest, hrest, hpop⟩ := popValue_all h.bytes (by omega) (by omega)
  obtain ⟨rest', hrest', hpop'⟩ := popValue_all (s := { s with bytes := rest }) hrest (by omega) (by omega)
  refine ⟨{ s with bytes := rest' }, ?_, ⟨h.offset, h.info, h.addend, h.result, hrest'⟩⟩
  rw [groupHeader, Decode.andThen_of_ok hpop, Decode.andThen_of_ok hpop', if_neg (by omega)]
  rfl

theorem groups_at {gs : List Group} (hgs : AllRepresentable prev gs) (hprev : prev.Small)
    (hsmall : ∀ r ∈ relocations gs, r.Small) (hmax : (relocations gs).length < 2 ^ 63)
    (h : At s prev.offset b prev.addend result (groupsValues prev gs)) :
    ∃ s', groups (relocations gs).length s = (.ok (), s') ∧ s'.result = result ++ relocations gs ∧ s'.bytes = [] := by
  induction gs generalizing s prev b result with
  | nil =>
    refine ⟨s, groups_zero s, by simpa [relocations] using h.result, ?_⟩
    have hnone : SlebAll [] s.bytes := h.bytes
    generalize s.bytes = bytes at hnone
    cases hnone
    rfl
  | cons g rest ih =>
    obtain ⟨hg, hrest⟩ := hgs
    have hall : relocations (g :: rest) = g.entries ++ relocations rest := rfl
    rw [hall] at hsmall hmax ⊢
    rw [List.length_append] at hmax ⊢
    have hpos : 0 < g.entries.length := List.length_pos_iff.mpr hg.nonempty
    have hentries : ∀ r ∈ g.entries, r.Small := fun r hr => hsmall r (List.mem_append_left _ hr)
    obtain ⟨s₁, hheader, h₁⟩ := groupHeader_at (g.entries.length + (relocations rest).length) h hpos (by omega) (by omega)
    obtain ⟨s₂, hgroup, i, h₂⟩ := group_at hg hprev hentries h₁
    obtain ⟨s', hrun, hresult, hbytes⟩ := ih hrest (hentries _ (getLastD_mem hg.nonempty prev))
      (fun r hr => hsmall r (List.mem_append_right _ hr)) (by omega) h₂
    refine ⟨s', ?_, by rw [hresult, List.append_assoc], hbytes⟩
    rw [groups_pos (by omega), Decode.andThen_of_ok hheader, Decode.andThen_of_ok hgroup, Nat.add_sub_cancel_left, hrun]

end

/-! ## How many are decoded -/

/-- A success makes the result so much longer. -/
def Adds {α : Type} (n : Nat) (x : Decode α) : Prop := ∀ s a s', x s = (.ok a, s') → s'.result.length = s.result.length + n

theorem adds_andThen {m : Nat} {x : Decode α} (hx : Adds m x) (hf : ∀ a, Adds n (f a)) :
    Adds (m + n) (x.andThen f) := by
  intro s b s'' h
  obtain ⟨a, s', hrun, hnext⟩ := Decode.andThen_inv h
  have h₁ := hx s a s' hrun
  have h₂ := hf a s' b s'' hnext
  omega

theorem adds_popValue : Adds 0 popValue := by
  intro s a s' h
  unfold popValue at h
  split at h
  · obtain rfl := (Prod.mk.inj h).2
    rfl
  · exact absurd (Prod.mk.inj h).1 (by simp)

theorem adds_set {f : Decoder → Decoder} (hf : ∀ s, (f s).result = s.result) :
    Adds 0 (fun s => (.ok (), f s) : Decode Unit) := by
  intro s a s' h
  obtain rfl := (Prod.mk.inj h).2
  rw [hf]
  rfl

theorem adds_push : Adds 1 push := by
  intro s a s' h
  unfold push at h
  split at h
  · exact absurd (Prod.mk.inj h).1 (by simp)
  · obtain rfl := (Prod.mk.inj h).2
    simp

theorem adds_ite {α : Type} {p : Prop} [Decidable p] {x y : Decode α} (hx : Adds n x) (hy : Adds n y) :
    Adds n (if p then x else y) := by
  by_cases h : p
  · rwa [if_pos h]
  · rwa [if_neg h]

theorem adds_skip : Adds 0 skip := adds_set (fun _ => rfl)
theorem adds_addOffset (delta : Int) : Adds 0 (addOffset delta) := adds_set (fun _ => rfl)
theorem adds_addAddend (delta : Int) : Adds 0 (addAddend delta) := adds_set (fun _ => rfl)
theorem adds_setInfo (value : Int) : Adds 0 (setInfo value) := adds_set (fun _ => rfl)
theorem adds_resetAddend : Adds 0 resetAddend := adds_set (fun _ => rfl)

theorem adds_entry (flags : Nat) (delta : Int) : Adds 1 (entry flags delta) := by
  have hread : ∀ {f : Int → Decode Unit}, (∀ v, Adds 0 (f v)) → Adds 0 (popValue.andThen f) := fun hf =>
    adds_andThen adds_popValue hf
  have hoffset := adds_ite (p := hasFlag flags kGroupedByOffsetDelta = true) (adds_addOffset delta) (hread adds_addOffset)
  have hinfo := adds_ite (p := hasFlag flags kGroupedByInfo = true) adds_skip (hread adds_setInfo)
  have haddend := adds_ite (p := addendMode flags = kGroupHasAddend) (hread adds_addAddend) adds_skip
  exact adds_andThen hoffset fun _ => adds_andThen hinfo fun _ => adds_andThen haddend fun _ => adds_push

theorem adds_entries (flags : Nat) (delta : Int) (count : Nat) : Adds count (entries flags delta count) := by
  induction count with
  | zero => exact adds_skip
  | succ count ih =>
    have hboth : Adds (1 + count) (entries flags delta (count + 1)) := adds_andThen (adds_entry flags delta) fun _ => ih
    rwa [Nat.add_comm] at hboth

theorem adds_group (size flags : Nat) : Adds size (group size flags) := by
  have hdelta : Adds 0 (if hasFlag flags kGroupedByOffsetDelta then popValue else fun s => (.ok 0, s)) := by
    apply adds_ite adds_popValue
    intro s a s' h
    obtain rfl := (Prod.mk.inj h).2
    rfl
  have hinfo := adds_ite (p := hasFlag flags kGroupedByInfo = true) (adds_andThen adds_popValue adds_setInfo) adds_skip
  have haddend := adds_ite (p := addendMode flags = kGroupHasAddend ||| kGroupedByAddend)
    (adds_andThen adds_popValue adds_addAddend) (adds_ite (p := addendMode flags ≠ kGroupHasAddend) adds_resetAddend adds_skip)
  have hall := adds_andThen hdelta fun delta => adds_andThen hinfo fun _ => adds_andThen haddend fun _ =>
    adds_entries flags delta size
  rwa [Nat.zero_add, Nat.zero_add, Nat.zero_add] at hall

theorem adds_groupHeader (remaining : Nat) : Adds 0 (groupHeader remaining) := by
  refine adds_andThen (m := 0) (n := 0) adds_popValue fun size => adds_andThen (m := 0) (n := 0) adds_popValue ?_
  intro flags s a s' h
  dsimp only at h
  split at h
  · exact absurd (Prod.mk.inj h).1 (by simp)
  · obtain rfl := (Prod.mk.inj h).2
    rfl

theorem adds_groups (remaining : Nat) : Adds remaining (groups remaining) := by
  induction remaining using Nat.strong_induction_on with
  | _ remaining ih =>
    intro s a s' h
    by_cases hzero : remaining = 0
    · subst hzero
      rw [groups_zero] at h
      obtain rfl := (Prod.mk.inj h).2
      rfl
    · rw [groups_pos hzero] at h
      obtain ⟨⟨size, flags⟩, s₁, hheader, h⟩ := Decode.andThen_inv h
      obtain ⟨_, s₂, hgroup, h⟩ := Decode.andThen_inv h
      obtain ⟨hpos, hle⟩ := groupHeader_size hheader
      have h₁ := adds_groupHeader remaining s _ s₁ hheader
      have h₂ := adds_group size flags s₁ _ s₂ hgroup
      have h₃ := ih (remaining - size) (by omega) s₂ a s' h
      omega

/-! ## The whole stream -/

theorem decodeAps2_encoded {first : Nat} {gs : List Group} (hfirst : first < 2 ^ 63)
    (hgs : AllRepresentable ⟨first, 0, 0⟩ gs) (hsmall : ∀ r ∈ relocations gs, r.Small)
    (hmax : (relocations gs).length ≤ kMaximumRelocations) (hbytes : SlebAll (streamValues first gs) bytes) :
    (decodeAps2 (magic ++ bytes)).1 = .ok (relocations gs) := by
  have hcount : (relocations gs).length < 2 ^ 63 := Nat.lt_of_le_of_lt hmax (by decide)
  have hheader : ∃ rest, SlebAll (groupsValues ⟨first, 0, 0⟩ gs) rest ∧
      relocationHeader bytes = .ok ((relocations gs).length, (first : Int), rest) := by
    unfold streamValues at hbytes
    generalize hvalues : groupsValues ⟨first, 0, 0⟩ gs = values at hbytes ⊢
    cases hbytes with
    | cons hmin hrest =>
      cases hrest with
      | cons hmin' hrest' =>
        refine ⟨_, hrest', ?_⟩
        unfold relocationHeader
        rw [pop_minimal hmin _ (by omega) (by omega)]
        dsimp only
        rw [pop_minimal hmin' _ (by omega) (by omega)]
        dsimp only
        rw [if_neg (by omega)]
        rfl
  obtain ⟨rest, hrest, hheader⟩ := hheader
  have hprev : Relocation.Small ⟨first, 0, 0⟩ := ⟨hfirst, Nat.two_pow_pos _, Nat.two_pow_pos _⟩
  have hat : At { bytes := rest, offset := first } first 0 0 [] (groupsValues ⟨first, 0, 0⟩ gs) := ⟨rfl, rfl, rfl, rfl, hrest⟩
  obtain ⟨s', hrun, hresult, hleft⟩ := groups_at hgs hprev hsmall hcount hat
  have hmagic : ¬(magic ++ bytes).take 4 ≠ magic := by simp [magic]
  have hdrop : (magic ++ bytes).drop 4 = bytes := rfl
  simp only [decodeAps2, if_neg hmagic, hdrop, hheader, hrun]
  rw [if_neg (by simp [hleft]), hresult, List.nil_append]

theorem decodeAps2_announced {encoded : List UInt8} {result : List Relocation} (h : (decodeAps2 encoded).1 = .ok result) :
    ∃ count first rest, relocationHeader (encoded.drop 4) = .ok (count, first, rest) ∧ result.length = count ∧
      (decodeAps2 encoded).2.bytes = [] := by
  unfold decodeAps2 at h ⊢
  dsimp only at h ⊢
  by_cases hmagic : encoded.take 4 ≠ magic
  · rw [if_pos hmagic] at h
    exact absurd h (by simp)
  · rw [if_neg hmagic] at h ⊢
    match hheader : relocationHeader (encoded.drop 4) with
    | .error e =>
      rw [hheader] at h
      exact absurd h (by simp)
    | .ok (count, first, rest) =>
      rw [hheader] at h
      dsimp only at h ⊢
      match hrun : groups count { bytes := rest, offset := first } with
      | (.error e, s) =>
        rw [hrun] at h
        exact absurd h (by simp)
      | (.ok _, s) =>
        rw [hrun] at h
        have hlen := adds_groups count _ _ _ hrun
        dsimp only at h ⊢
        by_cases hleft : s.bytes ≠ []
        · rw [if_pos hleft] at h
          exact absurd h (by simp)
        · rw [if_neg hleft] at h ⊢
          obtain rfl : s.result = result := by simpa using h
          exact ⟨count, first, rest, rfl, by simpa using hlen, not_not.mp hleft⟩

/-- Decoding gives back what was encoded, and whatever it gives is as long as announced with
    nothing left to read. -/
theorem decodeAps2_decodes :
    (∀ (first : Nat) (gs : List Group) (bytes : List UInt8), first < 2 ^ 63 → AllRepresentable ⟨first, 0, 0⟩ gs →
      (∀ r ∈ relocations gs, r.Small) → (relocations gs).length ≤ kMaximumRelocations →
      SlebAll (streamValues first gs) bytes → (decodeAps2 (magic ++ bytes)).1 = .ok (relocations gs)) ∧
    (∀ (encoded : List UInt8) (result : List Relocation), (decodeAps2 encoded).1 = .ok result →
      ∃ count first rest, relocationHeader (encoded.drop 4) = .ok (count, first, rest) ∧ result.length = count ∧
        (decodeAps2 encoded).2.bytes = []) :=
  ⟨fun _ _ _ hfirst hgs hsmall hmax hbytes => decodeAps2_encoded hfirst hgs hsmall hmax hbytes,
    fun _ _ h => decodeAps2_announced h⟩

/-- Two relocations in one group that shares offset delta and info. -/
theorem decodeAps2_decodes_pair :
    (decodeAps2 (magic ++ [2, 0, 2, 11, 8, 8, 32, 8])).1 = .ok [⟨8, 8, 32⟩, ⟨16, 8, 40⟩] := by
  have hfits : AllRepresentable ⟨0, 0, 0⟩ [⟨11, [⟨8, 8, 32⟩, ⟨16, 8, 40⟩]⟩] := by
    refine ⟨⟨by simp, ?_, ?_, ?_, ?_⟩, trivial⟩
    · exact fun _ => ⟨8, by simp⟩
    · exact fun _ => ⟨8, by simp⟩
    · exact fun hmode => absurd hmode (by decide)
    · exact fun _ hmode => absurd (show addendMode 11 = kGroupHasAddend by decide) hmode
  have hbytes : SlebAll (streamValues 0 [⟨11, [⟨8, 8, 32⟩, ⟨16, 8, 40⟩]⟩]) [2, 0, 2, 11, 8, 8, 32, 8] := by
    have hsmall : ∀ byte ∈ ([2, 0, 2, 11, 8, 8, 32, 8] : List UInt8), byte.toNat < 64 := by decide +kernel
    exact slebAll_bytes hsmall
  exact decodeAps2_decodes.1 0 [⟨11, [⟨8, 8, 32⟩, ⟨16, 8, 40⟩]⟩] _ (by decide) hfits
    (by simp [relocations, Relocation.Small]) (by decide) hbytes

end Mocktail.HostAbi

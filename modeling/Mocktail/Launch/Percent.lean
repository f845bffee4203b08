/-
  Mocktail.Launch.Percent — the text helpers of the launch URI parser (`AsciiLower`,
  `ContainsControlBytes`, `IsValidUtf8`, `PercentDecode` in src/runtime/roblox_launch_uri.cc).

  `IsValidUtf8` accepts the well-formed texts (`isValidUtf8_iff`). A percent encoder escapes
  the bytes it does not keep; whatever unreserved bytes it keeps, `PercentDecode` is its
  inverse on control-free UTF-8 (`percentDecode_encode`).
-/

import Mocktail.Launch.Json

namespace Mocktail.Launch

open Mocktail.Lib

def kMaximumParameterCount : Nat := 64

def kMaximumParameterKeyBytes : Nat := 128

def kMaximumParameterValueBytes : Nat := 16 * 1024

def kMaximumRobloxLaunchUriBytes : Nat := 64 * 1024

/-- `std::tolower` of the C locale. -/
def lowerByte (b : UInt8) : UInt8 := if 0x41 ≤ b.toNat ∧ b.toNat ≤ 0x5a then UInt8.ofNat (b.toNat + 0x20) else b

def asciiLower (value : Text) : Text := value.map lowerByte

def isControlByte (b : UInt8) : Bool := decide (b.toNat < 0x20) || b == 0x7f

def containsControlBytes (value : Text) : Bool := value.any isControlByte

/-! ## UTF-8 -/

/-- How many continuation bytes follow a first byte above 0x7f, and its bits. -/
def leadByte (first : Nat) : Option (Nat × Nat) :=
  if 0xc2 ≤ first ∧ first ≤ 0xdf then some (1, first % 32)
  else if 0xe0 ≤ first ∧ first ≤ 0xef then some (2, first % 16)
  else if 0xf0 ≤ first ∧ first ≤ 0xf4 then some (3, first % 8)
  else none

def continueCodePoint : Nat → Text → Option Nat
  | codePoint, [] => some codePoint
  | codePoint, b :: rest => if b.toNat / 64 ≠ 2 then none else continueCodePoint (codePoint * 64 + b.toNat % 64) rest

/-- Overlong forms, surrogates and code points above U+10FFFF. -/
def badCodePoint (count codePoint : Nat) : Bool :=
  count == 2 && decide (codePoint < 0x800) || count == 3 && decide (codePoint < 0x10000) ||
    decide (0xd800 ≤ codePoint) && decide (codePoint ≤ 0xdfff) || decide (0x10ffff < codePoint)

/-- The loop of `IsValidUtf8`; the length is fuel enough. -/
def isValidUtf8Loop : Nat → Text → Bool
  | _, [] => true
  | 0, _ :: _ => false
  | fuel + 1, first :: rest =>
    if first.toNat ≤ 0x7f then isValidUtf8Loop fuel rest
    else
      match leadByte first.toNat with
      | none => false
      | some (count, bits) =>
        if rest.length < count then false
        else
          match continueCodePoint bits (rest.take count) with
          | none => false
          | some codePoint => if badCodePoint count codePoint then false else isValidUtf8Loop fuel (rest.drop count)

def isValidUtf8 (value : Text) : Bool := isValidUtf8Loop value.length value

variable {n : Nat}

theorem toNat_byte (h : n < 256) : (UInt8.ofNat n).toNat = n := by
  rw [UInt8.toNat_ofNat']
  omega

theorem isValidUtf8Loop_row (fuel : Nat) {first : UInt8} {tail : Text} {bits c : Nat} (r : Text)
    (hfirst : ¬ first.toNat ≤ 0x7f) (hlead : leadByte first.toNat = some (tail.length, bits))
    (hcont : continueCodePoint bits tail = some c) (hgood : badCodePoint tail.length c = false) :
    isValidUtf8Loop (fuel + 1) (first :: (tail ++ r)) = isValidUtf8Loop fuel r := by
  simp only [isValidUtf8Loop, hlead, List.length_append, List.take_left, List.drop_left, hcont, hgood]
  rw [if_neg hfirst, if_neg (by omega), if_neg (by decide)]

theorem isValidUtf8Loop_encode (fuel c : Nat) (r : Text) (hc : Utf8.Scalar c) :
    isValidUtf8Loop (fuel + 1) (Utf8.encode c ++ r) = isValidUtf8Loop fuel r := by
  have hlt := Utf8.scalar_lt hc
  rcases Utf8.encode_cases c with ⟨h1, e⟩ | ⟨h1, h2, e⟩ | ⟨h1, h2, e⟩ | ⟨h1, e⟩ <;> rw [e]
  · have ha := toNat_byte (n := c) (by omega)
    simp only [List.singleton_append, isValidUtf8Loop, ha]
    rw [if_pos (by omega)]
  · have ha := toNat_byte (n := 0xc0 + c / 64) (by omega)
    have hb := toNat_byte (n := 0x80 + c % 64) (by omega)
    refine @isValidUtf8Loop_row fuel _ [_] (c / 64) c r (by omega) ?_ ?_ ?_
    · rw [ha, leadByte, if_pos (by omega)]
      have hbits : (0xc0 + c / 64) % 32 = c / 64 := by omega
      rw [hbits]
      rfl
    · simp only [continueCodePoint, hb]
      rw [if_neg (by omega)]
      congr 1
      omega
    · simp [badCodePoint]
      omega
  · have ha := toNat_byte (n := 0xe0 + c / 4096) (by omega)
    have hb := toNat_byte (n := 0x80 + c / 64 % 64) (by omega)
    have hd := toNat_byte (n := 0x80 + c % 64) (by omega)
    refine @isValidUtf8Loop_row fuel _ [_, _] (c / 4096) c r (by omega) ?_ ?_ ?_
    · rw [ha, leadByte, if_neg (by omega), if_pos (by omega)]
      have hbits : (0xe0 + c / 4096) % 16 = c / 4096 := by omega
      rw [hbits]
      rfl
    · simp only [continueCodePoint, hb, hd]
      rw [if_neg (by omega), if_neg (by omega)]
      congr 1
      omega
    · rcases hc with hc | hc <;> simp [badCodePoint] <;> omega
  · have ha := toNat_byte (n := 0xf0 + c / 262144) (by omega)
    have hb := toNat_byte (n := 0x80 + c / 4096 % 64) (by omega)
    have hd := toNat_byte (n := 0x80 + c / 64 % 64) (by omega)
    have hf := toNat_byte (n := 0x80 + c % 64) (by omega)
    refine @isValidUtf8Loop_row fuel _ [_, _, _] (c / 262144) c r (by omega) ?_ ?_ ?_
    · rw [ha, leadByte, if_neg (by omega), if_neg (by omega), if_pos (by omega)]
      have hbits : (0xf0 + c / 262144) % 8 = c / 262144 := by omega
      rw [hbits]
      rfl
    · simp only [continueCodePoint, hb, hd, hf]
      rw [if_neg (by omega), if_neg (by omega), if_neg (by omega)]
      congr 1
      omega
    · simp [badCodePoint]
      omega

variable {b : UInt8}

theorem continuation_eq (hb : b.toNat / 64 = 2) (hn : n % 64 = b.toNat % 64) :
    UInt8.ofNat (0x80 + n % 64) = b := by
  have he : 0x80 + n % 64 = b.toNat := by omega
  rw [he, UInt8.ofNat_toNat]

theorem byte_eq {a : UInt8} (h : n = a.toNat) : UInt8.ofNat n = a := by rw [h, UInt8.ofNat_toNat]

theorem continueCodePoint_cons {bits c : Nat} {rest : Text} (h : continueCodePoint bits (b :: rest) = some c) :
    b.toNat / 64 = 2 ∧ continueCodePoint (bits * 64 + b.toNat % 64) rest = some c := by
  simp only [continueCodePoint] at h
  split at h
  · cases h
  · rename_i hb
    exact ⟨by omega, h⟩

theorem isValidUtf8Loop_front {fuel : Nat} {first : UInt8} {rest : Text}
    (h : isValidUtf8Loop (fuel + 1) (first :: rest) = true) :
    ∃ c r, Utf8.Scalar c ∧ first :: rest = Utf8.encode c ++ r ∧ isValidUtf8Loop fuel r = true := by
  simp only [isValidUtf8Loop] at h
  split at h
  · rename_i h1
    refine ⟨first.toNat, rest, Or.inl (by omega), ?_, h⟩
    rw [Utf8.encode_ascii (by omega), byte_eq rfl]
    rfl
  split at h
  · cases h
  rename_i count bits hlead
  split at h
  · cases h
  rename_i hlen
  split at h
  · cases h
  rename_i c hcont
  split at h
  · cases h
  rename_i hgood
  have hrest : rest = rest.take count ++ rest.drop count := (List.take_append_drop count rest).symm
  have htake : (rest.take count).length = count := List.length_take_of_le (by omega)
  generalize rest.take count = tail at hrest htake hcont
  generalize rest.drop count = r at hrest h
  rw [hrest]
  simp only [badCodePoint, Bool.or_eq_true, Bool.and_eq_true, beq_iff_eq, decide_eq_true_eq, not_or, not_and,
    Nat.not_lt] at hgood
  obtain ⟨⟨⟨hover2, hover3⟩, hsur⟩, hmax⟩ := hgood
  have hscalar : Utf8.Scalar c := by
    unfold Utf8.Scalar
    by_cases hc : 0xd800 ≤ c
    · have := hsur hc
      omega
    · omega
  refine ⟨c, r, hscalar, ?_, h⟩
  rw [← List.cons_append]
  congr 1
  unfold leadByte at hlead
  split at hlead
  · rename_i hrow
    cases hlead
    obtain ⟨b, rfl⟩ := List.length_eq_one_iff.mp htake
    obtain ⟨hb, hc⟩ := continueCodePoint_cons hcont
    have hc : first.toNat % 32 * 64 + b.toNat % 64 = c := Option.some.inj hc
    rcases Utf8.encode_cases c with ⟨h1, e⟩ | ⟨h1, h2, e⟩ | ⟨h1, h2, e⟩ | ⟨h1, e⟩
    · omega
    · rw [e, byte_eq (a := first) (by omega), continuation_eq hb (by omega)]
    · omega
    · omega
  split at hlead
  · rename_i hrow
    cases hlead
    obtain ⟨b, d, rfl⟩ := List.length_eq_two.mp htake
    obtain ⟨hb, hcont⟩ := continueCodePoint_cons hcont
    obtain ⟨hd, hc⟩ := continueCodePoint_cons hcont
    have hc : (first.toNat % 16 * 64 + b.toNat % 64) * 64 + d.toNat % 64 = c := Option.some.inj hc
    have := hover2 rfl
    rcases Utf8.encode_cases c with ⟨h1, e⟩ | ⟨h1, h2, e⟩ | ⟨h1, h2, e⟩ | ⟨h1, e⟩
    · omega
    · omega
    · rw [e, byte_eq (a := first) (by omega), continuation_eq hb (by omega), continuation_eq hd (by omega)]
    · omega
  split at hlead
  · rename_i hrow
    cases hlead
    obtain ⟨b, d, f, rfl⟩ := List.length_eq_three.mp htake
    obtain ⟨hb, hcont⟩ := continueCodePoint_cons hcont
    obtain ⟨hd, hcont⟩ := continueCodePoint_cons hcont
    obtain ⟨hf, hc⟩ := continueCodePoint_cons hcont
    have hc : ((first.toNat % 8 * 64 + b.toNat % 64) * 64 + d.toNat % 64) * 64 + f.toNat % 64 = c := Option.some.inj hc
    have := hover3 rfl
    rcases Utf8.encode_cases c with ⟨h1, e⟩ | ⟨h1, h2, e⟩ | ⟨h1, h2, e⟩ | ⟨h1, e⟩
    · omega
    · omega
    · omega
    · rw [e, byte_eq (a := first) (by omega), continuation_eq hb (by omega), continuation_eq hd (by omega),
        continuation_eq hf (by omega)]
  · cases hlead

variable {value : Text}

theorem wellFormed_of_valid (fuel : Nat) (h : isValidUtf8Loop fuel value = true) : Utf8.WellFormed value := by
  induction fuel generalizing value with
  | zero =>
    cases value with
    | nil => exact Utf8.wellFormed_nil
    | cons b rest => cases h
  | succ fuel ih =>
    cases value with
    | nil => exact Utf8.wellFormed_nil
    | cons b rest =>
      obtain ⟨c, r, hc, heq, hr⟩ := isValidUtf8Loop_front h
      rw [heq]
      exact (Utf8.wellFormed_encode hc).append (ih hr)

theorem valid_of_wellFormed (fuel : Nat) (h : Utf8.WellFormed value) (hf : value.length ≤ fuel) :
    isValidUtf8Loop fuel value = true := by
  induction fuel generalizing value with
  | zero =>
    cases value with
    | nil => rfl
    | cons b rest => simp at hf
  | succ fuel ih =>
    rcases h.cases with rfl | ⟨c, r, hc, rfl, hr⟩
    · rfl
    · have hpos : 0 < (Utf8.encode c).length := List.length_pos_of_ne_nil (Utf8.encode_ne_nil c)
      rw [List.length_append] at hf
      rw [isValidUtf8Loop_encode fuel c r hc]
      exact ih hr (by omega)

theorem isValidUtf8_iff : isValidUtf8 value = true ↔ Utf8.WellFormed value :=
  ⟨wellFormed_of_valid _, fun h => valid_of_wellFormed _ h le_rfl⟩

/-! ## Percent encoding -/

def hexDigitValue (b : UInt8) : Option Nat :=
  let n := b.toNat
  if 0x30 ≤ n ∧ n ≤ 0x39 then some (n - 0x30)
  else if 0x61 ≤ n ∧ n ≤ 0x66 then some (n - 0x61 + 10)
  else if 0x41 ≤ n ∧ n ≤ 0x46 then some (n - 0x41 + 10)
  else none

/-- A decoded byte in front of the rest, unless it is a control byte. -/
def pushDecoded (b : UInt8) (rest : Result Text) : Result Text :=
  if isControlByte b then invalid "Roblox launch URI contains a control byte" else rest.map (b :: ·)

def percentDecodeLoop (plusAsSpace : Bool) : Text → Result Text
  | [] => .ok []
  | b :: rest =>
    if b = 0x25 then
      match rest with
      | high :: low :: rest =>
        match hexDigitValue high, hexDigitValue low with
        | some h, some l => pushDecoded (UInt8.ofNat (h * 16 + l)) (percentDecodeLoop plusAsSpace rest)
        | _, _ => invalid "Roblox launch URI contains invalid percent encoding"
      | _ => invalid "Roblox launch URI contains invalid percent encoding"
    else pushDecoded (if b = 0x2b ∧ plusAsSpace = true then 0x20 else b) (percentDecodeLoop plusAsSpace rest)

def percentDecode (encoded : Text) (plusAsSpace : Bool) : Result Text :=
  if kMaximumParameterValueBytes < encoded.length then invalid "Roblox launch parameter size is invalid"
  else
    match percentDecodeLoop plusAsSpace encoded with
    | .error e => .error e
    | .ok decoded =>
      if kMaximumParameterValueBytes < decoded.length ∨ isValidUtf8 decoded = false then
        invalid "Roblox launch parameter is not bounded UTF-8"
      else .ok decoded

/-- Letters, digits and `-._~`: the bytes that stand for themselves in every part of a URI. -/
def unreserved (b : UInt8) : Bool :=
  let n := b.toNat
  decide (0x30 ≤ n ∧ n ≤ 0x39) || decide (0x41 ≤ n ∧ n ≤ 0x5a) || decide (0x61 ≤ n ∧ n ≤ 0x7a) ||
    n == 0x2d || n == 0x2e || n == 0x5f || n == 0x7e

/-- A percent encoder: which of the unreserved bytes it leaves as they are. -/
structure PercentEncoder where
  keep : UInt8 → Bool
  keep_unreserved : ∀ b, keep b = true → unreserved b = true

def hexDigit (n : Nat) : UInt8 := if n < 10 then UInt8.ofNat (0x30 + n) else UInt8.ofNat (0x41 + (n - 10))

def PercentEncoder.encodeByte (e : PercentEncoder) (b : UInt8) : Text :=
  if e.keep b then [b] else [0x25, hexDigit (b.toNat / 16), hexDigit (b.toNat % 16)]

def PercentEncoder.encode (e : PercentEncoder) (value : Text) : Text := value.flatMap e.encodeByte

theorem hexDigitValue_hexDigit (h : n < 16) : hexDigitValue (hexDigit n) = some n := by
  have hall : ∀ n < 16, hexDigitValue (hexDigit n) = some n := by decide
  exact hall n h

theorem unreserved_hexDigit (h : n < 16) : unreserved (hexDigit n) = true := by
  have hall : ∀ n < 16, unreserved (hexDigit n) = true := by decide
  exact hall n h

section
variable {e : PercentEncoder}

theorem encode_cons (b : UInt8) (value : Text) : e.encode (b :: value) = e.encodeByte b ++ e.encode value := by
  simp [PercentEncoder.encode]

theorem mem_encode (h : b ∈ e.encode value) : unreserved b = true ∨ b = 0x25 := by
  obtain ⟨c, -, hb⟩ := List.mem_flatMap.mp h
  have hc := c.toNat_lt
  unfold PercentEncoder.encodeByte at hb
  split at hb
  · rename_i hk
    obtain rfl := List.mem_singleton.mp hb
    exact Or.inl (e.keep_unreserved _ hk)
  · simp only [List.mem_cons, List.not_mem_nil, or_false] at hb
    rcases hb with rfl | rfl | rfl
    · exact Or.inr rfl
    · exact Or.inl (unreserved_hexDigit (by omega))
    · exact Or.inl (unreserved_hexDigit (by omega))

theorem not_mem_encode (value : Text) (hu : unreserved b = false) (hp : b ≠ 0x25) : b ∉ e.encode value := by
  intro h
  rcases mem_encode h with h | h
  · rw [hu] at h
    cases h
  · exact hp h

theorem length_le_encode (value : Text) : value.length ≤ (e.encode value).length := by
  induction value with
  | nil => exact le_rfl
  | cons b value ih =>
    have hb : 1 ≤ (e.encodeByte b).length := by
      unfold PercentEncoder.encodeByte
      split <;> simp
    rw [encode_cons, List.length_append, List.length_cons]
    omega

theorem encode_ne_nil (h : value ≠ []) : e.encode value ≠ [] := by
  have hlen := length_le_encode (e := e) value
  have hpos := List.length_pos_of_ne_nil h
  exact List.ne_nil_of_length_pos (by omega)

theorem percentDecodeLoop_encodeByte (plusAsSpace : Bool) (b : UInt8) (rest : Text) :
    percentDecodeLoop plusAsSpace (e.encodeByte b ++ rest) = pushDecoded b (percentDecodeLoop plusAsSpace rest) := by
  have hlt := b.toNat_lt
  unfold PercentEncoder.encodeByte
  split
  · rename_i hk
    have hu := e.keep_unreserved b hk
    have h25 : b ≠ 0x25 := by
      intro heq
      subst heq
      cases hu
    have h2b : ¬ (b = 0x2b ∧ plusAsSpace = true) := by
      intro hex
      obtain ⟨rfl, -⟩ := hex
      cases hu
    rw [List.singleton_append, percentDecodeLoop.eq_def]
    simp only
    rw [if_neg h25, if_neg h2b]
  · have hb : UInt8.ofNat (b.toNat / 16 * 16 + b.toNat % 16) = b := byte_eq (by omega)
    simp only [List.cons_append, List.nil_append]
    rw [percentDecodeLoop]
    simp only [if_true, hexDigitValue_hexDigit (show b.toNat / 16 < 16 by omega),
      hexDigitValue_hexDigit (show b.toNat % 16 < 16 by omega), hb]

theorem percentDecodeLoop_encode (plusAsSpace : Bool) (h : containsControlBytes value = false) :
    percentDecodeLoop plusAsSpace (e.encode value) = .ok value := by
  induction value with
  | nil => rfl
  | cons b value ih =>
    simp only [containsControlBytes, List.any_cons, Bool.or_eq_false_iff] at h
    rw [encode_cons, percentDecodeLoop_encodeByte, ih h.2, pushDecoded, h.1]
    rfl

/-- `PercentDecode` undoes a percent encoder. -/
theorem percentDecode_encode (plusAsSpace : Bool) (hc : containsControlBytes value = false)
    (hw : Utf8.WellFormed value) (hsize : (e.encode value).length ≤ kMaximumParameterValueBytes) :
    percentDecode (e.encode value) plusAsSpace = .ok value := by
  have hlen := length_le_encode (e := e) value
  rw [percentDecode, if_neg (by omega), percentDecodeLoop_encode plusAsSpace hc]
  simp only
  rw [if_neg]
  rw [isValidUtf8_iff.mpr hw]
  simp only [Bool.true_eq_false, or_false]
  omega

end

end Mocktail.Launch

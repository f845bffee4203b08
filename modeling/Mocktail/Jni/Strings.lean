/-
  Mocktail.Jni.Strings — Java strings of the pseudo-JVM (src/jnivm/jni_strings.cc).

  A string object holds its UTF-16 code units and two encodings of them: `value`, standard
  UTF-8 with every unpaired surrogate replaced, and `modifiedUtf8`, where each unit is
  written by itself and NUL as 0xc0 0x80. `GetStringUTFChars` returns the second.

  The decoder reads both modified and standard UTF-8: `modifiedUnit` below is the standard
  table on every unit but NUL, so one lemma (`decodeUnit_encode`) covers what the encoder
  writes and what a client passes to `NewStringUTF`.
  - `modified_utf8_faithful`: no zero byte, the decoder is a left inverse, regions concatenate.
  - `makeString_modifiedUtf8`: a well-formed text is read back unchanged, with each code
    point above U+FFFF written as its two surrogates.
-/

import Mathlib.Data.List.TakeWhile
import Mocktail.Lib.Utf8

namespace Mocktail.Jni

open Mocktail.Lib

/-! ## The source's functions -/

def appendUtf8CodePoint (codePoint : Nat) : List UInt8 :=
  if codePoint ≤ 0x7f then [UInt8.ofNat codePoint]
  else if codePoint ≤ 0x7ff then
    [UInt8.ofNat (0xc0 ||| (codePoint >>> 6)), UInt8.ofNat (0x80 ||| (codePoint &&& 0x3f))]
  else if codePoint ≤ 0xffff then
    [UInt8.ofNat (0xe0 ||| (codePoint >>> 12)), UInt8.ofNat (0x80 ||| ((codePoint >>> 6) &&& 0x3f)),
      UInt8.ofNat (0x80 ||| (codePoint &&& 0x3f))]
  else
    [UInt8.ofNat (0xf0 ||| (codePoint >>> 18)), UInt8.ofNat (0x80 ||| ((codePoint >>> 12) &&& 0x3f)),
      UInt8.ofNat (0x80 ||| ((codePoint >>> 6) &&& 0x3f)), UInt8.ofNat (0x80 ||| (codePoint &&& 0x3f))]

def isHigh (unit : UInt16) : Bool := 0xd800 ≤ unit.toNat && unit.toNat ≤ 0xdbff

def isLow (unit : UInt16) : Bool := 0xdc00 ≤ unit.toNat && unit.toNat ≤ 0xdfff

/-- `Utf16ToUtf8`: a high and a low surrogate in a row are one code point. -/
def utf16ToUtf8 : List UInt16 → List UInt8
  | [] => []
  | [unit] => appendUtf8CodePoint (if isHigh unit || isLow unit then 0xfffd else unit.toNat)
  | unit :: next :: rest =>
    if isHigh unit && isLow next then
      appendUtf8CodePoint (0x10000 + ((unit.toNat - 0xd800) <<< 10) + (next.toNat - 0xdc00)) ++ utf16ToUtf8 rest
    else appendUtf8CodePoint (if isHigh unit || isLow unit then 0xfffd else unit.toNat) ++ utf16ToUtf8 (next :: rest)

/-- The body of the loop of `Utf16ToModifiedUtf8`. -/
def modifiedUnit (codeUnit : Nat) : List UInt8 :=
  if codeUnit = 0 then [0xc0, 0x80]
  else if codeUnit ≤ 0x7f then [UInt8.ofNat codeUnit]
  else if codeUnit ≤ 0x7ff then
    [UInt8.ofNat (0xc0 ||| (codeUnit >>> 6)), UInt8.ofNat (0x80 ||| (codeUnit &&& 0x3f))]
  else
    [UInt8.ofNat (0xe0 ||| (codeUnit >>> 12)), UInt8.ofNat (0x80 ||| ((codeUnit >>> 6) &&& 0x3f)),
      UInt8.ofNat (0x80 ||| (codeUnit &&& 0x3f))]

/-- A `count` of `none` is `std::string::npos`, above every size. -/
def utf16ToModifiedUtf8 (utf16 : List UInt16) (begin : Nat := 0) (count : Option Nat := none) : List UInt8 :=
  if utf16.length ≤ begin then []
  else
    let left := utf16.length - begin
    let stop := min utf16.length (begin + (count.elim left fun n => min n left))
    ((utf16.take stop).drop begin).flatMap fun unit => modifiedUnit unit.toNat

/-- One turn of the decoder at the front of `bytes`: the code point and the bytes consumed. -/
def decodeUnit (bytes : List UInt8) : Nat × Nat :=
  let byte (i : Nat) : Nat := (bytes.getD i 0).toNat
  let first := byte 0
  if first ≠ 0 ∧ first ≤ 0x7f then (first, 1)
  else if first &&& 0xe0 = 0xc0 ∧ 1 < bytes.length ∧ byte 1 &&& 0xc0 = 0x80 then
    let codePoint := (first &&& 0x1f) <<< 6 ||| (byte 1 &&& 0x3f)
    if codePoint = 0 ∨ 0x80 ≤ codePoint then (codePoint, 2) else (0xfffd, 1)
  else if first &&& 0xf0 = 0xe0 ∧ 2 < bytes.length ∧ byte 1 &&& 0xc0 = 0x80 ∧ byte 2 &&& 0xc0 = 0x80 then
    let codePoint := (first &&& 0x0f) <<< 12 ||| (byte 1 &&& 0x3f) <<< 6 ||| (byte 2 &&& 0x3f)
    if 0x800 ≤ codePoint then (codePoint, 3) else (0xfffd, 1)
  else if first &&& 0xf8 = 0xf0 ∧ 3 < bytes.length ∧ byte 1 &&& 0xc0 = 0x80 ∧ byte 2 &&& 0xc0 = 0x80 ∧
      byte 3 &&& 0xc0 = 0x80 then
    let codePoint := (first &&& 0x07) <<< 18 ||| (byte 1 &&& 0x3f) <<< 12 ||| (byte 2 &&& 0x3f) <<< 6 |||
      (byte 3 &&& 0x3f)
    if 0x10000 ≤ codePoint ∧ codePoint ≤ 0x10ffff then (codePoint, 4) else (0xfffd, 1)
  else (0xfffd, 1)

/-- The units a code point is written as. -/
def codeUnits (codePoint : Nat) : List UInt16 :=
  if codePoint ≤ 0xffff then [UInt16.ofNat codePoint]
  else
    [UInt16.ofNat (0xd800 + ((codePoint - 0x10000) >>> 10)), UInt16.ofNat (0xdc00 + ((codePoint - 0x10000) &&& 0x3ff))]

/-- Each turn consumes a byte at least, so the size is fuel enough. -/
def decodeLoop : Nat → List UInt8 → List UInt16
  | 0, _ => []
  | _ + 1, [] => []
  | fuel + 1, bytes@(_ :: _) =>
    codeUnits (decodeUnit bytes).1 ++ decodeLoop fuel (bytes.drop (decodeUnit bytes).2)

/-- `strlen` bounds what is read: the bytes before the first zero. -/
def cString (memory : List UInt8) : List UInt8 := memory.takeWhile (· ≠ 0)

/-- `none` is the null pointer. -/
def modifiedUtf8ToUtf16 : Option (List UInt8) → List UInt16
  | none => []
  | some input => decodeLoop (cString input).length (cString input)

/-- A string object: both texts are encodings of its units. -/
structure PseudoStringObject where
  chars : List UInt16
  value : List UInt8
  modifiedUtf8 : List UInt8
  value_eq : value = utf16ToUtf8 chars
  modifiedUtf8_eq : modifiedUtf8 = utf16ToModifiedUtf8 chars

def PseudoStringObject.ofChars (chars : List UInt16) : PseudoStringObject :=
  ⟨chars, utf16ToUtf8 chars, utf16ToModifiedUtf8 chars, rfl, rfl⟩

/-- `MakeString`, the object behind the handle. -/
def makeString (utf : Option (List UInt8)) : PseudoStringObject := .ofChars (modifiedUtf8ToUtf16 utf)

def makeUtf16String (utf16 : List UInt16) : PseudoStringObject := .ofChars utf16

/-- `memcpy` to the front of a buffer. -/
def memcpy (output encoded : List UInt8) : List UInt8 := encoded ++ output.drop encoded.length

/-- `CopyStringModifiedUtf8Region` into a buffer; `str` is `none` for a handle with no object. -/
def copyStringModifiedUtf8Region (str : Option PseudoStringObject) (start length : Int) (output : List UInt8) :
    List UInt8 :=
  match str with
  | none => output
  | some object =>
    if start < 0 ∨ length ≤ 0 then output
    else if object.chars.length ≤ start.toNat then output
    else
      let count := min length.toNat (object.chars.length - start.toNat)
      memcpy output (utf16ToModifiedUtf8 object.chars start.toNat (some count))

/-! ## Bits as arithmetic -/

theorem or_eq_add (a b k : Nat) (ha : a % 2 ^ k = 0) (hb : b < 2 ^ k) : a ||| b = a + b := by
  obtain ⟨m, rfl⟩ := Nat.dvd_of_mod_eq_zero ha
  rw [Nat.two_pow_add_eq_or_of_lt hb]

theorem and_3f (n : Nat) : n &&& 0x3f = n % 64 := Nat.and_two_pow_sub_one_eq_mod n 6

theorem or_80 (n : Nat) : 0x80 ||| (n &&& 0x3f) = 0x80 + n % 64 := by
  rw [and_3f]
  exact or_eq_add _ _ 6 rfl (Nat.mod_lt _ (by decide))

theorem shiftRight_6 (n : Nat) : n >>> 6 = n / 64 := Nat.shiftRight_eq_div_pow n 6

theorem shiftRight_12 (n : Nat) : n >>> 12 = n / 4096 := Nat.shiftRight_eq_div_pow n 12

variable {c : Nat}

/-- The bytes the source builds with shifts and masks are those of the table. -/
theorem appendUtf8CodePoint_eq (h : c < 0x110000) : appendUtf8CodePoint c = Utf8.encode c := by
  unfold appendUtf8CodePoint
  rw [or_80, or_80, or_80, shiftRight_6, shiftRight_12, Nat.shiftRight_eq_div_pow c 18]
  rcases Utf8.encode_cases c with ⟨h1, e⟩ | ⟨h1, h2, e⟩ | ⟨h1, h2, e⟩ | ⟨h1, e⟩
  · rw [e, if_pos (by omega)]
  · rw [e, if_neg (by omega), if_pos (by omega), or_eq_add 0xc0 (c / 64) 5 rfl (by omega)]
  · rw [e, if_neg (by omega), if_neg (by omega), if_pos (by omega), or_eq_add 0xe0 (c / 4096) 4 rfl (by omega)]
  · rw [e, if_neg (by omega), if_neg (by omega), if_neg (by omega),
      or_eq_add 0xf0 (c / 2 ^ 18) 3 rfl (by omega)]

variable {unit : Nat}

/-- Every unit but NUL is written by the same table, the surrogates included. -/
theorem modifiedUnit_eq (h : unit < 0x10000) (h0 : unit ≠ 0) : modifiedUnit unit = Utf8.encode unit := by
  rw [← appendUtf8CodePoint_eq (show unit < 0x110000 by omega)]
  unfold modifiedUnit appendUtf8CodePoint
  rw [if_neg h0, if_pos (show unit ≤ 0xffff by omega)]

theorem and_high : ∀ n < 256, n &&& 0xe0 = n / 32 * 32 ∧ n &&& 0xf0 = n / 16 * 16 ∧ n &&& 0xf8 = n / 8 * 8 ∧
    n &&& 0xc0 = n / 64 * 64 := by
  decide +kernel

/-- The tests of a continuation byte, and the bits it carries. -/
theorem tail_byte (n : Nat) : (UInt8.ofNat (0x80 + n % 64)).toNat &&& 0xc0 = 0x80 ∧
    (UInt8.ofNat (0x80 + n % 64)).toNat &&& 0x3f = n % 64 := by
  have hb : (UInt8.ofNat (0x80 + n % 64)).toNat = 0x80 + n % 64 := by rw [UInt8.toNat_ofNat']; omega
  rw [hb, (and_high (0x80 + n % 64) (by omega)).2.2.2, and_3f]
  omega

theorem lead_byte {n : Nat} (h : n < 256) : (UInt8.ofNat n).toNat = n := by
  rw [UInt8.toNat_ofNat']
  omega

theorem join_two (x : Nat) {y : Nat} (hy : y < 64) : x <<< 6 ||| y = x * 64 + y := by
  rw [Nat.shiftLeft_eq, or_eq_add (x * 2 ^ 6) y 6 (by omega) hy]

theorem join_three (x : Nat) {y z : Nat} (hy : y < 64) (hz : z < 64) :
    x <<< 12 ||| y <<< 6 ||| z = x * 4096 + y * 64 + z := by
  rw [Nat.shiftLeft_eq, Nat.shiftLeft_eq, or_eq_add (x * 2 ^ 12) (y * 2 ^ 6) 12 (by omega) (by omega),
    or_eq_add _ z 6 (by omega) hz]

theorem join_four (w : Nat) {x y z : Nat} (hx : x < 64) (hy : y < 64) (hz : z < 64) :
    w <<< 18 ||| x <<< 12 ||| y <<< 6 ||| z = w * 262144 + x * 4096 + y * 64 + z := by
  rw [Nat.shiftLeft_eq, Nat.shiftLeft_eq, Nat.shiftLeft_eq,
    or_eq_add (w * 2 ^ 18) (x * 2 ^ 12) 18 (by omega) (by omega),
    or_eq_add _ (y * 2 ^ 6) 12 (by omega) (by omega), or_eq_add _ z 6 (by omega) hz]

/-! ## The decoder reads the table back -/

/-- Overlong forms, the four-byte range check and the substitution are not reached. -/
theorem decodeUnit_encode (h0 : c ≠ 0) (h : c < 0x110000) (rest : List UInt8) :
    decodeUnit (Utf8.encode c ++ rest) = (c, (Utf8.encode c).length) := by
  rcases Utf8.encode_cases c with ⟨h1, e⟩ | ⟨h1, h2, e⟩ | ⟨h1, h2, e⟩ | ⟨h1, e⟩ <;> rw [e] <;>
    simp only [decodeUnit, List.cons_append, List.nil_append, List.getD_cons_zero, List.getD_cons_succ,
      List.length_cons, List.length_nil]
  · rw [lead_byte (by omega), if_pos (by omega)]
  · obtain ⟨m1, -⟩ := and_high (0xc0 + c / 64) (by omega)
    obtain ⟨t1, t2⟩ := tail_byte c
    have hf : (0xc0 + c / 64) &&& 0x1f = c / 64 := by
      rw [show (0x1f : Nat) = 2 ^ 5 - 1 by rfl, Nat.and_two_pow_sub_one_eq_mod]; omega
    have hs : (c / 64) <<< 6 ||| c % 64 = c := by
      rw [join_two _ (by omega)]
      omega
    rw [lead_byte (by omega), if_neg (by omega), if_pos ⟨by omega, by omega, t1⟩, t2, hf, hs, if_pos (by omega)]
  · obtain ⟨m1, m2, -⟩ := and_high (0xe0 + c / 4096) (by omega)
    obtain ⟨t1, t2⟩ := tail_byte (c / 64)
    obtain ⟨u1, u2⟩ := tail_byte c
    have hf : (0xe0 + c / 4096) &&& 0x0f = c / 4096 := by
      rw [show (0x0f : Nat) = 2 ^ 4 - 1 by rfl, Nat.and_two_pow_sub_one_eq_mod]; omega
    have hs : (c / 4096) <<< 12 ||| (c / 64 % 64) <<< 6 ||| c % 64 = c := by
      rw [join_three _ (by omega) (by omega)]
      omega
    rw [lead_byte (by omega), if_neg (by omega), if_neg (by omega), if_pos ⟨by omega, by omega, t1, u1⟩, t2, u2, hf,
      hs, if_pos (by omega)]
  · obtain ⟨m1, m2, m3, -⟩ := and_high (0xf0 + c / 262144) (by omega)
    obtain ⟨t1, t2⟩ := tail_byte (c / 4096)
    obtain ⟨u1, u2⟩ := tail_byte (c / 64)
    obtain ⟨v1, v2⟩ := tail_byte c
    have hf : (0xf0 + c / 262144) &&& 0x07 = c / 262144 := by
      rw [show (0x07 : Nat) = 2 ^ 3 - 1 by rfl, Nat.and_two_pow_sub_one_eq_mod]; omega
    have hs : (c / 262144) <<< 18 ||| (c / 4096 % 64) <<< 12 ||| (c / 64 % 64) <<< 6 ||| c % 64 = c := by
      rw [join_four _ (by omega) (by omega) (by omega)]
      omega
    rw [lead_byte (by omega), if_neg (by omega), if_neg (by omega), if_neg (by omega),
      if_pos ⟨by omega, by omega, t1, u1, v1⟩, t2, u2, v2, hf, hs, if_pos (by omega)]

theorem decodeUnit_zero (rest : List UInt8) : decodeUnit (0xc0 :: 0x80 :: rest) = (0, 2) := by
  simp [decodeUnit]

theorem decodeUnit_modifiedUnit (h : unit < 0x10000) (rest : List UInt8) :
    decodeUnit (modifiedUnit unit ++ rest) = (unit, (modifiedUnit unit).length) := by
  by_cases h0 : unit = 0
  · subst h0
    exact decodeUnit_zero rest
  · rw [modifiedUnit_eq h h0]
    exact decodeUnit_encode h0 (by omega) rest

theorem modifiedUnit_ne_nil (unit : Nat) : modifiedUnit unit ≠ [] := by
  unfold modifiedUnit
  split
  · simp
  · split
    · simp
    · split <;> simp

/-- A decoded front leaves the loop at what follows it. -/
theorem decodeLoop_front {front rest : List UInt8} {c fuel : Nat} (hne : front ≠ [])
    (hd : decodeUnit (front ++ rest) = (c, front.length)) :
    decodeLoop (fuel + 1) (front ++ rest) = codeUnits c ++ decodeLoop fuel rest := by
  cases front with
  | nil => exact absurd rfl hne
  | cons b front =>
    show codeUnits (decodeUnit (b :: front ++ rest)).1 ++
      decodeLoop fuel ((b :: front ++ rest).drop (decodeUnit (b :: front ++ rest)).2) = _
    rw [hd, List.drop_left]

/-- A text cut in pieces that each decode to a code point. -/
theorem decodeLoop_flatMap {α : Type} (piece : α → List UInt8) (point : α → Nat) (as : List α)
    (hne : ∀ a ∈ as, piece a ≠ [])
    (hd : ∀ a ∈ as, ∀ rest, decodeUnit (piece a ++ rest) = (point a, (piece a).length)) :
    ∀ fuel, (as.flatMap piece).length ≤ fuel → decodeLoop fuel (as.flatMap piece) = as.flatMap fun a => codeUnits (point a) := by
  induction as with
  | nil => intro fuel _; cases fuel <;> rfl
  | cons a as ih =>
    intro fuel hf
    have hpos : 0 < (piece a).length := List.length_pos_iff.mpr (hne a (by simp))
    rw [List.flatMap_cons, List.length_append] at hf
    cases fuel with
    | zero => omega
    | succ fuel =>
      rw [List.flatMap_cons, decodeLoop_front (hne a (by simp)) (hd a (by simp) _), List.flatMap_cons,
        ih (fun b hb => hne b (by simp [hb])) (fun b hb => hd b (by simp [hb])) fuel (by omega)]

theorem codeUnits_toNat (unit : UInt16) : codeUnits unit.toNat = [unit] := by
  unfold codeUnits
  have h := unit.toNat_lt
  rw [if_pos (by omega), UInt16.ofNat_toNat]

/-! ## Regions -/

theorem whole_eq (utf16 : List UInt16) :
    utf16ToModifiedUtf8 utf16 = utf16.flatMap fun unit => modifiedUnit unit.toNat := by
  unfold utf16ToModifiedUtf8
  by_cases h : utf16.length ≤ 0
  · rw [if_pos h, List.length_eq_zero_iff.mp (Nat.le_zero.mp h)]
    rfl
  · rw [if_neg h]
    simp

theorem region_eq (utf16 : List UInt16) (begin count : Nat) :
    utf16ToModifiedUtf8 utf16 begin (some count) =
      ((utf16.drop begin).take count).flatMap fun unit => modifiedUnit unit.toNat := by
  unfold utf16ToModifiedUtf8
  by_cases h : utf16.length ≤ begin
  · rw [if_pos h, List.drop_eq_nil_of_le h, List.take_nil]
    rfl
  · rw [if_neg h]
    simp only [Option.elim]
    rw [List.drop_take]
    -- both sides take the same units: a count past the end takes what is left
    congr 1
    rw [List.take_eq_take_iff, List.length_drop]
    omega

theorem region_append (utf16 : List UInt16) (a m n : Nat) :
    utf16ToModifiedUtf8 utf16 a (some (m + n)) =
      utf16ToModifiedUtf8 utf16 a (some m) ++ utf16ToModifiedUtf8 utf16 (a + m) (some n) := by
  rw [region_eq, region_eq, region_eq, List.take_add, List.flatMap_append, List.drop_drop]

@[simp] theorem memcpy_nil (output : List UInt8) : memcpy output [] = output := rfl

/-- A region out of range or empty copies nothing, as an empty encoding does. -/
theorem copyRegion_eq (object : PseudoStringObject) (start length : Nat) (output : List UInt8) :
    copyStringModifiedUtf8Region (some object) start length output =
      memcpy output (utf16ToModifiedUtf8 object.chars start (some length)) := by
  simp only [copyStringModifiedUtf8Region, Int.toNat_natCast]
  by_cases h0 : length = 0
  · subst h0
    rw [if_pos (by omega), region_eq]
    simp
  · rw [if_neg (by omega)]
    by_cases hs : object.chars.length ≤ start
    · rw [if_pos hs, region_eq, List.drop_eq_nil_of_le hs]
      simp
    · rw [if_neg hs, region_eq, region_eq, ← List.length_drop, ← List.take_eq_take_min]

/-- Consecutive regions, each written where the one before it ended. -/
def copyRegions (object : PseudoStringObject) : Nat → List Nat → List UInt8 → List UInt8
  | _, [], output => output
  | start, length :: lengths, output =>
    let written := (utf16ToModifiedUtf8 object.chars start (some length)).length
    let output := copyStringModifiedUtf8Region (some object) start length output
    output.take written ++ copyRegions object (start + length) lengths (output.drop written)

theorem copyRegions_eq (object : PseudoStringObject) (lengths : List Nat) :
    ∀ start output, copyRegions object start lengths output =
      memcpy output (utf16ToModifiedUtf8 object.chars start (some lengths.sum)) := by
  induction lengths with
  | nil => intro start output; rw [List.sum_nil, region_eq, List.take_zero]; rfl
  | cons length lengths ih =>
    intro start output
    rw [copyRegions, ih, copyRegion_eq, List.sum_cons, region_append]
    simp only [memcpy, List.take_left, List.drop_left, List.length_append, List.drop_drop, List.append_assoc]

/-! ## The encoding is faithful -/

theorem encode_no_zero (h0 : c ≠ 0) (h : c < 0x110000) : (0 : UInt8) ∉ Utf8.encode c := by
  intro hm
  exact h0 (Utf8.ascii_mem_encode h (by decide) hm)

theorem zero_not_mem_modifiedUnit (h : unit < 0x10000) : (0 : UInt8) ∉ modifiedUnit unit := by
  by_cases h0 : unit = 0
  · subst h0; decide
  · rw [modifiedUnit_eq h h0]
    exact encode_no_zero h0 (by omega)

theorem zero_not_mem (utf16 : List UInt16) : (0 : UInt8) ∉ utf16ToModifiedUtf8 utf16 := by
  rw [whole_eq, List.mem_flatMap]
  intro hex
  obtain ⟨unit, -, h⟩ := hex
  exact zero_not_mem_modifiedUnit unit.toNat_lt h

theorem cString_of_no_zero {t : List UInt8} (h : (0 : UInt8) ∉ t) : cString t = t := by
  unfold cString
  rw [List.takeWhile_eq_self_iff]
  intro b hb
  have : b ≠ 0 := fun he => h (he ▸ hb)
  simpa using this

theorem decode_encode (utf16 : List UInt16) : modifiedUtf8ToUtf16 (some (utf16ToModifiedUtf8 utf16)) = utf16 := by
  show decodeLoop (cString (utf16ToModifiedUtf8 utf16)).length (cString (utf16ToModifiedUtf8 utf16)) = utf16
  rw [cString_of_no_zero (zero_not_mem utf16), whole_eq,
    decodeLoop_flatMap (fun unit : UInt16 => modifiedUnit unit.toNat) UInt16.toNat utf16
      (fun unit _ => modifiedUnit_ne_nil _) (fun unit _ rest => decodeUnit_modifiedUnit unit.toNat_lt rest) _ (le_refl _)]
  simp only [codeUnits_toNat, List.flatMap_singleton']

/-- Modified UTF-8 holds no zero byte, decodes to the units it was made from, is injective,
and is read in regions as it is read whole. -/
theorem modified_utf8_faithful (utf16 : List UInt16) :
    (0 : UInt8) ∉ utf16ToModifiedUtf8 utf16 ∧
    modifiedUtf8ToUtf16 (some (utf16ToModifiedUtf8 utf16)) = utf16 ∧
    (∀ other, utf16ToModifiedUtf8 other = utf16ToModifiedUtf8 utf16 → other = utf16) ∧
    (∀ a b c, a ≤ b → b ≤ c → c ≤ utf16.length →
      utf16ToModifiedUtf8 utf16 a (some (c - a)) =
        utf16ToModifiedUtf8 utf16 a (some (b - a)) ++ utf16ToModifiedUtf8 utf16 b (some (c - b))) ∧
    (∀ lengths output, lengths.sum = utf16.length →
      copyRegions (makeUtf16String utf16) 0 lengths output = memcpy output (makeUtf16String utf16).modifiedUtf8) := by
  refine ⟨zero_not_mem utf16, decode_encode utf16, ?_, ?_, ?_⟩
  · intro other h
    rw [← decode_encode other, h, decode_encode]
  · intro a b c hab hbc _
    have h := region_append utf16 a (b - a) (c - b)
    rw [show b - a + (c - b) = c - a by omega, show a + (b - a) = b by omega] at h
    exact h
  · intro lengths output hsum
    have hw : utf16ToModifiedUtf8 utf16 0 (some utf16.length) = utf16ToModifiedUtf8 utf16 := by
      rw [region_eq, whole_eq, List.drop_zero, List.take_length]
    rw [copyRegions_eq, hsum]
    exact congrArg (memcpy output) hw

/-- NUL, an unpaired surrogate and a euro sign, read in three regions. -/
theorem modified_utf8_faithful_example :
    modifiedUtf8ToUtf16 (some (utf16ToModifiedUtf8 [0, 0xd83d, 0x20ac])) = [0, 0xd83d, 0x20ac] ∧
    copyRegions (makeUtf16String [0, 0xd83d, 0x20ac]) 0 [1, 0, 2] [] = (makeUtf16String [0, 0xd83d, 0x20ac]).modifiedUtf8 :=
  ⟨(modified_utf8_faithful [0, 0xd83d, 0x20ac]).2.1, by
    rw [(modified_utf8_faithful [0, 0xd83d, 0x20ac]).2.2.2.2 [1, 0, 2] [] rfl]
    simp [memcpy]⟩

/-! ## Strings made from UTF-8 -/

/-- The surrogates of a code point above U+FFFF. -/
theorem codeUnits_pair (h : 0xffff < c) (hc : c < 0x110000) :
    ∃ high low : UInt16, codeUnits c = [high, low] ∧ high.toNat = 0xd800 + (c - 0x10000) / 1024 ∧
      low.toNat = 0xdc00 + (c - 0x10000) % 1024 := by
  refine ⟨UInt16.ofNat (0xd800 + ((c - 0x10000) >>> 10)), UInt16.ofNat (0xdc00 + ((c - 0x10000) &&& 0x3ff)), ?_, ?_, ?_⟩
  · unfold codeUnits
    rw [if_neg (by omega)]
  · rw [UInt16.toNat_ofNat', Nat.shiftRight_eq_div_pow]
    omega
  · rw [UInt16.toNat_ofNat', show (0x3ff : Nat) = 2 ^ 10 - 1 by rfl, Nat.and_two_pow_sub_one_eq_mod]
    omega

variable {cs : List Nat}

theorem makeString_chars (hcs : ∀ c ∈ cs, Utf8.Scalar c ∧ c ≠ 0) :
    (makeString (some (cs.flatMap Utf8.encode))).chars = cs.flatMap codeUnits := by
  have hz : (0 : UInt8) ∉ cs.flatMap Utf8.encode := by
    rw [List.mem_flatMap]
    intro hex
    obtain ⟨c, hc, h⟩ := hex
    exact encode_no_zero (hcs c hc).2 (Utf8.scalar_lt (hcs c hc).1) h
  show decodeLoop (cString (cs.flatMap Utf8.encode)).length (cString (cs.flatMap Utf8.encode)) = _
  rw [cString_of_no_zero hz, decodeLoop_flatMap Utf8.encode id cs (fun c _ => Utf8.encode_ne_nil c)
    (fun c hc rest => decodeUnit_encode (hcs c hc).2 (Utf8.scalar_lt (hcs c hc).1) rest) _ (le_refl _)]
  rfl

/-- The bytes a code point is read back as. -/
def reencoded (c : Nat) : List UInt8 := (codeUnits c).flatMap fun unit => modifiedUnit unit.toNat

theorem makeString_modifiedUtf8 (hcs : ∀ c ∈ cs, Utf8.Scalar c ∧ c ≠ 0) :
    (makeString (some (cs.flatMap Utf8.encode))).modifiedUtf8 = cs.flatMap reencoded := by
  rw [PseudoStringObject.modifiedUtf8_eq, makeString_chars hcs, whole_eq, List.flatMap_assoc]
  rfl

theorem reencoded_bmp (h0 : c ≠ 0) (h : c ≤ 0xffff) : reencoded c = Utf8.encode c := by
  unfold reencoded codeUnits
  rw [if_pos h, List.flatMap_singleton, UInt16.toNat_ofNat', Nat.mod_eq_of_lt (by omega), modifiedUnit_eq (by omega) h0]

theorem reencoded_supplementary (h : 0xffff < c) (hc : c < 0x110000) (rest : List UInt8) :
    ¬ Utf8.WellFormed (reencoded c ++ rest) := by
  obtain ⟨high, low, hu, hh, -⟩ := codeUnits_pair h hc
  unfold reencoded
  rw [hu, List.flatMap_cons, List.append_assoc, modifiedUnit_eq high.toNat_lt (by omega)]
  exact Utf8.not_wellFormed_surrogate (by omega)

/-- What a string made from a text gives back to `GetStringUTFChars`: the text when all its
code points are below U+10000, and no UTF-8 at all otherwise. -/
theorem modifiedUtf8_wellFormed_iff (hcs : ∀ c ∈ cs, Utf8.Scalar c ∧ c ≠ 0) :
    Utf8.WellFormed (cs.flatMap reencoded) ↔ ∀ c ∈ cs, c ≤ 0xffff := by
  induction cs with
  | nil => simp [Utf8.wellFormed_nil]
  | cons c cs ih =>
    obtain ⟨hc, h0⟩ := hcs c (by simp)
    specialize ih fun d hd => hcs d (by simp [hd])
    rw [List.flatMap_cons, List.forall_mem_cons]
    by_cases hb : c ≤ 0xffff
    · rw [reencoded_bmp h0 hb]
      constructor
      · intro hw
        exact ⟨hb, ih.mp (hw.of_encode_append hc)⟩
      · intro h
        exact (Utf8.wellFormed_encode hc).append (ih.mpr h.2)
    · constructor
      · intro hw
        exact absurd hw (reencoded_supplementary (by omega) (Utf8.scalar_lt hc) _)
      · intro h
        exact absurd h.1 hb

theorem flatMap_reencoded_bmp (hcs : ∀ c ∈ cs, Utf8.Scalar c ∧ c ≠ 0) (h : ∀ c ∈ cs, c ≤ 0xffff) :
    cs.flatMap reencoded = cs.flatMap Utf8.encode := by
  induction cs with
  | nil => rfl
  | cons c cs ih =>
    rw [List.flatMap_cons, List.flatMap_cons, reencoded_bmp (hcs c (by simp)).2 (h c (by simp)),
      ih (fun d hd => hcs d (by simp [hd])) (fun d hd => h d (by simp [hd]))]

end Mocktail.Jni

/-
  Mocktail.Jni.StringBytes — Java strings as UTF-8 (src/jnivm/jni_strings.cc).

  A string's units fall into code points and surrogates without a partner (`segments`).
  `Utf16ToUtf8` and `JavaStringUtf8Bytes` both encode the code points and differ in what they
  write for the others. Strings made from text are cut by a decoder that recovers from
  malformed bytes one byte at a time; it ends, and its units are never read back as anything
  but UTF-8 (`strings_from_utf8`).
-/

import Mathlib.Data.List.Chain
import Mocktail.Jni.Strings

namespace Mocktail.Jni

open Mocktail.Lib

def javaStringUtf8Bytes : List UInt16 → List UInt8
  | [] => []
  -- CharsetEncoder replaces each malformed UTF-16 unit with '?'
  | [unit] => if isHigh unit || isLow unit then [0x3f] else appendUtf8CodePoint unit.toNat
  | unit :: next :: rest =>
    if isHigh unit && isLow next then
      appendUtf8CodePoint (0x10000 + ((unit.toNat - 0xd800) <<< 10) + (next.toNat - 0xdc00)) ++ javaStringUtf8Bytes rest
    else (if isHigh unit || isLow unit then [0x3f] else appendUtf8CodePoint unit.toNat) ++ javaStringUtf8Bytes (next :: rest)

/-! ## Segments -/

inductive Segment where
  | scalar (codePoint : Nat)
  | unpaired (unit : UInt16)
  deriving DecidableEq, Repr

def Segment.units : Segment → List UInt16
  | .scalar codePoint => codeUnits codePoint
  | .unpaired unit => [unit]

def Segment.Valid : Segment → Prop
  | .scalar codePoint => Utf8.Scalar codePoint
  | .unpaired unit => isHigh unit = true ∨ isLow unit = true

/-- A high and a low surrogate that stand together are a pair. -/
def Segment.Apart : Segment → Segment → Prop
  | .unpaired high, .unpaired low => ¬ (isHigh high = true ∧ isLow low = true)
  | _, _ => True

def segmentOf (unit : UInt16) : Segment := if isHigh unit || isLow unit then .unpaired unit else .scalar unit.toNat

def segments : List UInt16 → List Segment
  | [] => []
  | [unit] => [segmentOf unit]
  | unit :: next :: rest =>
    if isHigh unit && isLow next then
      .scalar (0x10000 + (unit.toNat - 0xd800) * 1024 + (next.toNat - 0xdc00)) :: segments rest
    else segmentOf unit :: segments (next :: rest)

theorem segmentOf_spec (unit : UInt16) : (segmentOf unit).Valid ∧ (segmentOf unit).units = [unit] := by
  have hlt := unit.toNat_lt
  unfold segmentOf
  by_cases h : (isHigh unit || isLow unit) = true
  · rw [if_pos h]
    exact ⟨by simpa [Segment.Valid] using h, rfl⟩
  · rw [if_neg h]
    refine ⟨?_, codeUnits_toNat unit⟩
    simp only [isHigh, isLow, Bool.or_eq_true, Bool.and_eq_true, decide_eq_true_eq] at h
    show Utf8.Scalar unit.toNat
    unfold Utf8.Scalar
    omega

theorem pair_spec {high low : UInt16} (h : (isHigh high && isLow low) = true) :
    Utf8.Scalar (0x10000 + (high.toNat - 0xd800) * 1024 + (low.toNat - 0xdc00)) ∧
      codeUnits (0x10000 + (high.toNat - 0xd800) * 1024 + (low.toNat - 0xdc00)) = [high, low] := by
  simp only [isHigh, isLow, Bool.and_eq_true, decide_eq_true_eq] at h
  have hscalar : Utf8.Scalar (0x10000 + (high.toNat - 0xd800) * 1024 + (low.toNat - 0xdc00)) := by
    unfold Utf8.Scalar
    omega
  refine ⟨hscalar, ?_⟩
  obtain ⟨high', low', hunits, hhigh, hlow⟩ :=
    codeUnits_pair (show 0xffff < 0x10000 + (high.toNat - 0xd800) * 1024 + (low.toNat - 0xdc00) by omega)
      (Utf8.scalar_lt hscalar)
  have h1 : high' = high := UInt16.toNat_inj.mp (by omega)
  have h2 : low' = low := UInt16.toNat_inj.mp (by omega)
  rw [hunits, h1, h2]

theorem segments_valid (units : List UInt16) : ∀ s ∈ segments units, s.Valid := by
  induction units using segments.induct with
  | case1 => exact List.forall_mem_nil _
  | case2 unit =>
    intro s hs
    obtain rfl := List.mem_singleton.mp hs
    exact (segmentOf_spec unit).1
  | case3 unit next rest hpair ih =>
    rw [segments, if_pos hpair]
    exact List.forall_mem_cons.mpr ⟨(pair_spec hpair).1, ih⟩
  | case4 unit next rest hpair ih =>
    rw [segments, if_neg hpair]
    exact List.forall_mem_cons.mpr ⟨(segmentOf_spec unit).1, ih⟩

theorem segments_units (units : List UInt16) : (segments units).flatMap Segment.units = units := by
  induction units using segments.induct with
  | case1 => rfl
  | case2 unit =>
    rw [segments, List.flatMap_singleton]
    exact (segmentOf_spec unit).2
  | case3 unit next rest hpair ih =>
    rw [segments, if_pos hpair, List.flatMap_cons, ih]
    show codeUnits _ ++ rest = _
    rw [(pair_spec hpair).2]
    rfl
  | case4 unit next rest hpair ih =>
    rw [segments, if_neg hpair, List.flatMap_cons, ih, (segmentOf_spec unit).2]
    rfl

/-- The first segment of some units is their first unit, unless it is a pair. -/
theorem segments_head {unit : UInt16} {rest : List UInt16} {low : UInt16} {after : List Segment}
    (h : segments (unit :: rest) = .unpaired low :: after) : low = unit := by
  have hunit : ∀ low, segmentOf unit = .unpaired low → low = unit := by
    intro low hlow
    have hunits := (segmentOf_spec unit).2
    rw [hlow] at hunits
    exact (List.cons.inj hunits).1
  cases rest with
  | nil => exact hunit low (List.cons.inj h).1
  | cons next rest =>
    rw [segments] at h
    split at h
    · cases h
    · exact hunit low (List.cons.inj h).1

theorem segments_apart (units : List UInt16) : (segments units).IsChain Segment.Apart := by
  induction units using segments.induct with
  | case1 => exact .nil
  | case2 unit => exact .singleton _
  | case3 unit next rest hpair ih =>
    rw [segments, if_pos hpair]
    cases hrest : segments rest with
    | nil => exact .singleton _
    | cons s after =>
      rw [hrest] at ih
      exact .cons_cons trivial ih
  | case4 unit next rest hpair ih =>
    rw [segments, if_neg hpair]
    cases hrest : segments (next :: rest) with
    | nil => exact .singleton _
    | cons s after =>
      rw [hrest] at ih
      refine .cons_cons ?_ ih
      cases s with
      | scalar codePoint =>
        unfold segmentOf
        split <;> trivial
      | unpaired low =>
        obtain rfl := segments_head hrest
        unfold segmentOf
        split
        · exact fun h => hpair (by rw [h.1, h.2]; rfl)
        · trivial

/-! ## The two encoders -/

/-- What an encoder writes that puts `replacement` for a surrogate without a partner. -/
def Segment.bytes (replacement : List UInt8) : Segment → List UInt8
  | .scalar codePoint => Utf8.encode codePoint
  | .unpaired _ => replacement

theorem segmentOf_bytes (replacement : List UInt8) (unit : UInt16) :
    (segmentOf unit).bytes replacement =
      if isHigh unit || isLow unit then replacement else appendUtf8CodePoint unit.toNat := by
  have hlt := unit.toNat_lt
  unfold segmentOf
  split
  · rfl
  · exact (appendUtf8CodePoint_eq (by omega)).symm

theorem pair_bytes {high low : UInt16} (h : (isHigh high && isLow low) = true) :
    appendUtf8CodePoint (0x10000 + ((high.toNat - 0xd800) <<< 10) + (low.toNat - 0xdc00)) =
      Utf8.encode (0x10000 + (high.toNat - 0xd800) * 1024 + (low.toNat - 0xdc00)) := by
  rw [Nat.shiftLeft_eq]
  exact appendUtf8CodePoint_eq (Utf8.scalar_lt (pair_spec h).1)

theorem utf16ToUtf8_segments (units : List UInt16) :
    utf16ToUtf8 units = (segments units).flatMap (Segment.bytes (Utf8.encode 0xfffd)) := by
  have hone : ∀ unit : UInt16, appendUtf8CodePoint (if isHigh unit || isLow unit then 0xfffd else unit.toNat) =
      (segmentOf unit).bytes (Utf8.encode 0xfffd) := by
    intro unit
    rw [segmentOf_bytes]
    split
    · exact appendUtf8CodePoint_eq (by decide)
    · rfl
  induction units using segments.induct with
  | case1 => rfl
  | case2 unit =>
    rw [segments, List.flatMap_singleton, utf16ToUtf8, hone]
  | case3 unit next rest hpair ih =>
    rw [segments, if_pos hpair, List.flatMap_cons, utf16ToUtf8, if_pos hpair, pair_bytes hpair, ih]
    rfl
  | case4 unit next rest hpair ih =>
    rw [segments, if_neg hpair, List.flatMap_cons, utf16ToUtf8, if_neg hpair, hone, ih]

theorem javaStringUtf8Bytes_segments (units : List UInt16) :
    javaStringUtf8Bytes units = (segments units).flatMap (Segment.bytes [0x3f]) := by
  induction units using segments.induct with
  | case1 => rfl
  | case2 unit =>
    rw [segments, List.flatMap_singleton, javaStringUtf8Bytes, segmentOf_bytes]
  | case3 unit next rest hpair ih =>
    rw [segments, if_pos hpair, List.flatMap_cons, javaStringUtf8Bytes, if_pos hpair, pair_bytes hpair, ih]
    rfl
  | case4 unit next rest hpair ih =>
    rw [segments, if_neg hpair, List.flatMap_cons, javaStringUtf8Bytes, if_neg hpair, segmentOf_bytes, ih]

theorem wellFormed_segments {replacement : List UInt8} (h : Utf8.WellFormed replacement) {ss : List Segment}
    (hss : ∀ s ∈ ss, s.Valid) : Utf8.WellFormed (ss.flatMap (Segment.bytes replacement)) := by
  induction ss with
  | nil => exact Utf8.wellFormed_nil
  | cons s rest ih =>
    obtain ⟨hs, hrest⟩ := List.forall_mem_cons.mp hss
    rw [List.flatMap_cons]
    refine Utf8.WellFormed.append ?_ (ih hrest)
    cases s with
    | scalar codePoint => exact Utf8.wellFormed_encode hs
    | unpaired unit => exact h

/-! ## The decoder ends -/

/-- What a turn of the decoder leaves. -/
def afterTurn (bytes : List UInt8) : List UInt8 := bytes.drop (decodeUnit bytes).2

/-- A turn reads and consumes bytes that are there, one at least. -/
theorem decodeUnit_consumed {bytes : List UInt8} (h : bytes ≠ []) :
    1 ≤ (decodeUnit bytes).2 ∧ (decodeUnit bytes).2 ≤ bytes.length := by
  have hpos := List.length_pos_of_ne_nil h
  unfold decodeUnit
  simp only
  split
  · exact ⟨le_rfl, hpos⟩
  split
  · rename_i htwo
    split
    · exact ⟨by simp, by have := htwo.2.1; simp only; omega⟩
    · exact ⟨le_rfl, hpos⟩
  split
  · rename_i hthree
    split
    · exact ⟨by simp, by have := hthree.2.1; simp only; omega⟩
    · exact ⟨le_rfl, hpos⟩
  split
  · rename_i hfour
    split
    · exact ⟨by simp, by have := hfour.2.1; simp only; omega⟩
    · exact ⟨le_rfl, hpos⟩
  · exact ⟨le_rfl, hpos⟩

theorem afterTurn_length (bytes : List UInt8) : (afterTurn bytes).length ≤ bytes.length - 1 := by
  by_cases h : bytes = []
  · subst h
    exact le_rfl
  · have hconsumed := decodeUnit_consumed h
    rw [afterTurn, List.length_drop]
    omega

/-- As many turns as there are bytes are enough. -/
theorem turns_end (n : Nat) {bytes : List UInt8} (h : bytes.length ≤ n) : afterTurn^[n] bytes = [] := by
  induction n generalizing bytes with
  | zero => exact List.length_eq_zero_iff.mp (Nat.le_zero.mp h)
  | succ n ih =>
    rw [Function.iterate_succ_apply]
    have hturn := afterTurn_length bytes
    exact ih (by omega)

theorem decodeLoop_fuel {fuel : Nat} {bytes : List UInt8} (h : bytes.length ≤ fuel) :
    decodeLoop fuel bytes = decodeLoop bytes.length bytes := by
  have hboth : ∀ n fuel fuel' (bytes : List UInt8), bytes.length ≤ n → bytes.length ≤ fuel → bytes.length ≤ fuel' →
      decodeLoop fuel bytes = decodeLoop fuel' bytes := by
    intro n
    induction n with
    | zero =>
      intro fuel fuel' bytes hn _ _
      obtain rfl := List.length_eq_zero_iff.mp (Nat.le_zero.mp hn)
      cases fuel <;> cases fuel' <;> rfl
    | succ n ih =>
      intro fuel fuel' bytes hn hf hf'
      cases bytes with
      | nil => cases fuel <;> cases fuel' <;> rfl
      | cons b rest =>
        have hturn := afterTurn_length (b :: rest)
        simp only [List.length_cons] at hn hf hf' hturn
        obtain ⟨fuel, rfl⟩ := Nat.exists_eq_succ_of_ne_zero (show fuel ≠ 0 by omega)
        obtain ⟨fuel', rfl⟩ := Nat.exists_eq_succ_of_ne_zero (show fuel' ≠ 0 by omega)
        show codeUnits _ ++ decodeLoop fuel (afterTurn (b :: rest)) = codeUnits _ ++ decodeLoop fuel' (afterTurn (b :: rest))
        rw [ih fuel fuel' _ (by omega) (by omega) (by omega)]
  exact hboth _ _ _ bytes le_rfl h le_rfl

/-! ## Strings from text -/

theorem segments_codeUnits {c : Nat} (hc : Utf8.Scalar c) (rest : List UInt16) :
    segments (codeUnits c ++ rest) = .scalar c :: segments rest := by
  have hlt := Utf8.scalar_lt hc
  by_cases hbmp : c ≤ 0xffff
  · have hunit : (UInt16.ofNat c).toNat = c := by
      rw [UInt16.toNat_ofNat']
      omega
    have hhigh : isHigh (UInt16.ofNat c) = false := by
      simp only [isHigh, hunit, Bool.and_eq_false_iff, decide_eq_false_iff_not]
      rcases hc with hc | hc <;> omega
    have hlow : isLow (UInt16.ofNat c) = false := by
      simp only [isLow, hunit, Bool.and_eq_false_iff, decide_eq_false_iff_not]
      rcases hc with hc | hc <;> omega
    have hsegment : segmentOf (UInt16.ofNat c) = .scalar c := by
      rw [segmentOf, hhigh, hlow, hunit]
      rfl
    rw [codeUnits, if_pos hbmp, List.singleton_append]
    cases rest with
    | nil =>
      show [segmentOf _] = _
      rw [hsegment]
      rfl
    | cons next rest => rw [segments, hhigh, Bool.false_and, if_neg Bool.false_ne_true, hsegment]
  · obtain ⟨high, low, hunits, hhigh, hlow⟩ := codeUnits_pair (show 0xffff < c by omega) hlt
    have hpair : (isHigh high && isLow low) = true := by
      simp only [isHigh, isLow, hhigh, hlow, Bool.and_eq_true, decide_eq_true_eq]
      omega
    have hvalue : 0x10000 + (high.toNat - 0xd800) * 1024 + (low.toNat - 0xdc00) = c := by
      rw [hhigh, hlow]
      omega
    rw [hunits]
    show segments (high :: low :: rest) = _
    rw [segments, if_pos hpair, hvalue]

theorem segments_flatMap {cs : List Nat} (hcs : ∀ c ∈ cs, Utf8.Scalar c) :
    segments (cs.flatMap codeUnits) = cs.map Segment.scalar := by
  induction cs with
  | nil => rfl
  | cons c cs ih =>
    obtain ⟨hc, hrest⟩ := List.forall_mem_cons.mp hcs
    rw [List.flatMap_cons, segments_codeUnits hc, ih hrest, List.map_cons]

/-- A text without NUL is read into its code points. -/
theorem segments_of_text {text : List UInt8} (hw : Utf8.WellFormed text) (hz : (0 : UInt8) ∉ text) (replacement : List UInt8) :
    (segments (modifiedUtf8ToUtf16 (some text))).flatMap (Segment.bytes replacement) = text := by
  obtain ⟨cs, hcs, rfl⟩ := hw
  have hne : ∀ c ∈ cs, Utf8.Scalar c ∧ c ≠ 0 := by
    intro c hc
    refine ⟨hcs c hc, ?_⟩
    rintro rfl
    exact hz (List.mem_flatMap.mpr ⟨0, hc, by decide⟩)
  have hchars : modifiedUtf8ToUtf16 (some (cs.flatMap Utf8.encode)) = cs.flatMap codeUnits := makeString_chars hne
  rw [hchars, segments_flatMap hcs, List.flatMap_map]
  rfl

/-- Strings made from UTF-8 keep it; other bytes become some UTF-8; and the two encoders differ at the surrogates without
    a partner only. -/
theorem strings_from_utf8 :
    (∀ text : List UInt8, Utf8.WellFormed text → (0 : UInt8) ∉ text →
      utf16ToUtf8 (modifiedUtf8ToUtf16 (some text)) = text ∧
      javaStringUtf8Bytes (modifiedUtf8ToUtf16 (some text)) = text) ∧
    (∀ bytes : List UInt8, afterTurn^[(cString bytes).length] (cString bytes) = [] ∧
      (∀ fuel, (cString bytes).length ≤ fuel → modifiedUtf8ToUtf16 (some bytes) = decodeLoop fuel (cString bytes)) ∧
      Utf8.WellFormed (makeString (some bytes)).value) ∧
    ∀ units : List UInt16, Utf8.WellFormed (utf16ToUtf8 units) ∧ Utf8.WellFormed (javaStringUtf8Bytes units) ∧
      ∃ ss : List Segment, units = ss.flatMap Segment.units ∧ (∀ s ∈ ss, s.Valid) ∧ ss.IsChain Segment.Apart ∧
        utf16ToUtf8 units = ss.flatMap (Segment.bytes (Utf8.encode 0xfffd)) ∧
        javaStringUtf8Bytes units = ss.flatMap (Segment.bytes [0x3f]) := by
  have hutf8 : ∀ units, Utf8.WellFormed (utf16ToUtf8 units) := by
    intro units
    rw [utf16ToUtf8_segments]
    exact wellFormed_segments (Utf8.wellFormed_encode (by decide)) (segments_valid units)
  have hquestion : Utf8.WellFormed [0x3f] := ⟨[0x3f], by decide, rfl⟩
  refine ⟨?_, ?_, ?_⟩
  · intro text hw hz
    rw [utf16ToUtf8_segments, javaStringUtf8Bytes_segments]
    exact ⟨segments_of_text hw hz _, segments_of_text hw hz _⟩
  · intro bytes
    refine ⟨turns_end _ le_rfl, fun fuel hf => (decodeLoop_fuel hf).symm, ?_⟩
    rw [PseudoStringObject.value_eq]
    exact hutf8 _
  · intro units
    refine ⟨hutf8 units, ?_, segments units, (segments_units units).symm, segments_valid units, segments_apart units,
      utf16ToUtf8_segments units, javaStringUtf8Bytes_segments units⟩
    rw [javaStringUtf8Bytes_segments]
    exact wellFormed_segments hquestion (segments_valid units)

theorem strings_from_utf8_demo :
    utf16ToUtf8 (modifiedUtf8ToUtf16 (some [0xf0, 0x9f, 0x98, 0x80, 0x41])) = [0xf0, 0x9f, 0x98, 0x80, 0x41] ∧
      javaStringUtf8Bytes (modifiedUtf8ToUtf16 (some [0xf0, 0x9f, 0x98, 0x80, 0x41])) = [0xf0, 0x9f, 0x98, 0x80, 0x41] :=
  strings_from_utf8.1 _ ⟨[0x1f600, 0x41], by decide, by decide⟩ (by decide)

end Mocktail.Jni

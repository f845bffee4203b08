/-
  Mocktail.Input.OverlayText — what the overlay reads out of a display update's text.

  A UTF-16 position stands for the greatest boundary whose prefix has no more units
  (`CaretAt`), also where it falls inside a surrogate pair or behind the text. The overlay's
  loop returns it with the number of code points before it (`utf8ByteForUtf16Cursor_caretAt`),
  and the position of a boundary leads back to that boundary (`utf8ByteForUtf16Cursor_utf16Cursor`).

  A password field is drawn as bullets: the presentation depends on the text only through
  numbers of code points (`password_reveals_lengths`).
-/

import Mathlib.Order.Bounds.Basic
import Mocktail.Lib.Budget
import Mocktail.Input.TextBoundaries
import Mocktail.Input.TextOverlay

namespace Mocktail.Input

open Mocktail.Lib Mocktail.Lib.Utf8

/-- The text has `n` code points. -/
def CodepointCount (t : Text) (n : Nat) : Prop :=
  ∃ cs : List Nat, (∀ c ∈ cs, Scalar c) ∧ t = cs.flatMap encode ∧ n = cs.length

/-- The boundary of a UTF-16 position: the greatest one with at most that many units before it. -/
def CaretAt (t : Text) (position : Int) (b : Nat) : Prop :=
  IsGreatest {b | Boundary t b ∧ ∃ n, Utf16Length (t.take b) n ∧ (n : Int) ≤ max position 0} b

/-- The caret at the UTF-16 position has `k` code points before it. -/
def CodepointsBefore (t : Text) (position : Int) (k : Nat) : Prop :=
  ∃ b, CaretAt t position b ∧ CodepointCount (t.take b) k

variable {t : Text} {b k m n : Nat}

theorem codepointCount_unique (hm : CodepointCount t m) (hn : CodepointCount t n) : m = n := by
  obtain ⟨cs, hcs, rfl, rfl⟩ := hm
  obtain ⟨ds, hds, heq, rfl⟩ := hn
  rw [flatMap_encode_inj hcs hds heq]

theorem CodepointCount.wellFormed (h : CodepointCount t n) : WellFormed t := by
  obtain ⟨cs, hcs, heq, -⟩ := h
  exact ⟨cs, hcs, heq⟩

theorem utf16Length_unique (hm : Utf16Length t m) (hn : Utf16Length t n) : m = n := by
  obtain ⟨cs, hcs, rfl, rfl⟩ := hm
  obtain ⟨ds, hds, heq, rfl⟩ := hn
  rw [flatMap_encode_inj hcs hds heq]

theorem codepointsBefore_unique {position : Int} {j : Nat} (hj : CodepointsBefore t position j)
    (hk : CodepointsBefore t position k) : j = k := by
  obtain ⟨b, hb, hj⟩ := hj
  obtain ⟨b', hb', hk⟩ := hk
  obtain rfl := hb.unique hb'
  exact codepointCount_unique hj hk

theorem utf16Width_pos (c : Nat) : 0 < utf16Width c := by
  unfold utf16Width
  split <;> omega

theorem take_flatMap_encode {front cs : List Nat} (h : front <+: cs) :
    (cs.flatMap encode).take (front.flatMap encode).length = front.flatMap encode := by
  obtain ⟨back, rfl⟩ := h
  rw [List.flatMap_append, List.take_left]

theorem flatMap_length_le {front cs : List Nat} (h : front <+: cs) :
    (front.flatMap encode).length ≤ (cs.flatMap encode).length := by
  obtain ⟨back, rfl⟩ := h
  rw [List.flatMap_append, List.length_append]
  omega

/-! ## The loops -/

section
variable {u : Utf8proc} (hu : u.Decodes)
include hu

/-- One turn of `Utf8ByteForUtf16Cursor`. -/
theorem utf8ByteLoop_encode (target fuel c : Nat) (r : Text) (hc : Scalar c) (byte utf16 k : Nat) :
    utf8ByteLoop u target (fuel + 1) (encode c ++ r) byte utf16 k =
      if target < utf16 + utf16Width c then (byte, k)
      else utf8ByteLoop u target fuel r (byte + (encode c).length) (utf16 + utf16Width c) (k + 1) := by
  obtain ⟨hpos, hcount, hcode, hdrop⟩ := iterate_encode hu c r hc
  generalize hrest : encode c ++ r = rest at hpos hcount hcode hdrop
  cases rest with
  | nil => exact absurd (List.append_eq_nil_iff.mp hrest).1 (encode_ne_nil c)
  | cons b bs =>
    simp only [utf8ByteLoop]
    rw [if_neg hpos, hdrop, hcode, hcount]

theorem utf8ByteLoop_eq (cs : List Nat) (hcs : ∀ c ∈ cs, Scalar c) (target fuel byte utf16 k : Nat) (hf : cs.length < fuel)
    (hle : utf16 ≤ target) :
    utf8ByteLoop u target fuel (cs.flatMap encode) byte utf16 k =
      (byte + ((within utf16Width (target - utf16) cs).flatMap encode).length,
        k + (within utf16Width (target - utf16) cs).length) := by
  induction cs generalizing fuel byte utf16 k with
  | nil =>
    obtain ⟨fuel, rfl⟩ := Nat.exists_eq_succ_of_ne_zero (Nat.ne_of_gt hf)
    rfl
  | cons c cs ih =>
    simp only [List.length_cons] at hf
    obtain ⟨fuel, rfl⟩ := Nat.exists_eq_succ_of_ne_zero (by omega : fuel ≠ 0)
    rw [List.flatMap_cons, utf8ByteLoop_encode hu target fuel c _ (hcs c (by simp)), within]
    by_cases hstop : target < utf16 + utf16Width c
    · rw [if_pos hstop, if_pos (by omega)]
      rfl
    · have hroom : target - (utf16 + utf16Width c) = target - utf16 - utf16Width c := by omega
      rw [if_neg hstop, if_neg (by omega), ih (fun d hd => hcs d (by simp [hd])) fuel _ _ _ (by omega) (by omega), hroom,
        List.flatMap_cons, List.length_append, List.length_cons, Nat.add_assoc, Nat.add_assoc, Nat.add_comm 1]

/-- The overlay takes the longest front of the code points that fits the position. -/
theorem utf8ByteForUtf16Cursor_eq (cs : List Nat) (hcs : ∀ c ∈ cs, Scalar c) (position : Int) :
    utf8ByteForUtf16Cursor u (cs.flatMap encode) position =
      (((within utf16Width position.toNat cs).flatMap encode).length, (within utf16Width position.toNat cs).length) := by
  have hlen := length_le_flatMap cs
  have htarget : (if 0 < position then position.toNat else 0) = position.toNat := by
    split <;> omega
  unfold utf8ByteForUtf16Cursor
  rw [htarget, utf8ByteLoop_eq hu cs hcs _ _ 0 0 0 (by omega) (by omega), Nat.sub_zero, Nat.zero_add, Nat.zero_add]

theorem countUtf8Loop_encode (fuel c : Nat) (r : Text) (hc : Scalar c) (count : Nat) :
    countUtf8Loop u (fuel + 1) (encode c ++ r) count = countUtf8Loop u fuel r (count + 1) := by
  obtain ⟨hpos, -, -, hdrop⟩ := iterate_encode hu c r hc
  generalize hrest : encode c ++ r = rest at hpos hdrop
  cases rest with
  | nil => exact absurd (List.append_eq_nil_iff.mp hrest).1 (encode_ne_nil c)
  | cons b bs =>
    simp only [countUtf8Loop]
    rw [if_neg hpos, hdrop]

theorem countUtf8Loop_eq (cs : List Nat) (hcs : ∀ c ∈ cs, Scalar c) (fuel count : Nat) (hf : cs.length < fuel) :
    countUtf8Loop u fuel (cs.flatMap encode) count = some (count + cs.length) := by
  induction cs generalizing fuel count with
  | nil =>
    obtain ⟨fuel, rfl⟩ := Nat.exists_eq_succ_of_ne_zero (Nat.ne_of_gt hf)
    rfl
  | cons c cs ih =>
    simp only [List.length_cons] at hf
    obtain ⟨fuel, rfl⟩ := Nat.exists_eq_succ_of_ne_zero (by omega : fuel ≠ 0)
    rw [List.flatMap_cons, countUtf8Loop_encode hu fuel c _ (hcs c (by simp)),
      ih (fun d hd => hcs d (by simp [hd])) fuel _ (by omega), List.length_cons, Nat.add_assoc, Nat.add_comm 1]

theorem countUtf8Loop_sound (fuel : Nat) (rest : Text) (count n : Nat) (h : countUtf8Loop u fuel rest count = some n) :
    WellFormed rest := by
  induction fuel generalizing rest count with
  | zero => cases h
  | succ fuel ih =>
    rcases hrest : rest with _ | ⟨b, bs⟩
    · exact wellFormed_nil
    · rw [← hrest]
      rcases iterate_cases hu rest with hstop | ⟨c, r, hc, rfl, -, -⟩
      · rw [hrest] at h hstop
        simp only [countUtf8Loop] at h
        rw [if_pos hstop] at h
        cases h
      · rw [countUtf8Loop_encode hu fuel c r hc] at h
        exact (wellFormed_encode hc).append (ih r _ h)

/-- `ValidateAndCountUtf8` accepts the well-formed texts and counts their code points. -/
theorem validateAndCountUtf8_iff (t : Text) (n : Nat) : validateAndCountUtf8 u t = some n ↔ CodepointCount t n := by
  have hcounts : ∀ cs : List Nat, (∀ c ∈ cs, Scalar c) → validateAndCountUtf8 u (cs.flatMap encode) = some cs.length := by
    intro cs hcs
    have hlen := length_le_flatMap cs
    unfold validateAndCountUtf8
    rw [countUtf8Loop_eq hu cs hcs _ 0 (by omega), Nat.zero_add]
  constructor
  · intro h
    obtain ⟨cs, hcs, rfl⟩ := countUtf8Loop_sound hu _ _ _ _ h
    rw [hcounts cs hcs] at h
    exact ⟨cs, hcs, rfl, (Option.some.inj h).symm⟩
  · rintro ⟨cs, hcs, rfl, rfl⟩
    exact hcounts cs hcs

/-! ## Positions and offsets -/

/-- The overlay's offset of a UTF-16 position is the greatest boundary that the position reaches. -/
theorem utf8ByteForUtf16Cursor_caretAt (ht : WellFormed t) (position : Int) :
    CaretAt t position (utf8ByteForUtf16Cursor u t position).1 ∧
      CodepointCount (t.take (utf8ByteForUtf16Cursor u t position).1) (utf8ByteForUtf16Cursor u t position).2 := by
  obtain ⟨cs, hcs, rfl⟩ := ht
  rw [utf8ByteForUtf16Cursor_eq hu cs hcs]
  have hfront := within_prefix (w := utf16Width) position.toNat cs
  have hweight := within_weight (w := utf16Width) position.toNat cs
  have hscalar : ∀ c ∈ within utf16Width position.toNat cs, Scalar c := fun c hc => hcs c (hfront.subset hc)
  have htake := take_flatMap_encode hfront
  refine ⟨⟨⟨?_, (List.map utf16Width (within utf16Width position.toNat cs)).sum, ?_, by omega⟩, ?_⟩, ?_⟩
  · obtain ⟨back, hsplit⟩ := hfront
    exact (boundary_flatMap hcs).mpr ⟨_, back, hsplit.symm, rfl⟩
  · rw [htake]
    exact ⟨_, hscalar, rfl, rfl⟩
  · -- a boundary that the position reaches is the end of a front that fits
    rintro b ⟨hb, n, hn, hle⟩
    obtain ⟨front, back, hsplit, rfl⟩ := (boundary_flatMap hcs).mp hb
    rw [take_flatMap_encode ⟨back, hsplit.symm⟩] at hn
    have hunits := utf16Length_unique hn ⟨front, fun c hc => hcs c (by rw [hsplit]; simp [hc]), rfl, rfl⟩
    have hfits : (front.map utf16Width).sum ≤ position.toNat := by omega
    rw [hsplit]
    exact flatMap_length_le (within_greatest hfits)
  · rw [htake]
    exact ⟨_, hscalar, rfl, rfl⟩

/-- The overlay counts the code points before the caret. -/
theorem codepointsBefore_iff (ht : WellFormed t) (position : Int) (k : Nat) :
    CodepointsBefore t position k ↔ (utf8ByteForUtf16Cursor u t position).2 = k := by
  have hcaret : CodepointsBefore t position (utf8ByteForUtf16Cursor u t position).2 :=
    ⟨_, utf8ByteForUtf16Cursor_caretAt hu ht position⟩
  constructor
  · exact codepointsBefore_unique hcaret
  · rintro rfl
    exact hcaret

/-- The UTF-16 position of a boundary leads back to it. -/
theorem utf8ByteForUtf16Cursor_utf16Cursor (hb : Boundary t b) :
    (utf8ByteForUtf16Cursor u t (utf16Cursor u t b)).1 = b := by
  obtain ⟨cs, hcs, rfl⟩ := hb.wellFormed
  have hunits := utf16Cursor_length hu hb
  obtain ⟨front, back, hsplit, rfl⟩ := (boundary_flatMap hcs).mp hb
  rw [take_flatMap_encode ⟨back, hsplit.symm⟩] at hunits
  rw [utf16Length_unique hunits ⟨front, fun c hc => hcs c (by rw [hsplit]; simp [hc]), rfl, rfl⟩,
    utf8ByteForUtf16Cursor_eq hu cs hcs, Int.toNat_natCast, hsplit, within_exact utf16Width_pos]

theorem utf16Cursor_le (hb : Boundary t b) (hn : Utf16Length t n) : utf16Cursor u t b ≤ n := by
  obtain ⟨cs, hcs, rfl, rfl⟩ := hn
  have hunits := utf16Cursor_length hu hb
  obtain ⟨front, back, hsplit, rfl⟩ := (boundary_flatMap hcs).mp hb
  rw [take_flatMap_encode ⟨back, hsplit.symm⟩] at hunits
  rw [utf16Length_unique hunits ⟨front, fun c hc => hcs c (by rw [hsplit]; simp [hc]), rfl, rfl⟩, hsplit, List.map_append,
    List.sum_append]
  omega

end

theorem int32_of_lt (h : n < 2 ^ 31) : int32 n = n := by
  unfold int32
  rw [Int.bmod_def]
  omega

/-! ## What a presentation draws -/

/-- The presentation of a password field, from the numbers of code points of its text. -/
def OverlayPresentation.masked (q : DensityQuotient) (update : TextDisplayUpdate) (viewport : OverlayViewport) (n k kb ke : Nat) :
    OverlayPresentation :=
  { OverlayPresentation.ofUpdate q update viewport with
    displayUtf8 := (List.replicate n kPasswordBullet).flatten
    caretUtf8Byte := k * kPasswordBullet.length
    selectionBeginUtf8Byte := min kb ke * kPasswordBullet.length
    selectionEndUtf8Byte := max kb ke * kPasswordBullet.length }

/-- The presentation of an ordinary field. -/
def OverlayPresentation.plain (q : DensityQuotient) (update : TextDisplayUpdate) (viewport : OverlayViewport) (b bb be : Nat) :
    OverlayPresentation :=
  { OverlayPresentation.ofUpdate q update viewport with
    displayUtf8 := update.utf8.bytes
    caretUtf8Byte := b
    selectionBeginUtf8Byte := min bb be
    selectionEndUtf8Byte := max bb be }

section
variable {u : Utf8proc} {q : DensityQuotient} {v v' : TextDisplayUpdate} {viewport : OverlayViewport}

theorem buildPresentation_cases {p : OverlayPresentation} (h : buildPresentation u q v viewport = .ok p) :
    v.generation ≠ 0 ∧ ∃ n, validateAndCountUtf8 u v.utf8.bytes = some n ∧
      (Editor.isPasswordInputType v.textInputType = true ∧
          p = .masked q v viewport n (utf8ByteForUtf16Cursor u v.utf8.bytes v.cursorUtf16).2
            (utf8ByteForUtf16Cursor u v.utf8.bytes v.selectionBeginUtf16).2
            (utf8ByteForUtf16Cursor u v.utf8.bytes v.selectionEndUtf16).2 ∨
        Editor.isPasswordInputType v.textInputType = false ∧
          p = .plain q v viewport (utf8ByteForUtf16Cursor u v.utf8.bytes v.cursorUtf16).1
            (utf8ByteForUtf16Cursor u v.utf8.bytes v.selectionBeginUtf16).1
            (utf8ByteForUtf16Cursor u v.utf8.bytes v.selectionEndUtf16).1) := by
  unfold buildPresentation at h
  split at h
  · cases h
  rename_i hgeneration
  split at h
  · cases h
  split at h
  · cases h
  simp only at h
  split at h
  · cases h
  rename_i n hn
  refine ⟨hgeneration, n, hn, ?_⟩
  split at h
  · rename_i hpassword
    split at h
    · cases h
    · exact Or.inl ⟨hpassword, (Except.ok.inj h).symm⟩
  · rename_i hpassword
    exact Or.inr ⟨Bool.eq_false_iff.mpr hpassword, (Except.ok.inj h).symm⟩

/-- A password field is built from numbers of code points alone. -/
theorem buildPresentation_password (hu : u.Decodes) (hpassword : Editor.isPasswordInputType v.textInputType = true)
    (hview : v.utf8.unavailable = false) {kb ke : Nat} (hn : CodepointCount v.utf8.bytes n)
    (hk : CodepointsBefore v.utf8.bytes v.cursorUtf16 k) (hkb : CodepointsBefore v.utf8.bytes v.selectionBeginUtf16 kb)
    (hke : CodepointsBefore v.utf8.bytes v.selectionEndUtf16 ke) :
    buildPresentation u q v viewport =
      if v.generation = 0 then .error (Status.invalidArgument "text overlay generation must be nonzero")
      else if !viewport.valid then .error (Status.invalidArgument "text overlay viewport must be positive")
      else if maxSize / kPasswordBullet.length < n then
        .error (Status.unavailable "text overlay password mask is too large")
      else .ok (.masked q v viewport n k kb ke) := by
  have hcaret := (codepointsBefore_iff hu hn.wellFormed _ k).mp hk
  have hfirst := (codepointsBefore_iff hu hn.wellFormed _ kb).mp hkb
  have hlast := (codepointsBefore_iff hu hn.wellFormed _ ke).mp hke
  have hcount := (validateAndCountUtf8_iff hu v.utf8.bytes n).mpr hn
  unfold buildPresentation
  rw [hview]
  simp only [Bool.false_eq_true, if_false, hcount, hpassword, if_true]
  rw [hcaret, hfirst, hlast]
  rfl

/-- The caret of a text has no more code points before it than the text has. -/
theorem codepointsBefore_le {position : Int} (hk : CodepointsBefore t position k)
    (hn : CodepointCount t n) : k ≤ n := by
  obtain ⟨b, hb, hk⟩ := hk
  obtain ⟨cs, hcs, rfl, rfl⟩ := hn
  obtain ⟨front, back, hsplit, rfl⟩ := (boundary_flatMap hcs).mp hb.1.1
  rw [take_flatMap_encode ⟨back, hsplit.symm⟩] at hk
  rw [codepointCount_unique hk ⟨front, fun c hc => hcs c (by rw [hsplit]; simp [hc]), rfl, rfl⟩, hsplit, List.length_append]
  omega

/-- Two updates of a password field that differ in their texts and positions only. -/
structure SamePassword (v v' : TextDisplayUpdate) : Prop where
  same : v' = { v with utf8 := v'.utf8, cursorUtf16 := v'.cursorUtf16, selectionBeginUtf16 := v'.selectionBeginUtf16,
                       selectionEndUtf16 := v'.selectionEndUtf16 }
  password : Editor.isPasswordInputType v.textInputType = true
  view : v.utf8.unavailable = false
  view' : v'.utf8.unavailable = false

/-- Nothing but numbers of code points shows: how many the text has, and how many are before the caret and before the
    ends of the selection. -/
theorem password_reveals_lengths (hu : u.Decodes) (q : DensityQuotient) (viewport : OverlayViewport) :
    (∀ v v' : TextDisplayUpdate, SamePassword v v' →
      (∃ n, CodepointCount v.utf8.bytes n ∧ CodepointCount v'.utf8.bytes n) →
      (∃ k, CodepointsBefore v.utf8.bytes v.cursorUtf16 k ∧ CodepointsBefore v'.utf8.bytes v'.cursorUtf16 k) →
      (∃ k, CodepointsBefore v.utf8.bytes v.selectionBeginUtf16 k ∧
        CodepointsBefore v'.utf8.bytes v'.selectionBeginUtf16 k) →
      (∃ k, CodepointsBefore v.utf8.bytes v.selectionEndUtf16 k ∧ CodepointsBefore v'.utf8.bytes v'.selectionEndUtf16 k) →
      buildPresentation u q v viewport = buildPresentation u q v' viewport) ∧
    ∀ v p, Editor.isPasswordInputType v.textInputType = true → buildPresentation u q v viewport = .ok p →
      ∃ n k kb ke, CodepointCount v.utf8.bytes n ∧ CodepointsBefore v.utf8.bytes v.cursorUtf16 k ∧
        CodepointsBefore v.utf8.bytes v.selectionBeginUtf16 kb ∧ CodepointsBefore v.utf8.bytes v.selectionEndUtf16 ke ∧
        p.displayUtf8 = (List.replicate n kPasswordBullet).flatten ∧
        p.caretUtf8Byte = k * kPasswordBullet.length ∧ k ≤ n ∧
        p.selectionBeginUtf8Byte = min kb ke * kPasswordBullet.length ∧
        p.selectionEndUtf8Byte = max kb ke * kPasswordBullet.length ∧ max kb ke ≤ n ∧
        p.selectionBeginUtf8Byte ≤ p.selectionEndUtf8Byte := by
  constructor
  · rintro v v' ⟨hsame, hpassword, hview, hview'⟩ ⟨n, hn, hn'⟩ ⟨k, hk, hk'⟩ ⟨kb, hkb, hkb'⟩ ⟨ke, hke, hke'⟩
    have hpassword' : Editor.isPasswordInputType v'.textInputType = true := by
      rw [hsame]
      exact hpassword
    rw [buildPresentation_password hu hpassword hview hn hk hkb hke,
      buildPresentation_password hu hpassword' hview' hn' hk' hkb' hke', hsame]
    rfl
  · intro v p hpassword hp
    obtain ⟨-, n, hn, hmasked | hplain⟩ := buildPresentation_cases hp
    swap
    · rw [hplain.1] at hpassword
      cases hpassword
    have hn := (validateAndCountUtf8_iff hu _ n).mp hn
    have hk := (codepointsBefore_iff hu hn.wellFormed v.cursorUtf16 _).mpr rfl
    have hkb := (codepointsBefore_iff hu hn.wellFormed v.selectionBeginUtf16 _).mpr rfl
    have hke := (codepointsBefore_iff hu hn.wellFormed v.selectionEndUtf16 _).mpr rfl
    have hb := codepointsBefore_le hkb hn
    have he := codepointsBefore_le hke hn
    rw [hmasked.2]
    refine ⟨n, _, _, _, hn, hk, hkb, hke, rfl, rfl, codepointsBefore_le hk hn, rfl, rfl, by omega, ?_⟩
    exact Nat.mul_le_mul_right _ (by omega)

end

/-- A password update of the TextBox of generation 3. -/
def passwordUpdate (text : Text) (cursor first last : Int) : TextDisplayUpdate :=
  { event := .show, generation := 3, textInputType := 5, utf8 := .buffer text, cursorUtf16 := cursor,
    selectionBeginUtf16 := first, selectionEndUtf16 := last }

/-- "a€" and U+1F600 with "b", the caret behind the first character, look the same. -/
theorem password_reveals_lengths_demo :
    buildPresentation plainUtf8proc (fun w _ => w) (passwordUpdate [0x61, 0xE2, 0x82, 0xAC] 1 0 2) ⟨800, 600, F32.one⟩ =
      buildPresentation plainUtf8proc (fun w _ => w) (passwordUpdate [0xF0, 0x9F, 0x98, 0x80, 0x62] 2 1 3)
        ⟨800, 600, F32.one⟩ := by
  have hu := plainUtf8proc_decodes
  have hn : CodepointCount [0x61, 0xE2, 0x82, 0xAC] 2 := (validateAndCountUtf8_iff hu _ _).mp (by decide)
  have hn' : CodepointCount [0xF0, 0x9F, 0x98, 0x80, 0x62] 2 := (validateAndCountUtf8_iff hu _ _).mp (by decide)
  refine (password_reveals_lengths hu (fun w _ => w) ⟨800, 600, F32.one⟩).1 _ _ ⟨rfl, rfl, rfl, rfl⟩ ⟨2, hn, hn'⟩ ⟨1, ?_, ?_⟩
    ⟨0, ?_, ?_⟩ ⟨2, ?_, ?_⟩
  · exact (codepointsBefore_iff hu hn.wellFormed _ _).mpr (by decide)
  · exact (codepointsBefore_iff hu hn'.wellFormed _ _).mpr (by decide)
  · exact (codepointsBefore_iff hu hn.wellFormed _ _).mpr (by decide)
  · exact (codepointsBefore_iff hu hn'.wellFormed _ _).mpr (by decide)
  · exact (codepointsBefore_iff hu hn.wellFormed _ _).mpr (by decide)
  · exact (codepointsBefore_iff hu hn'.wellFormed _ _).mpr (by decide)

end Mocktail.Input

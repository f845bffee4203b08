/-
  Mocktail.Input.TextBoundaries — what the layout functions of the text editor return when
  utf8proc decodes UTF-8 (`Utf8proc.Decodes`).

  `layout` accepts well-formed texts only, and its grapheme boundaries are boundaries of the
  text in ascending order, whatever the break function says (`layout_sound`); every
  well-formed text of fewer than 2^31 bytes is accepted (`layout_accepts`). `utf16Cursor` is
  the UTF-16 length of the prefix and `utf8CharacterByteOffset` a boundary.
-/

import Mathlib.Data.List.Pairwise
import Mocktail.Lib.Utf8
import Mocktail.Input.TextLayout

namespace Mocktail.Input

open Mocktail.Lib.Utf8

/-- `utf8proc_iterate` decodes exactly the well-formed texts. -/
structure Utf8proc.Decodes (u : Utf8proc) : Prop where
  reads : ∀ c r, Scalar c → u.iterate (encode c ++ r) = (((encode c).length : Int), c)
  only : ∀ t, 0 < (u.iterate t).1 → ∃ c r, Scalar c ∧ t = encode c ++ r

/-- The text has `n` UTF-16 code units. -/
def Utf16Length (t : Text) (n : Nat) : Prop :=
  ∃ cs : List Nat, (∀ c ∈ cs, Scalar c) ∧ t = cs.flatMap encode ∧ n = (cs.map utf16Width).sum

theorem encode_length_pos (c : Nat) : 0 < (encode c).length := List.length_pos_of_ne_nil (encode_ne_nil c)

theorem length_le_flatMap (cs : List Nat) : cs.length ≤ (cs.flatMap encode).length := by
  induction cs with
  | nil => simp
  | cons c cs ih =>
    have := encode_length_pos c
    simp only [List.length_cons, List.flatMap_cons, List.length_append]
    omega

section Decodes

variable {u : Utf8proc} (hu : u.Decodes)
include hu

/-- The decoder takes one encoding off the front, or stops. -/
theorem iterate_cases (rest : Text) : (u.iterate rest).1 ≤ 0 ∨
    ∃ c r, Scalar c ∧ rest = encode c ++ r ∧ u.iterate rest = (((encode c).length : Int), c) ∧
      rest.drop (u.iterate rest).1.toNat = r := by
  by_cases hpos : 0 < (u.iterate rest).1
  · obtain ⟨c, r, hc, rfl⟩ := hu.only rest hpos
    refine Or.inr ⟨c, r, hc, rfl, hu.reads c r hc, ?_⟩
    rw [hu.reads c r hc]
    simp
  · exact Or.inl (by omega)

theorem iterate_encode (c : Nat) (r : Text) (hc : Scalar c) :
    ¬ (u.iterate (encode c ++ r)).1 ≤ 0 ∧ (u.iterate (encode c ++ r)).1.toNat = (encode c).length ∧
      (u.iterate (encode c ++ r)).2 = c ∧ (encode c ++ r).drop (u.iterate (encode c ++ r)).1.toNat = r := by
  have hpos := encode_length_pos c
  rw [hu.reads c r hc]
  refine ⟨by simp only; omega, by simp, rfl, by simp⟩

/-! ## UTF-16 lengths -/

theorem utf16CursorLoop_encode (fuel units c : Nat) (r : Text) (hc : Scalar c) :
    utf16CursorLoop u (fuel + 1) (encode c ++ r) units = utf16CursorLoop u fuel r (units + utf16Width c) := by
  obtain ⟨hpos, -, hcode, hdrop⟩ := iterate_encode hu c r hc
  generalize hrest : encode c ++ r = rest at hpos hcode hdrop
  cases rest with
  | nil => exact absurd (List.append_eq_nil_iff.mp hrest).1 (encode_ne_nil c)
  | cons b bs =>
    simp only [utf16CursorLoop]
    rw [if_neg hpos, hdrop, hcode]

theorem utf16CursorLoop_eq (cs : List Nat) (hcs : ∀ c ∈ cs, Scalar c) (fuel units : Nat) (hf : cs.length < fuel) :
    utf16CursorLoop u fuel (cs.flatMap encode) units = units + (cs.map utf16Width).sum := by
  induction cs generalizing fuel units with
  | nil =>
    obtain ⟨fuel, rfl⟩ := Nat.exists_eq_succ_of_ne_zero (Nat.ne_of_gt hf)
    simp [utf16CursorLoop]
  | cons c cs ih =>
    simp only [List.length_cons] at hf
    obtain ⟨fuel, rfl⟩ := Nat.exists_eq_succ_of_ne_zero (by omega : fuel ≠ 0)
    rw [List.flatMap_cons, utf16CursorLoop_encode hu fuel units c _ (hcs c (by simp)),
      ih (fun d hd => hcs d (by simp [hd])) fuel _ (by omega), List.map_cons, List.sum_cons]
    omega

variable {t : Text}

theorem utf16Cursor_length {i : Nat} (h : Boundary t i) : Utf16Length (t.take i) (utf16Cursor u t i) := by
  obtain ⟨cs, hcs, heq⟩ := h.before
  refine ⟨cs, hcs, heq, ?_⟩
  have hlen := length_le_flatMap cs
  unfold utf16Cursor
  rw [heq, utf16CursorLoop_eq hu cs hcs _ 0 (by omega), Nat.zero_add]

/-! ## The caret of a preedit -/

theorem utf8CharacterLoop_encode (size index offset c : Nat) (r : Text) (hc : Scalar c) :
    utf8CharacterLoop u size (index + 1) (encode c ++ r) offset =
      utf8CharacterLoop u size index r (offset + (encode c).length) := by
  obtain ⟨hpos, hcount, -, hdrop⟩ := iterate_encode hu c r hc
  generalize hrest : encode c ++ r = rest at hpos hcount hdrop
  cases rest with
  | nil => exact absurd (List.append_eq_nil_iff.mp hrest).1 (encode_ne_nil c)
  | cons b bs =>
    simp only [utf8CharacterLoop]
    rw [if_neg hpos, hdrop, hcount]

theorem utf8CharacterLoop_boundary (index : Nat) {front rest : Text} (hfront : WellFormed front) (hrest : WellFormed rest) :
    Boundary (front ++ rest) (utf8CharacterLoop u (front ++ rest).length index rest front.length) := by
  induction index generalizing front rest with
  | zero =>
    cases rest with
    | nil => exact boundary_append hfront hrest
    | cons b bs => exact boundary_append hfront hrest
  | succ index ih =>
    rcases hrest.cases with rfl | ⟨c, r, hc, rfl, hr⟩
    · exact boundary_append hfront hrest
    · have hnext := ih (hfront.append (wellFormed_encode hc)) hr
      have hlen : (front ++ encode c).length = front.length + (encode c).length := List.length_append
      rw [hlen, List.append_assoc] at hnext
      rw [utf8CharacterLoop_encode hu _ _ _ _ _ hc]
      exact hnext

theorem utf8CharacterByteOffset_boundary (h : WellFormed t) (index : Int) :
    Boundary t (utf8CharacterByteOffset u t index) := by
  unfold utf8CharacterByteOffset
  split
  · exact boundary_length h
  · exact utf8CharacterLoop_boundary hu _ wellFormed_nil h

/-! ## Layout -/

/-- The boundaries found so far, `front` being the part of the text that was read. -/
structure Collected (front : Text) (previous : Option Nat) (bounds : List Nat) : Prop where
  read : WellFormed front
  sorted : bounds.Pairwise (· < ·)
  le : ∀ b ∈ bounds, b ≤ front.length
  lt : previous.isSome → ∀ b ∈ bounds, b < front.length
  start : previous = none → front = [] ∧ bounds = [0]
  before : ∀ b ∈ bounds, WellFormed (front.take b)

/-- What the layout of a valid text says. -/
structure LayoutOk (t : Text) (bounds : List Nat) : Prop where
  text : WellFormed t
  sorted : bounds.Pairwise (· < ·)
  boundary : ∀ b ∈ bounds, Boundary t b
  full : t.length ∈ bounds

omit hu in
theorem collected_step {front : Text} {previous : Option Nat} {bounds : List Nat} (h : Collected front previous bounds)
    {c : Nat} (hc : Scalar c) (broken : Bool) (hbroken : previous = none → broken = false) :
    Collected (front ++ encode c) (some c) (if broken then bounds ++ [front.length] else bounds) := by
  have hpos := encode_length_pos c
  have hlen : (front ++ encode c).length = front.length + (encode c).length := List.length_append
  have hmem : ∀ b ∈ (if broken then bounds ++ [front.length] else bounds), b ∈ bounds ∨ b = front.length := by
    intro b hb
    cases broken with
    | false => exact Or.inl hb
    | true => simpa using hb
  have hle : ∀ b ∈ (if broken then bounds ++ [front.length] else bounds), b ≤ front.length := by
    intro b hb
    rcases hmem b hb with hb | rfl
    · exact h.le b hb
    · exact le_rfl
  refine ⟨h.read.append (wellFormed_encode hc), ?_, ?_, ?_, by simp, ?_⟩
  · cases hb : broken with
    | false => exact h.sorted
    | true =>
      have hsome : previous.isSome := by
        cases previous with
        | none => rw [hbroken rfl] at hb; cases hb
        | some p => rfl
      rw [if_pos rfl, List.pairwise_append]
      refine ⟨h.sorted, by simp, fun b hb' d hd => ?_⟩
      rw [List.mem_singleton.mp hd]
      exact h.lt hsome b hb'
  · intro b hb
    have := hle b hb
    omega
  · intro _ b hb
    have := hle b hb
    omega
  · intro b hb
    rw [List.take_append_of_le_length (hle b hb)]
    rcases hmem b hb with hb | rfl
    · exact h.before b hb
    · rw [List.take_length]; exact h.read

omit hu in
theorem layoutOk_end {previous : Option Nat} {bounds : List Nat} (h : Collected t previous bounds) :
    LayoutOk t (if bounds.getLast? = some t.length then bounds else bounds ++ [t.length]) := by
  have hbound : ∀ b ∈ bounds, Boundary t b := by
    intro b hb
    refine ⟨h.le b hb, h.before b hb, (h.before b hb).of_append ?_⟩
    rw [List.take_append_drop]
    exact h.read
  split
  · rename_i hlast
    exact ⟨h.read, h.sorted, hbound, List.mem_of_getLast? hlast⟩
  · rename_i hlast
    refine ⟨h.read, ?_, ?_, by simp⟩
    · rw [List.pairwise_append]
      refine ⟨h.sorted, by simp, fun b hb d hd => ?_⟩
      rw [List.mem_singleton.mp hd]
      cases hp : previous with
      | none =>
        obtain ⟨rfl, rfl⟩ := h.start hp
        exact absurd rfl hlast
      | some p => exact h.lt (by simp [hp]) b hb
    · intro b hb
      rcases List.mem_append.mp hb with hb | hb
      · exact hbound b hb
      · rw [List.mem_singleton.mp hb]; exact boundary_length h.read

omit hu in
/-- Whether a grapheme starts at the code point, and the state after it. -/
def breakBefore (u : Utf8proc) (previous : Option Nat) (c : Nat) (state : Int) : Bool × Int :=
  match previous with
  | some p => u.graphemeBreakStateful p c state
  | none => (false, state)

omit hu in
theorem breakBefore_none {previous : Option Nat} (c : Nat) (state : Int) (h : previous = none) :
    (breakBefore u previous c state).1 = false := by
  rw [h]
  rfl

theorem layoutLoop_encode (size fuel c : Nat) (r : Text) (hc : Scalar c) (offset : Nat) (previous : Option Nat) (state : Int)
    (units : Nat) (bounds : List Nat) :
    layoutLoop u size (fuel + 1) (encode c ++ r) offset previous state units bounds =
      if maxInt32 < units + utf16Width c then
        { graphemeBoundaries := if (breakBefore u previous c state).1 then bounds ++ [offset] else bounds }
      else layoutLoop u size fuel r (offset + (encode c).length) (some c) (breakBefore u previous c state).2
        (units + utf16Width c)
        (if (breakBefore u previous c state).1 then bounds ++ [offset] else bounds) := by
  obtain ⟨hpos, hcount, hcode, hdrop⟩ := iterate_encode hu c r hc
  generalize hrest : encode c ++ r = rest at hpos hcount hcode hdrop
  cases rest with
  | nil => exact absurd (List.append_eq_nil_iff.mp hrest).1 (encode_ne_nil c)
  | cons b bs =>
    simp only [layoutLoop]
    rw [if_neg hpos, hdrop, hcode, hcount]
    cases previous with
    | none => rfl
    | some p => rfl

theorem layoutLoop_sound (fuel : Nat) {front rest : Text} {previous : Option Nat} {bounds : List Nat}
    (h : Collected front previous bounds) (state : Int) (units : Nat)
    (hv : (layoutLoop u (front ++ rest).length fuel rest front.length previous state units bounds).valid = true) :
    LayoutOk (front ++ rest)
      (layoutLoop u (front ++ rest).length fuel rest front.length previous state units bounds).graphemeBoundaries := by
  induction fuel generalizing front rest previous bounds state units with
  | zero => cases rest <;> cases hv
  | succ fuel ih =>
    cases hrest : rest with
    | nil =>
      simp only [layoutLoop, List.append_nil]
      exact layoutOk_end h
    | cons b bs =>
      rw [← hrest]
      rcases iterate_cases hu rest with hstop | ⟨c, r, hc, rfl, -, -⟩
      · rw [hrest] at hv hstop
        simp only [layoutLoop] at hv
        rw [if_pos hstop] at hv
        cases hv
      · have hstep := layoutLoop_encode hu (front ++ (encode c ++ r)).length fuel c r hc front.length previous state units bounds
        have hlen : (front ++ encode c).length = front.length + (encode c).length := List.length_append
        rw [hstep] at hv ⊢
        split at hv
        · cases hv
        · rename_i hunits
          rw [if_neg hunits]
          rw [← hlen, ← List.append_assoc] at hv ⊢
          exact ih (collected_step h hc _ (breakBefore_none c state)) _ _ hv

theorem layout_sound (h : (layout u t).valid = true) : LayoutOk t (layout u t).graphemeBoundaries := by
  refine @layoutLoop_sound u hu (t.length + 1) [] t none [0] ?_ 0 0 h
  exact ⟨wellFormed_nil, by simp, by simp, by simp, by simp, by simpa using wellFormed_nil⟩

omit hu in
/-- What was read is a prefix of the text, so the boundaries found in it are the text's. -/
theorem Collected.boundary {front rest : Text} {previous : Option Nat} {bounds : List Nat} (h : Collected front previous bounds)
    (hrest : WellFormed rest) {b : Nat} (hb : b ∈ bounds) : Boundary (front ++ rest) b := by
  have hle := h.le b hb
  have hbefore : WellFormed ((front ++ rest).take b) := by
    rw [List.take_append_of_le_length hle]
    exact h.before b hb
  refine ⟨?_, hbefore, hbefore.of_append ?_⟩
  · rw [List.length_append]
    omega
  · rw [List.take_append_drop]
    exact h.read.append hrest

/-- Also where the layout stops early, what it found are boundaries in ascending order. -/
theorem layoutLoop_ascending (fuel : Nat) {front rest : Text} {previous : Option Nat} {bounds : List Nat}
    (h : Collected front previous bounds) (hrest : WellFormed rest) (state : Int) (units : Nat) :
    (layoutLoop u (front ++ rest).length fuel rest front.length previous state units bounds).graphemeBoundaries.Pairwise (· < ·) ∧
      ∀ b ∈ (layoutLoop u (front ++ rest).length fuel rest front.length previous state units bounds).graphemeBoundaries,
        Boundary (front ++ rest) b := by
  induction fuel generalizing front rest previous bounds state units with
  | zero => exact ⟨h.sorted, fun b => h.boundary hrest⟩
  | succ fuel ih =>
    rcases hrest.cases with rfl | ⟨c, r, hc, rfl, hr⟩
    · have hok := layoutOk_end h
      rw [List.append_nil]
      exact ⟨hok.sorted, hok.boundary⟩
    · have hstep := layoutLoop_encode hu (front ++ (encode c ++ r)).length fuel c r hc front.length previous state units bounds
      have hlen : (front ++ encode c).length = front.length + (encode c).length := List.length_append
      have hnext := collected_step h hc _ (breakBefore_none (u := u) c state)
      rw [hstep]
      split
      · rw [← List.append_assoc]
        exact ⟨hnext.sorted, fun b => hnext.boundary hr⟩
      · rw [← hlen, ← List.append_assoc]
        exact ih hnext hr _ _

theorem layout_ascending (h : WellFormed t) :
    (layout u t).graphemeBoundaries.Pairwise (· < ·) ∧ ∀ b ∈ (layout u t).graphemeBoundaries, Boundary t b :=
  @layoutLoop_ascending u hu (t.length + 1) [] t none [0]
    ⟨wellFormed_nil, by simp, by simp, by simp, by simp, by simpa using wellFormed_nil⟩ h 0 0

/-! ## Acceptance -/

omit hu in
/-- A code point has no more UTF-16 units than bytes. -/
theorem utf16Width_le (c : Nat) : utf16Width c ≤ (encode c).length := by
  unfold utf16Width
  rcases encode_cases c with ⟨h1, e⟩ | ⟨h1, h2, e⟩ | ⟨h1, h2, e⟩ | ⟨h1, e⟩ <;> rw [e] <;>
    simp only [List.length_cons, List.length_nil] <;> split <;> omega

theorem layoutLoop_accepts (size : Nat) (cs : List Nat) (hcs : ∀ c ∈ cs, Scalar c) (fuel offset : Nat)
    (previous : Option Nat) (state : Int) (units : Nat) (bounds : List Nat) (hf : cs.length < fuel)
    (hunits : units + (cs.flatMap encode).length ≤ maxInt32) :
    (layoutLoop u size fuel (cs.flatMap encode) offset previous state units bounds).valid = true := by
  induction cs generalizing fuel offset previous state units bounds with
  | nil =>
    obtain ⟨fuel, rfl⟩ := Nat.exists_eq_succ_of_ne_zero (Nat.ne_of_gt hf)
    rfl
  | cons c cs ih =>
    simp only [List.length_cons] at hf
    rw [List.flatMap_cons, List.length_append] at hunits
    obtain ⟨fuel, rfl⟩ := Nat.exists_eq_succ_of_ne_zero (by omega : fuel ≠ 0)
    have hwidth := utf16Width_le c
    rw [List.flatMap_cons, layoutLoop_encode hu size fuel c (cs.flatMap encode) (hcs c (by simp)), if_neg (by omega)]
    exact ih (fun d hd => hcs d (by simp [hd])) fuel _ _ _ _ _ (by omega) (by omega)

theorem layout_accepts (h : WellFormed t) (hlen : t.length ≤ maxInt32) : (layout u t).valid = true := by
  obtain ⟨cs, hcs, rfl⟩ := h
  have hle := length_le_flatMap cs
  exact layoutLoop_accepts hu _ cs hcs _ 0 none 0 0 [0] (by omega) (by omega)

end Decodes

/-! ## The strict decoder -/

theorem toNat_ofNat {n : Nat} (h : n < 256) : (UInt8.ofNat n).toNat = n := by
  rw [UInt8.toNat_ofNat']
  omega

theorem utfCont_ofNat (n : Nat) : utfCont (UInt8.ofNat (0x80 + n % 64)) = true := by
  unfold utfCont
  rw [toNat_ofNat (by omega), beq_iff_eq]
  omega

theorem strictIterate_reads (c : Nat) (r : Text) (hc : Scalar c) :
    strictIterate (encode c ++ r) = (((encode c).length : Int), c) := by
  have hlt := scalar_lt hc
  rcases encode_cases c with ⟨h1, e⟩ | ⟨h1, h2, e⟩ | ⟨h1, h2, e⟩ | ⟨h1, e⟩ <;> rw [e]
  · have ha : (UInt8.ofNat c).toNat = c := toNat_ofNat (by omega)
    simp [strictIterate, ha, h1]
  · have ha := toNat_ofNat (n := 0xc0 + c / 64) (by omega)
    have hb := toNat_ofNat (n := 0x80 + c % 64) (by omega)
    have hrow : decide (0xc0 + c / 64 < 0xe0) = true := by simp; omega
    have hcp : (0xc0 + c / 64) % 32 * 64 + (0x80 + c % 64) % 64 = c := by omega
    simp only [List.cons_append, List.nil_append, strictIterate, ha, hb, hrow, utfCont_ofNat, hcp, if_true]
    rw [if_neg (by omega), if_neg (by simp; omega)]
    rfl
  · have ha := toNat_ofNat (n := 0xe0 + c / 4096) (by omega)
    have hb := toNat_ofNat (n := 0x80 + c / 64 % 64) (by omega)
    have hd := toNat_ofNat (n := 0x80 + c % 64) (by omega)
    have hrow : decide (0xe0 + c / 4096 < 0xe0) = false := by simp
    have hrow' : decide (0xe0 + c / 4096 < 0xf0) = true := by simp; omega
    have hcp : (0xe0 + c / 4096) % 16 * 4096 + (0x80 + c / 64 % 64) % 64 * 64 + (0x80 + c % 64) % 64 = c := by omega
    simp only [List.cons_append, List.nil_append, strictIterate, ha, hb, hd, hrow, hrow', utfCont_ofNat, hcp]
    rw [if_neg (by omega), if_neg (by simp; omega), if_neg]
    · rfl
    · rcases hc with hc | hc <;> simp <;> omega
  · have ha := toNat_ofNat (n := 0xf0 + c / 262144) (by omega)
    have hb := toNat_ofNat (n := 0x80 + c / 4096 % 64) (by omega)
    have hd := toNat_ofNat (n := 0x80 + c / 64 % 64) (by omega)
    have hf := toNat_ofNat (n := 0x80 + c % 64) (by omega)
    have hrow : decide (0xf0 + c / 262144 < 0xe0) = false := by simp; omega
    have hrow' : decide (0xf0 + c / 262144 < 0xf0) = false := by simp
    have hcp : (0xf0 + c / 262144) % 8 * 262144 + (0x80 + c / 4096 % 64) % 64 * 4096 + (0x80 + c / 64 % 64) % 64 * 64 +
        (0x80 + c % 64) % 64 = c := by omega
    simp only [List.cons_append, List.nil_append, strictIterate, ha, hb, hd, hf, hrow, hrow', utfCont_ofNat, hcp]
    rw [if_neg (by omega), if_neg (by simp; omega), if_neg]
    · rfl
    · simp; omega

theorem utfCont_eq {b : UInt8} (h : utfCont b = true) {n : Nat} (hn : n % 64 = b.toNat % 64) :
    UInt8.ofNat (0x80 + n % 64) = b := by
  have hb : b.toNat / 64 = 2 := by simpa [utfCont] using h
  have he : 0x80 + n % 64 = b.toNat := by omega
  rw [he, UInt8.ofNat_toNat]

theorem lead_eq {a : UInt8} {n : Nat} (h : n = a.toNat) : UInt8.ofNat n = a := by rw [h, UInt8.ofNat_toNat]

theorem strictIterate_only (t : Text) (h : 0 < (strictIterate t).1) : ∃ c r, Scalar c ∧ t = encode c ++ r := by
  unfold strictIterate at h
  split at h
  · cases h
  · rename_i a rest
    simp only at h
    have hrange := a.toNat_lt
    split at h
    · rename_i h1
      exact ⟨a.toNat, rest, Or.inl (by omega), by rw [encode_ascii h1, lead_eq rfl]; rfl⟩
    split at h
    · cases h
    rename_i hlow
    simp only [Bool.or_eq_true, decide_eq_true_eq, not_or, Nat.not_lt] at hlow
    split at h
    · rename_i b rest' hrow
      split at h
      · rename_i hcont
        have hrow : a.toNat < 0xe0 := by simpa using hrow
        refine ⟨a.toNat % 32 * 64 + b.toNat % 64, rest', Or.inl (by omega), ?_⟩
        rcases encode_cases (a.toNat % 32 * 64 + b.toNat % 64) with ⟨h1, e⟩ | ⟨h1, h2, e⟩ | ⟨h1, h2, e⟩ | ⟨h1, e⟩
        · omega
        · rw [e, lead_eq (a := a) (by omega), utfCont_eq hcont (by omega)]
          rfl
        · omega
        · omega
      · cases h
    · rename_i b c rest' hrow hrow'
      split at h
      · cases h
      · rename_i hok
        have hrow : 0xe0 ≤ a.toNat := by simpa using hrow
        have hrow' : a.toNat < 0xf0 := by simpa using hrow'
        simp only [Bool.or_eq_true, Bool.not_eq_true', Bool.and_eq_true, beq_iff_eq, decide_eq_true_eq, not_or,
          Bool.not_eq_false, not_and, Nat.not_lt] at hok
        obtain ⟨⟨⟨hb, hc⟩, hed⟩, hcp⟩ := hok
        have hb64 : b.toNat / 64 = 2 := by simpa [utfCont] using hb
        refine ⟨a.toNat % 16 * 4096 + b.toNat % 64 * 64 + c.toNat % 64, rest', ?_, ?_⟩
        · unfold Scalar
          by_cases ha : a.toNat = 0xed
          · have := hed ha
            left; omega
          · omega
        · rcases encode_cases (a.toNat % 16 * 4096 + b.toNat % 64 * 64 + c.toNat % 64) with
            ⟨h1, e⟩ | ⟨h1, h2, e⟩ | ⟨h1, h2, e⟩ | ⟨h1, e⟩
          · omega
          · omega
          · rw [e, lead_eq (a := a) (by omega), utfCont_eq hb (by omega), utfCont_eq hc (by omega)]
            rfl
          · omega
    · rename_i b c d rest' hrow hrow'
      split at h
      · cases h
      · rename_i hok
        have hrow' : 0xf0 ≤ a.toNat := by simpa using hrow'
        simp only [Bool.or_eq_true, Bool.not_eq_true', Bool.and_eq_true, beq_iff_eq, decide_eq_true_eq, not_or,
          Bool.not_eq_false, not_and, Nat.not_lt] at hok
        obtain ⟨⟨⟨⟨hb, hc⟩, hd⟩, hf0⟩, hf4⟩ := hok
        have hb64 : b.toNat / 64 = 2 := by simpa [utfCont] using hb
        have hlo : a.toNat = 0xf0 → 0x90 ≤ b.toNat := hf0
        have hhi : a.toNat = 0xf4 → b.toNat ≤ 0x8f := hf4
        refine ⟨a.toNat % 8 * 262144 + b.toNat % 64 * 4096 + c.toNat % 64 * 64 + d.toNat % 64, rest', ?_, ?_⟩
        · right
          omega
        · rcases encode_cases (a.toNat % 8 * 262144 + b.toNat % 64 * 4096 + c.toNat % 64 * 64 + d.toNat % 64) with
            ⟨h1, e⟩ | ⟨h1, h2, e⟩ | ⟨h1, h2, e⟩ | ⟨h1, e⟩
          · omega
          · omega
          · omega
          · rw [e, lead_eq (a := a) (by omega), utfCont_eq hb (by omega), utfCont_eq hc (by omega),
              utfCont_eq hd (by omega)]
            rfl
    · cases h

theorem plainUtf8proc_decodes : plainUtf8proc.Decodes := ⟨strictIterate_reads, strictIterate_only⟩

end Mocktail.Input

/-
  Mocktail.Lib.Utf8 — UTF-8 over lists of bytes.

  `encode` writes one scalar value, in the arithmetic of its table; a text is well formed
  when it is the concatenation of encodings. The code is a prefix code (`encode_cancel`),
  so a well-formed text is read in one way only: what is left after a well-formed front is
  well formed again (`WellFormed.of_append`).

  An ASCII byte occurs in an encoding only as that character (`ascii_mem_encode`).

  `Boundary t i` marks the offsets between two encodings: the byte lengths of the prefixes of
  its code points (`boundary_flatMap`), and the offsets whose byte is no continuation byte
  (`boundary_iff_lead`). Replacing the bytes between two boundaries by a well-formed text
  leaves a well-formed text (`Boundary.splice`).
-/

import Mathlib.Algebra.Ring.Nat
import Mathlib.Algebra.Ring.Int.Defs
import Mathlib.Data.Bool.AllAny
import Mathlib.Data.List.Basic

namespace Mocktail.Lib.Utf8

/-- A Unicode scalar value: a code point that is no surrogate. -/
def Scalar (c : Nat) : Prop := c < 0xd800 ∨ (0xe000 ≤ c ∧ c < 0x110000)

instance (c : Nat) : Decidable (Scalar c) := inferInstanceAs (Decidable (_ ∨ _))

def encode (c : Nat) : List UInt8 :=
  if c < 0x80 then [UInt8.ofNat c]
  else if c < 0x800 then [UInt8.ofNat (0xc0 + c / 64), UInt8.ofNat (0x80 + c % 64)]
  else if c < 0x10000 then
    [UInt8.ofNat (0xe0 + c / 4096), UInt8.ofNat (0x80 + c / 64 % 64), UInt8.ofNat (0x80 + c % 64)]
  else
    [UInt8.ofNat (0xf0 + c / 262144), UInt8.ofNat (0x80 + c / 4096 % 64), UInt8.ofNat (0x80 + c / 64 % 64),
      UInt8.ofNat (0x80 + c % 64)]

def WellFormed (t : List UInt8) : Prop := ∃ cs : List Nat, (∀ c ∈ cs, Scalar c) ∧ t = cs.flatMap encode

/-! ## One scalar value -/

variable {c n : Nat}

theorem scalar_lt (h : Scalar c) : c < 0x110000 := by
  rcases h with h | h <;> omega

theorem encode_cases (c : Nat) :
    (c < 0x80 ∧ encode c = [UInt8.ofNat c]) ∨
    (0x80 ≤ c ∧ c < 0x800 ∧ encode c = [UInt8.ofNat (0xc0 + c / 64), UInt8.ofNat (0x80 + c % 64)]) ∨
    (0x800 ≤ c ∧ c < 0x10000 ∧ encode c =
      [UInt8.ofNat (0xe0 + c / 4096), UInt8.ofNat (0x80 + c / 64 % 64), UInt8.ofNat (0x80 + c % 64)]) ∨
    (0x10000 ≤ c ∧ encode c =
      [UInt8.ofNat (0xf0 + c / 262144), UInt8.ofNat (0x80 + c / 4096 % 64), UInt8.ofNat (0x80 + c / 64 % 64),
        UInt8.ofNat (0x80 + c % 64)]) := by
  unfold encode
  by_cases h1 : c < 0x80
  · exact Or.inl ⟨h1, if_pos h1⟩
  · rw [if_neg h1]
    by_cases h2 : c < 0x800
    · exact Or.inr (Or.inl ⟨by omega, h2, if_pos h2⟩)
    · rw [if_neg h2]
      by_cases h3 : c < 0x10000
      · exact Or.inr (Or.inr (Or.inl ⟨by omega, h3, if_pos h3⟩))
      · exact Or.inr (Or.inr (Or.inr ⟨by omega, if_neg h3⟩))

theorem encode_ne_nil (c : Nat) : encode c ≠ [] := by
  rcases encode_cases c with h | h | h | h <;> simp [h]

theorem encode_ascii (h : c < 0x80) : encode c = [UInt8.ofNat c] := if_pos h

theorem ofNat_inj {m : Nat} (hm : m < 256) (hn : n < 256) (h : UInt8.ofNat m = UInt8.ofNat n) : m = n := by
  have h := congrArg UInt8.toNat h
  rw [UInt8.toNat_ofNat', UInt8.toNat_ofNat'] at h
  omega

/-- A prefix code: two texts that start with an encoding start with the same one. -/
theorem encode_cancel {d : Nat} {r s : List UInt8} (hc : c < 0x110000) (hd : d < 0x110000)
    (h : encode c ++ r = encode d ++ s) : c = d ∧ r = s := by
  rcases encode_cases c with ⟨h1, e⟩ | ⟨h1, h2, e⟩ | ⟨h1, h2, e⟩ | ⟨h1, e⟩ <;>
    rcases encode_cases d with ⟨k1, f⟩ | ⟨k1, k2, f⟩ | ⟨k1, k2, f⟩ | ⟨k1, f⟩ <;>
    rw [e, f] at h <;>
    simp only [List.cons_append, List.nil_append, List.cons.injEq] at h
  · have := ofNat_inj (by omega) (by omega) h.1
    exact ⟨this, h.2⟩
  · have := ofNat_inj (by omega) (by omega) h.1; omega
  · have := ofNat_inj (by omega) (by omega) h.1; omega
  · have := ofNat_inj (by omega) (by omega) h.1; omega
  · have := ofNat_inj (by omega) (by omega) h.1; omega
  · have b1 := ofNat_inj (by omega) (by omega) h.1
    have b2 := ofNat_inj (by omega) (by omega) h.2.1
    exact ⟨by omega, h.2.2⟩
  · have := ofNat_inj (by omega) (by omega) h.1; omega
  · have := ofNat_inj (by omega) (by omega) h.1; omega
  · have := ofNat_inj (by omega) (by omega) h.1; omega
  · have := ofNat_inj (by omega) (by omega) h.1; omega
  · have b1 := ofNat_inj (by omega) (by omega) h.1
    have b2 := ofNat_inj (by omega) (by omega) h.2.1
    have b3 := ofNat_inj (by omega) (by omega) h.2.2.1
    exact ⟨by omega, h.2.2.2⟩
  · have := ofNat_inj (by omega) (by omega) h.1; omega
  · have := ofNat_inj (by omega) (by omega) h.1; omega
  · have := ofNat_inj (by omega) (by omega) h.1; omega
  · have := ofNat_inj (by omega) (by omega) h.1; omega
  · have b1 := ofNat_inj (by omega) (by omega) h.1
    have b2 := ofNat_inj (by omega) (by omega) h.2.1
    have b3 := ofNat_inj (by omega) (by omega) h.2.2.1
    have b4 := ofNat_inj (by omega) (by omega) h.2.2.2.1
    exact ⟨by omega, h.2.2.2.2⟩

/-- Only one-byte encodings hold bytes below 0x80. -/
theorem ascii_mem_encode {b : UInt8} (hc : c < 0x110000) (hb : b.toNat < 0x80) (h : b ∈ encode c) :
    c = b.toNat := by
  rcases encode_cases c with ⟨h1, e⟩ | ⟨h1, h2, e⟩ | ⟨h1, h2, e⟩ | ⟨h1, e⟩ <;>
    rw [e] at h <;>
    simp only [List.mem_cons, List.not_mem_nil, or_false] at h
  · subst h; rw [UInt8.toNat_ofNat']; omega
  · rcases h with rfl | rfl <;> rw [UInt8.toNat_ofNat'] at hb <;> omega
  · rcases h with rfl | rfl | rfl <;> rw [UInt8.toNat_ofNat'] at hb <;> omega
  · rcases h with rfl | rfl | rfl | rfl <;> rw [UInt8.toNat_ofNat'] at hb <;> omega

/-- A lead byte of 0xf0 or above marks the code points above U+FFFF. -/
theorem encode_bytes_lt (hc : c < 0x110000) : (∀ b ∈ encode c, b.toNat < 0xf0) ↔ c ≤ 0xffff := by
  rcases encode_cases c with ⟨h1, e⟩ | ⟨h1, h2, e⟩ | ⟨h1, h2, e⟩ | ⟨h1, e⟩ <;> rw [e] <;>
    simp only [List.forall_mem_cons, List.not_mem_nil, false_imp_iff, implies_true, and_true, UInt8.toNat_ofNat'] <;> omega

/-! ## Well-formed texts -/

theorem flatMap_encode_inj {cs ds : List Nat} (hcs : ∀ c ∈ cs, Scalar c) (hds : ∀ d ∈ ds, Scalar d)
    (h : cs.flatMap encode = ds.flatMap encode) : cs = ds := by
  induction cs generalizing ds with
  | nil =>
    cases ds with
    | nil => rfl
    | cons d ds =>
      rw [List.flatMap_cons, List.flatMap_nil] at h
      exact absurd (List.append_eq_nil_iff.mp h.symm).1 (encode_ne_nil d)
  | cons c cs ih =>
    cases ds with
    | nil =>
      rw [List.flatMap_cons, List.flatMap_nil] at h
      exact absurd (List.append_eq_nil_iff.mp h).1 (encode_ne_nil c)
    | cons d ds =>
      rw [List.flatMap_cons, List.flatMap_cons] at h
      obtain ⟨rfl, hrest⟩ := encode_cancel (scalar_lt (hcs c (by simp))) (scalar_lt (hds d (by simp))) h
      rw [ih (fun x hx => hcs x (by simp [hx])) (fun x hx => hds x (by simp [hx])) hrest]

theorem wellFormed_nil : WellFormed [] := ⟨[], by simp, rfl⟩

theorem wellFormed_encode (h : Scalar c) : WellFormed (encode c) :=
  ⟨[c], by simpa using h, by simp⟩

theorem WellFormed.append {t u : List UInt8} (ht : WellFormed t) (hu : WellFormed u) : WellFormed (t ++ u) := by
  obtain ⟨cs, hcs, rfl⟩ := ht
  obtain ⟨ds, hds, rfl⟩ := hu
  refine ⟨cs ++ ds, fun c hc => ?_, by simp⟩
  rcases List.mem_append.mp hc with hc | hc
  · exact hcs c hc
  · exact hds c hc

/-- A well-formed text is empty or starts with an encoding. -/
theorem WellFormed.cases {t : List UInt8} (h : WellFormed t) :
    t = [] ∨ ∃ c r, Scalar c ∧ t = encode c ++ r ∧ WellFormed r := by
  obtain ⟨cs, hcs, rfl⟩ := h
  cases cs with
  | nil => exact Or.inl rfl
  | cons c cs =>
    exact Or.inr ⟨c, cs.flatMap encode, hcs c (by simp), rfl, cs, fun d hd => hcs d (by simp [hd]), rfl⟩

theorem WellFormed.of_encode_append {r : List UInt8} (hc : Scalar c) (h : WellFormed (encode c ++ r)) :
    WellFormed r := by
  rcases h.cases with h | ⟨d, s, hd, he, hs⟩
  · exact absurd (List.append_eq_nil_iff.mp h).1 (encode_ne_nil c)
  · obtain ⟨-, rfl⟩ := encode_cancel (scalar_lt hc) (scalar_lt hd) he
    exact hs

theorem WellFormed.of_append {t u : List UInt8} (ht : WellFormed t) (h : WellFormed (t ++ u)) : WellFormed u := by
  obtain ⟨cs, hcs, rfl⟩ := ht
  induction cs with
  | nil => exact h
  | cons c cs ih =>
    rw [List.flatMap_cons, List.append_assoc] at h
    exact ih (fun d hd => hcs d (by simp [hd])) (h.of_encode_append (hcs c (by simp)))

theorem wellFormed_ascii {t : List UInt8} (h : ∀ b ∈ t, b.toNat < 0x80) : WellFormed t := by
  refine ⟨t.map UInt8.toNat, fun c hc => ?_, ?_⟩
  · obtain ⟨b, hb, rfl⟩ := List.mem_map.mp hc
    have := h b hb
    exact Or.inl (by omega)
  · induction t with
    | nil => rfl
    | cons b t ih =>
      rw [List.map_cons, List.flatMap_cons, encode_ascii (h b (by simp)), UInt8.ofNat_toNat, List.singleton_append,
        ← ih fun d hd => h d (by simp [hd])]

/-- A surrogate written by the table is no UTF-8. -/
theorem not_wellFormed_surrogate {r : List UInt8} (h : 0xd800 ≤ c ∧ c < 0xe000) :
    ¬ WellFormed (encode c ++ r) := by
  intro hw
  rcases hw.cases with hn | ⟨d, s, hd, he, -⟩
  · exact encode_ne_nil c (List.append_eq_nil_iff.mp hn).1
  · obtain ⟨rfl, -⟩ := encode_cancel (by omega) (scalar_lt hd) he
    rcases hd with hd | hd <;> omega

/-! ## Boundaries -/

/-- An offset between two encodings of a well-formed text. -/
structure Boundary (t : List UInt8) (i : Nat) : Prop where
  le : i ≤ t.length
  before : WellFormed (t.take i)
  after : WellFormed (t.drop i)

variable {t r : List UInt8} {i j m : Nat}

theorem Boundary.wellFormed (h : Boundary t i) : WellFormed t := by
  rw [← List.take_append_drop i t]
  exact h.before.append h.after

theorem boundary_zero (h : WellFormed t) : Boundary t 0 := ⟨Nat.zero_le _, wellFormed_nil, h⟩

theorem boundary_length (h : WellFormed t) : Boundary t t.length :=
  ⟨le_rfl, by rw [List.take_length]; exact h, by rw [List.drop_length]; exact wellFormed_nil⟩

theorem boundary_append {u : List UInt8} (ht : WellFormed t) (hu : WellFormed u) : Boundary (t ++ u) t.length :=
  ⟨by simp, by rw [List.take_left]; exact ht, by rw [List.drop_left]; exact hu⟩

/-- What lies between two boundaries is well formed. -/
theorem Boundary.between (hi : Boundary t i) (hj : Boundary t j) (hij : i ≤ j) : WellFormed ((t.drop i).take (j - i)) := by
  have hsplit : t.take j = t.take i ++ (t.drop i).take (j - i) := by
    rw [← List.take_add, Nat.add_sub_cancel' hij]
  exact hi.before.of_append (hsplit ▸ hj.before)

/-- The bytes from `i` to `j` are replaced. -/
theorem Boundary.splice (hi : Boundary t i) (hj : Boundary t j) (hm : Boundary r m) :
    Boundary (t.take i ++ r ++ t.drop j) (i + m) := by
  have hlen : (t.take i ++ r.take m).length = i + m := by
    rw [List.length_append, List.length_take_of_le hi.le, List.length_take_of_le hm.le]
  have hsplit : t.take i ++ r ++ t.drop j = (t.take i ++ r.take m) ++ (r.drop m ++ t.drop j) := by
    simp only [List.append_assoc]
    rw [← List.append_assoc (r.take m), List.take_append_drop]
  rw [hsplit, ← hlen]
  exact boundary_append (hi.before.append hm.before) (hm.after.append hj.after)

/-! ## Code points and bytes -/

/-- The boundaries are the byte lengths of the prefixes of the code points. -/
theorem boundary_flatMap {cs : List Nat} (hcs : ∀ c ∈ cs, Scalar c) {i : Nat} :
    Boundary (cs.flatMap encode) i ↔ ∃ front back, cs = front ++ back ∧ i = (front.flatMap encode).length := by
  constructor
  · intro h
    obtain ⟨front, hfront, heq⟩ := h.before
    obtain ⟨back, hback, heq'⟩ := h.after
    have hboth : cs.flatMap encode = (front ++ back).flatMap encode := by
      rw [List.flatMap_append, ← heq, ← heq', List.take_append_drop]
    refine ⟨front, back, flatMap_encode_inj hcs (fun c hc => ?_) hboth, ?_⟩
    · rcases List.mem_append.mp hc with hc | hc
      · exact hfront c hc
      · exact hback c hc
    · rw [← heq, List.length_take, Nat.min_eq_left h.le]
  · rintro ⟨front, back, rfl, rfl⟩
    rw [List.flatMap_append]
    exact boundary_append ⟨front, fun c hc => hcs c (by simp [hc]), rfl⟩ ⟨back, fun c hc => hcs c (by simp [hc]), rfl⟩

/-- `10xxxxxx`: a byte that starts no encoding. -/
def IsContinuation (b : UInt8) : Prop := b.toNat / 64 = 2

instance (b : UInt8) : Decidable (IsContinuation b) := inferInstanceAs (Decidable (_ = _))

theorem isContinuation_ofNat (h : n < 256) : IsContinuation (UInt8.ofNat n) ↔ n / 64 = 2 := by
  unfold IsContinuation
  rw [UInt8.toNat_ofNat', Nat.mod_eq_of_lt (by omega)]

/-- The first byte of an encoding is no continuation byte, and the others are. -/
theorem continuation_encode (hc : c < 0x110000) {j : Nat} (hj : j < (encode c).length) :
    IsContinuation (encode c)[j] ↔ j ≠ 0 := by
  rcases encode_cases c with ⟨h1, e⟩ | ⟨h1, h2, e⟩ | ⟨h1, h2, e⟩ | ⟨h1, e⟩
  · simp only [e, List.length_cons, List.length_nil] at hj
    obtain rfl : j = 0 := by omega
    simp only [e, List.getElem_cons_zero, isContinuation_ofNat (by omega : c < 256)]
    omega
  · simp only [e, List.length_cons, List.length_nil] at hj
    match j, hj with
    | 0, _ => simp only [e, List.getElem_cons_zero, isContinuation_ofNat (by omega : 0xc0 + c / 64 < 256)]; omega
    | 1, _ =>
      simp only [e, List.getElem_cons_succ, List.getElem_cons_zero, isContinuation_ofNat (by omega : 0x80 + c % 64 < 256)]
      omega
  · simp only [e, List.length_cons, List.length_nil] at hj
    match j, hj with
    | 0, _ => simp only [e, List.getElem_cons_zero, isContinuation_ofNat (by omega : 0xe0 + c / 4096 < 256)]; omega
    | 1, _ =>
      simp only [e, List.getElem_cons_succ, List.getElem_cons_zero, isContinuation_ofNat (by omega : 0x80 + c / 64 % 64 < 256)]
      omega
    | 2, _ =>
      simp only [e, List.getElem_cons_succ, List.getElem_cons_zero, isContinuation_ofNat (by omega : 0x80 + c % 64 < 256)]
      omega
  · simp only [e, List.length_cons, List.length_nil] at hj
    match j, hj with
    | 0, _ => simp only [e, List.getElem_cons_zero, isContinuation_ofNat (by omega : 0xf0 + c / 262144 < 256)]; omega
    | 1, _ =>
      simp only [e, List.getElem_cons_succ, List.getElem_cons_zero, isContinuation_ofNat (by omega : 0x80 + c / 4096 % 64 < 256)]
      omega
    | 2, _ =>
      simp only [e, List.getElem_cons_succ, List.getElem_cons_zero, isContinuation_ofNat (by omega : 0x80 + c / 64 % 64 < 256)]
      omega
    | 3, _ =>
      simp only [e, List.getElem_cons_succ, List.getElem_cons_zero, isContinuation_ofNat (by omega : 0x80 + c % 64 < 256)]
      omega

/-- Inside the first encoding only its start is a boundary; behind it the boundaries are those of the rest. -/
theorem boundary_encode_append (hc : Scalar c) {cs : List Nat} (hcs : ∀ d ∈ cs, Scalar d) (i : Nat) :
    Boundary (encode c ++ cs.flatMap encode) i ↔
      i = 0 ∨ (encode c).length ≤ i ∧ Boundary (cs.flatMap encode) (i - (encode c).length) := by
  have hall : ∀ d ∈ c :: cs, Scalar d := by
    intro d hd
    rcases List.mem_cons.mp hd with rfl | hd
    · exact hc
    · exact hcs d hd
  rw [← List.flatMap_cons, boundary_flatMap hall, boundary_flatMap hcs]
  constructor
  · rintro ⟨front, back, hsplit, rfl⟩
    cases front with
    | nil => exact Or.inl rfl
    | cons d front =>
      obtain ⟨rfl, rfl⟩ := List.cons.inj hsplit
      rw [List.flatMap_cons, List.length_append]
      exact Or.inr ⟨Nat.le_add_right _ _, front, back, rfl, by omega⟩
  · rintro (rfl | ⟨hle, front, back, rfl, hi⟩)
    · exact ⟨[], c :: cs, rfl, rfl⟩
    · refine ⟨c :: front, back, rfl, ?_⟩
      rw [List.flatMap_cons, List.length_append]
      omega

/-- The boundaries before the end are the offsets without a continuation byte. -/
theorem boundary_iff_lead {t : List UInt8} (h : WellFormed t) {i : Nat} (hi : i < t.length) :
    Boundary t i ↔ ¬ IsContinuation t[i] := by
  obtain ⟨cs, hcs, rfl⟩ := h
  induction cs generalizing i with
  | nil => cases hi
  | cons c cs ih =>
    have hc := hcs c (List.mem_cons_self ..)
    have hrest : ∀ d ∈ cs, Scalar d := fun d hd => hcs d (List.mem_cons_of_mem c hd)
    simp only [List.flatMap_cons] at hi ⊢
    rw [boundary_encode_append hc hrest]
    by_cases hin : i < (encode c).length
    · rw [List.getElem_append_left hin, continuation_encode (scalar_lt hc) hin]
      omega
    · rw [List.getElem_append_right (by omega), ← ih hrest]
      have hpos : 0 < (encode c).length := List.length_pos_of_ne_nil (encode_ne_nil c)
      constructor
      · rintro (rfl | ⟨-, hb⟩)
        · omega
        · exact hb
      · exact fun hb => Or.inr ⟨by omega, hb⟩

end Mocktail.Lib.Utf8

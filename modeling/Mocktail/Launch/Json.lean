/-
  Mocktail.Launch.Json — JSON documents as the launch parsers use them (nlohmann::json).

  The library is a parameter: `parse` is `json::parse` without exceptions, where `none` is a
  discarded document, and `dump` is `dump()`, where `none` is the exception a string that is
  no UTF-8 raises. What the parsers rely on is stated as properties of it:
  - `AcceptsUtf8`: only well-formed UTF-8 is accepted.
  - `RoundTrips`: only UTF-8 strings are written, and a flat object of non-negative integers
    and UTF-8 strings is read back with the same members; a non-negative integer comes back
    as an unsigned one.

  An object is its members in the order of `std::map`, so by key, with no key twice
  (`Ordered`); `insertMember` is `document[name] = value`.
-/

import Mathlib.Data.List.Pairwise
import Mocktail.Base.Status
import Mocktail.Lib.Utf8

namespace Mocktail.Launch

open Mocktail.Lib

/-- A `std::string`: its bytes. -/
abbrev Text := List UInt8

/-- The bytes of an ASCII literal. -/
def ascii (s : String) : Text := s.toList.map fun c => UInt8.ofNat c.toNat

/-! ## Decimal texts -/

theorem ascii_toString (n : Nat) : ascii (toString n) = (Nat.toDigits 10 n).map fun c => UInt8.ofNat c.toNat := by
  rw [ascii, Nat.toString_eq_repr, Nat.toList_repr]

theorem toNat_digitByte {n : Nat} {c : Char} (h : c ∈ Nat.toDigits 10 n) :
    (UInt8.ofNat c.toNat).toNat = c.toNat ∧ 0x30 ≤ c.toNat ∧ c.toNat ≤ 0x39 := by
  have hdigit := Nat.isDigit_of_mem_toDigits (by omega) (by omega) h
  simp only [Char.isDigit, Bool.and_eq_true, decide_eq_true_eq, ge_iff_le, UInt32.le_iff_toNat_le] at hdigit
  have hlow : 0x30 ≤ c.toNat := hdigit.1
  have hhigh : c.toNat ≤ 0x39 := hdigit.2
  rw [UInt8.toNat_ofNat']
  omega

theorem ascii_toString_digit (n : Nat) : ∀ c ∈ ascii (toString n), 0x30 ≤ c.toNat ∧ c.toNat ≤ 0x39 := by
  intro c hc
  rw [ascii_toString] at hc
  obtain ⟨d, hd, rfl⟩ := List.mem_map.mp hc
  rw [(toNat_digitByte hd).1]
  exact (toNat_digitByte hd).2

theorem ascii_toString_ne_nil (n : Nat) : ascii (toString n) ≠ [] := by
  have hpos : 0 < (ascii (toString n)).length := by
    rw [ascii_toString, List.length_map]
    exact Nat.length_toDigits_pos
  exact List.ne_nil_of_length_pos hpos

theorem foldl_ascii_toString (n : Nat) :
    (ascii (toString n)).foldl (fun value b => value * 10 + (b.toNat - 0x30)) 0 = n := by
  have hfold : ∀ (digits : List Char), (∀ c ∈ digits, (UInt8.ofNat c.toNat).toNat = c.toNat) → ∀ start,
      (digits.map fun c => UInt8.ofNat c.toNat).foldl (fun value b => value * 10 + (b.toNat - 0x30)) start =
        Nat.ofDigitChars 10 digits start := by
    intro digits
    induction digits with
    | nil => exact fun _ _ => Nat.ofDigitChars_nil.symm
    | cons c rest ih =>
      intro h start
      rw [List.map_cons, List.foldl_cons, ih (fun d hd => h d (List.mem_cons_of_mem c hd)), Nat.ofDigitChars_cons,
        h c List.mem_cons_self, Nat.mul_comm]
      rfl
  rw [ascii_toString, hfold _ fun c hc => (toNat_digitByte hc).1]
  exact Nat.ofDigitChars_ten_toDigits

theorem length_ascii_toString {n k : Nat} (hk : 0 < k) (h : n < 10 ^ k) : (ascii (toString n)).length ≤ k := by
  rw [ascii_toString, List.length_map]
  exact (Nat.length_toDigits_le_iff (by omega) hk).mpr h

/-! ## Documents -/

inductive Json where
  | null
  | bool (value : Bool)
  /-- `number_unsigned`, at most 2^64 - 1. -/
  | unsigned (value : Nat)
  /-- `number_integer`, an `int64_t`. -/
  | integer (value : Int)
  | float (bits : UInt64)
  | string (value : Text)
  | array (items : List Json)
  | object (members : List (Text × Json))

/-- Why a parser returned no result: its status, or an exception that left it. -/
inductive Failure where
  | status (s : Status)
  | exception
  deriving DecidableEq, Repr

abbrev Result (α : Type) := Except Failure α

def invalid {α : Type} (message : String) : Result α := .error (.status (Status.invalidArgument message))

/-- One step of a parser: both halves of an accepted run. -/
theorem bind_ok {ε α β : Type} {x : Except ε α} {f : α → Except ε β} {b : β} (h : (x >>= f) = .ok b) :
    ∃ a, x = .ok a ∧ f a = .ok b := by
  cases x with
  | error e => cases h
  | ok a => exact ⟨a, rfl, h⟩

theorem bind_of_ok {ε α β : Type} {x : Except ε α} {a : α} (f : α → Except ε β) (h : x = .ok a) : (x >>= f) = f a := by
  rw [h]
  rfl

theorem bind_eq_ok {ε α β : Type} {x : Except ε α} {f : α → Except ε β} {b : β} :
    (x >>= f) = .ok b ↔ ∃ a, x = .ok a ∧ f a = .ok b := by
  refine ⟨bind_ok, fun h => ?_⟩
  obtain ⟨a, ha, h⟩ := h
  rw [bind_of_ok f ha, h]

@[simp] theorem invalid_ne_ok {α : Type} (message : String) (a : α) : invalid message ≠ (.ok a : Result α) := by
  simp [invalid]

/-! ## Objects -/

/-- `std::string`'s `<`: the first bytes that differ decide. -/
def textBefore : Text → Text → Bool
  | _, [] => false
  | [], _ :: _ => true
  | a :: s, b :: t => decide (a.toNat < b.toNat) || (a == b && textBefore s t)

theorem textBefore_trans {r s t : Text} (h1 : textBefore r s = true) (h2 : textBefore s t = true) :
    textBefore r t = true := by
  induction r generalizing s t with
  | nil =>
    cases t with
    | nil => cases s <;> simp [textBefore] at h2
    | cons c t => rfl
  | cons a r ih =>
    cases s with
    | nil => simp [textBefore] at h1
    | cons b s =>
      cases t with
      | nil => simp [textBefore] at h2
      | cons c t =>
        simp only [textBefore, Bool.or_eq_true, decide_eq_true_eq, Bool.and_eq_true, beq_iff_eq] at h1 h2 ⊢
        rcases h1 with h1 | ⟨rfl, h1⟩
        · rcases h2 with h2 | ⟨rfl, -⟩
          · exact Or.inl (by omega)
          · exact Or.inl h1
        · rcases h2 with h2 | ⟨rfl, h2⟩
          · exact Or.inl h2
          · exact Or.inr ⟨rfl, ih h1 h2⟩

theorem textBefore_total {s t : Text} (h1 : s ≠ t) (h2 : textBefore s t = false) : textBefore t s = true := by
  induction s generalizing t with
  | nil =>
    cases t with
    | nil => exact absurd rfl h1
    | cons b t => simp [textBefore] at h2
  | cons a s ih =>
    cases t with
    | nil => rfl
    | cons b t =>
      simp only [textBefore, Bool.or_eq_false_iff, decide_eq_false_iff_not, Bool.and_eq_false_iff] at h2
      simp only [textBefore, Bool.or_eq_true, decide_eq_true_eq, Bool.and_eq_true, beq_iff_eq]
      by_cases hab : a = b
      · subst hab
        have h2 : textBefore s t = false := by simpa using h2.2
        exact Or.inr ⟨rfl, ih (fun he => h1 (by rw [he])) h2⟩
      · have hne : a.toNat ≠ b.toNat := fun he => hab (UInt8.toNat_inj.mp he)
        exact Or.inl (by omega)

def findMember (members : List (Text × Json)) (name : Text) : Option Json :=
  (members.find? (·.1 == name)).map (·.2)

/-- `document[name] = value`. -/
def insertMember (name : Text) (value : Json) : List (Text × Json) → List (Text × Json)
  | [] => [(name, value)]
  | (key, old) :: rest =>
    if name = key then (key, value) :: rest
    else if textBefore name key then (name, value) :: (key, old) :: rest
    else (key, old) :: insertMember name value rest

def Ordered (members : List (Text × Json)) : Prop := members.Pairwise fun a b => textBefore a.1 b.1 = true

@[simp] theorem findMember_nil (key : Text) : findMember [] key = none := rfl

theorem findMember_cons (name : Text) (value : Json) (rest : List (Text × Json)) (key : Text) :
    findMember ((name, value) :: rest) key = if key = name then some value else findMember rest key := by
  by_cases h : key = name
  · subst h; simp [findMember]
  · simp [findMember, h, Ne.symm h]

theorem findMember_insertMember (name : Text) (value : Json) (members : List (Text × Json)) (key : Text) :
    findMember (insertMember name value members) key = if key = name then some value else findMember members key := by
  induction members with
  | nil => rw [insertMember, findMember_cons]
  | cons m rest ih =>
    obtain ⟨k, old⟩ := m
    rw [insertMember, findMember_cons]
    by_cases hk : name = k
    · subst hk
      rw [if_pos rfl, findMember_cons]
      by_cases h : key = name
      · rw [if_pos h, if_pos h]
      · rw [if_neg h, if_neg h, if_neg h]
    · rw [if_neg hk]
      by_cases hl : textBefore name k = true
      · rw [if_pos hl, findMember_cons, findMember_cons]
      · rw [if_neg hl, findMember_cons, ih]
        by_cases h : key = k
        · subst h
          rw [if_pos rfl, if_neg (Ne.symm hk), if_pos rfl]
        · rw [if_neg h, if_neg h]

variable {members : List (Text × Json)}

theorem mem_insertMember {name : Text} {value : Json} {m : Text × Json}
    (h : m ∈ insertMember name value members) : m = (name, value) ∨ m ∈ members := by
  induction members with
  | nil => exact Or.inl (by simpa [insertMember] using h)
  | cons a rest ih =>
    obtain ⟨k, old⟩ := a
    rw [insertMember] at h
    split at h
    · rename_i hk
      subst hk
      rcases List.mem_cons.mp h with h | h
      · exact Or.inl h
      · exact Or.inr (List.mem_cons_of_mem _ h)
    · split at h
      · exact List.mem_cons.mp h
      · rcases List.mem_cons.mp h with h | h
        · exact Or.inr (by simp [h])
        · rcases ih h with h | h
          · exact Or.inl h
          · exact Or.inr (List.mem_cons_of_mem _ h)

theorem ordered_insertMember {name : Text} {value : Json} (h : Ordered members) :
    Ordered (insertMember name value members) := by
  induction members with
  | nil => exact List.pairwise_singleton _ _
  | cons a rest ih =>
    obtain ⟨k, old⟩ := a
    obtain ⟨ha, hr⟩ := List.pairwise_cons.mp h
    rw [insertMember]
    by_cases hk : name = k
    · rw [if_pos hk]
      exact List.pairwise_cons.mpr ⟨ha, hr⟩
    · rw [if_neg hk]
      by_cases hl : textBefore name k = true
      · rw [if_pos hl]
        refine List.pairwise_cons.mpr ⟨fun m hm => ?_, h⟩
        rcases List.mem_cons.mp hm with rfl | hm
        · exact hl
        · exact textBefore_trans hl (ha m hm)
      · rw [if_neg hl]
        refine List.pairwise_cons.mpr ⟨fun m hm => ?_, ih hr⟩
        rcases mem_insertMember hm with rfl | hm
        · exact textBefore_total hk (by simpa using hl)
        · exact ha m hm

/-! ## The library -/

structure JsonLibrary where
  parse : Text → Option Json
  dump : Json → Option Text

/-- A value `MakeRequest` puts in its document. -/
def Plain : Json → Prop
  | .integer value => 0 ≤ value ∧ value < 2 ^ 63
  | .string value => Utf8.WellFormed value
  | _ => False

/-- The parser reads a non-negative integer as an unsigned one. -/
def reread : Json → Json
  | .integer value => .unsigned value.toNat
  | value => value

structure JsonLibrary.RoundTrips (lib : JsonLibrary) : Prop where
  dump_utf8 : ∀ members text, lib.dump (.object members) = some text → ∀ key value, (key, Json.string value) ∈ members →
    Utf8.WellFormed value
  parse_dump : ∀ members text, Ordered members → (∀ m ∈ members, Plain m.2) → lib.dump (.object members) = some text →
    lib.parse text = some (.object (members.map fun m => (m.1, reread m.2)))

def JsonLibrary.AcceptsUtf8 (lib : JsonLibrary) : Prop := ∀ text document, lib.parse text = some document → Utf8.WellFormed text

/-! ## A library of one document -/

def sameValue : Json → Json → Bool
  | .unsigned a, .unsigned b => a == b
  | .integer a, .integer b => a == b
  | .string a, .string b => a == b
  | _, _ => false

def sameMembers : List (Text × Json) → List (Text × Json) → Bool
  | [], [] => true
  | a :: as, b :: bs => a.1 == b.1 && sameValue a.2 b.2 && sameMembers as bs
  | _, _ => false

theorem eq_of_sameValue {a b : Json} (h : sameValue a b = true) : a = b := by
  cases a <;> cases b <;> simp_all [sameValue]

theorem eq_of_sameMembers {as bs : List (Text × Json)} (h : sameMembers as bs = true) : as = bs := by
  induction as generalizing bs with
  | nil =>
    cases bs with
    | nil => rfl
    | cons b bs => cases h
  | cons a as ih =>
    cases bs with
    | nil => cases h
    | cons b bs =>
      simp only [sameMembers, Bool.and_eq_true, beq_iff_eq] at h
      rw [ih h.2, Prod.ext h.1.1 (eq_of_sameValue h.1.2)]

/-- A library that writes one document of integers and strings, reads it back, and reads some others. -/
def oneFlatDocument (text : Text) (members : List (Text × Json)) (others : Text → Option Json) : JsonLibrary where
  parse json := if json = text then some (.object (members.map fun m => (m.1, reread m.2))) else others json
  dump
    | .object ms =>
      if sameMembers ms members || sameMembers ms (members.map fun m => (m.1, reread m.2)) then some text else none
    | _ => none

theorem reread_reread (value : Json) : reread (reread value) = reread value := by cases value <;> rfl

theorem oneFlatDocument_roundTrips (text : Text) (others : Text → Option Json)
    (h : ∀ m ∈ members, Plain m.2) : (oneFlatDocument text members others).RoundTrips := by
  have hdump : ∀ ms json, (oneFlatDocument text members others).dump (.object ms) = some json →
      json = text ∧ (ms = members ∨ ms = members.map fun m => (m.1, reread m.2)) := by
    intro ms json hd
    simp only [oneFlatDocument] at hd
    split at hd
    · rename_i hs
      rw [Bool.or_eq_true] at hs
      exact ⟨(Option.some.inj hd).symm, hs.imp eq_of_sameMembers eq_of_sameMembers⟩
    · cases hd
  constructor
  · intro ms json hd key value hm
    rcases (hdump ms json hd).2 with rfl | rfl
    · exact h _ hm
    · obtain ⟨⟨k, v⟩, hmem, he⟩ := List.mem_map.mp hm
      cases v <;> cases he
      exact h _ hmem
  · intro ms json _ _ hd
    obtain ⟨rfl, hms⟩ := hdump ms json hd
    have hread : (oneFlatDocument json members others).parse json =
        some (.object (members.map fun m => (m.1, reread m.2))) := if_pos rfl
    rw [hread]
    rcases hms with rfl | rfl
    · rfl
    · simp only [List.map_map, Function.comp_def, reread_reread]

end Mocktail.Launch

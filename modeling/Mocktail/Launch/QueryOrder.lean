/-
  Mocktail.Launch.QueryOrder — the parameters of a launch query commute.

  A parameter is read into a key and a value before any field is touched (`readPair`), and
  the assignments of two keys commute (`assign_swap`): they are for different fields, or the
  second one is refused whichever it is. So the order of the parameters decides at most which
  error is reported (`parameters_commute`).

  A key counts up to the case of its letters (`CaseChange`), however each letter is spelled:
  as itself or as an escape. A longer spelling may exceed the size that `PercentDecode`
  takes, but not for a key that `AssignField` would.
-/

import Mocktail.Launch.PlayerUris

namespace Mocktail.Launch

open Mocktail.Lib

/-! ## One parameter -/

/-- What `ParseQuery` reads of a parameter before it assigns it. -/
def readPair (pair : Text) : Result (Text × Text) :=
  if pair = [] then invalid "Roblox launch URI contains an empty parameter"
  else
    match cut 0x3d pair with
    | none => invalid "Roblox launch URI parameter has no value"
    | some (key, value) =>
      if key = [] then invalid "Roblox launch URI parameter has no value"
      else do
        let key ← percentDecode key true
        let value ← percentDecode value true
        .ok (key, value)

theorem parsePair_eq (m : Bool) (pair : Text) (fields : LaunchFields) :
    parsePair m pair fields = readPair pair >>= fun p => assignField p.1 p.2 m fields := by
  unfold parsePair readPair
  by_cases hempty : pair = []
  · rw [if_pos hempty, if_pos hempty]
    rfl
  rw [if_neg hempty, if_neg hempty]
  cases cut 0x3d pair with
  | none => rfl
  | some p =>
    obtain ⟨key, value⟩ := p
    simp only
    by_cases hkey : key = []
    · rw [if_pos hkey, if_pos hkey]
      rfl
    rw [if_neg hkey, if_neg hkey]
    cases percentDecode key true with
    | error e => rfl
    | ok k =>
      cases percentDecode value true with
      | error e => rfl
      | ok v => rfl

theorem parsePair_toOption (m : Bool) (pair : Text) (fields : LaunchFields) :
    (parsePair m pair fields).toOption = (readPair pair).toOption.bind fun p => (assignField p.1 p.2 m fields).toOption := by
  rw [parsePair_eq, toOption_bind]

theorem parsePair_swap (m : Bool) (a b : Text) (fields : LaunchFields) :
    ((parsePair m a fields).toOption.bind fun next => (parsePair m b next).toOption) =
      (parsePair m b fields).toOption.bind fun next => (parsePair m a next).toOption := by
  simp only [parsePair_toOption]
  cases (readPair a).toOption with
  | none => cases (readPair b).toOption <;> simp
  | some p =>
    cases (readPair b).toOption with
    | none => simp
    | some r =>
      have hswap := assign_swap m p r fields
      rw [toOption_bind, toOption_bind] at hswap
      exact hswap

/-! ## All parameters -/

/-- The parameters one after the other; which error ended them is not kept. -/
def assignTexts (m : Bool) : List Text → LaunchFields → Option LaunchFields
  | [], fields => some fields
  | pair :: rest, fields => (parsePair m pair fields).toOption.bind (assignTexts m rest)

variable {m : Bool} {pairs pairs' : List Text}

theorem parsePairs_toOption {count : Nat} (fields : LaunchFields)
    (hcount : count ≤ kMaximumParameterCount) :
    (parsePairs m count pairs fields).toOption =
      if kMaximumParameterCount < count + pairs.length then none else assignTexts m pairs fields := by
  induction pairs generalizing count fields with
  | nil =>
    rw [List.length_nil, if_neg (by omega)]
    rfl
  | cons pair rest ih =>
    rw [List.length_cons, parsePairs]
    by_cases hfull : kMaximumParameterCount < count + 1
    · rw [if_pos hfull, if_pos (by omega)]
      rfl
    rw [if_neg hfull, toOption_bind, assignTexts]
    have hsum : count + 1 + rest.length = count + (rest.length + 1) := by omega
    cases (parsePair m pair fields).toOption with
    | none => simp
    | some next => rw [Option.bind_some, Option.bind_some, ih next (by omega), hsum]

theorem assignTexts_perm (h : pairs.Perm pairs') (fields : LaunchFields) :
    assignTexts m pairs fields = assignTexts m pairs' fields := by
  induction h generalizing fields with
  | nil => rfl
  | cons pair _ ih => exact congrArg _ (funext fun next => ih next)
  | swap a b rest =>
    have hswap := congrArg (fun o => o.bind (assignTexts m rest)) (parsePair_swap m a b fields)
    simp only [Option.bind_assoc] at hswap
    exact hswap.symm
  | trans _ _ ih1 ih2 => exact (ih1 fields).trans (ih2 fields)

theorem assignTexts_same {R : Text → Text → Prop}
    (hR : ∀ p p', R p p' → ∀ fields, (parsePair m p fields).toOption = (parsePair m p' fields).toOption)
    (h : List.Forall₂ R pairs pairs') (fields : LaunchFields) :
    assignTexts m pairs fields = assignTexts m pairs' fields := by
  induction h generalizing fields with
  | nil => rfl
  | cons hp _ ih =>
    rw [assignTexts, assignTexts, hR _ _ hp fields]
    exact congrArg _ (funext fun next => ih next)

/-! ## The case of keys -/

def isLetter (b : UInt8) : Bool := decide (0x41 ≤ b.toNat ∧ b.toNat ≤ 0x5a) || decide (0x61 ≤ b.toNat ∧ b.toNat ≤ 0x7a)

/-- A byte as itself or as an escape. -/
inductive Spells : Text → UInt8 → Prop where
  | plain (x : UInt8) : Spells [x] x
  | escape {high low : UInt8} {h l : Nat} (hhigh : hexDigitValue high = some h) (hlow : hexDigitValue low = some l) :
      Spells [0x25, high, low] (UInt8.ofNat (h * 16 + l))

/-- The raw keys of two parameters differ in the case of letters of the decoded key. -/
inductive CaseChange : Text → Text → Prop where
  | same (rest : Text) : CaseChange rest rest
  | byte {b : UInt8} {rest rest' : Text} (plain : b ≠ 0x25) (tail : CaseChange rest rest') :
      CaseChange (b :: rest) (b :: rest')
  | escape (high low : UInt8) {rest rest' : Text} (tail : CaseChange rest rest') :
      CaseChange (0x25 :: high :: low :: rest) (0x25 :: high :: low :: rest')
  | letter {x y : UInt8} {t t' rest rest' : Text} (hx : isLetter x = true) (hy : isLetter y = true)
      (hcase : lowerByte x = lowerByte y) (hspell : Spells t x) (hspell' : Spells t' y) (tail : CaseChange rest rest') :
      CaseChange (t ++ rest) (t' ++ rest')

variable {b : UInt8}

theorem isLetter_plain (h : isLetter b = true) :
    isControlByte b = false ∧ b ≠ 0x25 ∧ b ≠ 0x2b := by
  simp only [isLetter, Bool.or_eq_true, decide_eq_true_eq] at h
  refine ⟨?_, ?_, ?_⟩
  · have hdelete : b ≠ 0x7f := by
      rintro rfl
      revert h
      decide
    simp [isControlByte, hdelete]
    omega
  · rintro rfl
    revert h
    decide
  · rintro rfl
    revert h
    decide

/-- The decoded text up to case, before its size and encoding are checked. -/
def decodedLower (raw : Text) : Option Text := (percentDecodeLoop true raw).toOption.map asciiLower

theorem pushDecoded_lower (b : UInt8) (rest : Result Text) :
    (pushDecoded b rest).toOption.map asciiLower =
      if isControlByte b = true then none else (rest.toOption.map asciiLower).map (lowerByte b :: ·) := by
  unfold pushDecoded
  by_cases hb : isControlByte b = true
  · rw [if_pos hb, if_pos hb]
    rfl
  · rw [if_neg hb, if_neg hb]
    cases rest <;> rfl

theorem decodedLower_byte (rest : Text) (h : b ≠ 0x25) :
    decodedLower (b :: rest) =
      if isControlByte (if b = 0x2b then 0x20 else b) = true then none
      else (decodedLower rest).map (lowerByte (if b = 0x2b then 0x20 else b) :: ·) := by
  unfold decodedLower
  rw [percentDecodeLoop.eq_def]
  simp only
  rw [if_neg h, pushDecoded_lower]
  simp only [and_true]

theorem decodedLower_escape (high low : UInt8) (rest : Text) :
    decodedLower (0x25 :: high :: low :: rest) =
      match hexDigitValue high, hexDigitValue low with
      | some h, some l =>
        if isControlByte (UInt8.ofNat (h * 16 + l)) = true then none
        else (decodedLower rest).map (lowerByte (UInt8.ofNat (h * 16 + l)) :: ·)
      | _, _ => none := by
  unfold decodedLower
  rw [percentDecodeLoop]
  simp only [if_true]
  cases hexDigitValue high with
  | none => rfl
  | some h =>
    cases hexDigitValue low with
    | none => rfl
    | some l => exact pushDecoded_lower _ _

variable {t : Text}

theorem decodedLower_letter {x : UInt8} (rest : Text) (hx : isLetter x = true) (h : Spells t x) :
    decodedLower (t ++ rest) = (decodedLower rest).map (lowerByte x :: ·) := by
  obtain ⟨hcontrol, hpercent, hplus⟩ := isLetter_plain hx
  cases h with
  | plain =>
    rw [List.singleton_append, decodedLower_byte rest hpercent, if_neg hplus, hcontrol, if_neg Bool.false_ne_true]
  | escape hhigh hlow =>
    simp only [List.cons_append, List.nil_append]
    rw [decodedLower_escape, hhigh, hlow]
    simp only
    rw [hcontrol, if_neg Bool.false_ne_true]

variable {raw raw' : Text}

theorem CaseChange.decodedLower_eq (h : CaseChange raw raw') : decodedLower raw = decodedLower raw' := by
  induction h with
  | same rest => rfl
  | byte plain tail ih => rw [decodedLower_byte _ plain, decodedLower_byte _ plain, ih]
  | escape high low tail ih => rw [decodedLower_escape, decodedLower_escape, ih]
  | letter hx hy hcase hspell hspell' tail ih =>
    rw [decodedLower_letter _ hx hspell, decodedLower_letter _ hy hspell', ih, hcase]

theorem length_le_decoded {plus : Bool} {raw decoded : Text} (h : percentDecodeLoop plus raw = .ok decoded) :
    raw.length ≤ 3 * decoded.length := by
  have hpush : ∀ {b : UInt8} {rest : Result Text} {out : Text}, pushDecoded b rest = .ok out →
      ∃ tail, rest = .ok tail ∧ out = b :: tail := by
    intro b rest out hout
    unfold pushDecoded at hout
    split at hout
    · cases hout
    · cases rest with
      | error e => cases hout
      | ok tail =>
        cases hout
        exact ⟨tail, rfl, rfl⟩
  fun_induction percentDecodeLoop plus raw generalizing decoded with
  | case1 => simp
  | case2 high low rest h' l hhigh hlow ih | case5 b rest hb ih =>
    obtain ⟨tail, htail, rfl⟩ := hpush h
    have := ih htail
    simp only [List.length_cons]
    omega
  | case3 => cases h
  | case4 => cases h

/-! ### Keys count up to case -/

theorem lowerByte_high (h : ¬ b.toNat ≤ 0x7f) : lowerByte b = b := if_neg (by omega)

theorem lowerByte_low (h : b.toNat ≤ 0x7f) : (lowerByte b).toNat ≤ 0x7f := by
  unfold lowerByte
  split
  · rw [toNat_byte (by omega)]
    omega
  · exact h

theorem lowerByte_continuation (b : UInt8) :
    ((lowerByte b).toNat / 64 = 2 ↔ b.toNat / 64 = 2) ∧ (b.toNat / 64 = 2 → lowerByte b = b) := by
  by_cases h : b.toNat ≤ 0x7f
  · have := lowerByte_low h
    exact ⟨by omega, by omega⟩
  · rw [lowerByte_high h]
    exact ⟨Iff.rfl, fun _ => rfl⟩

theorem continueCodePoint_lower (bits : Nat) (t : Text) : continueCodePoint bits (asciiLower t) = continueCodePoint bits t := by
  induction t generalizing bits with
  | nil => rfl
  | cons b rest ih =>
    obtain ⟨hiff, hsame⟩ := lowerByte_continuation b
    show continueCodePoint bits (lowerByte b :: asciiLower rest) = _
    rw [continueCodePoint, continueCodePoint]
    by_cases hb : b.toNat / 64 = 2
    · rw [hsame hb, ih]
    · rw [if_pos hb, if_pos (fun h => hb (hiff.mp h))]

theorem isValidUtf8Loop_lower (fuel : Nat) (value : Text) :
    isValidUtf8Loop fuel (asciiLower value) = isValidUtf8Loop fuel value := by
  induction fuel generalizing value with
  | zero => cases value <;> rfl
  | succ fuel ih =>
    cases value with
    | nil => rfl
    | cons first rest =>
      show isValidUtf8Loop (fuel + 1) (lowerByte first :: asciiLower rest) = _
      rw [isValidUtf8Loop, isValidUtf8Loop]
      by_cases hlow : first.toNat ≤ 0x7f
      · rw [if_pos hlow, if_pos (lowerByte_low hlow), ih]
      · rw [lowerByte_high hlow, if_neg hlow, if_neg hlow]
        have htake : ∀ n, (asciiLower rest).take n = asciiLower (rest.take n) := fun n => by simp [asciiLower]
        have hdrop : ∀ n, (asciiLower rest).drop n = asciiLower (rest.drop n) := fun n => by simp [asciiLower]
        have hlen : (asciiLower rest).length = rest.length := List.length_map _
        simp only [hlen, htake, hdrop, continueCodePoint_lower, ih]

variable {pair pair' query query' value : Text}

theorem isValidUtf8_lower {value' : Text} (h : asciiLower value = asciiLower value') :
    isValidUtf8 value = isValidUtf8 value' := by
  have hlen : value.length = value'.length := by simpa [asciiLower] using congrArg List.length h
  rw [isValidUtf8, isValidUtf8, ← isValidUtf8Loop_lower, h, isValidUtf8Loop_lower, hlen]

theorem assignField_lower {key key' : Text} (h : asciiLower key = asciiLower key') (value : Text) (m : Bool)
    (fields : LaunchFields) : assignField key value m fields = assignField key' value m fields := by
  have hlen : key.length = key'.length := by simpa [asciiLower] using congrArg List.length h
  have hnil : key = [] ↔ key' = [] := by rw [← List.length_eq_zero_iff, hlen, List.length_eq_zero_iff]
  unfold assignField launchFieldOf
  simp only [h, hlen, hnil]

/-- What reads a key up to case, and no key above the limit, reads both spellings alike. -/
theorem CaseChange.decode_bind (h : CaseChange raw raw') {β : Type} {f : Text → Option β}
    (hlower : ∀ key key', asciiLower key = asciiLower key' → f key = f key')
    (hlong : ∀ key, kMaximumParameterKeyBytes < key.length → f key = none) :
    (percentDecode raw true).toOption.bind f = (percentDecode raw' true).toOption.bind f := by
  -- a key within the limit is short enough to be decoded, and its encoding is checked up to case
  have hread : ∀ raw : Text, (percentDecode raw true).toOption.bind f =
      (percentDecodeLoop true raw).toOption.bind fun key => if isValidUtf8 key = true then f key else none := by
    intro raw
    unfold percentDecode
    cases hloop : percentDecodeLoop true raw with
    | error e => split <;> rfl
    | ok key =>
      have hsize := length_le_decoded hloop
      show _ = if isValidUtf8 key = true then f key else none
      simp only
      by_cases hkey : kMaximumParameterKeyBytes < key.length
      · rw [hlong key hkey, ite_self]
        by_cases hraw : kMaximumParameterValueBytes < raw.length
        · rw [if_pos hraw]
          rfl
        rw [if_neg hraw]
        by_cases hbad : kMaximumParameterValueBytes < key.length ∨ isValidUtf8 key = false
        · rw [if_pos hbad]
          rfl
        · rw [if_neg hbad]
          exact hlong key hkey
      · have hraw : ¬ kMaximumParameterValueBytes < raw.length := by
          simp only [kMaximumParameterValueBytes, kMaximumParameterKeyBytes] at hkey ⊢
          omega
        have hdecoded : ¬ kMaximumParameterValueBytes < key.length := by
          simp only [kMaximumParameterValueBytes, kMaximumParameterKeyBytes] at hkey ⊢
          omega
        rw [if_neg hraw]
        by_cases hvalid : isValidUtf8 key = true
        · rw [if_pos hvalid, if_neg (by simp [hdecoded, hvalid])]
          rfl
        · rw [if_neg hvalid, if_pos (Or.inr (by simpa using hvalid))]
          rfl
  rw [hread, hread]
  have hsame := h.decodedLower_eq
  unfold decodedLower at hsame
  cases hkey : (percentDecodeLoop true raw).toOption with
  | none =>
    rw [hkey] at hsame
    rw [Option.map_eq_none_iff.mp hsame.symm]
  | some key =>
    rw [hkey] at hsame
    obtain ⟨key', hkey', hcase⟩ := Option.map_eq_some_iff.mp hsame.symm
    rw [hkey', Option.bind_some, Option.bind_some, isValidUtf8_lower hcase.symm, hlower key key' hcase.symm]

/-! ### The bytes of a raw key -/

theorem Spells.bytes {x b : UInt8} (h : Spells t x) (hb : b ∈ t) :
    b = x ∨ b = 0x25 ∨ ∃ n, hexDigitValue b = some n := by
  cases h with
  | plain => exact Or.inl (List.mem_singleton.mp hb)
  | escape hhigh hlow =>
    simp only [List.mem_cons, List.not_mem_nil, or_false] at hb
    rcases hb with rfl | rfl | rfl
    · exact Or.inr (Or.inl rfl)
    · exact Or.inr (Or.inr ⟨_, hhigh⟩)
    · exact Or.inr (Or.inr ⟨_, hlow⟩)

/-- A byte that is neither a letter nor part of an escape. -/
def Separates (b : UInt8) : Prop := isLetter b = false ∧ b ≠ 0x25 ∧ hexDigitValue b = none

theorem Spells.separator_not_mem {x b : UInt8} (h : Spells t x) (hx : isLetter x = true) (hb : Separates b) :
    b ∉ t := by
  obtain ⟨hletter, hpercent, hhex⟩ := hb
  intro hm
  rcases h.bytes hm with rfl | rfl | ⟨n, hn⟩
  · rw [hx] at hletter
    cases hletter
  · exact hpercent rfl
  · rw [hn] at hhex
    cases hhex

theorem CaseChange.mem_iff (h : CaseChange raw raw') (hb : Separates b) : b ∈ raw ↔ b ∈ raw' := by
  induction h with
  | same rest => exact Iff.rfl
  | byte plain tail ih => rw [List.mem_cons, List.mem_cons, ih]
  | escape high low tail ih => simp only [List.mem_cons, ih]
  | letter hx hy hcase hspell hspell' tail ih =>
    rw [List.mem_append, List.mem_append, ih]
    simp only [hspell.separator_not_mem hx hb, hspell'.separator_not_mem hy hb, false_or]

theorem Spells.ne_nil {x : UInt8} (h : Spells t x) : t ≠ [] := by
  cases h <;> exact List.cons_ne_nil _ _

theorem CaseChange.nil_iff (h : CaseChange raw raw') : raw = [] ↔ raw' = [] := by
  cases h with
  | same rest => exact Iff.rfl
  | byte plain tail => simp
  | escape high low tail => simp
  | letter hx hy hcase hspell hspell' tail => simp [hspell.ne_nil, hspell'.ne_nil]

/-! ## Queries -/

/-- The same parameter up to the case of its key. -/
inductive SameParameter : Text → Text → Prop where
  | same (pair : Text) : SameParameter pair pair
  | key {raw raw' : Text} (value : Text) (equals : 0x3d ∉ raw) (change : CaseChange raw raw') :
      SameParameter (raw ++ 0x3d :: value) (raw' ++ 0x3d :: value)

/-- One query has the other's parameters in some order, up to the case of their keys. -/
def SameQuery (query query' : Text) : Prop :=
  ∃ pairs, (query.splitOn 0x26).Perm pairs ∧ List.Forall₂ SameParameter pairs (query'.splitOn 0x26)

theorem readPair_cut {raw : Text} (h : 0x3d ∉ raw) :
    readPair (raw ++ 0x3d :: value) =
      if raw = [] then invalid "Roblox launch URI parameter has no value"
      else (do
        let key ← percentDecode raw true
        let value ← percentDecode value true
        .ok (key, value)) := by
  unfold readPair
  rw [if_neg (by simp), cut_append value h]

theorem parsePair_cut {raw : Text} (value : Text) (fields : LaunchFields) (h : 0x3d ∉ raw) (hne : raw ≠ []) :
    (parsePair m (raw ++ 0x3d :: value) fields).toOption =
      (percentDecode raw true).toOption.bind fun key =>
        (percentDecode value true).toOption.bind fun value => (assignField key value m fields).toOption := by
  rw [parsePair_toOption, readPair_cut h, if_neg hne]
  cases percentDecode raw true with
  | error e => rfl
  | ok key => cases percentDecode value true <;> rfl

theorem SameParameter.parsePair_eq (h : SameParameter pair pair') (fields : LaunchFields) :
    (parsePair m pair fields).toOption = (parsePair m pair' fields).toOption := by
  cases h with
  | same pair => rfl
  | @key raw raw' value equals change =>
    have hequals : Separates 0x3d := ⟨by decide, by decide, by decide⟩
    have equals' : 0x3d ∉ raw' := fun h => equals ((change.mem_iff hequals).mpr h)
    by_cases hne : raw = []
    · rw [hne, change.nil_iff.mp hne]
    rw [parsePair_cut value fields equals hne, parsePair_cut value fields equals' (fun h => hne (change.nil_iff.mpr h))]
    refine change.decode_bind ?_ ?_
    · intro key key' hcase
      simp only [assignField_lower hcase]
    · intro key hlong
      cases percentDecode value true with
      | error e => rfl
      | ok value =>
        show (assignField key value m fields).toOption = none
        rw [assignField, if_pos (Or.inr hlong)]
        rfl

theorem SameParameter.mem_iff (h : SameParameter pair pair') (hb : Separates b) :
    b ∈ pair ↔ b ∈ pair' := by
  cases h with
  | same pair => exact Iff.rfl
  | key value equals change => rw [List.mem_append, List.mem_append, change.mem_iff hb]

theorem mem_splitOn_iff {b separator : UInt8} (query : Text) (hb : b ≠ separator) :
    b ∈ query ↔ ∃ piece ∈ query.splitOn separator, b ∈ piece := by
  have hpieces : ∀ pieces : List Text, (∃ piece ∈ pieces, b ∈ piece) → b ∈ [separator].intercalate pieces := by
    intro pieces
    induction pieces with
    | nil => simp
    | cons first rest ih =>
      cases rest with
      | nil => simp
      | cons next rest =>
        rintro ⟨piece, hp, hm⟩
        rw [List.intercalate_cons_cons, List.mem_append, List.mem_append]
        rcases List.mem_cons.mp hp with rfl | hp
        · exact Or.inl (Or.inl hm)
        · exact Or.inr (ih ⟨piece, hp, hm⟩)
  have hjoin : [separator].intercalate (query.splitOn separator) = query := List.intercalate_splitOn separator
  constructor
  · intro h
    rw [← hjoin] at h
    rcases mem_intercalate h with h | h
    · exact absurd h hb
    · exact h
  · intro h
    rw [← hjoin]
    exact hpieces _ h

theorem SameQuery.mem_iff (h : SameQuery query query') (hb : Separates b)
    (hne : b ≠ 0x26) : b ∈ query ↔ b ∈ query' := by
  obtain ⟨pairs, hperm, hsame⟩ := h
  rw [mem_splitOn_iff query hne, mem_splitOn_iff query' hne]
  have hpieces : ∀ {pairs pairs' : List Text}, List.Forall₂ SameParameter pairs pairs' →
      ((∃ piece ∈ pairs, b ∈ piece) ↔ ∃ piece ∈ pairs', b ∈ piece) := by
    intro pairs pairs' hsame
    induction hsame with
    | nil => exact Iff.rfl
    | cons hp _ ih => simp only [List.exists_mem_cons_iff, hp.mem_iff hb, ih]
  rw [← hpieces hsame]
  exact exists_congr fun piece => and_congr_left' hperm.mem_iff

theorem parseQuery_toOption (query : Text) (m : Bool) (fields : LaunchFields) :
    (parseQuery query m fields).toOption =
      if kMaximumParameterCount < (query.splitOn 0x26).length then none
      else assignTexts m (query.splitOn 0x26) fields := by
  unfold parseQuery
  by_cases hempty : query = []
  · subst hempty
    rw [if_pos rfl, List.splitOn_nil]
    rfl
  · rw [if_neg hempty, parsePairs_toOption fields (Nat.zero_le _), Nat.zero_add]

theorem SameQuery.parseQuery_eq (h : SameQuery query query') (m : Bool) (fields : LaunchFields) :
    (parseQuery query m fields).toOption = (parseQuery query' m fields).toOption := by
  obtain ⟨pairs, hperm, hsame⟩ := h
  rw [parseQuery_toOption, parseQuery_toOption, hperm.length_eq, hsame.length_eq, assignTexts_perm hperm,
    assignTexts_same (fun _ _ hp => hp.parsePair_eq) hsame]

/-- `ParseModern` on the experiences/start form. -/
theorem parseModern_experience {front : Text} (hfront : asciiLower front = ascii kModernExperiencePrefix) (query : Text)
    (fields : LaunchFields) :
    (parseModern (front ++ query) fields).toOption =
      if 0x23 ∈ query ∨ 0x2f ∈ query then none else (parseQuery query true fields).toOption := by
  have hlen : front.length = (ascii kModernExperiencePrefix).length := by
    rw [← hfront, asciiLower, List.length_map]
  unfold parseModern modernQuery
  by_cases hempty : query = []
  · -- a form without parameters is no experience launch, and no direct one either
    subst hempty
    have hdirect : ¬ asciiLower (front.take (ascii kModernDirectPrefix).length) = ascii kModernDirectPrefix := by
      rw [asciiLower, List.map_take]
      show ¬ (asciiLower front).take _ = _
      rw [hfront]
      decide
    rw [List.append_nil]
    simp only
    rw [if_neg (by omega), if_neg (by simp [hdirect]), if_neg (by simp)]
    rfl
  · have hpos := List.length_pos_of_ne_nil hempty
    have htake : (front ++ query).take (ascii kModernExperiencePrefix).length = front := List.take_left' hlen
    have hdrop : (front ++ query).drop (ascii kModernExperiencePrefix).length = query := List.drop_left' hlen
    simp only
    rw [if_pos ⟨by rw [List.length_append]; omega, by rw [htake, hfront]⟩, hdrop]
    by_cases hfragment : 0x23 ∈ query ∨ 0x2f ∈ query
    · rw [if_pos hfragment]
      simp only [Except.bind, bind, if_pos hfragment]
      rfl
    · rw [if_neg hfragment]
      simp only [Except.bind, bind, if_neg hfragment]

/-- The order of the parameters and the case of their keys decide at most which error is reported. -/
theorem parameters_commute {query query' : Text} (h : SameQuery query query') :
    (∀ m, (parseQuery query m {}).toOption = (parseQuery query' m {}).toOption) ∧
      ∀ front front', asciiLower front = ascii kModernExperiencePrefix → asciiLower front' = ascii kModernExperiencePrefix →
        (parseModern (front ++ query) {}).toOption = (parseModern (front' ++ query') {}).toOption := by
  refine ⟨fun m => h.parseQuery_eq m {}, ?_⟩
  intro front front' hfront hfront'
  have hhash : Separates 0x23 := ⟨by decide, by decide, by decide⟩
  have hslash : Separates 0x2f := ⟨by decide, by decide, by decide⟩
  have hfragment : (0x23 ∈ query ∨ 0x2f ∈ query) ↔ (0x23 ∈ query' ∨ 0x2f ∈ query') :=
    or_congr (h.mem_iff hhash (by decide)) (h.mem_iff hslash (by decide))
  rw [parseModern_experience hfront, parseModern_experience hfront', h.parseQuery_eq true {}]
  simp only [hfragment]

/-- Swapped parameters, one key in capitals and one partly escaped. -/
theorem parameters_commute_demo :
    (parseQuery (ascii "placeId=1818&gameId=x") true {}).toOption =
        (parseQuery (ascii "%47AMEID=x&placeId=1818") true {}).toOption ∧
      (parseQuery (ascii "placeId=1818&gameId=x") true {}).toOption.map (fun f => f.integers .placeId) = some 1818 := by
  refine ⟨(parameters_commute ⟨[ascii "gameId=x", ascii "placeId=1818"], ?_, ?_⟩).1 true, by decide +kernel⟩
  · have hsplit : (ascii "placeId=1818&gameId=x").splitOn 0x26 = [ascii "placeId=1818", ascii "gameId=x"] := by decide +kernel
    rw [hsplit]
    exact List.Perm.swap _ _ _
  · have hsplit : (ascii "%47AMEID=x&placeId=1818").splitOn 0x26 = [ascii "%47AMEID=x", ascii "placeId=1818"] := by
      decide +kernel
    rw [hsplit]
    refine .cons ?_ (.cons (.same _) .nil)
    refine @SameParameter.key (ascii "gameId") (ascii "%47AMEID") (ascii "x") (by decide) ?_
    refine @CaseChange.letter 0x67 0x47 [0x67] [0x25, 0x34, 0x37] _ _ rfl rfl rfl (.plain _)
      (@Spells.escape 0x34 0x37 4 7 rfl rfl) ?_
    refine @CaseChange.letter 0x61 0x41 [0x61] [0x41] _ _ rfl rfl rfl (.plain _) (.plain _) ?_
    refine @CaseChange.letter 0x6d 0x4d [0x6d] [0x4d] _ _ rfl rfl rfl (.plain _) (.plain _) ?_
    refine @CaseChange.letter 0x65 0x45 [0x65] [0x45] _ _ rfl rfl rfl (.plain _) (.plain _) ?_
    refine @CaseChange.letter 0x49 0x49 [0x49] [0x49] _ _ rfl rfl rfl (.plain _) (.plain _) ?_
    exact @CaseChange.letter 0x64 0x44 [0x64] [0x44] [] [] rfl rfl rfl (.plain _) (.plain _) (.same [])

end Mocktail.Launch

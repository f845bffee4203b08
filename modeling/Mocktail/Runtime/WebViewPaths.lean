/-
  Mocktail.Runtime.WebViewPaths — which paths a web view URL may have (`HasUnsafePath` in
  `webview_helper_launcher.cc`).

  One scan over the path decodes its escapes, splits it at the slashes and compares each
  decoded segment with the two dot segments. What it accepts is said without the scan
  (`SafePath`): of the raw path, of the path decoded as a whole, and of the segments of the
  raw path, each decoded by itself. No escape of such a path decodes to a slash, so the
  decoded path has the same segments (`hasUnsafePath_iff`).
-/

import Mathlib.Data.List.Basic

namespace Mocktail.Runtime

abbrev PathBytes := List UInt8

def kSlash : UInt8 := 0x2f
def kPercent : UInt8 := 0x25
def kBackslash : UInt8 := 0x5c

/-- `none` for the source's -1. -/
def hexDigitValue (character : UInt8) : Option Nat :=
  if 0x30 ≤ character.toNat ∧ character.toNat ≤ 0x39 then some (character.toNat - 0x30)
  else if 0x61 ≤ character.toNat ∧ character.toNat ≤ 0x66 then some (character.toNat - 0x61 + 10)
  else if 0x41 ≤ character.toNat ∧ character.toNat ≤ 0x46 then some (character.toNat - 0x41 + 10)
  else none

/-- The byte of the escape with two digits. -/
def escapedByte (high low : UInt8) : Option UInt8 :=
  match hexDigitValue high, hexDigitValue low with
  | some high, some low => some (UInt8.ofNat (high <<< 4 ||| low))
  | _, _ => none

def isDotSegment (segment : PathBytes) : Bool := segment == [0x2e] || segment == [0x2e, 0x2e]

def unsafeByte (decoded : UInt8) : Bool := decide (decoded.toNat < 0x20) || decoded == 0x7f || decoded == kBackslash

/-- The scan, with the segment that is being decoded. -/
def scanPath (segment : PathBytes) : PathBytes → Bool
  | [] => isDotSegment segment
  | c :: rest =>
    if c = kSlash then isDotSegment segment || scanPath [] rest
    else if c = kPercent then
      match rest with
      | high :: low :: rest =>
        match escapedByte high low with
        | none => true
        | some decoded =>
          decoded == kSlash || decoded == kBackslash || unsafeByte decoded || scanPath (segment ++ [decoded]) rest
      | _ => true
    else unsafeByte c || scanPath (segment ++ [c]) rest

def hasUnsafePath (path : PathBytes) : Bool := scanPath [] path

/-! ## What a safe path is -/

/-- A path without its escapes; a percent sign that starts none stays. -/
def decodePath : PathBytes → PathBytes
  | c :: high :: low :: rest =>
    if c = kPercent then
      match escapedByte high low with
      | some decoded => decoded :: decodePath rest
      | none => c :: decodePath (high :: low :: rest)
    else c :: decodePath (high :: low :: rest)
  | path => path

/-- The byte of the escape that starts at a place of the path. -/
def escapeAt (path : PathBytes) (i : Nat) : Option UInt8 :=
  match path[i + 1]?, path[i + 2]? with
  | some high, some low => escapedByte high low
  | _, _ => none

structure SafePath (path : PathBytes) : Prop where
  /-- Every percent sign starts an escape. -/
  escapes : ∀ i, path[i]? = some kPercent → (escapeAt path i).isSome = true
  /-- No control byte and no backslash. -/
  bytes : ∀ b ∈ decodePath path, 0x20 ≤ b.toNat ∧ b ≠ 0x7f ∧ b ≠ kBackslash
  /-- No escape is a slash. -/
  slashes : ∀ i, path[i]? = some kPercent → escapeAt path i ≠ some kSlash
  segments : ∀ segment ∈ path.splitOn kSlash, decodePath segment ≠ [0x2e] ∧ decodePath segment ≠ [0x2e, 0x2e]

/-! ## Escapes -/

variable {c : UInt8}

theorem hexDigitValue_lt {n : Nat} (h : hexDigitValue c = some n) : n < 16 ∧ c ≠ kPercent ∧ c ≠ kSlash := by
  unfold hexDigitValue at h
  refine ⟨?_, ?_, ?_⟩
  · split at h
    · cases h
      omega
    · split at h
      · cases h
        omega
      · split at h
        · cases h
          omega
        · cases h
  · rintro rfl
    revert h
    simp [kPercent]
  · rintro rfl
    revert h
    simp [kSlash]

variable {high low b : UInt8}

theorem escapedByte_some (h : escapedByte high low = some b) :
    (high ≠ kPercent ∧ high ≠ kSlash) ∧ low ≠ kPercent ∧ low ≠ kSlash := by
  unfold escapedByte at h
  cases hhigh : hexDigitValue high with
  | none =>
    rw [hhigh] at h
    cases h
  | some n =>
    cases hlow : hexDigitValue low with
    | none =>
      rw [hhigh, hlow] at h
      cases h
    | some m => exact ⟨(hexDigitValue_lt hhigh).2, (hexDigitValue_lt hlow).2⟩

theorem decodePath_plain (hc : c ≠ kPercent) (rest : PathBytes) : decodePath (c :: rest) = c :: decodePath rest := by
  match rest with
  | [] => rfl
  | [_] => rfl
  | _ :: _ :: _ => rw [decodePath, if_neg hc]

theorem decodePath_escape (h : escapedByte high low = some b) (rest : PathBytes) :
    decodePath (kPercent :: high :: low :: rest) = b :: decodePath rest := by
  rw [decodePath, if_pos rfl]
  simp only [h]

/-! ## What the scan passes over -/

/-- The bytes of an accepted path: slashes, plain bytes and escapes. -/
inductive Scanned : PathBytes → Prop
  | nil : Scanned []
  | slash {rest : PathBytes} : Scanned rest → Scanned (kSlash :: rest)
  | plain {c : UInt8} {rest : PathBytes} : c ≠ kSlash → c ≠ kPercent → unsafeByte c = false → Scanned rest → Scanned (c :: rest)
  | escape {high low b : UInt8} {rest : PathBytes} : escapedByte high low = some b → b ≠ kSlash → unsafeByte b = false →
      Scanned rest → Scanned (kPercent :: high :: low :: rest)

theorem unsafeByte_eq_false {b : UInt8} : unsafeByte b = false ↔ 0x20 ≤ b.toNat ∧ b ≠ 0x7f ∧ b ≠ kBackslash := by
  simp [unsafeByte, and_assoc]

/-- Every percent sign starts an escape, and not that of a slash. -/
def Escaped (path : PathBytes) : Prop := ∀ i, path[i]? = some kPercent → ∃ b, escapeAt path i = some b ∧ b ≠ kSlash

variable {rest segment : PathBytes}

theorem Escaped.tail (h : Escaped (c :: rest)) : Escaped rest := fun i hi => h (i + 1) hi

theorem escaped_cons (hc : c ≠ kPercent) (h : Escaped rest) : Escaped (c :: rest) := by
  intro i hi
  cases i with
  | zero => exact absurd (Option.some.inj hi) hc
  | succ i => exact h i hi

variable {path : PathBytes}

theorem Scanned.escaped (h : Scanned path) : Escaped path := by
  induction h with
  | nil =>
    intro i hi
    cases hi
  | slash _ ih => exact escaped_cons (by decide) ih
  | plain _ hc _ _ ih => exact escaped_cons hc ih
  | escape hb hslash _ _ ih =>
    obtain ⟨⟨hhigh, -⟩, hlow, -⟩ := escapedByte_some hb
    intro i hi
    cases i with
    | zero => exact ⟨_, hb, hslash⟩
    | succ i => exact escaped_cons hhigh (escaped_cons hlow ih) i hi

theorem Scanned.bytes (h : Scanned path) : ∀ b ∈ decodePath path, unsafeByte b = false := by
  induction h with
  | nil => exact fun b hb => absurd hb List.not_mem_nil
  | slash _ ih =>
    rw [decodePath_plain (by decide)]
    exact List.forall_mem_cons.mpr ⟨by decide, ih⟩
  | plain _ hc hsafe _ ih =>
    rw [decodePath_plain hc]
    exact List.forall_mem_cons.mpr ⟨hsafe, ih⟩
  | escape hb _ hsafe _ ih =>
    rw [decodePath_escape hb]
    exact List.forall_mem_cons.mpr ⟨hsafe, ih⟩

/-- The converse, by the length of the path: an escape takes three bytes. -/
theorem scanned_of_escaped (hescaped : Escaped path) (hbytes : ∀ b ∈ decodePath path, unsafeByte b = false) :
    Scanned path := by
  induction hn : path.length using Nat.strongRecOn generalizing path with
  | _ n ih =>
    cases path with
    | nil => exact .nil
    | cons c rest =>
      rw [List.length_cons] at hn
      by_cases hpercent : c = kPercent
      · subst hpercent
        obtain ⟨b, hb, hslash⟩ := hescaped 0 rfl
        match rest with
        | [] => cases hb
        | [_] => cases hb
        | high :: low :: rest =>
          replace hb : escapedByte high low = some b := hb
          rw [decodePath_escape hb] at hbytes
          obtain ⟨hsafe, hbytes⟩ := List.forall_mem_cons.mp hbytes
          simp only [List.length_cons] at hn
          exact .escape hb hslash hsafe (ih rest.length (by omega) hescaped.tail.tail.tail hbytes rfl)
      · rw [decodePath_plain hpercent] at hbytes
        obtain ⟨hsafe, hbytes⟩ := List.forall_mem_cons.mp hbytes
        have hrest := ih rest.length (by omega) hescaped.tail hbytes rfl
        by_cases hslash : c = kSlash
        · rw [hslash]
          exact .slash hrest
        · exact .plain hslash hpercent hsafe hrest

/-! ## Segments -/

def decodedSegments (path : PathBytes) : List PathBytes := (path.splitOn kSlash).map decodePath

theorem splitOn_slash (rest : PathBytes) : (kSlash :: rest).splitOn kSlash = [] :: rest.splitOn kSlash := by
  simp [List.splitOn, List.splitOnP_cons_eq_if_modifyHead]

theorem splitOn_ne (hc : c ≠ kSlash) (rest : PathBytes) :
    ∃ segment segments, rest.splitOn kSlash = segment :: segments ∧ (c :: rest).splitOn kSlash = (c :: segment) :: segments := by
  obtain ⟨segment, segments, h⟩ := List.exists_cons_of_ne_nil (List.splitOnP_ne_nil (· == kSlash) rest)
  refine ⟨segment, segments, h, ?_⟩
  rw [List.splitOn, List.splitOnP_cons_eq_if_modifyHead, if_neg (by simpa using hc), h]
  rfl

theorem decodedSegments_ne_nil (path : PathBytes) : ∃ segment segments, decodedSegments path = segment :: segments := by
  obtain ⟨segment, segments, h⟩ := List.exists_cons_of_ne_nil (List.splitOnP_ne_nil (· == kSlash) path)
  exact ⟨_, _, by rw [decodedSegments, List.splitOn, h, List.map_cons]⟩

theorem decodedSegments_slash (rest : PathBytes) : decodedSegments (kSlash :: rest) = [] :: decodedSegments rest := by
  rw [decodedSegments, splitOn_slash, List.map_cons]
  rfl

/-- A segment and the ones after it, with a byte before them. -/
theorem decodedSegments_plain (hslash : c ≠ kSlash) (hpercent : c ≠ kPercent)
    {segments : List PathBytes} (h : decodedSegments rest = segment :: segments) :
    decodedSegments (c :: rest) = (c :: segment) :: segments := by
  obtain ⟨raw, raws, hrest, hcons⟩ := splitOn_ne hslash rest
  rw [decodedSegments, hrest, List.map_cons, List.cons.injEq] at h
  rw [decodedSegments, hcons, List.map_cons, decodePath_plain hpercent, h.1, h.2]

theorem decodedSegments_escape (hb : escapedByte high low = some b)
    {segments : List PathBytes} (h : decodedSegments rest = segment :: segments) :
    decodedSegments (kPercent :: high :: low :: rest) = (b :: segment) :: segments := by
  obtain ⟨⟨-, hhigh⟩, -, hlow⟩ := escapedByte_some hb
  obtain ⟨raw, raws, hrest, hcons⟩ := splitOn_ne hlow rest
  obtain ⟨_, _, h1, hcons1⟩ := splitOn_ne hhigh (low :: rest)
  obtain ⟨_, _, h2, hcons2⟩ := splitOn_ne (show kPercent ≠ kSlash by decide) (high :: low :: rest)
  rw [hcons] at h1
  cases h1
  rw [hcons1] at h2
  cases h2
  rw [decodedSegments, hrest, List.map_cons, List.cons.injEq] at h
  rw [decodedSegments, hcons2, List.map_cons, decodePath_escape hb, h.1, h.2]

theorem Scanned.segments_eq (h : Scanned path) : decodedSegments path = (decodePath path).splitOn kSlash := by
  induction h with
  | nil => rfl
  | slash _ ih => rw [decodedSegments_slash, decodePath_plain (by decide), splitOn_slash, ih]
  | @plain c rest hslash hpercent _ _ ih =>
    obtain ⟨segment, segments, hrest, hcons⟩ := splitOn_ne hslash (decodePath rest)
    rw [decodedSegments_plain hslash hpercent (ih.trans hrest), decodePath_plain hpercent, hcons]
  | @escape high low b rest hb hslash _ _ ih =>
    obtain ⟨segment, segments, hrest, hcons⟩ := splitOn_ne hslash (decodePath rest)
    rw [decodedSegments_escape hb (ih.trans hrest), decodePath_escape hb, hcons]

/-! ## The scan -/

/-- The segments, the first of them with what is already decoded of it. -/
def segmentsAfter (segment path : PathBytes) : List PathBytes := (decodedSegments path).modifyHead (segment ++ ·)

theorem segmentsAfter_nil (path : PathBytes) : segmentsAfter [] path = decodedSegments path := by
  obtain ⟨segment, segments, h⟩ := decodedSegments_ne_nil path
  rw [segmentsAfter, h]
  rfl

theorem segmentsAfter_slash (segment rest : PathBytes) :
    segmentsAfter segment (kSlash :: rest) = segment :: segmentsAfter [] rest := by
  rw [segmentsAfter_nil, segmentsAfter, decodedSegments_slash, List.modifyHead_cons, List.append_nil]

theorem segmentsAfter_plain (hslash : c ≠ kSlash) (hpercent : c ≠ kPercent) (segment rest : PathBytes) :
    segmentsAfter segment (c :: rest) = segmentsAfter (segment ++ [c]) rest := by
  obtain ⟨first, segments, h⟩ := decodedSegments_ne_nil rest
  rw [segmentsAfter, segmentsAfter, decodedSegments_plain hslash hpercent h, h, List.modifyHead_cons, List.modifyHead_cons,
    List.append_assoc, List.singleton_append]

theorem segmentsAfter_escape (hb : escapedByte high low = some b) (segment rest : PathBytes) :
    segmentsAfter segment (kPercent :: high :: low :: rest) = segmentsAfter (segment ++ [b]) rest := by
  obtain ⟨first, segments, h⟩ := decodedSegments_ne_nil rest
  rw [segmentsAfter, segmentsAfter, decodedSegments_escape hb h, h, List.modifyHead_cons, List.modifyHead_cons,
    List.append_assoc, List.singleton_append]

theorem scanPath_slash (segment rest : PathBytes) :
    scanPath segment (kSlash :: rest) = (isDotSegment segment || scanPath [] rest) := by
  rw [scanPath.eq_def]
  exact if_pos rfl

theorem scanPath_plain (hslash : c ≠ kSlash) (hpercent : c ≠ kPercent) (segment rest : PathBytes) :
    scanPath segment (c :: rest) = (unsafeByte c || scanPath (segment ++ [c]) rest) := by
  rw [scanPath.eq_def]
  exact (if_neg hslash).trans (if_neg hpercent)

theorem scanPath_escape (hb : escapedByte high low = some b) (segment rest : PathBytes) :
    scanPath segment (kPercent :: high :: low :: rest) =
      (b == kSlash || b == kBackslash || unsafeByte b || scanPath (segment ++ [b]) rest) := by
  rw [scanPath, if_neg (by decide), if_pos rfl]
  simp only [hb]

/-- The scan accepts what it passes over, unless it comes to the end of a dot segment. -/
theorem Scanned.scan (h : Scanned path) (segment : PathBytes) :
    scanPath segment path = false ↔ ∀ s ∈ segmentsAfter segment path, isDotSegment s = false := by
  induction h generalizing segment with
  | nil =>
    show isDotSegment segment = false ↔ ∀ s ∈ [segment ++ []], isDotSegment s = false
    rw [List.append_nil, List.forall_mem_singleton]
  | slash _ ih => rw [scanPath_slash, segmentsAfter_slash, Bool.or_eq_false_iff, List.forall_mem_cons, ih]
  | plain hslash hpercent hsafe _ ih =>
    rw [scanPath_plain hslash hpercent, segmentsAfter_plain hslash hpercent, hsafe, Bool.false_or, ih]
  | @escape high low b rest hb hslash hsafe _ ih =>
    have hback : (b == kBackslash) = false := by simpa using (unsafeByte_eq_false.mp hsafe).2.2
    rw [scanPath_escape hb, segmentsAfter_escape hb, hsafe, hback, Bool.or_false, Bool.or_false, Bool.or_eq_false_iff, ih]
    simp [hslash]

theorem scanned_of_scan {path : PathBytes} (h : scanPath segment path = false) : Scanned path := by
  induction hn : path.length using Nat.strongRecOn generalizing segment path with
  | _ n ih =>
    cases path with
    | nil => exact .nil
    | cons c rest =>
      rw [List.length_cons] at hn
      by_cases hslash : c = kSlash
      · subst hslash
        rw [scanPath_slash, Bool.or_eq_false_iff] at h
        exact .slash (ih rest.length (by omega) h.2 rfl)
      by_cases hpercent : c = kPercent
      · subst hpercent
        match rest with
        | [] => simp [scanPath, hslash] at h
        | [_] => simp [scanPath, hslash] at h
        | high :: low :: rest =>
          cases hb : escapedByte high low with
          | none => simp [scanPath, hslash, hb] at h
          | some b =>
            simp only [scanPath_escape hb, Bool.or_eq_false_iff, beq_eq_false_iff_ne] at h
            simp only [List.length_cons] at hn
            exact .escape hb h.1.1.1 h.1.2 (ih rest.length (by omega) h.2 rfl)
      · rw [scanPath_plain hslash hpercent, Bool.or_eq_false_iff] at h
        exact .plain hslash hpercent h.1 (ih rest.length (by omega) h.2 rfl)

theorem isDotSegment_eq_false : isDotSegment segment = false ↔ segment ≠ [0x2e] ∧ segment ≠ [0x2e, 0x2e] := by
  simp [isDotSegment]

/-- The scan accepts the safe paths. Splitting such a path and decoding it can be done in either order. -/
theorem hasUnsafePath_iff (path : PathBytes) :
    (hasUnsafePath path = false ↔ SafePath path) ∧
      (hasUnsafePath path = false → (path.splitOn kSlash).map decodePath = (decodePath path).splitOn kSlash) := by
  refine ⟨⟨fun h => ?_, fun h => ?_⟩, fun h => (scanned_of_scan h).segments_eq⟩
  · have hscanned := scanned_of_scan h
    have hsegments := (hscanned.scan []).mp h
    rw [segmentsAfter_nil] at hsegments
    refine ⟨fun i hi => ?_, fun b hb => unsafeByte_eq_false.mp (hscanned.bytes b hb), fun i hi => ?_, fun segment hs => ?_⟩
    · obtain ⟨b, hb, -⟩ := hscanned.escaped i hi
      rw [hb]
      rfl
    · obtain ⟨b, hb, hslash⟩ := hscanned.escaped i hi
      rw [hb]
      simpa using hslash
    · exact isDotSegment_eq_false.mp (hsegments _ (List.mem_map_of_mem hs))
  · have hescaped : Escaped path := by
      intro i hi
      obtain ⟨b, hb⟩ := Option.isSome_iff_exists.mp (h.escapes i hi)
      exact ⟨b, hb, fun he => h.slashes i hi (he ▸ hb)⟩
    have hscanned := scanned_of_escaped hescaped fun b hb => unsafeByte_eq_false.mpr (h.bytes b hb)
    refine (hscanned.scan []).mpr fun s hs => ?_
    rw [segmentsAfter_nil] at hs
    obtain ⟨segment, hsegment, rfl⟩ := List.mem_map.mp hs
    exact isDotSegment_eq_false.mpr (h.segments segment hsegment)

end Mocktail.Runtime

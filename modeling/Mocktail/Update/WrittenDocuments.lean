/-
  Mocktail.Update.WrittenDocuments — the documents that an approval writes, read back.

  `dump(2)` and a newline, read by a parser with or without comments, is the document again,
  with non-negative numbers as unsigned ones. Its text is bounded by the texts in it: a byte of
  a text takes at most six bytes (`\u001f`), and every member a line.
-/

import Mocktail.Launch.Selectors
import Mocktail.Update.ApprovalWrites

namespace Mocktail.Update

open Mocktail.Lib Mocktail.Launch

/-! ## Objects made of fields -/

variable {members : Members} {fields : List (String × Json)}

theorem findMember_foldl {key : Text} (h : ∀ f ∈ fields, ascii f.1 ≠ key) :
    findMember (fields.foldl (fun members field => insertMember (ascii field.1) field.2 members) members) key =
      findMember members key := by
  induction fields generalizing members with
  | nil => rfl
  | cons f fields ih =>
    rw [List.foldl_cons, ih fun g hg => h g (List.mem_cons_of_mem _ hg), findMember_insertMember,
      if_neg (h f List.mem_cons_self).symm]

variable {name : String} {value : Json}

theorem findMember_makeObject
    (hdistinct : (fields.map fun f => ascii f.1).Nodup) (h : (name, value) ∈ fields) :
    findMember (makeObject fields) (ascii name) = some value := by
  unfold makeObject
  generalize ([] : Members) = members
  induction fields generalizing members with
  | nil => exact (List.not_mem_nil h).elim
  | cons f fields ih =>
    rw [List.map_cons, List.nodup_cons] at hdistinct
    rw [List.foldl_cons]
    rcases List.mem_cons.mp h with rfl | h
    · have hothers : ∀ g ∈ fields, ascii g.1 ≠ ascii name := fun g hg hsame => hdistinct.1 (hsame ▸ List.mem_map_of_mem hg)
      rw [findMember_foldl hothers, findMember_insertMember, if_pos rfl]
    · exact ih hdistinct.2 h _

theorem makeObject_induct {P : Members → Prop} (fields : List (String × Json)) (hnil : P [])
    (hinsert : ∀ f ∈ fields, ∀ members, P members → P (insertMember (ascii f.1) f.2 members)) : P (makeObject fields) := by
  have hfold (rest : List (String × Json)) (hrest : ∀ f ∈ rest, f ∈ fields) (members : Members) (hmembers : P members) :
      P (rest.foldl (fun members field => insertMember (ascii field.1) field.2 members) members) := by
    induction rest generalizing members with
    | nil => exact hmembers
    | cons f rest ih =>
      exact ih (fun g hg => hrest g (List.mem_cons_of_mem _ hg)) _ (hinsert f (hrest f List.mem_cons_self) members hmembers)
  exact hfold fields (fun _ hf => hf) [] hnil

theorem ordered_makeObject (fields : List (String × Json)) : Ordered (makeObject fields) :=
  makeObject_induct fields List.Pairwise.nil fun _ _ _ h => ordered_insertMember h

theorem mem_makeObject {P : Json → Prop} (h : ∀ f ∈ fields, P f.2) : ∀ m ∈ makeObject fields, P m.2 := by
  refine makeObject_induct (P := fun members => ∀ m ∈ members, P m.2) fields (fun _ hm => (List.not_mem_nil hm).elim) ?_
  intro f hf members hmembers m hm
  rcases mem_insertMember hm with rfl | hm
  · exact h f hf
  · exact hmembers m hm

/-! ## Their texts -/

/-- A number, a text or a list of texts. -/
def DocumentValue : Json → Prop
  | .unsigned value => value < 2 ^ 64
  | .integer value => 0 ≤ value ∧ value < 2 ^ 63
  | .string _ => True
  | .array items => ∀ item ∈ items, ∃ text, item = .string text
  | _ => False

def itemBound : Json → Nat
  | .string text => 6 * text.length + 8
  | _ => 0

/-- What the text of a value takes at most. -/
def valueBound : Json → Nat
  | .string text => 6 * text.length + 2
  | .array items => (items.map itemBound).sum + 8
  | _ => 20

def memberBound (m : Text × Json) : Nat := 6 * m.1.length + valueBound m.2 + 8

def documentBound (members : Members) : Nat := (members.map memberBound).sum + 4

theorem sum_insertMember_le (name : Text) (value : Json) (members : Members) :
    ((insertMember name value members).map memberBound).sum ≤ memberBound (name, value) + (members.map memberBound).sum := by
  induction members with
  | nil => simp [insertMember]
  | cons m members ih =>
    obtain ⟨key, old⟩ := m
    unfold insertMember
    split
    · rename_i hsame
      subst hsame
      simp
    · split
      · simp
      · simp only [List.map_cons, List.sum_cons]
        omega

theorem documentBound_makeObject (fields : List (String × Json)) :
    documentBound (makeObject fields) ≤ (fields.map fun f => memberBound (ascii f.1, f.2)).sum + 4 := by
  have hfold (rest : List (String × Json)) (members : Members) :
      ((rest.foldl (fun members field => insertMember (ascii field.1) field.2 members) members).map memberBound).sum ≤
        (rest.map fun f => memberBound (ascii f.1, f.2)).sum + (members.map memberBound).sum := by
    induction rest generalizing members with
    | nil => simp
    | cons f rest ih =>
      have hrest := ih (insertMember (ascii f.1) f.2 members)
      have hinsert := sum_insertMember_le (ascii f.1) f.2 members
      simp only [List.foldl_cons, List.map_cons, List.sum_cons]
      omega
  have hsum := hfold fields []
  rw [List.map_nil, List.sum_nil, Nat.add_zero] at hsum
  exact Nat.add_le_add_right hsum 4

/-- What is written is read again, by a parser that knows no comments. -/
structure WritesDocuments (dump : Json → Option Text) (strict : Text → Option Json) : Prop where
  parse_dump : ∀ members text, Ordered members → (∀ m ∈ members, DocumentValue m.2) → dump (.object members) = some text →
    strict (text ++ [0x0a]) = some (.object (members.map fun m => (m.1, reread m.2)))
  bound : ∀ members text, Ordered members → (∀ m ∈ members, DocumentValue m.2) → dump (.object members) = some text →
    text.length ≤ documentBound members

variable {text : Text}

theorem dumpDocument_read {lib : JsonLibrary} {strict : Text → Option Json} (hwrites : WritesDocuments lib.dump strict)
    (hordered : Ordered members) (hvalues : ∀ m ∈ members, DocumentValue m.2) (h : dumpDocument lib members = .ok text) :
    strict text = some (.object (members.map fun m => (m.1, reread m.2))) ∧ text.length ≤ documentBound members + 1 := by
  unfold dumpDocument at h
  split at h
  · cases h
  · rename_i dumped hdump
    cases h
    have hbound := hwrites.bound _ _ hordered hvalues hdump
    refine ⟨hwrites.parse_dump _ _ hordered hvalues hdump, ?_⟩
    rw [List.length_append, List.length_singleton]
    omega

theorem valueText_reread (h : findMember members (ascii name) = some (.string text)) :
    valueText (members.map fun m => (m.1, reread m.2)) name = .ok text := by
  unfold valueText valueOr
  rw [findMember_reread, h]
  rfl

variable {n : Nat}

theorem castSigned_of_lt (h : n < 2 ^ 31) : castSigned 32 n = n := by
  unfold castSigned
  simp only [Nat.reduceSub, Int.reducePow]
  omega

theorem valueInt_reread (h : findMember members (ascii name) = some (.integer n)) (hn : n < 2 ^ 31) :
    valueInt (members.map fun m => (m.1, reread m.2)) name = .ok n := by
  unfold valueInt valueOr
  rw [findMember_reread, h]
  show (.ok (castSigned 32 ((n : Int).toNat : Int)) : Outcome Int) = .ok (n : Int)
  rw [Int.toNat_natCast, castSigned_of_lt hn]

theorem valueUnsigned_reread (h : findMember members (ascii name) = some (.unsigned n))
    (hn : n < 2 ^ 32) : valueUnsigned 32 (members.map fun m => (m.1, reread m.2)) name = .ok n := by
  unfold valueUnsigned valueOr
  rw [findMember_reread, h]
  show (.ok (castUnsigned 32 (n : Int)) : Outcome Nat) = .ok n
  have hcast : castUnsigned 32 (n : Int) = n := by
    unfold castUnsigned
    simp only [Int.reducePow]
    omega
  rw [hcast]

/-! ## Attestations and receipts -/

/-- What surrounds a call, as the system bounds it: the path `canonical` gives for a library, process IDs and
the text of a moment. -/
structure Limits (call : Call) (library : Text) : Prop where
  path : ∀ found, call.canonical library = some found → found.length < 4096
  pid : call.pid < 2 ^ 31
  utcTimestamp : call.utcTimestamp.length < 32

section
variable (call : Call) (facts : CanaryFacts)

/-- The run ID of an attestation. -/
def canaryRunId (run : Nat) : Text :=
  facts.payload.payloadId ++ ascii "-" ++ ascii (toString run) ++ ascii "-" ++ ascii (toString call.epoch.val) ++ ascii "-" ++
    ascii (toString call.pid)

/-- The fields of an attestation, in the order they are written down. -/
def attestationContents (run : Nat) (log : Text) : List (String × Json) :=
  [("schema_version", .integer 1), ("status", .string (ascii "passed")), ("canary_tier", .string (ascii "C")),
   ("run", .unsigned run), ("run_id", .string (canaryRunId call facts run)), ("payload_id", .string facts.payload.payloadId),
   ("payload_fingerprint", .string facts.fingerprint), ("profile_sha256", .string facts.profileSha256),
   ("compatibility_manifest_sha256", .string facts.compatibilitySha256), ("runtime_sha256", .string facts.runtimeSha256),
   ("runtime_build_id", .string facts.runtimeBuildId), ("readiness_log_sha256", .string log)]

def receiptContents (generation library hash1 hash2 : Text) : List (String × Json) :=
  [("schema_version", .integer 1), ("status", .string (ascii "approved")), ("payload_id", .string facts.payload.payloadId),
   ("generation", .string generation), ("payload_path", .string library),
   ("elf_build_id", .string facts.payload.metadata.buildId),
   ("payload_sha256", .string facts.payload.metadata.librarySha256), ("payload_fingerprint", .string facts.fingerprint),
   ("profile_sha256", .string facts.profileSha256), ("compatibility_manifest_sha256", .string facts.compatibilitySha256),
   ("canary_runtime_sha256", .string facts.runtimeSha256), ("runtime_sha256", .string facts.runtimeSha256),
   ("runtime_build_id", .string facts.runtimeBuildId), ("canary_tier", .string (ascii "C")), ("successful_runs", .integer 2),
   ("canary_attestation_sha256", .array [.string hash1, .string hash2]), ("approved_at", .string call.utcTimestamp)]

/-- The texts a canary is about have the lengths of hashes and IDs. -/
structure Measured (facts : CanaryFacts) : Prop where
  payloadId : facts.payload.payloadId.length ≤ 61
  buildId : facts.payload.metadata.buildId.length = 40
  librarySha256 : facts.payload.metadata.librarySha256.length = 64
  fingerprint : facts.fingerprint.length = 64
  profileSha256 : facts.profileSha256.length = 64
  compatibilitySha256 : facts.compatibilitySha256.length = 64
  runtimeSha256 : facts.runtimeSha256.length = 64
  runtimeBuildId : facts.runtimeBuildId.length = 40

variable {call facts} {generation hash1 hash2 library log path : Text}

theorem attestation_field {run : Nat} (h : (name, value) ∈ attestationContents call facts run log) :
    findMember (attestationDocument call facts run log) (ascii name) = some value := by
  refine findMember_makeObject ?_ h
  show [ascii "schema_version", ascii "status", ascii "canary_tier", ascii "run", ascii "run_id", ascii "payload_id",
    ascii "payload_fingerprint",
    ascii "profile_sha256", ascii "compatibility_manifest_sha256", ascii "runtime_sha256", ascii "runtime_build_id",
    ascii "readiness_log_sha256"].Nodup
  decide

theorem attestation_bound (hmeasured : Measured facts) (hlimits : Limits call path) {run : Nat} (hrun : run < 10)
    (hlog : log.length = 64) :
    documentBound (attestationDocument call facts run log) < 64 * 1024 := by
  have hone := @length_ascii_toString run 1 (by omega) (by omega)
  have hepoch := @length_ascii_toString call.epoch.val 19 (by omega) (by have := call.epoch.isLt; omega)
  have hpid := @length_ascii_toString call.pid 10 (by omega) (by have := hlimits.pid; omega)
  have hid := hmeasured.payloadId
  have hnames : (["schema_version", "status", "passed", "canary_tier", "C", "run", "run_id", "-", "payload_id",
      "payload_fingerprint",
    "profile_sha256", "compatibility_manifest_sha256", "runtime_sha256", "runtime_build_id", "readiness_log_sha256"].map
      fun name => (ascii name).length).sum ≤ 200 := by decide
  simp only [List.map_cons, List.map_nil, List.sum_cons, List.sum_nil] at hnames
  refine Nat.lt_of_le_of_lt (documentBound_makeObject _) ?_
  simp only [memberBound, valueBound, List.map_cons, List.map_nil, List.sum_cons, List.sum_nil, List.length_append,
    hmeasured.fingerprint,
    hmeasured.profileSha256, hmeasured.compatibilitySha256, hmeasured.runtimeSha256, hmeasured.runtimeBuildId, hlog]
  omega

theorem receipt_field (h : (name, value) ∈ receiptContents call facts generation library hash1 hash2) :
    findMember (receiptDocument call facts generation library hash1 hash2) (ascii name) = some value := by
  refine findMember_makeObject ?_ h
  show [ascii "schema_version", ascii "status", ascii "payload_id", ascii "generation", ascii "payload_path",
    ascii "elf_build_id",
    ascii "payload_sha256", ascii "payload_fingerprint", ascii "profile_sha256", ascii "compatibility_manifest_sha256",
    ascii "canary_runtime_sha256", ascii "runtime_sha256", ascii "runtime_build_id", ascii "canary_tier", ascii "successful_runs",
    ascii "canary_attestation_sha256", ascii "approved_at"].Nodup
  decide

theorem receipt_bound (hmeasured : Measured facts) (hlimits : Limits call path)
    (hgeneration : generation.length = 40) (hlibrary : library.length < 4096) (hhash1 : hash1.length = 64)
    (hhash2 : hash2.length = 64) :
    documentBound (receiptDocument call facts generation library hash1 hash2) < 64 * 1024 := by
  have hid := hmeasured.payloadId
  have hmoment := hlimits.utcTimestamp
  have hnames : (["schema_version", "status", "approved", "payload_id", "generation", "payload_path", "elf_build_id",
      "payload_sha256",
    "payload_fingerprint", "profile_sha256", "compatibility_manifest_sha256", "canary_runtime_sha256", "runtime_sha256",
      "runtime_build_id",
    "canary_tier", "C", "successful_runs", "canary_attestation_sha256", "approved_at"].map fun name =>
      (ascii name).length).sum ≤ 300 := by decide
  simp only [List.map_cons, List.map_nil, List.sum_cons, List.sum_nil] at hnames
  refine Nat.lt_of_le_of_lt (documentBound_makeObject _) ?_
  simp only [memberBound, valueBound, itemBound, List.map_cons, List.map_nil, List.sum_cons, List.sum_nil, hmeasured.buildId,
    hmeasured.librarySha256, hmeasured.fingerprint, hmeasured.profileSha256, hmeasured.compatibilitySha256,
    hmeasured.runtimeSha256, hmeasured.runtimeBuildId, hgeneration, hhash1, hhash2]
  omega

theorem attestation_ordered (run : Nat) (log : Text) : Ordered (attestationDocument call facts run log) := ordered_makeObject _

theorem receipt_ordered (generation library hash1 hash2 : Text) :
    Ordered (receiptDocument call facts generation library hash1 hash2) :=
  ordered_makeObject _

theorem attestation_values (run : Nat) (hrun : run < 10) (log : Text) : ∀ m ∈ attestationDocument call facts run log,
    DocumentValue m.2 := by
  refine mem_makeObject ?_
  intro f hf
  simp only [List.mem_cons, List.not_mem_nil, or_false] at hf
  rcases hf with rfl | rfl | rfl | rfl | rfl | rfl | rfl | rfl | rfl | rfl | rfl | rfl
  case inr.inr.inr.inl =>
    show run < 2 ^ 64
    omega
  all_goals simp [DocumentValue]

theorem receipt_values (generation library hash1 hash2 : Text) :
    ∀ m ∈ receiptDocument call facts generation library hash1 hash2, DocumentValue m.2 := by
  refine mem_makeObject ?_
  intro f hf
  simp only [List.mem_cons, List.not_mem_nil, or_false] at hf
  rcases hf with rfl | rfl | rfl | rfl | rfl | rfl | rfl | rfl | rfl | rfl | rfl | rfl | rfl | rfl | rfl | rfl | rfl <;>
    simp [DocumentValue]

end

/-! ## A library that writes -/

def sameItems : List Json → List Json → Bool
  | [], [] => true
  | .string a :: xs, .string b :: ys => a == b && sameItems xs ys
  | _, _ => false

def sameField : Json → Json → Bool
  | .unsigned a, .unsigned b => a == b
  | .integer a, .integer b => a == b
  | .string a, .string b => a == b
  | .array xs, .array ys => sameItems xs ys
  | _, _ => false

def sameDocument : Members → Members → Bool
  | [], [] => true
  | (name, value) :: rest, (name', value') :: rest' => name == name' && sameField value value' && sameDocument rest rest'
  | _, _ => false

theorem sameItems_eq {xs ys : List Json} (h : sameItems xs ys = true) : xs = ys := by
  fun_induction sameItems xs ys with
  | case1 => rfl
  | case2 a xs b ys ih =>
    simp only [Bool.and_eq_true, beq_iff_eq] at h
    rw [h.1, ih h.2]
  | case3 => cases h

theorem sameField_eq {a b : Json} (h : sameField a b = true) : a = b := by
  fun_cases sameField a b with
  | case1 | case2 | case3 => simpa [sameField] using h
  | case4 xs ys => rw [sameItems_eq h]
  | case5 => simp_all [sameField]

theorem sameDocument_eq {a b : Members} (h : sameDocument a b = true) : a = b := by
  fun_induction sameDocument a b with
  | case1 => rfl
  | case2 name value rest name' value' rest' ih =>
    simp only [Bool.and_eq_true, beq_iff_eq] at h
    rw [h.1.1, sameField_eq h.1.2, ih h.2]
  | case3 => cases h

def lines (parts : List Text) : Text := (parts.intersperse (ascii ",\n")).flatten

def prettyValue : Json → Text
  | .integer value => ascii (toString value)
  | .array items => ascii "[\n" ++ lines (items.map fun item => ascii "    " ++ flatValue item) ++ ascii "\n  ]"
  | value => flatValue value

/-- `dump(2)`, for a document of this depth. -/
def prettyText (members : Members) : Text :=
  ascii "\x7b\n" ++ lines (members.map fun m => ascii "  " ++ quoted m.1 ++ ascii ": " ++ prettyValue m.2) ++ ascii "\n\x7d"

/-- A library that reads some documents and writes others. -/
def prettyLibrary (documents written : List Members) : JsonLibrary where
  parse text :=
    match written.find? fun members => prettyText members ++ [0x0a] == text with
    | some members => some (.object (members.map fun m => (m.1, reread m.2)))
    | none => (compactLibrary documents).parse text
  dump
    | .object members => if written.any (sameDocument · members) then some (prettyText members) else none
    | _ => none

variable {documents written : List Members}

theorem prettyLibrary_dump
    (h : (prettyLibrary documents written).dump (.object members) = some text) :
    members ∈ written ∧ text = prettyText members := by
  simp only [prettyLibrary] at h
  split at h
  · rename_i hany
    obtain ⟨found, hmem, hsame⟩ := List.any_eq_true.mp hany
    cases h
    exact ⟨sameDocument_eq hsame ▸ hmem, rfl⟩
  · cases h

theorem prettyLibrary_parse (hdistinct : (written.map fun members => prettyText members ++ [0x0a]).Nodup)
    (hmem : members ∈ written) :
    (prettyLibrary documents written).parse
    (prettyText members ++ [0x0a]) = some (.object (members.map fun m => (m.1, reread m.2))) := by
  have hfind : written.find? (fun found => prettyText found ++ [0x0a] == prettyText members ++ [0x0a]) = some members :=
    find_document (fun members => prettyText members ++ [0x0a]) hdistinct hmem
  simp only [prettyLibrary, hfind]

theorem prettyLibrary_writes (hdistinct : (written.map fun members => prettyText members ++ [0x0a]).Nodup)
    (hbound : ∀ members ∈ written, (prettyText members).length ≤ documentBound members) :
    WritesDocuments (prettyLibrary documents written).dump (prettyLibrary documents written).parse := by
  constructor
  · intro members text _ _ h
    obtain ⟨hmem, rfl⟩ := prettyLibrary_dump h
    exact prettyLibrary_parse hdistinct hmem
  · intro members text _ _ h
    obtain ⟨hmem, rfl⟩ := prettyLibrary_dump h
    exact hbound members hmem

end Mocktail.Update

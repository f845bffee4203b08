/-
  Mocktail.Update.StoreFrames — what the operations on the store leave alone.

  An effect spares an entry if it cannot change it (`Spares`). Garbage collection spares every
  payload that a manifest names or that is to be kept. On a damaged store it is to delete
  nothing and say so; it does, but for two kinds of manifest (`Slips`): a file of no bytes
  passes for one that is absent, and a member of the wrong type makes the process abort.
-/

import Mocktail.Update.PayloadBinding
import Mocktail.Update.PayloadStore

namespace Mocktail.Update

open Mocktail.Lib Mocktail.Launch

attribute [local simp] Except.bind Bind.bind

/-! ## Programs of the store -/

theorem run_orReturn {α ρ : Type} (withError : Text → ρ) (part : StoreM α) (rest : α → StoreM ρ) (s : Disk) :
    orReturn withError part rest s = match part s with
      | (.ok a, log) => ((rest a (log.foldl Disk.act s)).1, log ++ (rest a (log.foldl Disk.act s)).2)
      | (.error (.error text), log) => (.ok (withError text), log)
      | (.error .abort, log) => (.error .abort, log) := by
  unfold orReturn
  rw [Program.run_bind]
  unfold Program.caught
  rcases part s with ⟨r, log⟩
  cases r with
  | ok a => rfl
  | error stop =>
    cases stop with
    | error text => simp
    | abort => simp

variable {α : Type}

@[simp] theorem run_reads (x : Disk → Outcome α) (s : Disk) : reads x s = (x s, []) := by
  unfold reads
  rw [Program.run_bind]
  simp

/-! ## Entries -/

theorem at_set_other {directory : Directory} {name other : Text} {state : Option Entry} (h : other ≠ name) :
    (directory.set name state).at other = directory.at other := by
  have hfilter : (directory.entries.filter (·.1 != name)).find? (·.1 == other) = directory.entries.find? (·.1 == other) := by
    rw [List.find?_filter]
    congr 1
    funext e
    by_cases he : e.1 = other
    · simp [he, h]
    · simp [he]
  cases state with
  | none => simp [Directory.at, Directory.set, setEntry, hfilter]
  | some entry => simp [Directory.at, Directory.set, setEntry, List.find?_append, hfilter, h.symm]

/-- The entry stays as it is. -/
def StoreEffect.Spares (area : Area) (name : Text) : StoreEffect → Prop
  | .entry a n _ => a ≠ area ∨ n ≠ name
  | .move source a target => (Area.payloads ≠ area ∨ source ≠ name) ∧ (a ≠ area ∨ target ≠ name)
  | .crash _ _ => False
  | _ => True

theorem disk_at_set {disk : Disk} {area a : Area} {name n : Text} {state : Option Entry} (h : a ≠ area ∨ n ≠ name) :
    ((disk.set a n state).entries area).at name = (disk.entries area).at name := by
  unfold Disk.set
  dsimp only
  split
  · rename_i harea
    rcases h with h | h
    · exact absurd harea.symm h
    · exact at_set_other h.symm
  · rfl

variable {name : Text} {area : Area}

theorem act_spares {e : StoreEffect} (h : e.Spares area name) (disk : Disk) :
    ((disk.act e).entries area).at name = (disk.entries area).at name := by
  cases e with
  | file key state => rfl
  | rename source target => rfl
  | entry a n state => exact disk_at_set h
  | move source a target =>
    unfold Disk.act
    dsimp only
    rw [disk_at_set h.1, disk_at_set h.2]
  | verified id => rfl
  | passed m text => rfl
  | crash files trees => exact h.elim

theorem foldl_spares {log : List StoreEffect} (h : ∀ e ∈ log, e.Spares area name) (disk : Disk) :
    ((log.foldl Disk.act disk).entries area).at name = (disk.entries area).at name := by
  induction log generalizing disk with
  | nil => rfl
  | cons e log ih => rw [List.foldl_cons, ih (fun d hd => h d (by simp [hd])), act_spares (h e (by simp))]

theorem emits_passThrough {ok : StoreEffect → Prop} (h : ∀ state, ok (.entry area name state))
    (trees : List PayloadTree) : Program.Emits ok (passThrough area name trees) := by
  induction trees with
  | nil => exact .pure _
  | cons tree trees ih => exact .bind (.emit (h _)) fun _ => ih

theorem emits_removePayloadTree {ok : StoreEffect → Prop} {call : Call} {site : Site}
    (h : ∀ state, ok (.entry area name state)) : Program.Emits ok (removePayloadTree call site area name) := by
  refine .bind .now fun disk => ?_
  split
  · exact .pure _
  · exact .bind (emits_passThrough h _) fun _ => .ite (.pure _) (.bind (.emit (h _)) fun _ => .pure _)

/-! ## Manifests that are there -/

/-- A readable manifest that names a payload. -/
def ValidManifest (lib : JsonLibrary) (file : Option StoreFile) (id : Text) : Prop :=
  ∃ bytes access synced contents, file = some (.data bytes access synced) ∧ bytes ≠ [] ∧ bytes.length ≤ 1024 * 1024 ∧
    parseManifest lib bytes = .ok ⟨id, contents⟩

def ZeroLength (file : Option StoreFile) : Prop := ∃ access synced, file = some (.data [] access synced)

def isNumber (value : Json) : Bool := (number value).isSome

/-- A member that the reader asks for is there with another type. -/
def wrongTypes (lib : JsonLibrary) (text : Text) : Bool :=
  match parseObject lib text with
  | none => false
  | some document =>
    !typed isNumber (findMember document (ascii "schema_version")) ||
      (match otherSchema document, findMember document (ascii "payload_id") with
       | .ok false, some (.string id) => validPayloadId id && !typed isText (findMember document (ascii "payload_path"))
       | _, _ => false)

def Mistyped (lib : JsonLibrary) (file : Option StoreFile) : Prop :=
  ∃ bytes access synced, file = some (.data bytes access synced) ∧ bytes ≠ [] ∧ bytes.length ≤ 1024 * 1024 ∧
    wrongTypes lib bytes = true

/-- The manifest is there and is no valid one. -/
def Damaged (lib : JsonLibrary) (disk : Disk) (m : Manifest) : Prop :=
  disk.files (.manifest m) ≠ none ∧ ∀ id, ¬ValidManifest lib (disk.files (.manifest m)) id

theorem otherSchema_error (document : Members) :
    (∃ stop, otherSchema document = .error stop) ↔ typed isNumber (findMember document (ascii "schema_version")) = false := by
  unfold otherSchema valueInt valueOr isNumber
  cases findMember document (ascii "schema_version") with
  | none => simp [typed, Except.map]
  | some value => cases hnumber : number value <;> simp [typed, hnumber, Except.map]

theorem valueOr_abort {members : Members} {name : String} {fallback : α} {read : Json → Option α} {stop : Stop}
    (h : valueOr members name fallback read = .error stop) : stop = .abort := by
  unfold valueOr at h
  split at h
  · cases h
  · split at h
    · cases h
      rfl
    · cases h

theorem differs_error (document : Members) (name : String) (expected : Text) :
    (∃ stop, differs document name expected = .error stop) ↔ typed isText (findMember document (ascii name)) = false := by
  unfold differs valueText valueOr isText
  cases findMember document (ascii name) with
  | none => simp [typed, Except.map]
  | some value => cases value <;> simp [typed, Except.map]

theorem map_error {α β : Type} {f : α → β} {x : Outcome α} {stop : Stop} (h : x.map f = .error stop) : x = .error stop := by
  cases x with
  | ok a => cases h
  | error e =>
    cases h
    rfl

theorem parseManifest_abort (lib : JsonLibrary) (text : Text) : parseManifest lib text = .error .abort ↔
    wrongTypes lib text = true := by
  unfold parseManifest wrongTypes
  cases hparse : parseObject lib text with
  | none => simp [fail]
  | some document =>
    have hschema := otherSchema_error document
    cases hother : otherSchema document with
    | error stop =>
      have habort : stop = .abort := valueOr_abort (map_error hother)
      have htyped := hschema.mp ⟨stop, hother⟩
      simp [htyped, habort, hother]
    | ok other =>
      have htyped : typed isNumber (findMember document (ascii "schema_version")) = true := by
        by_contra hno
        obtain ⟨stop, hstop⟩ := hschema.mpr (by simpa using hno)
        rw [hother] at hstop
        cases hstop
      cases other with
      | true => simp [htyped, fail, hother]
      | false =>
        cases hid : findMember document (ascii "payload_id") with
        | none => simp [htyped, fail, hother, hid]
        | some value =>
          cases value with
          | string id =>
            have hdiffers := differs_error document "payload_path" (ascii "payloads/" ++ id)
            cases hvalid : validPayloadId id with
            | false => simp [htyped, fail, hother, hid, hvalid]
            | true =>
              cases hpath : differs document "payload_path" (ascii "payloads/" ++ id) with
              | error stop =>
                have habort : stop = .abort := valueOr_abort (map_error hpath)
                have htext := hdiffers.mp ⟨stop, hpath⟩
                simp [htyped, hother, hid, hvalid, hpath, habort, htext]
              | ok other =>
                have htext : typed isText (findMember document (ascii "payload_path")) = true := by
                  by_contra hno
                  obtain ⟨stop, hstop⟩ := hdiffers.mpr (by simpa using hno)
                  rw [hpath] at hstop
                  cases hstop
                cases other <;> simp [htyped, hother, hid, hvalid, hpath, htext, fail, pure, Except.pure]
          | _ => simp [htyped, fail, hother, hid]

variable {identity : ManifestIdentity}

theorem parseManifest_ok {lib : JsonLibrary} {text : Text} (h : parseManifest lib text = .ok identity) :
    identity.contents = text ∧ validPayloadId identity.payloadId = true := by
  unfold parseManifest at h
  split at h
  · cases h
  · obtain ⟨other, -, h⟩ := bind_ok h
    split at h
    · cases h
    · split at h
      · split at h
        · cases h
        · rename_i hvalid
          obtain ⟨differs, -, h⟩ := bind_ok h
          split at h
          · cases h
          · cases h
            exact ⟨rfl, by simpa using hvalid⟩
      · cases h

/-- No step of reading a file fails. -/
def Undisturbed (call : Call) (path : Text) : Prop :=
  call.fails (.openFile .manifest path) = false ∧ call.fails (.statFile .manifest path) = false ∧
    call.fails (.readFile .manifest path) = false

theorem readRegular_ok {call : Call} {path : Text} {maximum : Nat} {missingOk : Bool} {file : Option StoreFile} {bytes : Bytes} :
    readRegular call path maximum missingOk file = .ok bytes ↔
      (file = none ∧ missingOk = true ∧ call.fails (.openFile .manifest path) = false ∧ bytes = []) ∨
        ∃ access synced, file = some (.data bytes access synced) ∧ Undisturbed call path ∧ bytes.length ≤ maximum := by
  unfold readRegular Undisturbed
  cases hopen : call.fails (.openFile .manifest path) with
  | true => simp
  | false =>
    cases file with
    | none =>
      cases missingOk with
      | false => simp
      | true =>
        simp only [Bool.false_eq_true, ↓reduceIte, Except.ok.injEq, true_and, reduceCtorEq, false_and, exists_false, or_false]
        exact eq_comm
    | some file =>
      cases file with
      | unopenable => simp
      | directory => simp
      | special => simp
      | unreadable size access =>
        simp only [Bool.false_eq_true, ↓reduceIte]
        split <;> simp
      | data data access synced =>
        simp only [Bool.false_eq_true, ↓reduceIte]
        split
        · rename_i hstat
          rw [Bool.or_eq_true, decide_eq_true_eq] at hstat
          simp only [reduceCtorEq, false_and, Option.some.injEq, StoreFile.data.injEq, false_or, false_iff, not_exists, not_and]
          intro access' synced' heq hquiet hlen
          rcases hstat with hstat | hstat
          · rw [hquiet.2.1] at hstat
            cases hstat
          · rw [heq.1] at hstat
            omega
        · rename_i hstat
          simp only [Bool.or_eq_true, decide_eq_true_eq, not_or, Bool.not_eq_true, not_lt] at hstat
          split
          · rename_i hread
            simp [hread]
          · rename_i hread
            simp only [Bool.not_eq_true] at hread
            constructor
            · intro h
              cases h
              exact .inr ⟨access, synced, rfl, ⟨trivial, hstat.1, hread⟩, hstat.2⟩
            · intro h
              rcases h with ⟨h, -⟩ | ⟨access', synced', heq, -⟩
              · cases h
              · cases heq
                rfl

variable {m : Manifest} {id : Text}

section
variable (lib : JsonLibrary) (call : Call) (root : Text) (disk : Disk)

def manifestPath (m : Manifest) : Text := assetPath root (ascii m.file)

/-- The reader goes past the manifest. -/
def Passes (m : Manifest) : Prop :=
  (disk.files (.manifest m) = none ∧ call.fails (.openFile .manifest (manifestPath root m)) = false) ∨
    Undisturbed call (manifestPath root m) ∧
      (ZeroLength (disk.files (.manifest m)) ∨ ∃ id, ValidManifest lib (disk.files (.manifest m)) id)

/-- The reader aborts at the manifest. -/
def Aborts (m : Manifest) : Prop := Undisturbed call (manifestPath root m) ∧ Mistyped lib (disk.files (.manifest m))

variable {lib call root disk}

theorem readManifest_abort : readManifest lib call root m true disk = .error .abort ↔ Aborts lib call root disk m := by
  unfold readManifest Aborts
  constructor
  · intro h
    cases hread : readRegular call (assetPath root (ascii m.file)) (1024 * 1024) true (disk.files (.manifest m)) with
    | error text => simp [hread, outcome] at h
    | ok bytes =>
      simp only [hread, outcome, Bind.bind, Except.bind] at h
      split at h
      · cases h
      · rename_i hne
        rcases readRegular_ok.mp hread with ⟨-, -, -, hnil⟩ | ⟨access, synced, hfile, hquiet, hlen⟩
        · exact absurd hnil hne
        · exact ⟨hquiet, bytes, access, synced, hfile, hne, hlen, (parseManifest_abort lib bytes).mp h⟩
  · intro h
    obtain ⟨hquiet, bytes, access, synced, hfile, hne, hlen, hwrong⟩ := h
    have hread := (@readRegular_ok _ _ _ true _ _).mpr (.inr ⟨access, synced, hfile, hquiet, hlen⟩)
    unfold manifestPath at hread
    simp only [hread, outcome, Bind.bind, Except.bind, hne, if_false]
    exact (parseManifest_abort lib bytes).mpr hwrong

theorem readManifest_ok {missingOk : Bool}
    (h : readManifest lib call root m missingOk disk = .ok identity) :
    (disk.files (.manifest m) = none ∧ missingOk = true ∧ call.fails (.openFile .manifest (manifestPath root m)) = false ∧
        identity = ⟨[], []⟩) ∨
      Undisturbed call (manifestPath root m) ∧ ((ZeroLength (disk.files (.manifest m)) ∧ identity = ⟨[], []⟩) ∨
        ∃ access synced, disk.files (.manifest m) = some (.data identity.contents access synced) ∧ identity.contents ≠ [] ∧
          identity.contents.length ≤ 1024 * 1024 ∧ parseManifest lib identity.contents = .ok identity) := by
  unfold readManifest at h
  cases hread : readRegular call (assetPath root (ascii m.file)) (1024 * 1024) missingOk (disk.files (.manifest m)) with
  | error text =>
    rw [hread] at h
    cases h
  | ok bytes =>
    simp only [hread, outcome, Bind.bind, Except.bind] at h
    rcases readRegular_ok.mp hread with ⟨hfile, hmissing, hopen, rfl⟩ | ⟨access, synced, hfile, hquiet, hlen⟩
    · rw [if_pos rfl] at h
      cases h
      exact .inl ⟨hfile, hmissing, hopen, rfl⟩
    · right
      refine ⟨hquiet, ?_⟩
      split at h
      · rename_i hnil
        cases h
        rw [hnil] at hfile
        exact .inl ⟨⟨access, synced, hfile⟩, rfl⟩
      · rename_i hne
        have hcontents := (parseManifest_ok h).1
        rw [hcontents]
        exact .inr ⟨access, synced, hfile, hne, hlen, h⟩

theorem passes_of_readManifest (h : readManifest lib call root m true disk = .ok identity) :
    Passes lib call root disk m := by
  rcases readManifest_ok h with ⟨hfile, -, hopen, -⟩ | ⟨hquiet, ⟨hzero, -⟩ | ⟨access, synced, hfile, hne, hlen, hparse⟩⟩
  · exact .inl ⟨hfile, hopen⟩
  · exact .inr ⟨hquiet, .inl hzero⟩
  · exact .inr ⟨hquiet, .inr ⟨identity.payloadId, identity.contents, access, synced, identity.contents, hfile, hne, hlen, hparse⟩⟩

theorem readManifest_of_passes (h : Passes lib call root disk m) :
    ∃ identity, readManifest lib call root m true disk = .ok identity := by
  unfold readManifest
  rcases h with ⟨hfile, hopen⟩ | ⟨hquiet,
    ⟨access, synced, hfile⟩ | ⟨id, bytes, access, synced, contents, hfile, hne, hlen, hparse⟩⟩
  · have hread := (@readRegular_ok _ _ (1024 * 1024) _ _ _).mpr (.inl ⟨hfile, rfl, hopen, rfl⟩)
    unfold manifestPath at hread
    exact ⟨⟨[], []⟩, by simp [hread, outcome, pure, Except.pure]⟩
  · have hread := (@readRegular_ok _ _ _ true _ _).mpr (.inr ⟨access, synced, hfile, hquiet, Nat.zero_le (1024 * 1024)⟩)
    unfold manifestPath at hread
    exact ⟨⟨[], []⟩, by simp [hread, outcome, pure, Except.pure]⟩
  · have hread := (@readRegular_ok _ _ _ true _ _).mpr (.inr ⟨access, synced, hfile, hquiet, hlen⟩)
    unfold manifestPath at hread
    exact ⟨⟨id, contents⟩, by simp [hread, outcome, hne, hparse]⟩

/-- What a manifest names is what its reader finds. -/
theorem readManifest_names
    (h : readManifest lib call root m true disk = .ok identity) (hvalid : ValidManifest lib (disk.files (.manifest m)) id) :
    identity.payloadId = id := by
  obtain ⟨bytes, access, synced, contents, hfile, hne, -, hparse⟩ := hvalid
  rcases readManifest_ok h with ⟨hnone, -⟩ | ⟨-, ⟨⟨access', synced', hzero⟩, -⟩ | ⟨access', synced', hfile', -, -, hparse'⟩⟩
  · rw [hfile] at hnone
    cases hnone
  · rw [hfile] at hzero
    cases hzero
    exact absurd rfl hne
  · rw [hfile] at hfile'
    cases hfile'
    rw [hparse] at hparse'
    cases hparse'
    rfl

end

/-! ## Garbage collection -/

theorem ends_passThrough (area : Area) (name : Text) (trees : List PayloadTree) :
    Program.Ends (fun _ => True) (passThrough area name trees) := by
  induction trees with
  | nil => exact .pure trivial
  | cons tree trees ih => exact .bind (.emit _) fun _ _ => ih

theorem ends_removePayloadTree (call : Call) (site : Site) (area : Area) (name : Text) :
    Program.Ends (fun _ => True) (removePayloadTree call site area name) := by
  refine .bind .now fun disk _ => ?_
  split
  · exact .pure trivial
  · exact .bind (ends_passThrough _ _ _) fun _ _ => .ite (.pure trivial) (.bind (.emit _) fun _ _ => .pure trivial)

theorem ends_removeAll (call : Call) (trees : List (Area × Text)) :
    Program.Ends (fun result => result.error = none) (removeAll call trees) := by
  induction trees with
  | nil => exact .pure rfl
  | cons tree trees ih =>
    refine .bind (ends_removePayloadTree _ _ _ _) fun freed _ => .bind ih fun result herror => ?_
    cases freed with
    | none => exact .pure herror
    | some bytes => exact .pure herror

theorem emits_removeAll {call : Call} {trees : List (Area × Text)} (h : (area, name) ∉ trees) :
    Program.Emits (StoreEffect.Spares area name) (removeAll call trees) := by
  induction trees with
  | nil => exact .pure _
  | cons tree trees ih =>
    obtain ⟨a, n⟩ := tree
    have hspares (state : Option Entry) : StoreEffect.Spares area name (.entry a n state) := by
      by_cases harea : a = area
      · right
        intro hname
        exact h (by rw [harea, hname]; simp)
      · exact .inl harea
    refine .bind (emits_removePayloadTree hspares) fun freed => .bind (ih fun hmem => h (by simp [hmem])) fun result => ?_
    cases freed with
    | none => exact .pure _
    | some bytes => exact .pure _

theorem superseded_payloads {call : Call} {retained : List Text} {disk : Disk}
    (h : (Area.payloads, name) ∈ superseded call retained disk) : collectable retained name = true := by
  unfold superseded at h
  rcases List.mem_append.mp h with h | h
  · obtain ⟨e, he, heq⟩ := List.mem_map.mp h
    cases heq
    have hkeep := (List.mem_filter.mp he).2
    rw [Bool.and_eq_true] at hkeep
    exact hkeep.2
  · obtain ⟨e, -, heq⟩ := List.mem_map.mp h
    cases heq

section
variable (host : Host) (store : PayloadStore) (call : Call) (keep : List Text) (disk : Disk)

/-- A garbage collection from its first step to its last. -/
theorem run_collectGarbage : collectGarbage host store call keep disk =
    match storeLock call, retainedPayloads host store call keep disk with
    | .error (.error text), _ => (.ok { error := some text }, [])
    | .error .abort, _ => (.error .abort, [])
    | .ok _, .error (.error text) => (.ok { error := some text }, [])
    | .ok _, .error .abort => (.error .abort, [])
    | .ok _, .ok retained =>
      if call.fails .listPayloads then (.ok { error := some (ascii "cannot inspect the payload store") }, [])
      else removeAll call (superseded call retained disk) disk := by
  unfold collectGarbage
  rw [run_orReturn, Program.run_done]
  cases storeLock call with
  | error stop =>
    cases stop with
    | error text => rfl
    | abort => rfl
  | ok u =>
    simp only [List.foldl_nil, List.nil_append]
    rw [run_orReturn, run_reads]
    cases retainedPayloads host store call keep disk with
    | error stop =>
      cases stop with
      | error text => rfl
      | abort => rfl
    | ok retained =>
      simp only [List.foldl_nil, List.nil_append]
      split
      · rfl
      · rw [Program.now_bind]

/-- The disk after the collection. -/
def afterGarbage : Disk := (collectGarbage host store call keep disk).2.foldl Disk.act disk

/-- Garbage collection keeps what is named, and does nothing but report on a damaged store. -/
structure GarbageSafe : Prop where
  keeps : ∀ id, isStaging id = false → (id ∈ keep ∨ ∃ m, ValidManifest host.lib (disk.files (.manifest m)) id) →
    ((afterGarbage host store call keep disk).entries .payloads).at id = (disk.entries .payloads).at id
  reports : (∃ m, Damaged host.lib disk m) → (collectGarbage host store call keep disk).2 = [] ∧
    ∃ result, (collectGarbage host store call keep disk).1 = .ok result ∧ result.error ≠ none

/-- The collector goes past a manifest of no bytes, or aborts at one with a member of the wrong type. -/
def Slips : Prop :=
  storeLock call = .ok () ∧ (Aborts host.lib call store.root disk .current ∨
    Passes host.lib call store.root disk .current ∧ (Aborts host.lib call store.root disk .previousGood ∨
      Passes host.lib call store.root disk .previousGood ∧
        (ZeroLength (disk.files (.manifest .current)) ∨ ZeroLength (disk.files (.manifest .previousGood))) ∧
        call.fails .listPayloads = false))

variable {host store call keep disk}

theorem retainedPayloads_mem {retained : List Text} (h : retainedPayloads host store call keep disk = .ok retained)
    (hid : id ∈ keep ∨ ∃ m, ValidManifest host.lib (disk.files (.manifest m)) id) : id ∈ retained := by
  obtain ⟨current, hcurrent, h⟩ := bind_ok h
  obtain ⟨previous, hprevious, h⟩ := bind_ok h
  cases h
  rcases hid with hkeep | ⟨m, hvalid⟩
  · exact List.mem_append_left _ hkeep
  · have hne : id ≠ [] := by
      intro hnil
      obtain ⟨bytes, access, synced, contents, -, -, -, hparse⟩ := hvalid
      have := (parseManifest_ok hparse).2
      rw [hnil] at this
      cases this
    apply List.mem_append_right
    cases m with
    | current =>
      have hname := readManifest_names hcurrent hvalid
      simp [hname, hne]
    | previousGood =>
      have hname := readManifest_names hprevious hvalid
      simp [hname, hne]

theorem garbage_keeps (hstaging : isStaging id = false)
    (hid : id ∈ keep ∨ ∃ m, ValidManifest host.lib (disk.files (.manifest m)) id) :
    ((afterGarbage host store call keep disk).entries .payloads).at id = (disk.entries .payloads).at id := by
  unfold afterGarbage
  rw [run_collectGarbage]
  split
  · rfl
  · rfl
  · rfl
  · rfl
  · rename_i retained hretained
    split
    · rfl
    · have hmem := retainedPayloads_mem hretained hid
      refine foldl_spares (emits_removeAll ?_ disk) disk
      intro hsuperseded
      have hcollect := superseded_payloads hsuperseded
      simp [collectable, hstaging, hmem] at hcollect

theorem zeroLength_damaged (h : ZeroLength (disk.files (.manifest m))) : Damaged host.lib disk m := by
  obtain ⟨access, synced, hfile⟩ := h
  refine ⟨by rw [hfile]; simp, ?_⟩
  intro id hvalid
  obtain ⟨bytes, access', synced', contents, hfile', hne, -⟩ := hvalid
  rw [hfile] at hfile'
  cases hfile'
  exact hne rfl

theorem mistyped_damaged (h : Mistyped host.lib (disk.files (.manifest m))) : Damaged host.lib disk m := by
  obtain ⟨bytes, access, synced, hfile, -, -, hwrong⟩ := h
  refine ⟨by rw [hfile]; simp, ?_⟩
  intro id hvalid
  obtain ⟨bytes', access', synced', contents, hfile', -, -, hparse⟩ := hvalid
  rw [hfile] at hfile'
  cases hfile'
  rw [(parseManifest_abort host.lib bytes).mpr hwrong] at hparse
  cases hparse

/-- A damaged manifest that the reader passes has no bytes. -/
theorem zeroLength_of_passes (hdamaged : Damaged host.lib disk m) (hpasses : Passes host.lib call store.root disk m) :
    ZeroLength (disk.files (.manifest m)) := by
  rcases hpasses with ⟨hnone, -⟩ | ⟨-, hzero | ⟨id, hvalid⟩⟩
  · exact absurd hnone hdamaged.1
  · exact hzero
  · exact absurd hvalid (hdamaged.2 id)

theorem slips_not_safe (h : Slips host store call disk) : ¬GarbageSafe host store call keep disk := by
  intro hsafe
  obtain ⟨hlock, h⟩ := h
  have hrun := run_collectGarbage host store call keep disk
  rw [hlock] at hrun
  rcases h with haborts | ⟨hpasses, haborts | ⟨hpasses', hzero, hlist⟩⟩
  · obtain ⟨-, result, hresult, -⟩ := hsafe.reports ⟨.current, mistyped_damaged haborts.2⟩
    have hretained : retainedPayloads host store call keep disk = .error .abort := by
      unfold retainedPayloads
      rw [readManifest_abort.mpr haborts]
      rfl
    rw [hrun, hretained] at hresult
    cases hresult
  · obtain ⟨-, result, hresult, -⟩ := hsafe.reports ⟨.previousGood, mistyped_damaged haborts.2⟩
    obtain ⟨current, hcurrent⟩ := readManifest_of_passes hpasses
    have hretained : retainedPayloads host store call keep disk = .error .abort := by
      unfold retainedPayloads
      rw [hcurrent, readManifest_abort.mpr haborts]
      rfl
    rw [hrun, hretained] at hresult
    cases hresult
  · have hdamaged : ∃ m, Damaged host.lib disk m := by
      rcases hzero with hzero | hzero
      · exact ⟨.current, zeroLength_damaged hzero⟩
      · exact ⟨.previousGood, zeroLength_damaged hzero⟩
    obtain ⟨-, result, hresult, herror⟩ := hsafe.reports hdamaged
    obtain ⟨current, hcurrent⟩ := readManifest_of_passes hpasses
    obtain ⟨previous, hprevious⟩ := readManifest_of_passes hpasses'
    have hretained : retainedPayloads host store call keep disk =
        .ok (keep ++ [current.payloadId, previous.payloadId].filter (· ≠ [])) := by
      unfold retainedPayloads
      rw [hcurrent, hprevious]
      rfl
    obtain ⟨found, log, hremoved, hnone⟩ := ends_removeAll call
      (superseded call (keep ++ [current.payloadId, previous.payloadId].filter (· ≠ [])) disk) disk
    rw [hrun, hretained] at hresult
    simp only [hlist, Bool.false_eq_true, ↓reduceIte, hremoved] at hresult
    cases hresult
    exact herror hnone

theorem reports_unless_slips (h : ¬Slips host store call disk) (hdamaged : ∃ m, Damaged host.lib disk m) :
    (collectGarbage host store call keep disk).2 = [] ∧
      ∃ result, (collectGarbage host store call keep disk).1 = .ok result ∧ result.error ≠ none := by
  rw [run_collectGarbage]
  cases hlock : storeLock call with
  | error stop =>
    cases stop with
    | error text => exact ⟨rfl, _, rfl, by simp⟩
    | abort =>
      unfold storeLock at hlock
      split at hlock
      · cases hlock
      · split at hlock
        · cases hlock
        · cases hlock
  | ok u =>
    cases hretained : retainedPayloads host store call keep disk with
    | error stop =>
      cases stop with
      | error text => exact ⟨rfl, _, rfl, by simp⟩
      | abort =>
        -- One of the two readers aborts: the first, or the second when the first has gone on.
        exfalso
        apply h
        refine ⟨hlock, ?_⟩
        unfold retainedPayloads at hretained
        cases hcurrent : readManifest host.lib call store.root .current true disk with
        | error stop =>
          rw [hcurrent] at hretained
          cases hretained
          exact .inl (readManifest_abort.mp hcurrent)
        | ok current =>
          rw [hcurrent] at hretained
          cases hprevious : readManifest host.lib call store.root .previousGood true disk with
          | error stop =>
            simp only [hprevious, Bind.bind, Except.bind, Except.error.injEq] at hretained
            subst hretained
            exact .inr ⟨passes_of_readManifest hcurrent, .inl (readManifest_abort.mp hprevious)⟩
          | ok previous =>
            simp only [hprevious, Bind.bind, Except.bind, pure, Except.pure, reduceCtorEq] at hretained
    | ok retained =>
      obtain ⟨current, hcurrent, hretained⟩ := bind_ok hretained
      obtain ⟨previous, hprevious, -⟩ := bind_ok hretained
      have hpasses := passes_of_readManifest hcurrent
      have hpasses' := passes_of_readManifest hprevious
      cases hlist : call.fails .listPayloads with
      | true => exact ⟨rfl, _, rfl, by simp⟩
      | false =>
        exfalso
        apply h
        refine ⟨hlock, .inr ⟨hpasses, .inr ⟨hpasses', ?_, hlist⟩⟩⟩
        obtain ⟨m, hdamaged⟩ := hdamaged
        cases m with
        | current => exact .inl (zeroLength_of_passes hdamaged hpasses)
        | previousGood => exact .inr (zeroLength_of_passes hdamaged hpasses')

end

/-- Garbage collection is safe but for manifests of no bytes and members of the wrong type. -/
theorem garbage_safe_iff (host : Host) (store : PayloadStore) (call : Call) (keep : List Text) (disk : Disk) :
    GarbageSafe host store call keep disk ↔ ¬Slips host store call disk := by
  constructor
  · intro hsafe hslips
    exact slips_not_safe hslips hsafe
  · intro hslips
    exact ⟨fun id hstaging hid => garbage_keeps hstaging hid, reports_unless_slips hslips⟩

def smallStore : PayloadStore := { root := ascii "/s", compatibilityManifest := ascii "/c", runtimeBinary := ascii "/r" }

def smallPayloadHost : Host := { sha256 := tableSha256 smallSha256, lib := smallLibrary, abi := guestX8664 }

/-- A store with one payload, whose current manifest has lost its bytes. -/
def truncatedDisk : Disk where
  files
    | .manifest .current => some (.data [] newFile true)
    | _ => none
  entries
    | .payloads => ⟨[(ascii "7-" ++ smallBuildId, .tree ⟨smallPayload (ascii "then"), 0, true, false⟩)], List.nodup_singleton _⟩
    | .quarantine => .empty

/-- The payload is deleted and no error is reported. -/
theorem truncated_manifest_deletes : ¬GarbageSafe smallPayloadHost smallStore quietCall [] truncatedDisk := by
  intro hsafe
  have hdamaged : Damaged smallPayloadHost.lib truncatedDisk .current := zeroLength_damaged ⟨newFile, true, rfl⟩
  obtain ⟨-, result, hresult, herror⟩ := hsafe.reports ⟨.current, hdamaged⟩
  have hrun : (collectGarbage smallPayloadHost smallStore quietCall [] truncatedDisk).1 =
      .ok { removed := [ascii "7-" ++ smallBuildId], freedBytes := 0, error := none } := by decide +kernel
  rw [hrun] at hresult
  cases hresult
  exact herror rfl

end Mocktail.Update

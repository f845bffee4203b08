/-
  Mocktail.Runtime.ConfigFile — flattening the runtime configuration (`runtime_config_file.cc`).

  A document is a tree. `LoadYaml` stores each scalar of the sections it knows under the keys that
  lead to it, joined by dots: one level deep, and up to three under `integrations`. A key is
  refused where the same mapping has it twice. That is a test of one key, and what is stored is
  the joined text: under `integrations` a key with a dot in it may read like two keys.

  The result of loading is the assignments in the order they are made. Reading the file and the
  YAML parser are left out, and so is what a refused document has stored before.

  Proved (`loaded_once_iff`): an accepted document stores no key from two scalars, and loads the
  same values however the entries of its mappings are ordered, exactly if no two scalars under
  `integrations` are reached by the same parts once the keys are cut at their dots.
-/

import Mathlib.Data.List.Induction
import Mathlib.Data.List.Nodup
import Mathlib.Data.List.Perm.Basic
import Mocktail.Launch.Json

namespace Mocktail.Runtime.ConfigFile

open Mocktail.Launch (Text ascii)

inductive Yaml where
  | scalar (text : Text)
  | sequence (items : List Yaml)
  | mapping (pairs : List (Yaml × Yaml))

/-- `(*values)[key] = value`; `fromNode` if the value is that of a scalar of the document. -/
structure Assignment where
  key : Text
  value : Text
  fromNode : Bool
  deriving DecidableEq, Repr

abbrev Log := List Assignment

/-- `Scalar`: empty for a node that is none. -/
def scalarText : Yaml → Text
  | .scalar text => text
  | _ => []

def kDot : UInt8 := 0x2e

def joined (section_ key : Text) : Text := section_ ++ kDot :: key

/-- The loop over the entries of a mapping, with the keys it has seen. -/
def readPairs (badKey : Text) (duplicate : Text → Text) (entry : Text → Yaml → Except Text Log) :
    List Text → List (Yaml × Yaml) → Except Text Log
  | _, [] => .ok []
  | seen, (keyNode, value) :: rest =>
    let key := scalarText keyNode
    if key = [] then .error badKey
    else if key ∈ seen then .error (duplicate key)
    else do
      let log ← entry key value
      let more ← readPairs badKey duplicate entry (key :: seen) rest
      return log ++ more

/-- The body of `ReadNestedMapping`; `deeper` reads the mappings below, if there may be any. -/
def readLevel (deeper : Option (Text → Yaml → Except Text Log)) (section_ : Text) : Yaml → Except Text Log
  | .mapping pairs =>
    readPairs (section_ ++ ascii " contains a non-scalar or empty key")
      (fun key => section_ ++ ascii " contains duplicate key: " ++ key)
      (fun key value =>
        match value, deeper with
        | .scalar text, _ => .ok [⟨joined section_ key, text, true⟩]
        | .mapping _, some read => read (joined section_ key) value
        | _, _ => .error (joined section_ key ++ ascii " must be a scalar")) [] pairs
  | _ => .error (section_ ++ ascii " must be a mapping")

def readMapping : Text → Yaml → Except Text Log := readLevel none

def readNestedMapping : Nat → Text → Yaml → Except Text Log
  | 0 => readLevel none
  | remainingDepth + 1 => readLevel (some (readNestedMapping remainingDepth))

def kVersion : Text := ascii "version"
def kDevice : Text := ascii "device"
def kIntegrations : Text := ascii "integrations"

def kSections : List Text :=
  [ascii "runtime", ascii "appearance", ascii "auth", ascii "graphics", ascii "performance", ascii "audio", ascii "window",
    ascii "input", ascii "compatibility", ascii "network"]

def readTopLevel (key : Text) (value : Yaml) : Except Text Log :=
  if key = kVersion then
    match value with
    | .scalar text => .ok [⟨kVersion, text, true⟩]
    | _ => .error (ascii "version must be a scalar")
  else if key = kDevice then
    match value with
    | .scalar text => .ok [⟨kDevice, text, true⟩]
    | .mapping _ => (readMapping key value).map fun log => ⟨joined kDevice (ascii "__mapping"), ascii "true", false⟩ :: log
    | _ => .error (ascii "device must be a preset scalar or detailed mapping")
  else if key ∈ kSections then readMapping key value
  else if key = kIntegrations then readNestedMapping 2 key value
  else .ok []

/-- `LoadYaml` from the root node on. -/
def loadYaml : Option Yaml → Except Text Log
  | some (.mapping pairs) =>
    readPairs (ascii "runtime configuration has an empty or duplicate key")
      (fun _ => ascii "runtime configuration has an empty or duplicate key") readTopLevel [] pairs
  | _ => .error (ascii "runtime configuration root must be a mapping")

def valueMap (log : Log) : Text → Option Text :=
  log.foldl (fun values a => Function.update values a.key (some a.value)) fun _ => none

/-! ## What is asked of a document -/

/-- One mapping anywhere in the document has its entries in another order. -/
inductive Reorder : Yaml → Yaml → Prop where
  | entries {pairs pairs' : List (Yaml × Yaml)} (h : pairs.Perm pairs') : Reorder (.mapping pairs) (.mapping pairs')
  | value {key value value' : Yaml} (before after : List (Yaml × Yaml)) (h : Reorder value value') :
      Reorder (.mapping (before ++ (key, value) :: after)) (.mapping (before ++ (key, value') :: after))
  | key {key key' value : Yaml} (before after : List (Yaml × Yaml)) (h : Reorder key key') :
      Reorder (.mapping (before ++ (key, value) :: after)) (.mapping (before ++ (key', value) :: after))
  | item {item item' : Yaml} (before after : List Yaml) (h : Reorder item item') :
      Reorder (.sequence (before ++ item :: after)) (.sequence (before ++ item' :: after))

/-- The keys stored from scalars: one for each scalar that is read. -/
def nodeKeys (log : Log) : List Text := (log.filter (·.fromNode)).map (·.key)

/-- No key is stored from two scalars, and the order of entries does not matter. -/
def LoadedOnce (root : Yaml) (log : Log) : Prop :=
  (nodeKeys log).Nodup ∧
    ∀ root', Relation.ReflTransGen Reorder root root' → ∃ log', loadYaml (some root') = .ok log' ∧ valueMap log' = valueMap log

/-- The keys that lead to the scalars of a tree, through at most so many mappings. -/
def scalarPaths : Nat → Yaml → List (List Text)
  | _, .scalar _ => [[]]
  | depth + 1, .mapping pairs => pairs.flatMap fun pair => (scalarPaths depth pair.2).map (scalarText pair.1 :: ·)
  | _, _ => []

def dotParts (path : List Text) : List Text := path.flatMap (·.splitOn kDot)

def integrationParts : Yaml → List (List Text)
  | .mapping pairs => pairs.flatMap fun pair =>
      if scalarText pair.1 = kIntegrations then (scalarPaths 3 pair.2).map dotParts else []
  | _ => []

/-! ## Reading a mapping -/

section
variable {badKey : Text} {duplicate : Text → Text} {entry : Text → Yaml → Except Text Log} {pairs pairs' : List (Yaml × Yaml)}
  {log : Log}

/-- What an entry stores. -/
def logOf (entry : Text → Yaml → Except Text Log) (pair : Yaml × Yaml) : Log :=
  match entry (scalarText pair.1) pair.2 with
  | .ok log => log
  | .error _ => []

structure Accepts (entry : Text → Yaml → Except Text Log) (pairs : List (Yaml × Yaml)) : Prop where
  keys : ∀ pair ∈ pairs, scalarText pair.1 ≠ []
  distinct : (pairs.map fun pair => scalarText pair.1).Nodup
  entries : ∀ pair ∈ pairs, entry (scalarText pair.1) pair.2 = .ok (logOf entry pair)

theorem logOf_ok {pair : Yaml × Yaml} {log : Log} (h : entry (scalarText pair.1) pair.2 = .ok log) : logOf entry pair = log := by
  rw [logOf, h]

theorem readPairs_ok_iff {seen : List Text} :
    readPairs badKey duplicate entry seen pairs = .ok log ↔
      Accepts entry pairs ∧ (∀ pair ∈ pairs, scalarText pair.1 ∉ seen) ∧ log = pairs.flatMap (logOf entry) := by
  induction pairs generalizing seen log with
  | nil =>
    constructor
    · intro h
      exact ⟨⟨nofun, List.nodup_nil, nofun⟩, nofun, by simpa [readPairs, eq_comm] using h⟩
    · rintro ⟨-, -, rfl⟩
      rfl
  | cons pair rest ih =>
    obtain ⟨keyNode, value⟩ := pair
    simp only [readPairs]
    constructor
    · intro h
      split at h
      · cases h
      · rename_i hkey
        split at h
        · cases h
        · rename_i hseen
          cases hentry : entry (scalarText keyNode) value with
          | error text =>
            rw [hentry] at h
            cases h
          | ok first =>
            rw [hentry] at h
            cases hmore : readPairs badKey duplicate entry (scalarText keyNode :: seen) rest with
            | error text =>
              simp only [hmore] at h
              cases h
            | ok more =>
              simp only [hmore] at h
              obtain rfl : first ++ more = log := by injection h
              obtain ⟨hok, hrest, rfl⟩ := ih.mp hmore
              have hfirst : logOf entry (keyNode, value) = first := logOf_ok hentry
              refine ⟨⟨?_, ?_, ?_⟩, ?_, ?_⟩
              · exact List.forall_mem_cons.mpr ⟨hkey, hok.keys⟩
              · rw [List.map_cons, List.nodup_cons]
                refine ⟨?_, hok.distinct⟩
                rintro hmem
                obtain ⟨pair, hpair, heq⟩ := List.mem_map.mp hmem
                exact hrest pair hpair (by rw [heq]; exact List.mem_cons_self)
              · refine List.forall_mem_cons.mpr ⟨?_, hok.entries⟩
                rw [hfirst]
                exact hentry
              · exact List.forall_mem_cons.mpr ⟨hseen, fun pair hpair hin => hrest pair hpair (List.mem_cons_of_mem _ hin)⟩
              · rw [List.flatMap_cons, hfirst]
    · rintro ⟨hok, hseen, rfl⟩
      have hnd := hok.distinct
      rw [List.map_cons, List.nodup_cons] at hnd
      have hrest : Accepts entry rest :=
        ⟨fun p hp => hok.keys p (List.mem_cons_of_mem _ hp), hnd.2, fun p hp => hok.entries p (List.mem_cons_of_mem _ hp)⟩
      have hfresh : ∀ p ∈ rest, scalarText p.1 ∉ scalarText keyNode :: seen := by
        intro p hp hin
        rcases List.mem_cons.mp hin with heq | hin
        · exact hnd.1 (List.mem_map.mpr ⟨p, hp, heq⟩)
        · exact hseen p (List.mem_cons_of_mem _ hp) hin
      rw [if_neg (hok.keys (keyNode, value) List.mem_cons_self), if_neg (hseen (keyNode, value) List.mem_cons_self),
        hok.entries (keyNode, value) List.mem_cons_self, ih.mpr ⟨hrest, hfresh, rfl⟩]
      rfl

/-! ## Another order -/

/-- A reader that stores the same of a tree whose entries are in another order, if in another order. -/
def Stable (read : Yaml → Except Text Log) : Prop :=
  ∀ y y' log, Reorder y y' → read y = .ok log → ∃ log', read y' = .ok log' ∧ log'.Perm log

variable {root y y' : Yaml}

theorem reorder_cases (h : Reorder y y') :
    (∃ pairs pairs', y = .mapping pairs ∧ y' = .mapping pairs') ∨ ∃ items items', y = .sequence items ∧
      y' = .sequence items' := by
  cases h with
  | entries | value | key => exact .inl ⟨_, _, rfl, rfl⟩
  | item => exact .inr ⟨_, _, rfl, rfl⟩

theorem scalarText_reorder (h : Reorder y y') : scalarText y' = scalarText y := by cases h <;> rfl

theorem readPairs_perm (hperm : pairs.Perm pairs') (h : readPairs badKey duplicate entry [] pairs = .ok log) :
    ∃ log', readPairs badKey duplicate entry [] pairs' = .ok log' ∧ log'.Perm log := by
  obtain ⟨hok, hseen, rfl⟩ := readPairs_ok_iff.mp h
  refine ⟨pairs'.flatMap (logOf entry), readPairs_ok_iff.mpr ⟨⟨?_, ?_, ?_⟩, fun _ _ => List.not_mem_nil, rfl⟩, ?_⟩
  · exact fun pair hpair => hok.keys pair (hperm.mem_iff.mpr hpair)
  · exact (hperm.map _).nodup_iff.mp hok.distinct
  · exact fun pair hpair => hok.entries pair (hperm.mem_iff.mpr hpair)
  · exact (hperm.flatMap_right _).symm

theorem readPairs_replace {pair pair' : Yaml × Yaml} {before after : List (Yaml × Yaml)}
    (hkey : scalarText pair'.1 = scalarText pair.1)
    (hentry : ∀ l, entry (scalarText pair.1) pair.2 = .ok l → ∃ l', entry (scalarText pair.1) pair'.2 = .ok l' ∧ l'.Perm l)
    (h : readPairs badKey duplicate entry [] (before ++ pair :: after) = .ok log) :
    ∃ log', readPairs badKey duplicate entry [] (before ++ pair' :: after) = .ok log' ∧ log'.Perm log := by
  obtain ⟨hok, -, rfl⟩ := readPairs_ok_iff.mp h
  obtain ⟨l', hl', hperm⟩ := hentry _ (hok.entries pair (by simp))
  rw [← hkey] at hl'
  have hlog : logOf entry pair' = l' := logOf_ok hl'
  have hold : ∀ p, p ∈ before ++ pair' :: after → p = pair' ∨ p ∈ before ++ pair :: after := by
    intro p hp
    rcases List.mem_append.mp hp with hp | hp
    · exact .inr (List.mem_append_left _ hp)
    · rcases List.mem_cons.mp hp with hp | hp
      · exact .inl hp
      · exact .inr (List.mem_append_right _ (List.mem_cons_of_mem _ hp))
  refine ⟨_, readPairs_ok_iff.mpr ⟨⟨?_, ?_, ?_⟩, fun _ _ => List.not_mem_nil, rfl⟩, ?_⟩
  · intro p hp
    rcases hold p hp with rfl | hp
    · rw [hkey]
      exact hok.keys pair (by simp)
    · exact hok.keys p hp
  · have hnd := hok.distinct
    rw [List.map_append, List.map_cons] at hnd ⊢
    rwa [hkey]
  · intro p hp
    rcases hold p hp with rfl | hp
    · rw [hlog]
      exact hl'
    · exact hok.entries p hp
  · rw [List.flatMap_append, List.flatMap_append, List.flatMap_cons, List.flatMap_cons, hlog]
    exact (hperm.append_right _).append_left _

theorem readPairs_stable (hentry : ∀ key, Stable (entry key)) (hy : Reorder (.mapping pairs) y')
    (h : readPairs badKey duplicate entry [] pairs = .ok log) :
    ∃ pairs' log', y' = .mapping pairs' ∧ readPairs badKey duplicate entry [] pairs' = .ok log' ∧ log'.Perm log := by
  cases hy with
  | entries hperm =>
    obtain ⟨log', hok, hlog⟩ := readPairs_perm hperm h
    exact ⟨_, log', rfl, hok, hlog⟩
  | @value key value value' before after hvalue =>
    obtain ⟨log', hok, hlog⟩ := @readPairs_replace badKey duplicate entry log (key, value) (key, value') before after rfl
      (fun l hl => hentry _ _ _ l hvalue hl) h
    exact ⟨_, log', rfl, hok, hlog⟩
  | @key key key' value before after hkey =>
    obtain ⟨log', hok, hlog⟩ := @readPairs_replace badKey duplicate entry log (key, value) (key', value) before after
      (scalarText_reorder hkey) (fun l hl => ⟨l, hl, List.Perm.refl l⟩) h
    exact ⟨_, log', rfl, hok, hlog⟩

variable {deeper : Option (Text → Yaml → Except Text Log)}

theorem readLevel_stable (hdeeper : ∀ read ∈ deeper, ∀ path, Stable (read path))
    (section_ : Text) : Stable (readLevel deeper section_) := by
  intro y y' log hy h
  cases y with
  | scalar text => cases h
  | sequence items => cases h
  | mapping pairs =>
    refine (readPairs_stable ?_ hy h).elim fun pairs' hread => ?_
    · intro key value value' l hvalue hl
      rcases reorder_cases hvalue with ⟨p, p', rfl, rfl⟩ | ⟨items, items', rfl, rfl⟩
      · cases deeper with
        | none => cases hl
        | some read => exact hdeeper read rfl _ _ _ l hvalue hl
      · cases hl
    · obtain ⟨log', rfl, hok, hlog⟩ := hread
      exact ⟨log', hok, hlog⟩

theorem readNestedMapping_stable (depth : Nat) (section_ : Text) : Stable (readNestedMapping depth section_) := by
  induction depth generalizing section_ with
  | zero => exact readLevel_stable (fun _ h => by cases h) section_
  | succ depth ih =>
    refine readLevel_stable ?_ section_
    rintro read ⟨⟩
    exact ih

theorem readTopLevel_stable (key : Text) : Stable (readTopLevel key) := by
  intro y y' log hy h
  have hmapping : Stable (readMapping key) := readNestedMapping_stable 0 key
  rcases reorder_cases hy with ⟨pairs, pairs', rfl, rfl⟩ | ⟨items, items', rfl, rfl⟩
  · simp only [readTopLevel] at h ⊢
    split_ifs at h ⊢ with hversion hdevice hsection hnested
    · cases hread : readMapping key (.mapping pairs) with
      | error text =>
        rw [hread] at h
        cases h
      | ok l =>
        obtain ⟨l', hl', hperm⟩ := hmapping _ _ l hy hread
        rw [hread] at h
        obtain rfl := Except.ok.inj h
        exact ⟨_, by rw [hl']; rfl, hperm.cons _⟩
    · exact hmapping _ _ log hy h
    · exact readNestedMapping_stable 2 key _ _ log hy h
    · exact ⟨log, h, List.Perm.refl log⟩
  · simp only [readTopLevel] at h ⊢
    split_ifs at h ⊢ with hversion hdevice hsection hnested
    · exact hmapping _ _ log hy h
    · exact readNestedMapping_stable 2 key _ _ log hy h
    · exact ⟨log, h, List.Perm.refl log⟩

theorem loadYaml_stable : Stable fun root => loadYaml (some root) := by
  intro root root' log hroot h
  cases root with
  | scalar text => cases h
  | sequence items => cases h
  | mapping pairs =>
    obtain ⟨pairs', log', rfl, hok, hlog⟩ := readPairs_stable readTopLevel_stable hroot h
    exact ⟨log', hok, hlog⟩

/-! ## The keys that are stored -/

/-- The key a path of keys comes to. -/
def joinPath (section_ : Text) (path : List Text) : Text := path.foldl joined section_

def dotted (parts : List Text) : Text := parts.flatMap (kDot :: ·)

theorem joinPath_eq (section_ : Text) (path : List Text) : joinPath section_ path = section_ ++ dotted path := by
  induction path generalizing section_ with
  | nil => simp [joinPath, dotted]
  | cons key path ih =>
    rw [joinPath, List.foldl_cons, ← joinPath, ih, joined, dotted, dotted, List.flatMap_cons, List.append_assoc]

theorem dotted_intercalate {parts : List Text} (h : parts ≠ []) : dotted parts = kDot :: [kDot].intercalate parts := by
  induction parts with
  | nil => exact absurd rfl h
  | cons part rest ih =>
    cases rest with
    | nil => simp [dotted]
    | cons next rest =>
      rw [List.intercalate_cons_cons, dotted, List.flatMap_cons, ← dotted, ih (List.cons_ne_nil _ _)]
      simp

theorem dotted_dotParts (path : List Text) : dotted (dotParts path) = dotted path := by
  induction path with
  | nil => rfl
  | cons key path ih =>
    have hkey : dotted (key.splitOn kDot) = kDot :: key := by
      rw [dotted_intercalate (List.splitOn_ne_nil _ _), List.intercalate_splitOn]
    simp only [dotParts, dotted, List.flatMap_cons, List.flatMap_append] at ih hkey ⊢
    rw [hkey, ih]

variable {key section_ : Text}

theorem dot_notMem_splitOn : ∀ part ∈ key.splitOn kDot, kDot ∉ part := by
  induction key with
  | nil => simp
  | cons c key ih =>
    intro part hpart
    rw [List.splitOn_cons_eq_if_modifyHead] at hpart
    split at hpart
    · rcases List.mem_cons.mp hpart with rfl | hpart
      · exact List.not_mem_nil
      · exact ih part hpart
    · rename_i hc
      cases hsplit : key.splitOn kDot with
      | nil => exact absurd hsplit (List.splitOn_ne_nil _ _)
      | cons first rest =>
        rw [hsplit, List.modifyHead_cons] at hpart
        rw [hsplit] at ih
        rcases List.mem_cons.mp hpart with rfl | hpart
        · simp only [List.mem_cons, not_or]
          exact ⟨fun h => hc (by simp [h]), ih first List.mem_cons_self⟩
        · exact ih part (List.mem_cons_of_mem _ hpart)

theorem dot_notMem_dotParts (path : List Text) : ∀ part ∈ dotParts path, kDot ∉ part := by
  intro part hpart
  obtain ⟨key, -, hkey⟩ := List.mem_flatMap.mp hpart
  exact dot_notMem_splitOn part hkey

theorem joinPath_inj {path path' : List Text} :
    joinPath section_ path = joinPath section_ path' ↔ dotParts path = dotParts path' := by
  rw [joinPath_eq, joinPath_eq, List.append_right_inj, ← dotted_dotParts path, ← dotted_dotParts path']
  have hfree := dot_notMem_dotParts path
  have hfree' := dot_notMem_dotParts path'
  generalize dotParts path = parts at hfree
  generalize dotParts path' = parts' at hfree'
  constructor
  · intro h
    by_cases hnil : parts = []
    · cases parts' with
      | nil => exact hnil
      | cons => simp [hnil, dotted] at h
    · by_cases hnil' : parts' = []
      · cases parts with
        | nil => exact hnil'.symm
        | cons => simp [hnil', dotted] at h
      · rw [dotted_intercalate hnil, dotted_intercalate hnil', List.cons.injEq] at h
        rw [← List.splitOn_intercalate kDot hfree hnil, h.2, List.splitOn_intercalate kDot hfree' hnil']
  · rintro rfl
    rfl

/-- A reader that stores each scalar it comes to, under the path to it. -/
def StoresPaths (depth : Nat) (read : Text → Yaml → Except Text Log) : Prop :=
  ∀ section_ y log, read section_ y = .ok log →
    log.map (·.key) = (scalarPaths (depth + 1) y).map (joinPath section_) ∧ ∀ a ∈ log, a.fromNode = true

theorem readLevel_storesPaths {depth : Nat}
    (hdeeper : ∀ read ∈ deeper, ∃ below, depth = below + 1 ∧ StoresPaths below read) : StoresPaths depth (readLevel deeper) := by
  intro section_ y log h
  cases y with
  | scalar text => cases h
  | sequence items => cases h
  | mapping pairs =>
    obtain ⟨hok, -, rfl⟩ := readPairs_ok_iff.mp h
    rw [scalarPaths, List.map_flatMap, List.map_flatMap]
    -- Either kind of entry stores the paths through its own key.
    have hentry (pair : Yaml × Yaml) (hpair : pair ∈ pairs) := hok.entries pair hpair
    generalize logOf _ = stored at hentry
    have hpair : ∀ pair ∈ pairs, (stored pair).map (·.key) =
        ((scalarPaths depth pair.2).map (scalarText pair.1 :: ·)).map (joinPath section_) ∧
          ∀ a ∈ stored pair, a.fromNode = true := by
      rintro ⟨key, value⟩ hpair
      have hread := hentry _ hpair
      cases value with
      | scalar text =>
        obtain heq := Except.ok.inj hread
        rw [← heq]
        constructor
        · cases depth <;> rfl
        · simp
      | sequence items =>
        cases deeper <;> cases hread
      | mapping inner =>
        cases deeper with
        | none => cases hread
        | some read =>
          obtain ⟨below, rfl, hbelow⟩ := hdeeper read rfl
          obtain ⟨hkeys, hnode⟩ := hbelow _ _ _ hread
          refine ⟨?_, hnode⟩
          rw [hkeys, List.map_map]
          rfl
    refine ⟨List.flatMap_congr fun pair h => (hpair pair h).1, ?_⟩
    intro a ha
    obtain ⟨pair, hmem, ha⟩ := List.mem_flatMap.mp ha
    exact (hpair pair hmem).2 a ha

theorem readNestedMapping_storesPaths (depth : Nat) : StoresPaths depth (readNestedMapping depth) := by
  induction depth with
  | zero => exact readLevel_storesPaths fun _ h => by cases h
  | succ depth ih =>
    refine readLevel_storesPaths ?_
    rintro read ⟨⟩
    exact ⟨depth, rfl, ih⟩

theorem readMapping_nodup (h : readMapping section_ y = .ok log) : (log.map (·.key)).Nodup := by
  cases y with
  | scalar text => cases h
  | sequence items => cases h
  | mapping pairs =>
    obtain ⟨hok, -, rfl⟩ := readPairs_ok_iff.mp h
    have hentry (pair : Yaml × Yaml) (hpair : pair ∈ pairs) := hok.entries pair hpair
    generalize logOf _ = stored at hentry
    have hkeys : (pairs.flatMap stored).map (·.key) = (pairs.map fun pair => scalarText pair.1).map (joined section_) := by
      rw [List.map_flatMap, List.map_map, List.map_eq_flatMap]
      refine List.flatMap_congr ?_
      rintro ⟨key, value⟩ hpair
      have hread := hentry _ hpair
      cases value with
      | scalar text =>
        rw [← Except.ok.inj hread]
        rfl
      | sequence items => cases hread
      | mapping inner => cases hread
    rw [hkeys]
    refine hok.distinct.map ?_
    intro a b hab
    simpa [joined] using hab

/-! ## The sections of a document -/

/-- The part of a stored key that names its section. -/
def sectionOf (key : Text) : Text := key.takeWhile (· ≠ kDot)

theorem sectionOf_joinPath (h : kDot ∉ section_) (path : List Text) : sectionOf (joinPath section_ path) = section_ := by
  have hfree : ∀ c ∈ section_, decide (c ≠ kDot) = true := by
    intro c hc
    simpa using fun heq : c = kDot => h (heq ▸ hc)
  rw [joinPath_eq, sectionOf, List.takeWhile_append_of_pos hfree]
  cases path <;> simp [dotted]

/-- What an entry at the top level stores: keys of its own section, constants first. -/
structure Sectioned (key : Text) (log : Log) : Prop where
  ofSection : ∀ a ∈ log, sectionOf a.key = key
  constantsFirst : log.Pairwise fun _ b => b.fromNode = true

theorem sectioned_of_paths {depth : Nat} {read : Text → Yaml → Except Text Log} (hread : StoresPaths depth read)
    (hkey : kDot ∉ key) (h : read key y = .ok log) : Sectioned key log := by
  obtain ⟨hkeys, hnode⟩ := hread key y log h
  refine ⟨?_, List.pairwise_of_forall_mem_list fun _ _ b hb => hnode b hb⟩
  intro a ha
  have hmem : a.key ∈ log.map (·.key) := List.mem_map_of_mem ha
  rw [hkeys] at hmem
  obtain ⟨path, -, heq⟩ := List.mem_map.mp hmem
  rw [← heq, sectionOf_joinPath hkey]

theorem readTopLevel_sectioned (h : readTopLevel key y = .ok log) : Sectioned key log := by
  have hmapping : StoresPaths 0 readMapping := readNestedMapping_storesPaths 0
  unfold readTopLevel at h
  split at h
  · rename_i hversion
    cases y with
    | scalar text =>
      obtain rfl := Except.ok.inj h
      refine ⟨?_, List.pairwise_singleton _ _⟩
      rw [hversion]
      simp only [List.mem_singleton, forall_eq]
      decide
    | sequence | mapping => cases h
  · split at h
    · rename_i hdevice
      cases y with
      | scalar text =>
        obtain rfl := Except.ok.inj h
        refine ⟨?_, List.pairwise_singleton _ _⟩
        rw [hdevice]
        simp only [List.mem_singleton, forall_eq]
        decide
      | sequence => cases h
      | mapping pairs =>
        cases hread : readMapping key (.mapping pairs) with
        | error text =>
          simp only [hread] at h
          cases h
        | ok l =>
          simp only [hread] at h
          obtain rfl := Except.ok.inj h
          have hfree : kDot ∉ key := by rw [hdevice]; decide
          have hl := sectioned_of_paths hmapping hfree hread
          have hnode := (hmapping key _ l hread).2
          refine ⟨List.forall_mem_cons.mpr ⟨?_, hl.ofSection⟩, List.pairwise_cons.mpr ⟨hnode, hl.constantsFirst⟩⟩
          rw [hdevice]
          decide
    · split at h
      · rename_i hsection
        have hfree : ∀ k ∈ kSections, kDot ∉ k := by decide
        exact sectioned_of_paths hmapping (hfree key hsection) h
      · split at h
        · rename_i hnested
          exact sectioned_of_paths (readNestedMapping_storesPaths 2) (by rw [hnested]; decide) h
        · obtain rfl := Except.ok.inj h
          exact ⟨nofun, List.Pairwise.nil⟩

theorem nodeKeys_of_nodes (h : ∀ a ∈ log, a.fromNode = true) : nodeKeys log = log.map (·.key) := by
  rw [nodeKeys, List.filter_eq_self.mpr h]

theorem readTopLevel_nodup_iff (h : readTopLevel key y = .ok log) :
    (nodeKeys log).Nodup ↔ (if key = kIntegrations then (scalarPaths 3 y).map dotParts else []).Nodup := by
  have hmapping {l : Log} (h : readMapping key y = .ok l) : (nodeKeys l).Nodup := by
    rw [nodeKeys_of_nodes (readNestedMapping_storesPaths 0 key y l h).2]
    exact readMapping_nodup h
  unfold readTopLevel at h
  by_cases hnested : key = kIntegrations
  · subst hnested
    rw [if_neg (by decide), if_neg (by decide), if_neg (by decide), if_pos rfl] at h
    obtain ⟨hkeys, hnode⟩ := readNestedMapping_storesPaths 2 kIntegrations y log h
    rw [if_pos rfl, nodeKeys_of_nodes hnode, hkeys, List.Nodup, List.Nodup, List.pairwise_map, List.pairwise_map]
    simp only [ne_eq, joinPath_inj]
  · rw [if_neg hnested]
    refine iff_of_true ?_ List.nodup_nil
    split_ifs at h
    · cases y with
      | scalar text =>
        obtain rfl := Except.ok.inj h
        exact List.nodup_singleton _
      | sequence | mapping => cases h
    · cases y with
      | scalar text =>
        obtain rfl := Except.ok.inj h
        exact List.nodup_singleton _
      | sequence => cases h
      | mapping pairs =>
        cases hread : readMapping key (.mapping pairs) with
        | error text =>
          simp only [hread] at h
          cases h
        | ok l =>
          simp only [hread] at h
          obtain rfl := Except.ok.inj h
          show (nodeKeys l).Nodup
          exact hmapping hread
    · exact hmapping h
    · obtain rfl := Except.ok.inj h
      exact List.nodup_nil

/-- Entries at the top level never meet, and within one only `integrations` may store a key twice. -/
theorem nodeKeys_nodup_iff (h : loadYaml (some root) = .ok log) :
    (nodeKeys log).Nodup ↔ (integrationParts root).Nodup := by
  cases root with
  | scalar text => cases h
  | sequence items => cases h
  | mapping pairs =>
    obtain ⟨hok, -, rfl⟩ := readPairs_ok_iff.mp h
    have hdistinct := List.pairwise_map.mp hok.distinct
    have hkeys : nodeKeys (pairs.flatMap (logOf readTopLevel)) = pairs.flatMap fun pair =>
        nodeKeys (logOf readTopLevel pair) := by
      rw [nodeKeys, List.filter_flatMap, List.map_flatMap]
      rfl
    have hsection {pair : Yaml × Yaml} (hpair : pair ∈ pairs) {key : Text} (hkey : key ∈ nodeKeys (logOf readTopLevel pair)) :
        sectionOf key = scalarText pair.1 := by
      obtain ⟨a, ha, rfl⟩ := List.mem_map.mp hkey
      exact (readTopLevel_sectioned (hok.entries pair hpair)).ofSection a (List.mem_filter.mp ha).1
    rw [hkeys, integrationParts, List.nodup_flatMap, List.nodup_flatMap]
    refine and_congr ?_ (iff_of_true ?_ ?_)
    · exact forall₂_congr fun pair hpair => readTopLevel_nodup_iff (hok.entries pair hpair)
    · refine hdistinct.imp_of_mem ?_
      intro p q hp hq hne key hkp hkq
      exact hne ((hsection hp hkp).symm.trans (hsection hq hkq))
    · refine hdistinct.imp ?_
      intro p q hne path hp hq
      dsimp only at hp hq
      split at hp
      · rename_i hpkey
        rw [if_neg fun hqkey => hne (hpkey.trans hqkey.symm)] at hq
        exact List.not_mem_nil hq
      · exact List.not_mem_nil hp

/-! ## The values -/

/-- Of two assignments to a key, the first is the constant and the second a scalar's. -/
def Settled (log : Log) : Prop := log.Pairwise fun a b => a.key = b.key → a.fromNode = false ∧ b.fromNode = true

theorem settled (h : loadYaml (some root) = .ok log) (hnd : (nodeKeys log).Nodup) : Settled log := by
  have hfirst : log.Pairwise fun a b => a.key = b.key → b.fromNode = true := by
    cases root with
    | scalar text => cases h
    | sequence items => cases h
    | mapping pairs =>
      obtain ⟨hok, -, rfl⟩ := readPairs_ok_iff.mp h
      have hsection (pair : Yaml × Yaml) (hpair : pair ∈ pairs) := readTopLevel_sectioned (hok.entries pair hpair)
      refine List.pairwise_flatMap.mpr ⟨fun pair hpair =>
        (hsection pair hpair).constantsFirst.imp fun {a b} hb (_ : a.key = b.key) => hb, ?_⟩
      refine (List.pairwise_map.mp hok.distinct).imp_of_mem ?_
      intro p q hp hq hne a ha b hb heq
      refine absurd ?_ hne
      rw [← (hsection p hp).ofSection a ha, heq, (hsection q hq).ofSection b hb]
  have hnodes := List.pairwise_filter.mp (List.pairwise_map.mp hnd)
  refine (hfirst.and hnodes).imp ?_
  rintro a b ⟨hb, hne⟩ heq
  refine ⟨?_, hb heq⟩
  cases ha : a.fromNode with
  | false => rfl
  | true => exact absurd heq (hne ha (hb heq))

theorem valueMap_eq_some_iff {value : Text} (h : Settled log) :
    valueMap log key = some value ↔
      ∃ a ∈ log, a.key = key ∧ a.value = value ∧ (a.fromNode = true ∨ ∀ b ∈ log, b.key = key → b.fromNode = false) := by
  induction log using List.reverseRecOn with
  | nil => simp [valueMap]
  | append_singleton log last ih =>
    obtain ⟨hlog, -, hlast⟩ := List.pairwise_append.mp h
    have hlast : ∀ a ∈ log, a.key = last.key → a.fromNode = false ∧ last.fromNode = true :=
      fun a ha => hlast a ha last List.mem_cons_self
    have hmap : valueMap (log ++ [last]) = Function.update (valueMap log) last.key (some last.value) := by
      rw [valueMap, List.foldl_append]
      rfl
    rw [hmap]
    by_cases hkey : last.key = key
    · subst hkey
      rw [Function.update_self, Option.some.injEq]
      constructor
      · rintro rfl
        refine ⟨last, by simp, rfl, rfl, ?_⟩
        cases hnode : last.fromNode with
        | true => exact .inl rfl
        | false =>
          refine .inr ?_
          intro b hb heq
          rcases List.mem_append.mp hb with hb | hb
          · exact (hlast b hb heq).1
          · rwa [List.mem_singleton.mp hb]
      · rintro ⟨a, ha, heq, rfl, hor⟩
        rcases List.mem_append.mp ha with ha | ha
        · obtain ⟨hconst, hnode⟩ := hlast a ha heq
          rcases hor with hor | hor
          · simp [hor] at hconst
          · simp [hor last (by simp) rfl] at hnode
        · rw [List.mem_singleton.mp ha]
    · rw [Function.update_of_ne (Ne.symm hkey), ih hlog]
      constructor
      · rintro ⟨a, ha, heq, hvalue, hor⟩
        refine ⟨a, List.mem_append_left _ ha, heq, hvalue, hor.imp_right fun hall b hb hb' => ?_⟩
        rcases List.mem_append.mp hb with hb | hb
        · exact hall b hb hb'
        · exact absurd (List.mem_singleton.mp hb ▸ hb') hkey
      · rintro ⟨a, ha, heq, hvalue, hor⟩
        rcases List.mem_append.mp ha with ha | ha
        · exact ⟨a, ha, heq, hvalue, hor.imp_right fun hall b hb => hall b (List.mem_append_left _ hb)⟩
        · exact absurd (List.mem_singleton.mp ha ▸ heq) hkey

theorem valueMap_perm {log' : Log} (h : Settled log) (h' : Settled log') (hperm : log'.Perm log) :
    valueMap log' = valueMap log := by
  funext key
  refine Option.ext fun value => ?_
  rw [valueMap_eq_some_iff h, valueMap_eq_some_iff h']
  simp only [hperm.mem_iff]

theorem reordered_loads {root' : Yaml} (hreorder : Relation.ReflTransGen Reorder root root')
    (h : loadYaml (some root) = .ok log) : ∃ log', loadYaml (some root') = .ok log' ∧ log'.Perm log := by
  induction hreorder with
  | refl => exact ⟨log, h, List.Perm.refl log⟩
  | tail _ hstep ih =>
    obtain ⟨log', hlog', hperm⟩ := ih
    obtain ⟨last, hlast, hperm'⟩ := loadYaml_stable _ _ log' hstep hlog'
    exact ⟨last, hlast, hperm'.trans hperm⟩

end

theorem loaded_once_iff (root : Yaml) (log : Log) (h : loadYaml (some root) = .ok log) :
    LoadedOnce root log ↔ (integrationParts root).Nodup := by
  rw [← nodeKeys_nodup_iff h]
  refine ⟨fun hloaded => hloaded.1, fun hnd => ⟨hnd, ?_⟩⟩
  intro root' hreorder
  obtain ⟨log', hlog', hperm⟩ := reordered_loads hreorder h
  have hnd' : (nodeKeys log').Nodup := ((hperm.filter _).map _).nodup_iff.mpr hnd
  exact ⟨log', hlog', valueMap_perm (settled h hnd) (settled hlog' hnd') hperm⟩

/-- `integrations: {a: {b: x}, c: {d: y}}`. -/
def nestedDocument : Yaml :=
  .mapping [(.scalar kIntegrations, .mapping [(.scalar (ascii "a"), .mapping [(.scalar (ascii "b"), .scalar (ascii "x"))]),
    (.scalar (ascii "c"), .mapping [(.scalar (ascii "d"), .scalar (ascii "y"))])])]

theorem loaded_once_nested : LoadedOnce nestedDocument
    [⟨ascii "integrations.a.b", ascii "x", true⟩, ⟨ascii "integrations.c.d", ascii "y", true⟩] :=
  (loaded_once_iff nestedDocument _ rfl).mpr (by decide)

/-- `integrations: {a: {b: x}, a.b: y}`. -/
def dottedDocument : Yaml :=
  .mapping [(.scalar kIntegrations, .mapping [(.scalar (ascii "a"), .mapping [(.scalar (ascii "b"), .scalar (ascii "x"))]),
    (.scalar (ascii "a.b"), .scalar (ascii "y"))])]

theorem dotted_key_loaded_twice :
    ∃ log, loadYaml (some dottedDocument) = .ok log ∧ ¬(nodeKeys log).Nodup ∧ ¬LoadedOnce dottedDocument log := by
  have hload : loadYaml (some dottedDocument) =
      .ok [⟨ascii "integrations.a.b", ascii "x", true⟩, ⟨ascii "integrations.a.b", ascii "y", true⟩] := rfl
  refine ⟨_, hload, by decide, fun hloaded => absurd hloaded.1 (by decide)⟩

end Mocktail.Runtime.ConfigFile

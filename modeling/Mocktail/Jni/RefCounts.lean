/-
  Mocktail.Jni.RefCounts — what the reference tables of the pseudo-JVM account for.

  A holder of a handle is a local entry, a global reference, an instance or static field or
  an array element. `Accounted`: the stored count of every object and array but the
  singletons is the number of its holders, it is there exactly while there is one, and no
  free slot is in use. That is so in every run of a client that uses live handles, deletes only
  references it holds, and never gives one handle 2^32 holders (`Mocktail.Jni.RefRuns`).

  The invariant `Owes s p` has a list `p` of references on the way: counted, but with no
  holder. To retain puts one on it, to release takes one off, and a store or an erasure moves
  one between `p` and the holders. So does a destructor: what the dying object held is on the
  way until it is released (`Owes.destroy`), and the nested releases need no argument of their
  own (`releaseWithin_owes`).
-/

import Mathlib.Data.List.ReduceOption
import Mocktail.Jni.References

namespace Mocktail.Jni

open Mocktail.Lib JniState

/-! ## Holders -/

def pointsTo (h : Handle) (obj : JObject) : Nat := if obj = some h then 1 else 0

def fieldCount (h : Handle) (object : PseudoJavaObject) : Nat := weigh (pointsTo h) object.objectFields

def elementCount (h : Handle) (array : PseudoArray) : Nat := array.objects.count (some h)

def localCount (h : Handle) (frames : List (List Handle)) : Nat := frames.flatten.count h

section
variable {Thread : Type} [Fintype Thread]

open scoped BigOperators in
/-- The local entries, globals, instance fields, static fields and array elements that are a handle. -/
def holders (s : JniState Thread) (h : Handle) : Nat :=
  ∑ t, localCount h (s.localFrames t) + s.globals.count h + weigh (fieldCount h) s.objectStorage +
    weigh (pointsTo h) s.staticObjectFields + weigh (elementCount h) s.arrayStorage

end

section
variable {Thread : Type}

def Present (s : JniState Thread) : Handle → Prop
  | .slot index => index ∈ s.objectStorage
  | .array address => address ∈ s.arrayStorage

def IsClass (s : JniState Thread) (h : Handle) : Prop := h ∈ s.knownClasses

def IsSingleton (s : JniState Thread) (h : Handle) : Prop := ∃ name, s.singletonObjects.lookup name = some (some h)

/-- An object or array that is counted. -/
def Tracked (s : JniState Thread) (h : Handle) : Prop := ¬ IsClass s h ∧ ¬ IsSingleton s h

def Alive (s : JniState Thread) (h : Handle) : Prop := Present s h ∨ IsClass s h

/-- The stored count; a handle without one has 0. -/
def storedCount (s : JniState Thread) (h : Handle) : Nat := (s.refCounts h).elim 0 UInt32.toNat

/-- Classes and singletons last. -/
structure Keeps (s s' : JniState Thread) : Prop where
  classes : ∀ name h, s.classHandleCache.lookup name = some h → s'.classHandleCache.lookup name = some h ∧ IsClass s' h
  singletons : ∀ name h, s.singletonObjects.lookup name = some (some h) →
    s'.singletonObjects.lookup name = some (some h) ∧ Present s' h

end

section
variable {Thread : Type} [Fintype Thread]

structure Accounted (s : JniState Thread) : Prop where
  counts : ∀ h, Tracked s h → storedCount s h = holders s h
  present : ∀ h, Tracked s h → (Present s h ↔ 0 < holders s h)
  free_nodup : s.freeSlots.Nodup
  free_unused : ∀ index ∈ s.freeSlots, ¬ Present s (.slot index) ∧ ¬ IsClass s (.slot index)
  /-- An object and a class never share a slot. -/
  apart : ∀ h, Present s h → ¬ IsClass s h
  classes : ∀ h, IsClass s h ↔ ∃ name, s.classHandleCache.lookup name = some h
  interned : ∀ name name' h, s.classHandleCache.lookup name = some h → s.classHandleCache.lookup name' = some h →
    name = name'
  singletons : ∀ h, IsSingleton s h → Present s h

/-! ## The client -/

def Valid (s : JniState Thread) (obj : JObject) : Prop := ∀ h, obj = some h → Alive s h

/-- A client that keeps live handles only and deletes references it holds, on a heap that
gives a new array no address in use. The handle of a class or of a singleton is held without an
entry: `FindClass` and a later `SingletonObject` return it and register nothing. -/
def Allowed (s : JniState Thread) : JniAct Thread → Prop
  | .newPrimitiveArray _ address => address ∉ s.arrayStorage
  | .newObjectArray _ address _ init => address ∉ s.arrayStorage ∧ Valid s init
  | .newLocalRef _ obj => Valid s obj
  | .deleteLocalRef t obj => ∀ h, obj = some h → h ∈ (s.localFrames t).flatten ∨ IsClass s h ∨ IsSingleton s h
  | .newGlobalRef obj => Valid s obj
  | .deleteGlobalRef obj => ∀ h, obj = some h → h ∈ s.globals
  | .popLocalFrame _ result => Valid s result
  | .setObjectField _ _ value => Valid s value
  | .setStaticObjectField _ value => Valid s value
  | .setObjectArrayElement _ _ val => Valid s val
  | _ => True

/-- What a call retains, and how many times. -/
def retained [DecidableEq Thread] (s : JniState Thread) : JniAct Thread → JObject × Nat
  | .newObjectArray _ _ len init => (init, len.toNat)
  | .newLocalRef _ obj => (obj, 1)
  | .newGlobalRef obj => (obj, 1)
  | .popLocalFrame _ result => (result, 1)
  | .setObjectField _ _ value => (value, 1)
  | .getObjectField t obj fieldName => ((s.objectFieldValue t obj fieldName).2, 1)
  | .setStaticObjectField _ value => (value, 1)
  | .getStaticObjectField t name => ((s.staticObjectFieldValue t name).2, 1)
  | .setObjectArrayElement _ _ val => (val, 1)
  | .getObjectArrayElement t array index => ((JniState.getObjectArrayElement t array index s).2, 1)
  | _ => (none, 0)

/-- The count of what a call retains stays below 2^32. -/
def Fits [DecidableEq Thread] (s : JniState Thread) (act : JniAct Thread) : Prop :=
  ∀ h, (retained s act).1 = some h → holders s h + (retained s act).2 < 2 ^ 32

instance decidableForHandle (q : Handle → Prop) [DecidablePred q] (obj : JObject) : Decidable (∀ h, obj = some h → q h) :=
  match obj with
  | none => isTrue fun _ hh => by cases hh
  | some h => decidable_of_iff (q h) ⟨fun hq _ hh => Option.some.inj hh ▸ hq, fun hq => hq h rfl⟩

instance (s : JniState Thread) : DecidablePred (Alive s)
  | .slot index => inferInstanceAs (Decidable (index ∈ s.objectStorage ∨ .slot index ∈ s.knownClasses))
  | .array address => inferInstanceAs (Decidable (address ∈ s.arrayStorage ∨ .array address ∈ s.knownClasses))

omit [Fintype Thread] in
/-- The search of `ReleaseJniReference` through the singletons. -/
theorem singleton_any {s : JniState Thread} {x : Handle} :
    s.singletonObjects.entries.any (fun e => e.2 == some x) = true ↔ IsSingleton s x := by
  rw [List.any_eq_true]
  constructor
  · intro hex
    obtain ⟨⟨name, obj⟩, he, heq⟩ := hex
    obtain rfl : obj = some x := by simpa using heq
    exact ⟨name, AList.mem_lookup_iff.mpr he⟩
  · intro hex
    obtain ⟨name, hn⟩ := hex
    exact ⟨⟨name, some x⟩, AList.mem_lookup_iff.mp hn, by simp⟩

instance (s : JniState Thread) : DecidablePred (IsSingleton s) := fun _ => decidable_of_iff _ singleton_any

instance (s : JniState Thread) (obj : JObject) : Decidable (Valid s obj) :=
  inferInstanceAs (Decidable (∀ h, obj = some h → Alive s h))

instance (s : JniState Thread) : DecidablePred (Allowed s)
  | .newPrimitiveArray _ address => inferInstanceAs (Decidable (address ∉ s.arrayStorage))
  | .newObjectArray _ address _ init => inferInstanceAs (Decidable (address ∉ s.arrayStorage ∧ Valid s init))
  | .newLocalRef _ obj => inferInstanceAs (Decidable (Valid s obj))
  | .deleteLocalRef t obj =>
    decidableForHandle (fun h => h ∈ (s.localFrames t).flatten ∨ h ∈ s.knownClasses ∨ IsSingleton s h) obj
  | .newGlobalRef obj => inferInstanceAs (Decidable (Valid s obj))
  | .deleteGlobalRef obj => decidableForHandle (fun h => h ∈ s.globals) obj
  | .popLocalFrame _ result => inferInstanceAs (Decidable (Valid s result))
  | .setObjectField _ _ value => inferInstanceAs (Decidable (Valid s value))
  | .setStaticObjectField _ value => inferInstanceAs (Decidable (Valid s value))
  | .setObjectArrayElement _ _ val => inferInstanceAs (Decidable (Valid s val))
  | .findClass _ | .allocObject _ _ | .singletonObject _ _ | .pushLocalFrame _ | .getObjectField _ _ _
  | .getStaticObjectField _ _ | .getObjectArrayElement _ _ _ => isTrue trivial

instance [DecidableEq Thread] (s : JniState Thread) (act : JniAct Thread) : Decidable (Fits s act) :=
  inferInstanceAs (Decidable (∀ h, (retained s act).1 = some h → holders s h + (retained s act).2 < 2 ^ 32))

/-! ## The invariant -/

/-- The segment table: which slots are used, for what, and which are free. -/
structure Slots {Thread : Type} (s : JniState Thread) : Prop where
  index_pos : 1 ≤ s.refIndex
  index_le : s.refIndex ≤ kJniSegmentCapacity
  free : FreeList s.refIndex (fun i => decide (i = 0) || decide (s.segmentTypes i ≠ .empty)) s.freeSlots
  beyond : ∀ i, i = 0 ∨ s.refIndex ≤ i → s.segmentTypes i = .empty
  objects : ∀ i, i ∈ s.objectStorage ↔ s.segmentTypes i = .object
  classes : ∀ h, h ∈ s.knownClasses ↔ ∃ i, h = .slot i ∧ s.segmentTypes i = .clazz
  cached : ∀ h, h ∈ s.knownClasses ↔ ∃ name, s.classHandleCache.lookup name = some h
  interned : ∀ name name' h, s.classHandleCache.lookup name = some h → s.classHandleCache.lookup name' = some h →
    name = name'
  singletons : ∀ h, IsSingleton s h → ∃ i, h = .slot i ∧ s.segmentTypes i = .object

/-- A count is there exactly if it is not 0. -/
def CountIs : Option UInt32 → Nat → Prop
  | none, n => n = 0
  | some count, n => count.toNat = n ∧ 0 < n

/-- Every tracked handle is counted by its holders and the references in `p`. -/
structure Owes (s : JniState Thread) (p : List Handle) : Prop where
  slots : Slots s
  counts : ∀ h, Tracked s h → CountIs (s.refCounts h) (holders s h + p.count h)
  present : ∀ h, Tracked s h → (Present s h ↔ 0 < holders s h + p.count h)

variable {s s' : JniState Thread} {p p' : List Handle} {x : Handle}

theorem owes_empty : Owes ({} : JniState Thread) [] := by
  have hnone : ∀ h, holders ({} : JniState Thread) h = 0 := by
    intro h
    simp [holders, localCount]
  refine ⟨⟨le_rfl,
    show 1 ≤ 100000 by omega, ⟨List.nodup_nil, fun j => ?_⟩, fun _ _ => rfl, fun i => ?_, fun h => ?_, fun h => ?_, ?_, ?_⟩,
    fun h _ => ?_, fun h _ => ?_⟩
  · simp
  · simp
  · simp
  · simp
  · intro name name' h hn
    simp at hn
  · intro h hex
    obtain ⟨name, hn⟩ := hex
    simp at hn
  · rw [hnone]
    rfl
  · rw [hnone]
    cases h <;> simp [Present]

/-- What a holder is no part of: counts, slots, classes, singletons, and what is stored. -/
structure SameTables (s s' : JniState Thread) : Prop where
  refCounts : s'.refCounts = s.refCounts
  segmentTypes : s'.segmentTypes = s.segmentTypes
  refIndex : s'.refIndex = s.refIndex
  freeSlots : s'.freeSlots = s.freeSlots
  knownClasses : s'.knownClasses = s.knownClasses
  classHandleCache : s'.classHandleCache = s.classHandleCache
  singletonObjects : s'.singletonObjects = s.singletonObjects
  objects : ∀ i, i ∈ s'.objectStorage ↔ i ∈ s.objectStorage
  arrays : ∀ a, a ∈ s'.arrayStorage ↔ a ∈ s.arrayStorage

omit [Fintype Thread] in
theorem SameTables.present (h : SameTables s s') (x : Handle) : Present s' x ↔ Present s x := by
  cases x with
  | slot i => exact h.objects i
  | array a => exact h.arrays a

omit [Fintype Thread] in
theorem SameTables.singleton (h : SameTables s s') (x : Handle) : IsSingleton s' x ↔ IsSingleton s x := by
  unfold IsSingleton
  rw [h.singletonObjects]

omit [Fintype Thread] in
theorem SameTables.tracked (h : SameTables s s') (x : Handle) : Tracked s' x ↔ Tracked s x := by
  unfold Tracked IsClass
  rw [h.knownClasses, h.singleton]

omit [Fintype Thread] in
theorem SameTables.slots (h : SameTables s s') (hs : Slots s) : Slots s' := by
  refine ⟨?_, ?_, ?_, ?_, fun i => ?_, fun x => ?_, fun x => ?_, ?_, fun x hx => ?_⟩
  · rw [h.refIndex]
    exact hs.index_pos
  · rw [h.refIndex]
    exact hs.index_le
  · rw [h.refIndex, h.segmentTypes, h.freeSlots]
    exact hs.free
  · rw [h.refIndex, h.segmentTypes]
    exact hs.beyond
  · rw [h.objects, h.segmentTypes]
    exact hs.objects i
  · rw [h.knownClasses, h.segmentTypes]
    exact hs.classes x
  · rw [h.knownClasses, h.classHandleCache]
    exact hs.cached x
  · rw [h.classHandleCache]
    exact hs.interned
  · rw [h.segmentTypes]
    exact hs.singletons x ((h.singleton x).mp hx)

/-- References move between the holders and those on the way. -/
theorem Owes.move (h : Owes s p) (hs : SameTables s s')
    (hb : ∀ x, holders s' x + p'.count x = holders s x + p.count x) : Owes s' p' := by
  refine ⟨hs.slots h.slots, fun x hx => ?_, fun x hx => ?_⟩
  · rw [hs.refCounts, hb]
    exact h.counts x ((hs.tracked x).mp hx)
  · rw [hs.present, hb]
    exact h.present x ((hs.tracked x).mp hx)

/-- A reference to a class or a singleton is on the way or not, as one likes. -/
theorem Owes.untracked (h : Owes s p) (hx : ¬ Tracked s x) : Owes s (x :: p) := by
  have hcount : ∀ y, Tracked s y → (x :: p).count y = p.count y := by
    intro y hy
    refine List.count_cons_of_ne fun he => hx ?_
    rw [he]
    exact hy
  refine ⟨h.slots, fun y hy => ?_, fun y hy => ?_⟩
  · rw [hcount y hy]
    exact h.counts y hy
  · rw [hcount y hy]
    exact h.present y hy

/-- A change that is about one handle: the others are counted as before. -/
theorem Owes.change (x : Handle) (h : Owes s p) (hs : Slots s') (ht : ∀ y, Tracked s' y → Tracked s y)
    (hx : Tracked s x → CountIs (s'.refCounts x) (holders s' x + p'.count x) ∧ (Present s' x ↔ 0 < holders s' x + p'.count x))
    (hy : ∀ y, y ≠ x → s'.refCounts y = s.refCounts y ∧ (Present s' y ↔ Present s y) ∧
      holders s' y + p'.count y = holders s y + p.count y) : Owes s' p' := by
  refine ⟨hs, fun y hty => ?_, fun y hty => ?_⟩
  · by_cases hyx : y = x
    · subst hyx
      exact (hx (ht y hty)).1
    · obtain ⟨hcount, -, hb⟩ := hy y hyx
      rw [hcount, hb]
      exact h.counts y (ht y hty)
  · by_cases hyx : y = x
    · subst hyx
      exact (hx (ht y hty)).2
    · obtain ⟨-, hpresent, hb⟩ := hy y hyx
      rw [hpresent, hb]
      exact h.present y (ht y hty)

/-! ## Retain -/

omit [Fintype Thread] in
theorem slots_setCount (h : Slots s) (x : Handle) (c : Option UInt32) : Slots (s.setCount x c) :=
  ⟨h.index_pos, h.index_le, h.free, h.beyond, h.objects, h.classes, h.cached, h.interned, h.singletons⟩

omit [Fintype Thread] in
theorem setCount_same (s : JniState Thread) (x : Handle) (c : Option UInt32) : (s.setCount x c).refCounts x = c := if_pos rfl

omit [Fintype Thread] in
theorem setCount_ne (s : JniState Thread) {x y : Handle} (c : Option UInt32) (h : y ≠ x) :
    (s.setCount x c).refCounts y = s.refCounts y := if_neg h

/-- A new count for a handle, which is right if the handle is tracked. -/
theorem Owes.setCount (h : Owes s p) (c : Option UInt32)
    (hx : Tracked s x → CountIs c (holders s x + p'.count x) ∧ (Present s x ↔ 0 < holders s x + p'.count x))
    (hp : ∀ y, y ≠ x → p'.count y = p.count y) : Owes (s.setCount x c) p' := by
  refine h.change x (slots_setCount h.slots x c) (fun _ hy => hy) (fun ht => ?_) fun y hy => ⟨setCount_ne s c hy, Iff.rfl, ?_⟩
  · rw [setCount_same]
    exact hx ht
  · rw [hp y hy]
    rfl

theorem uint32_add_one {c : UInt32} {n : Nat} (hc : c.toNat = n) (hn : n + 1 < 2 ^ 32) : (c + 1).toNat = n + 1 := by
  rw [UInt32.toNat_add, hc]
  exact Nat.mod_eq_of_lt hn

theorem uint32_sub_one {c : UInt32} {n : Nat} (hc : c.toNat = n) (hn : 0 < n) : (c - 1).toNat = n - 1 := by
  have h1 : (1 : UInt32) ≤ c := by
    rw [UInt32.le_iff_toNat_le, hc]
    exact hn
  rw [UInt32.toNat_sub_of_le _ _ h1, hc]
  rfl

theorem count_cons_self (x : Handle) (p : List Handle) : (x :: p).count x = p.count x + 1 := List.count_cons_self

theorem count_cons_ne {x y : Handle} (p : List Handle) (h : y ≠ x) : (x :: p).count y = p.count y :=
  List.count_cons_of_ne (Ne.symm h)

/-- A retained reference is on the way. -/
theorem Owes.retain (h : Owes s p) (hx : Alive s x) (hfit : holders s x + p.count x + 1 < 2 ^ 32) :
    Owes (s.retainJniReference (some x)) (x :: p) := by
  have hset : ∀ c, (Tracked s x → CountIs c (holders s x + p.count x + 1)) → Owes (s.setCount x c) (x :: p) := by
    intro c hc
    refine h.setCount c (fun ht => ?_) fun y hy => count_cons_ne p hy
    have hpresent : Present s x := hx.resolve_right ht.1
    rw [count_cons_self, ← Nat.add_assoc]
    exact ⟨hc ht, fun _ => Nat.succ_pos _, fun _ => hpresent⟩
  have hcount := h.counts x
  have hpos := h.present x
  unfold retainJniReference
  simp only
  cases hc : s.refCounts x with
  | some c =>
    refine hset _ fun ht => ?_
    have hcount := hcount ht
    rw [hc] at hcount
    exact ⟨uint32_add_one hcount.1 hfit, Nat.succ_pos _⟩
  | none =>
    refine hset _ fun ht => ?_
    have hcount := hcount ht
    rw [hc] at hcount
    -- a live tracked handle has a count
    have hzero : holders s x + p.count x = 0 := hcount
    have := (hpos ht).mp (hx.resolve_right ht.1)
    omega

/-! ## Release -/

theorem countIs_zero {c : Option UInt32} (h : c = none) : CountIs c 0 := by
  rw [h]
  rfl

theorem count_reduceOption (l : List JObject) (h : Handle) : l.reduceOption.count h = l.count (some h) := by
  induction l with
  | nil => rfl
  | cons obj l ih =>
    cases obj with
    | none =>
      rw [List.reduceOption_cons_of_none, ih]
      simp
    | some x =>
      rw [List.reduceOption_cons_of_some, List.count_cons, List.count_cons, ih]
      simp

/-- What release leaves alone. -/
structure Kept (s s' : JniState Thread) : Prop where
  localFrames : s'.localFrames = s.localFrames
  globals : s'.globals = s.globals
  staticObjectFields : s'.staticObjectFields = s.staticObjectFields
  knownClasses : s'.knownClasses = s.knownClasses
  classHandleCache : s'.classHandleCache = s.classHandleCache
  singletonObjects : s'.singletonObjects = s.singletonObjects

omit [Fintype Thread] in
theorem Kept.trans {s s' s'' : JniState Thread} (h : Kept s s') (h' : Kept s' s'') : Kept s s'' :=
  ⟨h'.localFrames.trans h.localFrames, h'.globals.trans h.globals, h'.staticObjectFields.trans h.staticObjectFields,
    h'.knownClasses.trans h.knownClasses, h'.classHandleCache.trans h.classHandleCache,
    h'.singletonObjects.trans h.singletonObjects⟩

omit [Fintype Thread] in
theorem Kept.refl (s : JniState Thread) : Kept s s := ⟨rfl, rfl, rfl, rfl, rfl, rfl⟩

omit [Fintype Thread] in
/-- A handle that is not tracked is a slot, and its release destroys nothing. -/
theorem destroy_untracked (order : FieldOrder) (hs : Slots s) (hx : ¬ Tracked s x) : destroy order x s = (s, []) := by
  have hcases : IsClass s x ∨ IsSingleton s x := by
    by_contra hc
    rw [not_or] at hc
    exact hx hc
  have hslot : ∃ i, x = .slot i := by
    rcases hcases with hc | hc
    · obtain ⟨i, hi, -⟩ := (hs.classes x).mp hc
      exact ⟨i, hi⟩
    · obtain ⟨i, hi, -⟩ := hs.singletons x hc
      exact ⟨i, hi⟩
  obtain ⟨i, rfl⟩ := hslot
  simp only [destroy, arrayFromRef]
  rcases hcases with hc | hc
  · exact if_pos hc
  · by_cases hclass : Handle.slot i ∈ s.knownClasses
    · exact if_pos hclass
    · rw [if_neg hclass, if_pos (singleton_any.mpr hc)]

/-- The last reference of an array: its elements are on the way now. -/
theorem Owes.destroyArray (order : FieldOrder) {a : Nat} (h : Owes s (.array a :: p)) (ht : Tracked s (.array a))
    (hlast : holders s (.array a) + p.count (.array a) = 0) :
    ∃ s' children, destroy order (.array a) (s.setCount (.array a) none) = (s', children) ∧
      Owes s' (children.reduceOption ++ p) ∧ s'.live + 1 = s.live ∧ Kept s s' := by
  have hpresent : a ∈ s.arrayStorage := (h.present _ ht).mpr (by rw [count_cons_self]; omega)
  obtain ⟨array, harray⟩ := Option.isSome_iff_exists.mp (AList.lookup_isSome.mpr hpresent)
  refine ⟨{ s.setCount (.array a) none with arrayStorage := s.arrayStorage.erase a }, array.objects, ?_, ?_, ?_, ?_⟩
  · simp only [JniState.destroy, arrayFromRef, JniState.setCount, harray, Option.map_some]
  · have hb : ∀ y, holders { s.setCount (.array a) none with arrayStorage := s.arrayStorage.erase a } y +
        (array.objects.reduceOption ++ p).count y = holders s y + p.count y := by
      intro y
      have hw := weigh_erase (elementCount y) s.arrayStorage a
      rw [weightAt_some harray] at hw
      rw [List.count_append, count_reduceOption]
      simp only [holders, JniState.setCount, elementCount] at hw ⊢
      omega
    refine h.change (.array a) ?_ (fun _ hy => hy) (fun _ => ?_) fun y hy => ⟨setCount_ne s none hy, ?_, ?_⟩
    · exact ⟨h.slots.index_pos, h.slots.index_le, h.slots.free, h.slots.beyond, h.slots.objects, h.slots.classes,
        h.slots.cached, h.slots.interned, h.slots.singletons⟩
    · rw [hb, hlast]
      exact ⟨countIs_zero (setCount_same s (.array a) none), by simp [Present, AList.mem_erase]⟩
    · cases y with
      | slot i => exact Iff.rfl
      | array b =>
        have hba : b ≠ a := fun he => hy (by rw [he])
        simp [Present, AList.mem_erase, hba]
    · rw [hb, count_cons_ne p hy]
  · have hlen := length_erase harray
    simp only [live, JniState.setCount]
    omega
  · exact ⟨rfl, rfl, rfl, rfl, rfl, rfl⟩

omit [Fintype Thread] in
theorem Slots.used_index (h : Slots s) {i : Nat} (hi : s.segmentTypes i ≠ .empty) : 0 < i ∧ i < s.refIndex := by
  by_contra hc
  exact hi (h.beyond i (by omega))

/-- The state once the object in a slot is destroyed. -/
def withoutObject (s : JniState Thread) (i : Nat) : JniState Thread :=
  { s.setCount (.slot i) none with
    segmentTypes := upd s.segmentTypes i .empty
    freeSlots := s.freeSlots ++ [i]
    objectStorage := s.objectStorage.erase i }

omit [Fintype Thread] in
theorem destroy_object (order : FieldOrder) (hs : Slots s) {i : Nat} (ht : Tracked s (.slot i)) {object : PseudoJavaObject}
    (hobject : s.objectStorage.lookup i = some object) :
    destroy order (.slot i) (s.setCount (.slot i) none) = (withoutObject s i, order.values object.objectFields) := by
  have htype : s.segmentTypes i = .object := (hs.objects i).mp (AList.lookup_isSome.mp (by rw [hobject]; rfl))
  obtain ⟨hpos, hlt⟩ := hs.used_index (i := i) (by rw [htype]; decide)
  have hcap := hs.index_le
  have hclass : Handle.slot i ∉ (s.setCount (.slot i) none).knownClasses := ht.1
  have hany : ¬ ((s.setCount (.slot i) none).singletonObjects.entries.any (fun e => e.2 == some (Handle.slot i))) = true :=
    fun h => ht.2 (singleton_any.mp h)
  have hindex : jniIndexFromHandle (.slot i) = i := Nat.mod_eq_of_lt (by unfold kJniSegmentCapacity at hcap; omega)
  have hbounds : 0 < i ∧ i < kJniSegmentCapacity := ⟨hpos, by omega⟩
  simp only [JniState.destroy, arrayFromRef]
  rw [if_neg hclass, if_neg hany, hindex]
  simp only [if_pos hbounds, JniState.setCount, hobject]
  rfl

omit [Fintype Thread] in
theorem slots_withoutObject (hs : Slots s) {i : Nat} (ht : Tracked s (.slot i)) (htype : s.segmentTypes i = .object) :
    Slots (withoutObject s i) := by
  obtain ⟨hpos, hlt⟩ := hs.used_index (i := i) (by rw [htype]; decide)
  refine ⟨hs.index_pos, hs.index_le, ?_, fun j hj => ?_, fun j => ?_, fun x => ?_, hs.cached, hs.interned, fun x hx => ?_⟩
  · refine hs.free.give hlt (by simp [htype]) (by simp [withoutObject]; omega) fun j hj => ?_
    simp [withoutObject, upd_ne _ _ hj]
  · by_cases hji : j = i
    · subst hji
      exact upd_same _ _ _
    · exact (upd_ne _ _ hji).trans (hs.beyond j hj)
  · by_cases hji : j = i
    · subst hji
      simp [withoutObject, AList.mem_erase]
    · have hj := hs.objects j
      simp [withoutObject, AList.mem_erase, hji, upd_ne _ _ hji, hj]
  · rw [show (withoutObject s i).knownClasses = s.knownClasses from rfl, hs.classes x]
    refine exists_congr fun j => and_congr_right fun hj => ?_
    by_cases hji : j = i
    · subst hji
      simp [withoutObject, htype]
    · simp [withoutObject, upd_ne _ _ hji]
  · obtain ⟨j, rfl, hj⟩ := hs.singletons x hx
    have hji : j ≠ i := by
      intro heq
      subst heq
      exact ht.2 hx
    exact ⟨j, rfl, (upd_ne _ _ hji).trans hj⟩

/-- The last reference of an object: its fields are on the way now, and its slot is free. -/
theorem Owes.destroyObject (order : FieldOrder) {i : Nat} (h : Owes s (.slot i :: p)) (ht : Tracked s (.slot i))
    (hlast : holders s (.slot i) + p.count (.slot i) = 0) :
    ∃ s' children, destroy order (.slot i) (s.setCount (.slot i) none) = (s', children) ∧
      Owes s' (children.reduceOption ++ p) ∧ s'.live + 1 = s.live ∧ Kept s s' := by
  have hpresent : i ∈ s.objectStorage := (h.present _ ht).mpr (by rw [count_cons_self]; omega)
  obtain ⟨object, hobject⟩ := Option.isSome_iff_exists.mp (AList.lookup_isSome.mpr hpresent)
  have htype := (h.slots.objects i).mp hpresent
  refine ⟨withoutObject s i, order.values object.objectFields, destroy_object order h.slots ht hobject, ?_, ?_,
    ⟨rfl, rfl, rfl, rfl, rfl, rfl⟩⟩
  · have hb : ∀ y, holders (withoutObject s i) y + ((order.values object.objectFields).reduceOption ++ p).count y =
        holders s y + p.count y := by
      intro y
      have hw := weigh_erase (fieldCount y) s.objectStorage i
      have hfields : (order.values object.objectFields).count (some y) = fieldCount y object := by
        rw [(order.perm object.objectFields).count_eq, fieldCount, weigh]
        generalize object.objectFields.entries = l
        induction l with
        | nil => rfl
        | cons e l ih =>
          simp only [List.map_cons, List.sum_cons, List.count_cons, ih, pointsTo, beq_iff_eq]
          omega
      rw [weightAt_some hobject] at hw
      rw [List.count_append, count_reduceOption, hfields]
      simp only [holders, withoutObject, JniState.setCount] at hw ⊢
      omega
    refine h.change (.slot i) (slots_withoutObject h.slots ht htype) (fun _ hy => hy) (fun _ => ?_)
      fun y hy => ⟨setCount_ne s none hy, ?_, ?_⟩
    · rw [hb, hlast]
      exact ⟨countIs_zero (setCount_same s (.slot i) none), by simp [Present, withoutObject, AList.mem_erase]⟩
    · cases y with
      | array a => exact Iff.rfl
      | slot j =>
        have hji : j ≠ i := fun he => hy (by rw [he])
        simp [Present, withoutObject, AList.mem_erase, hji]
    · rw [hb, count_cons_ne p hy]
  · have hlen := length_erase hobject
    simp only [live, withoutObject, JniState.setCount]
    omega

/-- The last reference of a tracked handle. -/
theorem Owes.destroy (order : FieldOrder) (h : Owes s (x :: p)) (ht : Tracked s x)
    (hlast : holders s x + p.count x = 0) :
    ∃ s' children, JniState.destroy order x (s.setCount x none) = (s', children) ∧
      Owes s' (children.reduceOption ++ p) ∧ s'.live + 1 = s.live ∧ Kept s s' := by
  cases x with
  | slot i => exact h.destroyObject order ht hlast
  | array a => exact h.destroyArray order ht hlast

/-- A release takes one reference off those on the way, whatever it destroys. -/
theorem releaseWithin_owes (order : FieldOrder) (fuel : Nat) :
    ∀ {s : JniState Thread} {p : List Handle} {x : Handle}, Owes s (x :: p) → s.live < fuel →
      Owes (releaseWithin order fuel (some x) s) p ∧ (releaseWithin order fuel (some x) s).live ≤ s.live ∧
        Kept s (releaseWithin order fuel (some x) s) := by
  induction fuel with
  | zero => exact fun _ hlive => absurd hlive (Nat.not_lt_zero _)
  | succ fuel ih =>
    intro s p x h hlive
    -- the children of what is destroyed, one after the other
    have hall : ∀ (children : List JObject) (s : JniState Thread), Owes s (children.reduceOption ++ p) → s.live < fuel →
        Owes (children.foldl (fun s child => releaseWithin order fuel child s) s) p ∧
          (children.foldl (fun s child => releaseWithin order fuel child s) s).live ≤ s.live ∧
          Kept s (children.foldl (fun s child => releaseWithin order fuel child s) s) := by
      intro children
      induction children with
      | nil => exact fun s hs _ => ⟨hs, le_rfl, Kept.refl s⟩
      | cons child children ihc =>
        intro s hs hl
        cases child with
        | none =>
          have hnone : releaseWithin order fuel none s = s := by cases fuel <;> rfl
          rw [List.foldl_cons, hnone]
          exact ihc s hs hl
        | some y =>
          obtain ⟨hy, hyl, hyk⟩ := ih hs hl
          obtain ⟨hr, hrl, hrk⟩ := ihc _ hy (by omega)
          exact ⟨hr, by rw [List.foldl_cons]; omega, hyk.trans hrk⟩
    have hpos : ∀ c, Tracked s x → CountIs (some c) (holders s x + p.count x + 1) → 1 < c →
        Owes (s.setCount x (some (c - 1))) p := by
      intro c ht hc h1
      have h1 : 1 < c.toNat := UInt32.lt_iff_toNat_lt.mp h1
      refine h.setCount _ (fun _ => ⟨⟨?_, ?_⟩, ?_⟩) fun y hy => (count_cons_ne p hy).symm
      · rw [uint32_sub_one hc.1 hc.2]
        omega
      · have := hc.1
        omega
      · have := hc.1
        exact ⟨fun _ => by omega, fun _ => (h.present x ht).mpr (by rw [count_cons_self]; omega)⟩
    by_cases ht : Tracked s x
    · have hc := h.counts x ht
      rw [count_cons_self, ← Nat.add_assoc] at hc
      cases hcount : s.refCounts x with
      | none =>
        rw [hcount] at hc
        cases hc
      | some c =>
        rw [hcount] at hc
        simp only [releaseWithin, hcount]
        by_cases h1 : 1 < c
        · rw [if_pos h1]
          exact ⟨hpos c ht hc h1, le_rfl, ⟨rfl, rfl, rfl, rfl, rfl, rfl⟩⟩
        · rw [if_neg h1]
          have h1 : ¬ 1 < c.toNat := fun hh => h1 (UInt32.lt_iff_toNat_lt.mpr hh)
          obtain ⟨s', children, hd, ho, hl, hk⟩ := h.destroy order ht (by have := hc.1; omega)
          simp only [hd]
          obtain ⟨hr, hrl, hrk⟩ := hall children s' ho (by omega)
          exact ⟨hr, by omega, hk.trans hrk⟩
    · -- classes and singletons lose at most their count
      have huncounted : ∀ c, Owes (s.setCount x c) p := fun c =>
        h.setCount c (fun hx => absurd hx ht) fun y hy => (count_cons_ne p hy).symm
      have hs := slots_setCount h.slots x none
      have hd : JniState.destroy order x (s.setCount x none) = (s.setCount x none, []) := destroy_untracked order hs ht
      cases hcount : s.refCounts x with
      | none =>
        have hsame : s.setCount x none = s := by
          have hfun : (fun y => if y = x then none else s.refCounts y) = s.refCounts := by
            funext y
            by_cases hy : y = x
            · rw [if_pos hy, hy, hcount]
            · exact if_neg hy
          unfold JniState.setCount
          rw [hfun]
        rw [hsame] at hd
        simp only [releaseWithin, hcount, hd, List.foldl_nil]
        exact ⟨hsame ▸ huncounted none, le_rfl, Kept.refl s⟩
      | some c =>
        simp only [releaseWithin, hcount, hd, List.foldl_nil]
        split
        · exact ⟨huncounted _, le_rfl, ⟨rfl, rfl, rfl, rfl, rfl, rfl⟩⟩
        · exact ⟨huncounted _, le_rfl, ⟨rfl, rfl, rfl, rfl, rfl, rfl⟩⟩

theorem Owes.release (order : FieldOrder) {obj : JObject} (h : Owes s (obj.toList ++ p)) :
    Owes (JniState.release order obj s) p ∧ Kept s (JniState.release order obj s) := by
  cases obj with
  | none => exact ⟨h, Kept.refl s⟩
  | some x =>
    obtain ⟨ho, -, hk⟩ := releaseWithin_owes order (s.live + 1) h (Nat.lt_succ_self _)
    exact ⟨ho, hk⟩

theorem Owes.releaseAll (order : FieldOrder) {objs : List JObject} (h : Owes s (objs.reduceOption ++ p)) :
    Owes (JniState.releaseAll order objs s) p ∧ Kept s (JniState.releaseAll order objs s) := by
  induction objs generalizing s with
  | nil => exact ⟨h, Kept.refl s⟩
  | cons obj objs ih =>
    have hobj : (obj :: objs).reduceOption = obj.toList ++ objs.reduceOption := by cases obj <;> rfl
    rw [hobj, List.append_assoc] at h
    obtain ⟨ho, hk⟩ := h.release order
    obtain ⟨hr, hrk⟩ := ih ho
    exact ⟨hr, hk.trans hrk⟩

end

end Mocktail.Jni

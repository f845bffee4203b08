/-
  Mocktail.Jni.RefCalls — every call of the pseudo-JVM keeps the account of its references.

  Each call is a few moves on `Owes`: it retains (`Owes.retainObject`), it stores or erases a
  holder (`Owes.move`), it makes something new (`Owes.storeObject`, `Owes.storeArray`,
  `Owes.storeClass`), it releases (`Owes.release`). What holds a handle in some table keeps it
  alive (`Owes.alive`), so what a getter reads may be retained.

  The caches of classes and singletons only grow (`Extends`).
-/

import Mocktail.Jni.RefCounts

namespace Mocktail.Jni

open Mocktail.Lib JniState

attribute [local simp] JniState.setCount

/-! ## Moves -/

section
variable {Thread : Type}

/-- The caches only grow. -/
structure Extends (s s' : JniState Thread) : Prop where
  classes : ∀ name h, s.classHandleCache.lookup name = some h → s'.classHandleCache.lookup name = some h
  singletons : ∀ name h, s.singletonObjects.lookup name = some (some h) → s'.singletonObjects.lookup name = some (some h)

variable {s s' s'' : JniState Thread} {obj : JObject}

theorem extends_of_eq (hc : s'.classHandleCache = s.classHandleCache) (hs : s'.singletonObjects = s.singletonObjects) :
    Extends s s' := by
  refine ⟨fun name h hn => ?_, fun name h hn => ?_⟩
  · rw [hc]
    exact hn
  · rw [hs]
    exact hn

theorem Kept.extends (h : Kept s s') : Extends s s' := extends_of_eq h.classHandleCache h.singletonObjects

theorem Extends.trans (h : Extends s s') (h' : Extends s' s'') : Extends s s'' :=
  ⟨fun name x hn => h'.classes name x (h.classes name x hn), fun name x hn => h'.singletons name x (h.singletons name x hn)⟩

theorem Extends.keeps (h : Extends s s') (hs : Slots s') : Keeps s s' := by
  refine ⟨fun name x hn => ?_, fun name x hn => ?_⟩
  · have hn := h.classes name x hn
    exact ⟨hn, (hs.cached x).mpr ⟨name, hn⟩⟩
  · have hn := h.singletons name x hn
    obtain ⟨i, rfl, hi⟩ := hs.singletons x ⟨name, hn⟩
    exact ⟨hn, (hs.objects i).mpr hi⟩

theorem retain_refCounts (obj : JObject) (s : JniState Thread) :
    ∃ counts, s.retainJniReference obj = { s with refCounts := counts } := by
  unfold retainJniReference
  cases obj with
  | none => exact ⟨s.refCounts, rfl⟩
  | some h =>
    simp only
    cases s.refCounts h with
    | none => exact ⟨_, rfl⟩
    | some count => exact ⟨_, rfl⟩

theorem extends_retain (obj : JObject) (s : JniState Thread) : Extends s (s.retainJniReference obj) := by
  obtain ⟨counts, hcounts⟩ := retain_refCounts obj s
  rw [hcounts]
  exact extends_of_eq rfl rfl

theorem count_toList (obj : JObject) (x : Handle) : obj.toList.count x = pointsTo x obj := by
  unfold pointsTo
  cases obj with
  | none => rfl
  | some h => simp [List.count_cons]

end

section
variable {Thread : Type} [Fintype Thread]
variable {s s' : JniState Thread} {obj : JObject} {p p' : List Handle} {x : Handle}

theorem Owes.alive (h : Owes s p) (hx : 0 < holders s x + p.count x) : Alive s x := by
  by_cases hc : IsClass s x
  · exact .inr hc
  · refine .inl ?_
    by_cases hsing : IsSingleton s x
    · obtain ⟨i, rfl, hi⟩ := h.slots.singletons x hsing
      exact (h.slots.objects i).mpr hi
    · exact (h.present x ⟨hc, hsing⟩).mpr hx

theorem Owes.retainObject (h : Owes s p) (hv : Valid s obj)
    (hfit : ∀ y, obj = some y → holders s y + p.count y + 1 < 2 ^ 32) :
    Owes (s.retainJniReference obj) (obj.toList ++ p) := by
  cases obj with
  | none => exact h
  | some y => exact h.retain (hv y rfl) (hfit y rfl)

theorem Owes.perm (h : Owes s p) (hp : p.Perm p') : Owes s p' :=
  h.move ⟨rfl, rfl, rfl, rfl, rfl, rfl, rfl, fun _ => Iff.rfl, fun _ => Iff.rfl⟩ fun y => by rw [hp.count_eq]

/-- The loop of `MakeObjectArray` puts every element on the way. -/
theorem Owes.retainTimes (n : Nat) (h : Owes s p) (hv : Valid s obj)
    (hfit : ∀ y, obj = some y → holders s y + p.count y + n < 2 ^ 32) :
    Owes (JniState.retainTimes n obj s) ((List.replicate n obj).reduceOption ++ p) ∧
      Kept s (JniState.retainTimes n obj s) ∧ (JniState.retainTimes n obj s).arrayStorage = s.arrayStorage := by
  induction n generalizing s p with
  | zero => exact ⟨h, Kept.refl s, rfl⟩
  | succ n ih =>
    have hnext := h.retainObject hv fun y hy => by
      have := hfit y hy
      omega
    obtain ⟨counts, hcounts⟩ := retain_refCounts obj s
    have hrest : Valid (s.retainJniReference obj) obj ∧ ∀ y, obj = some y →
        holders (s.retainJniReference obj) y + (obj.toList ++ p).count y + n < 2 ^ 32 := by
      rw [hcounts]
      refine ⟨hv, fun y hy => ?_⟩
      have hfit := hfit y hy
      have hone : pointsTo y obj = 1 := if_pos hy
      rw [List.count_append, count_toList, hone]
      simp only [holders] at hfit ⊢
      omega
    obtain ⟨ho, hk, ha⟩ := ih hnext hrest.1 hrest.2
    have hlist : (List.replicate (n + 1) obj).reduceOption = obj.toList ++ (List.replicate n obj).reduceOption := by
      cases obj <;> rfl
    have hkept : Kept s (s.retainJniReference obj) ∧ (s.retainJniReference obj).arrayStorage = s.arrayStorage := by
      rw [hcounts]
      exact ⟨⟨rfl, rfl, rfl, rfl, rfl, rfl⟩, rfl⟩
    refine ⟨?_, hkept.1.trans hk, ha.trans hkept.2⟩
    rw [hlist, List.append_assoc]
    exact ho.perm (List.perm_append_comm_assoc _ _ _)

end

/-! ## Local frames -/

theorem localCount_pushEntry (x h : Handle) (frames : List (List Handle)) :
    localCount x (pushEntry h frames) = localCount x frames + [h].count x := by
  cases frames with
  | nil => simp [localCount, pushEntry]
  | cons frame rest =>
    simp only [localCount, pushEntry, List.flatten_cons, List.count_append, List.count_cons, List.count_nil]
    omega

theorem localCount_eraseEntry (x : Handle) {h : Handle} {frames : List (List Handle)} (hh : h ∈ frames.flatten) :
    localCount x (eraseEntry h frames) + [h].count x = localCount x frames := by
  induction frames with
  | nil => simp at hh
  | cons frame rest ih =>
    simp only [localCount] at ih
    unfold eraseEntry
    by_cases hf : h ∈ frame
    · have hperm := (List.perm_cons_erase hf).count_eq x
      rw [if_pos hf]
      simp only [localCount, List.flatten_cons, List.count_append, List.count_cons, List.count_nil] at hperm ⊢
      omega
    · have hrest : h ∈ rest.flatten := by
        rw [List.flatten_cons, List.mem_append] at hh
        exact hh.resolve_left hf
      have ih := ih hrest
      rw [if_neg hf]
      simp only [localCount, List.flatten_cons, List.count_append]
      omega

theorem eraseEntry_not_mem {h : Handle} {frames : List (List Handle)} (hh : h ∉ frames.flatten) :
    eraseEntry h frames = frames := by
  induction frames with
  | nil => rfl
  | cons frame rest ih =>
    rw [List.flatten_cons, List.mem_append, not_or] at hh
    rw [eraseEntry, if_neg hh.1, ih hh.2]

theorem localCount_ensure (x : Handle) (frames : List (List Handle)) :
    localCount x (ensureLocalFrame frames) = localCount x frames := by
  cases frames <;> rfl

section
variable {Thread : Type} [Fintype Thread] [DecidableEq Thread]
variable {s s' : JniState Thread} {obj : JObject} {p p' : List Handle} {x : Handle} {t : Thread}

theorem Owes.setFrames {frames : List (List Handle)} (h : Owes s p)
    (hb : ∀ y, localCount y frames + p'.count y = localCount y (s.localFrames t) + p.count y) :
    Owes (s.setFrames t frames) p' := by
  refine h.move ⟨rfl, rfl, rfl, rfl, rfl, rfl, rfl, fun _ => Iff.rfl, fun _ => Iff.rfl⟩ fun y => ?_
  have hsum := sum_update (localCount y) s.localFrames t frames
  have hb := hb y
  simp only [holders, JniState.setFrames]
  omega

theorem Owes.register (t : Thread) (h : Owes s (obj.toList ++ p)) : Owes (s.registerLocalRef t obj) p := by
  cases obj with
  | none => exact h
  | some y =>
    refine h.setFrames fun z => ?_
    rw [localCount_pushEntry, List.count_append, Option.toList_some]
    omega

theorem Owes.unregister (h : Owes s p)
    (hin : ∀ y, obj = some y → y ∈ (s.localFrames t).flatten ∨ IsClass s y ∨ IsSingleton s y) :
    Owes (s.unregisterLocalRef t obj) (obj.toList ++ p) := by
  cases obj with
  | none => exact h
  | some y =>
    by_cases hy : y ∈ (s.localFrames t).flatten
    · refine h.setFrames fun z => ?_
      have hz := localCount_eraseEntry z hy
      rw [List.count_append, Option.toList_some]
      omega
    · have huntracked : ¬ Tracked s y := fun ht => ((hin y rfl).resolve_left hy).elim ht.1 ht.2
      refine (h.untracked huntracked).setFrames fun z => ?_
      rw [eraseEntry_not_mem hy]
      rfl

omit [Fintype Thread] in
theorem extends_register (t : Thread) (obj : JObject) (s : JniState Thread) : Extends s (s.registerLocalRef t obj) := by
  cases obj with
  | none => exact extends_of_eq rfl rfl
  | some y => exact extends_of_eq rfl rfl

theorem Owes.newLocal (t : Thread) (h : Owes s []) (hv : Valid s obj) (hfit : ∀ y, obj = some y → holders s y + 1 < 2 ^ 32) :
    Owes (s.newLocalJniReference t obj) [] ∧ Extends s (s.newLocalJniReference t obj) :=
  ⟨(h.retainObject hv hfit).register t, (extends_retain obj s).trans (extends_register t obj _)⟩

theorem Owes.deleteLocal (order : FieldOrder) (h : Owes s [])
    (hin : ∀ y, obj = some y → y ∈ (s.localFrames t).flatten ∨ IsClass s y ∨ IsSingleton s y) :
    Owes (deleteLocalJniReference order t obj s) [] ∧ Extends s (deleteLocalJniReference order t obj s) := by
  obtain ⟨ho, hk⟩ := (h.unregister hin).release order
  have hu : Extends s (s.unregisterLocalRef t obj) := by
    cases obj with
    | none => exact extends_of_eq rfl rfl
    | some y => exact extends_of_eq rfl rfl
  exact ⟨ho, hu.trans hk.extends⟩

theorem Owes.pushFrame (t : Thread) (h : Owes s []) : Owes (s.pushLocalJniFrame t) [] := by
  refine h.setFrames fun y => ?_
  rw [show localCount y ([] :: ensureLocalFrame (s.localFrames t)) = localCount y (ensureLocalFrame (s.localFrames t)) from rfl,
    localCount_ensure]

/-- A popped frame: what was in it is on the way. -/
theorem localCount_pop (x : Handle) (frames : List (List Handle)) :
    localCount x (if 1 < (ensureLocalFrame frames).length then (ensureLocalFrame frames).tail else [[]]) +
      ((ensureLocalFrame frames).headD []).count x = localCount x frames := by
  cases frames with
  | nil => rfl
  | cons frame rest =>
    cases rest with
    | nil => simp [localCount, ensureLocalFrame]
    | cons next rest =>
      simp [localCount, ensureLocalFrame]
      omega

/-- The frame is released and the result is handed on; it is counted throughout. -/
theorem Owes.popFrame (order : FieldOrder) (t : Thread) (h : Owes s []) (hv : Valid s obj)
    (hfit : ∀ y, obj = some y → holders s y + 1 < 2 ^ 32) :
    Owes (popLocalJniFrame order t obj s) [] ∧ Extends s (popLocalJniFrame order t obj s) ∧
      Valid (popLocalJniFrame order t obj s) obj := by
  have hretained := h.retainObject hv hfit
  have hext := extends_retain obj s
  have hframes : (s.retainJniReference obj).localFrames = s.localFrames := by
    obtain ⟨counts, hcounts⟩ := retain_refCounts obj s
    rw [hcounts]
  unfold popLocalJniFrame
  simp only
  generalize s.retainJniReference obj = r at *
  generalize hleft : (if 1 < (ensureLocalFrame (s.localFrames t)).length then
    (ensureLocalFrame (s.localFrames t)).tail else [[]]) = left
  have hmoved : Owes (r.setFrames t left)
      ((((ensureLocalFrame (s.localFrames t)).headD []).reverse.map some).reduceOption ++ obj.toList) := by
    refine hretained.setFrames fun y => ?_
    have hpop := localCount_pop y (s.localFrames t)
    rw [hleft] at hpop
    rw [hframes, List.append_nil, List.count_append, count_reduceOption,
      List.count_map_of_injective _ _ (Option.some_injective _), List.count_reverse]
    omega
  obtain ⟨ho, hk⟩ := hmoved.releaseAll order
  refine ⟨(ho.perm (by simp)).register t, (hext.trans ?_).trans (extends_register t obj _), fun y hy => ?_⟩
  · have hset : Extends r (r.setFrames t left) := extends_of_eq rfl rfl
    exact hset.trans hk.extends
  · subst hy
    exact ho.alive (x := y) (by simp)

end

/-! ## Globals, fields and elements -/

section
variable {Thread : Type} [Fintype Thread]
variable {s s' : JniState Thread} {obj value : JObject} {p p' : List Handle} {x : Handle}

theorem Owes.newGlobal (h : Owes s []) (hv : Valid s obj) (hfit : ∀ y, obj = some y → holders s y + 1 < 2 ^ 32) :
    Owes { s.retainJniReference obj with globals := obj.toList ++ s.globals } [] := by
  have hr := h.retainObject hv hfit
  obtain ⟨counts, hcounts⟩ := retain_refCounts obj s
  rw [hcounts] at hr ⊢
  refine hr.move ⟨rfl, rfl, rfl, rfl, rfl, rfl, rfl, fun _ => Iff.rfl, fun _ => Iff.rfl⟩ fun y => ?_
  simp only [holders, List.count_append, List.append_nil, List.count_nil]
  omega

theorem Owes.deleteGlobal (order : FieldOrder) (h : Owes s []) (hin : ∀ y, obj = some y → y ∈ s.globals) :
    Owes (JniState.release order obj { s with globals := obj.elim s.globals fun x => s.globals.erase x }) [] ∧
      Extends s (JniState.release order obj { s with globals := obj.elim s.globals fun x => s.globals.erase x }) := by
  have hmoved : Owes { s with globals := obj.elim s.globals fun x => s.globals.erase x } (obj.toList ++ []) := by
    refine h.move ⟨rfl, rfl, rfl, rfl, rfl, rfl, rfl, fun _ => Iff.rfl, fun _ => Iff.rfl⟩ fun y => ?_
    cases obj with
    | none => rfl
    | some z =>
      have hperm := (List.perm_cons_erase (hin z rfl)).count_eq y
      simp only [holders, Option.elim_some, Option.toList_some, List.append_nil, List.count_cons, List.count_nil] at hperm ⊢
      omega
  obtain ⟨ho, hk⟩ := hmoved.release order
  have hset : Extends s { s with globals := obj.elim s.globals fun x => s.globals.erase x } := extends_of_eq rfl rfl
  exact ⟨ho, hset.trans hk.extends⟩

theorem weightAt_pointsTo (x : Handle) (fields : FieldMap) (name : String) :
    weightAt (pointsTo x) fields name = pointsTo x ((fields.lookup name).getD none) := by
  unfold weightAt
  cases fields.lookup name with
  | none => rfl
  | some obj => rfl

/-- A write: the new value is retained, takes the place of the old one, and the old one is released. -/
theorem Owes.overwrite (order : FieldOrder) {prev : JObject} (h : Owes s []) (hv : Valid s value)
    (hfit : ∀ y, value = some y → holders s y + 1 < 2 ^ 32) (hs : SameTables (s.retainJniReference value) s')
    (hb : ∀ y, holders s' y + pointsTo y prev = holders s y + pointsTo y value) :
    Owes (JniState.release order prev s') [] ∧ Extends s (JniState.release order prev s') := by
  have hmoved : Owes s' (prev.toList ++ []) := by
    refine (h.retainObject hv hfit).move hs fun y => ?_
    obtain ⟨counts, hcounts⟩ := retain_refCounts value s
    rw [List.append_nil, List.append_nil, count_toList, count_toList, hb, hcounts]
    rfl
  obtain ⟨ho, hk⟩ := hmoved.release order
  have hset : Extends (s.retainJniReference value) s' := extends_of_eq hs.classHandleCache hs.singletonObjects
  exact ⟨ho, ((extends_retain value s).trans hset).trans hk.extends⟩

theorem Owes.setStatic (order : FieldOrder) (name : String) (h : Owes s []) (hv : Valid s value)
    (hfit : ∀ y, value = some y → holders s y + 1 < 2 ^ 32) :
    Owes (setStaticObjectFieldRaw order name value s) [] ∧ Extends s (setStaticObjectFieldRaw order name value s) := by
  unfold setStaticObjectFieldRaw
  refine h.overwrite order hv hfit ⟨rfl, rfl, rfl, rfl, rfl, rfl, rfl, fun _ => Iff.rfl, fun _ => Iff.rfl⟩ fun y => ?_
  obtain ⟨counts, hcounts⟩ := retain_refCounts value s
  have hw := weigh_insert (pointsTo y) s.staticObjectFields name value
  rw [weightAt_pointsTo] at hw
  simp only [hcounts, holders]
  omega

omit [Fintype Thread] in
theorem pseudoObject_some {i : Nat} {object : PseudoJavaObject} (ho : s.pseudoObjectFromRef obj = some (i, object)) :
    s.objectStorage.lookup i = some object := by
  unfold pseudoObjectFromRef at ho
  cases obj with
  | none => cases ho
  | some y =>
    simp only at ho
    split at ho
    · rw [Option.map_eq_some_iff] at ho
      obtain ⟨found, hfound, heq⟩ := ho
      cases heq
      exact hfound
    · cases ho

omit [Fintype Thread] in
theorem array_some {a : Nat} {array : PseudoArray} (ho : s.arrayFromRef obj = some (a, array)) :
    s.arrayStorage.lookup a = some array := by
  rcases obj with _ | (i | b)
  · cases ho
  · cases ho
  · simp only [arrayFromRef, Option.map_eq_some_iff] at ho
    obtain ⟨found, hfound, heq⟩ := ho
    cases heq
    exact hfound

theorem mem_insert_of_lookup {α : Type} {m : AList fun _ : Nat => α} {k : Nat} {v w : α} (h : m.lookup k = some v) (j : Nat) :
    j ∈ m.insert k w ↔ j ∈ m := by
  rw [AList.mem_insert]
  constructor
  · intro hor
    rcases hor with rfl | hj
    · exact AList.lookup_isSome.mp (by rw [h]; rfl)
    · exact hj
  · exact .inr

theorem Owes.setField (order : FieldOrder) (fieldName : String) (h : Owes s []) (hv : Valid s value)
    (hfit : ∀ y, value = some y → holders s y + 1 < 2 ^ 32) :
    Owes (setObjectFieldRaw order obj fieldName value s) [] ∧ Extends s (setObjectFieldRaw order obj fieldName value s) := by
  unfold setObjectFieldRaw
  cases ho : s.pseudoObjectFromRef obj with
  | none => exact ⟨h, extends_of_eq rfl rfl⟩
  | some found =>
    obtain ⟨i, object⟩ := found
    have hi := pseudoObject_some ho
    obtain ⟨counts, hcounts⟩ := retain_refCounts value s
    refine h.overwrite order hv hfit ⟨rfl, rfl, rfl, rfl, rfl, rfl, rfl, fun j => ?_, fun _ => Iff.rfl⟩ fun y => ?_
    · rw [hcounts]
      exact mem_insert_of_lookup hi j
    · have hw := weigh_insert (fieldCount y) s.objectStorage i
        { object with objectFields := object.objectFields.insert fieldName value }
      have hfields := weigh_insert (pointsTo y) object.objectFields fieldName value
      rw [weightAt_some hi] at hw
      rw [weightAt_pointsTo] at hfields
      simp only [fieldCount] at hw
      simp only [hcounts, holders]
      omega

theorem Owes.setElement (order : FieldOrder) (index : Int) (h : Owes s []) (hv : Valid s value)
    (hfit : ∀ y, value = some y → holders s y + 1 < 2 ^ 32) :
    Owes (JniState.setObjectArrayElement order obj index value s) [] ∧
      Extends s (JniState.setObjectArrayElement order obj index value s) := by
  unfold JniState.setObjectArrayElement
  cases ho : s.arrayFromRef obj with
  | none => exact ⟨h, extends_of_eq rfl rfl⟩
  | some found =>
    obtain ⟨a, array⟩ := found
    have ha := array_some ho
    simp only
    by_cases hrange : index < 0 ∨ array.objects.length ≤ index.toNat
    · rw [if_pos hrange]
      exact ⟨h, extends_of_eq rfl rfl⟩
    · have hlt : index.toNat < array.objects.length := by omega
      rw [if_neg hrange]
      obtain ⟨counts, hcounts⟩ := retain_refCounts value s
      refine h.overwrite order hv hfit ⟨rfl, rfl, rfl, rfl, rfl, rfl, rfl, fun _ => Iff.rfl, fun j => ?_⟩ fun y => ?_
      · rw [hcounts]
        exact mem_insert_of_lookup ha j
      · have hw := weigh_insert (elementCount y) s.arrayStorage a { array with objects := array.objects.set index.toNat value }
        rw [weightAt_some ha] at hw
        have hset := List.count_set (a := value) (b := some y) hlt
        have hle := List.boole_getElem_le_count (a := some y) hlt
        rw [List.getD_eq_getElem?_getD, List.getElem?_eq_getElem hlt, Option.getD_some]
        simp only [elementCount, beq_iff_eq] at hw hset hle
        simp only [hcounts, holders, pointsTo]
        omega

end

/-! ## Reads -/

section
variable {Thread : Type} [Fintype Thread]
variable {s : JniState Thread} {obj : JObject}

theorem Owes.valid_static (h : Owes s []) (name : String) : Valid s ((s.staticObjectFields.lookup name).getD none) := by
  intro y hy
  refine h.alive ?_
  have hle := weightAt_le (pointsTo y) s.staticObjectFields name
  rw [weightAt_pointsTo, pointsTo, if_pos hy] at hle
  simp only [holders]
  omega

theorem Owes.valid_field (h : Owes s []) {i : Nat} {object : PseudoJavaObject} (ho : s.objectStorage.lookup i = some object)
    (fieldName : String) : Valid s ((object.objectFields.lookup fieldName).getD none) := by
  intro y hy
  refine h.alive ?_
  have hfield := weightAt_le (pointsTo y) object.objectFields fieldName
  have hobject := weightAt_le (fieldCount y) s.objectStorage i
  rw [weightAt_pointsTo, pointsTo, if_pos hy] at hfield
  rw [weightAt_some ho, fieldCount] at hobject
  simp only [holders]
  omega

theorem Owes.valid_element (h : Owes s []) {a : Nat} {array : PseudoArray} (ha : s.arrayStorage.lookup a = some array)
    (n : Nat) : Valid s (array.objects.getD n none) := by
  intro y hy
  refine h.alive ?_
  have harray := weightAt_le (elementCount y) s.arrayStorage a
  have hmem : some y ∈ array.objects := by
    rw [List.getD_eq_getElem?_getD] at hy
    cases hn : array.objects[n]? with
    | none =>
      rw [hn] at hy
      cases hy
    | some z =>
      rw [hn] at hy
      have hz : z = some y := hy
      exact hz ▸ List.mem_of_getElem? hn
  have hpos := List.count_pos_iff.mpr hmem
  rw [weightAt_some ha, elementCount] at harray
  simp only [holders]
  omega

variable [DecidableEq Thread]

theorem Owes.getStatic (t : Thread) (name : String) (h : Owes s [])
    (hfit : ∀ y, (s.staticObjectFieldValue t name).2 = some y → holders s y + 1 < 2 ^ 32) :
    Owes (s.staticObjectFieldValue t name).1 [] ∧ Extends s (s.staticObjectFieldValue t name).1 :=
  h.newLocal t (h.valid_static name) hfit

theorem Owes.getField (t : Thread) (fieldName : String) (h : Owes s [])
    (hfit : ∀ y, (s.objectFieldValue t obj fieldName).2 = some y → holders s y + 1 < 2 ^ 32) :
    Owes (s.objectFieldValue t obj fieldName).1 [] ∧ Extends s (s.objectFieldValue t obj fieldName).1 := by
  unfold objectFieldValue at hfit ⊢
  cases ho : s.pseudoObjectFromRef obj with
  | none => exact ⟨h, extends_of_eq rfl rfl⟩
  | some found =>
    rw [ho] at hfit
    exact h.newLocal t (h.valid_field (pseudoObject_some ho) fieldName) hfit

theorem Owes.getElement (t : Thread) (index : Int) (h : Owes s [])
    (hfit : ∀ y, (JniState.getObjectArrayElement t obj index s).2 = some y → holders s y + 1 < 2 ^ 32) :
    Owes (JniState.getObjectArrayElement t obj index s).1 [] ∧ Extends s (JniState.getObjectArrayElement t obj index s).1 := by
  unfold JniState.getObjectArrayElement at hfit ⊢
  cases ho : s.arrayFromRef obj with
  | none => exact ⟨h, extends_of_eq rfl rfl⟩
  | some found =>
    obtain ⟨a, array⟩ := found
    simp only [ho] at hfit ⊢
    by_cases hrange : index < 0 ∨ array.objects.length ≤ index.toNat
    · rw [if_pos hrange]
      exact ⟨h, extends_of_eq rfl rfl⟩
    · rw [if_neg hrange] at hfit ⊢
      exact h.newLocal t (h.valid_element (array_some ho) index.toNat) hfit

end

/-! ## New objects, arrays and classes -/

section
variable {Thread : Type}
variable {s s' : JniState Thread} {type : SegmentType}

/-- A slot the segment table gave away: it was empty, and the table is still in order. -/
structure Taken (s : JniState Thread) (type : SegmentType) (s' : JniState Thread) (i : Nat) : Prop where
  pos : 0 < i
  empty : s.segmentTypes i = .empty
  lt : i < s'.refIndex
  grows : s.refIndex ≤ s'.refIndex
  index_le : s'.refIndex ≤ kJniSegmentCapacity
  free : FreeList s'.refIndex (fun j => decide (j = 0) || decide (upd s.segmentTypes i type j ≠ .empty)) s'.freeSlots
  rest : s' = { s with refIndex := s'.refIndex, freeSlots := s'.freeSlots, segmentTypes := upd s.segmentTypes i type }

theorem allocate_cases (type : SegmentType) (hs : Slots s) (htype : type ≠ .empty) :
    s.allocateSegmentSlot type = (s, 0) ∨
      ∃ s' i, s.allocateSegmentSlot type = (s', i) ∧ Taken s type s' i := by
  have husedNew : ∀ i, (decide (i = 0) || decide (upd s.segmentTypes i type i ≠ .empty)) = true := by
    intro i
    simp [htype]
  have husedOld : ∀ i j, j ≠ i → (decide (j = 0) || decide (upd s.segmentTypes i type j ≠ .empty)) =
      (decide (j = 0) || decide (s.segmentTypes j ≠ .empty)) := by
    intro i j hj
    rw [upd_ne _ _ hj]
  unfold allocateSegmentSlot
  cases hlast : s.freeSlots.getLast? with
  | some i =>
    have hsplit : s.freeSlots = s.freeSlots.dropLast ++ [i] := (List.dropLast_append_getLast? i hlast).symm
    have hi := (hs.free.mem i).mp (by rw [hsplit]; simp)
    simp only [Bool.or_eq_false_iff, decide_eq_false_iff_not, not_not] at hi
    have hfree := hs.free
    rw [hsplit] at hfree
    exact .inr ⟨_, i, rfl, ⟨Nat.pos_of_ne_zero hi.2.1, hi.2.2, hi.1, le_rfl, hs.index_le,
      hfree.take (husedNew i) (husedOld i), rfl⟩⟩
  | none =>
    have hnil : s.freeSlots = [] := List.getLast?_eq_none_iff.mp hlast
    simp only
    by_cases hroom : 0 < s.refIndex ∧ s.refIndex < kJniSegmentCapacity
    · rw [if_pos hroom]
      refine .inr ⟨_, s.refIndex, rfl, ⟨hroom.1, hs.beyond _ (.inr le_rfl), Nat.lt_succ_self _, Nat.le_succ _, hroom.2, ?_, rfl⟩⟩
      refine ⟨hs.free.nodup, fun j => ?_⟩
      by_cases hj : j = s.refIndex
      · have hused := husedNew s.refIndex
        rw [hj, hused, hnil]
        simp
      · have hmem := hs.free.mem j
        rw [husedOld s.refIndex j hj]
        simp only at hmem ⊢
        rw [hmem]
        constructor
        · exact fun hf => ⟨Nat.lt_succ_of_lt hf.1, hf.2⟩
        · exact fun hf => ⟨by omega, hf.2⟩
    · rw [if_neg hroom]
      exact .inl rfl

theorem Taken.beyond {i : Nat} (ht : Taken s type s' i) (hs : Slots s) (j : Nat) (hj : j = 0 ∨ s'.refIndex ≤ j) :
    upd s.segmentTypes i type j = .empty := by
  have hpos := ht.pos
  have hlt := ht.lt
  have hgrows := ht.grows
  rw [upd_ne _ _ (show j ≠ i by omega)]
  exact hs.beyond j (by omega)

theorem Slots.not_alive (hs : Slots s) {i : Nat} (hi : s.segmentTypes i = .empty) : ¬ Alive s (.slot i) := by
  intro hor
  rcases hor with hp | hc
  · have := (hs.objects i).mp hp
    rw [hi] at this
    cases this
  · obtain ⟨j, hj, htype⟩ := (hs.classes _).mp hc
    cases hj
    rw [hi] at htype
    cases htype

theorem Slots.tracked_of_empty (hs : Slots s) {i : Nat} (hi : s.segmentTypes i = .empty) : Tracked s (.slot i) := by
  refine ⟨fun hc => hs.not_alive hi (.inr hc), fun hsing => ?_⟩
  obtain ⟨j, hj, htype⟩ := hs.singletons _ hsing
  cases hj
  rw [hi] at htype
  cases htype

theorem Slots.tracked_array (hs : Slots s) (a : Nat) : Tracked s (.array a) := by
  refine ⟨fun hc => ?_, fun hsing => ?_⟩
  · obtain ⟨i, hi, -⟩ := (hs.classes _).mp hc
    cases hi
  · obtain ⟨i, hi, -⟩ := hs.singletons _ hsing
    cases hi

/-- The state once an object is in a slot, with a count of 1. -/
def withObject (s : JniState Thread) (i : Nat) (object : PseudoJavaObject) : JniState Thread :=
  ({ s with objectStorage := s.objectStorage.insert i object }).setCount (.slot i) (some 1)

theorem slots_withObject {i : Nat} (hs : Slots s) (ht : Taken s .object s' i) (object : PseudoJavaObject) :
    Slots (withObject s' i object) := by
  have hbeyond := ht.beyond hs
  obtain ⟨-, hempty, -, hgrows, hle, hfree, hrest⟩ := ht
  generalize s'.refIndex = n at *
  generalize s'.freeSlots = free at *
  subst hrest
  refine ⟨le_trans hs.index_pos hgrows, hle, hfree, hbeyond, fun j => ?_, fun x => ?_, hs.cached, hs.interned, fun x hx => ?_⟩
  · by_cases hj : j = i
    · subst hj
      simp [withObject]
    · simp [withObject, hj, upd_ne _ _ hj, hs.objects j]
  · refine (hs.classes x).trans (exists_congr fun j => and_congr_right fun _ => ?_)
    by_cases hj : j = i
    · subst hj
      simp [withObject, hempty]
    · simp [withObject, upd_ne _ _ hj]
  · obtain ⟨j, rfl, hj⟩ := hs.singletons x hx
    have hji : j ≠ i := by
      intro heq
      subst heq
      rw [hempty] at hj
      cases hj
    exact ⟨j, rfl, (upd_ne _ _ hji).trans hj⟩

end

section
variable {Thread : Type} [Fintype Thread]
variable {s s' : JniState Thread} {p : List Handle} {i : Nat}

theorem countIs_one {c : Option UInt32} (h : c = some 1) : CountIs c (0 + 1) := by
  rw [h]
  exact ⟨rfl, Nat.one_pos⟩

/-- A tracked handle that is not there has no holder. -/
theorem Owes.none_of_absent {x : Handle} (h : Owes s p) (ht : Tracked s x) (hx : ¬ Present s x) :
    holders s x + p.count x = 0 := by
  have := h.present x ht
  by_contra hc
  exact hx (this.mpr (by omega))

theorem Owes.storeObject (h : Owes s p) (ht : Taken s .object s' i) (className : String) :
    Owes (withObject s' i { className }) (.slot i :: p) := by
  have htracked := h.slots.tracked_of_empty ht.empty
  have habsent : ¬ Present s (.slot i) := fun hp => h.slots.not_alive ht.empty (.inl hp)
  have hzero := h.none_of_absent htracked habsent
  have hslots := slots_withObject h.slots ht { className }
  obtain ⟨-, -, -, -, -, -, hrest⟩ := ht
  generalize s'.refIndex = n at *
  generalize s'.freeSlots = free at *
  subst hrest
  have hb : ∀ y, holders (withObject { s with refIndex := n, freeSlots := free, segmentTypes := upd s.segmentTypes i .object } i
      { className }) y = holders s y := by
    intro y
    have hw := weigh_insert (fieldCount y) s.objectStorage i { className }
    rw [weightAt_none (AList.lookup_eq_none.mpr habsent)] at hw
    have hnew : fieldCount y { className } = 0 := rfl
    simp only [holders, withObject, JniState.setCount]
    omega
  refine h.change (.slot i) hslots (fun _ hy => hy) (fun _ => ?_) fun y hy => ⟨setCount_ne _ _ hy, ?_, ?_⟩
  · rw [hb, count_cons_self, ← Nat.add_assoc, hzero]
    refine ⟨countIs_one (setCount_same _ _ _), fun _ => Nat.one_pos, fun _ => ?_⟩
    simp [Present, withObject]
  · cases y with
    | array a => exact Iff.rfl
    | slot j =>
      have hji : j ≠ i := fun he => hy (by rw [he])
      simp [Present, withObject, hji]
  · rw [hb, count_cons_ne p hy]

/-- A new array takes over what is on the way for its elements. -/
theorem Owes.storeArray {a : Nat} (array : PseudoArray) (h : Owes s (array.objects.reduceOption ++ p)) (ha : a ∉ s.arrayStorage) :
    Owes (({ s with arrayStorage := s.arrayStorage.insert a array }).setCount (.array a) (some 1)) (.array a :: p) := by
  have hzero := h.none_of_absent (h.slots.tracked_array a) ha
  have hb : ∀ y, holders (({ s with arrayStorage := s.arrayStorage.insert a array }).setCount (.array a) (some 1)) y + p.count y =
      holders s y + (array.objects.reduceOption ++ p).count y := by
    intro y
    have hw := weigh_insert (elementCount y) s.arrayStorage a array
    rw [weightAt_none (AList.lookup_eq_none.mpr ha)] at hw
    rw [List.count_append, count_reduceOption]
    simp only [holders, JniState.setCount]
    simp only [elementCount] at hw ⊢
    omega
  refine h.change (.array a) ?_ (fun _ hy => hy) (fun _ => ?_) fun y hy => ⟨setCount_ne _ _ hy, ?_, ?_⟩
  · exact ⟨h.slots.index_pos, h.slots.index_le, h.slots.free, h.slots.beyond, h.slots.objects, h.slots.classes,
      h.slots.cached, h.slots.interned, h.slots.singletons⟩
  · rw [count_cons_self, ← Nat.add_assoc, hb, hzero]
    refine ⟨countIs_one (setCount_same _ _ _), fun _ => Nat.one_pos, fun _ => ?_⟩
    simp [Present]
  · cases y with
    | slot j => exact Iff.rfl
    | array b =>
      have hba : b ≠ a := fun he => hy (by rw [he])
      simp [Present, hba]
  · rw [count_cons_ne p hy, hb]

/-- The state once a class has a slot. -/
def withClass (s : JniState Thread) (i : Nat) (name : String) : JniState Thread :=
  { s with knownClasses := .slot i :: s.knownClasses, classHandleCache := s.classHandleCache.insert name (.slot i) }

omit [Fintype Thread] in
theorem slots_withClass (hs : Slots s) (ht : Taken s .clazz s' i) {name : String}
    (hname : s.classHandleCache.lookup name = none) :
    Slots (withClass s' i name) := by
  have hbeyond := ht.beyond hs
  have hnew : ¬ IsClass s (.slot i) := fun hc => hs.not_alive ht.empty (.inr hc)
  obtain ⟨-, hempty, -, hgrows, hle, hfree, hrest⟩ := ht
  generalize s'.refIndex = n at *
  generalize s'.freeSlots = free at *
  subst hrest
  have hlookup : ∀ name' x, (s.classHandleCache.insert name (.slot i)).lookup name' = some x ↔
      name' = name ∧ x = .slot i ∨ name' ≠ name ∧ s.classHandleCache.lookup name' = some x := by
    intro name' x
    by_cases hn : name' = name
    · subst hn
      rw [AList.lookup_insert]
      simp [eq_comm]
    · rw [AList.lookup_insert_ne hn]
      simp [hn]
  refine ⟨le_trans hs.index_pos hgrows, hle, hfree, hbeyond, fun j => ?_, fun x => ?_, fun x => ?_, ?_, fun x hx => ?_⟩
  · by_cases hj : j = i
    · subst hj
      simp [withClass, hs.objects, hempty]
    · simp [withClass, hs.objects, upd_ne _ _ hj]
  · show x ∈ Handle.slot i :: s.knownClasses ↔ ∃ j, x = .slot j ∧ upd s.segmentTypes i .clazz j = .clazz
    rw [List.mem_cons, hs.classes x]
    constructor
    · intro hor
      rcases hor with rfl | ⟨j, rfl, hj⟩
      · exact ⟨i, rfl, upd_same _ _ _⟩
      · refine ⟨j, rfl, ?_⟩
        have hji : j ≠ i := by
          intro heq
          subst heq
          rw [hempty] at hj
          cases hj
        exact (upd_ne _ _ hji).trans hj
    · intro hex
      obtain ⟨j, rfl, hj⟩ := hex
      by_cases hji : j = i
      · exact .inl (by rw [hji])
      · rw [upd_ne _ _ hji] at hj
        exact .inr ⟨j, rfl, hj⟩
  · show x ∈ Handle.slot i :: s.knownClasses ↔ ∃ name', (s.classHandleCache.insert name (.slot i)).lookup name' = some x
    simp only [hlookup]
    rw [List.mem_cons, hs.cached x]
    constructor
    · intro hor
      rcases hor with rfl | ⟨name', hn⟩
      · exact ⟨name, .inl ⟨rfl, rfl⟩⟩
      · refine ⟨name', .inr ⟨?_, hn⟩⟩
        intro heq
        subst heq
        rw [hname] at hn
        cases hn
    · intro hex
      obtain ⟨name', ⟨-, rfl⟩ | ⟨-, hn⟩⟩ := hex
      · exact .inl rfl
      · exact .inr ⟨name', hn⟩
  · intro name₁ name₂ x h₁ h₂
    -- the new slot is no class's yet
    have hold : ∀ name', s.classHandleCache.lookup name' ≠ some (.slot i) := fun name' hn =>
      hnew ((hs.cached _).mpr ⟨name', hn⟩)
    rcases (hlookup name₁ x).mp h₁ with ⟨rfl, rfl⟩ | ⟨-, hx₁⟩
    · rcases (hlookup name₂ _).mp h₂ with ⟨rfl, -⟩ | ⟨-, hx₂⟩
      · rfl
      · exact absurd hx₂ (hold name₂)
    · rcases (hlookup name₂ x).mp h₂ with ⟨rfl, rfl⟩ | ⟨-, hx₂⟩
      · exact absurd hx₁ (hold name₁)
      · exact hs.interned name₁ name₂ x hx₁ hx₂
  · obtain ⟨j, rfl, hj⟩ := hs.singletons x hx
    have hji : j ≠ i := by
      intro heq
      subst heq
      rw [hempty] at hj
      cases hj
    exact ⟨j, rfl, (upd_ne _ _ hji).trans hj⟩

theorem Owes.storeClass (name : String) (h : Owes s []) :
    Owes (s.storeClass name).1 [] ∧ Extends s (s.storeClass name).1 ∧
      ∀ x, (s.storeClass name).2 = some x → (s.storeClass name).1.classHandleCache.lookup name = some x ∧
        (s.classHandleCache.lookup name = none → ¬ Alive s x) := by
  unfold JniState.storeClass
  cases hname : s.classHandleCache.lookup name with
  | some cached => exact ⟨h, extends_of_eq rfl rfl, fun x hx => ⟨hname.trans hx, fun hn => by cases hn⟩⟩
  | none =>
    rcases allocate_cases .clazz h.slots (by decide) with hnone | ⟨s', i, hsome, ht⟩
    · simp only [hnone]
      exact ⟨h, extends_of_eq rfl rfl, fun x hx => by cases hx⟩
    · have hi : i ≠ 0 := Nat.ne_of_gt ht.pos
      simp only [hsome, if_neg hi]
      have hslots := slots_withClass h.slots ht hname
      have hfresh := h.slots.not_alive ht.empty
      obtain ⟨-, -, -, -, -, -, hrest⟩ := ht
      generalize s'.refIndex = n at *
      generalize s'.freeSlots = free at *
      subst hrest
      refine ⟨⟨hslots, fun y hy => ?_, fun y hy => ?_⟩, ⟨fun name' x hn => ?_, fun _ _ hn => hn⟩, fun x hx => ?_⟩
      · exact h.counts y ⟨fun hc => hy.1 (List.mem_cons_of_mem _ hc), hy.2⟩
      · exact h.present y ⟨fun hc => hy.1 (List.mem_cons_of_mem _ hc), hy.2⟩
      · have hne : name' ≠ name := by
          intro heq
          subst heq
          rw [hname] at hn
          cases hn
        exact (AList.lookup_insert_ne hne).trans hn
      · cases hx
        exact ⟨AList.lookup_insert _, fun _ => hfresh⟩

/-- A name that had no singleton gets one; from then on it is not tracked. -/
theorem Owes.addSingleton {className : String} {obj : JObject} (h : Owes s [])
    (hname : s.singletonObjects.lookup className = none)
    (hobj : ∀ x, obj = some x → ∃ i, x = .slot i ∧ s.segmentTypes i = .object) :
    Owes { s with singletonObjects := s.singletonObjects.insert className obj } [] ∧
      Extends s { s with singletonObjects := s.singletonObjects.insert className obj } := by
  have hsub : ∀ name x, s.singletonObjects.lookup name = some (some x) →
      (s.singletonObjects.insert className obj).lookup name = some (some x) := by
    intro name x hn
    have hne : name ≠ className := by
      intro heq
      subst heq
      rw [hname] at hn
      cases hn
    exact (AList.lookup_insert_ne hne).trans hn
  have htracked : ∀ y, Tracked { s with singletonObjects := s.singletonObjects.insert className obj } y → Tracked s y :=
    fun y hy => ⟨hy.1, fun ⟨name, hn⟩ => hy.2 ⟨name, hsub name y hn⟩⟩
  refine ⟨⟨⟨h.slots.index_pos, h.slots.index_le, h.slots.free, h.slots.beyond, h.slots.objects, h.slots.classes,
    h.slots.cached, h.slots.interned, ?_⟩, fun y hy => h.counts y (htracked y hy), fun y hy => h.present y (htracked y hy)⟩,
    ⟨fun _ _ hn => hn, hsub⟩⟩
  intro x hex
  obtain ⟨name, hn⟩ := hex
  by_cases hne : name = className
  · subst hne
    have hx : (s.singletonObjects.insert name obj).lookup name = some (some x) := hn
    rw [AList.lookup_insert] at hx
    exact hobj x (Option.some.inj hx)
  · exact h.slots.singletons x ⟨name, (AList.lookup_insert_ne hne).symm.trans hn⟩

variable [DecidableEq Thread]

theorem Owes.makeObject (t : Thread) (className : String) (h : Owes s []) :
    s.makeObject t className = (s, none) ∨ ∃ s' i, s.makeObject t className = (s', some (.slot i)) ∧ Owes s' [] ∧
      s'.classHandleCache = s.classHandleCache ∧ s'.singletonObjects = s.singletonObjects ∧ s'.segmentTypes i = .object ∧
      ¬ Alive s (.slot i) := by
  unfold JniState.makeObject JniState.storeObject
  rcases allocate_cases .object h.slots (by decide) with hnone | ⟨s', i, hsome, ht⟩
  · simp only [hnone]
    exact .inl rfl
  · have hi : i ≠ 0 := Nat.ne_of_gt ht.pos
    simp only [hsome, if_neg hi]
    have ho : Owes (withObject s' i { className }) ((some (Handle.slot i)).toList ++ []) := h.storeObject ht className
    have hclasses : s'.classHandleCache = s.classHandleCache := by rw [ht.rest]
    have hsingletons : s'.singletonObjects = s.singletonObjects := by rw [ht.rest]
    have htype : s'.segmentTypes i = .object := by
      rw [ht.rest]
      exact upd_same _ _ _
    exact .inr ⟨_, i, rfl, ho.register t, hclasses, hsingletons, htype, h.slots.not_alive ht.empty⟩

theorem Owes.singletonObject (t : Thread) (className : String) (h : Owes s []) :
    Owes (JniState.singletonObject t className s).1 [] ∧ Extends s (JniState.singletonObject t className s).1 ∧
      (s.singletonObjects.lookup className = none →
        ∀ x, (JniState.singletonObject t className s).2 = some x → ¬ Alive s x) := by
  unfold JniState.singletonObject
  cases hname : s.singletonObjects.lookup className with
  | some object => exact ⟨h, extends_of_eq rfl rfl, fun hn => by cases hn⟩
  | none =>
    rcases h.makeObject t className with hnone | ⟨s', i, hsome, ho, hclasses, hsingletons, htype, hfresh⟩
    · simp only [hnone]
      obtain ⟨hr, hext⟩ := h.addSingleton hname (show ∀ x, none = some x → _ from fun x hx => by cases hx)
      exact ⟨hr, hext, fun _ x hx => by cases hx⟩
    · simp only [hsome]
      obtain ⟨hr, hext⟩ := ho.addSingleton (by rw [hsingletons]; exact hname)
        (show ∀ x, some (Handle.slot i) = some x → ∃ i, x = .slot i ∧ s'.segmentTypes i = .object from fun x hx =>
          ⟨i, (Option.some.inj hx).symm, htype⟩)
      refine ⟨hr, (extends_of_eq hclasses hsingletons).trans hext, fun _ x hx => ?_⟩
      cases hx
      exact hfresh

theorem Owes.makePrimitiveArray (t : Thread) {a : Nat} (h : Owes s []) (ha : a ∉ s.arrayStorage) :
    Owes (s.makePrimitiveArray t a).1 [] ∧ Extends s (s.makePrimitiveArray t a).1 := by
  have hstored : Owes (({ s with arrayStorage := s.arrayStorage.insert a {} }).setCount (.array a) (some 1))
      ((some (Handle.array a)).toList ++ []) := Owes.storeArray {} h ha
  exact ⟨hstored.register t, extends_of_eq rfl rfl⟩

theorem Owes.makeObjectArray (t : Thread) {a : Nat} (len : Int) {init : JObject} (h : Owes s []) (ha : a ∉ s.arrayStorage)
    (hv : Valid s init) (hfit : ∀ y, init = some y → holders s y + len.toNat < 2 ^ 32) :
    Owes (s.makeObjectArray t a len init).1 [] ∧ Extends s (s.makeObjectArray t a len init).1 := by
  obtain ⟨ho, hk, hsame⟩ := h.retainTimes len.toNat hv hfit
  have hext := hk.extends
  unfold JniState.makeObjectArray JniState.storeArray
  simp only
  generalize JniState.retainTimes len.toNat init s = r at *
  have hstored := Owes.storeArray { objects := List.replicate len.toNat init } ho (by rw [hsame]; exact ha)
  refine ⟨(hstored.perm (by simp)).register t, hext.trans ?_⟩
  exact extends_of_eq rfl rfl

end

end Mocktail.Jni

/-
  Mocktail.Jni.RefRuns — runs of the pseudo-JVM.

  A run is any list of calls, by any number of threads, of a client that uses live handles and
  deletes only references it holds (`Allowed`).

  Proved (`references_accounted`): in a run in which no call takes a handle to 2^32 holders
  (`Fits`) the state is accounted for, classes and singletons last, class handles are interned
  by name, new handles are new, and the result of `PopLocalFrame` is alive. The bound is
  needed: the counts are `uint32_t`, and 2^32 - 1 global references of one object make its
  count 0 (`count_wraps`); the next release destroys it.
-/

import Mocktail.Jni.RefCalls

namespace Mocktail.Jni

open Mocktail.Lib JniState

/-! ## Steps -/

section
variable {Thread : Type} [Fintype Thread]
variable {s : JniState Thread}

theorem Owes.accounted (h : Owes s []) : Accounted s := by
  refine ⟨fun x hx => ?_, fun x hx => ?_, h.slots.free.nodup, fun i hi => ?_, fun x hp hc => ?_, h.slots.cached,
    h.slots.interned, fun x hx => ?_⟩
  · have hcount := h.counts x hx
    rw [List.count_nil, Nat.add_zero] at hcount
    unfold storedCount
    cases hc : s.refCounts x with
    | none =>
      rw [hc] at hcount
      exact Eq.symm hcount
    | some c =>
      rw [hc] at hcount
      exact hcount.1
  · have hpresent := h.present x hx
    rwa [List.count_nil, Nat.add_zero] at hpresent
  · have hempty := ((h.slots.free.mem i).mp hi).2
    simp only [Bool.or_eq_false_iff, decide_eq_false_iff_not, not_not] at hempty
    exact ⟨fun hp => h.slots.not_alive hempty.2 (.inl hp), fun hc => h.slots.not_alive hempty.2 (.inr hc)⟩
  · obtain ⟨i, rfl, hclass⟩ := (h.slots.classes x).mp hc
    have hobject := (h.slots.objects i).mp hp
    rw [hclass] at hobject
    cases hobject
  · obtain ⟨i, rfl, hi⟩ := h.slots.singletons x hx
    exact (h.slots.objects i).mpr hi

/-- The calls that make a handle. -/
def Creates (s : JniState Thread) : JniAct Thread → Prop
  | .findClass name => s.classHandleCache.lookup name = none
  | .singletonObject _ className => s.singletonObjects.lookup className = none
  | .allocObject _ _ => True
  | .newPrimitiveArray _ _ => True
  | .newObjectArray _ _ _ _ => True
  | _ => False

theorem Owes.not_alive_array (h : Owes s []) {a : Nat} (ha : a ∉ s.arrayStorage) : ¬ Alive s (.array a) := by
  intro hor
  rcases hor with hp | hc
  · exact ha hp
  · exact (h.slots.tracked_array a).1 hc

variable [DecidableEq Thread] {act : JniAct Thread}

theorem stepJni_owes (order : FieldOrder) (h : Owes s []) (ha : Allowed s act) (hf : Fits s act) :
    Owes (stepJni order s act).1 [] ∧ Extends s (stepJni order s act).1 := by
  cases act with
  | findClass name => exact ⟨(h.storeClass name).1, (h.storeClass name).2.1⟩
  | allocObject t className =>
    unfold stepJni
    rcases h.makeObject t className with hnone | ⟨s', i, hsome, ho, hclasses, hsingletons, -⟩
    · simp only [hnone]
      exact ⟨h, extends_of_eq rfl rfl⟩
    · simp only [hsome]
      exact ⟨ho, extends_of_eq hclasses hsingletons⟩
  | singletonObject t className => exact ⟨(h.singletonObject t className).1, (h.singletonObject t className).2.1⟩
  | newPrimitiveArray t a => exact h.makePrimitiveArray t ha
  | newObjectArray t a len init => exact h.makeObjectArray t len ha.1 ha.2 hf
  | newLocalRef t obj => exact h.newLocal t ha hf
  | deleteLocalRef t obj => exact h.deleteLocal order ha
  | newGlobalRef obj =>
    have hext := extends_retain obj s
    exact ⟨h.newGlobal ha hf, ⟨hext.classes, hext.singletons⟩⟩
  | deleteGlobalRef obj => exact h.deleteGlobal order ha
  | pushLocalFrame t => exact ⟨h.pushFrame t, extends_of_eq rfl rfl⟩
  | popLocalFrame t result =>
    obtain ⟨ho, hext, -⟩ := h.popFrame order t ha hf
    exact ⟨ho, hext⟩
  | setObjectField obj fieldName value => exact h.setField order fieldName ha hf
  | getObjectField t obj fieldName => exact h.getField t fieldName hf
  | setStaticObjectField name value => exact h.setStatic order name ha hf
  | getStaticObjectField t name => exact h.getStatic t name hf
  | setObjectArrayElement array index val => exact h.setElement order index ha hf
  | getObjectArrayElement t array index => exact h.getElement t index hf

theorem stepJni_fresh (order : FieldOrder) (h : Owes s []) (ha : Allowed s act) (hn : Creates s act)
    {x : Handle} (hx : (stepJni order s act).2 = some x) : ¬ Alive s x := by
  cases act with
  | findClass name => exact ((h.storeClass name).2.2 x hx).2 hn
  | allocObject t className =>
    unfold stepJni at hx
    rcases h.makeObject t className with hnone | ⟨s', i, hsome, -, -, -, -, hfresh⟩
    · simp only [hnone] at hx
      cases hx
    · simp only [hsome] at hx
      cases hx
      exact hfresh
  | singletonObject t className => exact (h.singletonObject t className).2.2 hn x hx
  | newPrimitiveArray t a =>
    cases hx
    exact h.not_alive_array ha
  | newObjectArray t a len init =>
    cases hx
    exact h.not_alive_array ha.1
  | _ => cases hn

/-! ## Runs -/

/-- The client is `Allowed` its calls, and each of them `Fits`. -/
def Bounded (order : FieldOrder) (s : JniState Thread) (acts : List (JniAct Thread)) : Prop :=
  (jniSys order).Guarded (fun s _ act => Allowed s act ∧ Fits s act) s acts

/-- The state after a run from the start of the process. -/
def stateAfter (order : FieldOrder) (acts : List (JniAct Thread)) : JniState Thread := ((jniSys order).run {} acts).1

structure SoundRun (order : FieldOrder) (acts : List (JniAct Thread)) : Prop where
  accounted : Accounted (stateAfter order acts)
  lasting : ∀ pre post, acts = pre ++ post → Keeps (stateAfter order pre) (stateAfter order acts)
  interned : ∀ (pre : List (JniAct Thread)) name (mid : List (JniAct Thread)) name' post h h',
    acts = pre ++ (.findClass name :: (mid ++ (.findClass name' :: post : List (JniAct Thread))) : List (JniAct Thread)) →
    (stepJni order (stateAfter order pre) (.findClass name)).2 = some h →
    (stepJni order (stateAfter order (pre ++ (.findClass name :: mid : List (JniAct Thread)))) (.findClass name')).2 = some h' →
    (h = h' ↔ name = name')
  fresh : ∀ pre act post h, acts = pre ++ act :: post → Creates (stateAfter order pre) act →
    (stepJni order (stateAfter order pre) act).2 = some h → ¬ Alive (stateAfter order pre) h
  popped : ∀ (pre : List (JniAct Thread)) t h post, acts = pre ++ (.popLocalFrame t (some h) :: post : List (JniAct Thread)) →
    Alive (stateAfter order (pre ++ ([.popLocalFrame t (some h)] : List (JniAct Thread)))) h

instance (order : FieldOrder) (s : JniState Thread) (acts : List (JniAct Thread)) : Decidable (Bounded order s acts) :=
  inferInstanceAs (Decidable ((jniSys order).Guarded (fun s _ act => Allowed s act ∧ Fits s act) s acts))

theorem run_owes (order : FieldOrder) {acts : List (JniAct Thread)} (h : Owes s []) (hg : Bounded order s acts) :
    Owes ((jniSys order).run s acts).1 [] ∧ Extends s ((jniSys order).run s acts).1 := by
  refine (jniSys order).run_induct_guarded (I := fun r _ => Owes r [] ∧ Extends s r) ⟨h, extends_of_eq rfl rfl⟩ ?_ acts hg
  intro r _ act hex hex'
  obtain ⟨hr, hext⟩ := hex
  obtain ⟨ha, hf⟩ := hex'
  obtain ⟨ho, hnext⟩ := stepJni_owes order hr ha hf
  exact ⟨ho, hext.trans hnext⟩

variable {pre post : List (JniAct Thread)}

theorem bounded_at (order : FieldOrder)
    (hg : Bounded order {} (pre ++ act :: post)) :
    Owes (stateAfter order pre) [] ∧ Allowed (stateAfter order pre) act ∧ Fits (stateAfter order pre) act :=
  ⟨(run_owes order owes_empty ((jniSys order).guarded_append hg).1).1, hg pre act post rfl⟩

theorem bounded_extends (order : FieldOrder) (hg : Bounded order {} (pre ++ post)) :
    Owes (stateAfter order (pre ++ post)) [] ∧ Extends (stateAfter order pre) (stateAfter order (pre ++ post)) := by
  obtain ⟨hpre, hpost⟩ := (jniSys order).guarded_append hg
  have h := run_owes order (run_owes order owes_empty hpre).1 hpost
  unfold stateAfter
  rw [Machine.run_append]
  exact h

omit [Fintype Thread] in
theorem stateAfter_snoc (order : FieldOrder) (pre : List (JniAct Thread)) (act : JniAct Thread) :
    stateAfter order (pre ++ [act]) = (stepJni order (stateAfter order pre) act).1 := by
  unfold stateAfter
  rw [Machine.run_snoc]
  rfl

/-- What `FindClass` returned is in the cache at the end. -/
theorem found_cached (order : FieldOrder) {name : String} {x : Handle}
    (hg : Bounded order {} (pre ++ .findClass name :: post))
    (hx : (stepJni order (stateAfter order pre) (.findClass name)).2 = some x) :
    (stateAfter order (pre ++ .findClass name :: post)).classHandleCache.lookup name = some x := by
  obtain ⟨ho, -⟩ := bounded_at order hg
  have hnow := ((ho.storeClass name).2.2 x hx).1
  rw [List.append_cons] at hg ⊢
  refine (bounded_extends order hg).2.classes name x ?_
  rw [stateAfter_snoc]
  exact hnow

theorem references_accounted (order : FieldOrder) (acts : List (JniAct Thread)) (hg : Bounded order {} acts) :
    SoundRun order acts := by
  refine ⟨(run_owes order owes_empty hg).1.accounted, ?_, ?_, ?_, ?_⟩
  · intro pre post heq
    subst heq
    obtain ⟨ho, hext⟩ := bounded_extends order hg
    exact hext.keeps ho.slots
  · intro pre name mid name' post h h' heq hh hh'
    subst heq
    have hfound := found_cached order hg hh
    have hlist : pre ++ .findClass name :: (mid ++ .findClass name' :: post) =
        (pre ++ .findClass name :: mid) ++ .findClass name' :: post := by simp
    rw [hlist] at hg hfound
    have hfound' := found_cached order hg hh'
    constructor
    · intro heq
      subst heq
      exact (run_owes order owes_empty hg).1.slots.interned name name' h hfound hfound'
    · intro heq
      subst heq
      exact Option.some.inj (hfound.symm.trans hfound')
  · intro pre act post h heq hn hh
    subst heq
    obtain ⟨ho, ha, -⟩ := bounded_at order hg
    exact stepJni_fresh order ho ha hn hh
  · intro pre t h post heq
    subst heq
    obtain ⟨ho, ha, hf⟩ := bounded_at order hg
    rw [stateAfter_snoc]
    exact (ho.popFrame order t ha hf).2.2 h rfl

end

/-- A destructor that meets the fields as they are listed. -/
def listedOrder : FieldOrder where
  values fields := fields.entries.map (·.2)
  perm _ := List.Perm.refl _

/-- Two threads: an object in a field of another, in an array and in a popped frame, and a class and a singleton, whose
    handles are deleted, the singleton's after each of its two calls. -/
def twoThreads : List (JniAct Bool) :=
  [.findClass "a", .allocObject true "a", .deleteLocalRef true (some (.slot 1)), .allocObject true "b",
   .singletonObject false "c", .deleteLocalRef false (some (.slot 4)), .singletonObject false "c",
   .deleteLocalRef false (some (.slot 4)), .setObjectField (some (.slot 2)) "f" (some (.slot 3)), .pushLocalFrame false,
   .getObjectField false (some (.slot 2)) "f", .newObjectArray false 7 2 (some (.slot 3)),
   .popLocalFrame false (some (.slot 3)), .deleteLocalRef true (some (.slot 2)), .allocObject true "a"]

theorem references_accounted_twoThreads :
    SoundRun listedOrder twoThreads ∧ (stateAfter listedOrder twoThreads).refCounts (.slot 3) = some 2 :=
  ⟨references_accounted listedOrder twoThreads (by decide +kernel), by decide +kernel⟩

/-! ## Too many references -/

/-- The calls of a client that takes `n` global references of one object. -/
def manyGlobals (n : Nat) : List (JniAct Unit) :=
  .allocObject () "java/lang/Object" :: List.replicate n (.newGlobalRef (some (.slot 1)))

/-- The object has `n` holders, and a count of `n` modulo 2^32. -/
structure Held (n : Nat) (s : JniState Unit) : Prop where
  count : s.refCounts (.slot 1) = some (UInt32.ofNat n)
  present : Present s (.slot 1)
  tracked : Tracked s (.slot 1)
  holders : holders s (.slot 1) = n

theorem Held.newGlobal {n : Nat} {s : JniState Unit} (h : Held n s) :
    Held (n + 1) (stepJni listedOrder s (.newGlobalRef (some (.slot 1)))).1 := by
  have hretain : s.retainJniReference (some (.slot 1)) = s.setCount (.slot 1) (some (UInt32.ofNat n + 1)) := by
    simp only [retainJniReference, h.count]
  simp only [stepJni, hretain]
  refine ⟨?_, h.present, h.tracked, ?_⟩
  · rw [UInt32.ofNat_add]
    exact setCount_same s (.slot 1) _
  · have hholders := h.holders
    have hone : [Handle.slot 1].count (.slot 1) = 1 := rfl
    simp only [Mocktail.Jni.holders, JniState.setCount, Option.toList_some, List.count_append, hone] at hholders ⊢
    omega

theorem manyGlobals_held (n : Nat) :
    (jniSys listedOrder).Guarded (fun s _ act => Allowed s act) {} (manyGlobals n) ∧ Held (n + 1)
    (stateAfter listedOrder (manyGlobals n)) := by
  induction n with
  | zero =>
    have hpresent : 1 ∈ (stateAfter listedOrder (manyGlobals 0)).objectStorage := by decide +kernel
    have hclass : Handle.slot 1 ∉ (stateAfter listedOrder (manyGlobals 0)).knownClasses := by decide +kernel
    refine ⟨by decide +kernel, ⟨by decide +kernel, hpresent, ⟨hclass, ?_⟩, by decide +kernel⟩⟩
    intro hex
    obtain ⟨name, hn⟩ := hex
    cases hn
  | succ n ih =>
    obtain ⟨hg, hheld⟩ := ih
    have hlist : manyGlobals (n + 1) = manyGlobals n ++ [.newGlobalRef (some (.slot 1))] := by
      unfold manyGlobals
      rw [List.replicate_succ', List.cons_append]
    rw [hlist, stateAfter_snoc]
    refine ⟨(jniSys listedOrder).guarded_concat hg fun h hh => ?_, hheld.newGlobal⟩
    cases hh
    exact .inl hheld.present

/-- The object of 2^32 holders has a count of 0. -/
theorem count_wraps :
    ¬ ∀ acts : List (JniAct Unit), (jniSys listedOrder).Guarded (fun s _ act => Allowed s act) {} acts →
      SoundRun listedOrder acts := by
  intro h
  obtain ⟨hg, hheld⟩ := manyGlobals_held (2 ^ 32 - 1)
  have hcounts := (h _ hg).accounted.counts _ hheld.tracked
  rw [storedCount, hheld.count, hheld.holders] at hcounts
  revert hcounts
  decide

end Mocktail.Jni

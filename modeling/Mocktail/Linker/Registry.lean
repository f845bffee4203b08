/-
  Mocktail.Linker.Registry — the table from library names to handles (`linker.cc`).

  Libraries are opened from a file under a logical name, or registered as synthetic ones; both
  put the name and the handle in one table. An observer sees each opened library and may
  reject it: the entry is there by then, and is undone by taking out every name of the handle.

  The dynamic linker is not part of this program. `images` are the files that it has open, with
  a count; a file that is open is opened again with the same handle, and for another file the
  answer is part of the call, as is what the observer says. 0 is the null handle.

  The undoing is exact where the handle had no name before and the name no handle
  (`rejected_load_iff`). A name that shares the handle with an earlier load loses it
  (`shared_handle_lost`).
-/

import Mathlib.Data.Option.Basic

namespace Mocktail.Linker

abbrev LibraryHandle := Nat

structure Registry where
  /-- `g_symbol_table`. -/
  symbolTable : String → Option LibraryHandle := fun _ => none
  syntheticLibraries : String → Option LibraryHandle := fun _ => none
  syntheticHandles : LibraryHandle → Bool := fun _ => false
  /-- The context of the load observer. -/
  observer : Option Nat := none
  /-- The files the dynamic linker has open: handle and count. -/
  images : String → Option (LibraryHandle × Nat) := fun _ => none

namespace Registry

variable (r : Registry)

/-! ## The dynamic linker -/

def dlopen (realPath : String) (answer : LibraryHandle) : LibraryHandle × Registry :=
  match r.images realPath with
  | some (handle, count) => (handle, { r with images := Function.update r.images realPath (some (handle, count + 1)) })
  | none =>
    if answer = 0 then (0, r)
    else (answer, { r with images := Function.update r.images realPath (some (answer, 1)) })

def dlclose (handle : LibraryHandle) : Registry :=
  { r with images := fun path =>
      match r.images path with
      | some (opened, count) =>
        if opened = handle then (if count ≤ 1 then none else some (opened, count - 1)) else some (opened, count)
      | none => none }

/-! ## The registry -/

def setName (name : String) (handle : LibraryHandle) : Registry :=
  { r with symbolTable := Function.update r.symbolTable name (some handle) }

/-- A table without a handle. -/
def without (table : String → Option LibraryHandle) (handle : LibraryHandle) : String → Option LibraryHandle := fun name =>
  if table name = some handle then none else table name

def removeHandleFromRegistry (handle : LibraryHandle) : Registry :=
  { r with symbolTable := without r.symbolTable handle, syntheticLibraries := without r.syntheticLibraries handle }

/-- `answer` is the handle of `load_library`. -/
def addSyntheticLibrary (soname : String) (answer : LibraryHandle) : LibraryHandle × Registry :=
  match r.syntheticLibraries soname with
  | some existing => (existing, r)
  | none =>
    if answer = 0 then (0, r)
    else
      (answer, { r with
        syntheticLibraries := Function.update r.syntheticLibraries soname (some answer)
        syntheticHandles := Function.update r.syntheticHandles answer true
        symbolTable := Function.update r.symbolTable soname (some answer) })

def setAndroidLibraryLoadObserver (context : Nat) : Registry :=
  if context = 0 ∨ r.observer.isSome = true then r else { r with observer := some context }

def clearAndroidLibraryLoadObserver (context : Nat) : Registry :=
  if context = 0 ∨ r.observer ≠ some context then r else { r with observer := none }

def registryName (realPath logicalName : String) : String := if logicalName = "" then realPath else logicalName

/-- `accepts` is what the observer says, if there is one. -/
def openAndroidLibrary (realPath logicalName : String) (answer : LibraryHandle) (accepts : Bool) : LibraryHandle × Registry :=
  match r.dlopen realPath answer with
  | (handle, opened) =>
    if handle = 0 then (0, opened)
    else
      let published := opened.setName (registryName realPath logicalName) handle
      if published.observer.isSome = true ∧ accepts = false then (0, (published.removeHandleFromRegistry handle).dlclose handle)
      else (handle, published)

def loadLibrary (realPath hostAlias : String) (answer : LibraryHandle) (accepts : Bool) : LibraryHandle × Registry :=
  if hostAlias = "libroblox" then r.openAndroidLibrary realPath hostAlias answer accepts
  else
    match r.addSyntheticLibrary realPath answer with
    | (handle, added) => if handle ≠ 0 ∧ hostAlias ≠ realPath then (handle, added.setName hostAlias handle) else (handle, added)

def unloadLibrary (handle : LibraryHandle) : Registry :=
  if handle = 0 then r
  else
    let removed := { r with syntheticHandles := Function.update r.syntheticHandles handle false }.removeHandleFromRegistry handle
    if r.syntheticHandles handle then removed else removed.dlclose handle

end Registry

/-! ## Runs -/

inductive Call where
  | openLibrary (realPath logicalName : String) (answer : LibraryHandle) (accepts : Bool)
  | load (realPath hostAlias : String) (answer : LibraryHandle) (accepts : Bool)
  | addSynthetic (soname : String) (answer : LibraryHandle)
  | unload (handle : LibraryHandle)
  | setObserver (context : Nat)
  | clearObserver (context : Nat)

def Registry.step (r : Registry) : Call → Registry
  | .openLibrary realPath logicalName answer accepts => (r.openAndroidLibrary realPath logicalName answer accepts).2
  | .load realPath hostAlias answer accepts => (r.loadLibrary realPath hostAlias answer accepts).2
  | .addSynthetic soname answer => (r.addSyntheticLibrary soname answer).2
  | .unload handle => r.unloadLibrary handle
  | .setObserver context => r.setAndroidLibraryLoadObserver context
  | .clearObserver context => r.clearAndroidLibraryLoadObserver context

def Registry.run (calls : List Call) : Registry := calls.foldl Registry.step {}

/-- The observer is the reason that nothing is opened. -/
def Rejected (r : Registry) (realPath : String) (answer : LibraryHandle) (accepts : Bool) : Prop :=
  (r.dlopen realPath answer).1 ≠ 0 ∧ r.observer.isSome = true ∧ accepts = false

/-! ## Rejected loads -/

variable {r : Registry} {realPath : String} {answer : LibraryHandle} {accepts : Bool}

theorem dlopen_symbolTable (r : Registry) (realPath : String) (answer : LibraryHandle) :
    (r.dlopen realPath answer).2.symbolTable = r.symbolTable ∧ (r.dlopen realPath answer).2.observer = r.observer := by
  unfold Registry.dlopen
  cases r.images realPath with
  | some image => exact ⟨rfl, rfl⟩
  | none =>
    dsimp only
    split
    · exact ⟨rfl, rfl⟩
    · exact ⟨rfl, rfl⟩

/-- A rejected load puts the name in the table and takes out all names of the handle. -/
theorem openAndroidLibrary_rejected (logicalName : String) (h : Rejected r realPath answer accepts) :
    (r.openAndroidLibrary realPath logicalName answer accepts).1 = 0 ∧
      (r.openAndroidLibrary realPath logicalName answer accepts).2.symbolTable =
        Registry.without (Function.update r.symbolTable (Registry.registryName realPath logicalName)
          (some (r.dlopen realPath answer).1))
          (r.dlopen realPath answer).1 := by
  obtain ⟨hhandle, hobserver, haccepts⟩ := h
  obtain ⟨htable, hkept⟩ := dlopen_symbolTable r realPath answer
  unfold Registry.openAndroidLibrary
  rcases hopen : r.dlopen realPath answer with ⟨handle, opened⟩
  rw [hopen] at hhandle htable hkept
  dsimp only at hhandle htable hkept ⊢
  have hseen : (opened.setName (Registry.registryName realPath logicalName) handle).observer.isSome = true ∧ accepts = false :=
    ⟨by rw [← hobserver, ← hkept]; rfl, haccepts⟩
  rw [if_neg hhandle, if_pos hseen, ← htable]
  exact ⟨rfl, rfl⟩

/-- What is taken out is what was put in, where neither the name nor the handle was there. -/
theorem without_update_eq_iff {table : String → Option LibraryHandle} {name : String} {handle : LibraryHandle} :
    Registry.without (Function.update table name (some handle)) handle = table ↔ table name = none ∧ ∀ other,
      table other ≠ some handle := by
  constructor
  · intro h
    have hat : ∀ other, Registry.without (Function.update table name (some handle)) handle other = table other :=
      fun other => congrFun h other
    constructor
    · rw [← hat name, Registry.without, Function.update_self, if_pos rfl]
    · intro other hother
      have hkept := hat other
      rw [hother, Registry.without] at hkept
      split at hkept
      · cases hkept
      · rename_i hne
        exact hne hkept
  · rintro ⟨hname, hhandle⟩
    funext other
    unfold Registry.without
    by_cases hother : other = name
    · rw [hother, Function.update_self, if_pos rfl, hname]
    · rw [Function.update_of_ne hother, if_neg (hhandle other)]

/-- A rejected load leaves the table alone exactly where its handle had no name and its name no
    handle, in every state of every run. -/
theorem rejected_load_iff (calls : List Call) (realPath logicalName : String) (answer : LibraryHandle) (accepts : Bool)
    (h : Rejected (Registry.run calls) realPath answer accepts) :
    (((Registry.run calls).openAndroidLibrary realPath logicalName answer accepts).1 = 0 ∧
        ((Registry.run calls).openAndroidLibrary realPath logicalName answer accepts).2.symbolTable =
        (Registry.run calls).symbolTable) ↔
      (Registry.run calls).symbolTable (Registry.registryName realPath logicalName) = none ∧
        ∀ name, (Registry.run calls).symbolTable name ≠ some ((Registry.run calls).dlopen realPath answer).1 := by
  obtain ⟨hnull, htable⟩ := openAndroidLibrary_rejected logicalName h
  rw [htable]
  exact ⟨fun heq => without_update_eq_iff.mp heq.2, fun hfree => ⟨hnull, without_update_eq_iff.mpr hfree⟩⟩

/-- Two libraries are open when a third is rejected. -/
def openedTwo : List Call := [.openLibrary "/a/one.so" "one" 5 true, .openLibrary "/a/two.so" "two" 6 true, .setObserver 1]

theorem rejected_load_fresh :
    Rejected (Registry.run openedTwo) "/a/three.so" 7 false ∧
      ((Registry.run openedTwo).openAndroidLibrary "/a/three.so" "three" 7 false).2.symbolTable =
      (Registry.run openedTwo).symbolTable := by
  have hrejected : Rejected (Registry.run openedTwo) "/a/three.so" 7 false := ⟨by decide, by decide, rfl⟩
  have htable : (Registry.run openedTwo).symbolTable =
      Function.update (Function.update (fun _ => none) "one" (some 5)) "two" (some 6) := rfl
  refine ⟨hrejected, ((rejected_load_iff _ _ "three" _ _ hrejected).mpr ⟨by decide, fun name => ?_⟩).2⟩
  have hhandle : ((Registry.run openedTwo).dlopen "/a/three.so" 7).1 = 7 := by decide
  rw [htable, hhandle, Function.update_apply, Function.update_apply]
  split
  · decide
  · split <;> decide

/-- A file that is open under one name, opened under another and rejected: both are gone. -/
theorem shared_handle_lost :
    Rejected (Registry.run [.openLibrary "/a/lib.so" "one" 5 true, .setObserver 1]) "/a/lib.so" 5 false ∧
      (Registry.run [.openLibrary "/a/lib.so" "one" 5 true, .setObserver 1]).symbolTable "one" = some 5 ∧
      ((Registry.run [.openLibrary "/a/lib.so" "one" 5 true, .setObserver 1]).openAndroidLibrary "/a/lib.so" "two" 5
        false).2.symbolTable "one" = none :=
  ⟨⟨by decide, by decide, rfl⟩, by decide, by decide⟩

end Mocktail.Linker

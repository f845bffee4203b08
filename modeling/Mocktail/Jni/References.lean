/-
  Mocktail.Jni.References — the reference tables of the pseudo-JVM (src/jnivm/jni_references.cc,
  jni_fields.cc, and the functions of src/jnivm/jnivm.cc that are nothing but calls of them).

  A handle is an encoded slot of the segment table or the address of an array; the heap hands
  out no address that is an encoded slot. Maps are association lists, `g_jni_ref_counts` is a
  partial function. The counts are the `uint32_t`s they are, so `++` may wrap.

  `ReleaseJniReference` calls itself through the destructors of what it destroys. The fuel of
  `releaseWithin` bounds the nesting: each level destroys an object or an array, so one more
  than there are is enough (`release`). A destructor goes through an `unordered_map`, whose
  order is a parameter (`FieldOrder`).

  `globals` is ghost state: the source has no table of global references, the client that
  made them holds them. Local frames are `thread_local`; `Thread` is the threads of the
  process, and each call of the interface is one step.
-/

import Mocktail.Lib.Slots
import Mocktail.Lib.Trace
import Mocktail.Lib.Weights

namespace Mocktail.Jni

open Mocktail.Lib

def kJniSegmentCapacity : Nat := 100000

inductive Handle where
  /-- `index << kJniHandleShift`. -/
  | slot (index : Nat)
  | array (address : Nat)
  deriving DecidableEq, Repr

/-- A `jobject`: none is `nullptr`. -/
abbrev JObject := Option Handle

def jniIndexFromHandle : Handle → Nat
  | .slot index => index % 2 ^ 32
  | .array address => address / 2 ^ 16 % 2 ^ 32

inductive SegmentType where
  | empty | object | clazz
  deriving DecidableEq, Repr

abbrev FieldMap := AList fun _ : String => JObject

structure PseudoJavaObject where
  className : String
  objectFields : FieldMap := ∅

structure PseudoArray where
  objects : List JObject := []

/-- The order in which a destructor meets the fields. -/
structure FieldOrder where
  values : FieldMap → List JObject
  perm : ∀ fields, (values fields).Perm (fields.entries.map (·.2))

structure JniState (Thread : Type) where
  /-- Frames and their entries, newest first. -/
  localFrames : Thread → List (List Handle) := fun _ => []
  objectStorage : AList fun _ : Nat => PseudoJavaObject := ∅
  refCounts : Handle → Option UInt32 := fun _ => none
  segmentTypes : Nat → SegmentType := fun _ => .empty
  refIndex : Nat := 1
  freeSlots : List Nat := []
  knownClasses : List Handle := []
  classHandleCache : AList fun _ : String => Handle := ∅
  singletonObjects : FieldMap := ∅
  arrayStorage : AList fun _ : Nat => PseudoArray := ∅
  staticObjectFields : FieldMap := ∅
  /-- Ghost: the global references the client holds. -/
  globals : List Handle := []

namespace JniState

/-! ## Counts and slots -/

section
variable {Thread : Type}

def setCount (s : JniState Thread) (h : Handle) (count : Option UInt32) : JniState Thread :=
  { s with refCounts := fun x => if x = h then count else s.refCounts x }

def retainJniReference (obj : JObject) (s : JniState Thread) : JniState Thread :=
  match obj with
  | none => s
  | some h =>
    match s.refCounts h with
    | some count => s.setCount h (some (count + 1))
    | none => s.setCount h (some 1)

/-- The loop of `MakeObjectArray`. -/
def retainTimes : Nat → JObject → JniState Thread → JniState Thread
  | 0, _, s => s
  | n + 1, obj, s => retainTimes n obj (s.retainJniReference obj)

/-- The slot, or 0 if there is none. -/
def allocateSegmentSlot (type : SegmentType) (s : JniState Thread) : JniState Thread × Nat :=
  match s.freeSlots.getLast? with
  | some index =>
    ({ s with freeSlots := s.freeSlots.dropLast, segmentTypes := upd s.segmentTypes index type }, index)
  | none =>
    if 0 < s.refIndex ∧ s.refIndex < kJniSegmentCapacity then
      ({ s with refIndex := s.refIndex + 1, segmentTypes := upd s.segmentTypes s.refIndex type }, s.refIndex)
    else (s, 0)

def storeClass (name : String) (s : JniState Thread) : JniState Thread × JObject :=
  match s.classHandleCache.lookup name with
  | some cached => (s, some cached)
  | none =>
    let (s, index) := s.allocateSegmentSlot .clazz
    if index = 0 then (s, none)
    else
      ({ s with knownClasses := .slot index :: s.knownClasses
                classHandleCache := s.classHandleCache.insert name (.slot index) }, some (.slot index))

/-- The object behind a handle and its slot, if the slot is an object's. -/
def pseudoObjectFromRef (s : JniState Thread) (obj : JObject) : Option (Nat × PseudoJavaObject) :=
  match obj with
  | none => none
  | some h =>
    let index := jniIndexFromHandle h
    if 0 < index ∧ index < kJniSegmentCapacity ∧ s.segmentTypes index = .object then
      (s.objectStorage.lookup index).map fun object => (index, object)
    else none

def arrayFromRef (s : JniState Thread) (array : JObject) : Option (Nat × PseudoArray) :=
  match array with
  | some (.array address) => (s.arrayStorage.lookup address).map fun a => (address, a)
  | _ => none

/-! ## Release -/

/-- The end of `ReleaseJniReference`, with the references the destructor of what it destroyed releases. -/
def destroy (order : FieldOrder) (h : Handle) (s : JniState Thread) : JniState Thread × List JObject :=
  match s.arrayFromRef (some h) with
  | some (address, array) => ({ s with arrayStorage := s.arrayStorage.erase address }, array.objects)
  | none =>
    if h ∈ s.knownClasses then (s, [])
    else if s.singletonObjects.entries.any (fun e => e.2 == some h) then (s, [])
    else
      let index := jniIndexFromHandle h
      let s := if 0 < index ∧ index < kJniSegmentCapacity then
          { s with segmentTypes := upd s.segmentTypes index .empty, freeSlots := s.freeSlots ++ [index] }
        else s
      match h with
      | .array _ => (s, [])
      | .slot index =>
        match s.objectStorage.lookup index with
        | none => (s, [])
        | some object => ({ s with objectStorage := s.objectStorage.erase index }, order.values object.objectFields)

def releaseWithin (order : FieldOrder) : Nat → JObject → JniState Thread → JniState Thread
  | 0, _, s => s
  | _ + 1, none, s => s
  | fuel + 1, some h, s =>
    let last (s : JniState Thread) :=
      let (s, children) := destroy order h s
      children.foldl (fun s child => releaseWithin order fuel child s) s
    match s.refCounts h with
    | none => last s
    | some count => if 1 < count then s.setCount h (some (count - 1)) else last (s.setCount h none)

/-- How many objects and arrays are stored. -/
def live (s : JniState Thread) : Nat := s.objectStorage.entries.length + s.arrayStorage.entries.length

/-- `ReleaseJniReference`. -/
def release (order : FieldOrder) (obj : JObject) (s : JniState Thread) : JniState Thread :=
  releaseWithin order (s.live + 1) obj s

def releaseAll (order : FieldOrder) (objs : List JObject) (s : JniState Thread) : JniState Thread :=
  objs.foldl (fun s obj => release order obj s) s

/-! ## Writes -/

def setObjectFieldRaw (order : FieldOrder) (obj : JObject) (fieldName : String) (value : JObject)
    (s : JniState Thread) : JniState Thread :=
  match s.pseudoObjectFromRef obj with
  | none => s
  | some (index, object) =>
    let s := s.retainJniReference value
    let prev := (object.objectFields.lookup fieldName).getD none
    let object := { object with objectFields := object.objectFields.insert fieldName value }
    release order prev { s with objectStorage := s.objectStorage.insert index object }

def setStaticObjectFieldRaw (order : FieldOrder) (name : String) (value : JObject) (s : JniState Thread) :
    JniState Thread :=
  let s := s.retainJniReference value
  let previous := (s.staticObjectFields.lookup name).getD none
  release order previous { s with staticObjectFields := s.staticObjectFields.insert name value }

def setObjectArrayElement (order : FieldOrder) (array : JObject) (index : Int) (val : JObject) (s : JniState Thread) :
    JniState Thread :=
  match s.arrayFromRef array with
  | none => s
  | some (address, pseudoArray) =>
    if index < 0 ∨ pseudoArray.objects.length ≤ index.toNat then s
    else
      let s := s.retainJniReference val
      let prev := pseudoArray.objects.getD index.toNat none
      let pseudoArray := { pseudoArray with objects := pseudoArray.objects.set index.toNat val }
      release order prev { s with arrayStorage := s.arrayStorage.insert address pseudoArray }

end

/-! ## Local frames -/

/-- `EnsureLocalFrame`, then an entry in the newest frame. -/
def pushEntry (h : Handle) : List (List Handle) → List (List Handle)
  | [] => [[h]]
  | frame :: rest => (h :: frame) :: rest

/-- Without the newest entry for a handle, in the newest frame that has one. -/
def eraseEntry (h : Handle) : List (List Handle) → List (List Handle)
  | [] => []
  | frame :: rest => if h ∈ frame then frame.erase h :: rest else frame :: eraseEntry h rest

def ensureLocalFrame (frames : List (List Handle)) : List (List Handle) := if frames = [] then [[]] else frames

section
variable {Thread : Type} [DecidableEq Thread]

def setFrames (s : JniState Thread) (t : Thread) (frames : List (List Handle)) : JniState Thread :=
  { s with localFrames := Function.update s.localFrames t frames }

def registerLocalRef (t : Thread) (obj : JObject) (s : JniState Thread) : JniState Thread :=
  match obj with
  | none => s
  | some h => s.setFrames t (pushEntry h (s.localFrames t))

def unregisterLocalRef (t : Thread) (obj : JObject) (s : JniState Thread) : JniState Thread :=
  match obj with
  | none => s
  | some h => s.setFrames t (eraseEntry h (s.localFrames t))

def newLocalJniReference (t : Thread) (obj : JObject) (s : JniState Thread) : JniState Thread :=
  (s.retainJniReference obj).registerLocalRef t obj

def deleteLocalJniReference (order : FieldOrder) (t : Thread) (obj : JObject) (s : JniState Thread) : JniState Thread :=
  release order obj (s.unregisterLocalRef t obj)

def pushLocalJniFrame (t : Thread) (s : JniState Thread) : JniState Thread :=
  s.setFrames t ([] :: ensureLocalFrame (s.localFrames t))

def popLocalJniFrame (order : FieldOrder) (t : Thread) (result : JObject) (s : JniState Thread) : JniState Thread :=
  let frames := ensureLocalFrame (s.localFrames t)
  let s := s.retainJniReference result
  let s := s.setFrames t (if 1 < frames.length then frames.tail else [[]])
  -- a frame is released from its oldest entry on
  let s := releaseAll order ((frames.headD []).reverse.map some) s
  s.registerLocalRef t result

/-! ## Objects and arrays -/

def storeObject (t : Thread) (object : PseudoJavaObject) (s : JniState Thread) : JniState Thread × JObject :=
  let (s, index) := s.allocateSegmentSlot .object
  if index = 0 then (s, none)
  else
    let s := { s with objectStorage := s.objectStorage.insert index object }
    let s := s.setCount (.slot index) (some 1)
    (s.registerLocalRef t (some (.slot index)), some (.slot index))

/-- `MakeObject`, `MakeObjectForClass` and `MakeString`, once the class is known by its name. -/
def makeObject (t : Thread) (className : String) (s : JniState Thread) : JniState Thread × JObject :=
  s.storeObject t { className }

def singletonObject (t : Thread) (className : String) (s : JniState Thread) : JniState Thread × JObject :=
  match s.singletonObjects.lookup className with
  | some object => (s, object)
  | none =>
    let (s, object) := s.makeObject t className
    ({ s with singletonObjects := s.singletonObjects.insert className object }, object)

/-- The end of `MakeByteArray`, `MakeFloatArray` and `MakeObjectArray`. -/
def storeArray (t : Thread) (address : Nat) (array : PseudoArray) (s : JniState Thread) : JniState Thread × JObject :=
  let s := { s with arrayStorage := s.arrayStorage.insert address array }
  let s := s.setCount (.array address) (some 1)
  (s.registerLocalRef t (some (.array address)), some (.array address))

/-- `MakeByteArray` and `MakeFloatArray`: their elements are no references. -/
def makePrimitiveArray (t : Thread) (address : Nat) (s : JniState Thread) : JniState Thread × JObject :=
  s.storeArray t address {}

def makeObjectArray (t : Thread) (address : Nat) (len : Int) (init : JObject) (s : JniState Thread) :
    JniState Thread × JObject :=
  let s := retainTimes len.toNat init s
  s.storeArray t address { objects := List.replicate len.toNat init }

/-! ## Reads -/

def objectFieldValue (t : Thread) (obj : JObject) (fieldName : String) (s : JniState Thread) : JniState Thread × JObject :=
  match s.pseudoObjectFromRef obj with
  | none => (s, none)
  | some (_, object) =>
    let value := (object.objectFields.lookup fieldName).getD none
    (s.newLocalJniReference t value, value)

def staticObjectFieldValue (t : Thread) (name : String) (s : JniState Thread) : JniState Thread × JObject :=
  let value := (s.staticObjectFields.lookup name).getD none
  (s.newLocalJniReference t value, value)

def getObjectArrayElement (t : Thread) (array : JObject) (index : Int) (s : JniState Thread) : JniState Thread × JObject :=
  match s.arrayFromRef array with
  | none => (s, none)
  | some (_, pseudoArray) =>
    if index < 0 ∨ pseudoArray.objects.length ≤ index.toNat then (s, none)
    else
      let obj := pseudoArray.objects.getD index.toNat none
      (s.newLocalJniReference t obj, obj)

end

end JniState

/-! ## Steps -/

inductive JniAct (Thread : Type) where
  | findClass (name : String)
  | allocObject (t : Thread) (className : String)
  | singletonObject (t : Thread) (className : String)
  /-- The heap's choice of the address is part of the step. -/
  | newPrimitiveArray (t : Thread) (address : Nat)
  | newObjectArray (t : Thread) (address : Nat) (len : Int) (init : JObject)
  | newLocalRef (t : Thread) (obj : JObject)
  | deleteLocalRef (t : Thread) (obj : JObject)
  | newGlobalRef (obj : JObject)
  | deleteGlobalRef (obj : JObject)
  | pushLocalFrame (t : Thread)
  | popLocalFrame (t : Thread) (result : JObject)
  | setObjectField (obj : JObject) (fieldName : String) (value : JObject)
  | getObjectField (t : Thread) (obj : JObject) (fieldName : String)
  | setStaticObjectField (name : String) (value : JObject)
  | getStaticObjectField (t : Thread) (name : String)
  | setObjectArrayElement (array : JObject) (index : Int) (val : JObject)
  | getObjectArrayElement (t : Thread) (array : JObject) (index : Int)
  deriving DecidableEq, Repr

section
variable {Thread : Type} [DecidableEq Thread]

open JniState

/-- The state after a call, and what it returns. -/
def stepJni (order : FieldOrder) (s : JniState Thread) : JniAct Thread → JniState Thread × JObject
  | .findClass name => s.storeClass name
  | .allocObject t className => s.makeObject t className
  | .singletonObject t className => JniState.singletonObject t className s
  | .newPrimitiveArray t address => s.makePrimitiveArray t address
  | .newObjectArray t address len init => s.makeObjectArray t address len init
  | .newLocalRef t obj => (s.newLocalJniReference t obj, obj)
  | .deleteLocalRef t obj => (deleteLocalJniReference order t obj s, none)
  | .newGlobalRef obj => ({ s.retainJniReference obj with globals := obj.toList ++ s.globals }, obj)
  | .deleteGlobalRef obj =>
    (release order obj { s with globals := obj.elim s.globals fun h => s.globals.erase h }, none)
  | .pushLocalFrame t => (s.pushLocalJniFrame t, none)
  | .popLocalFrame t result => (popLocalJniFrame order t result s, result)
  | .setObjectField obj fieldName value => (setObjectFieldRaw order obj fieldName value s, none)
  | .getObjectField t obj fieldName => s.objectFieldValue t obj fieldName
  | .setStaticObjectField name value => (setStaticObjectFieldRaw order name value s, none)
  | .getStaticObjectField t name => s.staticObjectFieldValue t name
  | .setObjectArrayElement array index val => (JniState.setObjectArrayElement order array index val s, none)
  | .getObjectArrayElement t array index => JniState.getObjectArrayElement t array index s

/-- The pseudo-JVM; it shows what each call returns. -/
def jniSys (order : FieldOrder) : Machine (JniState Thread) (JniAct Thread) JObject where
  step s act := ((stepJni order s act).1, [(stepJni order s act).2])

end

end Mocktail.Jni

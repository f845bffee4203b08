/-
  Mocktail.Update.PayloadStore — collecting the garbage of the payload store
  (src/update/payload_store.cc).

  The operation is a program over the disk. It returns a result whose error says why it failed;
  where nlohmann::json would throw, the process aborts. The lock makes the operations of one
  store run one after the other.
-/

import Mocktail.Update.CandidateApproval

namespace Mocktail.Update

open Mocktail.Lib Mocktail.Launch

structure PayloadGarbageResult where
  removed : List Text := []
  freedBytes : Nat := 0
  error : Option Text := none
  deriving DecidableEq, Repr

section
variable (host : Host) (store : PayloadStore) (call : Call)

/-! ## Removing a tree -/

/-- The states a tree passes through. -/
def passThrough (area : Area) (name : Text) : List PayloadTree → StoreM Unit
  | [] => pure ()
  | tree :: trees => do
    Program.emit (.entry area name (some (.tree tree)))
    passThrough area name trees

/-- The bytes `RemovePayloadTree` counts for an entry. -/
def Entry.size : Entry → Nat
  | .tree t => t.size
  | .other => 0

/-- `RemovePayloadTree`: what it freed, or none for a tree that could not be removed. -/
def removePayloadTree (site : Site) (area : Area) (name : Text) : StoreM (Option Nat) := do
  let disk ← Program.now
  match (disk.entries area).at name with
  | none => return some 0
  | some entry => do
    passThrough area name (call.between area name)
    if call.fails site then return none
    else do
      Program.emit (.entry area name none)
      return some entry.size

/-! ## Garbage -/

/-- `name.rfind(".stage-", 0) == 0`. -/
def isStaging (name : Text) : Bool := (ascii ".stage-").isPrefixOf name

def collectable (retained : List Text) (name : Text) : Bool :=
  (validPayloadId name && !retained.contains name) || isStaging name

def Entry.isTree : Entry → Bool
  | .tree _ => true
  | .other => false

/-- The trees to remove, in the order they are found. -/
def superseded (retained : List Text) (disk : Disk) : List (Area × Text) :=
  let payloads := (disk.entries .payloads).entries.filter fun e => e.2.isTree && collectable retained e.1
  let quarantined := match call.faults .listQuarantine with
    | some fault => (disk.entries .quarantine).entries.take fault.progress
    | none => (disk.entries .quarantine).entries
  payloads.map (fun e => (Area.payloads, e.1)) ++ (quarantined.filter (·.2.isTree)).map fun e => (Area.quarantine, e.1)

def removeAll : List (Area × Text) → StoreM PayloadGarbageResult
  | [] => pure {}
  | (area, name) :: rest => do
    let freed ← removePayloadTree call (.removeTree area name) area name
    let result ← removeAll rest
    match freed with
    | some bytes => return { result with removed := name :: result.removed, freedBytes := bytes + result.freedBytes }
    | none => return result

/-- The payloads that the manifests name, beside the ones to keep. -/
def retainedPayloads (keep : List Text) (disk : Disk) : Outcome (List Text) := do
  let current ← readManifest host.lib call store.root .current true disk
  let previous ← readManifest host.lib call store.root .previousGood true disk
  return keep ++ [current.payloadId, previous.payloadId].filter (· ≠ [])

def collectGarbage (keep : List Text) : StoreM PayloadGarbageResult :=
  orReturn (fun text => { error := some text }) (Program.done (storeLock call)) fun _ =>
  orReturn (fun text => { error := some text }) (reads (retainedPayloads host store call keep)) fun retained =>
  if call.fails .listPayloads then pure { error := some (ascii "cannot inspect the payload store") }
  else do
    let disk ← Program.now
    removeAll call (superseded call retained disk)

end

end Mocktail.Update

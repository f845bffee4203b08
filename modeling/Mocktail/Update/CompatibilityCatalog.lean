/-
  Mocktail.Update.CompatibilityCatalog — supported payloads (src/update/compatibility_catalog.cc)
  and the sidecars that a derivation takes as its reference.
-/

import Mocktail.Launch.Percent
import Mocktail.Update.PayloadIntegrity

namespace Mocktail.Update

open Mocktail.Lib Mocktail.Launch

structure SupportedPayloadProfile where
  versionName : Text
  versionCode : Nat
  elfBuildId : Text
  deriving DecidableEq, Repr

def isText : Json → Bool
  | .string _ => true
  | _ => false

/-- A member that is there has the type. -/
def typed (test : Json → Bool) : Option Json → Bool
  | none => true
  | some value => test value

/-! ## References of a derivation -/

/-- `CollectReferenceSidecars`: of two sidecars for one build ID the first. -/
def collectReferenceSidecars : List (Text × Outcome Text) → Outcome (List (Text × Text))
  | [] => .ok []
  | (path, .ok buildId) :: rest => (collectReferenceSidecars rest).map ((buildId, path) :: ·)
  | (_, .error (.error _)) :: rest => collectReferenceSidecars rest
  | (_, .error .abort) :: _ => .error .abort

/-- `ResolveReferenceProfile` over the sidecars. -/
def selectReference (sidecars : List (Text × Text)) (profiles : List SupportedPayloadProfile) :
    Option (SupportedPayloadProfile × Text) :=
  profiles.foldl (fun selected profile =>
    match sidecars.find? (·.1 == profile.elfBuildId) with
    | none => selected
    | some (_, path) =>
      if selected.all fun s => decide (s.1.versionCode < profile.versionCode) then some (profile, path) else selected) none

end Mocktail.Update

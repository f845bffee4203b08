/-
  Mocktail.Update.Documents — members of JSON documents as the updater reads them.

  The updater compiles nlohmann::json with `JSON_NOEXCEPTION`: where the library would throw,
  the process aborts. `value(name, fallback)` gives the fallback for a member that is not
  there, and aborts for a member that is there and has another type (`Stop.abort`). A number
  is converted to the type of the fallback by a cast.
-/

import Mocktail.Lib.Chunks
import Mocktail.Launch.Json

namespace Mocktail.Update

open Mocktail.Lib Mocktail.Launch

/-- Why an operation has no result: an error with its text, or an abort. -/
inductive Stop where
  | error (text : Text)
  | abort
  deriving DecidableEq, Repr

abbrev Outcome (α : Type) := Except Stop α

def fail {α : Type} (text : String) : Outcome α := .error (.error (ascii text))

/-- An operation that cannot abort. -/
def outcome {α : Type} : Except Text α → Outcome α
  | .ok a => .ok a
  | .error text => .error (.error text)

theorem outcome_ok {α : Type} {x : Except Text α} {a : α} (h : outcome x = .ok a) : x = .ok a := by
  cases x with
  | error e => cases h
  | ok b =>
    cases h
    rfl

theorem outcome_eq_ok {α : Type} {x : Except Text α} {a : α} : outcome x = .ok a ↔ x = .ok a :=
  ⟨outcome_ok, fun h => by rw [h]; rfl⟩

abbrev Members := List (Text × Json)

/-- `json::parse` where what is no object is refused by the caller. -/
def parseObject (lib : JsonLibrary) (text : Text) : Option Members :=
  match lib.parse text with
  | some (.object members) => some members
  | _ => none

/-! ## Numbers -/

/-- A double, towards zero. -/
def truncFloat (bits : UInt64) : Int :=
  let exponent := bits.toNat / 2 ^ 52 % 2 ^ 11
  let fraction := 2 ^ 52 + bits.toNat % 2 ^ 52
  let magnitude : Nat := if exponent < 1075 then fraction / 2 ^ (1075 - exponent) else fraction * 2 ^ (exponent - 1075)
  if bits.toNat / 2 ^ 63 = 0 then (magnitude : Int) else -(magnitude : Int)

/-- The number of a value before it is cast; none for a value that is no number. -/
def number : Json → Option Int
  | .bool value => some (if value then 1 else 0)
  | .unsigned value => some value
  | .integer value => some value
  | .float bits => some (truncFloat bits)
  | _ => none

/-- A cast to a signed type. -/
def castSigned (bits : Nat) (value : Int) : Int := (value + 2 ^ (bits - 1)) % 2 ^ bits - 2 ^ (bits - 1)

def castUnsigned (bits : Nat) (value : Int) : Nat := (value % 2 ^ bits).toNat

/-! ## `value` -/

def valueOr {α : Type} (members : Members) (name : String) (fallback : α) (read : Json → Option α) : Outcome α :=
  match findMember members (ascii name) with
  | none => .ok fallback
  | some value =>
    match read value with
    | none => .error .abort
    | some a => .ok a

def valueText (members : Members) (name : String) : Outcome Text :=
  valueOr members name [] fun
    | .string text => some text
    | _ => none

def valueInt (members : Members) (name : String) : Outcome Int :=
  valueOr members name 0 fun value => (number value).map (castSigned 32)

def valueUnsigned (bits : Nat) (members : Members) (name : String) : Outcome Nat :=
  valueOr members name 0 fun value => (number value).map (castUnsigned bits)

def valueBool (members : Members) (name : String) (fallback : Bool) : Outcome Bool :=
  valueOr members name fallback fun
    | .bool value => some value
    | _ => none

/-- A condition `a || b || …` of a check, each part of which may abort: true if one part holds. -/
def anyOf : List (Outcome Bool) → Outcome Bool
  | [] => .ok false
  | check :: checks =>
    match check with
    | .error stop => .error stop
    | .ok true => .ok true
    | .ok false => anyOf checks

theorem anyOf_false {checks : List (Outcome Bool)} (h : anyOf checks = .ok false) : ∀ check ∈ checks, check = .ok false := by
  induction checks with
  | nil => exact fun _ hc => (List.not_mem_nil hc).elim
  | cons check checks ih =>
    unfold anyOf at h
    split at h
    · cases h
    · cases h
    · intro c hc
      rcases List.mem_cons.mp hc with rfl | hc
      · rfl
      · exact ih h c hc

/-- `value(name, "") != expected`. -/
def differs (members : Members) (name : String) (expected : Text) : Outcome Bool :=
  (valueText members name).map (· ≠ expected)

theorem differs_false {members : Members} {name : String} {expected : Text} (h : differs members name expected = .ok false) :
    valueText members name = .ok expected := by
  unfold differs at h
  cases hv : valueText members name with
  | error stop =>
    rw [hv] at h
    cases h
  | ok text =>
    rw [hv] at h
    simp only [Except.map, Except.ok.injEq, decide_eq_false_iff_not, Decidable.not_not] at h
    rw [h]

/-- `value("schema_version", 0) != 1`. -/
def otherSchema (members : Members) : Outcome Bool := (valueInt members "schema_version").map (· ≠ 1)

end Mocktail.Update

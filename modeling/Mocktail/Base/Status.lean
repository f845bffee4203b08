/-
  Mocktail.Base.Status — `mocktail::Status` (include/mocktail/status.h) and the single
  precision values the runtime compares.

  A `Status` is a code and a text; it is ok when its code is `ok`, whatever its text.
  `F32` is an IEEE 754 binary32 value as its bit pattern: the comparisons the code makes
  (`==`, `> 0.0f`, `std::isfinite`) are decided on the bits, so a NaN is equal to nothing
  and the two zeros are equal.
-/

import Mathlib.Algebra.Ring.Nat
import Mathlib.Algebra.Ring.Int.Defs

namespace Mocktail

/-- Texts are compared byte by byte. -/
instance lawfulText : LawfulBEq (List UInt8) := inferInstance

inductive StatusCode where
  | ok
  | invalidArgument
  | failedPrecondition
  | unavailable
  | unsupported
  | platformError
  deriving DecidableEq, Repr

structure Status where
  code : StatusCode := .ok
  message : String := ""
  deriving DecidableEq, Repr

namespace Status

/-- `Status::Ok()`. -/
def okStatus : Status := {}

def error (code : StatusCode) (message : String) : Status := ⟨code, message⟩

def ok (s : Status) : Bool := s.code == .ok

@[simp] theorem ok_okStatus : okStatus.ok = true := rfl

def invalidArgument (message : String) : Status := error .invalidArgument message

def failedPrecondition (message : String) : Status := error .failedPrecondition message

def unavailable (message : String) : Status := error .unavailable message

def unsupported (message : String) : Status := error .unsupported message

def platformError (message : String) : Status := error .platformError message

@[simp] theorem ok_invalidArgument (m : String) : (invalidArgument m).ok = false := rfl
@[simp] theorem ok_failedPrecondition (m : String) : (failedPrecondition m).ok = false := rfl
@[simp] theorem ok_unavailable (m : String) : (unavailable m).ok = false := rfl
@[simp] theorem ok_unsupported (m : String) : (unsupported m).ok = false := rfl
@[simp] theorem ok_platformError (m : String) : (platformError m).ok = false := rfl

end Status

/-! ## Single precision values -/

structure F32 where
  bits : UInt32
  deriving DecidableEq, Repr

namespace F32

def zero : F32 := ⟨0⟩

def one : F32 := ⟨0x3F800000⟩

/-- The pattern without its sign bit. -/
def magnitude (x : F32) : Nat := x.bits.toNat % 2 ^ 31

def isNaN (x : F32) : Bool := 0x7F800000 < x.magnitude

def isFinite (x : F32) : Bool := x.magnitude < 0x7F800000

def signBit (x : F32) : Bool := 2 ^ 31 ≤ x.bits.toNat

/-- `x == y`. -/
def feq (x y : F32) : Bool :=
  !x.isNaN && !y.isNaN && (x.bits == y.bits || (x.magnitude == 0 && y.magnitude == 0))

/-- `x > 0.0f`. -/
def gtZero (x : F32) : Bool := !x.isNaN && !x.signBit && x.magnitude != 0

end F32

end Mocktail

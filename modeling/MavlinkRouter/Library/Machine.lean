import Mathlib

/-!
# Machine integers

Unsigned and signed integers of `w` bits as natural numbers and integers. Arithmetic that is checked
panics where the result does not fit; a cast between the two kinds keeps the bits.
-/

namespace Library

/-- The panics of checked arithmetic. -/
inductive ArithmeticPanic where
  | overflow
  | divisionByZero
  deriving DecidableEq, Repr

/-- The result of an unsigned operation. -/
def checkUnsigned (w : ℕ) (value : ℕ) : Except ArithmeticPanic ℕ :=
  if value < 2 ^ w then .ok value else .error .overflow

/-- The result of a signed operation. -/
def checkSigned (w : ℕ) (value : ℤ) : Except ArithmeticPanic ℤ :=
  if -2 ^ (w - 1) ≤ value ∧ value < 2 ^ (w - 1) then .ok value else .error .overflow

/-- The remainder of a division. -/
def checkedRem (value divisor : ℕ) : Except ArithmeticPanic ℕ :=
  if divisor = 0 then .error .divisionByZero else .ok (value % divisor)

/-- Read the bits of an unsigned integer as a signed one. -/
def castSigned (w : ℕ) (value : ℕ) : ℤ :=
  Int.bmod value (2 ^ w)

/-- Read the bits of a signed integer as an unsigned one. -/
def castUnsigned (w : ℕ) (value : ℤ) : ℕ :=
  (value % 2 ^ w).toNat

variable {w value divisor : ℕ}

/-- A value in range passes. -/
theorem checkUnsigned_of_lt (h : value < 2 ^ w) : checkUnsigned w value = .ok value :=
  if_pos h

/-- A signed value in range passes. -/
theorem checkSigned_of_mem {value : ℤ} (hlo : -2 ^ (w - 1) ≤ value) (hhi : value < 2 ^ (w - 1)) :
    checkSigned w value = .ok value :=
  if_pos ⟨hlo, hhi⟩

/-- The remainder by a positive divisor. -/
theorem checkedRem_of_pos (h : 0 < divisor) : checkedRem value divisor = .ok (value % divisor) :=
  if_neg (Nat.pos_iff_ne_zero.mp h)

/-- A cast of a small integer does not change it. -/
theorem castSigned_of_lt (h : 2 * value < 2 ^ w) : castSigned w value = value := by
  have hcast : (2 * value : ℤ) < (2 ^ w : ℕ) := by exact_mod_cast h
  refine Int.bmod_eq_of_le_mul_two ?_ ?_ <;> omega

/-- A cast keeps a value in range. -/
theorem castUnsigned_natCast (h : value < 2 ^ w) : castUnsigned w value = value := by
  have hmod : (value : ℤ) % 2 ^ w = value := Int.emod_eq_of_lt (by omega) (by exact_mod_cast h)
  rw [castUnsigned, hmod, Int.toNat_natCast]

end Library

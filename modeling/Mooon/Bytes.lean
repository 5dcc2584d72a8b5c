import Mathlib.Data.List.Basic
import Mathlib.Tactic.Ring

/-! Little-endian integers as lists of bytes. -/
namespace Mooon

def bytesOf : Nat → Nat → List UInt8
  | 0, _ => []
  | size+1, value => UInt8.ofNat value :: bytesOf size (value/256)

def ofBytes : List UInt8 → Nat
  | [] => 0
  | byte::rest => byte.toNat + 256 * ofBytes rest

variable (size value : Nat)

@[simp] theorem length_bytesOf : (bytesOf size value).length = size := by
  induction size generalizing value with
  | zero => rfl
  | succ size ih => simp [bytesOf,ih]

theorem ofBytes_bytesOf (fits : value < 256^size) : ofBytes (bytesOf size value) = value := by
  induction size generalizing value with
  | zero =>
    have zero : value = 0 := by simpa using fits
    rw [zero]
    rfl
  | succ size ih =>
    have smaller : value/256 < 256^size := by
      apply Nat.div_lt_of_lt_mul
      rwa [Nat.pow_succ,Nat.mul_comm] at fits
    simp only [bytesOf,ofBytes,ih _ smaller,UInt8.toNat_ofNat']
    omega

end Mooon

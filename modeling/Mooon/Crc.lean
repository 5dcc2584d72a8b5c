import Mooon.Bytes
import Mathlib.Data.Nat.Bitwise

/-! Cyclic redundancy checks with the least significant bit first, for registers of any width. The register is
divided bit by bit; a polynomial whose constant term is set makes every step invertible. -/
namespace Mooon.Crc
open BitVec
variable {w : Nat} (poly : BitVec w)

def shift (register : BitVec w) : BitVec w :=
  if register.getLsbD 0 then (register >>> 1) ^^^ poly else register >>> 1

def shifts (count : Nat) : BitVec w → BitVec w := (shift poly)^[count]

def feed (register : BitVec w) (byte : UInt8) : BitVec w :=
  shifts poly 8 (register ^^^ BitVec.ofNat w byte.toNat)

def feedAll (register : BitVec w) (bytes : List UInt8) : BitVec w := bytes.foldl (feed poly) register

def checksum (bytes : List UInt8) : BitVec w := ~~~feedAll poly (BitVec.allOnes w) bytes

theorem shift_xor (x y : BitVec w) : shift poly (x ^^^ y) = shift poly x ^^^ shift poly y := by
  unfold shift
  rw [BitVec.getLsbD_xor,BitVec.ushiftRight_xor_distrib]
  generalize x >>> 1 = u
  generalize y >>> 1 = v
  cases x.getLsbD 0 with
  | false =>
    cases y.getLsbD 0 with
    | false => rfl
    | true => exact BitVec.xor_assoc u v poly
  | true =>
    cases y.getLsbD 0 with
    | false => exact (BitVec.xor_assoc u v poly).trans ((congrArg _ (BitVec.xor_comm v poly)).trans
        (BitVec.xor_assoc u poly v).symm)
    | true =>
      change u ^^^ v = (u ^^^ poly) ^^^ (v ^^^ poly)
      rw [BitVec.xor_assoc,BitVec.xor_comm v,← BitVec.xor_assoc poly,BitVec.xor_self,BitVec.zero_xor]

variable (count : Nat)

theorem shifts_xor
    (x y : BitVec w) : shifts poly count (x ^^^ y) = shifts poly count x ^^^ shifts poly count y :=
  Function.Semiconj₂.iterate (shift_xor poly) count x y

theorem shifts_add (first second : Nat) (x : BitVec w) :
    shifts poly (first+second) x = shifts poly first (shifts poly second x) :=
  Function.iterate_add_apply (shift poly) first second x

variable {value : Nat}

theorem shift_double (fits : value*2 < 2^w) :
    shift poly (BitVec.ofNat w (value*2)) = BitVec.ofNat w value := by
  have even : (BitVec.ofNat w (value*2)).getLsbD 0 = false := by simp [BitVec.getLsbD_ofNat]
  unfold shift
  rw [even,if_neg Bool.false_ne_true]
  apply BitVec.eq_of_toNat_eq
  rw [BitVec.toNat_ushiftRight,BitVec.toNat_ofNat,BitVec.toNat_ofNat,Nat.mod_eq_of_lt fits,
    Nat.mod_eq_of_lt (by omega),
    Nat.shiftRight_eq_div_pow]
  omega

theorem shifts_mul (fits : value*2^count < 2^w) :
    shifts poly count (BitVec.ofNat w (value*2^count)) = BitVec.ofNat w value := by
  induction count with
  | zero => simp [shifts]
  | succ count ih =>
    have doubled : value*2^(count+1) = value*2^count*2 := by ring
    rw [doubled] at fits ⊢
    change shifts poly count (shift poly _) = _
    rw [shift_double poly fits]
    exact ih (by omega)

theorem xor_parts (value count : Nat) : value%2^count ^^^ value/2^count*2^count = value := by
  apply Nat.eq_of_testBit_eq
  intro i
  rw [Nat.testBit_xor,Nat.testBit_mul_two_pow,Nat.testBit_div_two_pow]
  by_cases low : i < count
  · have short : ¬ count ≤ i := by omega
    simp [low,short]
  · have high : count ≤ i := by omega
    simp [low,high]

theorem shifts_parts (fits : value < 2^w) : shifts poly count (BitVec.ofNat w value) =
      shifts poly count (BitVec.ofNat w (value%2^count)) ^^^ BitVec.ofNat w (value/2^count) := by
  have high := lt_of_le_of_lt (Nat.div_mul_le_self value (2^count)) fits
  rw [← shifts_mul poly count high,← shifts_xor,← BitVec.ofNat_xor,xor_parts]

theorem feedAll_bytesOf (size : Nat) (inside : 8*size ≤ w) (register : BitVec w) (fits : value < 256^size) :
    feedAll poly register (bytesOf size value) =
      shifts poly (8*size) (register ^^^ BitVec.ofNat w value) := by
  induction size generalizing register value with
  | zero =>
    have zero : value = 0 := by simpa using fits
    simp [feedAll,bytesOf,shifts,zero]
  | succ size ih =>
    have smaller : value/256 < 256^size := by
      apply Nat.div_lt_of_lt_mul
      rwa [Nat.pow_succ,Nat.mul_comm] at fits
    have room : 256^(size+1) ≤ 2^w := by
      rw [show (256 : Nat) = 2^8 from rfl,← Nat.pow_mul]
      exact Nat.pow_le_pow_right (by decide) inside
    have low : (UInt8.ofNat value).toNat = value%2^8 := UInt8.toNat_ofNat'
    have rest : feedAll poly register (bytesOf (size+1) value) =
        feedAll poly (feed poly register (UInt8.ofNat value)) (bytesOf size (value/256)) := rfl
    have high : value/2^8*2^8 < 2^w := by omega
    calc feedAll poly register (bytesOf (size+1) value)
        = shifts poly (8*size) (shifts poly 8 (register ^^^ BitVec.ofNat w (value%2^8)) ^^^
            BitVec.ofNat w (value/2^8)) := by
            rw [rest,ih (by omega) _ smaller]
            rfl
      _ = shifts poly (8*size) (shifts poly 8 (register ^^^ BitVec.ofNat w (value%2^8) ^^^
            BitVec.ofNat w (value/2^8*2^8))) := by rw [← shifts_mul poly 8 high,← shifts_xor]
      _ = shifts poly (8*size+8) (register ^^^ BitVec.ofNat w value) := by
            rw [BitVec.xor_assoc,← BitVec.ofNat_xor,xor_parts,← shifts_add]

section
variable {poly} (constant : poly.getLsbD (w-1) = true)
include constant

theorem getLsbD_shift {x : BitVec w} : (shift poly x).getLsbD (w-1) = x.getLsbD 0 := by
  have top : (x >>> 1).getLsbD (w-1) = false := by
    rw [getLsbD_ushiftRight]
    exact getLsbD_of_ge x _ (by omega)
  unfold shift
  cases low : x.getLsbD 0 with
  | false => simpa using top
  | true => simp only [if_true,getLsbD_xor,top,constant,Bool.false_xor]

theorem shift_injective : Function.Injective (shift poly) := by
  intro x y same
  have low : x.getLsbD 0 = y.getLsbD 0 := by
    rw [← getLsbD_shift constant,← getLsbD_shift constant,same]
  have high : x >>> 1 = y >>> 1 := by
    unfold shift at same
    rw [low] at same
    cases bit : y.getLsbD 0 with
    | false => simpa [bit] using same
    | true =>
      rw [bit] at same
      exact (xor_left_inj _).mp same
  apply eq_of_getLsbD_eq
  intro i inside
  cases i with
  | zero => exact low
  | succ i =>
    have bit := congrArg (fun z => getLsbD z i) high
    simpa only [getLsbD_ushiftRight,Nat.add_comm] using bit

theorem shifts_injective {count : Nat} : Function.Injective (shifts poly count) :=
  (shift_injective constant).iterate count

theorem feedAll_injective (bytes : List UInt8) :
    Function.Injective fun register => feedAll poly register bytes := by
  induction bytes with
  | nil => exact Function.injective_id
  | cons byte bytes ih =>
    intro x y same
    exact (xor_left_inj _).mp (shifts_injective constant (ih same))

theorem feedAll_word_ne {size : Nat} (inside : 8*size ≤ w) (register : BitVec w) {first second : Nat}
    (fits : first < 256^size) (fits' : second < 256^size) (ne : first ≠ second) :
    feedAll poly register (bytesOf size first) ≠ feedAll poly register (bytesOf size second) := by
  intro same
  rw [feedAll_bytesOf poly size inside register fits,feedAll_bytesOf poly size inside register fits'] at same
  have same := congrArg BitVec.toNat ((BitVec.xor_right_inj _).mp (shifts_injective constant same))
  have room : 256^size ≤ 2^w := by
    rw [show (256 : Nat) = 2^8 from rfl,← Nat.pow_mul]
    exact Nat.pow_le_pow_right (by decide) inside
  rw [BitVec.toNat_ofNat,BitVec.toNat_ofNat,Nat.mod_eq_of_lt (by omega),Nat.mod_eq_of_lt (by omega)] at same
  exact ne same

end

theorem feedAll_append (register : BitVec w) (left right : List UInt8) :
    feedAll poly register (left ++ right) = feedAll poly (feedAll poly register left) right :=
  List.foldl_append

end Mooon.Crc

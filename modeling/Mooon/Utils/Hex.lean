import Mooon.CharBuffer
import Mooon.OutStream

/-! `CStringUtils::to_hex` with the decoder of single pairs. A `char` is signed, so a byte from 128
on is promoted to a negative number, and of its eight digits `snprintf` keeps the first two. -/
namespace Mooon.Utils
open List

/-- The text of `%02x` or `%02X` for a `char`. -/
def formatHex (lowercase : Bool) (char : UInt8) : List UInt8 :=
  (hexadecimal (!lowercase) (char.toInt8.toInt % 4294967296).toNat).leftpad 2 48

def toHexLoop (lowercase : Bool) : List UInt8 → Nat → CharBuffer UInt8 → Option (CharBuffer UInt8)
  | [], hexP, buffer => buffer.write hexP 0
  | char::rest, hexP, buffer =>
    (buffer.vsnprintf 0 hexP 3 (formatHex lowercase char)).bind fun (buffer,_) =>
      toHexLoop lowercase rest (hexP+2) buffer

/-- The block of `hex` ends with the terminator of the string. -/
def toHex (source : List UInt8) (lowercase : Bool) : Option (List UInt8) :=
  (toHexLoop lowercase source 0 ⟨2*source.length+1,fun _ => 0⟩).map (·.text (2*source.length))

def char2hex (c : UInt8) : List UInt8 := [hexByte true (c >>> 4 &&& 15).toNat,hexByte true (c &&& 15).toNat]

def toupper (char : UInt8) : UInt8 := if 97 ≤ char ∧ char ≤ 122 then char - 32 else char

def hex2char (hex : List UInt8) : UInt8 :=
  (hex.take 2).foldl (fun c char => c <<< 4 +
    (if 65 ≤ toupper char then toupper char - 55 else toupper char - 48)) 0

theorem length_formatHex (lowercase : Bool) (char : UInt8) : 2 ≤ (formatHex lowercase char).length := by
  rw [formatHex,length_leftpad]
  exact Nat.le_max_left _ _

theorem toHexLoop_text (lowercase : Bool) (source : List UInt8) {hexP : Nat} {buf : CharBuffer UInt8}
    (room : hexP + 2*source.length < buf.capacity) :
    ∃ after, toHexLoop lowercase source hexP buf = some after ∧
      after.text (hexP + 2*source.length) =
        buf.text hexP ++ source.flatMap fun char => (formatHex lowercase char).take 2 := by
  induction source generalizing hexP buf with
  | nil =>
    refine ⟨_,CharBuffer.write_eq room 0,?_⟩
    simpa using CharBuffer.text_congr fun index inside => Function.update_of_ne (Nat.ne_of_lt inside) _ _
  | cons char rest ih =>
    rw [length_cons] at room
    have inside : hexP + 3 ≤ buf.capacity := by omega
    obtain ⟨printed,done,print⟩ := CharBuffer.vsnprintf_printed 0 (formatHex lowercase char) inside
    obtain ⟨after,looped,text⟩ := @ih (hexP+2) printed (by rw [print.capacity]; omega)
    refine ⟨after,?_,?_⟩
    · rw [toHexLoop,done]
      exact looped
    · have front := print.text
      rw [Nat.min_eq_left (length_formatHex lowercase char)] at front
      rw [length_cons,Nat.mul_succ,Nat.add_comm (2*_),← Nat.add_assoc,text,front,flatMap_cons,append_assoc]

theorem toHex_eq (source : List UInt8) (lowercase : Bool) :
    toHex source lowercase = some (source.flatMap fun char => (formatHex lowercase char).take 2) := by
  obtain ⟨after,done,text⟩ := @toHexLoop_text lowercase source 0 ⟨2*source.length+1,fun _ => 0⟩ (by simp)
  rw [Nat.zero_add] at text
  rw [toHex,done,Option.map_some,text]
  rfl

theorem pair_flatMap {code : UInt8 → List UInt8} (length : ∀ char, (code char).length = 2)
    (source : List UInt8)
    {i : Nat} (inside : i < source.length) : ((source.flatMap code).drop (2*i)).take 2 = code source[i] := by
  induction source generalizing i with
  | nil => cases inside
  | cons char rest ih =>
    cases i with
    | zero => exact take_left' (length char)
    | succ i =>
      rw [flatMap_cons,Nat.mul_succ,Nat.add_comm,← drop_drop,drop_left' (length char)]
      exact ih (Nat.lt_of_succ_lt_succ inside)

theorem pair_iff (lowercase : Bool) (char : UInt8) :
    (((formatHex lowercase char).take 2).map toupper = char2hex char ∧
      hex2char ((formatHex lowercase char).take 2) = char) ↔ char < 128 ∨ char = 255 := by
  have all : ∀ lowercase, ∀ value < 256,
      (((formatHex lowercase (UInt8.ofNat value)).take 2).map toupper = char2hex (UInt8.ofNat value) ∧
        hex2char ((formatHex lowercase (UInt8.ofNat value)).take 2) = UInt8.ofNat value) ↔
          UInt8.ofNat value < 128 ∨ UInt8.ofNat value = 255 := by decide +kernel
  have here := all lowercase char.toNat char.toNat_lt
  rwa [UInt8.ofNat_toNat] at here

/-- Text and bytes agree exactly for the bytes below 128 and for 255, which is -1. -/
theorem toHex_round_iff (source : List UInt8) (lowercase : Bool) :
    (∃ hex, toHex source lowercase = some hex ∧ hex.length = 2*source.length ∧
      ∀ i (inside : i < source.length),
      ((hex.drop (2*i)).take 2).map toupper = char2hex source[i] ∧ hex2char
      ((hex.drop (2*i)).take 2) = source[i]) ↔
        ∀ byte ∈ source, byte < 128 ∨ byte = 255 := by
  have two (char : UInt8) : ((formatHex lowercase char).take 2).length = 2 :=
    length_take_of_le (length_formatHex lowercase char)
  rw [forall_mem_iff_getElem]
  simp only [← pair_iff lowercase]
  constructor
  · rintro ⟨_,done,-,pairs⟩ i inside
    rw [toHex_eq,Option.some.injEq] at done
    have pair := pairs i inside
    rwa [← done,pair_flatMap two source inside] at pair
  · intro good
    refine ⟨_,toHex_eq source lowercase,?_,fun i inside => ?_⟩
    · rw [length_flatMap]
      simp [two,Nat.mul_comm]
    · rw [pair_flatMap two source inside]
      exact good i inside

theorem toHex_negative : toHex [128] true = some [102,102] ∧ char2hex 128 = [56,48] ∧
    hex2char [102,102] = 255 := by
  decide +kernel

end Mooon.Utils

import Mooon.Decimal

/-! An output stream with the flags of its numbers, and the hexadecimal digits it may print. The
base, the case of the digits and the fill stay as they are until they are set again; the width is
for the next item only. -/
namespace Mooon
open List

def hexByte (uppercase : Bool) (digit : Nat) : UInt8 :=
  if digit < 10 then digitByte digit else UInt8.ofNat ((if uppercase then 55 else 87) + digit)

def hexadecimal (uppercase : Bool) (value : Nat) : List UInt8 :=
  if value = 0 then [48] else (Nat.digits 16 value).reverse.map (hexByte uppercase)

def signedDecimal (value : Int) : List UInt8 :=
  if value < 0 then 45 :: decimal value.natAbs else decimal value.natAbs

inductive Base where
  | dec
  | hex
deriving DecidableEq

structure OutStream where
  text : List UInt8
  base : Base
  uppercase : Bool
  fill : UInt8
  width : Nat
deriving DecidableEq

namespace OutStream

def empty : OutStream := ⟨[],.dec,false,32,0⟩

def dec (stream : OutStream) : OutStream := {stream with base := .dec}

def hex (stream : OutStream) : OutStream := {stream with base := .hex}

def upper (stream : OutStream) : OutStream := {stream with uppercase := true}

def setw (stream : OutStream) (width : Nat) : OutStream := {stream with width}

def setfill (stream : OutStream) (fill : UInt8) : OutStream := {stream with fill}

def put (stream : OutStream) (item : List UInt8) : OutStream :=
  {stream with text := stream.text ++ item.leftpad stream.width stream.fill, width := 0}

/-- A number of 32 bits. In base 16 a negative one is printed as its two's complement. -/
def print (stream : OutStream) (value : Int) : OutStream :=
  match stream.base with
  | .dec => stream.put (signedDecimal value)
  | .hex => stream.put (hexadecimal stream.uppercase (value % 4294967296).toNat)

end OutStream

variable {uppercase : Bool}

theorem hexByte_eq_digitByte {digit other : Nat} (small : digit < 16) (decimal : other < 10)
    (same : hexByte uppercase digit = digitByte other) : digit = other := by
  have all : ∀ uppercase, ∀ digit < 16, ∀ other < 10, hexByte uppercase digit = digitByte other →
      digit = other := by
    decide
  exact all uppercase digit small other decimal same

theorem map_hexByte_eq (digits others : List Nat) (small : ∀ digit ∈ digits, digit < 16)
    (decimal : ∀ other ∈ others, other < 10) (same : digits.map (hexByte uppercase) = others.map digitByte) :
    digits = others := by
  induction digits generalizing others with
  | nil => exact (map_eq_nil_iff.mp same.symm).symm
  | cons digit digits ih =>
    cases others with
    | nil => simp at same
    | cons other others =>
      obtain ⟨first,later⟩ := cons.inj same
      have here := hexByte_eq_digitByte (small digit mem_cons_self) (decimal other mem_cons_self) first
      have rest := ih others (fun digit mem => small digit (mem_cons_of_mem _ mem))
        (fun other mem => decimal other (mem_cons_of_mem _ mem)) later
      rw [here,rest]

theorem digits_eq {value : Nat} (pos : 0 < value) (same : Nat.digits 16 value = Nat.digits 10 value) :
    value < 10 := by
  rw [Nat.digits_def' (by decide) pos,Nat.digits_def' (by decide) pos] at same
  obtain ⟨last,others⟩ := cons.inj same
  have less : Nat.ofDigits 10 (Nat.digits 10 (value/10)) ≤ Nat.ofDigits 16 (Nat.digits 10 (value/10)) :=
    Nat.ofDigits_monotone _ (by decide)
  rw [← others,Nat.ofDigits_digits,others,Nat.ofDigits_digits] at less
  omega

theorem length_hexadecimal_le (uppercase : Bool) (value : Nat) :
    (hexadecimal uppercase value).length ≤ (decimal value).length := by
  unfold hexadecimal decimal
  by_cases zero : value = 0
  · rw [if_pos zero,if_pos zero]
  · rw [if_neg zero,if_neg zero]
    simp only [length_map,length_reverse]
    rw [Nat.length_digits 16 value (by decide) zero,Nat.length_digits 10 value (by decide) zero]
    exact Nat.add_le_add_right (Nat.log_anti_left (by decide) (by decide)) 1

theorem hexadecimal_eq_decimal_iff (uppercase : Bool) (value : Nat) :
    hexadecimal uppercase value = decimal value ↔ value < 10 := by
  unfold hexadecimal decimal
  by_cases zero : value = 0
  · rw [if_pos zero,if_pos zero]
    exact iff_of_true rfl (by omega)
  · rw [if_neg zero,if_neg zero]
    constructor
    · intro same
      rw [map_reverse,map_reverse,reverse_inj] at same
      exact digits_eq (Nat.pos_of_ne_zero zero) (map_hexByte_eq _ _
        (fun _ mem => Nat.digits_lt_base (by decide) mem)
        (fun _ mem => Nat.digits_lt_base (by decide) mem) same)
    · intro small
      rw [Nat.digits_of_lt 16 value zero (by omega),Nat.digits_of_lt 10 value zero small]
      simp [hexByte,small]

end Mooon

import Mathlib.Data.Nat.Digits.Lemmas

/-! Numbers as text: the decimal digits in ASCII, the highest first. -/
namespace Mooon
open List

def isDigit (byte : UInt8) : Bool := 48 ≤ byte && byte ≤ 57

def digitByte (digit : Nat) : UInt8 := UInt8.ofNat (48 + digit)

def decimal (value : Nat) : List UInt8 :=
  if value = 0 then [48] else (Nat.digits 10 value).reverse.map digitByte

def ofDecimal (text : List UInt8) : Nat := text.foldl (fun value byte => 10*value + (byte.toNat - 48)) 0

variable {digit : Nat}

theorem isDigit_digitByte (small : digit < 10) : isDigit (digitByte digit) := by
  interval_cases digit <;> rfl

theorem toNat_digitByte (small : digit < 10) : (digitByte digit).toNat - 48 = digit := by
  interval_cases digit <;> rfl

theorem decimal_ne_nil (value : Nat) : decimal value ≠ [] := by
  unfold decimal
  split_ifs with pos
  · simp
  · simpa [Nat.digits_eq_nil_iff_eq_zero] using pos

variable {value : Nat} {byte : UInt8}

theorem isDigit_of_mem_decimal (mem : byte ∈ decimal value) : isDigit byte := by
  unfold decimal at mem
  split at mem
  · rw [mem_singleton.mp mem]
    rfl
  · obtain ⟨digit,inside,rfl⟩ := mem_map.mp mem
    exact isDigit_digitByte (Nat.digits_lt_base (by decide) (mem_reverse.mp inside))

theorem length_decimal_le {size : Nat} (pos : 0 < size) (fits : value < 10^size) :
    (decimal value).length ≤ size := by
  unfold decimal
  split
  · exact pos
  · simpa using (Nat.digits_length_le_iff (by decide) value).mpr fits

theorem ofDecimal_digits {digits : List Nat} (small : ∀ digit ∈ digits, digit < 10) :
    ofDecimal (digits.reverse.map digitByte) = Nat.ofDigits 10 digits := by
  induction digits with
  | nil => rfl
  | cons digit rest ih =>
    obtain ⟨first,later⟩ := forall_mem_cons.mp small
    have value := ih later
    unfold ofDecimal at value ⊢
    rw [reverse_cons,map_append,foldl_append,value]
    simp only [map_cons,foldl_cons,toNat_digitByte first]
    rw [Nat.ofDigits_cons]
    simp [Nat.add_comm]

theorem ofDecimal_decimal (value : Nat) : ofDecimal (decimal value) = value := by
  unfold decimal
  split_ifs with zero
  · rw [zero]
    rfl
  · rw [ofDecimal_digits (fun _ mem => Nat.digits_lt_base (by decide) mem),Nat.ofDigits_digits]

theorem decimal_inj {first second : Nat} : decimal first = decimal second ↔ first = second := by
  refine ⟨?_,congrArg decimal⟩
  intro same
  rw [← ofDecimal_decimal first,same,ofDecimal_decimal]

variable {text : List UInt8}

theorem ofDecimal_replicate {count : Nat} :
    ofDecimal (replicate count 48 ++ text) = ofDecimal text := by
  induction count with
  | zero => rfl
  | succ count ih =>
    exact ih

def padded (width value : Nat) : List UInt8 := (decimal value).leftpad width 48

variable {width : Nat}

theorem length_padded (pos : 0 < width) (fits : value < 10^width) : (padded width value).length = width := by
  rw [padded,length_leftpad]
  exact Nat.max_eq_left (length_decimal_le pos fits)

theorem ofDecimal_padded (width value : Nat) : ofDecimal (padded width value) = value := by
  unfold padded leftpad
  rw [ofDecimal_replicate,ofDecimal_decimal]

theorem isDigit_of_mem_padded (mem : byte ∈ padded width value) : isDigit byte := by
  rcases mem_append.mp mem with zero | digit
  · rw [eq_of_mem_replicate zero]
    rfl
  · exact isDigit_of_mem_decimal digit

theorem ofDecimal_cons (byte : UInt8) (text : List UInt8) :
    ofDecimal (byte::text) = (byte.toNat - 48) * 10^text.length + ofDecimal text := by
  have folded : ∀ (text : List UInt8) (value : Nat),
      text.foldl (fun value byte => 10*value + (byte.toNat - 48)) value =
        value * 10^text.length + ofDecimal text := by
    intro text
    induction text with
    | nil => simp [ofDecimal]
    | cons next rest ih =>
      intro value
      have first : ofDecimal (next::rest) = _ := ih (10*0 + (next.toNat - 48))
      rw [foldl_cons,ih,first,length_cons]
      ring
  rw [ofDecimal,foldl_cons,folded,Nat.zero_add]

theorem isDigit_iff (byte : UInt8) : isDigit byte = true ↔ 48 ≤ byte.toNat ∧ byte.toNat ≤ 57 := by
  unfold isDigit
  rw [Bool.and_eq_true,decide_eq_true_eq,decide_eq_true_eq]
  rfl

theorem ofDecimal_lt (digits : ∀ byte ∈ text, isDigit byte) : ofDecimal text < 10^text.length := by
  induction text with
  | nil => exact Nat.one_pos
  | cons byte rest ih =>
    obtain ⟨first,later⟩ := forall_mem_cons.mp digits
    have below := ih later
    have bounds := (isDigit_iff byte).mp first
    rw [ofDecimal_cons,length_cons]
    have most : (byte.toNat - 48) * 10^rest.length ≤ 9 * 10^rest.length := Nat.mul_le_mul_right _ (by omega)
    omega

end Mooon

import Mooon.Args.StringToInt

/-! `CStringUtils::string2int` for the unsigned types and for 64 bits. `unsigned long`, `unsigned
long long` and `long long` have 64 bits, and the arithmetic of the template on them is that of the
same bits. -/
namespace Mooon.Args
open List Option Int

inductive WideType where
  | uint8
  | uint16
  | uint32
  | uint64
  | int64
deriving DecidableEq

namespace WideType

section
variable (source : Str) (convertedLength : Nat) (ignoredZero : Bool)

def string2int64 : Option Int64 := fastString2int 20 convertedLength ignoredZero source

def string2uint64 : Option UInt64 := (fastString2int 20 convertedLength ignoredZero source).map Int64.toUInt64

def string2uint32 : Option UInt32 :=
  (fastString2int 10 convertedLength ignoredZero source).map fun value => value.toUInt64.toUInt32

def string2uint16 : Option UInt16 :=
  (string2uint32 source convertedLength ignoredZero).bind fun value =>
    if 65535 < value then none else some value.toUInt16

def string2uint8 : Option UInt8 :=
  (string2uint16 source convertedLength ignoredZero).bind fun value => if 255 < value then
    none else some value.toUInt8

def string2int (type : WideType) : Option Int :=
  match type with
  | .uint8 => (string2uint8 source convertedLength ignoredZero).map fun value => value.toNat
  | .uint16 => (string2uint16 source convertedLength ignoredZero).map fun value => value.toNat
  | .uint32 => (string2uint32 source convertedLength ignoredZero).map fun value => value.toNat
  | .uint64 => (string2uint64 source convertedLength ignoredZero).map fun value => value.toNat
  | .int64 => (string2int64 source convertedLength ignoredZero).map Int64.toInt

end

def lowest : WideType → Int
  | .int64 => -9223372036854775808
  | _ => 0

def highest : WideType → Int
  | .uint8 => 255
  | .uint16 => 65535
  | .uint32 => 4294967295
  | .uint64 => 18446744073709551615
  | .int64 => 9223372036854775807

/-- The text is a numeral of the value, which fits the type; only the signed type has a minus. -/
def Reads (type : WideType) (text : Str) (value : Int) : Prop :=
  Denotes text value ∧ (text.head? = some minus → type = .int64) ∧ type.lowest ≤ value ∧ value ≤ type.highest

def limit : WideType → Nat
  | .uint64 | .int64 => 20
  | _ => 10

def wrap : WideType → Int → Int
  | .int64, value => value.bmod 18446744073709551616
  | .uint64, value => value % 18446744073709551616
  | _, value => value % 4294967296

/-- A numeral that is not too long is one of the type, or its last 32 bits are too large for a
narrower type. -/
def Sound (type : WideType) (text : Str) : Prop :=
  ∀ number, Denotes text number → text.length ≤ type.limit → type.Reads text number ∨
    type.highest < type.wrap number

section
variable {text : Str} {value number : Int}

theorem fastString2int_eq_some {limit : Nat} {res : Int64} (two : 2 ≤ limit) :
    fastString2int limit 0 false text = some res ↔
      text.length ≤ limit ∧ ∃ number, Denotes text number ∧ Int64.ofInt number = res := by
  unfold fastString2int
  split_ifs with neg
  · obtain ⟨digits,rfl⟩ := head?_eq_some_iff.mp neg
    have opposite : Int64.ofInt (-ofDecimal digits) = -Int64.ofNat (ofDecimal digits) := by
      rw [Int64.ofInt_neg,Int64.ofInt_eq_ofNat]
    simp only [tail_cons,map_eq_some_iff,unsignedPart_eq_some,denotes_minus,length_cons]
    constructor
    · rintro ⟨_,⟨unsigned,short,rfl⟩,rfl⟩
      exact ⟨by omega,_,⟨unsigned,rfl⟩,opposite⟩
    · rintro ⟨short,_,⟨unsigned,rfl⟩,rfl⟩
      exact ⟨_,⟨unsigned,by omega,rfl⟩,opposite.symm⟩
  · simp only [unsignedPart_eq_some,denotes_plain neg]
    constructor
    · rintro ⟨unsigned,short,rfl⟩
      exact ⟨by omega,_,⟨unsigned,rfl⟩,Int64.ofInt_eq_ofNat⟩
    · rintro ⟨short,_,⟨unsigned,rfl⟩,rfl⟩
      exact ⟨unsigned,by omega,Int64.ofInt_eq_ofNat⟩

theorem toNat_bits (number : Int) :
    ((Int64.ofInt number).toUInt64.toNat : Int) = number % 18446744073709551616 := by
  change ((BitVec.ofInt 64 number).toNat : Int) = _
  rw [BitVec.toNat_ofInt,toNat_of_nonneg (emod_nonneg _ (by decide))]
  rfl

def Converts (type : WideType) (text : Str) (value : Int) : Prop :=
  text.length ≤ type.limit ∧ ∃ number, Denotes text number ∧ type.wrap number = value

theorem string2uint64_eq_some (res : UInt64) :
    string2uint64 text 0 false = some res ↔ Converts .uint64 text res.toNat := by
  simp only [string2uint64,map_eq_some_iff,fastString2int_eq_some (show 2 ≤ 20 by decide)]
  constructor
  · rintro ⟨_,⟨short,number,denoted,rfl⟩,rfl⟩
    exact ⟨short,number,denoted,(toNat_bits number).symm⟩
  · rintro ⟨short,number,denoted,same⟩
    refine ⟨_,⟨short,number,denoted,rfl⟩,UInt64.toNat_inj.mp (ofNat_inj.mp ?_)⟩
    exact (toNat_bits number).trans same

theorem string2uint32_eq_some (res : UInt32) :
    string2uint32 text 0 false = some res ↔ Converts .uint32 text res.toNat := by
  have bits (number : Int) : (Int64.ofInt number).toUInt64.toUInt32 = res ↔
      number % 4294967296 = res.toNat := by
    have value := toNat_bits number
    rw [← UInt32.toNat_inj,UInt64.toNat_toUInt32]
    omega
  simp only [string2uint32,map_eq_some_iff,fastString2int_eq_some (show 2 ≤ 10 by decide)]
  constructor
  · rintro ⟨_,⟨short,number,denoted,rfl⟩,same⟩
    exact ⟨short,number,denoted,(bits number).mp same⟩
  · rintro ⟨short,number,denoted,same⟩
    exact ⟨_,⟨short,number,denoted,rfl⟩,(bits number).mpr same⟩

theorem string2uint16_eq_some (res : UInt16) :
    string2uint16 text 0 false = some res ↔ Converts .uint16 text res.toNat := by
  have narrow (wide : UInt32) :
      (if 65535 < wide then none else some wide.toUInt16) = some res ↔ wide.toNat = res.toNat := by
    have bound := res.toNat_lt
    simp [UInt32.lt_iff_toNat_lt,← UInt16.toNat_inj]
    omega
  simp only [string2uint16,bind_eq_some_iff,string2uint32_eq_some,narrow]
  constructor
  · rintro ⟨wide,converted,same⟩
    exact same ▸ converted
  · exact fun converted => ⟨res.toUInt32,converted,rfl⟩

theorem string2uint8_eq_some (res : UInt8) :
    string2uint8 text 0 false = some res ↔ Converts .uint8 text res.toNat := by
  have narrow (wide : UInt16) :
      (if 255 < wide then none else some wide.toUInt8) = some res ↔ wide.toNat = res.toNat := by
    have bound := res.toNat_lt
    simp [UInt16.lt_iff_toNat_lt,← UInt8.toNat_inj]
    omega
  simp only [string2uint8,bind_eq_some_iff,string2uint16_eq_some,narrow]
  constructor
  · rintro ⟨wide,converted,same⟩
    exact same ▸ converted
  · exact fun converted => ⟨res.toUInt16,converted,rfl⟩

variable {type : WideType}

theorem map_toNat_eq_some {Word : Type} {toNat : Word → Nat} {ofNat : Nat → Word} {size : Nat}
    {converted : Option Word} (top : type.highest + 1 = size) (nonneg : ∀ number, 0 ≤ type.wrap number)
    (bound : ∀ word, toNat word < size) (made : ∀ natural, natural < size → toNat (ofNat natural) = natural)
    (spec : ∀ word, converted = some word ↔ Converts type text (toNat word)) :
    converted.map (fun word => (toNat word : Int)) = some value ↔
      Converts type text value ∧ value ≤ type.highest := by
  rw [map_eq_some_iff]
  constructor
  · rintro ⟨word,found,rfl⟩
    have small := bound word
    exact ⟨(spec word).mp found,by omega⟩
  · rintro ⟨⟨short,number,denoted,rfl⟩,small⟩
    obtain ⟨natural,same⟩ := eq_ofNat_of_zero_le (nonneg number)
    have word := made natural (by omega)
    exact ⟨ofNat natural,(spec _).mpr ⟨short,number,denoted,by rw [word,same]⟩,by rw [word,same]⟩

theorem wide_string2int_eq_some :
    string2int text 0 false type = some value ↔ Converts type text value ∧ value ≤ type.highest := by
  have nonneg (modulus number : Int) (pos : modulus ≠ 0) : 0 ≤ number % modulus := emod_nonneg _ pos
  cases type with
  | uint8 =>
    exact map_toNat_eq_some rfl (fun _ => nonneg _ _ (by decide)) UInt8.toNat_lt_size
      (fun _ => UInt8.toNat_ofNat_of_lt')
      string2uint8_eq_some
  | uint16 =>
    exact map_toNat_eq_some rfl (fun _ => nonneg _ _ (by decide)) UInt16.toNat_lt_size
      (fun _ => UInt16.toNat_ofNat_of_lt')
      string2uint16_eq_some
  | uint32 =>
    exact map_toNat_eq_some rfl (fun _ => nonneg _ _ (by decide)) UInt32.toNat_lt_size
      (fun _ => UInt32.toNat_ofNat_of_lt')
      string2uint32_eq_some
  | uint64 =>
    exact map_toNat_eq_some rfl (fun _ => nonneg _ _ (by decide)) UInt64.toNat_lt_size
      (fun _ => UInt64.toNat_ofNat_of_lt')
      string2uint64_eq_some
  | int64 =>
    have small (number : Int) : number.bmod 18446744073709551616 ≤ 9223372036854775807 :=
      lt_add_one_iff.mp (bmod_lt (by decide))
    simp only [string2int,string2int64,map_eq_some_iff,fastString2int_eq_some (show 2 ≤ 20 by decide)]
    constructor
    · rintro ⟨_,⟨short,number,denoted,rfl⟩,rfl⟩
      rw [Int64.toInt_ofInt]
      exact ⟨⟨short,number,denoted,rfl⟩,small number⟩
    · rintro ⟨⟨short,number,denoted,rfl⟩,-⟩
      exact ⟨_,⟨short,number,denoted,rfl⟩,Int64.toInt_ofInt⟩

theorem denotes_unique (first : Denotes text value) (second : Denotes text number) : value = number := by
  by_cases neg : text.head? = some minus
  · obtain ⟨digits,rfl⟩ := head?_eq_some_iff.mp neg
    rw [(denotes_minus.mp first).2,(denotes_minus.mp second).2]
  · rw [((denotes_plain neg).mp first).2,((denotes_plain neg).mp second).2]

theorem Reads.converts (reads : type.Reads text value) : Converts type text value := by
  obtain ⟨denoted,sign,low,high⟩ := reads
  refine ⟨?_,value,denoted,?_⟩
  · by_cases neg : text.head? = some minus
    · obtain ⟨digits,rfl⟩ := head?_eq_some_iff.mp neg
      obtain ⟨unsigned,rfl⟩ := denotes_minus.mp denoted
      rw [sign rfl] at low ⊢
      have short : digits.length ≤ 19 := unsigned.length_le (by decide) (by simp only [lowest] at low; omega)
      exact Nat.succ_le_succ short
    · obtain ⟨unsigned,rfl⟩ := (denotes_plain neg).mp denoted
      cases type <;> simp only [highest] at high
        <;> exact unsigned.length_le (by decide) (by simp only [limit]; omega)
  · cases type with
    | int64 => exact bmod_eq_of_le low (lt_add_one_iff.mpr high)
    | _ => exact emod_eq_of_lt low (by simp only [highest] at high; omega)

end

theorem wide_exact_iff (type : WideType) (text : Str) :
    (∀ value, string2int text 0 false type = some value ↔ type.Reads text value) ↔ type.Sound text := by
  simp only [wide_string2int_eq_some]
  constructor
  · intro exact number denoted short
    by_cases large : type.highest < type.wrap number
    · exact Or.inr large
    · have reads := (exact _).mp ⟨⟨short,number,denoted,rfl⟩,not_lt.mp large⟩
      rw [denotes_unique denoted reads.1]
      exact Or.inl reads
  · intro sound value
    constructor
    · rintro ⟨⟨short,number,denoted,rfl⟩,small⟩
      have reads := (sound number denoted short).resolve_right (not_lt.mpr small)
      obtain ⟨-,other,same,wrapped⟩ := reads.converts
      rw [denotes_unique same denoted] at wrapped
      rw [wrapped]
      exact reads
    · exact fun reads => ⟨reads.converts,reads.2.2.2⟩

theorem wide_minus_one :
    ¬ ∀ value, string2int [minus,49] 0 false .uint32 = some value ↔
      WideType.uint32.Reads [minus,49] value := by
  intro exact
  have reads := (exact 4294967295).mp (by decide)
  exact absurd (reads.2.1 rfl) (by decide)

end WideType

end Mooon.Args

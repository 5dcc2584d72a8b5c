import Mooon.Decimal

/-! `CStringUtils::string2int` for the signed types of up to 32 bits. All of them convert to a
`long` first and check the range afterwards. A string is the bytes in front of its NUL. -/
namespace Mooon.Args
open List Option

abbrev Str := List UInt8

def zero : UInt8 := 48
def minus : UInt8 := 45

def digit (char : UInt8) : Int64 := Int64.ofNat (char.toNat - 48)

def digitsLoop (maxLength convertedLength : Nat) : Nat → Int64 → Str → Option Int64
  | _, result, [] => some result
  | pos, result, char::rest =>
    if convertedLength = 0 ∨ pos + 1 < convertedLength then
      if maxLength ≤ pos + 1 then none
      else if isDigit char then digitsLoop maxLength convertedLength (pos+1) (result*10 + digit char) rest
      else none
    else some result

def skipZeros (maxLength : Nat) : Nat → Str → Option (Nat × Str)
  | pos, [] => if maxLength ≤ pos then none else some (pos,[])
  | pos, char::rest =>
    if maxLength ≤ pos then none
    else if char = zero then skipZeros maxLength (pos+1) rest
    else some (pos,char::rest)

def firstDigit (maxLength convertedLength : Nat) (pos : Nat) : Str → Option Int64
  | [] => none
  | char::rest => if isDigit char then digitsLoop maxLength convertedLength pos (digit char) rest else none

def unsignedPart (maxLength convertedLength : Nat) (ignoredZero : Bool) (pos : Nat)
    (str : Str) : Option Int64 :=
  match str with
  | [] => none
  | char::rest =>
    if char = zero then
      if rest = [] ∨ convertedLength = 1 then some 0
      else if !ignoredZero then none
      else
        match skipZeros maxLength (pos+1) rest with
        | none => none
        | some (_,[]) => some 0
        | some (pos,str) => firstDigit maxLength convertedLength pos str
    else firstDigit maxLength convertedLength pos (char::rest)

def fastString2int (maxLength convertedLength : Nat) (ignoredZero : Bool) (str : Str) : Option Int64 :=
  if str.head? = some minus then
    (unsignedPart maxLength convertedLength ignoredZero 1 str.tail).map fun result => -result
  else unsignedPart maxLength convertedLength ignoredZero 0 str

inductive IntType where
  | int8
  | int16
  | int32
deriving DecidableEq

def IntType.lowest : IntType → Int
  | .int8 => -128
  | .int16 => -32768
  | .int32 => -2147483648

def IntType.highest : IntType → Int
  | .int8 => 127
  | .int16 => 32767
  | .int32 => 2147483647

def IntType.narrow (type : IntType) (value : Int) : Option Int :=
  if value < type.lowest ∨ type.highest < value then none else some value

def string2int32 (source : Str) (convertedLength : Nat) (ignoredZero : Bool) : Option Int :=
  (fastString2int 11 convertedLength ignoredZero source).bind fun value => IntType.int32.narrow value.toInt

def string2int16 (source : Str) (convertedLength : Nat) (ignoredZero : Bool) : Option Int :=
  (string2int32 source convertedLength ignoredZero).bind IntType.int16.narrow

def string2int8 (source : Str) (convertedLength : Nat) (ignoredZero : Bool) : Option Int :=
  (string2int16 source convertedLength ignoredZero).bind IntType.int8.narrow

def string2int (type : IntType) (source : Str) (convertedLength : Nat) (ignoredZero : Bool) : Option Int :=
  match type with
  | .int8 => string2int8 source convertedLength ignoredZero
  | .int16 => string2int16 source convertedLength ignoredZero
  | .int32 => string2int32 source convertedLength ignoredZero

def Unsigned (text : Str) : Prop :=
  text = [zero] ∨ ∃ first rest, text = first::rest ∧ first ≠ zero ∧ ∀ char ∈ first::rest, isDigit char

def Denotes (text : Str) (value : Int) : Prop :=
  Unsigned text ∧ value = ofDecimal text ∨ ∃ digits, text = minus::digits ∧ Unsigned digits ∧
    value = -ofDecimal digits

variable {text : Str} {maxLength pos : Nat} {res : Int64}

theorem digitsLoop_eq_some {value : Nat} : digitsLoop maxLength 0 pos (Int64.ofNat value) text = some res ↔
      (∀ char ∈ text, isDigit char) ∧ (text = [] ∨ pos + text.length < maxLength) ∧
        res = Int64.ofNat (text.foldl (fun value byte => 10*value + (byte.toNat - 48)) value) := by
  induction text generalizing pos value with
  | nil =>
    rw [digitsLoop,eq_comm]
    simp
  | cons char text ih =>
    have next : Int64.ofNat value * 10 + digit char = Int64.ofNat (10*value + (char.toNat-48)) := by
      rw [Int64.ofNat_add,Int64.ofNat_mul,Int64.mul_comm]
      rfl
    rw [digitsLoop,if_pos (.inl rfl),next]
    split_ifs with long first
    · simp only [false_iff,not_and]
      intro _ short
      simp at short
      omega
    · rw [ih]
      have bound : (text = [] ∨ pos + 1 + text.length < maxLength) ↔
          (char::text = [] ∨ pos + (text.length + 1) < maxLength) := by
        simp only [reduceCtorEq,false_or]
        constructor
        · rintro (rfl | short)
          · simpa using long
          · omega
        · intro short
          exact .inr (by omega)
      rw [bound]
      simp [first]
    · simp [first]

variable {char : UInt8} {rest : Str}

theorem unsigned_cons (other : char ≠ zero) : Unsigned (char::rest) ↔
    isDigit char ∧ ∀ later ∈ rest, isDigit later := by
  constructor
  · rintro (same | ⟨first,tail,same,-,digits⟩)
    · exact absurd (cons.inj same).1 other
    · rw [← same] at digits
      exact forall_mem_cons.mp digits
  · exact fun digits => .inr ⟨char,rest,rfl,other,forall_mem_cons.mpr digits⟩

theorem firstDigit_eq_some (other : char ≠ zero) :
    firstDigit maxLength 0 pos (char::rest) = some res ↔ Unsigned (char::rest) ∧
      ((char::rest).length ≤ 1 ∨ pos + (char::rest).length ≤ maxLength) ∧
        res = Int64.ofNat (ofDecimal (char::rest)) := by
  have value : rest.foldl (fun value byte => 10*value + (byte.toNat - 48)) (char.toNat - 48) =
      ofDecimal (char::rest) := by
    rw [ofDecimal,foldl_cons,Nat.zero_add]
  have length : (rest = [] ∨ pos + rest.length < maxLength) ↔
      ((char::rest).length ≤ 1 ∨ pos + (char::rest).length ≤ maxLength) := by
    rw [← length_eq_zero_iff,length_cons]
    omega
  rw [firstDigit,unsigned_cons other]
  split_ifs with first
  · rw [digit,digitsLoop_eq_some,value,length]
    simp [first]
  · simp [first]

theorem unsignedPart_eq_some : unsignedPart maxLength 0 false pos text = some res ↔
      Unsigned text ∧ (text.length ≤ 1 ∨ pos + text.length ≤ maxLength) ∧
        res = Int64.ofNat (ofDecimal text) := by
  unfold unsignedPart
  cases text with
  | nil => simp [Unsigned]
  | cons char rest =>
    dsimp only
    split_ifs with first alone ignored
    · have rest := alone.resolve_right (by decide)
      subst rest first
      rw [some.injEq,eq_comm]
      exact ⟨fun same => ⟨.inl rfl,.inl (Nat.le_refl _),same⟩,fun done => done.2.2⟩
    · have long : rest ≠ [] := fun nil => alone (.inl nil)
      simp [Unsigned,first,long]
    · exact absurd rfl ignored
    · exact firstDigit_eq_some first

theorem Unsigned.digits (unsigned : Unsigned text) : ∀ char ∈ text, isDigit char := by
  rcases unsigned with rfl | ⟨first,rest,rfl,-,digits⟩
  · exact forall_mem_singleton.mpr rfl
  · exact digits

theorem Unsigned.length_le (unsigned : Unsigned text) {size : Nat} (pos : 0 < size)
    (small : ofDecimal text < 10^size) : text.length ≤ size := by
  rcases unsigned with rfl | ⟨first,rest,rfl,other,digits⟩
  · exact pos
  · have pos : 1 ≤ first.toNat - 48 := by
      have bounds := (isDigit_iff first).mp (digits first mem_cons_self)
      have ne : first.toNat ≠ 48 := fun same => other (UInt8.toNat_inj.mp same)
      omega
    have power : 10^rest.length < 10^size := by
      calc 10^rest.length = 1 * 10^rest.length := (Nat.one_mul _).symm
        _ ≤ (first.toNat - 48) * 10^rest.length := Nat.mul_le_mul_right _ pos
        _ ≤ ofDecimal (first::rest) := by
          rw [ofDecimal_cons]
          exact Nat.le_add_right _ _
        _ < 10^size := small
    exact (Nat.pow_lt_pow_iff_right (by decide)).mp power

variable {value : Int}

theorem denotes_minus {digits : Str} : Denotes (minus::digits) value ↔
    Unsigned digits ∧ value = -ofDecimal digits := by
  have unsigned : ¬ Unsigned (minus::digits) := by
    rw [unsigned_cons (by decide)]
    exact fun digits => absurd digits.1 (by decide)
  constructor
  · rintro (⟨pos,-⟩ | ⟨other,same,denoted⟩)
    · exact absurd pos unsigned
    · rw [(cons.inj same).2]
      exact denoted
  · exact fun denoted => .inr ⟨digits,rfl,denoted⟩

theorem denotes_plain (plain : text.head? ≠ some minus) :
    Denotes text value ↔ Unsigned text ∧ value = ofDecimal text := by
  constructor
  · rintro (denoted | ⟨digits,rfl,-⟩)
    · exact denoted
    · exact absurd rfl plain
  · exact .inl

variable {type : IntType}

theorem narrow_eq_some {res : Int} :
    type.narrow value = some res ↔ res = value ∧ type.lowest ≤ res ∧ res ≤ type.highest := by
  unfold IntType.narrow
  split_ifs with outside
  · simp only [false_iff]
    omega
  · rw [some.injEq]
    omega

theorem toInt_value (unsigned : Unsigned text) (short : text.length ≤ 11) :
    (Int64.ofNat (ofDecimal text)).toInt = ofDecimal text ∧ (-Int64.ofNat (ofDecimal text)).toInt =
      -ofDecimal text := by
  have small := (ofDecimal_lt unsigned.digits).trans_le (Nat.pow_le_pow_right (by decide) short)
  constructor
  · exact Int64.toInt_ofNat_of_lt (by omega)
  · rw [← Int64.ofInt_eq_ofNat,← Int64.ofInt_neg]
    exact Int64.toInt_ofInt_of_le (by omega) (by omega)

theorem Unsigned.length_le_ten (unsigned : Unsigned text) (small : (ofDecimal text : Int) ≤ 2147483648) :
    text.length ≤ 10 :=
  unsigned.length_le (by decide) (by omega)

theorem string2int32_eq_some : string2int32 text 0 false = some value ↔
      Denotes text value ∧ IntType.int32.lowest ≤ value ∧ value ≤ IntType.int32.highest := by
  simp only [string2int32,bind_eq_some_iff,narrow_eq_some,fastString2int,IntType.lowest,IntType.highest]
  split_ifs with neg
  · obtain ⟨digits,rfl⟩ := head?_eq_some_iff.mp neg
    rw [denotes_minus,tail_cons]
    constructor
    · rintro ⟨_,converted,rfl,range⟩
      obtain ⟨res,found,rfl⟩ := map_eq_some_iff.mp converted
      obtain ⟨unsigned,short,rfl⟩ := unsignedPart_eq_some.mp found
      exact ⟨⟨unsigned,(toInt_value unsigned (by omega)).2⟩,range⟩
    · rintro ⟨⟨unsigned,rfl⟩,range⟩
      have short := unsigned.length_le_ten (by omega)
      refine ⟨_,map_eq_some_iff.mpr ⟨_,unsignedPart_eq_some.mpr ⟨unsigned,.inr (by omega),rfl⟩,rfl⟩,?_,range⟩
      exact (toInt_value unsigned (by omega)).2.symm
  · rw [denotes_plain neg]
    constructor
    · rintro ⟨_,found,rfl,range⟩
      obtain ⟨unsigned,short,rfl⟩ := unsignedPart_eq_some.mp found
      exact ⟨⟨unsigned,(toInt_value unsigned (by omega)).1⟩,range⟩
    · rintro ⟨⟨unsigned,rfl⟩,range⟩
      have short := unsigned.length_le_ten (by omega)
      refine ⟨_,unsignedPart_eq_some.mpr ⟨unsigned,.inr (by omega),rfl⟩,?_,range⟩
      exact (toInt_value unsigned (by omega)).1.symm

theorem string2int16_eq_some : string2int16 text 0 false = some value ↔
      Denotes text value ∧ IntType.int16.lowest ≤ value ∧ value ≤ IntType.int16.highest := by
  simp only [string2int16,bind_eq_some_iff,string2int32_eq_some,narrow_eq_some,IntType.lowest,IntType.highest]
  constructor
  · rintro ⟨_,⟨denoted,_⟩,rfl,range⟩
    exact ⟨denoted,range⟩
  · rintro ⟨denoted,range⟩
    exact ⟨value,⟨denoted,by omega⟩,rfl,range⟩

theorem string2int8_eq_some : string2int8 text 0 false = some value ↔
      Denotes text value ∧ IntType.int8.lowest ≤ value ∧ value ≤ IntType.int8.highest := by
  simp only [string2int8,bind_eq_some_iff,string2int16_eq_some,narrow_eq_some,IntType.lowest,IntType.highest]
  constructor
  · rintro ⟨_,⟨denoted,_⟩,rfl,range⟩
    exact ⟨denoted,range⟩
  · rintro ⟨denoted,range⟩
    exact ⟨value,⟨denoted,by omega⟩,rfl,range⟩

theorem string2int_eq_some :
    string2int type text 0 false = some value ↔ Denotes text value ∧ type.lowest ≤ value ∧
      value ≤ type.highest := by
  cases type with
  | int8 => exact string2int8_eq_some
  | int16 => exact string2int16_eq_some
  | int32 => exact string2int32_eq_some

end Mooon.Args

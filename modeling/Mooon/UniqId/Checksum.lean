import Mooon.Crc
import Mooon.UniqId.Protocol

/-! The checksum of a message header is the CRC-32 of its fields, and no change within one field of
at most four bytes goes unnoticed. -/
namespace Mooon.UniqId.Checksum
open List

def polynomial : BitVec 32 := 0xEDB88320

theorem crc32Tab_toList : crc32Tab.toList =
    (range 256).map fun index => UInt32.ofBitVec (Crc.shifts polynomial 8 (BitVec.ofNat 32 index)) := by
  decide +kernel

theorem crc32Tab_getD {index : Nat} (inside : index < 256) :
    (crc32Tab.getD index 0).toBitVec = Crc.shifts polynomial 8 (BitVec.ofNat 32 index) := by
  have entry : crc32Tab[index]? =
      some (UInt32.ofBitVec (Crc.shifts polynomial 8 (BitVec.ofNat 32 index))) := by
    rw [← Array.getElem?_toList,crc32Tab_toList,getElem?_map,getElem?_range inside]
    rfl
  rw [Array.getD_eq_getD_getElem?,entry]
  rfl

variable (crc : UInt32)

theorem crc32Byte_eq {byte : UInt8} :
    (crc32Byte crc byte).toBitVec = Crc.feed polynomial crc.toBitVec byte := by
  have low : ((crc ^^^ byte.toUInt32) &&& 0xFF).toNat = (crc ^^^ byte.toUInt32).toNat % 2^8 := by
    exact Nat.and_two_pow_sub_one_eq_mod _ 8
  have mixed : crc.toBitVec ^^^ BitVec.ofNat 32 byte.toNat =
      BitVec.ofNat 32 (crc ^^^ byte.toUInt32).toNat := by
    simp
  have high : (crc >>> 8).toBitVec = BitVec.ofNat 32 ((crc ^^^ byte.toUInt32).toNat / 2^8) := by
    have none : byte.toNat >>> 8 = 0 := by
      rw [Nat.shiftRight_eq_div_pow]
      exact Nat.div_eq_of_lt byte.toNat_lt
    apply BitVec.eq_of_toNat_eq
    rw [← Nat.shiftRight_eq_div_pow,UInt32.toNat_xor,Nat.shiftRight_xor_distrib,
      UInt8.toNat_toUInt32,none,Nat.xor_zero]
    have small : crc.toNat >>> 8 < 2^32 := lt_of_le_of_lt (Nat.shiftRight_le _ 8) crc.toNat_lt
    rw [BitVec.toNat_ofNat,Nat.mod_eq_of_lt small]
    rfl
  have inside : (crc ^^^ byte.toUInt32).toNat % 2^8 < 256 := Nat.mod_lt _ (by decide)
  unfold crc32Byte Crc.feed
  rw [UInt32.toBitVec_xor,low,crc32Tab_getD inside,mixed,high,
    ← Crc.shifts_parts polynomial 8 (UInt32.toNat_lt _)]

variable {buf : List UInt8}

theorem foldl_crc32Byte : (buf.foldl crc32Byte crc).toBitVec = Crc.feedAll polynomial crc.toBitVec buf := by
  induction buf generalizing crc with
  | nil => rfl
  | cons byte buf ih =>
    change (buf.foldl crc32Byte (crc32Byte crc byte)).toBitVec = _
    rw [ih,crc32Byte_eq]
    rfl

theorem crc32_toBitVec : (crc32 crc buf).toBitVec = ~~~Crc.feedAll polynomial (~~~crc.toBitVec) buf := by
  have complement (x : UInt32) : (x ^^^ 0xFFFFFFFF).toBitVec = ~~~x.toBitVec := by
    exact BitVec.xor_allOnes
  unfold crc32
  rw [complement,foldl_crc32Byte,complement]

theorem crc32_append {left right : List UInt8} :
    crc32 (crc32 crc left) right = crc32 crc (left ++ right) := by
  apply UInt32.toBitVec_inj.mp
  rw [crc32_toBitVec,crc32_toBitVec,crc32_toBitVec,BitVec.not_not,Crc.feedAll_append]

theorem crc32_zero : (crc32 0 buf).toBitVec = Crc.checksum polynomial buf :=
  crc32_toBitVec 0

theorem crc32_injective : Function.Injective fun crc => crc32 crc buf := by
  intro first second same
  have same := congrArg UInt32.toBitVec same
  rw [crc32_toBitVec,crc32_toBitVec] at same
  have fed := Crc.feedAll_injective (by decide : polynomial.getLsbD (32-1) = true) buf
    (BitVec.not_inj.mp same)
  exact UInt32.toBitVec_inj.mp (BitVec.not_inj.mp fed)

variable {size first second : Nat}

theorem crc32_word_ne (short : size ≤ 4) (fits : first < 256^size)
    (fits' : second < 256^size) (ne : first ≠ second) :
    crc32 crc (bytesOf size first) ≠ crc32 crc (bytesOf size second) := by
  intro same
  have same := congrArg UInt32.toBitVec same
  rw [crc32_toBitVec,crc32_toBitVec] at same
  exact Crc.feedAll_word_ne (by decide : polynomial.getLsbD (32-1) = true) (by omega) _ fits fits' ne
    (BitVec.not_inj.mp same)

abbrev Field := Nat × Nat

def bytesOfField (field : Field) : List UInt8 := bytesOf field.1 field.2

def chain (crc : UInt32) (fields : List Field) : UInt32 :=
  fields.foldl (fun crc field => crc32 crc (bytesOfField field)) crc

theorem chain_eq (fields : List Field) : chain crc fields = crc32 crc (fields.flatMap bytesOfField) := by
  induction fields generalizing crc with
  | nil =>
    apply UInt32.toBitVec_inj.mp
    rw [crc32_toBitVec]
    exact BitVec.not_not.symm
  | cons field fields ih =>
    change chain (crc32 crc (bytesOfField field)) fields = _
    rw [ih,crc32_append,flatMap_cons]

theorem chain_injective {fields : List Field} : Function.Injective fun crc => chain crc fields := by
  induction fields with
  | nil => exact Function.injective_id
  | cons field fields ih =>
    intro first second same
    exact crc32_injective (ih same)

theorem chain_ne {before after : List Field} (short : size ≤ 4) (fits : first < 256^size)
    (fits' : second < 256^size) (ne : first ≠ second) :
    chain 0 (before ++ (size,first) :: after) ≠ chain 0 (before ++ (size,second) :: after) := by
  intro same
  unfold chain at same
  rw [foldl_append,foldl_append] at same
  exact crc32_word_ne _ short fits fits' ne (chain_injective same)

def fields (head : MessageHead) : List Field :=
  [(2,head.len.toNat),(2,head.type.toNat),(2,head.majorVer.toNat),(2,head.minorVer.toNat),(4,head.echo.toNat),
    (4,head.value1.toNat),(4,head.value2.toNat),(8,head.value3.toNat)]

variable {head : MessageHead}

/-- Another value in one of the fields of at most four bytes. -/
inductive Corruption where
  | len (value : UInt16)
  | type (value : UInt16)
  | majorVer (value : UInt16)
  | minorVer (value : UInt16)
  | echo (value : UInt32)
  | value1 (value : UInt32)
  | value2 (value : UInt32)

def Corruption.apply (head : MessageHead) : Corruption → MessageHead
  | .len value => {head with len := value}
  | .type value => {head with type := value}
  | .majorVer value => {head with majorVer := value}
  | .minorVer value => {head with minorVer := value}
  | .echo value => {head with echo := value}
  | .value1 value => {head with value1 := value}
  | .value2 value => {head with value2 := value}

theorem calcMagic_ne {corruption : Corruption} (changed : corruption.apply head ≠ head) :
    (corruption.apply head).calcMagic ≠ head.calcMagic := by
  have half {field value : UInt16} (ne : value ≠ field) (before after : List Field) :
      chain 0 (before ++ (2,value.toNat) :: after) ≠ chain 0 (before ++ (2,field.toNat) :: after) :=
    chain_ne (by decide) value.toNat_lt field.toNat_lt fun same => ne (UInt16.toNat_inj.mp same)
  have word {field value : UInt32} (ne : value ≠ field) (before after : List Field) :
      chain 0 (before ++ (4,value.toNat) :: after) ≠ chain 0 (before ++ (4,field.toNat) :: after) :=
    chain_ne (by decide) value.toNat_lt field.toNat_lt fun same => ne (UInt32.toNat_inj.mp same)
  cases corruption with
  | len value =>
    have ne : value ≠ head.len := fun same => changed (by rw [same]; rfl)
    exact half ne ((fields head).take 0) ((fields head).drop 1)
  | type value =>
    have ne : value ≠ head.type := fun same => changed (by rw [same]; rfl)
    exact half ne ((fields head).take 1) ((fields head).drop 2)
  | majorVer value =>
    have ne : value ≠ head.majorVer := fun same => changed (by rw [same]; rfl)
    exact half ne ((fields head).take 2) ((fields head).drop 3)
  | minorVer value =>
    have ne : value ≠ head.minorVer := fun same => changed (by rw [same]; rfl)
    exact half ne ((fields head).take 3) ((fields head).drop 4)
  | echo value =>
    have ne : value ≠ head.echo := fun same => changed (by rw [same]; rfl)
    exact word ne ((fields head).take 4) ((fields head).drop 5)
  | value1 value =>
    have ne : value ≠ head.value1 := fun same => changed (by rw [same]; rfl)
    exact word ne ((fields head).take 5) ((fields head).drop 6)
  | value2 value =>
    have ne : value ≠ head.value2 := fun same => changed (by rw [same]; rfl)
    exact word ne ((fields head).take 6) ((fields head).drop 7)

/-- The checksum is the CRC-32 of the bytes of the fields, and any change within one short field
changes it. -/
theorem calcMagic_detects (head : MessageHead) : (∀ corruption : Corruption, corruption.apply head ≠ head →
      (corruption.apply head).calcMagic ≠ head.calcMagic) ∧
      head.calcMagic = crc32 0 ((fields head).flatMap bytesOfField) ∧
      head.calcMagic.toBitVec = Crc.checksum polynomial ((fields head).flatMap bytesOfField) := by
  have whole : head.calcMagic = crc32 0 ((fields head).flatMap bytesOfField) := chain_eq 0 (fields head)
  refine ⟨fun _ changed => calcMagic_ne changed,whole,?_⟩
  rw [whole]
  exact crc32_zero

theorem calcMagic_detects_type :
    (MessageHead.mk 32 101 0 4 0 1357 7 0 0).calcMagic ≠ (MessageHead.mk 32 1 0 4 0 1357 7 0 0).calcMagic :=
  (calcMagic_detects ⟨32,1,0,4,0,1357,7,0,0⟩).1 (.type 101) (by decide)

end Mooon.UniqId.Checksum

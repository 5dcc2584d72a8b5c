import Mathlib.Data.List.Basic

/-! `CAESHelper`, over the block cipher of OpenSSL. Encryption and decryption are one loop over the
blocks of the input, whose last block is filled up with zeros that nothing takes off again. -/
namespace Mooon.Utils.AesHelper
open List

abbrev Bytes := List UInt8

def aesBlockSize : Nat := 16

abbrev Key := {key : Bytes // key.length = 16 ∨ key.length = 24 ∨ key.length = 32}

/-- The keys that `AES_set_encrypt_key` and `AES_set_decrypt_key` expand, and what is done to a
block with them. Decryption inverts encryption. -/
structure BlockCipher (AesKey : Type) where
  setEncryptKey : Bytes → AesKey
  setDecryptKey : Bytes → AesKey
  aesEncrypt : AesKey → Bytes → Bytes
  aesDecrypt : AesKey → Bytes → Bytes
  length_encrypt : ∀ key block, block.length = 16 → (aesEncrypt key block).length = 16
  decrypt_encrypt : ∀ (key : Key) block, block.length = 16 →
    aesDecrypt (setDecryptKey key.1) (aesEncrypt (setEncryptKey key.1) block) = block

variable {AesKey : Type} {cipher : BlockCipher AesKey} {key : Key}

variable (cipher key) in
/-- The keys are expanded at their first use. -/
structure Helper where
  encryptKey : Option AesKey
  decryptKey : Option AesKey
  encrypts : ∀ expanded ∈ encryptKey, expanded = cipher.setEncryptKey key.1
  decrypts : ∀ expanded ∈ decryptKey, expanded = cipher.setDecryptKey key.1

def padding (size : Nat) : Nat :=
  if size%aesBlockSize ≠ 0 then aesBlockSize - size%aesBlockSize else 0

def inTmp (text : Bytes) : Bytes := text ++ replicate (padding text.length) 0

def aesLoop (crypt : Bytes → Bytes) : Nat → Bytes → Bytes
  | 0, _ => []
  | count+1, rest => crypt (rest.take aesBlockSize) ++ aesLoop crypt count (rest.drop aesBlockSize)

/-- There are as many rounds as multiples of the block size below the size of the input. -/
def aes (crypt : Bytes → Bytes) (text : Bytes) : Bytes :=
  aesLoop crypt ((text.length + (aesBlockSize - 1))/aesBlockSize) (inTmp text)

theorem getD_expanded {expanded : Option AesKey} {own : AesKey}
    (owned : ∀ other ∈ expanded, other = own) : expanded.getD own = own := by
  cases expanded with
  | none => rfl
  | some other => exact owned other rfl

def encrypt (helper : Helper cipher key) (text : Bytes) : Helper cipher key × Bytes :=
  let expanded := helper.encryptKey.getD (cipher.setEncryptKey key.1)
  ({helper with
    encryptKey := some expanded
    encrypts := fun _ same => Option.some.inj same ▸ getD_expanded helper.encrypts},
    aes (cipher.aesEncrypt expanded) text)

def decrypt (helper : Helper cipher key) (text : Bytes) : Helper cipher key × Bytes :=
  let expanded := helper.decryptKey.getD (cipher.setDecryptKey key.1)
  ({helper with
    decryptKey := some expanded
    decrypts := fun _ same => Option.some.inj same ▸ getD_expanded helper.decrypts},
    aes (cipher.aesDecrypt expanded) text)

theorem encrypt_eq (helper : Helper cipher key) (text : Bytes) :
    (encrypt helper text).2 = aes (cipher.aesEncrypt (cipher.setEncryptKey key.1)) text :=
  congrArg (fun expanded => aes (cipher.aesEncrypt expanded) text) (getD_expanded helper.encrypts)

theorem decrypt_eq (helper : Helper cipher key) (text : Bytes) :
    (decrypt helper text).2 = aes (cipher.aesDecrypt (cipher.setDecryptKey key.1)) text :=
  congrArg (fun expanded => aes (cipher.aesDecrypt expanded) text) (getD_expanded helper.decrypts)

theorem length_inTmp (text : Bytes) : (inTmp text).length = 16*((text.length + 15)/16) := by
  rw [inTmp,length_append,length_replicate,padding,aesBlockSize]
  split_ifs <;> omega

theorem inTmp_eq (text : Bytes) : inTmp text = text ↔ text.length%16 = 0 := by
  rw [inTmp,append_right_eq_self,replicate_eq_nil_iff,padding,aesBlockSize]
  split_ifs <;> omega

section
variable {crypt : Bytes → Bytes} {count : Nat} {rest : Bytes}
  (keeps : ∀ block : Bytes, block.length = 16 → (crypt block).length = 16)
  (whole : rest.length = 16*count)
include keeps whole

theorem length_aesLoop : (aesLoop crypt count rest).length = 16*count := by
  induction count generalizing rest with
  | zero => rfl
  | succ count ih =>
    have first : (rest.take 16).length = 16 := by rw [length_take]; omega
    have later : (rest.drop 16).length = 16*count := by rw [length_drop]; omega
    rw [aesLoop,length_append,aesBlockSize,keeps _ first,ih later]
    omega

theorem aesLoop_inverts {inverse : Bytes → Bytes}
    (inverts : ∀ block : Bytes, block.length = 16 → inverse (crypt block) = block) :
    aesLoop inverse count (aesLoop crypt count rest) = rest := by
  induction count generalizing rest with
  | zero => exact (length_eq_zero_iff.mp whole).symm
  | succ count ih =>
    have first : (rest.take 16).length = 16 := by rw [length_take]; omega
    have later : (rest.drop 16).length = 16*count := by rw [length_drop]; omega
    have split := keeps _ first
    rw [aesLoop,aesLoop,aesBlockSize,take_left' split,drop_left' split,inverts _ first,ih later,
      take_append_drop]

end

theorem decrypt_encrypt (sender receiver : Helper cipher key) (text : Bytes) :
    (decrypt receiver (encrypt sender text).2).2 = inTmp text := by
  have keeps := cipher.length_encrypt (cipher.setEncryptKey key.1)
  have whole := length_inTmp text
  have coded : (encrypt sender text).2.length = 16*((text.length + 15)/16) := by
    rw [encrypt_eq]
    exact length_aesLoop keeps whole
  have kept : inTmp (encrypt sender text).2 = (encrypt sender text).2 := by
    rw [inTmp_eq]
    omega
  have rounds : (16*((text.length + 15)/16) + (aesBlockSize - 1))/aesBlockSize =
      (text.length + 15)/16 := by
    rw [aesBlockSize]
    omega
  rw [decrypt_eq,aes,kept,coded,rounds,encrypt_eq]
  exact aesLoop_inverts keeps whole (cipher.decrypt_encrypt key)

variable {first second : Bytes}

theorem encrypt_eq_encrypt (sender : Helper cipher key) :
    (encrypt sender first).2 = (encrypt sender second).2 ↔ inTmp first = inTmp second := by
  constructor
  · intro same
    rw [← decrypt_encrypt sender sender,same,decrypt_encrypt]
  · intro same
    have rounds : (first.length + 15)/16 = (second.length + 15)/16 := by
      have length := congrArg List.length same
      rw [length_inTmp,length_inTmp] at length
      omega
    rw [encrypt_eq,encrypt_eq,aes,aes,same]
    exact congrArg (fun count => aesLoop _ count _) rounds

/-- The second text is the first with zeros behind it that its last block has room for. -/
def Fills (first second : Bytes) : Prop :=
  ∃ zeros ≤ padding first.length, second = first ++ replicate zeros 0

theorem Fills.inTmp_eq (fills : Fills first second) : inTmp first = inTmp second := by
  obtain ⟨zeros,room,rfl⟩ := fills
  have left : padding first.length = zeros + padding (first ++ replicate zeros (0 : UInt8)).length := by
    rw [length_append,length_replicate]
    unfold padding aesBlockSize at *
    split_ifs at * <;> omega
  rw [inTmp,left,← replicate_append_replicate,← append_assoc]
  rfl

theorem fills_of_inTmp_eq (same : inTmp first = inTmp second) (order : first.length ≤ second.length) :
    Fills first second := by
  have length := congrArg List.length same
  simp only [inTmp,length_append,length_replicate] at length
  refine ⟨second.length - first.length,by omega,?_⟩
  have start : (inTmp first).take second.length = second := by
    rw [same,inTmp]
    exact take_left
  rw [inTmp,take_append,take_of_length_le order,take_replicate,Nat.min_eq_left (by omega)] at start
  exact start.symm

theorem inTmp_eq_iff : inTmp first = inTmp second ↔ Fills first second ∨ Fills second first := by
  constructor
  · intro same
    rcases Nat.le_total first.length second.length with order | order
    · exact .inl (fills_of_inTmp_eq same order)
    · exact .inr (fills_of_inTmp_eq same.symm order)
  · rintro (fills | fills)
    · exact fills.inTmp_eq
    · exact fills.inTmp_eq.symm

/-- What comes back is the text with its padding, and two texts have one encryption exactly if the
padding makes one of them the other. -/
theorem aes_round (sender receiver : Helper cipher key) (first second : Bytes) :
    (decrypt receiver (encrypt sender first).2).2 = first ++ replicate (padding first.length) 0 ∧
    ((decrypt receiver (encrypt sender first).2).2 = first ↔ first.length%16 = 0) ∧
    ((encrypt sender first).2 = (encrypt sender second).2 ↔
      Fills first second ∨ Fills second first) := by
  refine ⟨decrypt_encrypt sender receiver first,?_,?_⟩
  · rw [decrypt_encrypt,inTmp_eq]
  · rw [encrypt_eq_encrypt,inTmp_eq_iff]

/-- A cipher that adds the bytes of the key. -/
def adding : BlockCipher Bytes where
  setEncryptKey key := key.take 16
  setDecryptKey key := key.take 16
  aesEncrypt key block := block.mapIdx fun i byte => byte + key.getD i 0
  aesDecrypt key block := block.mapIdx fun i byte => byte - key.getD i 0
  length_encrypt := by simp
  decrypt_encrypt := by
    intro key block _
    apply ext_getElem
    · simp
    · simp

def sampleKey : Key := ⟨replicate 16 7,.inl rfl⟩

def sampleHelper : Helper adding sampleKey := ⟨none,none,by simp,by simp⟩

theorem zero_appended : (decrypt sampleHelper (encrypt sampleHelper [97]).2).2 ≠ [97] ∧
    (encrypt sampleHelper [97]).2 = (encrypt sampleHelper [97,0]).2 := by
  decide

end Mooon.Utils.AesHelper

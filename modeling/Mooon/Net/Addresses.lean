import Mooon.Bytes
import Mooon.Decimal
import Mathlib.Data.List.TakeWhile

/-! The checks of addresses in the net utilities. -/
namespace Mooon.Net
open List UInt8

/-- An address in network byte order as a number: its first byte is the highest. -/
def address (ip : UInt32) : Nat := ofBytes (bytesOf 4 ip.toNat).reverse

def ntohl (ip : UInt32) : UInt32 := UInt32.ofNat (address ip)

def isLoopIpv4 (ip : UInt32) : Bool := ntohl ip >>> 8 == 0x007F0000

def isLocalIpv4 (ip : UInt32) : Bool :=
  ntohl ip >>> 24 == 0x0A || ntohl ip >>> 16 == 0xC0A8 || ntohl ip >>> 22 == 0x02B0 || isLoopIpv4 ip

/-- The block of addresses that begin like this one. -/
def InBlock (first second third fourth bits : Nat) (ip : UInt32) : Prop :=
  address ip / 2^(32-bits) = (((first*256 + second)*256 + third)*256 + fourth) / 2^(32-bits)

theorem address_lt (ip : UInt32) : address ip < 4294967296 := by
  have first := (ofNat ip.toNat).toNat_lt
  have second := (ofNat (ip.toNat/256)).toNat_lt
  have third := (ofNat (ip.toNat/256/256)).toNat_lt
  have fourth := (ofNat (ip.toNat/256/256/256)).toNat_lt
  simp only [address,bytesOf,reverse_cons,reverse_nil,nil_append,cons_append,ofBytes]
  omega

theorem shifted_eq (ip bits value : UInt32) :
    (ntohl ip >>> bits == value) = true ↔ address ip / 2^(bits.toNat % 32) = value.toNat := by
  rw [beq_iff_eq,← UInt32.toNat_inj,UInt32.toNat_shiftRight,Nat.shiftRight_eq_div_pow,ntohl,
    UInt32.toNat_ofNat_of_lt' (address_lt ip)]

/-- 172.0.0.0/10 and 127.0.0.0/24 are checked for 172.16.0.0/12 and 127.0.0.0/8. -/
theorem local_iff (ip : UInt32) :
    ((isLocalIpv4 ip = true ↔ InBlock 10 0 0 0 8 ip ∨ InBlock 172 16 0 0 12 ip ∨ InBlock 192 168 0 0 16 ip ∨
      InBlock 127 0 0 0 8 ip) ∧ (isLoopIpv4 ip = true ↔ InBlock 127 0 0 0 8 ip)) ↔
    (InBlock 172 0 0 0 10 ip → InBlock 172 16 0 0 12 ip) ∧
      (InBlock 127 0 0 0 8 ip → InBlock 127 0 0 0 24 ip) := by
  unfold isLocalIpv4 isLoopIpv4 InBlock
  simp only [Bool.or_eq_true,shifted_eq,UInt32.reduceToNat,Nat.reduceMod]
  omega

theorem loop_misses : InBlock 127 0 0 0 8 0x0101007F ∧ isLoopIpv4 0x0101007F = false := by
  unfold InBlock
  decide +kernel

def allOnes : List UInt8 := [50,53,53,46,50,53,53,46,50,53,53,46,50,53,53]

/-- The number of dots, or nothing at a character that is neither a dot nor a digit. -/
def countDots : List UInt8 → Option Nat
  | [] => some 0
  | c::strp => if c = 46 then (countDots strp).map (·+1) else if c < 48 ∨ 57 < c then none else countDots strp

def isValidIpv4 (str : List UInt8) : Bool :=
  if str = [] ∨ str.head? = some 48 then false
  else if str = [42] then true
  else if str = allOnes then false
  else
    match countDots str with
    | none => false
    | some dot => if 16 ≤ str.length then false else dot == 3

def strchr (str : List UInt8) (c : UInt8) : Option (List UInt8) :=
  if c ∈ str then some (str.dropWhile (· != c)) else none

def isValidIpv6 (str : List UInt8) : Bool := ((strchr str 58).bind (strchr · 58)).isSome

def dotted (first second third fourth : List UInt8) : List UInt8 :=
  first ++ 46 :: (second ++ 46 :: (third ++ 46 :: fourth))

structure Number (text : List UInt8) : Prop where
  nonempty : text ≠ []
  digits : ∀ c ∈ text, isDigit c
  small : ofDecimal text ≤ 255

/-- Like an address: digits and three dots, at most 15 characters, no zero in front, and not the one
that is left out. -/
structure Like (str : List UInt8) : Prop where
  chars : ∀ c ∈ str, c = 46 ∨ isDigit c
  dots : str.count 46 = 3
  length : str.length ≤ 15
  first : str.head? ≠ some 48
  other : str ≠ allOnes

theorem countDots_eq_some (str : List UInt8) (dot : Nat) :
    countDots str = some dot ↔ (∀ c ∈ str, c = 46 ∨ isDigit c) ∧ str.count 46 = dot := by
  induction str generalizing dot with
  | nil => simp [countDots]
  | cons c strp ih =>
    have digit : isDigit c = true ↔ ¬ (c < 48 ∨ 57 < c) := by simp [isDigit,not_or]
    rw [countDots,forall_mem_cons,digit]
    split_ifs with point outside
    · simp only [Option.map_eq_some_iff,ih,point,count_cons_self,true_or,true_and]
      constructor
      · rintro ⟨_,⟨chars,rfl⟩,next⟩
        exact ⟨chars,next⟩
      · rintro ⟨chars,next⟩
        exact ⟨_,⟨chars,rfl⟩,next⟩
    · simp [point,outside]
    · rw [ih,count_cons_of_ne point]
      simp [outside]

theorem isValidIpv4_iff {str : List UInt8} (star : str ≠ [42]) : isValidIpv4 str = true ↔ Like str := by
  have counted := countDots_eq_some str
  unfold isValidIpv4
  rw [if_neg star]
  split_ifs with empty ones long
  · refine iff_of_false nofun fun like => ?_
    rcases empty with rfl | zero
    · cases like.dots
    · exact like.first zero
  · exact iff_of_false nofun fun like => like.other ones
  · exact iff_of_false (by split <;> simp) fun like => absurd like.length (by omega)
  · cases dots : countDots str with
    | none =>
      refine iff_of_false nofun fun like => ?_
      cases dots.symm.trans ((counted 3).mpr ⟨like.chars,like.dots⟩)
    | some dot =>
      obtain ⟨chars,rfl⟩ := (counted dot).mp dots
      rw [beq_iff_eq]
      exact ⟨fun three => ⟨chars,three,by omega,(not_or.mp empty).2,ones⟩,Like.dots⟩

theorem isValidIpv6_iff (str : List UInt8) : isValidIpv6 str = true ↔ 58 ∈ str := by
  unfold isValidIpv6
  by_cases colon : 58 ∈ str
  · have later : 58 ∈ str.dropWhile (· != 58) := by
      have parts := colon
      rw [← takeWhile_append_dropWhile (p := (· != 58)) (l := str),mem_append] at parts
      exact parts.resolve_left fun front => absurd (mem_takeWhile_imp front) (by simp)
    simp [strchr,colon,later]
  · simp [strchr,colon]

section
variable {text first second third fourth : List UInt8}

theorem Number.of_ones (number : Number text) (ones : ofDecimal text = 255) :
    3 ≤ text.length ∧ (text.length = 3 → text = [50,53,53]) := by
  have below := ofDecimal_lt number.digits
  constructor
  · by_contra short
    have power : 10^text.length ≤ 10^2 := Nat.pow_le_pow_right (by decide) (by omega)
    omega
  · intro length
    obtain ⟨a,b,c,rfl⟩ := length_eq_three.mp length
    have digits := number.digits
    simp only [mem_cons,not_mem_nil,or_false,forall_eq_or_imp,forall_eq,isDigit_iff] at digits
    simp only [ofDecimal,foldl_cons,foldl_nil] at ones
    have values : a.toNat = 50 ∧ b.toNat = 53 ∧ c.toNat = 53 := by omega
    simp [← UInt8.toNat_inj,values]

theorem not_allOnes (like : Like (dotted first second third fourth)) (numbers : Number first ∧ Number second ∧
    Number third ∧ Number fourth) :
    ¬ (ofDecimal first = 255 ∧ ofDecimal second = 255 ∧ ofDecimal third = 255 ∧
      ofDecimal fourth = 255) := by
  rintro ⟨one,two,three,four⟩
  have one := numbers.1.of_ones one
  have two := numbers.2.1.of_ones two
  have three := numbers.2.2.1.of_ones three
  have four := numbers.2.2.2.of_ones four
  have length := like.length
  simp only [dotted,length_append,length_cons] at length
  apply like.other
  rw [one.2 (by omega),two.2 (by omega),three.2 (by omega),four.2 (by omega)]
  rfl

theorem canonical_like {a b c d : UInt8} (pos : a ≠ 0) (other : ¬ (a = 255 ∧ b = 255 ∧ c = 255 ∧ d = 255)) :
    Like (dotted (decimal a.toNat) (decimal b.toNat) (decimal c.toNat) (decimal d.toNat)) := by
  have digits (byte : UInt8) := @isDigit_of_mem_decimal byte.toNat
  have length (byte : UInt8) : (decimal byte.toNat).length ≤ 3 :=
    length_decimal_le (by decide) (by have := byte.toNat_lt; omega)
  have dots (byte : UInt8) : (decimal byte.toNat).count 46 = 0 :=
    count_eq_zero.mpr fun point => absurd (digits byte point) (by decide)
  have heads : ∀ value < 256, value ≠ 0 → (decimal value).head? ≠ some 48 := by decide +kernel
  have short := And.intro (length a) (And.intro (length b) (And.intro (length c) (length d)))
  refine ⟨?_,by simp [dotted,dots],?_,?_,?_⟩
  · intro char mem
    simp only [dotted,mem_append,mem_cons] at mem
    rcases mem with digit | point | digit | point | digit | point | digit
    all_goals first | exact Or.inl point | exact Or.inr (digits _ digit)
  · simp only [dotted,length_append,length_cons]
    omega
  · rw [dotted,head?_append_of_ne_nil _ (decimal_ne_nil _)]
    exact heads _ a.toNat_lt fun zero => pos (UInt8.toNat_inj.mp zero)
  · intro ones
    have total := congrArg List.length ones
    simp only [dotted,length_append,length_cons] at total
    have lengths : allOnes.length = 15 := rfl
    have value (byte : UInt8) (same : decimal byte.toNat = [50,53,53]) : byte = 255 :=
      UInt8.toNat_inj.mp (by rw [← ofDecimal_decimal byte.toNat,same]; rfl)
    obtain ⟨one,ones⟩ := @append_inj _ _ [50,53,53] _ _ ones (by simp; omega)
    obtain ⟨two,ones⟩ := @append_inj _ _ [50,53,53] _ _ (cons.inj ones).2 (by simp; omega)
    obtain ⟨three,ones⟩ := @append_inj _ _ [50,53,53] _ _ (cons.inj ones).2 (by simp; omega)
    exact other ⟨value a one,value b two,value c three,value d (cons.inj ones).2⟩

end

/-- The numbers themselves are not looked at, and one colon is found twice. -/
theorem addresses_iff (str : {str : List UInt8 // 0 ∉ str ∧ str ≠ [42]}) :
    ((isValidIpv4 str.1 = true → ∃ first second third fourth, str.1 = dotted first second third fourth ∧
        (Number first ∧ Number second ∧ Number third ∧ Number fourth) ∧ ¬ (ofDecimal first = 255 ∧
          ofDecimal second = 255 ∧ ofDecimal third = 255 ∧ ofDecimal fourth = 255)) ∧
      (∀ a b c d : UInt8, a ≠ 0 → ¬ (a = 255 ∧ b = 255 ∧ c = 255 ∧ d = 255) →
        str.1 = dotted (decimal a.toNat) (decimal b.toNat) (decimal c.toNat) (decimal d.toNat) →
          isValidIpv4 str.1 = true) ∧
      (isValidIpv6 str.1 = true → 2 ≤ str.1.count 58)) ↔
    (Like str.1 → ∃ first second third fourth, str.1 = dotted first second third fourth ∧
      Number first ∧ Number second ∧ Number third ∧ Number fourth) ∧ str.1.count 58 ≠ 1 := by
  rw [isValidIpv4_iff str.2.2,isValidIpv6_iff,← one_le_count_iff]
  constructor
  · rintro ⟨quad,-,colons⟩
    refine ⟨fun like => ?_,by omega⟩
    obtain ⟨first,second,third,fourth,same,numbers,-⟩ := quad like
    exact ⟨first,second,third,fourth,same,numbers⟩
  · rintro ⟨quad,colons⟩
    refine ⟨fun like => ?_,?_,by omega⟩
    · obtain ⟨first,second,third,fourth,same,numbers⟩ := quad like
      rw [same] at like
      exact ⟨first,second,third,fourth,same,numbers,not_allOnes like numbers⟩
    · intro a b c d positive other same
      rw [same]
      exact canonical_like positive other

theorem address_of_dots : isValidIpv4 [49,46,46,46] = true ∧ isValidIpv6 [58] = true := by
  decide

end Mooon.Net

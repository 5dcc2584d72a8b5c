import Mooon.OutStream

/-! `CStringUtils::encode_url` and `decode_url`. A text is followed by its terminator, and nothing
behind that may be read. The result is sized from the length argument and its index is an `int`: a
store outside of either has no result. -/
namespace Mooon.Utils
open List

/-- Bytes for the next places of the result, which are as many as it has got bytes so far. -/
def store (capacity : Nat) (result bytes : List UInt8) : Option (List UInt8) :=
  if result.length + bytes.length ≤ capacity ∧ result.length + bytes.length < 2147483648 then
    some (result++bytes)
  else none

def isUnreserved (c : UInt8) : Bool :=
  48 ≤ c && c ≤ 57 || 97 ≤ c && c ≤ 122 || 65 ≤ c && c ≤ 90 || c == 45 || c == 95 || c == 46 || c == 126

def encodeChar (space2plus : Bool) (c : UInt8) : List UInt8 :=
  if c = 32 then if space2plus then [43] else [37,50,48]
  else if isUnreserved c then [c]
  else [37,hexByte true (c.toNat/16),hexByte true (c.toNat%16)]

def encodeLoop (capacity : Nat) (space2plus : Bool) : List UInt8 → List UInt8 → Option (List UInt8)
  | [], _ => none
  | c::url, result =>
    if c = 0 then some result
    else (store capacity result (encodeChar space2plus c)).bind (encodeLoop capacity space2plus url)

def encodeUrl (url : List UInt8) (urlLength : Nat) (space2plus : Bool) : Option (List UInt8) :=
  encodeLoop (urlLength*3+1) space2plus (url++[0]) []

def isxdigit (c : UInt8) : Bool := isDigit c || 65 ≤ c && c ≤ 70 || 97 ≤ c && c ≤ 102

def hexValue (c : UInt8) : UInt8 := if c ≤ 57 then c - 48 else if c ≤ 70 then c - 55 else c - 87

def decodeLoop (capacity : Nat) : List UInt8 → List UInt8 → Option (List UInt8)
  | [], _ => none
  | c::url, result =>
    if c = 0 then some result
    else if c = 43 then (store capacity result [32]).bind (decodeLoop capacity url)
    else if c ≠ 37 then (store capacity result [c]).bind (decodeLoop capacity url)
    else
      match url with
      | [] => none
      | first::rest =>
        if !isxdigit first then (store capacity result [37]).bind (decodeLoop capacity (first::rest))
        else
          match rest with
          | [] => none
          | second::later =>
            if !isxdigit second then (store capacity result [37]).bind
              (decodeLoop capacity (first::second::later))
            else (store capacity result [16*hexValue first + hexValue second]).bind
              (decodeLoop capacity later)

def decodeUrl (encodedUrl : List UInt8) (encodedUrlLength : Nat) : Option (List UInt8) :=
  decodeLoop (encodedUrlLength+1) (encodedUrl++[0]) []

/-- The characters and complete escapes of a text with the bytes they stand for, the escapes marked. -/
def units : List UInt8 → List (UInt8 × Bool)
  | [] => []
  | c::url =>
    if c = 37 then
      match url with
      | first::second::later =>
        if isxdigit first && isxdigit second then (16*hexValue first + hexValue second,true) :: units later
        else (37,false) :: units (first::second::later)
      | rest => (37,false) :: units rest
    else (if c = 43 then 32 else c,false) :: units url

section
variable {cap : Nat} {res : List UInt8}

theorem store_eq_some {bytes after : List UInt8} : store cap res bytes = some after ↔
    (res.length + bytes.length ≤ cap ∧ res.length + bytes.length < 2147483648) ∧ res++bytes = after := by
  rw [store,Option.ite_none_right_eq_some,Option.some.injEq]

theorem store_then {first second : List UInt8} {next : List UInt8 → Option (List UInt8)}
    (later : ∀ res, res.length ≤ cap → res.length < 2147483648 →
      next res = store cap res second) :
    (store cap res first).bind next = store cap res (first++second) := by
  by_cases fits : res.length + first.length ≤ cap ∧ res.length + first.length < 2147483648
  · rw [← length_append] at fits
    rw [store,← length_append,if_pos fits,Option.bind_some,later _ fits.1 fits.2]
    simp only [store,length_append,Nat.add_assoc,append_assoc]
  · rw [store,store,if_neg fits,if_neg,Option.bind_none]
    rw [length_append]
    omega

theorem encodeLoop_eq (space2plus : Bool) (text : List UInt8) (nonzero : 0 ∉ text) (inside : res.length ≤ cap)
    (small : res.length < 2147483648) :
    encodeLoop cap space2plus (text++[0]) res =
      store cap res (text.flatMap (encodeChar space2plus)) := by
  induction text generalizing res with
  | nil => simp [encodeLoop,store,inside,small]
  | cons c rest ih =>
    rw [mem_cons,not_or] at nonzero
    obtain ⟨first,others⟩ := nonzero
    rw [cons_append,encodeLoop,if_neg (Ne.symm first)]
    exact store_then fun res => ih others

theorem decodeLoop_eq (text : List UInt8) (nonzero : 0 ∉ text) (inside : res.length ≤ cap)
    (small : res.length < 2147483648) :
    decodeLoop cap (text++[0]) res = store cap res ((units text).map Prod.fst) := by
  fun_induction units text generalizing res with
  | case1 => simp [decodeLoop,store,inside,small]
  | case2 first second later digits ih =>
    simp only [mem_cons,not_or] at nonzero
    rw [Bool.and_eq_true] at digits
    simp only [cons_append,decodeLoop,digits.1,digits.2]
    exact store_then fun res => ih nonzero.2.2.2
  | case3 first second later digits ih =>
    simp only [mem_cons,not_or] at nonzero
    have next : (store cap res [37]).bind (decodeLoop cap (first::second::later ++ [0])) = _ :=
      store_then fun res => ih (by simp [nonzero])
    rw [Bool.and_eq_true,not_and_or] at digits
    rcases digits with digit | digit
    · simp only [cons_append,decodeLoop,digit]
      exact next
    · simp only [cons_append,decodeLoop,digit]
      cases isxdigit first <;> exact next
  | case4 rest short ih =>
    rw [mem_cons,not_or] at nonzero
    have next : (store cap res [37]).bind (decodeLoop cap (rest++[0])) = _ :=
      store_then fun res => ih nonzero.2
    cases rest with
    | nil => exact next
    | cons first rest =>
      cases rest with
      | nil =>
        simp only [cons_append,nil_append,decodeLoop]
        cases isxdigit first <;> exact next
      | cons second later => exact absurd rfl (short first second later)
  | case5 c url other ih =>
    simp only [mem_cons,not_or] at nonzero
    rw [cons_append,decodeLoop.eq_def]
    simp only [if_neg (Ne.symm nonzero.1)]
    split_ifs
    · exact store_then fun res => ih nonzero.2
    · exact store_then fun res => ih nonzero.2

end

/-- A text that its terminator ends. -/
abbrev CString := {text : List UInt8 // 0 ∉ text}

theorem encodeUrl_eq (text : CString) (length : Nat) (space2plus : Bool) :
    encodeUrl text.1 length space2plus = store (length*3+1) [] (text.1.flatMap (encodeChar space2plus)) :=
  encodeLoop_eq space2plus text.1 text.2 (Nat.zero_le _) (Nat.zero_lt_succ _)

theorem decodeUrl_eq (text : CString) (length : Nat) :
    decodeUrl text.1 length = store (length+1) [] ((units text.1).map Prod.fst) :=
  decodeLoop_eq text.1 text.2 (Nat.zero_le _) (Nat.zero_lt_succ _)

theorem units_length (text : List UInt8) :
    (units text).length + 2*(units text).countP Prod.snd = text.length := by
  fun_induction units text with
  | case1 => rfl
  | case2 first second later digits ih =>
    rw [length_cons,countP_cons_of_pos rfl,length_cons,length_cons,length_cons]
    omega
  | case3 first second later digits ih | case4 rest short ih | case5 c url other ih =>
    rw [length_cons,countP_cons_of_neg Bool.false_ne_true,length_cons]
    omega

def escaped (space2plus : Bool) (c : UInt8) : Bool := !isUnreserved c && !(c == 32 && space2plus)

theorem hexByte_digit {digit : Nat} (small : digit < 16) :
    isxdigit (hexByte true digit) ∧ hexValue (hexByte true digit) = UInt8.ofNat digit := by
  interval_cases digit <;> decide

variable (space2plus : Bool)

theorem units_plain {c : UInt8} (other : c ≠ 37) (url : List UInt8) :
    units (c::url) = (if c = 43 then 32 else c,false) :: units url := by
  rw [units.eq_def]
  exact if_neg other

theorem units_escape {first second : UInt8} (high : isxdigit first) (low : isxdigit second)
    (later : List UInt8) :
    units (37::first::second::later) = (16*hexValue first + hexValue second,true) :: units later := by
  rw [units,high,low]
  rfl

theorem units_encodeChar (c : UInt8) (rest : List UInt8) :
    units (encodeChar space2plus c ++ rest) = (c,escaped space2plus c) :: units rest := by
  unfold encodeChar escaped
  split_ifs with space plus plain
  · subst space plus
    exact units_plain (by decide) rest
  · rw [Bool.not_eq_true] at plus
    subst space plus
    exact units_escape rfl rfl rest
  · have others : c ≠ 37 ∧ c ≠ 43 := by
      constructor <;> rintro rfl <;> exact absurd plain (by decide)
    rw [cons_append,units_plain others.1,if_neg others.2,plain]
    rfl
  · obtain ⟨high,first⟩ := hexByte_digit (Nat.div_lt_of_lt_mul c.toNat_lt : c.toNat/16 < 16)
    obtain ⟨low,second⟩ := hexByte_digit (Nat.mod_lt c.toNat (by decide) : c.toNat%16 < 16)
    have value : 16 * UInt8.ofNat (c.toNat/16) + UInt8.ofNat (c.toNat%16) = c := by
      have sixteen : (16 : UInt8).toNat = 16 := rfl
      have bound := c.toNat_lt
      apply UInt8.toNat_inj.mp
      simp only [UInt8.toNat_add,UInt8.toNat_mul,UInt8.toNat_ofNat',sixteen]
      omega
    rw [cons_append,cons_append,cons_append,units_escape high low,first,second,value]
    simp [plain,space]

section
variable (text : List UInt8)

theorem units_encoded :
    units (text.flatMap (encodeChar space2plus)) = text.map fun c => (c,escaped space2plus c) := by
  induction text with
  | nil => rfl
  | cons c rest ih => rw [flatMap_cons,units_encodeChar,ih,map_cons]

theorem decoded_encoded :
    (units (text.flatMap (encodeChar space2plus))).map Prod.fst = text := by
  rw [units_encoded,map_map]
  exact map_id text

theorem length_encoded :
    (text.flatMap (encodeChar space2plus)).length = text.length + 2*text.countP (escaped space2plus) := by
  have length := units_length (text.flatMap (encodeChar space2plus))
  rw [units_encoded,length_map,countP_map] at length
  exact length.symm

end

theorem encodeChar_allowed (c : UInt8) :
    ∀ char ∈ encodeChar space2plus c, isUnreserved char ∨ char = 37 ∨ char = 43 := by
  have digit : ∀ value < 16, isUnreserved (hexByte true value) := by decide
  unfold encodeChar
  split_ifs with space plus plain
  · simp
  · simp [show isUnreserved 50 ∧ isUnreserved 48 by decide]
  · simp [plain]
  · have high := digit _ (Nat.div_lt_of_lt_mul c.toNat_lt : c.toNat/16 < 16)
    have low := digit _ (Nat.mod_lt c.toNat (by decide) : c.toNat%16 < 16)
    simp [high,low]

theorem encoded_nonzero (text : List UInt8) : 0 ∉ text.flatMap (encodeChar space2plus) := by
  intro mem
  obtain ⟨c,-,inside⟩ := mem_flatMap.mp mem
  exact absurd (encodeChar_allowed space2plus c 0 inside) (by decide)

/-- The index of the result is right up to 2147483647: so far the coding is undone, and every text
has a decoding. -/
theorem url_round_iff (s text : CString) (space2plus : Bool) :
    ((∃ encoded, encodeUrl s.1 s.1.length space2plus = some encoded ∧
      (∀ char ∈ encoded, isUnreserved char ∨ char = 37 ∨ isxdigit char ∨ char = 43) ∧
      decodeUrl encoded encoded.length = some s.1) ↔
        s.1.length + 2*s.1.countP (escaped space2plus) < 2147483648) ∧
    ((∃ result, decodeUrl text.1 text.1.length = some result ∧ result.length ≤ text.1.length) ↔
      text.1.length - 2*(units text.1).countP Prod.snd < 2147483648) := by
  constructor
  · have length := length_encoded space2plus s.1
    have most := s.1.countP_le_length (p := escaped space2plus)
    simp only [encodeUrl_eq,store_eq_some,length_nil,Nat.zero_add,nil_append,length]
    constructor
    · rintro ⟨_,⟨bounds,rfl⟩,-⟩
      exact bounds.2
    · intro small
      refine ⟨_,⟨⟨by omega,small⟩,rfl⟩,fun char member => ?_,?_⟩
      · obtain ⟨c,-,inside⟩ := mem_flatMap.mp member
        exact (encodeChar_allowed space2plus c char inside).imp_right fun other => other.imp_right Or.inr
      · rw [decodeUrl_eq ⟨_,encoded_nonzero space2plus s.1⟩,decoded_encoded,length,store_eq_some]
        simp
        omega
  · have length := units_length text.1
    simp only [decodeUrl_eq,store_eq_some,length_nil,length_map,nil_append]
    constructor
    · rintro ⟨_,⟨bounds,rfl⟩,-⟩
      omega
    · intro small
      refine ⟨_,⟨by omega,rfl⟩,?_⟩
      rw [length_map]
      omega

theorem encodeUrl_overflow : encodeUrl (replicate 2147483648 97) 2147483648 true = none := by
  have plain : 0 ∉ replicate 2147483648 (97 : UInt8) :=
    fun member => absurd (eq_of_mem_replicate member) (by decide)
  rw [encodeUrl_eq ⟨_,plain⟩,store,if_neg]
  rw [length_encoded,length_replicate]
  omega

theorem url_length_iff (p : CString) (n : Fin (p.1.length+1)) :
    (∃ encoded decoded, encodeUrl p.1 n space2plus = some encoded ∧
      encodeUrl (p.1.take n) n space2plus = some encoded ∧
      decodeUrl p.1 n = some decoded ∧ decodeUrl (p.1.take n) n = some decoded) ↔
        n = p.1.length ∧ p.1.length + 2*p.1.countP (escaped space2plus) < 2147483648 := by
  have front : 0 ∉ p.1.take n := fun member => p.2 (mem_of_mem_take member)
  rw [← length_encoded]
  constructor
  · rintro ⟨encoded,-,whole,part,-⟩
    rw [encodeUrl_eq,store_eq_some,nil_append,length_nil,Nat.zero_add] at whole
    rw [encodeUrl_eq ⟨_,front⟩,store_eq_some,nil_append] at part
    have same := congrArg (fun text => (units text).map Prod.fst) (whole.2.trans part.2.symm)
    simp only [decoded_encoded] at same
    have length := congrArg List.length same
    rw [length_take] at length
    exact ⟨by omega,whole.1.2⟩
  · rintro ⟨all,small⟩
    have same : p.1.take n = p.1 := by rw [all,take_length]
    have length := length_encoded space2plus p.1
    have most := p.1.countP_le_length (p := escaped space2plus)
    have number := units_length p.1
    refine ⟨p.1.flatMap (encodeChar space2plus),(units p.1).map Prod.fst,?_⟩
    simp only [same,encodeUrl_eq,decodeUrl_eq,store_eq_some,length_map,length_nil,nil_append,and_true]
    omega

theorem encodeUrl_past_length : encodeUrl [97,98] 1 true = some [97,98] ∧ encodeUrl [97] 1 true = some [97] ∧
    decodeUrl [97,98,99] 1 = none := by
  decide

end Mooon.Utils

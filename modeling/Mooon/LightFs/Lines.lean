import Mooon.LightFs.Image
import Mathlib.Data.List.TakeWhile

/-! One line of an image. The line of a path and its attributes is read back as it was written
if the path has no comma and no newline and fits the buffer. -/
namespace Mooon.LightFs
open List

def pathString (names : List Bytes) : Bytes := names.flatMap (slash :: ·)

structure ProperName (name : Bytes) : Prop where
  nonempty : name ≠ []
  noSlash : slash ∉ name
  noNul : 0 ∉ name

variable {text : Bytes}

theorem cString_eq (noNul : 0 ∉ text) : cString text = text := by
  refine takeWhile_eq_self_iff.mpr ?_
  intro byte mem
  have other : byte ≠ 0 := fun zero => noNul (zero ▸ mem)
  simpa using other

variable {byte : UInt8}

theorem mem_cString (mem : byte ∈ cString text) : byte ∈ text ∧ byte ≠ 0 :=
  ⟨(takeWhile_sublist _).mem mem,by simpa using mem_takeWhile_imp mem⟩

variable {name : Bytes}

theorem splitFrom_append (part rest : Bytes) (delim : UInt8) (inside : delim ∉ name) :
    splitFrom delim part (name ++ rest) = splitFrom delim (part ++ name) rest := by
  induction name generalizing part with
  | nil => simp
  | cons byte name ih =>
    obtain ⟨other,later⟩ := ne_and_not_mem_of_not_mem_cons inside
    rw [cons_append,splitFrom,if_neg (Ne.symm other),ih _ later]
    simp

variable {names : List Bytes} {part : Bytes}

theorem splitFrom_pathString (proper : ∀ name ∈ names, ProperName name) :
    splitFrom slash part (pathString names) = if part = [] then names else part :: names := by
  induction names generalizing part with
  | nil => rfl
  | cons name names ih =>
    obtain ⟨first,later⟩ := forall_mem_cons.mp proper
    have inner : splitFrom slash [] (name ++ pathString names) = name :: names := by
      rw [splitFrom_append _ _ _ first.noSlash,nil_append,ih later,if_neg first.nonempty]
    change splitFrom slash part (slash :: (name ++ pathString names)) = _
    rw [splitFrom,if_pos rfl,inner]

theorem mem_pathString : byte ∈ pathString names ↔ ∃ name ∈ names, byte = slash ∨ byte ∈ name := by
  simp [pathString]

theorem zero_not_mem_pathString (proper : ∀ name ∈ names, ProperName name) : 0 ∉ pathString names := by
  rw [mem_pathString]
  rintro ⟨name,mem,zero | inside⟩
  · exact absurd zero (by decide)
  · exact (proper name mem).noNul inside

theorem head_pathString (nonempty : names ≠ []) : (pathString names).head? = some slash := by
  obtain ⟨name,rest,rfl⟩ := exists_cons_of_ne_nil nonempty
  rfl

theorem getPathNames_pathString (some : names ≠ [])
    (proper : ∀ name ∈ names, ProperName name) : getPathNames (pathString names) = names := by
  rw [getPathNames,if_pos (head_pathString some),splitString,cString_eq (zero_not_mem_pathString proper),
    splitFrom_pathString proper,if_pos rfl]

theorem mem_splitFrom {delim : UInt8} (inside : delim ∉ part)
    (mem : name ∈ splitFrom delim part text) : name ≠ [] ∧ delim ∉ name ∧ name ⊆ part ++ text := by
  induction text generalizing part with
  | nil =>
    rw [splitFrom] at mem
    split at mem
    · exact absurd mem (by simp)
    · rename_i some
      obtain rfl := mem_singleton.mp mem
      exact ⟨some,inside,by simp⟩
  | cons first text ih =>
    rw [splitFrom] at mem
    split at mem
    · -- the part before the separator, or one of those behind it
      have later : name ∈ splitFrom delim [] text → name ≠ [] ∧ delim ∉ name ∧
          name ⊆ part ++ first::text := by
        intro mem
        obtain ⟨some,apart,within⟩ := ih (by simp) mem
        exact ⟨some,apart,fun _ here => mem_append_right _ (mem_cons_of_mem _ (within here))⟩
      split at mem
      · exact later mem
      · rename_i some
        rcases mem_cons.mp mem with rfl | mem
        · exact ⟨some,inside,subset_append_left _ _⟩
        · exact later mem
    · rename_i other
      obtain ⟨some,apart,within⟩ := ih (by simp [inside,Ne.symm other]) mem
      exact ⟨some,apart,by simpa using within⟩

theorem length_pathString_splitFrom (part text : Bytes) :
    (pathString (splitFrom slash part text)).length ≤ text.length + part.length + 1 := by
  induction text generalizing part with
  | nil =>
    rw [splitFrom]
    split <;> simp [pathString]
  | cons byte text ih =>
    rw [splitFrom]
    split
    · have next := ih []
      split
      · simp only [length_cons,length_nil] at next ⊢
        omega
      · simp only [pathString,flatMap_cons,length_append,length_cons,length_nil] at next ⊢
        omega
    · have next := ih (part ++ [byte])
      simp only [length_append,length_cons,length_nil] at next ⊢
      omega

variable {path : Bytes}

theorem getPathNames_proper (mem : name ∈ getPathNames path) : ProperName name := by
  unfold getPathNames at mem
  split at mem
  · obtain ⟨some,noSlash,within⟩ := mem_splitFrom not_mem_nil mem
    exact ⟨some,noSlash,fun inside => (mem_cString (within inside)).2 rfl⟩
  · exact absurd mem (by simp)

theorem mem_of_mem_getPathNames (mem : name ∈ getPathNames path) (inside : byte ∈ name) : byte ∈ path := by
  unfold getPathNames at mem
  split at mem
  · exact (mem_cString ((mem_splitFrom not_mem_nil mem).2.2 inside)).1
  · exact absurd mem (by simp)

theorem length_pathString_getPathNames (path : Bytes) :
    (pathString (getPathNames path)).length ≤ path.length := by
  unfold getPathNames
  split_ifs with starts
  · obtain ⟨rest,rfl⟩ : ∃ rest, path = slash :: rest := by simpa [head?_eq_some_iff] using starts
    have shown : splitString (slash :: rest) slash = splitFrom slash [] (cString rest) := rfl
    have shorter : (cString rest).length ≤ rest.length := (takeWhile_sublist _).length_le
    have bound := length_pathString_splitFrom [] (cString rest)
    rw [shown]
    simp only [length_nil,length_cons] at bound ⊢
    omega
  · simp [pathString]

theorem isDigit_iff (byte : UInt8) : isDigit byte = true ↔ 48 ≤ byte.toNat ∧ byte.toNat ≤ 57 := by
  simp [isDigit,UInt8.le_iff_toNat_le]

theorem isSpace_of_isDigit (digit : isDigit byte = true) : isSpace byte = false := by
  rw [isDigit_iff] at digit
  simp only [isSpace,space,Bool.or_eq_false_iff,decide_eq_false_iff_not,Bool.and_eq_false_iff,
    UInt8.le_iff_toNat_le,← UInt8.toNat_inj,UInt8.toNat_ofNat]
  omega

theorem ne_of_isDigit {other : UInt8} (digit : isDigit byte = true)
    (apart : isDigit other = false) : byte ≠ other := by
  rintro rfl
  exact absurd digit (by simp [apart])

variable {rest : Bytes}

theorem scanNumber_decimal {value : Nat} (fits : value < 2^64)
    (stops : ∀ byte ∈ rest.head?, isDigit byte = false) :
    scanNumber (space :: (decimal value ++ rest)) = some (UInt64.ofNat value,rest) := by
  have every : ∀ byte ∈ decimal value, isDigit byte = true := fun byte => isDigit_of_mem_decimal
  obtain ⟨digit,digits,shape⟩ := exists_cons_of_ne_nil (decimal_ne_nil value)
  have first := every digit (by simp [shape])
  have signed : (space :: (decimal value ++ rest)).dropWhile isSpace = decimal value ++ rest := by
    rw [dropWhile_cons_of_pos rfl,shape,cons_append,
      dropWhile_cons_of_neg (by simp [isSpace_of_isDigit first])]
  have head : (decimal value ++ rest).head? = some digit := by simp [shape]
  have taken : (decimal value ++ rest).takeWhile isDigit = decimal value := by
    rw [takeWhile_append_of_pos every]
    cases rest with
    | nil => simp
    | cons byte rest => simp [stops byte rfl]
  have dropped : (decimal value ++ rest).dropWhile isDigit = rest := by
    rw [dropWhile_append_of_pos every]
    cases rest with
    | nil => simp
    | cons byte rest => simp [stops byte rfl]
  have noPlus : digit ≠ 43 := ne_of_isDigit first rfl
  have noMinus : digit ≠ 45 := ne_of_isDigit first rfl
  have read : strtoul false value = UInt64.ofNat value := by
    rw [strtoul,if_neg (Nat.not_le.mpr fits)]
    rfl
  simp [scanNumber,signed,head,noPlus,noMinus,taken,dropped,decimal_ne_nil,ofDecimal_decimal,read]

theorem fgets_append {size : Nat} (inside : newline ∉ text) (fits : text.length < size) :
    fgets size (text ++ newline :: rest) = (text ++ [newline],rest) := by
  induction text generalizing size with
  | nil =>
    cases size with
    | zero => exact absurd fits (by simp)
    | succ size => rfl
  | cons byte text ih =>
    cases size with
    | zero => exact absurd fits (by simp)
    | succ size =>
      obtain ⟨other,later⟩ := ne_and_not_mem_of_not_mem_cons inside
      have inner := ih later (Nat.lt_of_succ_lt_succ fits)
      simp only [cons_append,fgets,if_neg (Ne.symm other),inner]

theorem length_lineOf (path : Bytes) (attri : FileAttribute) :
    (lineOf path attri).length ≤ path.length + 35 := by
  have size : (decimal attri.size.toNat).length ≤ 20 :=
    length_decimal_le (by decide) (attri.size.toNat_lt.trans (by decide))
  have crc : (decimal attri.crc.toNat).length ≤ 10 :=
    length_decimal_le (by decide) (attri.crc.toNat_lt.trans (by decide))
  simp only [lineOf,length_append,length_cons,length_nil]
  omega

variable {attri : FileAttribute}

theorem mem_lineOf (mem : byte ∈ lineOf path attri) :
    byte ∈ path ∨ isDigit byte = true ∨ byte = comma ∨ byte = space ∨ byte = newline := by
  simp only [lineOf,mem_append,mem_cons,not_mem_nil,or_false] at mem
  rcases mem with ((here | here | here | here) | here | here | here) | here
  · exact Or.inl here
  · simp [here]
  · simp [here]
  · simp [isDigit_of_mem_decimal here]
  · simp [here]
  · simp [here]
  · simp [isDigit_of_mem_decimal here]
  · simp [here]

theorem readLine_lineOf (inside : newline ∉ path) (fits : path.length ≤ kLfsPathSizeMax)
    (attri : FileAttribute) (rest : Bytes) :
    readLine (lineOf path attri ++ rest) = (lineOf path attri,rest) := by
  have apart : ∀ value, newline ∉ decimal value := fun value mem =>
    ne_of_isDigit (isDigit_of_mem_decimal mem) rfl rfl
  have body : newline ∉ path ++ comma :: space :: decimal attri.size.toNat ++
      comma :: space :: decimal attri.crc.toNat := by
    have noComma : newline ≠ comma := by decide
    have noSpace : newline ≠ space := by decide
    simp [inside,apart,noComma,noSpace]
  have short := length_lineOf path attri
  rw [lineOf,append_assoc]
  refine fgets_append body ?_
  simp only [lineOf,length_append,kLfsLineSizeMax] at short fits ⊢
  omega

theorem scanLine_lineOf (nonempty : path ≠ []) (noNul : 0 ∉ path) (noComma : comma ∉ path)
    (fits : path.length < kLfsPathSizeMax) (attri : FileAttribute) :
    scanLine (lineOf path attri) = .ok (some (path,attri)) := by
  have text : cString (lineOf path attri) = lineOf path attri := by
    refine cString_eq (fun mem => ?_)
    rcases mem_lineOf mem with here | here | here | here | here
    · exact noNul here
    all_goals exact absurd here (by decide)
  have filePath : ((lineOf path attri).takeWhile (· ≠ comma)).take 1124 = path := by
    have plain : ∀ byte ∈ path, decide (byte ≠ comma) = true := by
      intro byte mem
      have other : byte ≠ comma := fun same => noComma (same ▸ mem)
      simpa using other
    rw [lineOf,append_assoc,append_assoc,takeWhile_append_of_pos plain,cons_append,
      takeWhile_cons_of_neg (by simp),append_nil]
    exact take_of_length_le (by simp only [kLfsPathSizeMax] at fits; omega)
  have behind : (lineOf path attri).drop path.length =
      comma :: space :: (decimal attri.size.toNat ++
        (comma :: space :: (decimal attri.crc.toNat ++ [newline]))) := by
    simp [lineOf]
  have size : scanNumber (space ::
    (decimal attri.size.toNat ++ (comma :: space :: (decimal attri.crc.toNat ++ [newline])))) =
      some (attri.size,comma :: space :: (decimal attri.crc.toNat ++ [newline])) := by
    rw [scanNumber_decimal attri.size.toNat_lt (by simp [comma,isDigit])]
    simp
  have crc : scanNumber (space :: (decimal attri.crc.toNat ++ [newline])) =
      some (UInt64.ofNat attri.crc.toNat,[newline]) :=
    scanNumber_decimal (attri.crc.toNat_lt.trans (by decide)) (by simp [newline,isDigit])
  simp only [scanLine,text,filePath,behind,size,crc,if_neg nonempty,if_neg (Nat.not_le.mpr fits)]
  have narrow : (UInt64.ofNat attri.crc.toNat).toUInt32 = attri.crc := by simp
  rw [narrow]
  rfl

/-- A path that is one line's field as it stands. -/
structure Plain (path : Bytes) : Prop where
  noComma : comma ∉ path
  noNewline : newline ∉ path
  fits : path.length < kLfsPathSizeMax

theorem newline_ends_line {size : Nat} {content : Bytes} {before after : Bytes}
    (split : (fgets size content).1 = before ++ after) (more : after ≠ []) : newline ∉ before := by
  fun_induction fgets size content generalizing before with
  | case1 content | case2 size _ => simp_all
  | case3 size rest =>
    cases before with
    | nil => simp
    | cons byte before => simp_all
  | case4 size byte rest other ih =>
    cases before with
    | nil => simp
    | cons first before =>
      obtain ⟨rfl,inner⟩ := cons.inj split
      simpa [Ne.symm other] using ih inner

variable {line : Bytes}

theorem scanLine_field (scanned : scanLine line = .ok (some (path,attri))) :
    comma ∉ path ∧ path.length < kLfsPathSizeMax ∧ ∃ rest, line = path ++ comma :: rest := by
  obtain ⟨tail,shown⟩ : cString line <+: line := takeWhile_prefix _
  obtain ⟨field,named⟩ : ∃ field, field = ((cString line).takeWhile (· ≠ comma)).take 1124 := ⟨_,rfl⟩
  have within : field <+: cString line := by
    rw [named]
    exact IsPrefix.trans ( take_prefix _ _) ( takeWhile_prefix _)
  have noComma : comma ∉ field := by
    intro mem
    rw [named] at mem
    simpa using mem_takeWhile_imp (mem_of_mem_take mem)
  simp only [scanLine,← named] at scanned
  split at scanned
  · exact absurd scanned (by simp [pure,Except.pure])
  split at scanned
  · exact absurd scanned (by simp)
  rename_i short
  split at scanned
  · exact absurd scanned (by simp [pure,Except.pure])
  rename_i byte rest behind
  split at scanned
  · exact absurd scanned (by simp [pure,Except.pure])
  rename_i separator
  have same : field = path := by
    split at scanned
    · split at scanned
      · exact absurd scanned (by simp [pure,Except.pure])
      · split at scanned
        · simp [pure,Except.pure] at scanned
          exact scanned.1
        · exact absurd scanned (by simp [pure,Except.pure])
    · exact absurd scanned (by simp [pure,Except.pure])
  subst same
  refine ⟨noComma,Nat.not_le.mp short,rest ++ tail,?_⟩
  have whole : cString line = field ++ comma :: rest := by
    rw [← Decidable.not_not.mp separator,← behind]
    exact (prefix_iff_eq_append.mp within).symm
  rw [← shown,whole,append_assoc,cons_append]

theorem plain_of_scanned {content : Bytes}
    (read : readLine content = (line,rest)) (scanned : scanLine line = .ok (some (path,attri))) :
    Plain path := by
  obtain ⟨noComma,fits,rest,shape⟩ := scanLine_field scanned
  refine ⟨noComma,?_,fits⟩
  have whole : (fgets (kLfsLineSizeMax - 1) content).1 = path ++ comma :: rest := by
    rw [← shape]
    exact congrArg Prod.fst read
  exact newline_ends_line whole (cons_ne_nil _ _)

theorem plain_pathString (plain : Plain path) : Plain (pathString (getPathNames path)) := by
  have within : ∀ byte, byte ≠ slash → byte ∉ path → byte ∉ pathString (getPathNames path) := by
    intro byte other outside mem
    obtain ⟨name,named,same | inside⟩ := mem_pathString.mp mem
    · exact other same
    · exact outside (mem_of_mem_getPathNames named inside)
  exact ⟨within comma (by decide) plain.noComma,within newline (by decide) plain.noNewline,
    (length_pathString_getPathNames path).trans_lt plain.fits⟩

end Mooon.LightFs

import Mathlib.Data.List.DropRight

/-! The functions of the string utilities that trim a text in its buffer. An access outside of the
buffer has no result. -/
namespace Mooon.Utils.Trim
open List Option

def isSpace (c : UInt8) : Bool := c == 32 || c == 9 || c == 13 || c == 10

/-- The loop of all three functions, in as many rounds as the buffer is long. -/
def loop (copies : Bool) (blank : UInt8 → Bool) : Nat → List UInt8 → Nat → Nat → Option Nat →
    Option (List UInt8)
  | 0, _, _, _, _ => none
  | left+1, buffer, source, tmpSource, space => do
    let c ← buffer[tmpSource]?
    let buffer := if copies then buffer.set source c else buffer
    if c = 0 then return space.elim buffer (buffer.set · 0)
    loop copies blank left buffer (source+1) (tmpSource+1)
      (if blank c then some (space.getD source) else none)

def trim (buffer : List UInt8) : Option (List UInt8) :=
  loop true isSpace buffer.length buffer 0 (buffer.takeWhile (· == 32)).length none

def trimLeft (buffer : List UInt8) : Option (List UInt8) :=
  loop true (fun _ => false) buffer.length buffer 0 (buffer.takeWhile isSpace).length none

def trimRight (buffer : List UInt8) : Option (List UInt8) := loop false isSpace buffer.length buffer 0 0 none

def cString (buffer : List UInt8) : List UInt8 := buffer.takeWhile (· != 0)

def stripped (text : List UInt8) : List UInt8 := (text.dropWhile isSpace).rdropWhile isSpace

section
variable {text : List UInt8} {copies : Bool} {blank : UInt8 → Bool}

theorem move_eq {front gap rest : List UInt8} (c : UInt8) (moves : copies = true ∨ gap = []) :
    ∃ gap' : List UInt8, gap'.length = gap.length ∧ (copies = true ∨ gap' = []) ∧
      (if copies then (front ++ (gap ++ c::rest)).set front.length c else front ++ (gap ++ c::rest)) =
        front ++ c::(gap' ++ rest) := by
  cases gap with
  | nil => exact ⟨[],rfl,.inr rfl,by simp⟩
  | cons first gap =>
    obtain rfl := moves.resolve_right (cons_ne_nil _ _)
    exact ⟨gap ++ [c],by simp,.inl rfl,by simp⟩

theorem getElem?_read (front gap rest : List UInt8) (c : UInt8) :
    (front ++ (gap ++ c::rest))[front.length + gap.length]? = some c := by
  simp

theorem ended {space : Option Nat} (marked : space.getD text.length = (text.rdropWhile blank).length)
    (behind : List UInt8) : ∃ behind', space.elim (text ++ 0::behind) ((text ++ 0::behind).set · 0) =
      text.rdropWhile blank ++ 0::behind' := by
  obtain ⟨blanks,parts⟩ := rdropWhile_prefix blank text
  have same : space.elim (text ++ 0::behind) ((text ++ 0::behind).set · 0) =
      (text ++ 0::behind).set (space.getD text.length) 0 := by
    cases space <;> simp
  refine ⟨(blanks ++ 0::behind).tail,?_⟩
  rw [same,marked]
  nth_rewrite 1 [← parts]
  cases blanks <;> simp

/-- The text still to be read stands behind the characters that were taken and a gap of skipped ones. -/
theorem loop_eq (front gap behind : List UInt8) {left : Nat} {space : Option Nat}
    (enough : text.length < left) (plain : 0 ∉ text) (moves : copies = true ∨ gap = [])
    (marked : space.getD front.length = (front.rdropWhile blank).length) : ∃ behind',
      loop copies blank left (front ++ (gap ++ (text ++ 0::behind))) front.length
        (front.length + gap.length) space =
        some ((front ++ text).rdropWhile blank ++ 0::behind') := by
  induction text generalizing front gap left space with
  | nil =>
    obtain ⟨left,rfl⟩ := Nat.exists_eq_succ_of_ne_zero (Nat.ne_zero_of_lt enough)
    obtain ⟨gap',-,-,moved⟩ := @move_eq copies front gap behind 0 moves
    obtain ⟨behind',done⟩ := ended marked (gap' ++ behind)
    refine ⟨behind',?_⟩
    rw [loop,nil_append,getElem?_read,append_nil,← done,← moved]
    rfl
  | cons c text ih =>
    obtain ⟨left,rfl⟩ := Nat.exists_eq_succ_of_ne_zero (Nat.ne_zero_of_lt enough)
    obtain ⟨other,plain⟩ := not_or.mp (mt mem_cons.mpr plain)
    obtain ⟨gap',same,moves',moved⟩ := @move_eq copies front gap (text ++ 0::behind) c moves
    have marked' : (if blank c then some (space.getD front.length) else none).getD (front ++ [c]).length =
        ((front ++ [c]).rdropWhile blank).length := by
      rw [rdropWhile_concat]
      split_ifs
      · exact marked
      · rfl
    obtain ⟨behind',done⟩ := ih (front ++ [c]) gap' (Nat.lt_of_succ_lt_succ enough) plain moves' marked'
    refine ⟨behind',?_⟩
    simp only [append_assoc,singleton_append,length_append,length_singleton,same,
      Nat.add_right_comm _ 1] at done
    rw [loop,cons_append,getElem?_read,bind_eq_bind,bind_some,moved,if_neg (Ne.symm other)]
    exact done

theorem copied (behind : List UInt8) {skipped : UInt8 → Bool} (stops : skipped 0 = false) (plain : 0 ∉ text) :
    ∃ behind', loop true blank (text ++ 0::behind).length (text ++ 0::behind) 0
      ((text ++ 0::behind).takeWhile skipped).length none =
        some ((text.dropWhile skipped).rdropWhile blank ++ 0::behind') := by
  have fewer := dropWhile_sublist skipped (l := text)
  have skips : (text ++ 0::behind).takeWhile skipped = text.takeWhile skipped := by
    rw [takeWhile_append,takeWhile_cons_of_neg (Bool.eq_false_iff.mp stops),append_nil]
    split_ifs with whole
    · exact (( takeWhile_prefix skipped).eq_of_length whole).symm
    · rfl
  have enough : (text.dropWhile skipped).length < (text ++ 0::behind).length := by
    have := fewer.length_le
    simp
    omega
  have done := @loop_eq _ true blank [] (text.takeWhile skipped) behind _ none enough
    (fun zero => plain (fewer.subset zero)) (.inl rfl) rfl
  rw [nil_append,nil_append,← append_assoc,takeWhile_append_dropWhile,length_nil,Nat.zero_add] at done
  rw [skips]
  exact done

theorem cString_eq (plain : 0 ∉ text) (behind : List UInt8) : cString (text ++ 0::behind) = text := by
  rw [cString,takeWhile_append_of_pos fun c member => bne_iff_ne.mpr (ne_of_mem_of_not_mem member plain)]
  exact append_nil text

theorem not_mem_rdropWhile (plain : 0 ∉ text) (skipped : UInt8 → Bool) :
    0 ∉ (text.dropWhile skipped).rdropWhile isSpace :=
  fun zero => plain ((dropWhile_sublist skipped).subset (( rdropWhile_prefix isSpace _).subset zero))

theorem stripped_begins {first : UInt8} {rest : List UInt8} (begins : stripped text = first::rest) :
    isSpace first = false := by
  obtain ⟨more,later⟩ := rdropWhile_prefix isSpace (text.dropWhile isSpace)
  have head := head?_dropWhile_not isSpace text
  change stripped text ++ more = _ at later
  rw [← later,begins] at head
  exact head

theorem stripped_iff (text : List UInt8) : text.rdropWhile isSpace = stripped text ↔
    (∀ c ∈ text, isSpace c) ∨ ∀ first rest, text = first::rest → isSpace first = false := by
  by_cases blanks : ∀ c ∈ text, isSpace c
  · rw [stripped,dropWhile_eq_nil_iff.mpr blanks]
    exact iff_of_true (rdropWhile_eq_nil_iff.mpr blanks) (.inl blanks)
  · rw [or_iff_right blanks]
    constructor
    · rintro same first rest rfl
      obtain ⟨last,front⟩ := rdropWhile_prefix isSpace (first::rest)
      cases kept : (first::rest).rdropWhile isSpace with
      | nil => exact absurd (rdropWhile_eq_nil_iff.mp kept) blanks
      | cons char others =>
        rw [kept] at front
        cases front
        exact stripped_begins (same.symm.trans kept)
    · intro other
      cases text with
      | nil => rfl
      | cons first rest => rw [stripped,dropWhile_cons_of_neg (Bool.eq_false_iff.mp (other first rest rfl))]

theorem dropWhile_spaces (text : List UInt8) :
    (text.dropWhile (· == 32)).dropWhile isSpace = text.dropWhile isSpace := by
  induction text with
  | nil => rfl
  | cons c text ih =>
    by_cases space : c = 32
    · subst space
      exact ih
    · rw [dropWhile_cons_of_neg (by simpa using space)]

theorem trim_stripped (text : List UInt8) :
    ((stripped text).dropWhile (· == 32)).rdropWhile isSpace = stripped text := by
  have begins : (stripped text).dropWhile (· == 32) = stripped text := by
    cases same : stripped text with
    | nil => rfl
    | cons first rest =>
      refine dropWhile_cons_of_neg fun space => ?_
      rw [beq_iff_eq] at space
      cases space ▸ stripped_begins same
  rw [begins]
  exact rdropWhile_idempotent isSpace _

end

/-- Only spaces are skipped in front of the text. -/
theorem trim_iff (text : {text : List UInt8 // 0 ∉ text}) (behind : List UInt8) :
    ((trim (text ++ 0::behind)).map cString = some (stripped text) ∧
      ((trimLeft (text ++ 0::behind)).bind trimRight).map cString = some (stripped text) ∧
      ((trim (text ++ 0::behind)).bind trim).map cString = some (stripped text)) ↔
    (∀ c ∈ text.1, isSpace c) ∨ ∀ first rest, text.1.dropWhile (· == 32) = first::rest →
      isSpace first = false := by
  obtain ⟨text,plain⟩ := text
  have clean := not_mem_rdropWhile plain (· == 32)
  have strips : stripped (text.dropWhile (· == 32)) = stripped text :=
    congrArg (rdropWhile isSpace) (dropWhile_spaces text)
  have core : 0 ∉ stripped text := not_mem_rdropWhile plain isSpace
  obtain ⟨behind₁,once⟩ : ∃ behind₁, trim (text ++ 0::behind) = some (_ ++ 0::behind₁) :=
    copied behind rfl plain
  obtain ⟨behind₂,left⟩ : ∃ behind₂, trimLeft (text ++ 0::behind) = some (_ ++ 0::behind₂) :=
    copied behind rfl plain
  rw [rdropWhile_eq_self_iff.mpr fun _ => Bool.false_ne_true] at left
  obtain ⟨behind₃,right⟩ : ∃ behind₃, trimRight (text.dropWhile isSpace ++ 0::behind₂) =
    some (stripped text ++ 0::behind₃) :=
    loop_eq [] [] behind₂ (by simp) (fun zero => plain ((dropWhile_sublist isSpace).subset zero))
      (.inr rfl) rfl
  rw [once,left,bind_some,bind_some,right,map_some,map_some,cString_eq clean,cString_eq core,
    ← dropWhile_eq_nil_iff,← dropWhile_spaces,dropWhile_eq_nil_iff,← stripped_iff,strips,some_inj]
  refine ⟨And.left,fun same => ⟨same,rfl,?_⟩⟩
  obtain ⟨behind₄,again⟩ : ∃ behind₄, trim (stripped text ++ 0::behind₁) = some (_ ++ 0::behind₄) :=
    copied behind₁ rfl core
  rw [same,again,trim_stripped,map_some,cString_eq core]

theorem trim_keeps_tab : trim [9,97,0] = some [9,97,0] ∧ (trimLeft [9,97,0]).bind trimRight =
    some [97,0,0] := by
  decide

end Mooon.Utils.Trim

import Mathlib.Logic.Function.Basic

/-! Characters in a block of memory. An access outside of the block has no result. -/
namespace Mooon
open List Option Function

structure CharBuffer (Char : Type) where
  capacity : Nat
  chars : Nat → Char

namespace CharBuffer
variable {Char : Type}

def read (index : Int) (buffer : CharBuffer Char) : Option Char :=
  if 0 ≤ index ∧ index < buffer.capacity then some (buffer.chars index.toNat) else none

def write (index : Int) (char : Char) (buffer : CharBuffer Char) : Option (CharBuffer Char) :=
  if 0 ≤ index ∧ index < buffer.capacity then
    some {buffer with chars := Function.update buffer.chars index.toNat char}
  else none

def copied (start : Nat) (text : List Char) (buffer : CharBuffer Char) : CharBuffer Char :=
  ⟨buffer.capacity,fun index =>
    if start ≤ index then text[index - start]?.getD (buffer.chars index) else buffer.chars index⟩

def copy (start : Int) (text : List Char) (buffer : CharBuffer Char) : Option (CharBuffer Char) :=
  if 0 ≤ start ∧ start + text.length ≤ buffer.capacity then some (buffer.copied start.toNat text) else none

def text (length : Nat) (buffer : CharBuffer Char) : List Char := (List.range length).map buffer.chars

/-- The formatted text up to a size that counts the terminator, and the length of the whole text, or
-1 when that is not an `int`. -/
def vsnprintf (nul : Char) (start : Int) (size : Nat) (text : List Char) (buffer : CharBuffer Char) :
    Option (CharBuffer Char × Int) :=
  let expected : Int := if text.length ≤ 2147483647 then text.length else -1
  if size = 0 then some (buffer,expected)
  else (buffer.copy start (text.take (size-1) ++ [nul])).map fun buffer => (buffer,expected)

section
variable {buf after : CharBuffer Char} {length index : Nat} {char : Char}

@[simp] theorem text_length : (buf.text length).length = length := by
  simp [text]

theorem text_succ : buf.text (length+1) = buf.text length ++ [buf.chars length] := by
  simp [text,range_succ]

theorem text_congr (same : ∀ index < length, after.chars index = buf.chars index) :
    after.text length = buf.text length :=
  map_congr_left fun index inside => same index (mem_range.mp inside)

theorem text_take (small : index ≤ length) : (buf.text length).take index = buf.text index := by
  rw [text,← map_take,take_range,Nat.min_eq_left small,text]

theorem mem_text (inside : index < length) : buf.chars index ∈ buf.text length :=
  mem_map_of_mem (mem_range.mpr inside)

theorem mem_text_of_le (small : index ≤ length) (mem : char ∈ buf.text index) : char ∈ buf.text length := by
  rw [← text_take small] at mem
  exact mem_of_mem_take mem

theorem getLast_text : (buf.text (length+1)).getLast? = some (buf.chars length) := by
  simp [text_succ]

theorem write_eq (inside : index < buf.capacity) (char : Char) :
    buf.write index char = some {buf with chars := update buf.chars index char} := by
  rw [write,if_pos ⟨Int.natCast_nonneg _,by exact_mod_cast inside⟩,Int.toNat_natCast]

theorem text_update (char : Char) : text (length+1) {buf with chars := update buf.chars length char} =
    buf.text length ++ [char] := by
  have before : text length {buf with chars := update buf.chars length char} = buf.text length :=
    text_congr fun index inside => update_of_ne (Nat.ne_of_lt inside) _ _
  rw [text_succ,before]
  dsimp only
  rw [update_self]

theorem text_copied (buf : CharBuffer Char) (start : Nat) (piece : List Char) :
    (buf.copied start piece).text (start + piece.length) = buf.text start ++ piece := by
  have upTo : ∀ count ≤ piece.length,
      (buf.copied start piece).text (start + count) = buf.text start ++ piece.take count := by
    intro count small
    induction count with
    | zero =>
      rw [take_zero,append_nil]
      exact text_congr fun index inside => if_neg (Nat.not_le_of_lt inside)
    | succ count ih =>
      rw [← Nat.add_assoc,text_succ,ih (Nat.le_of_succ_le small),copied]
      dsimp only
      rw [if_pos (Nat.le_add_right _ _),Nat.add_sub_cancel_left,getElem?_eq_getElem small,getD_some,
        append_assoc,← take_succ_eq_append_getElem small]
  rw [upTo _ (Nat.le_refl _),take_length]

structure Printed (nul : Char) (start size : Nat) (printed : List Char)
    (before after : CharBuffer Char) : Prop where
  capacity : after.capacity = before.capacity
  text : after.text (start + min (size-1) printed.length) = before.text start ++ printed.take (size-1)
  ended : 0 < size → after.chars (start + min (size-1) printed.length) = nul

variable {start size : Nat}

theorem Printed.front {nul : Char} {printed : List Char}
    (print : Printed nul start size printed buf after) : after.text start = buf.text start := by
  rw [← text_take (Nat.le_add_right start _),print.text,take_left' text_length]

theorem vsnprintf_printed (nul : Char) (printed : List Char)
    (inside : start + size ≤ buf.capacity) : ∃ after, buf.vsnprintf nul start size printed =
        some (after,if printed.length ≤ 2147483647 then (printed.length : Int) else -1) ∧
      Printed nul start size printed buf after := by
  unfold vsnprintf
  by_cases empty : size = 0
  · rw [if_pos empty]
    exact ⟨buf,rfl,rfl,by simp [empty],fun pos => absurd empty (Nat.ne_of_gt pos)⟩
  · have room : (0 : Int) ≤ start ∧ (start : Int) + (printed.take (size-1) ++ [nul]).length ≤
        buf.capacity := by
      rw [length_append,length_take,length_singleton]
      omega
    have copied := text_copied buf start (printed.take (size-1) ++ [nul])
    rw [length_append,length_singleton,length_take,← Nat.add_assoc,text_succ,← append_assoc] at copied
    obtain ⟨text,last⟩ := append_inj' copied rfl
    rw [if_neg empty,copy,if_pos room]
    exact ⟨_,rfl,rfl,text,fun _ => singleton_inj.mp last⟩

end

end CharBuffer

end Mooon

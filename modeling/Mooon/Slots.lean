import Mathlib.Data.List.Nodup

/-! Numbered slots of a fixed size. An entry stands in the slot of its own index, so that slots are a
set of entries with distinct indexes in range. -/
namespace Mooon
open Function

structure Slots {Entry : Type} (index : Entry → Int) (size : Nat) where
  slot : Fin size → Option Entry
  placed : ∀ place entry, slot place = some entry → index entry = place.val

namespace Slots
variable {Entry : Type} {index : Entry → Int} {size : Nat}

def empty : Slots index size := ⟨fun _ => none,fun _ _ absent => nomatch absent⟩

def Inside (size : Nat) (number : Int) : Prop := 0 ≤ number ∧ number < size

instance (size : Nat) (number : Int) : Decidable (Inside size number) := inferInstanceAs (Decidable (_ ∧ _))

def place {number : Int} (inside : Inside size number) : Fin size :=
  ⟨number.toNat,by have := inside.1; have := inside.2; omega⟩

variable {number : Int}

theorem place_val (inside : Inside size number) : ((place inside).val : Int) = number :=
  Int.toNat_of_nonneg inside.1

def find (slots : Slots index size) (number : Int) : Option Entry :=
  if inside : Inside size number then slots.slot (place inside) else none

def put (slots : Slots index size) (entry : Entry) (inside : Inside size (index entry)) : Slots index size :=
  ⟨Function.update slots.slot (place inside) (some entry),by
    intro there other found
    by_cases same : there = place inside
    · subst same
      rw [Function.update_self] at found
      cases found
      exact (place_val inside).symm
    · rw [Function.update_of_ne same] at found
      exact slots.placed there other found⟩

instance : Membership Entry (Slots index size) := ⟨fun slots entry => slots.find (index entry) = some entry⟩

variable {slots : Slots index size} {entry : Entry}

theorem find_some (found : slots.find number = some entry) : index entry = number ∧ Inside size number := by
  unfold find at found
  split at found
  · rename_i inside
    exact ⟨(slots.placed _ _ found).trans (place_val inside),inside⟩
  · cases found

theorem mem_of_find (found : slots.find number = some entry) : entry ∈ slots := by
  change slots.find (index entry) = some entry
  rw [(find_some found).1,found]

theorem not_mem_empty (entry : Entry) : entry ∉ (empty : Slots index size) := by
  intro mem
  change find empty (index entry) = some entry at mem
  unfold find at mem
  split at mem <;> cases mem

variable (inside : Inside size (index entry))

theorem find_put (number : Int) :
    (slots.put entry inside).find number = if number = index entry then
      some entry else slots.find number := by
  by_cases same : number = index entry
  · subst same
    rw [if_pos rfl]
    unfold find
    rw [dif_pos inside]
    exact update_self ..
  · rw [if_neg same]
    unfold find
    split_ifs with other
    · have apart : place other ≠ place inside := by
        intro equal
        have := congrArg (fun place : Fin size => (place.val : Int)) equal
        simp only [place_val] at this
        exact same this
      exact update_of_ne apart ..
    · rfl

theorem mem_put {other : Entry}
    (free : slots.find (index entry) = none) : other ∈ slots.put entry inside ↔
      other = entry ∨ other ∈ slots := by
  change (slots.put entry inside).find (index other) = some other ↔
    other = entry ∨ slots.find (index other) = some other
  rw [find_put]
  by_cases same : index other = index entry
  · rw [same,free]
    simp [eq_comm]
  · rw [if_neg same]
    have apart : other ≠ entry := fun equal => same (congrArg index equal)
    simp [apart]

end Slots

end Mooon

import Mathlib.Data.Nat.ModEq

/-! A ring buffer: a queue in the cells of an array of fixed size, from the head on and around its end. -/
namespace Mooon
open List Function

structure Ring (α : Type) (capacity : Nat) where
  cells : Nat → α
  head : Nat
  tail : Nat
  size : Nat
  head_lt : head < capacity
  tail_eq : tail = (head + size) % capacity
  size_le : size ≤ capacity

namespace Ring
variable {α : Type} {capacity : Nat}

def empty (cell : α) (positive : 0 < capacity) : Ring α capacity where
  cells := fun _ => cell
  head := 0
  tail := 0
  size := 0
  head_lt := positive
  tail_eq := (Nat.zero_mod capacity).symm
  size_le := Nat.zero_le capacity

def push (ring : Ring α capacity) (value : α) (room : ring.size < capacity) : Ring α capacity where
  cells := Function.update ring.cells ring.tail value
  head := ring.head
  tail := (ring.tail + 1) % capacity
  size := ring.size + 1
  head_lt := ring.head_lt
  tail_eq := by rw [ring.tail_eq,Nat.mod_add_mod,Nat.add_assoc]
  size_le := room

def front (ring : Ring α capacity) : α := ring.cells ring.head

def pop (ring : Ring α capacity) (some : 0 < ring.size) : Ring α capacity where
  cells := ring.cells
  head := (ring.head + 1) % capacity
  tail := ring.tail
  size := ring.size - 1
  head_lt := Nat.mod_lt _ (Nat.zero_lt_of_lt ring.head_lt)
  tail_eq := by
    rw [Nat.mod_add_mod,ring.tail_eq]
    congr 1
    omega
  size_le := Nat.le_trans (Nat.sub_le ring.size 1) ring.size_le

def contents (ring : Ring α capacity) : List α :=
  (List.range ring.size).map fun i => ring.cells ((ring.head + i) % capacity)

-- less than one revolution apart
theorem place_ne {head first second : Nat} (before : first < second) (near : second < capacity) :
    (head + first) % capacity ≠ (head + second) % capacity := by
  intro same
  have congruent := Nat.ModEq.add_left_cancel' head same
  rw [Nat.ModEq,Nat.mod_eq_of_lt (Nat.lt_trans before near),Nat.mod_eq_of_lt near] at congruent
  exact absurd congruent (Nat.ne_of_lt before)

variable (ring : Ring α capacity)

@[simp] theorem contents_push (value : α) (room : ring.size < capacity) :
    (ring.push value room).contents = ring.contents ++ [value] := by
  have old : (range ring.size).map (fun i =>
      update ring.cells ring.tail value ((ring.head + i) % capacity)) = ring.contents := by
    apply map_congr_left
    intro i mem
    apply update_of_ne
    rw [ring.tail_eq]
    exact place_ne (mem_range.mp mem) room
  change (range (ring.size + 1)).map (fun i =>
    update ring.cells ring.tail value ((ring.head + i) % capacity)) = _
  rw [range_succ,map_append,old,map_singleton,← ring.tail_eq,update_self]

theorem contents_pop (some : 0 < ring.size) :
    ring.contents = ring.front :: (ring.pop some).contents := by
  obtain ⟨rest,size⟩ := Nat.exists_eq_succ_of_ne_zero (Nat.ne_of_gt some)
  have later : (ring.pop some).contents =
      (range rest).map fun i => ring.cells ((ring.head + (i+1)) % capacity) := by
    change (range (ring.size - 1)).map (fun i => ring.cells (((ring.head + 1) % capacity + i) % capacity)) = _
    rw [size]
    apply map_congr_left
    intro i _
    rw [Nat.mod_add_mod,Nat.add_assoc,Nat.add_comm 1 i]
  rw [later,contents,size,range_succ_eq_map,map_cons,map_map,front,Nat.add_zero,
    Nat.mod_eq_of_lt ring.head_lt]
  rfl

end Ring
end Mooon

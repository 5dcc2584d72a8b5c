import Mathlib.Data.List.Nodup

/-! Linked queues. An item carries its own links, so it is in a queue once or not at all:
pushing one that is there does nothing, and removing one that is not there does nothing. -/
namespace Mooon
open List

structure Queue (Item : Type) where
  items : List Item
  unique : items.Nodup

namespace Queue
variable {Item : Type}

instance : Membership Item (Queue Item) := ⟨fun queue item => item ∈ queue.items⟩

theorem mem_items (queue : Queue Item) (item : Item) : item ∈ queue.items ↔ item ∈ queue := Iff.rfl

def empty : Queue Item := ⟨[],nodup_nil⟩

@[simp] theorem not_mem_empty (item : Item) : item ∉ (empty : Queue Item) := not_mem_nil

def front (queue : Queue Item) : Option Item := queue.items.head?

variable {queue : Queue Item} {item : Item}

theorem mem_of_front (first : queue.front = some item) : item ∈ queue :=
  mem_of_head? first

variable [DecidableEq Item]

instance (item : Item) (queue : Queue Item) : Decidable (item ∈ queue) :=
  inferInstanceAs (Decidable (item ∈ queue.items))

def push (item : Item) (queue : Queue Item) : Queue Item :=
  if absent : item ∈ queue.items then queue
  else ⟨queue.items ++ [item],by
    rw [nodup_append_comm,singleton_append,nodup_cons]
    exact ⟨absent,queue.unique⟩⟩

variable {other : Item}

@[simp] theorem mem_push : other ∈ queue.push item ↔ other ∈ queue ∨ other = item := by
  unfold push
  split
  · constructor
    · exact Or.inl
    · rintro (there | rfl)
      · exact there
      · assumption
  · simp [← mem_items]

theorem items_push (absent : item ∉ queue) : (queue.push item).items = queue.items ++ [item] := by
  rw [← mem_items] at absent
  rw [push,dif_neg absent]

def remove (item : Item) (queue : Queue Item) : Queue Item := ⟨queue.items.erase item,queue.unique.erase item⟩

@[simp] theorem mem_remove : other ∈ queue.remove item ↔ other ∈ queue ∧ other ≠ item := by
  rw [← mem_items,remove,queue.unique.mem_erase_iff]
  exact And.comm

theorem remove_of_not_mem (absent : item ∉ queue) : queue.remove item = queue := by
  have same := erase_of_not_mem absent
  simp only [remove,same]

theorem length_remove (there : item ∈ queue) : (queue.remove item).items.length + 1 = queue.items.length :=
  length_erase_add_one there

end Queue

end Mooon

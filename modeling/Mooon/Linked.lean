import Mathlib.Data.List.Nodup

/-! Doubly linked lists behind a head that is no element. Each element has a pointer to the node in
front of it and each node one to the element behind it; an element outside of the list has neither.
-/
namespace Mooon
open List Function

inductive Linked.Node (α : Type) where
  | head
  | element (value : α)
deriving DecidableEq

structure Linked (α : Type) where
  next : Linked.Node α → Option α
  prev : α → Option (Linked.Node α)
  tail : Linked.Node α

namespace Linked
variable {α : Type}

def empty : Linked α := ⟨fun _ => none,fun _ => none,.head⟩

def endOf (list : List α) : Node α := list.getLast?.elim .head .element

structure Represents (linked : Linked α) (list : List α) : Prop where
  distinct : list.Nodup
  next : ∀ before after, list = before ++ after → linked.next (endOf before) = after.head?
  prev : ∀ before value after, list = before ++ value::after → linked.prev value = some (endOf before)
  outside : ∀ value ∉ list, linked.prev value = none ∧ linked.next (.element value) = none
  tail : linked.tail = endOf list

@[simp] theorem endOf_nil : endOf ([] : List α) = .head := rfl

variable {list : List α} {value : α}

@[simp] theorem endOf_snoc : endOf (list ++ [value]) = .element value := by
  simp [endOf]

theorem endOf_cases (list : List α) : list = [] ∨ ∃ before value, list = before ++ [value] ∧
    endOf list = .element value := by
  rcases eq_nil_or_concat list with none | ⟨before,value,rfl⟩
  · exact Or.inl none
  · exact Or.inr ⟨before,value,by simp,by simp⟩

variable {before : List α}

theorem endOf_append {after : List α} (some : after ≠ []) : endOf (before ++ after) = endOf after := by
  rcases endOf_cases after with none | ⟨inner,value,rfl,ends⟩
  · exact absurd none some
  · rw [← append_assoc,endOf_snoc,ends]

theorem endOf_ne (absent : value ∉ list) : endOf list ≠ .element value := by
  rcases endOf_cases list with rfl | ⟨before,last,rfl,ends⟩
  · simp
  · intro same
    rw [ends] at same
    exact absent (Node.element.inj same ▸ mem_append_right _ mem_cons_self)

theorem endOf_append_ne {between : List α} (nodup : (before ++ between).Nodup) (longer : between ≠ []) :
    endOf before ≠ endOf (before ++ between) := by
  rcases endOf_cases between with none | ⟨inner,value,rfl,-⟩
  · exact absurd none longer
  · rw [← append_assoc,endOf_snoc]
    apply endOf_ne
    intro inside
    exact disjoint_of_nodup_append nodup inside (mem_append_right _ mem_cons_self)

theorem represents_empty : (empty : Linked α).Represents [] := by
  refine ⟨.nil,?_,?_,fun _ _ => ⟨rfl,rfl⟩,rfl⟩
  · intro before after split
    obtain ⟨-,rfl⟩ := append_eq_nil_iff.mp split.symm
    rfl
  · intro before value after split
    simp at split

namespace Represents
variable {linked : Linked α} {list : List α} (shows : linked.Represents list)
include shows

theorem next_head : linked.next .head = list.head? := shows.next [] list rfl

theorem prev_eq_none (value : α) : linked.prev value = none ↔ value ∉ list := by
  refine ⟨?_,fun absent => (shows.outside value absent).1⟩
  intro none inside
  obtain ⟨before,after,split⟩ := append_of_mem inside
  rw [shows.prev before value after split] at none
  cases none

omit shows in
theorem behind {value : α} {after : List α} (shows : linked.Represents (before ++ value::after)) :
    linked.next (.element value) = after.head? := by
  have found := shows.next (before ++ [value]) after (by simp)
  rwa [endOf_snoc] at found

end Represents

variable [DecidableEq α]

def append (value : α) (linked : Linked α) : Linked α where
  next := Function.update (Function.update linked.next (.element value) none) linked.tail (some value)
  prev := Function.update linked.prev value (some linked.tail)
  tail := .element value

def unlink (value : α) (front : Node α) (linked : Linked α) : Linked α where
  next := Function.update (Function.update linked.next front (linked.next (.element value)))
    (.element value) none
  prev :=
    let relinked := match linked.next (.element value) with
      | none => linked.prev
      | some behind => Function.update linked.prev behind (some front)
    Function.update relinked value none
  tail :=
    match linked.next (.element value) with
    | none => front
    | some _ => linked.tail

section
variable {linked : Linked α} {list : List α} {value : α}

theorem append_next : (linked.append value).next =
    update (update linked.next (.element value) none) linked.tail (some value) := rfl

theorem append_prev : (linked.append value).prev = update linked.prev value (some linked.tail) := rfl

variable {node : Node α}

theorem append_next_of_ne (other : node ≠ linked.tail) (another : node ≠ .element value) :
    (linked.append value).next node = linked.next node := by
  rw [append_next,update_of_ne other,update_of_ne another]

theorem Represents.append (shows : linked.Represents list) (absent : value ∉ list) :
    (linked.append value).Represents (list ++ [value]) := by
  have nodup := List.Nodup.append shows.distinct (nodup_singleton _)
    (disjoint_singleton.mpr absent)
  have apart := shows.tail ▸ endOf_ne absent
  refine ⟨nodup,?_,?_,?_,endOf_snoc.symm⟩
  · intro before after split
    rcases eq_nil_or_concat after with rfl | ⟨rest,last,rfl⟩
    · rw [append_nil] at split
      rw [← split,endOf_snoc,append_next,update_of_ne apart.symm,update_self]
      rfl
    · rw [concat_eq_append,← append_assoc] at split
      obtain ⟨same,rfl⟩ := append_inj' split rfl |>.imp_right singleton_inj.mp
      subst same
      rcases eq_nil_or_concat rest with rfl | ⟨inner,other,rfl⟩
      · rw [append_nil] at shows
        rw [← shows.tail,append_next,update_self]
        rfl
      · have here := shows.next before _ rfl
        rw [append_next_of_ne,here]
        · simp
        · rw [shows.tail]
          exact endOf_append_ne shows.distinct (by simp)
        · exact endOf_ne fun inside => absent (mem_append_left _ inside)
  · intro before other after split
    rcases eq_nil_or_concat after with rfl | ⟨rest,last,rfl⟩
    · obtain ⟨rfl,same⟩ := append_inj' split rfl
      obtain rfl := singleton_inj.mp same
      rw [append_prev,update_self,shows.tail]
    · rw [concat_eq_append,← cons_append,← append_assoc] at split
      obtain ⟨rfl,-⟩ := append_inj' split rfl
      have ne : other ≠ value := fun same => absent (same ▸ mem_append_right _ mem_cons_self)
      rw [append_prev,update_of_ne ne]
      exact shows.prev before other rest rfl
  · intro other missing
    have unlisted : other ∉ list := fun inside => missing (mem_append_left _ inside)
    have ne : other ≠ value := fun same => missing (same ▸ mem_append_right _ mem_cons_self)
    obtain ⟨front,behind⟩ := shows.outside other unlisted
    refine ⟨(update_of_ne ne _ _).trans front,?_⟩
    rw [append_next_of_ne,behind]
    · exact fun same => endOf_ne unlisted (shows.tail ▸ same.symm)
    · exact fun same => ne (Node.element.inj same)

variable {front : Node α}

theorem unlink_next : (linked.unlink value front).next =
    update (update linked.next front (linked.next (.element value))) (.element value) none := rfl

theorem unlink_prev_self : (linked.unlink value front).prev value = none := update_self _ _ _

variable {other : α}

theorem unlink_prev_behind (apart : other ≠ value)
    (behind : linked.next (.element value) = some other) :
    (linked.unlink value front).prev other = some front := by
  unfold unlink
  rw [behind]
  exact (update_of_ne apart _ _).trans (update_self _ _ _)

theorem unlink_prev_of_ne (apart : other ≠ value) (behind : linked.next (.element value) ≠ some other) :
    (linked.unlink value front).prev other = linked.prev other := by
  refine (update_of_ne apart _ _).trans ?_
  generalize linked.next (.element value) = next at behind
  cases next with
  | none => rfl
  | some next => exact update_of_ne (fun same => behind (congrArg some same.symm)) _ _

variable {before after : List α}

theorem unlink_next_of_ne (other : node ≠ .element value) (another : node ≠ front) :
    (linked.unlink value front).next node = linked.next node := by
  rw [unlink_next,update_of_ne other,update_of_ne another]

section
variable (shows : linked.Represents (before ++ value::after))
include shows

variable {first second : List α}

theorem Represents.unlink_next (split : before ++ after = first ++ second) :
    (linked.unlink value (endOf before)).next (endOf first) = second.head? := by
  obtain ⟨nodup,apart⟩ := nodup_cons.mp (nodup_middle.mp shows.distinct)
  simp only [mem_append,not_or] at nodup
  have atFront : (linked.unlink value (endOf before)).next (endOf before) = after.head? := by
    rw [Linked.unlink_next,update_of_ne (endOf_ne nodup.1),update_self,shows.behind]
  rcases append_eq_append_iff.mp split with ⟨between,rfl,rfl⟩ | ⟨between,rfl,rfl⟩
  · by_cases empty : between = []
    · subst empty
      rw [append_nil,atFront,nil_append]
    · have same : endOf (before ++ between) = endOf (before ++ value::between) := by
        rw [endOf_append empty,← singleton_append,← append_assoc,endOf_append empty]
      rw [unlink_next_of_ne,same]
      · exact shows.next (before ++ value::between) second (by simp)
      · apply endOf_ne
        simp only [mem_append,not_or] at nodup ⊢
        exact ⟨nodup.1,nodup.2.1⟩
      · rw [← append_assoc] at apart
        exact (endOf_append_ne apart.of_append_left empty).symm
  · by_cases empty : between = []
    · subst empty
      simpa using atFront
    · rw [unlink_next_of_ne,shows.next first (between ++ value::after) (by simp)]
      · rw [head?_append_of_ne_nil _ empty,head?_append_of_ne_nil _ empty]
      · exact endOf_ne fun inside => nodup.1 (mem_append_left _ inside)
      · exact endOf_append_ne apart.of_append_left empty

theorem Represents.unlink_prev (split : before ++ after = first ++ other::second) :
    (linked.unlink value (endOf before)).prev other = some (endOf first) := by
  obtain ⟨missing,apart⟩ := nodup_cons.mp (nodup_middle.mp shows.distinct)
  have ne : other ≠ value := by
    rintro rfl
    exact missing (split ▸ mem_append_right _ mem_cons_self)
  have behind := shows.behind
  rcases append_eq_append_iff.mp split with ⟨between,rfl,rfl⟩ | ⟨between,rfl,rest⟩
  · cases between with
    | nil => exact (unlink_prev_behind ne behind).trans (by simp)
    | cons next between =>
      have later : other ≠ next := by
        rintro rfl
        exact (nodup_cons.mp apart.of_append_right).1 (by simp)
      rw [unlink_prev_of_ne ne fun same => later (Option.some.inj (behind.symm.trans same)).symm]
      rw [shows.prev (before ++ value::next::between) other second (by simp)]
      rw [endOf_append (cons_ne_nil next between),← singleton_append,← append_assoc,
        endOf_append (cons_ne_nil next between)]
  · cases between with
    | nil =>
      subst rest
      exact (unlink_prev_behind ne behind).trans (by simp)
    | cons next between =>
      obtain ⟨rfl,-⟩ := cons.inj rest
      rw [unlink_prev_of_ne ne]
      · exact shows.prev first other (between ++ value::after) (by simp)
      · rw [behind]
        intro same
        exact disjoint_of_nodup_append apart (mem_append_right _ mem_cons_self)
          (mem_of_mem_head? same)

theorem Represents.unlink_tail : (linked.unlink value (endOf before)).tail = endOf (before ++ after) := by
  have last : endOf (before ++ value::after) = endOf (value::after) := endOf_append (cons_ne_nil _ _)
  unfold Linked.unlink
  rw [shows.behind,shows.tail,last]
  cases after with
  | nil => simp
  | cons next rest =>
    rw [endOf_append (cons_ne_nil _ _)]
    exact (endOf_append (cons_ne_nil _ _) : endOf ([value] ++ next::rest) = endOf (next::rest))

theorem Represents.unlink : (linked.unlink value (endOf before)).Represents (before ++ after) := by
  refine ⟨?_,?_,?_,?_,shows.unlink_tail⟩
  · exact (nodup_cons.mp (nodup_middle.mp shows.distinct)).2
  · exact fun _ _ split => shows.unlink_next split
  · exact fun _ _ _ split => shows.unlink_prev split
  · intro other missing
    by_cases same : other = value
    · subst same
      exact ⟨unlink_prev_self,by rw [Linked.unlink_next,update_self]⟩
    · simp only [mem_append,not_or] at missing
      obtain ⟨front,following⟩ := shows.outside other (by simp [missing,same])
      constructor
      · rw [unlink_prev_of_ne same,front]
        rw [shows.behind]
        exact fun found => missing.2 (mem_of_mem_head? found)
      · rw [unlink_next_of_ne,following]
        · exact fun found => same (Node.element.inj found)
        · exact (endOf_ne missing.1).symm

end

end

end Linked
end Mooon

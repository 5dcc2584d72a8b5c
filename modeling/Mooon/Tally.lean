import Mathlib.Logic.Function.Basic

/-! Families of `int` counters, changed one at a time, that wrap around; and when a counter that
each item of a list changes is the number of items of one sort. -/
namespace Mooon.Tally
open List Function Bool
variable {Counter Item : Type} [DecidableEq Counter]

def wrap (value : Int) : Int := value.bmod 4294967296

def change (counters : Counter → Int) (entry : Counter × Int) : Counter → Int :=
  Function.update counters entry.1 (wrap (counters entry.1 + entry.2))

def changed (counters : Counter → Int) (changes : List (Counter × Int)) : Counter → Int :=
  changes.foldl change counters

def amount (counter : Counter) : List (Counter × Int) → Int
  | [] => 0
  | entry::rest => (if entry.1 = counter then entry.2 else 0) + amount counter rest

theorem wrap_eq {value : Int} (low : -2147483648 ≤ value) (high : value < 2147483648) :
    wrap value = value := by
  apply Int.bmod_eq_of_le
  · omega
  · omega

variable (value : Int)

theorem wrap_wrap_add (added : Int) : wrap (wrap value + added) = wrap (value + added) := Int.bmod_add_bmod

theorem wrap_wrap : wrap (wrap value) = wrap value := Int.bmod_bmod

variable (counter : Counter)

theorem changed_apply (changes : List (Counter × Int)) (counters : Counter → Int)
    (range : wrap (counters counter) = counters counter) :
    changed counters changes counter = wrap (counters counter + amount counter changes) := by
  induction changes generalizing counters with
  | nil =>
    rw [amount,Int.add_zero,range]
    rfl
  | cons entry rest ih =>
    change changed (change counters entry) rest counter = _
    by_cases same : entry.1 = counter
    · have value : change counters entry counter = wrap (counters counter + entry.2) := by
        rw [change,← same,update_self]
      rw [ih _ (by rw [value,wrap_wrap]),value,wrap_wrap_add,amount,if_pos same,Int.add_assoc]
    · have value : change counters entry counter = counters counter := update_of_ne (Ne.symm same) _ _
      rw [ih _ (by rw [value,range]),value,amount,if_neg same,Int.zero_add]

theorem amount_append (first second : List (Counter × Int)) :
    amount counter (first ++ second) = amount counter first + amount counter second := by
  induction first with
  | nil => exact (Int.zero_add _).symm
  | cons entry rest ih => rw [cons_append,amount,amount,ih,Int.add_assoc]

theorem amount_singleton (changed : Counter) (value : Int) :
    amount counter [(changed,value)] = if changed = counter then value else 0 := Int.add_zero _

theorem amount_of_ne {counter : Counter} {changes : List (Counter × Int)}
    (others : ∀ entry ∈ changes, entry.1 ≠ counter) : amount counter changes = 0 := by
  induction changes with
  | nil => rfl
  | cons entry rest ih =>
    obtain ⟨first,later⟩ := forall_mem_cons.mp others
    rw [amount,if_neg first,ih later]
    rfl

section
variable {counter : Counter} {changes : Item → List (Counter × Int)} {items : List Item}

theorem amount_flatMap_bounds
    (each : ∀ item ∈ items, -1 ≤ amount counter (changes item) ∧ amount counter (changes item) ≤ 1) :
    -(items.length : Int) ≤ amount counter (items.flatMap changes) ∧
      amount counter (items.flatMap changes) ≤ items.length := by
  induction items with
  | nil => exact ⟨Int.le_refl 0,Int.le_refl 0⟩
  | cons item rest ih =>
    obtain ⟨first,later⟩ := forall_mem_cons.mp each
    have bounds := ih later
    rw [flatMap_cons,amount_append,length_cons]
    omega

variable {sort : Item → Bool}

section
variable (each : ∀ item ∈ items, amount counter (changes item) ≤ (sort item).toInt)
include each

theorem amount_flatMap_le :
    amount counter (items.flatMap changes) ≤ items.countP sort := by
  induction items with
  | nil => exact Int.le_refl 0
  | cons item rest ih =>
    obtain ⟨first,later⟩ := forall_mem_cons.mp each
    have bound := ih later
    rw [flatMap_cons,amount_append,countP_cons]
    cases holds : sort item with
    | true =>
      rw [holds,toInt_true] at first
      simp only [if_true]
      omega
    | false =>
      rw [holds,toInt_false] at first
      omega

theorem amount_flatMap_iff :
    amount counter (items.flatMap changes) = items.countP sort ↔
      ∀ item ∈ items, amount counter (changes item) = (sort item).toInt := by
  induction items with
  | nil => exact iff_of_true rfl (by simp)
  | cons item rest ih =>
    obtain ⟨first,later⟩ := forall_mem_cons.mp each
    have bound := amount_flatMap_le later
    rw [forall_mem_cons,← ih later,flatMap_cons,amount_append,countP_cons]
    cases holds : sort item with
    | true =>
      rw [holds,toInt_true] at first
      simp only [if_true,toInt_true]
      omega
    | false =>
      rw [holds,toInt_false] at first
      simp only [false_eq_true,if_false,toInt_false]
      omega

end

end

end Mooon.Tally

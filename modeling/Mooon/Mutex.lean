import Mathlib.Logic.Function.Basic

/-! Locks that at most one thread holds at a time. A thread is known by the point of the program
where it is, and a lock is needed at some of the points: its owner is the thread that is at one of
them, if there is one. -/
namespace Mooon.Mutex
open Function
variable {Thread Point : Type}

def Owned (needs : Point → Prop) (owner : Option Thread) (point : Thread → Point) : Prop :=
  ∀ thread, needs (point thread) ↔ owner = some thread

section
variable {needs : Point → Prop} {owner : Option Thread} {point : Thread → Point}
  {thread other : Thread} {next : Point}

theorem Owned.free (outside : ∀ thread, ¬ needs (point thread)) : Owned needs none point := by
  intro thread
  simp [outside thread]

theorem Owned.unique (owned : Owned needs owner point) (first : needs (point thread))
    (second : needs (point other)) : thread = other := by
  rw [owned] at first second
  exact Option.some.inj (first.symm.trans second)

variable [DecidableEq Thread]

theorem Owned.keeps (owned : Owned needs owner point) (same : needs next ↔ needs (point thread)) :
    Owned needs owner (update point thread next) := by
  intro other
  by_cases own : other = thread
  · rw [own,update_self,same]
    exact owned thread
  · rw [update_of_ne own]
    exact owned other

theorem Owned.takes (owned : Owned needs none point) (needed : needs next) :
    Owned needs (some thread) (update point thread next) := by
  intro other
  by_cases own : other = thread
  · rw [own,update_self]
    exact iff_of_true needed rfl
  · rw [update_of_ne own,owned]
    simp [Ne.symm own]

theorem Owned.releases (owned : Owned needs owner point) (needed : needs (point thread))
    (gone : ¬ needs next) : Owned needs none (update point thread next) := by
  intro other
  by_cases own : other = thread
  · rw [own,update_self]
    exact iff_of_false gone (by simp)
  · rw [update_of_ne own]
    refine iff_of_false ?_ (by simp)
    intro also
    exact own (owned.unique also needed)

end

end Mooon.Mutex

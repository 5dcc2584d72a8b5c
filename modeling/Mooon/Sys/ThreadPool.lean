import Mathlib.Data.List.Basic

/-! `CThreadPool`: threads are allocated first and then started, and `destroy` counts those that
were started. -/
namespace Mooon.Sys.ThreadPool
open List

/-- What became of a thread object: whether it was started and stopped, and how often its reference
was given up. -/
structure Thread where
  started : Bool
  stopped : Bool
  released : Nat

/-- The thread objects by index, also when the array is gone. -/
structure Pool where
  threads : List Thread
  hasArray : Bool
  threadCount : Nat

def Thread.new : Thread := ⟨false,false,0⟩

def Thread.start (thread : Thread) : Thread := {thread with started := true}

def Thread.release
    (thread : Thread) : Thread := {thread with stopped := true, released := thread.released + 1}

def destroyLoop : Nat → List Thread → List Thread
  | 0, threads => threads
  | i+1, threads => destroyLoop i (threads.modify i Thread.release)

def destroy (pool : Pool) : Pool :=
  if pool.hasArray then ⟨destroyLoop pool.threadCount pool.threads,false,0⟩ else pool

/-- The loop that starts the threads that are left. It throws at one that does not start. -/
def startLoop (starts : Nat → Bool) : Nat → Pool → Pool × Bool
  | 0, pool => (pool,false)
  | left+1, pool =>
    let i := pool.threadCount
    if starts i then startLoop starts left ⟨pool.threads.modify i Thread.start,pool.hasArray,i+1⟩
    else (destroy pool,true)

def create (threadCount : UInt16) (starts : Nat → Bool) : Pool × Bool :=
  startLoop starts threadCount.toNat ⟨replicate threadCount.toNat .new,true,0⟩

/-- The index of the thread, or nothing for `NULL`; outside of the array there is no result. -/
def getThread (pool : Pool) (threadIndex : UInt16) : Option (Option Nat) :=
  if pool.threadCount = 0 then some none
  else if threadIndex.toNat > pool.threadCount then some none
  else if pool.hasArray ∧ threadIndex.toNat < pool.threads.length then some (some threadIndex.toNat)
  else none

theorem modify_replicate (change : Thread → Thread) (thread next : Thread) (count : Nat)
    (others : List Thread) :
    (replicate count thread ++ next::others).modify count change = replicate count thread ++
      change next::others := by
  induction count with
  | zero => rfl
  | succ count ih => rw [replicate_succ,cons_append,modify_succ_cons,ih,cons_append]

theorem destroyLoop_replicate (count : Nat) (thread : Thread) (others : List Thread) :
    destroyLoop count (replicate count thread ++ others) = replicate count thread.release ++ others := by
  induction count generalizing others with
  | zero => rfl
  | succ i ih =>
    rw [destroyLoop,replicate_succ',append_assoc,singleton_append,modify_replicate,ih,
      replicate_succ',append_assoc]
    rfl

theorem startLoop_cases (starts : Nat → Bool) (left started : Nat) :
    (∀ i < left, starts (started+i) = true) ∧
      startLoop starts left ⟨replicate started Thread.new.start ++ replicate left .new,true,started⟩ =
        (⟨replicate (started+left) Thread.new.start,true,started+left⟩,false) ∨
    ∃ i < left, starts (started+i) = false ∧
      startLoop starts left ⟨replicate started Thread.new.start ++ replicate left .new,true,started⟩ =
        (⟨replicate (started+i) Thread.new.start.release ++ replicate (left-i) .new,false,0⟩,true) := by
  induction left generalizing started with
  | zero => exact Or.inl ⟨nofun,by rw [replicate_zero,append_nil]; rfl⟩
  | succ left ih =>
    rw [startLoop]
    split_ifs with here
    · have moved : replicate started Thread.new.start ++ Thread.new.start :: replicate left .new =
          replicate (started+1) Thread.new.start ++ replicate left .new := by
        rw [replicate_succ',append_assoc,singleton_append]
      rw [replicate_succ,modify_replicate,moved]
      rcases ih (started+1) with ⟨all,same⟩ | ⟨i,inside,fails,same⟩
      · refine Or.inl ⟨fun i inside => ?_,by rw [same,Nat.add_right_comm]; rfl⟩
        cases i with
        | zero => exact here
        | succ i =>
          rw [← Nat.add_assoc,Nat.add_right_comm]
          exact all i (Nat.lt_of_succ_lt_succ inside)
      · rw [Nat.add_right_comm] at fails same
        exact Or.inr ⟨i+1,Nat.succ_lt_succ inside,fails,by rw [same,Nat.succ_sub_succ]; rfl⟩
    · refine Or.inr ⟨0,Nat.zero_lt_succ left,Bool.not_eq_true _ ▸ here,?_⟩
      rw [destroy,destroyLoop_replicate]
      rfl

/-- Nothing is left of the threads of a pool that could not be created. -/
structure Cleaned (pool : Pool) : Prop where
  released : ∀ thread ∈ pool.threads, thread.released = 1
  stopped : ∀ thread ∈ pool.threads, thread.started = true → thread.stopped = true
  array : pool.hasArray = false
  count : pool.threadCount = 0

structure Ready (number : Nat) (pool : Pool) : Prop where
  length : pool.threads.length = number
  count : pool.threadCount = number
  started : ∀ thread ∈ pool.threads, thread.started = true
  destroyed : ∀ thread ∈ (destroy pool).threads, thread.released = 1

/-- A thread that does not start and those behind it are not released, and the number of threads is
taken for an index. Everything else is right. -/
theorem pool_iff (threadCount : UInt16) (starts : Nat → Bool) :
    (((create threadCount starts).2 = true → Cleaned (create threadCount starts).1) ↔
      ∀ i < threadCount.toNat, starts i = true) ∧
    ((create threadCount starts).2 = false → Ready threadCount.toNat (create threadCount starts).1) ∧
    ∀ threadIndex, (∃ answer, getThread (create threadCount starts).1 threadIndex = some answer ∧
      ∀ i ∈ answer, i = threadIndex.toNat ∧ i < (create threadCount starts).1.threadCount) ↔
        (threadIndex = threadCount → threadCount ≠ 0 → ∃ i < threadCount.toNat, starts i = false) := by
  have outcome := startLoop_cases starts threadCount.toNat 0
  simp only [replicate_zero,nil_append,Nat.zero_add] at outcome
  unfold create
  rcases outcome with ⟨all,same⟩ | ⟨k,inside,fails,same⟩
  · rw [same]
    refine ⟨iff_of_true nofun all,fun _ => ⟨length_replicate,rfl,?_,?_⟩,fun threadIndex => ?_⟩
    · exact fun thread member => eq_of_mem_replicate member ▸ rfl
    · intro thread member
      have gone := destroyLoop_replicate threadCount.toNat Thread.new.start []
      rw [append_nil,append_nil] at gone
      rw [destroy,gone] at member
      exact eq_of_mem_replicate member ▸ rfl
    · have unfailed : ¬ ∃ i < threadCount.toNat, starts i = false := by
        rintro ⟨i,inside,fails⟩
        cases (all i inside).symm.trans fails
      simp only [getThread,length_replicate,unfailed,imp_false,not_not,true_and]
      split_ifs with zero above inside
      · exact iff_of_true ⟨none,rfl,nofun⟩ fun _ => UInt16.toNat_inj.mp zero
      · exact iff_of_true ⟨none,rfl,nofun⟩ fun same => absurd above (same ▸ Nat.lt_irrefl _)
      · exact iff_of_true ⟨_,rfl,fun i same => Option.some.inj same ▸ ⟨rfl,inside⟩⟩ fun same =>
          absurd inside (same ▸ Nat.lt_irrefl _)
      · refine iff_of_false (fun found => ?_) fun empty => zero ?_
        · obtain ⟨_,found,-⟩ := found
          cases found
        · rw [empty (UInt16.toNat_inj.mp (by omega))]
          rfl
  · rw [same]
    refine ⟨iff_of_false (fun cleaned => ?_) fun all => ?_,nofun,
      fun threadIndex => iff_of_true ⟨none,rfl,nofun⟩ ?_⟩
    · have leaked := (cleaned rfl).released .new (mem_append_right _ (mem_replicate.mpr ⟨by omega,rfl⟩))
      cases leaked
    · cases (all k inside).symm.trans fails
    · exact fun _ _ => ⟨k,inside,fails⟩

theorem unstarted_leaks :
    ((create 2 (· < 1)).1.threads.map Thread.released = [1,0] ∧ (create 2 (· < 1)).2 = true) ∧
    getThread (create 1 fun _ => true).1 1 = none := by
  decide

end Mooon.Sys.ThreadPool

import Mathlib.Order.Basic

/-! The absolute times that `CEvent` and `CReadWriteLock` wait until. The milliseconds are 32 bits
wide, a product of less than 1000 of them with 1000000 as well; seconds do not leave `time_t`. -/
namespace Mooon.Sys.Deadlines

structure Timespec where
  sec : Int
  nsec : Nat
deriving DecidableEq

/-- What `clock_gettime` reads. -/
structure Clock extends Timespec where
  fraction : nsec < 1000000000

inductive Call where
  | wait
  | attempt
  | timed (abstime : Timespec)
deriving DecidableEq

def ETIMEDOUT : Nat := 110

/-- The call and what its error code is answered with. -/
def outcome (pthread : Call → Nat) (call : Call) : Call × Except Nat Bool :=
  (call,if pthread call = 0 then .ok true else if pthread call =
    ETIMEDOUT then .ok false else .error (pthread call))

def addMilliseconds (now : Timespec) (millisecond : UInt32) : Timespec :=
  ⟨now.sec + (millisecond.toNat/1000 : Nat),now.nsec + millisecond.toNat%1000*1000000⟩

section
variable (pthread : Call → Nat) (now : Timespec) (millisecond : UInt32)

def timedWait : Call × Except Nat Bool :=
  if millisecond = 0 then outcome pthread .wait
  else
    let abstime := addMilliseconds now millisecond
    outcome pthread (.timed (if abstime.nsec ≥ 1000000000 then
      ⟨abstime.sec + 1,abstime.nsec%1000000000⟩ else abstime))

/-- `zero` is the call that is made for no milliseconds. -/
def timedLock (zero : Call) : Call × Except Nat Bool :=
  outcome pthread (if millisecond = 0 then zero else .timed (addMilliseconds now millisecond))

def timedLockRead : Call × Except Nat Bool := timedLock pthread now millisecond .wait
def timedLockWrite : Call × Except Nat Bool := timedLock pthread now millisecond .attempt

/-- The call gets the time that is so many milliseconds after the clock's. -/
def Exact (call : Call) : Prop :=
  ∃ abstime, call = .timed abstime ∧ abstime.nsec < 1000000000 ∧
    abstime.sec*1000000000 + abstime.nsec = now.sec*1000000000 + now.nsec + millisecond.toNat*1000000
end

variable {pthread : Call → Nat} {millisecond : UInt32}

theorem timedWait_exact {now : Clock} (pos : millisecond ≠ 0) :
    Exact now.1 millisecond (timedWait pthread now.1 millisecond).1 := by
  have fraction := now.fraction
  rw [timedWait,if_neg pos]
  dsimp only [addMilliseconds]
  split_ifs with carry
  · refine ⟨_,rfl,Nat.mod_lt _ (by decide),?_⟩
    dsimp only
    omega
  · refine ⟨_,rfl,Nat.lt_of_not_le carry,?_⟩
    dsimp only
    omega

theorem timedLock_exact {now : Clock} (pos : millisecond ≠ 0) (zero : Call) :
    Exact now.1 millisecond (timedLock pthread now.1 millisecond zero).1 ↔
      now.nsec + millisecond.toNat%1000*1000000 < 1000000000 := by
  rw [timedLock,if_neg pos]
  constructor
  · rintro ⟨_,same,normal,-⟩
    cases same
    exact normal
  · intro normal
    refine ⟨_,rfl,normal,?_⟩
    simp only [addMilliseconds]
    omega

theorem deadlines_iff (pthread : Call → Nat) (now : Clock) (millisecond : UInt32) (pos : millisecond ≠ 0) :
    Exact now.1 millisecond (timedWait pthread now.1 millisecond).1 ∧
    (Exact now.1 millisecond (timedLockRead pthread now.1 millisecond).1 ↔
      now.nsec + millisecond.toNat%1000*1000000 < 1000000000) ∧
    (Exact now.1 millisecond (timedLockWrite pthread now.1 millisecond).1 ↔
      now.nsec + millisecond.toNat%1000*1000000 < 1000000000) :=
  ⟨timedWait_exact pos,timedLock_exact pos .wait,timedLock_exact pos .attempt⟩

/-- Half a second before the next one. -/
def half : Clock := ⟨⟨0,500000000⟩,Nat.lt_of_sub_eq_succ rfl⟩

theorem deadlines_half : Exact half.1 400 (timedLockRead (fun _ => 0) half.1 400).1 :=
  (deadlines_iff (fun _ => 0) half 400 (by decide)).2.1.mpr (by decide)

/-- The lock is refused with `EINVAL`. -/
theorem deadline_unnormalised : timedLockRead (fun _ => 22) half.1 500 =
    (.timed ⟨0,1000000000⟩,.error 22) := rfl

end Mooon.Sys.Deadlines

import Mooon.Ring
import Mooon.Run

/-! `CEpollableQueue` over `CArrayQueue`: a ring buffer whose elements are counted by the bytes in a
pipe, so that `epoll` can watch it. Each operation runs under the lock. A write to a full pipe and a
read from an empty one block, and the lock is held from then on; a push that waits for room and gets
none in time is one that finds the queue full. -/
namespace Mooon.Net.EpollableQueue
open List

def eintr : Int := 4

def pipeSize : Nat := 65536

variable {α : Type} {queueMax : Nat}

structure Queue (α : Type) (queueMax : Nat) where
  rawQueue : Ring α queueMax
  pipe : Nat
  locked : Bool

def Queue.new (cell : α) (positive : 0 < queueMax) : Queue α queueMax := ⟨.empty cell positive,0,false⟩

/-- The loop around `write` and `read`: the errors of the attempts that fail, before one that does not. -/
def attempt : List Int → Option Int
  | [] => none
  | errno::rest => if errno = eintr then attempt rest else some errno

/-- A full or an empty queue refuses. -/
inductive How where
  | returned
  | refused
  | threw (errno : Int)
  | blocked
deriving DecidableEq

/-- What an operation put into the raw queue, what it stored for the caller, and how it ends. -/
structure Answer (α : Type) where
  added : List α
  taken : List α
  how : How
deriving DecidableEq

def pushBack (queue : Queue α queueMax) (elem : α) (writes : List Int) : Queue α queueMax × Answer α :=
  if room : queue.rawQueue.size < queueMax then
    match attempt writes with
    | some errno => (⟨queue.rawQueue.push elem room,queue.pipe,false⟩,⟨[elem],[],.threw errno⟩)
    | none =>
      if queue.pipe < pipeSize then
        (⟨queue.rawQueue.push elem room,queue.pipe + 1,false⟩,⟨[elem],[],.returned⟩)
      else (⟨queue.rawQueue.push elem room,queue.pipe,true⟩,⟨[elem],[],.blocked⟩)
  else (queue,⟨[],[],.refused⟩)

def doPopFront (queue : Queue α queueMax) (reads : List Int) : Queue α queueMax × Answer α :=
  if filled : 0 < queue.rawQueue.size then
    match attempt reads with
    | some errno => (queue,⟨[],[],.threw errno⟩)
    | none =>
      if queue.pipe = 0 then (⟨queue.rawQueue,0,true⟩,⟨[],[],.blocked⟩)
      else (⟨queue.rawQueue.pop filled,queue.pipe - 1,false⟩,⟨[],[queue.rawQueue.front],.returned⟩)
  else (queue,⟨[],[],.refused⟩)

/-- The loop of the array form, with `i` elements stored; the fuel is the number of elements that are left. -/
def popLoop (arraySize : Nat) (reads : Nat → List Int) :
    Nat → Nat → Queue α queueMax → Queue α queueMax × Answer α
  | 0, _, queue => (queue,⟨[],[],.refused⟩)
  | fuel+1, i, queue =>
    let (after,answer) := doPopFront queue (reads i)
    if answer.how ≠ .returned then (after,answer)
    else if i + 1 = arraySize then (after,answer)
    else
      let (last,later) := popLoop arraySize reads fuel (i+1) after
      (last,⟨[],answer.taken ++ later.taken,later.how⟩)

inductive Action (α : Type) where
  | pushBack (elem : α) (writes : List Int)
  | popFront (reads : List Int)
  | popFronts (arraySize : Nat) (reads : Nat → List Int)

def step (queue : Queue α queueMax) (action : Action α) : Queue α queueMax × Answer α :=
  if queue.locked then (queue,⟨[],[],.blocked⟩)
  else
    match action with
    | .pushBack elem writes => pushBack queue elem writes
    | .popFront reads => doPopFront queue reads
    | .popFronts arraySize reads => popLoop arraySize reads queue.rawQueue.size 0 queue

section
variable (queue : Queue α queueMax) {elem : α} {writes : List Int}

theorem pushBack_cases :
    queue.rawQueue.size = queueMax ∧ pushBack queue elem writes = (queue,⟨[],[],.refused⟩) ∨
    ∃ room : queue.rawQueue.size < queueMax, (∃ errno, attempt writes = some errno ∧
        pushBack queue elem writes =
          (⟨queue.rawQueue.push elem room,queue.pipe,false⟩,⟨[elem],[],.threw errno⟩)) ∨
      attempt writes = none ∧ queue.pipe < pipeSize ∧
        pushBack queue elem writes =
          (⟨queue.rawQueue.push elem room,queue.pipe + 1,false⟩,⟨[elem],[],.returned⟩) ∨
      attempt writes = none ∧ ¬queue.pipe < pipeSize ∧
        pushBack queue elem writes =
          (⟨queue.rawQueue.push elem room,queue.pipe,true⟩,⟨[elem],[],.blocked⟩) := by
  unfold pushBack
  by_cases room : queue.rawQueue.size < queueMax
  · rw [dif_pos room]
    refine .inr ⟨room,?_⟩
    cases tried : attempt writes with
    | some errno => exact .inl ⟨errno,rfl,rfl⟩
    | none =>
      by_cases space : queue.pipe < pipeSize
      · exact .inr (.inl ⟨rfl,space,if_pos space⟩)
      · exact .inr (.inr ⟨rfl,space,if_neg space⟩)
  · rw [dif_neg room]
    exact .inl ⟨Nat.le_antisymm queue.rawQueue.size_le (Nat.le_of_not_lt room),rfl⟩

theorem doPopFront_cases {reads : List Int} :
    queue.rawQueue.size = 0 ∧ doPopFront queue reads = (queue,⟨[],[],.refused⟩) ∨ ∃ filled :
    0 < queue.rawQueue.size,
      (∃ errno, attempt reads = some errno ∧ doPopFront queue reads = (queue,⟨[],[],.threw errno⟩)) ∨
      attempt reads = none ∧ queue.pipe = 0 ∧
        doPopFront queue reads = (⟨queue.rawQueue,0,true⟩,⟨[],[],.blocked⟩) ∨ attempt reads = none ∧
          queue.pipe ≠ 0 ∧
        doPopFront queue reads =
          (⟨queue.rawQueue.pop filled,queue.pipe - 1,false⟩,⟨[],[queue.rawQueue.front],.returned⟩) := by
  unfold doPopFront
  by_cases filled : 0 < queue.rawQueue.size
  · rw [dif_pos filled]
    refine .inr ⟨filled,?_⟩
    cases tried : attempt reads with
    | some errno => exact .inl ⟨errno,rfl,rfl⟩
    | none =>
      by_cases dry : queue.pipe = 0
      · exact .inr (.inl ⟨rfl,dry,if_pos dry⟩)
      · exact .inr (.inr ⟨rfl,dry,if_neg dry⟩)
  · rw [dif_neg filled]
    exact .inl ⟨Nat.eq_zero_of_not_pos filled,rfl⟩

variable (arraySize : Nat) (reads : Nat → List Int) (fuel i : Nat)

theorem popLoop_cases :
    popLoop arraySize reads (fuel+1) i queue = doPopFront queue (reads i) ∧
      ((doPopFront queue (reads i)).2.how ≠ .returned ∨ i + 1 = arraySize) ∨
    (doPopFront queue (reads i)).2.how = .returned ∧ i + 1 ≠ arraySize ∧
      popLoop arraySize reads (fuel+1) i queue =
        ((popLoop arraySize reads fuel (i+1) (doPopFront queue (reads i)).1).1,
          ⟨[],(doPopFront queue (reads i)).2.taken ++
            (popLoop arraySize reads fuel (i+1) (doPopFront queue (reads i)).1).2.taken,
            (popLoop arraySize reads fuel (i+1) (doPopFront queue (reads i)).1).2.how⟩) := by
  rw [popLoop]
  dsimp only
  by_cases gave : (doPopFront queue (reads i)).2.how = .returned
  · by_cases last : i + 1 = arraySize
    · refine .inl ⟨?_,.inr last⟩
      rw [if_neg (not_not.mpr gave),if_pos last]
    · refine .inr ⟨gave,last,?_⟩
      rw [if_neg (not_not.mpr gave),if_neg last]
  · refine .inl ⟨?_,.inl gave⟩
    rw [if_pos gave]

/-- What goes through the queue leaves it in the order in which it came, whatever happens to the pipe. -/
def Passes (queue : Queue α queueMax) (result : Queue α queueMax × Answer α) : Prop :=
  queue.rawQueue.contents ++ result.2.added = result.2.taken ++ result.1.rawQueue.contents

theorem pushBack_passes : Passes queue (pushBack queue elem writes) := by
  unfold Passes
  rcases pushBack_cases queue with ⟨-,same⟩ | ⟨room,⟨errno,-,same⟩ | ⟨-,-,same⟩ | ⟨-,-,same⟩⟩ <;> rw [same]
  · exact append_nil _
  all_goals exact (Ring.contents_push queue.rawQueue elem room).symm

theorem doPopFront_passes {reads : List Int} :
    Passes queue (doPopFront queue reads) ∧ (doPopFront queue reads).2.added = [] := by
  unfold Passes
  rcases doPopFront_cases queue with ⟨-,same⟩ | ⟨filled,⟨errno,-,same⟩ | ⟨-,-,same⟩ | ⟨-,-,same⟩⟩
    <;> rw [same]
  iterate 3 exact ⟨append_nil _,rfl⟩
  rw [Ring.contents_pop queue.rawQueue filled]
  exact ⟨append_nil _,rfl⟩

theorem popLoop_passes :
    Passes queue (popLoop arraySize reads fuel i queue) ∧
      (popLoop arraySize reads fuel i queue).2.added = [] := by
  induction fuel generalizing i queue with
  | zero => exact ⟨append_nil _,rfl⟩
  | succ fuel ih =>
    obtain ⟨passes,none⟩ := @doPopFront_passes _ _ queue (reads i)
    rcases popLoop_cases queue arraySize reads fuel i with ⟨same,-⟩ | ⟨-,-,same⟩
    · rw [same]
      exact ⟨passes,none⟩
    · rw [same]
      obtain ⟨later,rest⟩ := ih (doPopFront queue (reads i)).1 (i+1)
      refine ⟨?_,rfl⟩
      unfold Passes at passes later ⊢
      rw [none,append_nil] at passes
      rw [rest,append_nil] at later
      rw [append_nil,passes,later,append_assoc]

theorem step_passes (action : Action α) : Passes queue (step queue action) := by
  unfold step
  split
  · exact append_nil _
  · cases action with
    | pushBack elem writes => exact pushBack_passes queue
    | popFront reads => exact (doPopFront_passes queue).1
    | popFronts arraySize reads => exact (popLoop_passes queue arraySize reads _ 0).1

theorem step_added {queue : Queue α queueMax} (ended : (step queue (.pushBack elem writes)).2.how ≠ .refused ∧
    (step queue (.pushBack elem writes)).2.how ≠ .blocked) :
    (step queue (.pushBack elem writes)).2.added = [elem] := by
  unfold step at ended ⊢
  split_ifs at ended ⊢ with locked
  · exact absurd rfl ended.2
  · dsimp only at ended ⊢
    rcases pushBack_cases queue with ⟨-,same⟩ | ⟨room,⟨errno,-,same⟩ | ⟨-,-,same⟩ | ⟨-,-,same⟩⟩
      <;> rw [same] at ended ⊢
    exact absurd rfl ended.1

/-- Every push that returns or throws has put its element in; what was put in leaves in this order. -/
theorem run_passes (actions : List (Action α)) :
    queue.rawQueue.contents ++ (Run.outputs step queue actions).flatMap Answer.added =
        (Run.outputs step queue actions).flatMap Answer.taken ++
          (Run.final step queue actions).rawQueue.contents ∧
      ∀ elem writes answer, (.pushBack elem writes,answer) ∈ actions.zip (Run.outputs step queue actions) →
        answer.how ≠ .refused ∧ answer.how ≠ .blocked → answer.added = [elem] := by
  constructor
  · induction actions generalizing queue with
    | nil => exact append_nil _
    | cons action rest ih =>
      have first : Passes queue (step queue action) := step_passes queue action
      unfold Passes at first
      rw [Run.outputs_cons,Run.final_cons,flatMap_cons,flatMap_cons,← append_assoc,first,
        append_assoc,ih,append_assoc]
  · intro elem writes answer mem
    obtain ⟨before,rfl⟩ := Run.exists_of_mem_zip queue actions mem
    exact step_added

end

/-- After an operation there is a byte for each element, the operation is over, and the array form
has not stored more than the array has room for. -/
structure Agrees (action : Action α) (result : Queue α queueMax × Answer α) : Prop where
  bytes : result.1.pipe = result.1.rawQueue.size
  ended : result.2.how ≠ .blocked
  fits : ∀ arraySize reads, action = .popFronts arraySize reads → result.2.taken.length ≤ arraySize

/-- A push that finds room also writes, and to a pipe that is not full; an array has room, or there
is nothing for it. -/
def Allowed (queue : Queue α queueMax) : Action α → Prop
  | .pushBack _ writes => queue.rawQueue.size = queueMax ∨ attempt writes = none ∧
    queue.rawQueue.size < pipeSize
  | .popFront _ => True
  | .popFronts arraySize reads => arraySize ≠ 0 ∨ queue.rawQueue.size = 0 ∨ attempt (reads 0) ≠ none

structure Paired (queue : Queue α queueMax) : Prop where
  bytes : queue.pipe = queue.rawQueue.size
  unlocked : queue.locked = false

section
variable {queue : Queue α queueMax} (paired : Paired queue)
include paired

variable {elem : α} {writes : List Int}

theorem pushBack_agrees_iff :
    Agrees (.pushBack elem writes) (pushBack queue elem writes) ↔ Allowed queue (.pushBack elem writes) := by
  have bytes := paired.bytes
  rcases pushBack_cases queue with ⟨full,same⟩ | ⟨room,⟨errno,failed,same⟩ | ⟨written,space,same⟩ |
    ⟨written,none,same⟩⟩
  · rw [same]
    exact iff_of_true ⟨bytes,by simp,by simp⟩ (.inl full)
  · rw [same]
    refine iff_of_false ?_ ?_
    · intro agrees
      have equal : queue.pipe = queue.rawQueue.size + 1 := agrees.bytes
      omega
    · rintro (full | ⟨written,-⟩)
      · omega
      · rw [failed] at written
        cases written
  · rw [same]
    refine iff_of_true ⟨?_,by simp,by simp⟩ (.inr ⟨written,by omega⟩)
    change queue.pipe + 1 = queue.rawQueue.size + 1
    rw [bytes]
  · rw [same]
    refine iff_of_false (fun agrees => agrees.ended rfl) ?_
    rintro (full | ⟨-,space⟩)
    · omega
    · omega

theorem pushBack_paired (agrees : Agrees (.pushBack elem writes) (pushBack queue elem writes)) :
    Paired (pushBack queue elem writes).1 := by
  refine ⟨agrees.bytes,?_⟩
  rcases pushBack_cases queue with ⟨-,same⟩ | ⟨room,⟨errno,-,same⟩ | ⟨-,-,same⟩ | ⟨-,-,same⟩⟩
  · rw [same]
    exact paired.unlocked
  · rw [same]
  · rw [same]
  · rw [same] at agrees
    exact absurd rfl agrees.ended

theorem doPopFront_paired (reads : List Int) :
    Paired (doPopFront queue reads).1 ∧ (doPopFront queue reads).2.how ≠ .blocked ∧
      ((doPopFront queue reads).2.how = .returned →
        (doPopFront queue reads).1.rawQueue.size + 1 = queue.rawQueue.size ∧
          (doPopFront queue reads).2.taken.length = 1) ∧
      ((doPopFront queue reads).2.how ≠ .returned → (doPopFront queue reads).2.taken = []) := by
  have bytes := paired.bytes
  rcases doPopFront_cases queue with ⟨-,same⟩ | ⟨filled,⟨errno,-,same⟩ | ⟨-,dry,-⟩ | ⟨-,-,same⟩⟩
  · rw [same]
    exact ⟨paired,by simp,by simp,by simp⟩
  · rw [same]
    exact ⟨paired,by simp,by simp,by simp⟩
  · omega
  · rw [same]
    refine ⟨⟨?_,rfl⟩,by simp,?_,by simp⟩
    · change queue.pipe - 1 = queue.rawQueue.size - 1
      rw [bytes]
    · intro _
      refine ⟨?_,rfl⟩
      change queue.rawQueue.size - 1 + 1 = queue.rawQueue.size
      omega

end

variable {queue : Queue α queueMax}

section
variable (paired : Paired queue)
include paired

theorem popLoop_paired (arraySize : Nat) (reads : Nat → List Int) (i : Nat) :
    Paired (popLoop arraySize reads queue.rawQueue.size i queue).1 ∧
      (popLoop arraySize reads queue.rawQueue.size i queue).2.how ≠ .blocked ∧
      (i < arraySize → i + (popLoop arraySize reads queue.rawQueue.size i queue).2.taken.length ≤
        arraySize) := by
  induction held : queue.rawQueue.size generalizing i queue with
  | zero => exact ⟨paired,by simp [popLoop],by simp [popLoop]; omega⟩
  | succ fuel ih =>
    obtain ⟨next,ended,gave,otherwise⟩ := doPopFront_paired paired (reads i)
    rcases popLoop_cases queue arraySize reads fuel i with ⟨same,-⟩ | ⟨success,more,same⟩
    · rw [same]
      refine ⟨next,ended,?_⟩
      by_cases success : (doPopFront queue (reads i)).2.how = .returned
      · have := (gave success).2
        omega
      · rw [otherwise success]
        simp only [length_nil]
        omega
    · obtain ⟨less,one⟩ := gave success
      obtain ⟨last,finished,within⟩ := ih next (i+1) (by omega)
      rw [same]
      refine ⟨last,finished,?_⟩
      intro room
      rw [length_append]
      omega

theorem popFronts_agrees_iff {arraySize : Nat} {reads : Nat → List Int} :
    Agrees (.popFronts arraySize reads) (popLoop arraySize reads queue.rawQueue.size 0 queue) ↔
      Allowed queue (.popFronts arraySize reads) := by
  obtain ⟨next,ended,within⟩ := popLoop_paired paired arraySize reads 0
  have fits : Agrees (.popFronts arraySize reads) (popLoop arraySize reads queue.rawQueue.size 0 queue) ↔
      (popLoop arraySize reads queue.rawQueue.size 0 queue).2.taken.length ≤ arraySize := by
    constructor
    · exact fun agrees => agrees.fits arraySize reads rfl
    · intro fits
      refine ⟨next.bytes,ended,?_⟩
      rintro _ _ ⟨⟩
      exact fits
  rw [fits]
  by_cases room : arraySize = 0
  · rcases doPopFront_cases queue with ⟨empty,-⟩ | ⟨filled,⟨errno,failed,same⟩ | ⟨-,dry,-⟩ | ⟨read,-,same⟩⟩
    · rw [empty]
      exact iff_of_true (Nat.zero_le arraySize) (.inr (.inl empty))
    · obtain ⟨fuel,size⟩ := Nat.exists_eq_succ_of_ne_zero (Nat.ne_of_gt filled)
      refine iff_of_true ?_ (.inr (.inr (by rw [failed]; simp)))
      rcases popLoop_cases queue arraySize reads fuel 0 with ⟨loop,-⟩ | ⟨success,-⟩
      · rw [size,loop,same]
        exact Nat.zero_le arraySize
      · rw [same] at success
        cases success
    · exact absurd (paired.bytes.symm.trans dry) (Nat.ne_of_gt filled)
    · obtain ⟨fuel,size⟩ := Nat.exists_eq_succ_of_ne_zero (Nat.ne_of_gt filled)
      have some : 0 < (popLoop arraySize reads queue.rawQueue.size 0 queue).2.taken.length := by
        rcases popLoop_cases queue arraySize reads fuel 0 with ⟨loop,-⟩ | ⟨-,-,loop⟩
        · rw [size,loop,same]
          exact Nat.one_pos
        · rw [size,loop,same]
          exact Nat.succ_pos _
      refine iff_of_false (by omega) ?_
      rintro (roomy | empty | failed)
      · exact roomy room
      · exact absurd empty (Nat.ne_of_gt filled)
      · exact failed read
  · refine iff_of_true ?_ (.inl room)
    omega

variable {action : Action α}

theorem step_agrees_iff :
    Agrees action (step queue action) ↔ Allowed queue action := by
  unfold step
  rw [paired.unlocked]
  cases action with
  | pushBack elem writes => exact pushBack_agrees_iff paired
  | popFront reads =>
    obtain ⟨next,ended,-⟩ := doPopFront_paired paired reads
    exact iff_of_true ⟨next.bytes,ended,by simp⟩ trivial
  | popFronts arraySize reads => exact popFronts_agrees_iff paired

theorem step_paired
    (agrees : Agrees action (step queue action)) : Paired (step queue action).1 := by
  unfold step at agrees ⊢
  rw [paired.unlocked] at agrees ⊢
  cases action with
  | pushBack elem writes => exact pushBack_paired paired agrees
  | popFront reads => exact (doPopFront_paired paired reads).1
  | popFronts arraySize reads => exact (popLoop_paired paired arraySize reads 0).1

end

/-- In every run the queue and its pipe agree after each operation exactly when each operation is allowed. -/
theorem agrees_iff (cell : α) (positive : 0 < queueMax) (actions : List (Action α)) :
    Run.Meets (fun queue action => Agrees action (step queue action)) step (Queue.new cell positive) actions ↔
      Run.Meets Allowed step (Queue.new cell positive) actions := by
  apply Run.meets_congr Paired
  · exact fun queue action _ paired agrees => step_paired paired agrees
  · exact fun queue action _ paired => step_agrees_iff paired
  · exact ⟨rfl,rfl⟩

def twoPlaces : Queue Nat 2 := .new 0 Nat.zero_lt_two

theorem agrees_push_pop : Run.Meets (fun queue action => Agrees action (step queue action)) step twoPlaces
      [.pushBack 7 [eintr],.popFronts 5 fun _ => []] := by
  apply (agrees_iff 0 Nat.zero_lt_two [.pushBack 7 [eintr],.popFronts 5 fun _ => []]).mpr
  exact ⟨.inr ⟨rfl,by decide⟩,.inl (by decide),trivial⟩

-- an element without a byte, and two elements stored in an array of size 0
theorem queue_and_pipe_disagree :
    ((step twoPlaces (.pushBack 7 [5])).1.pipe,(step twoPlaces (.pushBack 7 [5])).1.rawQueue.size) = (0,1) ∧
      ¬Run.Meets (fun queue action => Agrees action (step queue action)) step twoPlaces [.pushBack 7 [5]] ∧
      (Run.outputs step twoPlaces [.pushBack 7 [],.pushBack 8 [],.popFronts 0 fun _ => []]).map Answer.taken =
        [[],[],[7,8]] := by
  refine ⟨by decide,?_,by decide⟩
  rintro ⟨agrees,-⟩
  exact absurd agrees.bytes (by decide)

end Mooon.Net.EpollableQueue

import Mooon.Decimal
import Mooon.Tools.QueueMover

/-! The move threads that `main` of `redis_queue_mover` starts, each with its number, and the keys
they make of it. The threads run `move_thread_proc` on the lists of the two redis; everybody else
pushes to these lists and pops from them. -/
namespace Mooon.QueueMover
open List Function

structure Setting where
  queues : UInt8
  threads : UInt8
  srcPrefix : List UInt8
  dstPrefix : List UInt8
  srcOnlyPrefix : UInt8
  dstOnlyPrefix : UInt8
  batch : Nat
  queues_range : 1 ≤ queues.toNat ∧ queues.toNat ≤ 10
  threads_range : 1 ≤ threads.toNat ∧ threads.toNat ≤ 18

def getSrcKey (setting : Setting) (i : UInt8) : List UInt8 :=
  if setting.srcOnlyPrefix = 1 then setting.srcPrefix else setting.srcPrefix ++ decimal i.toNat

def getDstKey (setting : Setting) (i : UInt8) : List UInt8 :=
  if setting.dstOnlyPrefix = 1 then setting.dstPrefix else setting.dstPrefix ++ decimal i.toNat

-- the product is an int that is stored in eight bits
def numThreads (setting : Setting) : UInt8 := setting.queues * setting.threads

/-- The loop `for (uint8_t i=0; i<num_threads; ++i)`, with enough fuel for every eight-bit number. -/
def createThreads (numThreads : UInt8) : Nat → UInt8 → List UInt8
  | 0, _ => []
  | fuel+1, i => if i < numThreads then i :: createThreads numThreads fuel (i+1) else []

def moveThreads (setting : Setting) : List UInt8 := createThreads (numThreads setting) 256 0

structure Transfer (Value : Type) where
  thread : UInt8
  key : List UInt8
  value : Value
deriving DecidableEq

/-- `reads` and `pushes` are not in the source: what the threads popped and pushed, in this order each. -/
structure System (Value : Type) where
  stop : Bool
  phase : UInt8 → Phase
  values : UInt8 → List Value
  src : List UInt8 → List Value
  dst : List UInt8 → List Value
  reads : List (Transfer Value)
  pushes : List (Transfer Value)

/-- A step of a thread, or one of the world around the threads. -/
inductive Event (Value : Type) where
  | thread (i : UInt8) (throws : Bool)
  | produce (key : List UInt8) (value : Value)
  | consume (key : List UInt8)
  | stop

variable {Value : Type}

def System.start (src dst : List UInt8 → List Value) : System Value :=
  ⟨false,fun _ => .looping,fun _ => [],src,dst,[],[]⟩

def System.view (setting : Setting) (system : System Value) (i : UInt8) : State Value :=
  ⟨system.stop,system.phase i,system.values i,system.src (getSrcKey setting i),
    system.dst (getDstKey setting i),
    [],[],[],[]⟩

def System.adopt (setting : Setting) (system : System Value) (i : UInt8) (after : State Value) :
    System Value where
  stop := system.stop
  phase := Function.update system.phase i after.phase
  values := Function.update system.values i after.values
  src := Function.update system.src (getSrcKey setting i) after.src
  dst := Function.update system.dst (getDstKey setting i) after.dst
  reads := system.reads ++ after.taken.map (⟨i,getSrcKey setting i,·⟩)
  pushes := system.pushes ++ after.appended.map (⟨i,getDstKey setting i,·⟩)

def move (setting : Setting) (system : System Value) : Event Value → System Value × Unit
  | .thread i throws =>
    if i ∈ moveThreads setting then
      (system.adopt setting i (moveThreadProc setting.batch throws (system.view setting i)),())
    else (system,())
  | .produce key value =>
    ({system with src := Function.update system.src key (lpush [value] (system.src key))},())
  | .consume key =>
    match rpop (system.dst key) with
    | none => (system,())
    | some (_,dst) => ({system with dst := Function.update system.dst key dst},())
  | .stop => ({system with stop := true},())

theorem createThreads_eq (n : UInt8) (fuel : Nat) (i : UInt8) (enough : n.toNat - i.toNat ≤ fuel) :
    createThreads n fuel i = (range' i.toNat (n.toNat - i.toNat)).map UInt8.ofNat := by
  induction fuel generalizing i with
  | zero =>
    rw [Nat.le_zero.mp enough]
    rfl
  | succ fuel ih =>
    unfold createThreads
    by_cases inside : i < n
    · have below := UInt8.lt_iff_toNat_lt.mp inside
      have small := n.toNat_lt
      have next : (i+1).toNat = i.toNat + 1 := by
        exact Nat.mod_eq_of_lt (by simpa using Nat.lt_of_le_of_lt below small)
      have rest : n.toNat - i.toNat = (n.toNat - (i+1).toNat) + 1 := by omega
      rw [if_pos inside,ih (i+1) (by omega),rest,range'_succ,map_cons,next,UInt8.ofNat_toNat]
    · have none : n.toNat - i.toNat = 0 := by
        have reached := Nat.le_of_not_lt (fun below => inside (UInt8.lt_iff_toNat_lt.mpr below))
        omega
      rw [if_neg inside,none]
      rfl

variable (setting : Setting)

theorem numThreads_toNat : (numThreads setting).toNat = setting.queues.toNat * setting.threads.toNat := by
  have bound :=
    Nat.mul_le_mul setting.queues_range.2 setting.threads_range.2
  rw [numThreads,UInt8.toNat_mul]
  exact Nat.mod_eq_of_lt (by omega)

theorem moveThreads_eq :
    moveThreads setting = (range (setting.queues.toNat * setting.threads.toNat)).map UInt8.ofNat := by
  have small := (numThreads setting).toNat_lt
  rw [moveThreads,createThreads_eq _ _ _ (by simp; omega),numThreads_toNat,range_eq_range']
  rfl

section
variable {setting : Setting}

theorem countP_srcKey (numbered : setting.srcOnlyPrefix = 0) {j : Nat}
    (inside : j < setting.queues.toNat * setting.threads.toNat) :
    (moveThreads setting).countP (fun i => getSrcKey setting i = setting.srcPrefix ++ decimal j) = 1 := by
  have bound :=
    Nat.mul_le_mul setting.queues_range.2 setting.threads_range.2
  have once :=
    count_eq_one_of_mem nodup_range (mem_range.mpr inside)
  rw [moveThreads_eq,countP_map,← once]
  apply countP_congr
  intro k mem
  have small : k < 256 := by
    have := mem_range.mp mem
    omega
  simp only [comp_apply,getSrcKey,numbered,decide_eq_true_eq,beq_iff_eq]
  rw [if_neg (by decide),append_cancel_left_eq,decimal_inj,UInt8.toNat_ofNat',Nat.mod_eq_of_lt small]

end

theorem moveThreadProc_carries (size : Nat) (throws : Bool) (state : State Value)
    (noneTaken : state.taken = [])
    (noneAppended : state.appended = []) : state.batch ++ (moveThreadProc size throws state).taken =
      (moveThreadProc size throws state).appended ++ (moveThreadProc size throws state).batch := by
  unfold moveThreadProc
  cases phase : state.phase with
  | looping | testing k =>
    dsimp only
    split
    · simp [State.batch,phase,noneTaken,noneAppended]
    · simp [State.batch,phase,noneTaken,noneAppended]
  | fetching k =>
    dsimp only [fetch]
    split
    · simp [State.batch,phase,noneTaken,noneAppended]
    · cases popped : rpop state.src with
      | none | some res => simp [State.batch,phase,noneTaken,noneAppended]
  | fetched =>
    dsimp only
    split_ifs with empty
    · simp [State.batch,phase,noneTaken,noneAppended,isEmpty_iff.mp empty]
    · simp [State.batch,phase,noneTaken,noneAppended]
  | pushing =>
    dsimp only [push]
    split
    · simp [noneTaken,noneAppended]
    · simp [State.batch,phase,noneTaken,noneAppended]
  | exited => simp [State.batch,phase,noneTaken,noneAppended]

def valuesOf (i : UInt8) (transfers : List (Transfer Value)) : List Value :=
  (transfers.filter (·.thread == i)).map Transfer.value

variable {i : UInt8}

theorem valuesOf_append {first second : List (Transfer Value)} :
    valuesOf i (first ++ second) = valuesOf i first ++ valuesOf i second := by
  simp [valuesOf]

variable {key : List UInt8} {values : List Value}

theorem valuesOf_same : valuesOf i (values.map (⟨i,key,·⟩)) = values := by
  simp [valuesOf,filter_map,comp_def]

theorem valuesOf_other {other : UInt8} (ne : other ≠ i) :
    valuesOf i (values.map (⟨other,key,·⟩)) = [] := by
  simp [valuesOf,ne]

/-- Every thread pops its own source key and pushes to its own destination key, what it popped and
in this order. -/
structure Carried (setting : Setting) (system : System Value) : Prop where
  reads : ∀ transfer ∈ system.reads, transfer.key = getSrcKey setting transfer.thread
  pushes : ∀ transfer ∈ system.pushes, transfer.key = getDstKey setting transfer.thread
  values : ∀ i, valuesOf i system.reads = valuesOf i system.pushes ++ (system.view setting i).batch

section
variable {setting : Setting} {sys : System Value}

theorem adopt_carried {throws : Bool} (carried : Carried setting sys) :
    Carried setting (sys.adopt setting i (moveThreadProc setting.batch throws (sys.view setting i))) := by
  have carries := moveThreadProc_carries setting.batch throws (sys.view setting i) rfl rfl
  refine ⟨?_,?_,?_⟩
  · intro transfer mem
    rcases mem_append.mp mem with old | new
    · exact carried.reads transfer old
    · obtain ⟨value,-,rfl⟩ := mem_map.mp new
      rfl
  · intro transfer mem
    rcases mem_append.mp mem with old | new
    · exact carried.pushes transfer old
    · obtain ⟨value,-,rfl⟩ := mem_map.mp new
      rfl
  · intro other
    have held := carried.values other
    simp only [System.adopt,valuesOf_append]
    by_cases same : i = other
    · subst same
      rw [valuesOf_same,valuesOf_same,held,append_assoc,carries]
      simp [State.batch,System.view]
    · rw [valuesOf_other same,valuesOf_other same,held]
      simp [State.batch,System.view,update_of_ne (Ne.symm same)]

theorem move_carried {event : Event Value} (carried : Carried setting sys) :
    Carried setting (move setting sys event).1 := by
  cases event with
  | thread i throws =>
    dsimp only [move]
    split
    · exact adopt_carried carried
    · exact carried
  | produce key value => exact ⟨carried.reads,carried.pushes,carried.values⟩
  | consume key =>
    dsimp only [move]
    split
    · exact carried
    · exact ⟨carried.reads,carried.pushes,carried.values⟩
  | stop => exact ⟨carried.reads,carried.pushes,carried.values⟩

end

variable (src dst : List UInt8 → List Value) (events : List (Event Value))

theorem run_carried :
    Carried setting (Run.final (move setting) (System.start src dst) events) := by
  apply Run.always (Carried setting)
  · exact fun sys event _ carried => move_carried carried
  · exact ⟨by simp [System.start],by simp [System.start],by simp [System.start,System.view,State.batch]⟩

/-- The threads read the keys `0` to `queues`-1 and no other, each of them by `threads` threads, and
in every run what a thread reads from a key goes to the destination key of the same number. -/
structure Serves (Value : Type) (setting : Setting) : Prop where
  each : ∀ j < setting.queues.toNat,
    (moveThreads setting).countP (fun i => getSrcKey setting i = setting.srcPrefix ++ decimal j) =
      setting.threads.toNat
  only : ∀ i ∈ moveThreads setting, ∃ j < setting.queues.toNat, getSrcKey setting i =
    setting.srcPrefix ++ decimal j
  moved : ∀ (src dst : List UInt8 → List Value) (events : List (Event Value)) (i : UInt8),
    let system := Run.final (move setting) (System.start src dst) events
    (valuesOf i system.pushes).IsPrefix (valuesOf i system.reads) ∧
      ∃ j, (∀ read ∈ system.reads, read.thread = i → read.key = setting.srcPrefix ++ decimal j) ∧
        ∀ pushed ∈ system.pushes, pushed.thread = i → pushed.key = setting.dstPrefix ++ decimal j

theorem moved_number (source : setting.srcOnlyPrefix = 0) (destination : setting.dstOnlyPrefix = 0)
    (src dst : List UInt8 → List Value) (events : List (Event Value)) (i : UInt8) :
    let sys := Run.final (move setting) (System.start src dst) events
    (valuesOf i sys.pushes).IsPrefix (valuesOf i sys.reads) ∧
      ∃ j, (∀ read ∈ sys.reads, read.thread = i → read.key = setting.srcPrefix ++ decimal j) ∧
        ∀ pushed ∈ sys.pushes, pushed.thread = i → pushed.key = setting.dstPrefix ++ decimal j := by
  have carried := run_carried setting src dst events
  refine ⟨⟨_,(carried.values i).symm⟩,i.toNat,?_,?_⟩
  · intro read mem same
    rw [carried.reads read mem,getSrcKey,if_neg (by rw [source]; decide),same]
  · intro pushed mem same
    rw [carried.pushes pushed mem,getDstKey,if_neg (by rw [destination]; decide),same]

/-- Each thread has a queue of its own: the configured queues are served as they should be only with
one thread each. -/
theorem serves_iff (setting : Setting) (source : setting.srcOnlyPrefix = 0)
    (destination : setting.dstOnlyPrefix = 0) : Serves Value setting ↔ setting.threads = 1 := by
  have queues := setting.queues_range.1
  have threads := setting.threads_range.1
  constructor
  · intro serves
    have first := Nat.mul_pos queues threads
    have one := serves.each 0 queues
    rw [countP_srcKey source first] at one
    exact UInt8.toNat_inj.mp one.symm
  · intro single
    have one : setting.threads.toNat = 1 := by rw [single]; rfl
    refine ⟨?_,?_,moved_number setting source destination⟩
    · intro j inside
      rw [countP_srcKey source (by rwa [one,Nat.mul_one]),one]
    · intro i member
      rw [moveThreads_eq,one,Nat.mul_one] at member
      obtain ⟨j,inside,rfl⟩ := mem_map.mp member
      have below := mem_range.mp inside
      have small := setting.queues_range.2
      refine ⟨j,below,?_⟩
      rw [getSrcKey,if_neg (by rw [source]; decide),UInt8.toNat_ofNat',Nat.mod_eq_of_lt (by omega)]

def threeQueues (threads : UInt8) (range : 1 ≤ threads.toNat ∧ threads.toNat ≤ 18) : Setting where
  queues := 3
  threads := threads
  srcPrefix := [113]
  dstPrefix := [114]
  srcOnlyPrefix := 0
  dstOnlyPrefix := 0
  batch := 1
  queues_range := ⟨Nat.le_of_ble_eq_true rfl,Nat.le_of_ble_eq_true rfl⟩
  threads_range := range

theorem serves_three_queues : Serves Nat (threeQueues 1 ⟨le_rfl,by decide⟩) :=
  (serves_iff (threeQueues 1 ⟨le_rfl,by decide⟩) rfl rfl).mpr rfl

-- with `threads` 2 there are six keys instead of three, and each has one thread
theorem two_threads_six_keys : moveThreads (threeQueues 2 ⟨by decide,by decide⟩) = [0,1,2,3,4,5] ∧
      ¬Serves Nat (threeQueues 2 ⟨by decide,by decide⟩) := by
  refine ⟨by decide,?_⟩
  intro serves
  have once := serves.each 0 (by decide)
  exact absurd once (by decide)

end Mooon.QueueMover

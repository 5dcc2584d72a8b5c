import Mooon.Run
import Mathlib.Data.List.Nodup
import Mathlib.Data.List.Perm.Basic

/-! `CRawMemPool`: buckets of one size in a block of memory, a stack of the free ones, and a bitmap
of those in use. -/
namespace Mooon.Sys.MemPool
open List Function

abbrev Bitmap := Nat → BitVec 8

def getBit (bitmap : Bitmap) (position : Nat) : BitVec 8 :=
  (bitmap (position/8)).sshiftRight (position%8) &&& 1#8

def test (bitmap : Bitmap) (position : Nat) : Bool := getBit bitmap position == 1#8

def setBit (bitmap : Bitmap) (position : Nat) (zero : Bool) : Bitmap :=
  let byte := bitmap (position/8)
  Function.update bitmap (position/8)
    (if zero then byte &&& ~~~(1#8 <<< (position%8)) else byte ||| 1#8 <<< (position%8))

variable {pos : Nat} {bitmap : Bitmap}

theorem test_eq : test bitmap pos = (bitmap (pos/8)).getLsbD (pos%8) := by
  have small : pos % 8 < 8 := Nat.mod_lt _ (by decide)
  rw [test,getBit,BitVec.and_one_eq_setWidth_ofBool_getLsbD,BitVec.getLsbD_sshiftRight]
  simp only [Nat.add_zero,small]
  cases (bitmap (pos/8)).getLsbD (pos%8) <;> simp

variable {other : Nat}

theorem getLsbD_place {place : Nat} (small : place < 8) :
    (1#8 <<< place).getLsbD other = decide (other = place) := by
  rw [← BitVec.twoPow_eq]
  simp [small,eq_comm]

theorem test_setBit {zero : Bool} :
    test (setBit bitmap pos zero) other = if other = pos then !zero else test bitmap other := by
  have place : pos % 8 < 8 := Nat.mod_lt _ (by decide)
  have small : other % 8 < 8 := Nat.mod_lt _ (by decide)
  rw [test_eq,test_eq,setBit]
  by_cases same : other / 8 = pos / 8
  · have here : other % 8 = pos % 8 ↔ other = pos := by omega
    rw [same,update_self]
    cases zero with
    | false =>
      rw [if_neg Bool.false_ne_true,BitVec.getLsbD_or,getLsbD_place place]
      by_cases equal : other = pos <;> simp [here,equal]
    | true =>
      rw [if_pos rfl,BitVec.getLsbD_and,BitVec.getLsbD_not,getLsbD_place place]
      by_cases equal : other = pos <;> simp [here,equal,small]
  · have apart : other ≠ pos := fun equal => same (congrArg (· / 8) equal)
    rw [update_of_ne same,if_neg apart]

theorem test_one : test (fun _ => 1#8) pos = decide (pos % 8 = 0) := by
  rw [test_eq]
  simp

/-- What `create` is called with, and where its memory is. Nothing of it overflows. -/
structure Config where
  bucketSize : Nat
  bucketNumber : Nat
  useHeap : Bool
  guardSize : Nat
  stackBottom : Nat
  sized : 0 < bucketSize
  numbered : 0 < bucketNumber
  guarded : bucketSize + guardSize < 65536
  fits : (bucketSize + guardSize) * bucketNumber < 4294967296
  mapped : bucketNumber + 8 < 4294967296

/-- The stack may be written behind its array. -/
structure Pool where
  useHeap : Bool
  bucketSize : Nat
  bucketNumber : Nat
  stackTopIndex : Nat
  availableNumber : Nat
  stackTop : Nat
  stackBottom : Nat
  bucketStack : Nat → Nat
  bucketBitmap : Bitmap

def create (config : Config) : Pool :=
  let bucketSize := config.bucketSize + config.guardSize
  { useHeap := config.useHeap
    bucketSize
    bucketNumber := config.bucketNumber
    stackTopIndex := config.bucketNumber
    availableNumber := config.bucketNumber
    stackTop := config.stackBottom + bucketSize * (config.bucketNumber - 1)
    stackBottom := config.stackBottom
    bucketStack := fun i => config.stackBottom + bucketSize * i
    bucketBitmap := fun _ => 1#8 }

inductive Memory where
  | bucket (address : Nat)
  | heap
  | null
deriving DecidableEq

def allocate (pool : Pool) : Pool × Memory :=
  if pool.stackTopIndex = 0 then (pool,if pool.useHeap then .heap else .null)
  else
    let ptr := pool.bucketStack (pool.stackTopIndex - 1)
    let bitmapIndex := (ptr - pool.stackBottom) / pool.bucketSize
    ({pool with
      availableNumber := pool.availableNumber - 1
      stackTopIndex := pool.stackTopIndex - 1
      bucketBitmap := setBit pool.bucketBitmap bitmapIndex false},.bucket ptr)

def reclaim (ptr : Nat) (pool : Pool) : Pool × Bool :=
  if ptr < pool.stackBottom ∨ pool.stackTop < ptr then (pool,pool.useHeap)
  else if (ptr - pool.stackBottom) % pool.bucketSize ≠ 0 then (pool,false)
  else
    let bitmapIndex := (ptr - pool.stackBottom) / pool.bucketSize
    if test pool.bucketBitmap bitmapIndex then
      ({pool with
        availableNumber := pool.availableNumber + 1
        stackTopIndex := pool.stackTopIndex + 1
        bucketStack := Function.update pool.bucketStack pool.stackTopIndex ptr
        bucketBitmap := setBit pool.bucketBitmap bitmapIndex true},true)
    else (pool,true)

/-- The pool, the buckets that were allocated and not reclaimed since, and those that were ever allocated. -/
structure State where
  pool : Pool
  used : List Nat
  touched : List Nat

def State.created (config : Config) : State := ⟨create config,[],[]⟩

inductive Action where
  | allocate
  | reclaim (address : Nat)
deriving DecidableEq

inductive Answer where
  | allocated (memory : Memory)
  | reclaimed (done : Bool)
deriving DecidableEq

def step (state : State) : Action → State × Answer
  | .allocate =>
    match allocate state.pool with
    | (pool,.bucket address) =>
      (⟨pool,address::state.used,address::state.touched⟩,.allocated (.bucket address))
    | (pool,memory) => ({state with pool},.allocated memory)
  | .reclaim address =>
    let (pool,done) := reclaim address state.pool
    (⟨pool,state.used.erase address,state.touched⟩,.reclaimed done)

def Pool.free (pool : Pool) : List Nat := (List.range pool.stackTopIndex).map pool.bucketStack

def Pool.bucket (pool : Pool) (index : Nat) : Nat := pool.stackBottom + pool.bucketSize * index

def Pool.buckets (pool : Pool) : List Nat := (List.range pool.bucketNumber).map pool.bucket

structure Tidy (state : State) : Prop where
  buckets : ∀ address ∈ state.pool.free, address ∈ state.pool.buckets
  distinct : state.pool.free.Nodup
  unused : ∀ address ∈ state.pool.free, address ∉ state.used
  counted : state.pool.availableNumber = state.pool.free.length
  bounded : state.pool.availableNumber ≤ state.pool.bucketNumber

/-- No bucket in use is allocated, and the pool changes only when one is reclaimed. -/
def Proper (state : State) (action : Action) : Prop :=
  Tidy (step state action).1 ∧
    match action with
    | .allocate => ∀ address, (step state action).2 = .allocated (.bucket address) → address ∉ state.used
    | .reclaim address => address ∉ state.used → (step state action).1.pool = state.pool

/-- A bucket at every eighth place is reclaimed only after it was allocated. -/
def Allowed (state : State) : Action → Prop
  | .allocate => True
  | .reclaim address =>
    ∀ index < state.pool.bucketNumber, address = state.pool.bucket index → index % 8 = 0 →
      address ∈ state.touched

instance (state : State) : (action : Action) → Decidable (Allowed state action)
  | .allocate => inferInstanceAs (Decidable True)
  | .reclaim address => inferInstanceAs (Decidable (∀ index < state.pool.bucketNumber,
      address = state.pool.bucket index → index % 8 = 0 → address ∈ state.touched))

/-- The free buckets and those in use are all the buckets, and the bits say which are in use, but
for those that were not allocated yet. -/
structure Exact (state : State) : Prop where
  sized : 0 < state.pool.bucketSize
  numbered : 0 < state.pool.bucketNumber
  top : state.pool.stackTop = state.pool.bucket (state.pool.bucketNumber - 1)
  available : state.pool.availableNumber = state.pool.stackTopIndex
  parted : (state.pool.free ++ state.used).Perm state.pool.buckets
  touched : ∀ address ∈ state.used, address ∈ state.touched
  bits : ∀ index < state.pool.bucketNumber, test state.pool.bucketBitmap index = true ↔
    state.pool.bucket index ∈ state.used ∨ index % 8 = 0 ∧ state.pool.bucket index ∉ state.touched

variable {pool : Pool}

section
variable (sized : 0 < pool.bucketSize)
include sized

theorem bucket_place (index : Nat) :
    (pool.bucket index - pool.stackBottom) / pool.bucketSize = index := by
  rw [Pool.bucket,Nat.add_sub_cancel_left,Nat.mul_div_cancel_left _ sized]

theorem bucket_inj {index : Nat} :
    pool.bucket index = pool.bucket other ↔ index = other := by
  refine ⟨?_,congrArg pool.bucket⟩
  intro same
  rw [← bucket_place sized index,same,bucket_place sized]

theorem nodup_buckets : pool.buckets.Nodup :=
  List.Nodup.map (fun _ _ same => (bucket_inj sized).mp same) nodup_range

end

theorem mem_buckets {addr : Nat} :
    addr ∈ pool.buckets ↔ ∃ index < pool.bucketNumber, addr = pool.bucket index := by
  simp only [Pool.buckets,mem_map,mem_range,eq_comm]

theorem created_exact {cfg : Config} : Exact (.created cfg) := by
  refine ⟨Nat.add_pos_left cfg.sized _,cfg.numbered,rfl,rfl,?_,?_,?_⟩
  · exact List.Perm.of_eq (append_nil _)
  · exact fun _ inside => absurd inside not_mem_nil
  · intro index _
    have fresh : test (State.created cfg).pool.bucketBitmap index = decide (index % 8 = 0) := test_one
    rw [fresh]
    simp [State.created]

theorem map_range_push {stack : Nat → Nat} {top ptr : Nat} :
    (range (top+1)).map (update stack top ptr) = (range top).map stack ++ [ptr] := by
  have below : ∀ index ∈ range top, update stack top ptr index = stack index := by
    intro index inside
    exact update_of_ne (Nat.ne_of_lt (mem_range.mp inside)) _ _
  rw [range_succ,map_append,map_congr_left below,map_singleton,update_self]

namespace Exact
variable {state : State} (sound : Exact state)
include sound

theorem distinct : (state.pool.free ++ state.used).Nodup :=
  sound.parted.nodup_iff.mpr (nodup_buckets sound.sized)

variable {addr : Nat}

theorem place_of_used (inUse : addr ∈ state.used) :
    ∃ index < state.pool.bucketNumber, addr = state.pool.bucket index :=
  mem_buckets.mp (sound.parted.subset (mem_append_right _ inUse))

theorem tidy : Tidy state := by
  obtain ⟨free,-,apart⟩ := nodup_append'.mp sound.distinct
  have length : state.pool.free.length = state.pool.stackTopIndex := by simp [Pool.free]
  refine ⟨?_,free,fun addr there => apart there,?_,?_⟩
  · exact fun addr there => sound.parted.subset (mem_append_left _ there)
  · rw [sound.available,length]
  · have all := sound.parted.length_eq
    rw [length_append,Pool.buckets,length_map,length_range] at all
    rw [sound.available]
    omega

theorem allocate_some {rest : Nat} (filled : state.pool.stackTopIndex = rest + 1) :
    ∃ index < state.pool.bucketNumber, state.pool.bucket index ∉ state.used ∧
      step state .allocate = (⟨{state.pool with
          availableNumber := rest
          stackTopIndex := rest
          bucketBitmap := setBit state.pool.bucketBitmap index false},
        state.pool.bucket index::state.used,state.pool.bucket index::state.touched⟩,
        .allocated (.bucket (state.pool.bucket index))) ∧
      state.pool.free = (range rest).map state.pool.bucketStack ++ [state.pool.bucket index] := by
  have free : state.pool.free = (range rest).map state.pool.bucketStack ++ [state.pool.bucketStack rest] := by
    rw [Pool.free,filled,range_succ,map_append,map_singleton]
  have there := free ▸ mem_append_right _ mem_cons_self
  obtain ⟨index,inside,place⟩ := mem_buckets.mp (sound.tidy.buckets _ there)
  refine ⟨index,inside,place ▸ sound.tidy.unused _ there,?_,place ▸ free⟩
  have available := sound.available
  simp only [step,allocate,filled,available,Nat.add_one_ne_zero,if_false,Nat.add_sub_cancel,place,
    bucket_place sound.sized]

omit sound in
theorem allocate_none (empty : state.pool.stackTopIndex = 0) :
    step state .allocate = (state,.allocated (if state.pool.useHeap then .heap else .null)) := by
  cases heap : state.pool.useHeap <;> simp [step,allocate,empty,heap]

theorem allocate : Exact (step state .allocate).1 := by
  cases top : state.pool.stackTopIndex with
  | zero =>
    rw [allocate_none top]
    exact sound
  | succ rest =>
    obtain ⟨index,inside,unused,stepped,free⟩ := sound.allocate_some top
    have parted := sound.parted
    rw [free,append_assoc] at parted
    rw [stepped]
    refine ⟨sound.sized,sound.numbered,sound.top,rfl,parted,?_,?_⟩
    · exact forall_mem_cons.mpr ⟨mem_cons_self,
        fun addr inUse => mem_cons_of_mem _ (sound.touched addr inUse)⟩
    · intro other small
      change test (setBit state.pool.bucketBitmap index false) other = true ↔
        state.pool.bucket other ∈ state.pool.bucket index::state.used ∨
          other % 8 = 0 ∧ state.pool.bucket other ∉ state.pool.bucket index::state.touched
      rw [test_setBit,mem_cons,mem_cons,bucket_inj sound.sized]
      by_cases same : other = index
      · simp [same]
      · simpa [same] using sound.bits other small

theorem reclaim_bucket {index : Nat} (inside : index < state.pool.bucketNumber) :
    (reclaim (state.pool.bucket index) state.pool).1 =
      if test state.pool.bucketBitmap index then
        {state.pool with
          availableNumber := state.pool.availableNumber + 1
          stackTopIndex := state.pool.stackTopIndex + 1
          bucketStack := update state.pool.bucketStack state.pool.stackTopIndex (state.pool.bucket index)
          bucketBitmap := setBit state.pool.bucketBitmap index true}
      else state.pool := by
  have low : ¬(state.pool.bucket index < state.pool.stackBottom ∨
      state.pool.stackTop < state.pool.bucket index) := by
    have high : state.pool.bucketSize * index ≤ state.pool.bucketSize * (state.pool.bucketNumber - 1) :=
      Nat.mul_le_mul_left _ (by omega)
    rw [sound.top,Pool.bucket,Pool.bucket]
    omega
  have aligned : ¬(state.pool.bucket index - state.pool.stackBottom) % state.pool.bucketSize ≠ 0 := by
    rw [Pool.bucket,Nat.add_sub_cancel_left,Nat.mul_mod_right]
    exact not_not.mpr rfl
  rw [reclaim]
  dsimp only
  rw [bucket_place sound.sized]
  split_ifs <;> rfl

theorem reclaim_other (foreign : addr ∉ state.pool.buckets) : (reclaim addr state.pool).1 = state.pool := by
  unfold reclaim
  split_ifs with outside misaligned
  · rfl
  · rfl
  · exfalso
    apply foreign
    rw [sound.top,Pool.bucket] at outside
    have place := Nat.mod_add_div (addr - state.pool.stackBottom) state.pool.bucketSize
    rw [not_not.mp misaligned,Nat.zero_add] at place
    have low : (addr - state.pool.stackBottom) / state.pool.bucketSize ≤ state.pool.bucketNumber - 1 := by
      apply Nat.div_le_of_le_mul
      omega
    refine mem_buckets.mpr ⟨(addr - state.pool.stackBottom) / state.pool.bucketSize,?_,?_⟩
    · have numbered := sound.numbered
      omega
    · rw [Pool.bucket]
      omega

theorem reclaim_unset (unset : ∀ index < state.pool.bucketNumber, addr = state.pool.bucket index →
    test state.pool.bucketBitmap index = false) : (reclaim addr state.pool).1 = state.pool := by
  by_cases known : addr ∈ state.pool.buckets
  · obtain ⟨index,inside,rfl⟩ := mem_buckets.mp known
    rw [sound.reclaim_bucket inside,unset index inside rfl]
    rfl
  · exact sound.reclaim_other known

theorem reclaim_used (inUse : addr ∈ state.used) : Exact (step state (.reclaim addr)).1 := by
  obtain ⟨index,inside,rfl⟩ := sound.place_of_used inUse
  have set := (sound.bits index inside).mpr (Or.inl inUse)
  have once := (nodup_append'.mp sound.distinct).2.1
  have available := sound.available
  change Exact ⟨(reclaim (state.pool.bucket index) state.pool).1,state.used.erase _,state.touched⟩
  rw [sound.reclaim_bucket inside,if_pos set]
  refine ⟨sound.sized,sound.numbered,sound.top,congrArg (· + 1) available,?_,?_,?_⟩
  · change ((range (state.pool.stackTopIndex + 1)).map (update state.pool.bucketStack _ _) ++ _).Perm _
    rw [map_range_push,append_assoc]
    exact ((perm_cons_erase inUse).symm.append_left _).trans sound.parted
  · exact fun addr there => sound.touched addr (mem_of_mem_erase there)
  · intro other small
    change test (setBit state.pool.bucketBitmap index true) other = true ↔
      state.pool.bucket other ∈ state.used.erase (state.pool.bucket index) ∨
        other % 8 = 0 ∧ state.pool.bucket other ∉ state.touched
    rw [test_setBit,once.mem_erase_iff,Ne,bucket_inj sound.sized]
    by_cases same : other = index
    · simp [same,sound.touched _ inUse]
    · simpa [same] using sound.bits other small

omit sound in
theorem reclaim_unused (unused : addr ∉ state.used)
    (same : (reclaim addr state.pool).1 = state.pool) : (step state (.reclaim addr)).1 = state := by
  change State.mk (reclaim addr state.pool).1 (state.used.erase addr) state.touched = state
  rw [same,erase_of_not_mem unused]

theorem unset_of_allowed (unused : addr ∉ state.used) (allowed : Allowed state (.reclaim addr)) :
    ∀ index < state.pool.bucketNumber, addr = state.pool.bucket index →
      test state.pool.bucketBitmap index = false := by
  rintro index inside rfl
  rw [← Bool.not_eq_true,sound.bits index inside]
  rintro (inUse | ⟨eighth,untouched⟩)
  · exact unused inUse
  · exact untouched (allowed index inside rfl eighth)

variable {act : Action}

theorem step_exact (allowed : Allowed state act) : Exact (step state act).1 := by
  cases act with
  | allocate => exact sound.allocate
  | reclaim addr =>
    by_cases inUse : addr ∈ state.used
    · exact sound.reclaim_used inUse
    · rw [reclaim_unused inUse (sound.reclaim_unset (sound.unset_of_allowed inUse allowed))]
      exact sound

theorem allowed_iff : Allowed state act ↔ Proper state act := by
  constructor
  · intro allowed
    refine ⟨(sound.step_exact allowed).tidy,?_⟩
    cases act with
    | allocate =>
      intro addr replied
      cases top : state.pool.stackTopIndex with
      | zero =>
        rw [allocate_none top] at replied
        split_ifs at replied
        all_goals cases replied
      | succ rest =>
        obtain ⟨index,-,unused,stepped,-⟩ := sound.allocate_some top
        rw [stepped] at replied
        cases replied
        exact unused
    | reclaim addr =>
      exact fun unused => sound.reclaim_unset (sound.unset_of_allowed unused allowed)
  · intro proper
    cases act with
    | allocate => trivial
    | reclaim addr =>
      rintro index inside rfl eighth
      by_contra untouched
      have unused : state.pool.bucket index ∉ state.used := fun inUse => untouched (sound.touched _ inUse)
      have unchanged : (reclaim (state.pool.bucket index) state.pool).1 = state.pool := proper.2 unused
      rw [sound.reclaim_bucket inside,
        if_pos ((sound.bits index inside).mpr (Or.inr ⟨eighth,untouched⟩))] at unchanged
      exact absurd (congrArg Pool.availableNumber unchanged) (Nat.succ_ne_self _)

end Exact

/-- The pool starts tidy, and stays so in exactly the runs that reclaim no bucket of every eighth
place before it was allocated. -/
theorem bucket_in_use_once_iff (config : Config) (actions : List Action) :
    Tidy (.created config) ∧ (Run.Meets Proper step (.created config) actions ↔
      Run.Meets Allowed step (.created config) actions) := by
  refine ⟨created_exact.tidy,Iff.symm ?_⟩
  apply Run.meets_congr Exact
  · exact fun state action _ sound allowed => sound.step_exact allowed
  · exact fun state action _ sound => sound.allowed_iff
  · exact created_exact

def pair : Config := ⟨63,2,false,1,4096,by decide,Nat.two_pos,by decide,by decide,by decide⟩

def twice : List Action := [.allocate,.reclaim 4096,.allocate,.allocate]

theorem bucket_allocated_twice :
    Run.outputs step (.created pair) twice =
      [.allocated (.bucket 4160),.reclaimed true,.allocated (.bucket 4096),
        .allocated (.bucket 4096)] ∧ ¬Run.Meets Proper step (.created pair) twice := by
  refine ⟨by decide,?_⟩
  intro met
  have unchanged := congrArg Pool.availableNumber (met.2.1.2 (by decide))
  exact absurd unchanged (by decide)

end Mooon.Sys.MemPool
